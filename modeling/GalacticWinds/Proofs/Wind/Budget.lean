import GalacticWinds.Proofs.Wind.Kicks
import GalacticWinds.Proofs.Wind.Model
import GalacticWinds.Proofs.Wind.Step
import GalacticWinds.Proofs.Wind.Survey.Shared

/-! What the winds of a star carry: the gas that is weighed is the gas that is drawn for, and the
mass and energy of the launches follow from the star and the supernovae. -/

namespace GalacticWinds

open scoped List

section

variable {α : Type} [Scalar α] {cosmology : Cosmology α} {tree : Octree α} {s : Store α}

lemma around_lookAround (p : Particle α) (r : StarRecord α) :
    (lookAround cosmology tree s p r).around =
      (surveyWalk cosmology tree.diagonal).gather tree s.particles ⟨p, r⟩ :=
  rfl

lemma exists_search (p : Particle α) (n : ℕ) :
    (alone cosmology tree s p n).1.around = .zero ∨
      ∃ q : StarQuery α, q.star = p ∧ (alone cosmology tree s p n).1.around =
        (surveyWalk cosmology tree.diagonal).gather tree s.particles q := by
  induction n with
  | zero => exact .inl rfl
  | succ n ih =>
    cases hn : (alone cosmology tree s p n).2 with
    | true =>
      rw [alone_succ_of_settled hn]
      exact ih
    | false =>
      have hlast := congrArg (·.1.around) (conclude_lookAround hn)
      rw [(StarRecord.conclude_fields _ _).1] at hlast
      exact .inr ⟨⟨p, _⟩, rfl, hlast.symm.trans (around_lookAround p _)⟩

end

lemma Store.gasWithin_of_lasting {s t : Store ℝ} (h : t.lasting = s.lasting) (c : Vec ℝ) (r : ℝ) :
    t.gasWithin c r = s.gasWithin c r := by
  have hs : ∀ s : Store ℝ, s.gasWithin c r =
      (List.range s.lasting.size).filterMap fun i => s.lasting[i]?.bind fun p =>
        if p.species = .gas ∧ (c - p.pos).norm ≤ r then some (i, p.mass) else none := by
    intro s
    simp only [lasting, Array.size_map, Array.getElem?_map, Option.bind_map]
    rfl
  rw [hs, hs, h]

namespace Setting

variable (setting : Setting ℝ)

noncomputable def drawn (s : Store ℝ) (q : StarQuery ℝ) : List (Neighbour ℝ) :=
  (setting.tree.near s.particles q.gasReach).filter fun n => !decide (q.star.hsml < n.r)

variable {setting}

variable (setting) in
lemma drawn_perm {s t : Store ℝ} (h : t.lasting = s.lasting)
    (htree : setting.tree = .build s.particles) (q : StarQuery ℝ) :
    (setting.drawn t q).map (fun n => (n.index, n.particle.mass)) ~
      s.gasWithin q.star.pos q.star.hsml := by
  have hmask : q.gasReach.mask.contains .gas = true := (StarQuery.gas_contains _).mpr rfl
  rw [← Store.gasWithin_of_lasting h]
  refine .trans (.of_eq (congrArg _ ?_)) (Octree.near_within_perm t.particles hmask
    (le_refl q.star.hsml) fun n => (n.index, n.particle.mass))
  rw [drawn, htree, ← Store.build_of_lasting h]
  refine List.filter_congr fun n hn => ?_
  -- the search has left out all that is not gas
  obtain ⟨p, -, hk, -, he⟩ := (Octree.mem_near_build_iff t.particles q.gasReach n).mp hn
  have hspecies : n.particle.species = .gas := by
    rw [he]
    exact (StarQuery.gas_contains _).mp hk
  rw [decide_eq_true hspecies, Bool.true_and]

lemma isSome_kick?_iff {s : Store ℝ} {q : StarQuery ℝ} {n : Neighbour ℝ} {l : Launch ℝ}
    (hl : setting.model.launch? setting.cosmology q.record.dispersion = some l) :
    (setting.kick? s q n).isSome ↔ ¬ q.star.hsml < n.r ∧
      setting.random (q.star.id + n.particle.id) <
        l.chance q.star.mass q.record.around.gasMass ∧ (s.gas? n.index).isSome := by
  rw [kick?, hl]
  by_cases hr : q.star.hsml < n.r
  · simp [hr]
  · by_cases hd : setting.random (q.star.id + n.particle.id) <
        l.chance q.star.mass q.record.around.gasMass
    · cases s.gas? n.index with
      | none => simp [hr]
      | some g => simp [hr, hd]
    · simp [hr, hd, not_lt.mp hd]

lemma sum_mass_mul_chance (ms : List (Nat × ℝ)) (l : Launch ℝ) (starMass : ℝ) {gasMass : ℝ}
    (hpos : 0 < gasMass) :
    (ms.map fun m => m.2 * l.chance starMass gasMass).sum =
      (ms.map (·.2)).sum / gasMass * (l.efficiency * starMass) := by
  have hchance : l.chance starMass gasMass = l.efficiency * starMass / gasMass :=
    if_neg (not_le.mpr hpos)
  rw [List.sum_map_mul_right, hchance]
  ring

lemma search_of_weighed {cosmology : Cosmology ℝ} {tree : Octree ℝ} {C : Type} [Collective C]
    {s : Store ℝ} {limit : Nat} {batch : List Nat} {c : C} {task : Task ℝ C} {d : Survey ℝ}
    (h : survey cosmology tree limit batch ⟨s, c⟩ = (task, .ok d)) {i : Nat} (hi : i ∈ batch)
    (hown : s.Owned batch i) {p : Particle ℝ} (hp : s.particles[i]? = some p)
    {r : StarRecord ℝ} (hr : d.records[p.slot]? = some r) (hmass : 0 < r.around.gasMass) :
    ∃ q : StarQuery ℝ, q.star = p ∧
      r.around = (surveyWalk cosmology tree.diagonal).gather tree s.particles q := by
  obtain rfl := record_of_survey h hi hown hp hr
  rcases exists_search p d.rounds with hzero | hq
  · rw [hzero] at hmass
    exact absurd hmass (lt_irrefl 0)
  · exact hq

/-- The winds of a star are those of the gas it has weighed. When its turn comes, whatever the stars
before it have kicked, it draws for just that gas; the mass launched is on average the star's own
times the efficiency, and carries the energy that the model sets aside for it. -/
theorem winds_of_star_balance {w : Parameters ℝ} {sn : Supernovae ℝ} {model : Model ℝ}
    (hmodel : Model.derive w sn = .ok model) {cosmology : Cosmology ℝ} (ha : 0 < cosmology.a)
    (random : RandomSource ℝ) {C : Type} [Collective C] {s : Store ℝ} {limit : Nat}
    {batch : List Nat} {c : C} {task : Task ℝ C} {d : Survey ℝ}
    (h : survey cosmology (.build s.particles) limit batch ⟨s, c⟩ = (task, .ok d)) {i : Nat}
    (hi : i ∈ batch) (hown : s.Owned batch i) {p : Particle ℝ} (hp : s.particles[i]? = some p)
    {r : StarRecord ℝ} (hr : d.records[p.slot]? = some r) (hmass : 0 < r.around.gasMass)
    {l : Launch ℝ} (hl : model.launch? cosmology r.dispersion = some l) :
    let tree := Octree.build s.particles
    let setting : Setting ℝ := ⟨model, cosmology, random, tree⟩
    let gas := s.gasWithin p.pos p.hsml
    (∃ q : StarQuery ℝ, q.star = p ∧
      r.around = (surveyWalk cosmology tree.diagonal).gather tree s.particles q ∧
      r.around.gasMass = ((q.weighed tree s).map (·.particle.mass)).sum ∧
      (q.weighed tree s).map (fun n => (n.index, n.particle.mass)) ~ gas) ∧
    (∀ pre post, batch = pre ++ i :: post →
      let u := (setting.kickAll d.records pre task.store).1
      ∃ q : StarQuery ℝ, u.particles[i]? = some q.star ∧ q.star.lasting = p.lasting ∧
        q.record = r ∧
        setting.kickFrom d.records u i =
          .ok ((tree.near u.particles q.gasReach).foldl (setting.strike q) (u, 0)) ∧
        (∀ n ∈ tree.near u.particles q.gasReach, ∀ v,
          (setting.kick? v q n).isSome ↔ n ∈ setting.drawn u q ∧
            random (p.id + n.particle.id) < l.chance p.mass r.around.gasMass ∧
            (v.gas? n.index).isSome) ∧
        (setting.drawn u q).map (fun n => (n.index, n.particle.mass)) ~ gas ∧
        ((setting.drawn u q).map fun n =>
          n.particle.mass * l.chance p.mass r.around.gasMass).sum = l.efficiency * p.mass) ∧
    (model.kinetic = .fixedEfficiency →
      l.efficiency * (l.speed / cosmology.a) ^ 2 / 2 =
        w.energyFraction * sn.fraction * sn.specificEnergy / (1 - sn.fraction)) ∧
    (model.kinetic = .haloDispersion →
      l.efficiency * (l.speed / cosmology.a) ^ 2 / 2 =
        (w.sigma0 * w.speedFactor) ^ 2 / 2) := by
  intro tree setting gas
  obtain ⟨q, hstar, hq⟩ := search_of_weighed h hi hown hp hr hmass
  have hweighed := weighed_perm q s
  rw [hstar] at hweighed
  have hsum : r.around.gasMass = ((q.weighed tree s).map (·.particle.mass)).sum := by
    rw [hq, gasMass_gather]
  have hgas : r.around.gasMass = (gas.map (·.2)).sum := by
    rw [hsum, ← (hweighed.map (·.2)).sum_eq, List.map_map]
    rfl
  refine ⟨⟨q, hstar, hq, hsum, hweighed⟩, ?_, Model.energy_fixedEfficiency ha hl hmodel,
    Model.energy_haloDispersion ha hl hmodel⟩
  intro pre post _ u
  have hu : u.lasting = s.lasting := by
    have hmarks := unmarked_survey cosmology tree batch limit ⟨s, c⟩
    rw [h] at hmarks
    exact (lasting_kickAll setting d.records pre task.store).trans
      (Store.lasting_of_unmarked hmarks)
  obtain ⟨p', hp', hlasting⟩ := Store.exists_of_lasting hu hp
  have hk : p'.species = .star := by
    have hspecies : p'.species = p.species := congrArg (·.species) hlasting
    rw [hspecies]
    exact (Store.Searchable.stars (searchable_of_survey h)).star hi hp
  have hslot : p'.slot = p.slot := congrArg (·.slot) hlasting
  have hpos : p'.pos = p.pos := congrArg (·.pos) hlasting
  have hhsml : p'.hsml = p.hsml := congrArg (·.hsml) hlasting
  have hid : p'.id = p.id := congrArg (·.id) hlasting
  have hstarMass : p'.mass = p.mass := congrArg (·.mass) hlasting
  have hdrawn : (setting.drawn u ⟨p', r⟩).map (fun n => (n.index, n.particle.mass)) ~ gas := by
    have hperm := drawn_perm setting hu rfl ⟨p', r⟩
    rwa [hpos, hhsml] at hperm
  refine ⟨⟨p', r⟩, hp', hlasting, rfl, ?_, ?_, hdrawn, ?_⟩
  · exact kickFrom_star setting hp' hk (by rw [hslot, hr])
  · intro n hn v
    have hiff : (setting.kick? v ⟨p', r⟩ n).isSome ↔ _ := isSome_kick?_iff hl
    rw [hiff, drawn, List.mem_filter, Bool.not_eq_true', decide_eq_false_iff_not, hid, hstarMass,
      and_iff_right (show n ∈ setting.tree.near u.particles (StarQuery.gasReach ⟨p', r⟩) from hn)]
  · have hmap := (hdrawn.map fun m => m.2 * l.chance p.mass r.around.gasMass).sum_eq
    rw [List.map_map] at hmap
    rw [sum_mass_mul_chance gas l p.mass hmass, ← hgas, div_self hmass.ne', one_mul] at hmap
    exact hmap

/-- A star draws for all the gas that is as near as its smoothing length, also if another star has
its slot and the mass in the record is that of less gas. -/
theorem winds_of_star_unbalanced :
    ∃ w model, Model.derive w Model.halfExplode = .ok model ∧
      ∃ task d, survey .still (.build rivals.particles) 1 [0, 1] ⟨rivals, SingleTask.mk⟩ =
          (task, .ok d) ∧
        ∃ q l, task.store.particles[0]? = some q.star ∧
          d.records[q.star.slot]? = some q.record ∧ 0 < q.record.around.gasMass ∧
          model.launch? .still q.record.dispersion = some l ∧
          0 < l.efficiency * q.star.mass ∧
          ((drawn ⟨model, .still, .const 0, .build rivals.particles⟩ task.store q).map fun n =>
            n.particle.mass * l.chance q.star.mass q.record.around.gasMass).sum =
              2 * (l.efficiency * q.star.mass) := by
  obtain ⟨model, hmodel, hk, -⟩ := Model.exists_derive_usual false
  have heff : model.efficiency = 2 := by
    obtain ⟨-, -, rfl⟩ := Model.derive_eq_ok_iff.mp hmodel
    rfl
  obtain ⟨task, d, h, hr⟩ := rivals.exists_survey
  have hmarks := unmarked_survey .still (.build rivals.particles) [0, 1] 1 ⟨rivals, SingleTask.mk⟩
  rw [h] at hmarks
  obtain ⟨b, hp⟩ := Store.exists_of_unmarked hmarks rivals.star_first
  obtain ⟨-, -, hmass⟩ := rivals.alone_second
  generalize (alone .still (.build rivals.particles) rivals rivals.second 1).1 = r at hr hmass
  have hpos : 0 < r.around.gasMass := hmass.symm ▸ one_pos
  let l : Launch ℝ := ⟨model.efficiency, model.speed * Cosmology.still.a⟩
  have hl : model.launch? .still r.dispersion = some l := by
    rw [Model.launch?, hk]
  -- twice the mass in the record
  have hgas : ((rivals.gasWithin loneParticle.pos loneParticle.hsml).map (·.2)).sum = 2 := by
    rw [Store.mass_gasWithin]
    refine (rivals.mass_gasWithin 0 1).trans ?_
    norm_num
  refine ⟨_, model, hmodel, task, d, h, ⟨loneParticle.marked b, r⟩, l, hp, hr, hpos, hl, ?_, ?_⟩
  · change 0 < model.efficiency * 1
    rw [heff]
    norm_num
  · have hdrawn := (drawn_perm ⟨model, .still, .const 0, .build rivals.particles⟩
      (Store.lasting_of_unmarked hmarks) rfl ⟨loneParticle.marked b, r⟩).map
        fun m => m.2 * l.chance loneParticle.mass r.around.gasMass
    rw [List.map_map] at hdrawn
    calc _ = ((rivals.gasWithin loneParticle.pos loneParticle.hsml).map
            fun m => m.2 * l.chance loneParticle.mass r.around.gasMass).sum := hdrawn.sum_eq
      _ = 2 * (l.efficiency * loneParticle.mass) := by
        rw [sum_mass_mul_chance _ _ _ hpos, hgas, hmass, div_one]

lemma gasMass_gasAndStar : ((gasAndStar.within .gas 0 1).map (·.mass)).sum = 1 := by
  have hnorm : ((0 : Vec ℝ) - 0).norm ≤ 1 := by
    simp [Vec.norm_real, Vec.normSq_real]
  simp [Store.within, gasAndStar, Store.addStar, Store.addGas, Store.empty, Store.push,
    Store.pushGas, Particle.new, hnorm]

theorem winds_of_star_balance_gasAndStar :
    ∃ w model, Model.derive w Model.halfExplode = .ok model ∧
      ∃ limit task d, survey .still (.build gasAndStar.particles) limit [1]
          ⟨gasAndStar, SingleTask.mk⟩ = (task, .ok d) ∧
        ∃ q l, task.store.particles[1]? = some q.star ∧ d.records[0]? = some q.record ∧
          model.launch? .still q.record.dispersion = some l ∧
          ((drawn ⟨model, .still, .const 0, .build gasAndStar.particles⟩ task.store q).map
            fun n => n.particle.mass * l.chance 1 q.record.around.gasMass).sum =
              l.efficiency * 1 := by
  obtain ⟨model, hmodel, hk, -⟩ := Model.exists_derive_usual false
  have hs : gasAndStar.Filled := (Store.Filled.empty.addGas 1 1 0 0 1 1).addStar 2 1 0 0 1
  have hb : ∀ i ∈ [1], gasAndStar.Searchable i := by
    intro i hi
    obtain rfl := List.mem_singleton.mp hi
    exact ⟨_, rfl, rfl, one_pos, rfl⟩
  have hn := hs.slotted.numbered (Store.Searchable.stars hb)
  obtain ⟨task, d, -, h⟩ := exists_survey .still hn hb SingleTask.mk
  have hown := hn.own 1 List.mem_cons_self
  obtain ⟨hr, hsettled⟩ := survey_follows h List.mem_cons_self hown rfl
  have hmass := (gasMass_of_settled hsettled).trans gasMass_gasAndStar
  obtain ⟨l, hl⟩ : ∃ l, model.launch? .still (alone .still (.build gasAndStar.particles)
      gasAndStar gasAndStar.particles[1] d.rounds).1.dispersion = some l := by
    rw [Model.launch?, hk]
    exact ⟨_, rfl⟩
  obtain ⟨-, hdraw, -, -⟩ := winds_of_star_balance hmodel one_pos (.const 0) h List.mem_cons_self
    hown rfl hr (by rw [hmass]; exact one_pos) hl
  obtain ⟨q, hq, -, hrecord, -, -, -, hsum⟩ := hdraw [] [] rfl
  rw [← hrecord] at hr hl hsum
  exact ⟨_, model, hmodel, _, task, d, h, q, l, hq, hr, hl, hsum⟩

end Setting

end GalacticWinds
