import GalacticWinds.Proofs.Walk.Stars
import GalacticWinds.Proofs.Wind.Visits
import Mathlib.Data.List.ProdSigma

/-! The pass that kicks the gas of a batch of stars against the launches that follow from the store
as it was before. -/

namespace GalacticWinds.Setting

open scoped List

variable {setting : Setting ℝ} {s : Store ℝ} {ls : Nat → List (Launch ℝ)}

section

variable (setting) (s) (records : List (StarRecord ℝ))

noncomputable def visitsOf (j : Nat) : List (StarQuery ℝ × Neighbour ℝ) :=
  (StarQuery.of? s records j).toList.flatMap (setting.visits s.particles)

noncomputable def encounters (batch : List Nat) : List (StarQuery ℝ × Neighbour ℝ) :=
  batch.flatMap (setting.visitsOf s records)

variable {setting s records} {batch : List Nat}

lemma query_of_recorded (hb : s.Recorded records batch) {j : Nat} (hj : j ∈ batch) :
    ∃ q, StarQuery.of? s records j = some q ∧ s.particles[j]? = some q.star ∧
      q.star.species = .star ∧ records[q.star.slot]? = some q.record := by
  obtain ⟨t, ht, hk, hlt⟩ := hb j hj
  have hr := List.getElem?_eq_getElem hlt
  exact ⟨⟨t, records[t.slot]⟩, by rw [StarQuery.of?, ht, Option.bind_some, hr, Option.map_some],
    ht, hk, hr⟩

lemma kickFrom_aloft (htree : setting.tree = .build s.particles) (hs : s.Slotted)
    {q : StarQuery ℝ} {j : Nat} (hj : s.particles[j]? = some q.star)
    (hk : q.star.species = .star) (hr : records[q.star.slot]? = some q.record) :
    setting.kickFrom records (s.aloft setting ls) j =
      .ok (s.aloft setting fun k => ls k ++ setting.volley (setting.visits s.particles q) k,
        ((setting.visits s.particles q).filterMap setting.aim?).length) := by
  have hne : q.star.species ≠ .gas := by simp [hk]
  have ht : Target.at? (s.aloft setting ls).particles j = .ok ⟨j, q.star⟩ := by
    rw [Target.at?_eq_ok_iff, Store.getElem?_aloft, hj, Option.map_some,
      Particle.aloft_of_ne hne]
    exact ⟨rfl, rfl⟩
  have hfold : (setting.visits (s.aloft setting ls).particles q).foldl _ (s.aloft setting ls, 0) =
      _ := foldl_strike hs (fun e he => met_of_mem_visits_aloft htree he) 0
  simp only [volley_visits_aloft, filterMap_visits_aloft, Nat.zero_add] at hfold
  rw [visits, List.foldl_map] at hfold
  have hslot : (setting.kickWalk (s.aloft setting ls)).slot ⟨j, q.star⟩ = .ok q.star.slot := by
    exact if_pos hk
  rw [← hfold, kickFrom, ht]
  simp only [bind, Except.bind, Walk.visitTarget, hslot, hr]
  rfl

/-- A pass decides as if nobody had been kicked yet: its outcome is that of the visits made out
beforehand. -/
theorem kickAll_aloft (htree : setting.tree = .build s.particles) (hs : s.Slotted)
    {batch : List Nat} (hb : s.Recorded records batch) (ls : Nat → List (Launch ℝ)) :
    setting.kickAll records batch (s.aloft setting ls) =
      (s.aloft setting fun k => ls k ++ setting.volley (setting.encounters s records batch) k,
        .ok ((setting.encounters s records batch).filterMap setting.aim?).length) := by
  induction batch generalizing ls with
  | nil => simp [kickAll, encounters, volley]
  | cons j batch ih =>
    obtain ⟨q, hq, hj, hk, hr⟩ := query_of_recorded hb List.mem_cons_self
    have hmore := ih (fun i hi => hb i (List.mem_cons_of_mem j hi))
      fun k => ls k ++ setting.volley (setting.visits s.particles q) k
    have hes : setting.encounters s records (j :: batch) =
        setting.visits s.particles q ++ setting.encounters s records batch := by
      rw [encounters, List.flatMap_cons, visitsOf, hq, Option.toList_some, List.flatMap_singleton]
      rfl
    rw [kickAll, kickFrom_aloft htree hs hj hk hr]
    simp only [hmore, hes, volley_append, List.filterMap_append, List.append_assoc,
      List.length_append]
    rfl

section

variable (htree : setting.tree = .build s.particles)

include htree

lemma met_of_mem_encounters {e : StarQuery ℝ × Neighbour ℝ}
    (he : e ∈ setting.encounters s records batch) : Met s e.2 := by
  obtain ⟨j, -, he⟩ := List.mem_flatMap.mp he
  obtain ⟨q, -, he⟩ := List.mem_flatMap.mp he
  exact met_of_mem_visits htree he

lemma filterMap_visitsOf_perm (j : Nat) :
    (setting.visitsOf s records j).filterMap setting.aim? ~
      (s.placesOf .gas).filterMap (setting.launchOf? s records j) := by
  unfold visitsOf launchOf?
  cases StarQuery.of? s records j with
  | none => simp
  | some q =>
    simpa using filterMap_visits_perm htree

lemma volley_visitsOf_perm (hs : s.Slotted) {i : Nat} {p : Particle ℝ}
    (hp : s.particles[i]? = some p) (hk : p.species = .gas) (j : Nat) :
    setting.volley (setting.visitsOf s records j) p.slot ~
      (setting.launchOf? s records j i).toList := by
  rw [visitsOf, launchOf?]
  cases StarQuery.of? s records j with
  | none => exact .refl _
  | some q =>
    simpa [hp] using volley_visits_perm htree hs hp hk

lemma volley_encounters_perm (hs : s.Slotted) {i : Nat} {p : Particle ℝ}
    (hp : s.particles[i]? = some p) (hk : p.species = .gas) :
    setting.volley (setting.encounters s records batch) p.slot ~
      batch.filterMap fun j => setting.launchOf? s records j i := by
  induction batch with
  | nil => exact .refl _
  | cons j batch ih =>
    have hj : setting.volley (setting.visitsOf s records j) p.slot ~ _ :=
      volley_visitsOf_perm htree hs hp hk j
    rw [encounters, List.flatMap_cons, volley_append, ← List.singleton_append,
      List.filterMap_append]
    refine (hj.append ih).trans (.of_eq ?_)
    cases h : setting.launchOf? s records j i with
    | none => simp [h]
    | some l => simp [h]

lemma length_encounters :
    ((setting.encounters s records batch).filterMap setting.aim?).length =
      (batch ×ˢ s.placesOf .gas).countP fun e => (setting.launchOf? s records e.1 e.2).isSome := by
  induction batch with
  | nil => rfl
  | cons j batch ih =>
    rw [encounters, List.flatMap_cons, List.filterMap_append, List.length_append,
      (filterMap_visitsOf_perm htree j).length_eq, List.length_filterMap_eq_countP,
      List.product_cons, List.countP_append, List.countP_map, ← ih]
    rfl

end

lemma foldl_encounters (htree : setting.tree = .build s.particles) (hs : s.Slotted)
    {es : List (StarQuery ℝ × Neighbour ℝ)} (hes : es ~ setting.encounters s records batch) :
    es.foldl (fun s e => setting.strike e.1 s e.2) (s, 0) =
      (s.aloft setting (setting.volley (setting.encounters s records batch)),
        ((setting.encounters s records batch).filterMap setting.aim?).length) := by
  have he : ∀ e ∈ es, Met s e.2 := fun e he => met_of_mem_encounters htree (hes.mem_iff.mp he)
  have hfold : es.foldl _ (s.aloft setting fun _ => [], 0) = _ := foldl_strike hs he 0
  rw [s.aloft_nil setting] at hfold
  simp only [List.nil_append, Nat.zero_add] at hfold
  rw [hfold, (hes.filterMap _).length_eq]
  refine congrArg (·, _) (s.aloft_perm fun k => ?_)
  exact (hes.filter _).filterMap _

lemma kickAll_perm (htree : setting.tree = .build s.particles) (hs : s.Slotted)
    (hb : s.Recorded records batch) {batch' : List Nat} (h : batch' ~ batch) :
    setting.kickAll records batch' s =
      (s.aloft setting (setting.volley (setting.encounters s records batch)),
        .ok ((setting.encounters s records batch).filterMap setting.aim?).length) := by
  have hall := kickAll_aloft htree hs (fun j hj => hb j (h.mem_iff.mp hj)) (fun _ => [])
  have hes : setting.encounters s records batch' ~ setting.encounters s records batch :=
    h.flatMap_right _
  rw [s.aloft_nil setting] at hall
  rw [hall, (hes.filterMap _).length_eq]
  refine congrArg (·, _) (s.aloft_perm fun k => ?_)
  exact (hes.filter _).filterMap _

end

lemma run_kickWalk {records : List (StarRecord ℝ)} {batch : List Nat} (s₀ : Store ℝ)
    (hb : s.Recorded records batch) :
    ∃ round, (setting.kickWalk s₀).run setting.tree s.particles batch records = .ok round ∧
      round.records = records := by
  have hf : ∀ (t : Target ℝ) (r : StarRecord ℝ), t.particle.species = .star →
      (setting.kickWalk s₀).finish t r = .ok (r, false) := fun _ _ _ => rfl
  obtain ⟨ts, -, -, hrun⟩ := Walk.run_stars setting.tree rfl hb hf
  refine ⟨_, hrun, List.ext_getElem? fun slot => ?_⟩
  rw [Walk.getElem?_completed]
  cases records[slot]? with
  | none => rfl
  | some r =>
    rw [Option.map_some, Walk.outcome]
    split <;> rfl

/-- A pass gives what follows from the store and the records before it, in whatever order the
batch is taken and its visits are made: the speeds of all launches of a gas particle add up along
its own direction, the longest time of flight stays, and nothing else changes. -/
theorem kickAll_exact (model : Model ℝ) (cosmology : Cosmology ℝ) (random : RandomSource ℝ)
    {s : Store ℝ} (hs : s.Filled) {records : List (StarRecord ℝ)} {batch : List Nat}
    (hb : s.Recorded records batch) :
    let setting : Setting ℝ := ⟨model, cosmology, random, .build s.particles⟩
    let launches i := batch.filterMap fun j => setting.launchOf? s records j i
    ∃ (s' : Store ℝ) (n : Nat), setting.kickAll records batch s = (s', .ok n) ∧
      n = (batch ×ˢ s.placesOf .gas).countP
        (fun e => (setting.launchOf? s records e.1 e.2).isSome) ∧
      (∀ (i : Nat) (p : Particle ℝ), s.particles[i]? = some p → p.species = .gas →
        s'.particles[i]? = some { p with
          vel := p.vel + ((launches i).map (·.speed)).sum * randomDirection random p.id } ∧
        ∃ h, s.gasStates[p.slot]? = some h ∧ s'.gasStates[p.slot]? = some { h with
          delay :=
            ((launches i).map fun l => model.travelTime cosmology l.speed).foldl max h.delay }) ∧
      (∀ (i : Nat) (p : Particle ℝ), s.particles[i]? = some p → p.species ≠ .gas →
        s'.particles[i]? = some p) ∧
      (∀ (k : Nat) (h : SphState ℝ), s.gasStates[k]? = some h →
        ∃ delay, s'.gasStates[k]? = some { h with delay }) ∧
      s'.size = s.size ∧ s'.gasStates.size = s.gasStates.size ∧ s'.starCount = s.starCount ∧
      (∃ round, (setting.kickWalk s).run setting.tree s.particles batch records = .ok round ∧
        round.records = records) ∧
      (∀ es, es ~ setting.encounters s records batch →
        es.foldl (fun s e => setting.strike e.1 s e.2) (s, 0) = (s', n)) ∧
      ∀ batch', batch' ~ batch → setting.kickAll records batch' s = (s', .ok n) := by
  intro setting launches
  have htree : setting.tree = .build s.particles := rfl
  have hslot := hs.slotted
  refine ⟨_, _, kickAll_perm htree hslot hb (.refl _), length_encounters htree, ?_, ?_, ?_, ?_, ?_,
    rfl, ?_, fun es hes => foldl_encounters htree hslot hes,
    fun batch' h => kickAll_perm htree hslot hb h⟩
  · intro i p hp hk
    have hv : setting.volley (setting.encounters s records batch) p.slot ~ launches i :=
      volley_encounters_perm htree hslot hp hk
    obtain ⟨h, hg⟩ := hslot.gas? hp hk
    have hh : s.gasStates[p.slot]? = some h := (Store.gas?_eq_some_iff.mp hg).2.2
    refine ⟨?_, h, hh, ?_⟩
    · rw [Store.getElem?_aloft, hp, Option.map_some, p.aloft_perm hv, Particle.aloft_gas hk]
    · rw [Store.getElem?_gasStates_aloft, hh, Option.map_some, h.aloft_perm hv]
      rfl
  · intro i p hp hk
    rw [Store.getElem?_aloft, hp, Option.map_some, Particle.aloft_of_ne hk]
  · intro k h hh
    exact ⟨_, by rw [Store.getElem?_gasStates_aloft, hh, Option.map_some]; rfl⟩
  · simp [Store.size, Store.aloft]
  · simp [Store.aloft]
  · exact run_kickWalk s hb

noncomputable def gasAndStar : Store ℝ :=
  (Store.empty.addGas 1 1 0 0 1 1).addStar 2 1 0 0 1

noncomputable def fastWind : Model ℝ :=
  ⟨.fixedEfficiency, false, true, 2, 1, 100, 0, 0, 1, 1, 1⟩

lemma chance_real (l : Launch ℝ) (m w : ℝ) :
    l.chance m w = if w ≤ 0 then 0 else l.efficiency * m / w :=
  rfl

lemma launchOf?_of_gasMass {records : List (StarRecord ℝ)} {r : StarRecord ℝ}
    (hr : records[0]? = some r) (hmass : r.around.gasMass = 1) :
    launchOf? ⟨fastWind, .still, .const 0, .build gasAndStar.particles⟩ gasAndStar records 1 0 =
      some ⟨2, 100⟩ := by
  have hq : StarQuery.of? gasAndStar records 1 = some ⟨gasAndStar.particles[1], r⟩ := by
    rw [StarQuery.of?, show gasAndStar.particles[1]? = some gasAndStar.particles[1] from rfl,
      Option.bind_some, show gasAndStar.particles[1].slot = 0 from rfl, hr, Option.map_some]
  rw [launchOf?, hq, Option.bind_some]
  simp [launch?, gasAndStar, Store.addStar, Store.addGas, Store.empty, Store.push, Store.pushGas,
    Particle.new, fastWind, Cosmology.still, Model.launch?, chance_real, hmass,
    RandomSource.const, Vec.norm_real, Vec.normSq_real, Option.filter]
  norm_num

lemma launchOf?_gasAndStar :
    launchOf? ⟨fastWind, .still, .const 0, .build gasAndStar.particles⟩ gasAndStar
      [⟨.unused, ⟨1, .zero⟩, 0⟩] 1 0 = some ⟨2, 100⟩ :=
  launchOf?_of_gasMass rfl rfl

lemma randomDirection_zero (id : UInt64) :
    randomDirection (RandomSource.const (0 : ℝ)) id = ⟨0, 0, -1⟩ := by
  have hacos : Transcendental.acos (2.0 * (0 : ℝ) - 1) = Real.pi := by
    simp [Transcendental.acos]
  have hsin : Transcendental.sin Real.pi = 0 := Real.sin_pi
  have hcos : Transcendental.cos Real.pi = -1 := Real.cos_pi
  simp only [randomDirection, RandomSource.const, hacos, hsin, hcos, zero_mul]

lemma placesOf_gasAndStar : gasAndStar.placesOf .gas = [0] := rfl

theorem kickAll_gasAndStar :
    let setting : Setting ℝ := ⟨fastWind, .still, .const 0, .build gasAndStar.particles⟩
    ∃ s', setting.kickAll [⟨.unused, ⟨1, .zero⟩, 0⟩] [1, 1] gasAndStar = (s', .ok 2) ∧
      (s'.particles[0]?.map (·.vel)) = some ⟨0, 0, -200⟩ ∧
      (s'.gasStates[0]?.map (·.delay)) = some (1 / 100) := by
  intro setting
  have hs : gasAndStar.Filled := (Store.Filled.empty.addGas 1 1 0 0 1 1).addStar 2 1 0 0 1
  have hb : gasAndStar.Recorded [(⟨.unused, ⟨1, .zero⟩, 0⟩ : StarRecord ℝ)] [1, 1] := by
    intro j hj
    obtain rfl : j = 1 := by simpa using hj
    exact ⟨_, rfl, rfl, Nat.one_pos⟩
  obtain ⟨s', n, hall, rfl, hgas, -⟩ := kickAll_exact fastWind .still (.const 0) hs hb
  obtain ⟨hp, h, hh, hh'⟩ := hgas 0 _ rfl rfl
  have hcount : ([1, 1] ×ˢ gasAndStar.placesOf .gas).countP (fun e =>
      (setting.launchOf? gasAndStar [⟨.unused, ⟨1, .zero⟩, 0⟩] e.1 e.2).isSome) = 2 := by
    rw [placesOf_gasAndStar]
    change List.countP _ [(1, 0), (1, 0)] = 2
    simp [setting, launchOf?_gasAndStar]
  refine ⟨s', hall.trans (by rw [hcount]), ?_, ?_⟩
  · have hvel : gasAndStar.particles[0].vel = ⟨0, 0, 0⟩ := rfl
    rw [hp, Option.map_some]
    simp only [hvel, randomDirection_zero, launchOf?_gasAndStar, List.filterMap_cons,
      List.filterMap_nil, List.map_cons, List.map_nil, Vec.add_def, Vec.smul_def]
    norm_num
  · have hdelay : h.delay = 0 := by
      obtain rfl := Option.some.inj hh
      rfl
    rw [show (0 : Nat) = gasAndStar.particles[0].slot from rfl, hh', Option.map_some]
    simp only [hdelay, launchOf?_gasAndStar, List.filterMap_cons, List.filterMap_nil,
      List.map_cons, List.map_nil, List.foldl_cons, List.foldl_nil]
    norm_num [Model.travelTime, fastWind, Cosmology.still]

end GalacticWinds.Setting
