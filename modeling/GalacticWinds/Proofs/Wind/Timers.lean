import GalacticWinds.Proofs.Wind.Kicks
import GalacticWinds.Proofs.Wind.Model
import GalacticWinds.Proofs.Wind.Recoupling
import GalacticWinds.Proofs.Wind.Step
import GalacticWinds.Wind.Spawn

/-! The timers of the gas through the events of a run. A launch from a forming star sets a timer
anew, and what keeps it from setting it back is a bound that all timers of such a model have. -/

namespace GalacticWinds

lemma le_foldl_max (times : List ℝ) (x : ℝ) : x ≤ times.foldl max x := by
  induction times generalizing x with
  | nil => exact le_rfl
  | cons y times ih => exact (le_max_left x y).trans (ih _)

namespace Model

structure Accepted (model : Model ℝ) : Prop where
  travelLength : 0 ≤ model.travelLength
  speed : model.kinetic = .fixedEfficiency ∨ model.subgrid = true → 0 < model.speed
  speedFactor : 0 ≤ model.speedFactor

lemma accepted_of_derive {w : Parameters ℝ} {sn : Supernovae ℝ} {model : Model ℝ}
    (h : derive w sn = .ok model) : model.Accepted := by
  obtain ⟨hw, hsn, rfl⟩ := derive_eq_ok_iff.mp h
  obtain ⟨hrange, -⟩ := Parameters.fault?_eq_none_iff.mp hw
  obtain ⟨-, hspeed, -⟩ := fault?_eq_none_iff.mp hsn
  refine ⟨hrange .travelLength, fun hk => hspeed ?_, hrange .speedFactor⟩
  have hkind : w.selection.kinetic = .fixedEfficiency ∨ w.selection.subgrid = true := hk
  rw [usesSpeed, Bool.or_eq_true, decide_eq_true_iff]
  exact hkind.symm

/-- The times that a timer of this model can show. -/
structure Allows (model : Model ℝ) (time : ℝ) : Prop where
  nonneg : 0 ≤ time
  le : model.kinetic = .fixedEfficiency ∨ model.subgrid = true →
    time ≤ model.travelLength / model.speed

variable {model : Model ℝ} {cosmology : Cosmology ℝ} {x y : ℝ}

namespace Allows

lemma zero (hm : model.Accepted) : model.Allows 0 where
  nonneg := le_rfl
  le hk := div_nonneg hm.travelLength (hm.speed hk).le

lemma max (hx : model.Allows x) (hy : model.Allows y) : model.Allows (x ⊔ y) where
  nonneg := hx.nonneg.trans (le_max_left x y)
  le hk := max_le (hx.le hk) (hy.le hk)

lemma of_le (hx : model.Allows x) (hy : 0 ≤ y) (h : y ≤ x) : model.Allows y where
  nonneg := hy
  le hk := h.trans (hx.le hk)

lemma foldl_max {times : List ℝ} (ht : ∀ y ∈ times, model.Allows y) (hx : model.Allows x) :
    model.Allows (times.foldl Max.max x) := by
  induction times generalizing x with
  | nil => exact hx
  | cons y times ih =>
    apply ih
    · exact fun z hz => ht z (List.mem_cons_of_mem y hz)
    · exact hx.max (ht y List.mem_cons_self)

end Allows

variable (ha : 0 < cosmology.a)

include ha

lemma travelTime_own :
    model.travelTime cosmology (model.speed * cosmology.a) = model.travelLength / model.speed := by
  rw [travelTime, mul_div_cancel_right₀ _ ha.ne']

lemma allows_travelTime (hm : model.Accepted) (hsub : model.subgrid = false) {dispersion : ℝ}
    {l : Launch ℝ} (hl : model.launch? cosmology dispersion = some l) :
    model.Allows (model.travelTime cosmology l.speed) := by
  obtain ⟨hk, rfl⟩ | ⟨hk, hd, rfl⟩ := launch?_cases hl
  · rw [travelTime_own ha]
    exact ⟨div_nonneg hm.travelLength (hm.speed (.inl hk)).le, fun _ => le_rfl⟩
  · refine ⟨?_, fun hown => ?_⟩
    · exact div_nonneg hm.travelLength
        (div_nonneg (mul_nonneg hm.speedFactor hd.le) ha.le)
    · rcases hown with hfixed | htrue
      · exact absurd (hk.symm.trans hfixed) (by simp)
      · exact absurd (hsub.symm.trans htrue) (by simp)

omit ha

lemma spawn?_eq_some {random : RandomSource ℝ} {starMass : ℝ} {p : Particle ℝ} {h : SphState ℝ}
    {g : Particle ℝ × SphState ℝ} (hout : model.spawn? cosmology random starMass p h = some g) :
    model.subgrid = true ∧ g.1.lasting = p.lasting ∧
      g.2.delay = model.travelTime cosmology (model.speed * cosmology.a) := by
  rw [spawn?] at hout
  split_ifs at hout with hsub
  rw [← Option.some.inj hout]
  exact ⟨by simpa using hsub, rfl, rfl⟩

end Model

namespace Setting

open scoped List

variable {C : Type} [Collective C] {setting : Setting ℝ} {s : Store ℝ}

lemma lasting_aloft (s : Store ℝ) (ls : Nat → List (Launch ℝ)) :
    (s.aloft setting ls).lasting = s.lasting := by
  rw [Store.lasting, Store.aloft, Array.map_map]
  refine congrArg (s.particles.map ·) (funext fun p => ?_)
  rw [Function.comp_apply, Particle.aloft]
  split_ifs <;> rfl

lemma exists_dispersion {records : List (StarRecord ℝ)} {j i : Nat} {l : Launch ℝ}
    (h : setting.launchOf? s records j i = some l) :
    ∃ dispersion, setting.model.launch? setting.cosmology dispersion = some l := by
  obtain ⟨q, -, hq⟩ := Option.bind_eq_some_iff.mp h
  obtain ⟨p, -, hp⟩ := Option.bind_eq_some_iff.mp hq
  rw [launch?] at hp
  split_ifs at hp
  exact ⟨_, (Option.filter_eq_some_iff.mp hp).1⟩

lemma gas?_volley (hm : setting.model.Accepted) (hsub : setting.model.subgrid = false)
    (ha : 0 < setting.cosmology.a) (htree : setting.tree = .build s.particles) (hs : s.Slotted)
    (records : List (StarRecord ℝ)) (batch : List Nat) {i : Nat} {p : Particle ℝ} {h : SphState ℝ}
    (hg : s.gas? i = some (p, h)) (hx : setting.model.Allows h.delay) :
    ∃ p' h',
      (s.aloft setting (setting.volley (setting.encounters s records batch))).gas? i =
        some (p', h') ∧ setting.model.Allows h'.delay ∧ h.delay ≤ h'.delay ∧
      (h.delay < h'.delay → ∃ j ∈ batch, (setting.launchOf? s records j i).isSome) := by
  obtain ⟨hp, hk, -⟩ := Store.gas?_eq_some_iff.mp hg
  have hvolley : setting.volley (setting.encounters s records batch) p.slot ~ _ :=
    volley_encounters_perm htree hs hp hk
  have hlaunch : ∀ l ∈ setting.volley (setting.encounters s records batch) p.slot,
      ∃ j ∈ batch, setting.launchOf? s records j i = some l :=
    fun l hl => List.mem_filterMap.mp (hvolley.mem_iff.mp hl)
  refine ⟨_, _, Store.gas?_aloft _ hg, .foldl_max ?_ hx, le_foldl_max _ _, fun hlt => ?_⟩
  · intro time htime
    obtain ⟨l, hl, rfl⟩ := List.mem_map.mp htime
    obtain ⟨j, -, hj⟩ := hlaunch l hl
    obtain ⟨dispersion, hd⟩ := exists_dispersion hj
    exact Model.allows_travelTime ha hm hsub hd
  · cases hls : setting.volley (setting.encounters s records batch) p.slot with
    | nil =>
      simp only [SphState.aloft, hls] at hlt
      exact absurd hlt (lt_irrefl _)
    | cons l ls =>
      obtain ⟨j, hj, hl⟩ := hlaunch l (by simp [hls])
      exact ⟨j, hj, by rw [hl]; rfl⟩

variable (setting) in
/-- A step leaves marks alone behind, or the launches of a survey that has returned. -/
lemma step_store (htree : setting.tree = .build s.particles) (hs : s.Slotted) (limit : Nat)
    (batch : List Nat) (c : C) :
    (setting.step limit batch ⟨s, c⟩).1.store.unmarked = s.unmarked ∨
      setting.model.subgrid = false ∧ ∃ c', Collective.any c (!batch.isEmpty) = (true, c') ∧
        ∃ task d, survey setting.cosmology setting.tree limit batch ⟨s, c'⟩ = (task, .ok d) ∧
          task.store.unmarked = s.unmarked ∧
          (setting.step limit batch ⟨s, c⟩).1.store = task.store.aloft setting
            (setting.volley (setting.encounters task.store d.records batch)) := by
  obtain ⟨c', h⟩ | ⟨hsub, c', hany, task, out, h, hout⟩ := setting.step_cases limit batch s c
  · rw [h]
    exact .inl rfl
  · have hmarks := unmarked_survey setting.cosmology setting.tree batch limit ⟨s, c'⟩
    rw [h] at hmarks
    obtain ⟨e, -, hstep⟩ | ⟨d, rfl, hstep⟩ := hout
    · rw [hstep]
      exact .inl hmarks
    · have htree' : setting.tree = .build task.store.particles :=
        htree.trans (Store.build_of_lasting (Store.lasting_of_unmarked hmarks)).symm
      have hkicks := kickAll_perm htree' (hs.of_unmarked hmarks) (recorded_of_survey hs h)
        (.refl _)
      rw [hstep, hkicks]
      exact .inr ⟨hsub, c', hany, task, d, h, hmarks, rfl⟩

end Setting

/-- What is done to the gas in the course of a run. -/
inductive Event (C : Type) where
  | step (limit : Nat) (batch : List Nat) (comm : C) (cosmology : Cosmology ℝ)
      (random : RandomSource ℝ)
  | spawn (i : Nat) (starMass : ℝ) (cosmology : Cosmology ℝ) (random : RandomSource ℝ)
  | tick (slot : Nat) (dloga : ℝ) (cosmology : Cosmology ℝ)
  | tickAll (dloga : Nat → ℝ) (cosmology : Cosmology ℝ)

namespace Event

variable {C : Type}

def Sound : Event C → Prop
  | step _ _ _ cosmology _ => 0 < cosmology.a
  | spawn _ _ cosmology _ => 0 < cosmology.a
  | tick _ dloga cosmology => 0 < cosmology.a ∧ 0 ≤ dloga
  | tickAll dloga cosmology => 0 < cosmology.a ∧ ∀ slot, 0 ≤ dloga slot

def Ticks : Event C → Prop
  | step _ _ _ _ _ => False
  | spawn _ _ _ _ => False
  | tick _ _ _ => True
  | tickAll _ _ => True

variable [Collective C] (model : Model ℝ)

noncomputable def apply (s : Store ℝ) : Event C → Store ℝ
  | step limit batch comm cosmology random =>
    (Setting.step ⟨model, cosmology, random, .build s.particles⟩ limit batch ⟨s, comm⟩).1.store
  | spawn i starMass cosmology random =>
    match s.spawn (β := ℝ) i (model.spawn? cosmology random starMass) with
    | .ok (t, _) => t
    | .error _ => s
  | tick slot dloga cosmology => s.modifyGasState slot (model.tick cosmology dloga)
  | tickAll dloga cosmology =>
    { s with gasStates := (model.tickAll cosmology dloga s.gasStates).1 }

/-- The event puts a gas particle in the wind. -/
def Launches (s : Store ℝ) (i : Nat) : Event C → Prop
  | step limit batch comm cosmology random =>
    model.subgrid = false ∧ ∃ comm', Collective.any comm (!batch.isEmpty) = (true, comm') ∧
      ∃ task d, survey cosmology (.build s.particles) limit batch ⟨s, comm'⟩ = (task, .ok d) ∧
        ∃ j ∈ batch, (Setting.launchOf? ⟨model, cosmology, random, .build s.particles⟩ task.store
          d.records j i).isSome
  | spawn j starMass cosmology random =>
    j = i ∧ ∃ t, s.spawn (β := ℝ) j (model.spawn? cosmology random starMass) = .ok (t, true)
  | tick _ _ _ => False
  | tickAll _ _ => False

/-- What an event may do to the timer of a gas particle. -/
structure Moves (s : Store ℝ) (i : Nat) (h h' : SphState ℝ) (e : Event C) : Prop where
  allows : model.Allows h'.delay
  down : e.Ticks → h'.delay ≤ h.delay
  up : ¬ e.Ticks → h.delay ≤ h'.delay
  launched : h.delay < h'.delay → e.Launches model s i

structure Keeps (s : Store ℝ) (e : Event C) : Prop where
  lasting : (e.apply model s).lasting = s.lasting
  slotted : (e.apply model s).Slotted
  moves : ∀ i p h, s.gas? i = some (p, h) → model.Allows h.delay →
    ∃ p' h', (e.apply model s).gas? i = some (p', h') ∧ Moves model s i h h' e

variable {model} {s : Store ℝ} {i : Nat} {p : Particle ℝ} {h h' : SphState ℝ} {e : Event C}

lemma Moves.refl (hx : model.Allows h.delay) : Moves model s i h h e where
  allows := hx
  down _ := le_rfl
  up _ := le_rfl
  launched hlt := absurd hlt (lt_irrefl _)

lemma Moves.tick (he : e.Ticks) (hx : model.Allows h.delay)
    (hd : 0 ≤ h'.delay ∧ h'.delay ≤ h.delay) : Moves model s i h h' e where
  allows := hx.of_le hd.1 hd.2
  down _ := hd.2
  up hup := absurd he hup
  launched hlt := absurd hlt (not_lt.mpr hd.2)

lemma Moves.launch (he : ¬ e.Ticks) (hx : model.Allows h'.delay) (hle : h.delay ≤ h'.delay)
    (hl : h.delay < h'.delay → e.Launches model s i) : Moves model s i h h' e where
  allows := hx
  down hdown := absurd hdown he
  up _ := hle
  launched := hl

lemma Keeps.of_eq (hs : s.Slotted) (h : e.apply model s = s) : Keeps model s e where
  lasting := by rw [h]
  slotted := by rwa [h]
  moves i p g hg hx := ⟨p, g, by rwa [h], .refl hx⟩

variable (hs : s.Slotted)

include hs

lemma keeps_tick {slot : Nat} {dloga : ℝ} {cosmology : Cosmology ℝ} (hdloga : 0 ≤ dloga) :
    Keeps model s (.tick slot dloga cosmology : Event C) where
  lasting := rfl
  slotted := hs.modifyGasState slot _
  moves i p h hg hx := by
    obtain ⟨hp, hk, hh⟩ := Store.gas?_eq_some_iff.mp hg
    refine ⟨p, if slot = p.slot then model.tick cosmology dloga h else h,
      Store.gas?_eq_some_iff.mpr ⟨hp, hk, ?_⟩, ?_⟩
    · refine (Array.getElem?_modify ..).trans ?_
      rw [hh]
      split_ifs <;> rfl
    · split_ifs
      · exact .tick trivial hx (Model.delay_tick hx.nonneg hdloga)
      · exact .refl hx

lemma keeps_tickAll {dloga : Nat → ℝ} {cosmology : Cosmology ℝ}
    (hdloga : ∀ slot, 0 ≤ dloga slot) :
    Keeps model s (.tickAll dloga cosmology : Event C) where
  lasting := rfl
  slotted := hs.of_lasting rfl Array.size_mapIdx rfl
  moves i p h hg hx := by
    obtain ⟨hp, hk, hh⟩ := Store.gas?_eq_some_iff.mp hg
    refine ⟨p, model.tick cosmology (dloga p.slot) h,
      Store.gas?_eq_some_iff.mpr ⟨hp, hk, ?_⟩, .tick trivial hx ?_⟩
    · refine Array.getElem?_mapIdx.trans ?_
      rw [hh, Option.map_some]
    · exact Model.delay_tick hx.nonneg (hdloga p.slot)

lemma keeps_spawn (hm : model.Accepted) {j : Nat} {starMass : ℝ} {cosmology : Cosmology ℝ}
    {random : RandomSource ℝ} (ha : 0 < cosmology.a) :
    Keeps model s (.spawn j starMass cosmology random : Event C) := by
  cases hj : s.gas? j with
  | none => exact .of_eq hs (by simp only [apply, Store.spawn, hj])
  | some g =>
    cases hout : model.spawn? cosmology random starMass g.1 g.2 with
    | none => exact .of_eq hs (by simp only [apply, Store.spawn, hj, hout])
    | some g' =>
      obtain ⟨hsub, hlast, htime⟩ := Model.spawn?_eq_some hout
      have hspawn : s.spawn (β := ℝ) j (model.spawn? cosmology random starMass) =
          .ok (s.putGas j g', true) := by simp only [Store.spawn, hj, hout]
      have hafter : apply model s (.spawn j starMass cosmology random : Event C) =
          s.putGas j g' := by simp only [apply, hspawn]
      obtain ⟨hp, -, -⟩ := Store.gas?_eq_some_iff.mp hj
      refine ⟨hafter ▸ Store.lasting_putGas hlast hp _, hafter ▸ hs.putGas hlast hp _,
        fun i p h hg hx => ?_⟩
      rw [hafter]
      by_cases hji : j = i
      · subst hji
        obtain rfl := Option.some.inj (hj.symm.trans hg)
        -- the timer is overwritten, with the longest time that there is
        have hown : g'.2.delay = model.travelLength / model.speed :=
          htime.trans (Model.travelTime_own ha)
        have hnew : model.Allows g'.2.delay := by
          refine ⟨?_, fun _ => hown.le⟩
          rw [hown]
          exact div_nonneg hm.travelLength (hm.speed (.inr hsub)).le
        exact ⟨g'.1, g'.2, Store.gas?_putGas_self hlast hg, .launch id hnew
          (hown ▸ hx.le (.inr hsub)) fun _ => ⟨rfl, _, hspawn⟩⟩
      · exact ⟨p, h, Store.gas?_putGas_of_ne hlast hs hj hji hg, .refl hx⟩

lemma keeps_step (hm : model.Accepted) {limit : Nat} {batch : List Nat} {comm : C}
    {cosmology : Cosmology ℝ} {random : RandomSource ℝ} (ha : 0 < cosmology.a) :
    Keeps model s (.step limit batch comm cosmology random : Event C) := by
  have hstep := Setting.step_store ⟨model, cosmology, random, .build s.particles⟩ rfl hs limit batch
    comm
  rcases hstep with hmarks | ⟨hsub, comm', hany, task, d, hsurvey, hmarks, hafter⟩
  · refine ⟨Store.lasting_of_unmarked hmarks, hs.of_unmarked hmarks, fun i p h hg hx => ?_⟩
    obtain ⟨b, hg'⟩ := Store.gas?_of_unmarked hmarks hg
    exact ⟨_, h, hg', .refl hx⟩
  · have hs' := hs.of_unmarked hmarks
    have htree : Octree.build s.particles = .build task.store.particles :=
      (Store.build_of_lasting (Store.lasting_of_unmarked hmarks)).symm
    have happly : apply model s (.step limit batch comm cosmology random : Event C) = _ := hafter
    refine ⟨?_, ?_, fun i p h hg hx => ?_⟩
    · rw [happly]
      exact (Setting.lasting_aloft _ _).trans (Store.lasting_of_unmarked hmarks)
    · rw [happly]
      exact hs'.of_lasting (Setting.lasting_aloft _ _) Array.size_mapIdx rfl
    · obtain ⟨b, hg'⟩ := Store.gas?_of_unmarked hmarks hg
      obtain ⟨p', h', hafter', hallows, hle, hlaunch⟩ := Setting.gas?_volley hm hsub ha htree hs'
        d.records batch hg' hx
      rw [happly]
      exact ⟨p', h', hafter', .launch id hallows hle fun hlt =>
        ⟨hsub, comm', hany, task, d, hsurvey, hlaunch hlt⟩⟩

lemma keeps (hm : model.Accepted) (he : e.Sound) : Keeps model s e := by
  cases e with
  | step limit batch comm cosmology random => exact keeps_step hs hm he
  | spawn j starMass cosmology random => exact keeps_spawn hs hm he
  | tick slot dloga cosmology => exact keeps_tick hs he.2
  | tickAll dloga cosmology => exact keeps_tickAll hs he.2

omit hs

variable (model) in
/-- A store whose timers the model allows. -/
structure Timed (s : Store ℝ) : Prop where
  slotted : s.Slotted
  allows : ∀ i p h, s.gas? i = some (p, h) → model.Allows h.delay

lemma Timed.apply (hs : Timed model s) (hm : model.Accepted) (he : e.Sound) :
    Timed model (e.apply model s) := by
  have hkeeps : Keeps model s e := keeps hs.slotted hm he
  refine ⟨hkeeps.slotted, fun i p' h' hg' => ?_⟩
  obtain ⟨hp', hk', -⟩ := Store.gas?_eq_some_iff.mp hg'
  obtain ⟨p, hp, hlast⟩ := Store.exists_of_lasting hkeeps.lasting.symm hp'
  have hspecies : p.species = p'.species := congrArg (·.species) hlast
  obtain ⟨h, hg⟩ := hs.slotted.gas? hp (hspecies.trans hk')
  obtain ⟨p'', h'', hg'', hmoves⟩ := hkeeps.moves i p h hg (hs.allows i p h hg)
  obtain ⟨-, rfl⟩ : p' = p'' ∧ h' = h'' := by simpa using hg'.symm.trans hg''
  exact hmoves.allows

lemma Timed.run (hs : Timed model s) (hm : model.Accepted) {events : List (Event C)}
    (he : ∀ e ∈ events, e.Sound) : Timed model (events.foldl (fun s e => e.apply model s) s) := by
  induction events generalizing s with
  | nil => exact hs
  | cons e events ih =>
    apply ih
    · exact hs.apply hm (he e List.mem_cons_self)
    · exact fun e' he' => he e' (List.mem_cons_of_mem e he')

end Event

/-- No sequence of events brings a timer below zero or, where the model has a speed of its own,
above the time that its free travel takes. Decays never raise a timer, launches never lower one,
and none is raised but that of a particle that is launched. -/
theorem timers_of_run {w : Parameters ℝ} {sn : Supernovae ℝ} {model : Model ℝ}
    (hmodel : Model.derive w sn = .ok model) {C : Type} [Collective C] {s₀ : Store ℝ}
    (hs : s₀.Filled) (hrest : ∀ h ∈ s₀.gasStates, h.delay = 0) {events : List (Event C)}
    (hsound : ∀ e ∈ events, e.Sound) :
    let s := events.foldl (fun s e => e.apply model s) s₀
    ∀ i p h, s.gas? i = some (p, h) →
      0 ≤ h.delay ∧
      (model.kinetic = .fixedEfficiency ∨ model.subgrid = true →
        h.delay ≤ model.travelLength / model.speed) ∧
      ∀ e : Event C, e.Sound →
        ∃ p' h', (e.apply model s).gas? i = some (p', h') ∧
          (e.Ticks → h'.delay ≤ h.delay) ∧ (¬ e.Ticks → h.delay ≤ h'.delay) ∧
          (h.delay < h'.delay → e.Launches model s i) := by
  intro s i p h hg
  have hm := Model.accepted_of_derive hmodel
  have hstart : Event.Timed model s₀ := by
    refine ⟨hs.slotted, fun i p h hg => ?_⟩
    obtain ⟨-, -, hh⟩ := Store.gas?_eq_some_iff.mp hg
    rw [hrest h (Array.mem_of_getElem? hh)]
    exact .zero hm
  have htimed : Event.Timed model s := hstart.run hm hsound
  have hx := htimed.allows i p h hg
  refine ⟨hx.nonneg, hx.le, fun e he => ?_⟩
  obtain ⟨p', h', hg', hmoves⟩ := (Event.keeps htimed.slotted hm he).moves i p h hg hx
  exact ⟨p', h', hg', hmoves.down, hmoves.up, hmoves.launched⟩

theorem timers_of_run_gasAndStar :
    ∃ w model, Model.derive w Model.halfExplode = .ok model ∧ model.subgrid = true ∧
      ∃ p h, (Event.apply model Setting.gasAndStar
          (.spawn 0 1 .still (.const 0) : Event SingleTask)).gas? 0 = some (p, h) ∧
        0 ≤ h.delay ∧ h.delay ≤ model.travelLength / model.speed := by
  obtain ⟨model, hmodel, hk, hsub⟩ := Model.exists_derive_usual true
  have hs : Setting.gasAndStar.Filled :=
    (Store.Filled.empty.addGas 1 1 0 0 1 1).addStar 2 1 0 0 1
  have hrest : ∀ h ∈ Setting.gasAndStar.gasStates, h.delay = 0 := by
    intro h hh
    obtain rfl : h = .ofDensity 1 := by
      simpa [Setting.gasAndStar, Store.addStar, Store.addGas, Store.push, Store.pushGas,
        Store.empty, Particle.new] using hh
    rfl
  have hsound : (.spawn 0 1 .still (.const 0) : Event SingleTask).Sound := one_pos
  have hnone : ∀ e ∈ ([] : List (Event SingleTask)), e.Sound := by simp
  obtain ⟨-, -, hnext⟩ := timers_of_run hmodel hs hrest hnone 0 _ _ rfl
  obtain ⟨p, h, hg, -⟩ := hnext _ hsound
  obtain ⟨hnonneg, hle, -⟩ := timers_of_run hmodel hs hrest (List.forall_mem_singleton.mpr hsound)
    0 p h hg
  exact ⟨_, model, hmodel, hsub, p, h, hg, hnonneg, hle (.inl hk)⟩

end GalacticWinds
