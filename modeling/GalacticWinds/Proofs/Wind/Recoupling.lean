import GalacticWinds.Proofs.Exact
import GalacticWinds.Wind.Recoupling

/-! The timers run down alike however time is cut into steps. -/

namespace GalacticWinds

namespace Cosmology

variable (cosmology : Cosmology ℝ)

lemma densityFactor_mul (density : ℝ) :
    density * cosmology.densityFactor = density / cosmology.a ^ 3 := by
  rw [densityFactor, mul_one_div]
  congr 1
  ring

lemma properTime_add (x y : ℝ) :
    cosmology.properTime (x + y) = cosmology.properTime x + cosmology.properTime y := by
  simp only [properTime]
  split_ifs
  · exact add_div x y cosmology.hubble
  · rfl

variable {cosmology}

lemma properTime_nonneg {step : ℝ} (hstep : 0 ≤ step) : 0 ≤ cosmology.properTime step := by
  rw [properTime]
  split_ifs with hh
  · exact div_nonneg hstep hh.le
  · exact hstep

end Cosmology

namespace Model

variable (model : Model ℝ) (cosmology : Cosmology ℝ)

/-- What a step leaves of the time on a timer. -/
noncomputable def remaining (step : ℝ) (h : SphState ℝ) : ℝ :=
  if h.delay ≤ 0 then h.delay
  else if h.density / cosmology.a ^ 3 < model.recouplingDensity then 0
  else max (h.delay - cosmology.properTime step) 0

lemma tick_eq (step : ℝ) (h : SphState ℝ) :
    model.tick cosmology step h = { h with delay := model.remaining cosmology step h } := by
  rw [tick, remaining, Cosmology.densityFactor_mul]
  by_cases hcoupled : h.delay ≤ 0
  · simp [hcoupled, not_lt.mpr hcoupled]
  · have haloft : 0 < h.delay := not_le.mp hcoupled
    by_cases hthin : h.density / cosmology.a ^ 3 < model.recouplingDensity
    · simp [hcoupled, haloft, hthin]
    · simp only [haloft, hthin, hcoupled, and_false, if_false, if_true]
      rfl

variable {model cosmology} in
lemma delay_tick {h : SphState ℝ} {step : ℝ} (hh : 0 ≤ h.delay) (hstep : 0 ≤ step) :
    0 ≤ (model.tick cosmology step h).delay ∧ (model.tick cosmology step h).delay ≤ h.delay := by
  have htime : 0 ≤ cosmology.properTime step := Cosmology.properTime_nonneg hstep
  rw [tick_eq, remaining]
  split_ifs
  · exact ⟨hh, le_rfl⟩
  · exact ⟨le_rfl, hh⟩
  · refine ⟨le_max_right _ _, max_le ?_ hh⟩
    linarith

/-- Two steps are one. Where the first has ended the flight the second has nothing to do, and the
density that ends it at once is not touched by either. -/
lemma tick_tick {x y : ℝ} (hx : 0 ≤ x) (hy : 0 ≤ y) (h : SphState ℝ) :
    model.tick cosmology y (model.tick cosmology x h) = model.tick cosmology (x + y) h := by
  have hpx : 0 ≤ cosmology.properTime x := Cosmology.properTime_nonneg hx
  have hpy : 0 ≤ cosmology.properTime y := Cosmology.properTime_nonneg hy
  have hadd := cosmology.properTime_add x y
  simp only [tick_eq, remaining]
  by_cases hcoupled : h.delay ≤ 0
  · simp only [hcoupled, if_true]
  · by_cases hthin : h.density / cosmology.a ^ 3 < model.recouplingDensity
    · simp only [hcoupled, hthin, if_false, if_true, le_refl]
    · simp only [hcoupled, hthin, if_false]
      congr 1
      -- The flight ends within the first step or goes on in the second.
      rcases le_total h.delay (cosmology.properTime x) with hover | hover
      · have hfirst : max (h.delay - cosmology.properTime x) 0 = 0 := max_eq_right (by linarith)
        rw [hfirst, if_pos le_rfl, max_eq_right (by linarith)]
      · have hfirst : max (h.delay - cosmology.properTime x) 0 =
            h.delay - cosmology.properTime x := max_eq_left (by linarith)
        rw [hfirst, hadd]
        split_ifs with hend
        · rw [max_eq_right (by linarith)]
          linarith
        · congr 1
          ring

lemma foldl_tick {steps : List ℝ} (hne : steps ≠ []) (hsteps : ∀ x ∈ steps, 0 ≤ x)
    (h : SphState ℝ) :
    steps.foldl (fun h x => model.tick cosmology x h) h = model.tick cosmology steps.sum h := by
  induction steps generalizing h with
  | nil => exact absurd rfl hne
  | cons x steps ih =>
    have hx : 0 ≤ x := hsteps x List.mem_cons_self
    have htail : ∀ y ∈ steps, 0 ≤ y := fun y hy => hsteps y (List.mem_cons_of_mem x hy)
    rw [List.foldl_cons, List.sum_cons]
    cases steps with
    | nil => rw [List.sum_nil, add_zero, List.foldl_nil]
    | cons y steps =>
      rw [ih (List.cons_ne_nil y steps) htail]
      exact tick_tick model cosmology hx (List.sum_nonneg htail) h

variable {model cosmology} in
lemma getElem?_tickAll (step : Nat → ℝ) (states : Array (SphState ℝ)) (slot : Nat) :
    (model.tickAll cosmology step states).1[slot]? =
      states[slot]?.map (model.tick cosmology (step slot)) :=
  Array.getElem?_mapIdx

lemma aloft_tickAll (step : Nat → ℝ) (states : Array (SphState ℝ)) :
    (model.tickAll cosmology step states).2 =
      (List.finRange states.size).countP fun slot : Fin states.size =>
        0 < model.remaining cosmology (step slot) states[slot] := by
  have hlist : (states.mapIdx fun slot h => model.tick cosmology (step slot) h).toList =
      (List.finRange states.size).map fun slot : Fin states.size =>
        model.tick cosmology (step slot) states[slot] := by
    apply List.ext_getElem
    · simp
    · intro slot hs _
      simp
  rw [tickAll, ← Array.countP_toList, hlist, List.countP_map]
  simp only [tick_eq, Function.comp_def]

lemma foldl_tickAll (steps : List (Nat → ℝ)) (states : Array (SphState ℝ)) (slot : Nat) :
    (steps.foldl (fun states step => (model.tickAll cosmology step states).1) states)[slot]? =
      states[slot]?.map fun h =>
        (steps.map (· slot)).foldl (fun h x => model.tick cosmology x h) h := by
  induction steps generalizing states with
  | nil => simp
  | cons step steps ih =>
    rw [List.foldl_cons, ih, getElem?_tickAll, Option.map_map]
    rfl

/-- A step changes nothing of a state but its timer. One at zero or below stays, another is cleared
where the gas is thin and else loses the proper time of the step. The parts of a step do the same
one after another, also when every slot has parts of its own, and those in the wind are counted. -/
theorem tick_flows :
    (∀ step h, model.tick cosmology step h =
      { h with delay := model.remaining cosmology step h }) ∧
    (∀ steps : List ℝ, steps ≠ [] → (∀ x ∈ steps, 0 ≤ x) → ∀ h,
      steps.foldl (fun h x => model.tick cosmology x h) h = model.tick cosmology steps.sum h) ∧
    (∀ (step : Nat → ℝ) (states : Array (SphState ℝ)),
      (∀ slot, (model.tickAll cosmology step states).1[slot]? =
        states[slot]?.map (model.tick cosmology (step slot))) ∧
      (model.tickAll cosmology step states).2 =
        (List.finRange states.size).countP fun slot : Fin states.size =>
          0 < model.remaining cosmology (step slot) states[slot]) ∧
    ∀ steps : List (Nat → ℝ), steps ≠ [] → (∀ step ∈ steps, ∀ slot, 0 ≤ step slot) →
      ∀ states, steps.foldl (fun states step => (model.tickAll cosmology step states).1) states =
        (model.tickAll cosmology (fun slot => (steps.map (· slot)).sum) states).1 := by
  refine ⟨tick_eq model cosmology, fun steps hne hsteps h => foldl_tick model cosmology hne hsteps h,
    ?_, ?_⟩
  · intro step states
    exact ⟨getElem?_tickAll step states, aloft_tickAll model cosmology step states⟩
  · intro steps hne hsteps states
    apply Array.ext_getElem?
    intro slot
    have hslot : steps.map (· slot) ≠ [] := by simpa using hne
    have hnonneg : ∀ x ∈ steps.map (· slot), 0 ≤ x := by
      intro x hx
      obtain ⟨step, hstep, rfl⟩ := List.mem_map.mp hx
      exact hsteps step hstep slot
    rw [foldl_tickAll, getElem?_tickAll]
    congr 1
    funext h
    exact foldl_tick model cosmology hslot hnonneg h

noncomputable def slowWind : Model ℝ :=
  ⟨.fixedEfficiency, false, true, 2.0, 1, 100.0, 353.0, 2.95, 20.0, 0.1, 0.008⟩

noncomputable def aloftFor (delay : ℝ) : SphState ℝ :=
  ⟨delay, 1, 0, 0, 0⟩

lemma tick_slowWind {step delay : ℝ} (hdelay : 0 < delay) :
    slowWind.tick ⟨1, 2⟩ step (aloftFor delay) = aloftFor (max (delay - step / 2) 0) := by
  have htime : Cosmology.properTime ⟨1, 2⟩ step = step / 2 := if_pos two_pos
  have hdense : ¬ (1 : ℝ) / 1 ^ 3 < 0.008 := by norm_num
  have hremaining : slowWind.remaining ⟨1, 2⟩ step (aloftFor delay) =
      max (delay - step / 2) 0 := by
    rw [remaining, htime]
    exact (if_neg (not_le.mpr hdelay)).trans (if_neg hdense)
  rw [tick_eq, hremaining]
  rfl

theorem tick_flows_twoSteps :
    [0.5, 1.5].foldl (fun h x => slowWind.tick ⟨1, 2⟩ x h) (aloftFor 5) = aloftFor 4 ∧
    [fun slot : Nat => (slot : ℝ), fun _ => 1].foldl
        (fun states step => (slowWind.tickAll ⟨1, 2⟩ step states).1) #[aloftFor 5, aloftFor 1] =
      #[aloftFor 4.5, aloftFor 0] := by
  obtain ⟨-, hcut, hall, hcutAll⟩ := tick_flows slowWind ⟨1, 2⟩
  constructor
  · have hsteps : ∀ x ∈ [(0.5 : ℝ), 1.5], 0 ≤ x := by
      intro x hx
      rcases List.mem_pair.mp hx with rfl | rfl <;> norm_num
    rw [hcut _ (List.cons_ne_nil _ _) hsteps, tick_slowWind (by norm_num)]
    norm_num
  · have hsteps : ∀ step ∈ [fun slot : Nat => (slot : ℝ), fun _ => 1], ∀ slot, 0 ≤ step slot := by
      intro step hstep slot
      rcases List.mem_pair.mp hstep with rfl | rfl
      · exact Nat.cast_nonneg slot
      · exact zero_le_one
    rw [hcutAll _ (List.cons_ne_nil _ _) hsteps]
    apply Array.ext_getElem?
    intro slot
    rw [(hall _ _).1]
    match slot with
    | 0 => norm_num [tick_slowWind]
    | 1 => norm_num [tick_slowWind]
    | slot + 2 => simp

end Model

end GalacticWinds
