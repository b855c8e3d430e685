import GalacticWinds.Proofs.Wind.Moments

/-! The dispersion that moments give is the spread of the velocities about their mean. Moments are
taken in one pass over the velocities, and the spread is what two passes find. -/

namespace GalacticWinds

open scoped List

noncomputable def average (xs : List ℝ) : ℝ :=
  xs.sum / xs.length

section

variable {β : Type} {l : List β} (f g : β → ℝ) (c : ℝ)

lemma average_map_add :
    average (l.map fun x => f x + g x) = average (l.map f) + average (l.map g) := by
  simp only [average, List.sum_map_add, List.length_map, add_div]

lemma average_map_mul : average (l.map fun x => c * f x) = c * average (l.map f) := by
  simp only [average, List.sum_map_mul_left, List.length_map, mul_div_assoc]

lemma average_nonneg {xs : List ℝ} (hxs : ∀ x ∈ xs, 0 ≤ x) : 0 ≤ average xs :=
  div_nonneg (List.sum_nonneg hxs) xs.length.cast_nonneg

variable (hl : l ≠ [])

include hl

lemma average_eq_zero_iff (hf : ∀ x ∈ l, 0 ≤ f x) : average (l.map f) = 0 ↔ ∀ x ∈ l, f x = 0 := by
  have hn : ((l.map f).length : ℝ) ≠ 0 := by simpa using hl
  have hnonneg : ∀ y ∈ l.map f, 0 ≤ y := List.forall_mem_map.mpr hf
  rw [average, div_eq_zero_iff, or_iff_left hn]
  constructor
  · intro h x hx
    exact List.all_zero_of_le_zero_le_of_sum_eq_zero hnonneg h (List.mem_map_of_mem hx)
  · intro h
    exact List.sum_eq_zero (List.forall_mem_map.mpr h)

lemma average_map_const : average (l.map fun _ => c) = c := by
  have hn : (l.length : ℝ) ≠ 0 := by simpa using hl
  rw [average, List.map_const', List.sum_replicate, nsmul_eq_mul, List.length_replicate,
    mul_div_cancel_left₀ c hn]

lemma average_sq_sub :
    average (l.map fun x => (f x - average (l.map f)) ^ 2) =
      average (l.map fun x => f x ^ 2) - average (l.map f) ^ 2 := by
  generalize hm : average (l.map f) = m
  have hexpand : ∀ x, (f x - m) ^ 2 = f x ^ 2 + (-(2 * m) * f x + m ^ 2) := fun x => by ring
  simp only [hexpand]
  rw [average_map_add, average_map_add, average_map_mul, average_map_const _ hl, hm]
  ring

end

namespace Vec

lemma normSq_nonneg (v : Vec ℝ) : 0 ≤ v.normSq := by
  rw [normSq_real]
  positivity

lemma normSq_sub_eq_zero_iff {v w : Vec ℝ} : (v - w).normSq = 0 ↔ v = w := by
  constructor
  · intro h
    rw [normSq_real, sub_x, sub_y, sub_z] at h
    have hx : v.x - w.x = 0 := by nlinarith
    have hy : v.y - w.y = 0 := by nlinarith
    have hz : v.z - w.z = 0 := by nlinarith
    exact Vec.ext (sub_eq_zero.mp hx) (sub_eq_zero.mp hy) (sub_eq_zero.mp hz)
  · rintro rfl
    simp [normSq_real]

end Vec

namespace Moments

noncomputable def meanVelocity (vs : List (Vec ℝ)) : Vec ℝ :=
  ⟨average (vs.map (·.x)), average (vs.map (·.y)), average (vs.map (·.z))⟩

/-- One third, for the three axes, of the mean squared deviation from the mean. -/
noncomputable def spread (vs : List (Vec ℝ)) : ℝ :=
  average (vs.map fun v => (v - meanVelocity vs).normSq) / 3.0

lemma variance_real (m : Moments ℝ) :
    m.variance = m.second / m.count -
      ((m.first.x / m.count) ^ 2 + (m.first.y / m.count) ^ 2 + (m.first.z / m.count) ^ 2) := by
  have hfold : m.variance = m.second / m.count - Scalar.sq (m.first.x / m.count) -
      Scalar.sq (m.first.y / m.count) - Scalar.sq (m.first.z / m.count) := rfl
  rw [hfold]
  simp only [Scalar.sq_real]
  ring

lemma variance_ofList (vs : List (Vec ℝ)) :
    (ofList vs).variance = average (vs.map (·.normSq)) - (meanVelocity vs).normSq := by
  simp only [variance_real, ofList_real, Vec.normSq_real, meanVelocity, average, List.length_map,
    Int.cast_natCast]

lemma spread_nonneg (vs : List (Vec ℝ)) : 0 ≤ spread vs :=
  div_nonneg (average_nonneg (List.forall_mem_map.mpr fun v _ => (v - _).normSq_nonneg))
    (by norm_num)

section

variable {vs : List (Vec ℝ)} (hvs : vs ≠ [])

include hvs

theorem variance_eq_spread : (ofList vs).variance / 3.0 = spread vs := by
  have hthree : (3.0 : ℝ) = 3 := by norm_num
  rw [spread, variance_ofList, hthree]
  simp only [Vec.normSq_real, Vec.sub_def, average_map_add, meanVelocity]
  rw [average_sq_sub _ hvs, average_sq_sub _ hvs, average_sq_sub _ hvs]
  ring

lemma meanVelocity_of_forall_eq {w : Vec ℝ} (hw : ∀ v ∈ vs, v = w) : meanVelocity vs = w := by
  have hmean : ∀ f : Vec ℝ → ℝ, average (vs.map f) = f w := by
    intro f
    rw [List.map_congr_left fun v hv => congrArg f (hw v hv), average_map_const _ hvs]
  rw [meanVelocity, hmean, hmean, hmean]

lemma spread_eq_zero_iff : spread vs = 0 ↔ ∀ v ∈ vs, ∀ w ∈ vs, v = w := by
  have hthree : (3.0 : ℝ) ≠ 0 := by norm_num
  rw [spread, div_eq_zero_iff, or_iff_left hthree,
    average_eq_zero_iff _ hvs fun v _ => (v - _).normSq_nonneg]
  simp only [Vec.normSq_sub_eq_zero_iff]
  constructor
  · intro h v hv w hw
    rw [h v hv, h w hw]
  · intro h v hv
    exact (meanVelocity_of_forall_eq hvs fun w hw => h w hw v hv).symm

lemma meanVelocity_add (c : Vec ℝ) : meanVelocity (vs.map (· + c)) = meanVelocity vs + c := by
  simp only [meanVelocity, List.map_map, Function.comp_def, Vec.add_def, average_map_add,
    average_map_const _ hvs]

end

lemma meanVelocity_smul (k : ℝ) (vs : List (Vec ℝ)) :
    meanVelocity (vs.map (k * ·)) = k * meanVelocity vs := by
  simp only [meanVelocity, List.map_map, Function.comp_def, Vec.smul_def, average_map_mul]

lemma spread_add (c : Vec ℝ) (vs : List (Vec ℝ)) : spread (vs.map (· + c)) = spread vs := by
  by_cases hvs : vs = []
  · rw [hvs, List.map_nil]
  · have hshift : ∀ v w : Vec ℝ, v + c - (w + c) = v - w := by
      intro v w
      simp only [Vec.add_def, Vec.sub_def, add_sub_add_right_eq_sub]
    rw [spread, meanVelocity_add hvs, List.map_map]
    simp only [Function.comp_def, hshift]
    rfl

lemma spread_smul (k : ℝ) (vs : List (Vec ℝ)) :
    spread (vs.map (k * ·)) = k ^ 2 * spread vs := by
  have hscale : ∀ v w : Vec ℝ, (k * v - k * w).normSq = k ^ 2 * (v - w).normSq := by
    intro v w
    simp only [Vec.normSq_real, Vec.smul_def, Vec.sub_def]
    ring
  rw [spread, meanVelocity_smul, List.map_map]
  simp only [Function.comp_def, hscale, average_map_mul]
  rw [mul_div_assoc]
  rfl

theorem dispersion_ofList (vs : List (Vec ℝ)) : (ofList vs).dispersion = √(spread vs) := by
  rw [dispersion]
  by_cases hvs : vs = []
  · subst hvs
    simp [ofList, zero, spread, average]
  · have hcount : ¬ (ofList vs).count ≤ 0 := by
      rw [ofList_real, not_le]
      exact Int.natCast_pos.mpr (List.length_pos_iff.mpr hvs)
    rw [if_neg hcount, variance_eq_spread hvs]
    exact congrArg Real.sqrt (max_eq_left (spread_nonneg vs))

/-- The root is taken of the spread, and the bound at zero is there for rounding alone. So the
dispersion is that of the velocities in any frame and any order, and goes with their scale. -/
theorem dispersion_exact (vs : List (Vec ℝ)) :
    (vs ≠ [] →
      (ofList vs).variance / 3.0 = spread vs ∧
      0 ≤ (ofList vs).variance / 3.0 ∧
      Scalar.max ((ofList vs).variance / 3.0) 0 = (ofList vs).variance / 3.0 ∧
      ((ofList vs).variance / 3.0 = 0 ↔ ∀ v ∈ vs, ∀ w ∈ vs, v = w) ∧
      (ofList vs).dispersion = √((ofList vs).variance / 3.0)) ∧
    (∀ c : Vec ℝ, (ofList (vs.map (· + c))).dispersion = (ofList vs).dispersion) ∧
    (∀ ws, ws ~ vs → (ofList ws).dispersion = (ofList vs).dispersion) ∧
    (∀ k : ℝ, (ofList (vs.map (k * ·))).dispersion = |k| * (ofList vs).dispersion) ∧
    (ofList ([] : List (Vec ℝ))).dispersion = 0 := by
  refine ⟨fun hvs => ?_, fun c => ?_, fun ws h => ?_, fun k => ?_, rfl⟩
  · rw [variance_eq_spread hvs]
    exact ⟨rfl, spread_nonneg vs, max_eq_left (spread_nonneg vs), spread_eq_zero_iff hvs,
      dispersion_ofList vs⟩
  · rw [dispersion_ofList, dispersion_ofList, spread_add]
  · rw [ofList_perm h]
  · rw [dispersion_ofList, dispersion_ofList, spread_smul, Real.sqrt_mul (sq_nonneg k),
      Real.sqrt_sq_eq_abs]

noncomputable def driftingPair : List (Vec ℝ) :=
  [⟨1, 0, 0⟩, ⟨3.0, 0, 0⟩]

theorem dispersion_driftingPair :
    (ofList driftingPair).variance / 3.0 = 1 / 3 ∧
      (ofList (driftingPair.map (· + ⟨5, 7, 0⟩))).dispersion = √(1 / 3) ∧
      (ofList (driftingPair.map ((-2 : ℝ) * ·))).dispersion = 2 * √(1 / 3) := by
  obtain ⟨hpair, hshift, -, hscale, -⟩ := dispersion_exact driftingPair
  obtain ⟨hvariance, -, -, -, hroot⟩ := hpair (by simp [driftingPair])
  have hspread : spread driftingPair = 1 / 3 := by
    norm_num [spread, meanVelocity, average, driftingPair, Vec.normSq_real, Vec.sub_def]
  rw [hspread] at hvariance
  rw [hvariance] at hroot
  refine ⟨hvariance, (hshift _).trans hroot, (hscale _).trans ?_⟩
  rw [hroot, abs_neg, abs_two]

end Moments

end GalacticWinds
