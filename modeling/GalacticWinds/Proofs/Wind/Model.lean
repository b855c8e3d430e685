import GalacticWinds.Proofs.Exact
import GalacticWinds.Wind.Launch

/-! What parameters and supernovae that are accepted say about the model made of them. -/

namespace GalacticWinds

section

variable {α : Type} [Scalar α] {w : Parameters α} {sn : Supernovae α} {model : Model α}

lemma Parameters.faultless_iff :
    w.fault? = none ↔ (∀ p, inRange (w.get p) = true) ∧
      ¬ (w.selection.kinetic = .fixedEfficiency ∧ w.efficiency ≤ 0) := by
  have hfind : (Parameter.all.find? fun p => !inRange (w.get p)) = none ↔
      ∀ p, inRange (w.get p) = true := by
    rw [List.find?_eq_none]
    constructor
    · intro h p
      simpa using h p p.mem_all
    · intro h p _
      simpa using h p
  rw [fault?]
  cases h : Parameter.all.find? fun p => !inRange (w.get p) with
  | some p => simp [← hfind, h]
  | none =>
    rw [h] at hfind
    simp only [hfind.mp rfl, implies_true, true_and, ite_eq_right_iff, reduceCtorEq, imp_false]

namespace Model

lemma faultless_iff :
    fault? w sn = none ↔ (0 ≤ sn.fraction ∧ sn.fraction < 1) ∧
      Scalar.isFinite (launchSpeed w sn) = true ∧
      ¬ (usesSpeed w.selection = true ∧ launchSpeed w sn ≤ 0) ∧
      ¬ (usesSpeed w.selection = false ∧ w.speedFactor ≤ 0) := by
  rw [fault?]
  split_ifs <;> simp_all

lemma derive_eq_ok_iff :
    derive w sn = .ok model ↔ w.fault? = none ∧ fault? w sn = none ∧
      model = ⟨w.selection.kinetic, w.selection.subgrid, w.selection.decouples, w.efficiency,
        w.energyFraction, launchSpeed w sn, w.sigma0, w.speedFactor, w.travelLength,
        w.recouplingFraction, w.recouplingFraction * sn.densityThreshold⟩ := by
  rw [derive, Parameters.validate]
  cases w.fault? with
  | some f => simp [bind, Except.bind]
  | none =>
    cases fault? w sn with
    | some f => simp [bind, Except.bind]
    | none => simp [bind, Except.bind, pure, Except.pure, eq_comm]

lemma invalidParameter_of_derive {e : Failure α} (h : derive w sn = .error e) :
    ∃ f, e = .invalidParameter f := by
  rw [derive, Parameters.validate] at h
  cases hw : w.fault? with
  | some f =>
    rw [hw] at h
    exact ⟨f, (Except.error.inj h).symm⟩
  | none =>
    rw [hw] at h
    cases hsn : fault? w sn with
    | some f =>
      rw [hsn] at h
      exact ⟨f, (Except.error.inj h).symm⟩
    | none =>
      rw [hsn] at h
      cases h

end Model

end

lemma Parameters.inRange_iff {x : ℝ} : inRange x = true ↔ 0 ≤ x := by
  rw [inRange, Bool.and_eq_true, Bool.not_eq_true', decide_eq_false_iff_not, not_lt]
  exact and_iff_right rfl

lemma Parameters.fault?_eq_none_iff {w : Parameters ℝ} :
    w.fault? = none ↔ (∀ p, 0 ≤ w.get p) ∧
      (w.selection.kinetic = .fixedEfficiency → 0 < w.efficiency) := by
  simp only [faultless_iff, inRange_iff, not_and, not_le]

namespace Model

variable {w : Parameters ℝ} {sn : Supernovae ℝ} {model : Model ℝ}

lemma fault?_eq_none_iff :
    fault? w sn = none ↔ (0 ≤ sn.fraction ∧ sn.fraction < 1) ∧
      (usesSpeed w.selection = true → 0 < launchSpeed w sn) ∧
      (usesSpeed w.selection = false → 0 < w.speedFactor) := by
  have hfinite : Scalar.isFinite (launchSpeed w sn) = true := rfl
  simp only [faultless_iff, hfinite, true_and, not_and, not_le]

section

variable {cosmology : Cosmology ℝ} {dispersion : ℝ} {l : Launch ℝ}

lemma launch?_cases (hl : model.launch? cosmology dispersion = some l) :
    (model.kinetic = .fixedEfficiency ∧ l = ⟨model.efficiency, model.speed * cosmology.a⟩) ∨
      (model.kinetic = .haloDispersion ∧ 0 < dispersion ∧
        l = ⟨(model.sigma0 / (dispersion / cosmology.a)) ^ 2,
          model.speedFactor * dispersion⟩) := by
  rw [launch?] at hl
  cases hk : model.kinetic with
  | fixedEfficiency =>
    rw [hk] at hl
    exact .inl ⟨rfl, (Option.some.inj hl).symm⟩
  | haloDispersion =>
    simp only [hk] at hl
    split_ifs at hl with hd
    rw [Scalar.sq_real] at hl
    exact .inr ⟨rfl, not_le.mp hd, (Option.some.inj hl).symm⟩

lemma launchSpeed_fixedEfficiency (hk : w.selection.kinetic = .fixedEfficiency) :
    launchSpeed w sn =
      √(2 * (w.energyFraction * sn.fraction * sn.specificEnergy / (1 - sn.fraction))) /
        √w.efficiency := by
  have htwo : (2.0 : ℝ) = 2 := by norm_num
  have hroot : referenceSpeed w sn =
      √(2.0 * w.energyFraction * sn.fraction * sn.specificEnergy / (1 - sn.fraction)) := rfl
  have hspeed : launchSpeed w sn = referenceSpeed w sn / √w.efficiency := by
    rw [launchSpeed, hk]
    rfl
  rw [hspeed, hroot, htwo, mul_assoc 2, mul_assoc 2, mul_div_assoc]

variable (ha : 0 < cosmology.a) (hl : model.launch? cosmology dispersion = some l)

include ha hl

/-- However much is launched, the supernovae pay for it. -/
lemma energy_fixedEfficiency (h : derive w sn = .ok model)
    (hk : model.kinetic = .fixedEfficiency) :
    l.efficiency * (l.speed / cosmology.a) ^ 2 / 2 =
      w.energyFraction * sn.fraction * sn.specificEnergy / (1 - sn.fraction) := by
  obtain ⟨hw, hsn, rfl⟩ := derive_eq_ok_iff.mp h
  have hkind : w.selection.kinetic = .fixedEfficiency := hk
  obtain ⟨-, rfl⟩ | ⟨hhalo, -⟩ := launch?_cases hl
  · obtain ⟨-, hefficiency⟩ := Parameters.fault?_eq_none_iff.mp hw
    have heff : 0 < w.efficiency := hefficiency hkind
    obtain ⟨-, hspeed, -⟩ := fault?_eq_none_iff.mp hsn
    have hpos : 0 < launchSpeed w sn := hspeed (by rw [usesSpeed, hkind]; simp)
    rw [launchSpeed_fixedEfficiency hkind] at hpos
    generalize henergy : w.energyFraction * sn.fraction * sn.specificEnergy /
      (1 - sn.fraction) = energy at hpos ⊢
    have hnonneg : 0 ≤ 2 * energy := by
      by_contra hneg
      rw [Real.sqrt_eq_zero_of_nonpos (not_le.mp hneg).le, zero_div] at hpos
      exact lt_irrefl 0 hpos
    calc w.efficiency * (launchSpeed w sn * cosmology.a / cosmology.a) ^ 2 / 2
        = w.efficiency * launchSpeed w sn ^ 2 / 2 := by rw [mul_div_cancel_right₀ _ ha.ne']
      _ = 2 * energy / 2 := by
        rw [launchSpeed_fixedEfficiency hkind, henergy, div_pow, Real.sq_sqrt hnonneg,
          Real.sq_sqrt heff.le, mul_div_cancel₀ _ heff.ne']
      _ = energy := mul_div_cancel_left₀ energy two_ne_zero
  · exact absurd (hhalo.symm.trans hkind) (by simp)

lemma energy_haloDispersion (h : derive w sn = .ok model)
    (hk : model.kinetic = .haloDispersion) :
    l.efficiency * (l.speed / cosmology.a) ^ 2 / 2 = (w.sigma0 * w.speedFactor) ^ 2 / 2 := by
  obtain ⟨-, -, rfl⟩ := derive_eq_ok_iff.mp h
  obtain ⟨hfixed, -⟩ | ⟨-, hd, rfl⟩ := launch?_cases hl
  · exact absurd (hk.symm.trans hfixed) (by simp)
  · field_simp

end

noncomputable def halfExplode : Supernovae ℝ :=
  ⟨0.5, 1, 1⟩

lemma exists_derive_usual (subgrid : Bool) :
    ∃ model, derive ⟨⟨.fixedEfficiency, subgrid, true⟩, 2, 1, 353, 3, 20, 1⟩ halfExplode =
      .ok model ∧ model.kinetic = .fixedEfficiency ∧ model.subgrid = subgrid := by
  refine ⟨_, derive_eq_ok_iff.mpr ⟨?_, ?_, rfl⟩, rfl, rfl⟩
  · rw [Parameters.fault?_eq_none_iff]
    refine ⟨fun p => ?_, fun _ => two_pos⟩
    cases p <;> norm_num [Parameters.get]
  · rw [fault?_eq_none_iff]
    refine ⟨by norm_num [halfExplode], fun _ => ?_, by simp [usesSpeed]⟩
    rw [launchSpeed_fixedEfficiency rfl]
    exact div_pos (Real.sqrt_pos.mpr (by norm_num [halfExplode])) (Real.sqrt_pos.mpr two_pos)

end Model

end GalacticWinds
