import GalacticWinds.Proofs.Doubles
import GalacticWinds.Proofs.Wind.Model

/-! The ranges of the numbers of a model in doubles, whatever was asked for. -/

namespace GalacticWinds

namespace Double

/-- A number, and not below zero. -/
structure Ranged (x : Float) : Prop where
  finite : x.isFinite = true
  nonneg : 0 ≤ x

lemma ranged_of_inRange {x : Float} (h : Parameters.inRange x = true) : Ranged x := by
  rw [Parameters.inRange, Bool.and_eq_true, Bool.not_eq_true', decide_eq_false_iff_not,
    zero_eq] at h
  exact ⟨h.1, zero_le_of_not_lt h.1 h.2⟩

end Double

open Double

namespace Model

variable {w : Parameters Float} {sn : Supernovae Float}

lemma ranged_launchSpeed (h : (launchSpeed w sn).isFinite = true)
    (hk : w.selection.kinetic = .haloDispersion) : Ranged (launchSpeed w sn) := by
  have hroot : launchSpeed w sn = referenceSpeed w sn := by rw [launchSpeed, hk]
  rw [hroot] at h ⊢
  exact ⟨h, zero_le_sqrt h⟩

/-- Every number of an accepted model is in range, but for the density of recoupling: of it holds
what holds of a product. What is refused is refused for a parameter. -/
theorem derive_ranged (w : Parameters Float) (sn : Supernovae Float) :
    (∀ model, derive w sn = .ok model →
      (∀ x ∈ [model.speed, model.efficiency, model.energyFraction, model.sigma0,
        model.speedFactor, model.travelLength, model.recouplingFraction], Ranged x) ∧
      (model.subgrid = true ∨ model.kinetic = .fixedEfficiency → 0 < model.speed) ∧
      (model.kinetic = .haloDispersion → model.subgrid = false → 0 < model.speedFactor) ∧
      model.recouplingDensity = w.recouplingFraction * sn.densityThreshold ∧
      (Ranged sn.densityThreshold → 0 ≤ model.recouplingDensity)) ∧
    ∀ e, derive w sn = .error e → ∃ f, e = .invalidParameter f := by
  refine ⟨fun model h => ?_, fun e h => invalidParameter_of_derive h⟩
  obtain ⟨hw, hsn, rfl⟩ := derive_eq_ok_iff.mp h
  obtain ⟨hrange, -⟩ := Parameters.faultless_iff.mp hw
  obtain ⟨-, hfinite, hpos, hfactor⟩ := faultless_iff.mp hsn
  rw [zero_eq] at hpos hfactor
  have hparam : ∀ p, Ranged (w.get p) := fun p => ranged_of_inRange (hrange p)
  have hspeed : usesSpeed w.selection = true → 0 < launchSpeed w sn :=
    fun hu => zero_lt_of_not_le hfinite fun hle => hpos ⟨hu, hle⟩
  have hlaunch : Ranged (launchSpeed w sn) := by
    cases hk : w.selection.kinetic with
    | fixedEfficiency =>
      exact ⟨hfinite, zero_le_of_zero_lt (hspeed (by simp [usesSpeed, hk]))⟩
    | haloDispersion => exact ranged_launchSpeed hfinite hk
  refine ⟨?_, fun hown => hspeed ?_, fun hk hsub => ?_, rfl, fun hthreshold => ?_⟩
  · simp only [List.forall_mem_cons]
    exact ⟨hlaunch, hparam .efficiency, hparam .energyFraction, hparam .sigma0,
      hparam .speedFactor, hparam .travelLength, hparam .recouplingFraction, by simp⟩
  · simpa [usesSpeed] using hown
  · have hu : usesSpeed w.selection = false := by simp_all [usesSpeed]
    exact zero_lt_of_not_le (hparam .speedFactor).finite fun hle => hfactor ⟨hu, hle⟩
  · have hfraction := hparam .recouplingFraction
    exact zero_le_mul hfraction.nonneg hthreshold.nonneg hfraction.finite hthreshold.finite

/-- Half of the stars explode, and they form at this density. -/
def formingAt (threshold : Float) : Supernovae Float :=
  ⟨0.5, 1, threshold⟩

lemma exists_derive_formingAt (threshold : Float) :
    ∃ model, derive Parameters.usual (formingAt threshold) = .ok model ∧
      model.kinetic = .fixedEfficiency ∧
      model.recouplingDensity = (Parameters.usual : Parameters Float).recouplingFraction *
        threshold := by
  have hw : (Parameters.usual : Parameters Float).fault? = none :=
    Option.isNone_iff_eq_none.mp (by decide +kernel)
  have hsn : fault? Parameters.usual (formingAt 0) = none :=
    Option.isNone_iff_eq_none.mp (by decide +kernel)
  exact ⟨_, derive_eq_ok_iff.mpr ⟨hw, hsn, rfl⟩, rfl, rfl⟩

theorem derive_ranged_usual :
    ∃ model, derive Parameters.usual (formingAt 1) = .ok model ∧ 0 < model.speed ∧
      Ranged model.efficiency ∧ 0 ≤ model.recouplingDensity := by
  obtain ⟨model, h, hk, -⟩ := exists_derive_formingAt 1
  obtain ⟨hranged, hspeed, -, -, hdensity⟩ := (derive_ranged _ _).1 model h
  exact ⟨model, h, hspeed (.inr hk), hranged _ (by simp),
    hdensity ⟨by decide +kernel, by decide +kernel⟩⟩

/-- The density of recoupling is handed out as it comes. -/
theorem derive_negativeThreshold :
    ∃ model, derive Parameters.usual (formingAt (-1)) = .ok model ∧
      ¬ 0 ≤ model.recouplingDensity := by
  obtain ⟨model, h, -, hdensity⟩ := exists_derive_formingAt (-1)
  refine ⟨model, h, ?_⟩
  rw [hdensity]
  decide +kernel

end Model
end GalacticWinds
