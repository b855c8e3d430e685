import GalacticWinds.Wind.Bracket
import Mathlib.Tactic

/-! One step of the search for a radius: what the counts say of the band, and what ends a search. -/

namespace GalacticWinds.Bracket

lemma surplus_toInt (n : Int64) : surplus n.toInt = (n - 40).toInt := by
  have hlo : -2 ^ 63 ≤ n.toInt := n.le_toInt
  have hhi : n.toInt < 2 ^ 63 := n.toInt_lt
  have hforty : (40 : Int64).toInt = 40 := rfl
  rw [Int64.toInt_sub, hforty, surplus, wanted, lowest, Int.bmod_def]
  split_ifs <;> omega

section

variable {count : Int}

lemma surplus_eq (h : lowest + wanted ≤ count) : surplus count = count - wanted := by
  apply if_neg
  omega

lemma tooFew_iff (h : lowest + wanted ≤ count) : tooFew count = true ↔ count < 38 := by
  rw [tooFew, decide_eq_true_iff, surplus_eq h, wanted, tolerance]
  omega

lemma tooMany_iff (h : lowest + wanted ≤ count) : tooMany count = true ↔ 42 < count := by
  rw [tooMany, decide_eq_true_iff, surplus_eq h, wanted, tolerance]
  omega

lemma inBand_iff (h : lowest + wanted ≤ count) :
    inBand count = true ↔ 38 ≤ count ∧ count ≤ 42 := by
  rw [inBand, Bool.and_eq_true, Bool.not_eq_true', Bool.not_eq_true', ← Bool.not_eq_true,
    ← Bool.not_eq_true, tooFew_iff h, tooMany_iff h]
  omega

/-- Also where the difference comes round, a count that is found too low is low. -/
lemma lt_of_tooFew (h : tooFew count = true) : count < 38 := by
  rw [tooFew, decide_eq_true_iff, surplus, wanted, lowest, tolerance] at h
  split_ifs at h <;> omega

lemma lt_of_tooMany (h : tooMany count = true) : 42 < count ∨ count < lowest + wanted := by
  rcases lt_or_ge count (lowest + wanted) with hlow | hfits
  · exact .inr hlow
  · exact .inl ((tooMany_iff hfits).mp h)

lemma fits_natCast (n : ℕ) : lowest + wanted ≤ n := by
  rw [lowest, wanted]
  omega

end

variable {α : Type}

lemma radius_close (b : Bracket α) (count : Int) : (b.close count).radius = b.radius := by
  rw [close]
  split_ifs <;> rfl

lemma close_of_inBand (b : Bracket α) (h : inBand count = true) : b.close count = b := by
  rw [inBand, Bool.and_eq_true, Bool.not_eq_true', Bool.not_eq_true'] at h
  rw [close, h.1, h.2]
  rfl

variable [Scalar α] {b b' : Bracket α} {count : Int} {maxRadius : α}

lemma ends_step (b : Bracket α) (count : Int) (maxRadius : α) :
    (b.step count maxRadius).1.left = (b.close count).left ∧
      (b.step count maxRadius).1.right = (b.close count).right := by
  rw [step]
  cases (b.close count).next? maxRadius with
  | none => exact ⟨rfl, rfl⟩
  | some radius => exact ⟨rfl, rfl⟩

lemma step_again (h : b.step count maxRadius = (b', false)) :
    inBand count = false ∧
      (((b.close count).bounded = true ∧
          ¬ (b.close count).right - (b.close count).left < narrow ∧
          b' = { b.close count with
            radius := 0.5 * ((b.close count).left + (b.close count).right) }) ∨
        ((b.close count).bounded = false ∧ ¬ maxRadius < b.radius ∧
          b' = { b.close count with radius := b.radius * growth })) := by
  cases hn : (b.close count).next? maxRadius with
  | none => simp [step, hn] at h
  | some radius =>
    simp only [step, hn, Prod.mk.injEq] at h
    obtain ⟨rfl, hband⟩ := h
    refine ⟨hband, ?_⟩
    rw [next?, radius_close] at hn
    split_ifs at hn with hb hr hr
    · exact .inl ⟨hb, hr, by rw [Option.some.inj hn]⟩
    · exact .inr ⟨by simpa using hb, hr, by rw [Option.some.inj hn]⟩

lemma step_done (h : b.step count maxRadius = (b', true)) :
    inBand count = true ∨ (b'.bounded = true ∧ b'.right - b'.left < narrow) ∨
      (b'.bounded = false ∧ maxRadius < b.radius ∧ b' = b.close count) := by
  cases hn : (b.close count).next? maxRadius with
  | some radius =>
    simp only [step, hn, Prod.mk.injEq] at h
    exact .inl h.2
  | none =>
    simp only [step, hn, Prod.mk.injEq, and_true] at h
    subst h
    rw [next?] at hn
    split_ifs at hn with hb hr hr
    · exact .inr (.inl ⟨hb, hr⟩)
    · exact .inr (.inr ⟨by simpa using hb, radius_close b count ▸ hr, rfl⟩)

lemma step_of_bounded (hclose : b.close count = b') (hb : b'.bounded = true)
    (hwide : ¬ b'.right - b'.left < narrow) :
    b.step count maxRadius =
      (⟨0.5 * (b'.left + b'.right), b'.left, b'.right⟩, inBand count) := by
  subst hclose
  have hnext : (b.close count).next? maxRadius =
      some (0.5 * ((b.close count).left + (b.close count).right)) := by
    rw [next?, if_pos hb, if_neg hwide]
  simp only [step, hnext]

lemma step_of_narrow (hclose : b.close count = b') (hb : b'.bounded = true)
    (hnarrow : b'.right - b'.left < narrow) : b.step count maxRadius = (b', true) := by
  subst hclose
  have hnext : (b.close count).next? maxRadius = none := by
    rw [next?, if_pos hb, if_pos hnarrow]
  simp only [step, hnext]

lemma step_of_unbounded (hclose : b.close count = b') (hb : ¬ b'.bounded = true)
    (hr : ¬ maxRadius < b.radius) :
    b.step count maxRadius = (⟨b.radius * growth, b'.left, b'.right⟩, inBand count) := by
  subst hclose
  have hnext : (b.close count).next? maxRadius = some (b.radius * growth) := by
    rw [next?, radius_close, if_neg hb, if_neg hr]
  simp only [step, hnext]

end GalacticWinds.Bracket
