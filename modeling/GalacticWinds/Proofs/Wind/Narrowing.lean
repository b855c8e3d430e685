import GalacticWinds.Proofs.Exact
import GalacticWinds.Proofs.Wind.Bracket
import GalacticWinds.Wind.StarRecord
import Mathlib.Analysis.SpecialFunctions.Log.Base

/-! The search for a radius in exact arithmetic: what a round leaves behind, and how many rounds
there can be when the counts follow no law. -/

namespace GalacticWinds

namespace Bracket

variable {b b' : Bracket ℝ} {count : Int} {hsml maxRadius : ℝ}

/-- A radius ready to be tried: once an upper bound is known it is the middle of the interval. -/
structure Poised (b : Bracket ℝ) : Prop where
  radius_pos : 0 < b.radius
  left_nonneg : 0 ≤ b.left
  centered : 0 ≤ b.right → b.radius = (b.left + b.right) / 2

lemma bounded_iff : b.bounded = true ↔ 0 ≤ b.right :=
  decide_eq_true_iff

lemma poised_ofHsml (h : 0 < hsml) : (ofHsml hsml).Poised where
  radius_pos := by
    change (0 : ℝ) < 2.0 * hsml
    positivity
  left_nonneg := le_refl (0 : ℝ)
  centered hr := by
    have hneg : (0 : ℝ) ≤ -1 := hr
    norm_num at hneg

lemma Poised.step_cases (hb : b.Poised) (h : b.step count maxRadius = (b', false)) :
    (tooFew count = true ∧ b.right < 0 ∧ b.radius ≤ maxRadius ∧
        b' = ⟨b.radius * 1.3, b.radius, b.right⟩) ∨
      (tooFew count = true ∧ 0 ≤ b.right ∧ 1e-2 ≤ b.right - b.radius ∧
        b' = ⟨0.5 * (b.radius + b.right), b.radius, b.right⟩) ∨
      (tooMany count = true ∧ 1e-2 ≤ b.radius - b.left ∧
        b' = ⟨0.5 * (b.left + b.radius), b.left, b.radius⟩) := by
  obtain ⟨hband, hnext⟩ := step_again h
  by_cases hfew : tooFew count = true
  · have hclose : b.close count = { b with left := b.radius } := if_pos hfew
    rw [hclose] at hnext
    rcases hnext with ⟨hbd, hwide, rfl⟩ | ⟨hbd, hin, rfl⟩
    · exact .inr (.inl ⟨hfew, bounded_iff.mp hbd, not_lt.mp hwide, rfl⟩)
    · exact .inl ⟨hfew, not_le.mp (of_decide_eq_false hbd), not_lt.mp hin, rfl⟩
  · have hmany : tooMany count = true := by
      rw [inBand, Bool.eq_false_iff.mpr hfew] at hband
      simpa using hband
    have hclose : b.close count = { b with right := b.radius } := by
      rw [close, if_neg hfew, if_pos hmany]
    rw [hclose] at hnext
    rcases hnext with ⟨-, hwide, rfl⟩ | ⟨hbd, -, -⟩
    · exact .inr (.inr ⟨hmany, not_lt.mp hwide, rfl⟩)
    · exact absurd hb.radius_pos.le (of_decide_eq_false hbd)

lemma Poised.step (hb : b.Poised) (h : b.step count maxRadius = (b', false)) : b'.Poised := by
  have hpos := hb.radius_pos
  have hleft := hb.left_nonneg
  rcases hb.step_cases h with ⟨-, hr, -, rfl⟩ | ⟨-, hr, -, rfl⟩ | ⟨-, -, rfl⟩
  · exact ⟨by positivity, hpos.le, fun h => absurd h (not_le.mpr hr)⟩
  · exact ⟨by positivity, hpos.le, fun _ => by ring⟩
  · exact ⟨by positivity, hleft, fun _ => by ring⟩

/-- The last round leaves the radius that it has counted within, save that one found good on the
way out still grows. -/
lemma Poised.radius_of_done (hb : b.Poised) (h : b.step count maxRadius = (b', true)) :
    b'.radius = if b'.right < 0 ∧ b.radius ≤ maxRadius then 1.3 * b.radius else b.radius := by
  cases hn : (b.close count).next? maxRadius with
  | none =>
    simp only [Bracket.step, hn, Prod.mk.injEq, and_true] at h
    subst h
    rw [radius_close, if_neg]
    rintro ⟨hr, hle⟩
    rw [next?, radius_close] at hn
    split_ifs at hn with hbd _ hpast
    · exact absurd (bounded_iff.mp hbd) (not_le.mpr hr)
    · exact absurd hle (not_le.mpr hpast)
  | some radius =>
    simp only [Bracket.step, hn, Prod.mk.injEq] at h
    obtain ⟨rfl, hband⟩ := h
    rw [close_of_inBand b hband] at hn ⊢
    rw [next?] at hn
    split_ifs at hn with hbd hnarrow hpast
    · have hr := bounded_iff.mp hbd
      rw [if_neg fun h => absurd hr (not_le.mpr h.1), ← Option.some.inj hn, hb.centered hr]
      change 0.5 * (b.left + b.right) = _
      ring
    · have hr : b.right < 0 := not_le.mp fun h => hbd (bounded_iff.mpr h)
      rw [if_pos ⟨hr, not_lt.mp hpast⟩, ← Option.some.inj hn]
      exact mul_comm b.radius 1.3

section

variable (hsml maxRadius)

noncomputable def widest : ℝ :=
  max (2.0 * hsml) (1.3 * maxRadius)

/-- Rounds in which the radius can grow, and then rounds in which an interval can be halved. -/
noncomputable def roundBound : ℕ :=
  ⌊Real.logb 1.3 (widest hsml maxRadius / (2.0 * hsml))⌋₊ +
    ⌊Real.logb 2.0 (widest hsml maxRadius / 1e-2)⌋₊ + 2

/-- Where a search stands after some rounds of which none was the last: the radius has grown in
each, or it grew in the first `m` of them and the interval was halved in the last `k`. -/
inductive Stage : ℕ → Bracket ℝ → Prop
  | growing {n : ℕ} {b : Bracket ℝ} : b.right < 0 → b.radius = 2.0 * hsml * 1.3 ^ n →
      b.radius ≤ widest hsml maxRadius → Stage n b
  | halving {m k : ℕ} {b : Bracket ℝ} : 2.0 * hsml * 1.3 ^ m ≤ widest hsml maxRadius →
      0 ≤ b.right → 1e-2 ≤ b.right - b.left → (b.right - b.left) * 2 ^ k ≤ widest hsml maxRadius →
      Stage (m + k + 1) b

end

lemma stage_ofHsml : Stage hsml maxRadius 0 (ofHsml hsml) := by
  have hradius : (ofHsml hsml).radius = 2.0 * hsml := rfl
  refine .growing ?_ ?_ ?_
  · change (-1 : ℝ) < 0
    norm_num
  · rw [hradius, pow_zero, mul_one]
  · rw [hradius]
    exact le_max_left _ _

lemma Stage.step {n : ℕ} (hs : Stage hsml maxRadius n b) (hb : b.Poised)
    (h : b.step count maxRadius = (b', false)) : Stage hsml maxRadius (n + 1) b' := by
  have hcases := hb.step_cases h
  cases hs with
  | growing hright hradius hle =>
    rcases hcases with ⟨-, -, hmax, rfl⟩ | ⟨-, hr, -, -⟩ | ⟨-, hwide, rfl⟩
    · refine .growing hright ?_ ?_
      · change b.radius * 1.3 = _
        rw [hradius, pow_succ, mul_assoc]
      · change b.radius * 1.3 ≤ _
        refine le_trans ?_ (le_max_right _ _)
        linarith
    · exact absurd hr (not_le.mpr hright)
    · have hleft := hb.left_nonneg
      refine Stage.halving (m := n) (k := 0) (hradius ▸ hle) hb.radius_pos.le hwide ?_
      change (b.radius - b.left) * 2 ^ 0 ≤ _
      rw [pow_zero, mul_one]
      linarith
  | @halving m k b hgrown hright hwide hle =>
    have hmid := hb.centered hright
    rcases hcases with ⟨-, hr, -, -⟩ | ⟨-, -, hwide', rfl⟩ | ⟨-, hwide', rfl⟩
    · exact absurd hright (not_le.mpr hr)
    · refine Stage.halving (m := m) (k := k + 1) hgrown hright hwide' ?_
      have hhalf : (b.right - b.radius) * 2 ^ (k + 1) = (b.right - b.left) * 2 ^ k := by
        rw [hmid]
        ring
      exact hhalf.trans_le hle
    · refine Stage.halving (m := m) (k := k + 1) hgrown hb.radius_pos.le hwide' ?_
      have hhalf : (b.radius - b.left) * 2 ^ (k + 1) = (b.right - b.left) * 2 ^ k := by
        rw [hmid]
        ring
      exact hhalf.trans_le hle

lemma le_floor_logb {base c w : ℝ} (hbase : 1 < base) (hc : 0 < c) {n : ℕ}
    (h : c * base ^ n ≤ w) : n ≤ ⌊Real.logb base (w / c)⌋₊ := by
  have hpow : base ^ n ≤ w / c := by
    rw [le_div_iff₀ hc, mul_comm]
    exact h
  have hpos : 0 < w / c := (pow_pos (one_pos.trans hbase) n).trans_le hpow
  refine Nat.le_floor ?_
  rw [Real.le_logb_iff_rpow_le hbase hpos, Real.rpow_natCast]
  exact hpow

lemma Stage.lt_roundBound {n : ℕ} (hs : Stage hsml maxRadius n b) (hpos : 0 < hsml) :
    n < roundBound hsml maxRadius := by
  have hstart : 0 < 2.0 * hsml := by positivity
  rw [roundBound]
  cases hs with
  | growing _ hradius hle =>
    have hn := le_floor_logb (by norm_num) hstart (hradius ▸ hle)
    omega
  | @halving m k b hgrown _ hwide hle =>
    have hm := le_floor_logb (by norm_num) hstart hgrown
    have htwo : (2.0 : ℝ) = 2 := by norm_num
    have hnarrow : 1e-2 * 2.0 ^ k ≤ widest hsml maxRadius := by
      rw [htwo]
      exact (mul_le_mul_of_nonneg_right hwide (by positivity)).trans hle
    have hk := le_floor_logb (by norm_num) (by norm_num) hnarrow
    omega

end Bracket

namespace StarRecord

variable {α : Type} [Scalar α]

/-- A record after rounds of which each had its count set from outside. -/
def narrowing (r : StarRecord α) (maxRadius : α) (counts : ℕ → Int) : ℕ → StarRecord α
  | 0 => r
  | n + 1 => (((narrowing r maxRadius counts n).withCount (counts n)).narrow maxRadius).1

lemma step_of_narrow {r : StarRecord α} {count : Int} {maxRadius : α}
    (h : ((r.withCount count).narrow maxRadius).2 = false) :
    r.bracket.step count maxRadius = (((r.withCount count).narrow maxRadius).1.bracket, false) :=
  Prod.ext rfl h

end StarRecord

lemma exists_narrow_done {hsml : ℝ} (h : 0 < hsml) (maxRadius : ℝ) (counts : ℕ → Int) :
    ∃ n < Bracket.roundBound hsml maxRadius,
      ((((StarRecord.ofHsml hsml).narrowing maxRadius counts n).withCount (counts n)).narrow
        maxRadius).2 = true := by
  by_contra hnone
  push Not at hnone
  have hstage : ∀ n ≤ Bracket.roundBound hsml maxRadius,
      ((StarRecord.ofHsml hsml).narrowing maxRadius counts n).bracket.Poised ∧
        Bracket.Stage hsml maxRadius n
          ((StarRecord.ofHsml hsml).narrowing maxRadius counts n).bracket := by
    intro n hn
    induction n with
    | zero => exact ⟨Bracket.poised_ofHsml h, Bracket.stage_ofHsml⟩
    | succ n ih =>
      obtain ⟨hpoised, hs⟩ := ih (Nat.le_of_succ_le hn)
      have hstep := StarRecord.step_of_narrow (Bool.eq_false_iff.mpr (hnone n hn))
      exact ⟨hpoised.step hstep, hs.step hpoised hstep⟩
  obtain ⟨-, hs⟩ := hstage _ le_rfl
  exact lt_irrefl _ (hs.lt_roundBound h)

end GalacticWinds
