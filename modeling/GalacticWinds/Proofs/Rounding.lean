import GalacticWinds.Proofs.Doubles

/-! Doubles in their order, and rounding to the nearest of them, which keeps the order of what it
rounds: so the squares of doubles are ordered as the doubles are. -/

namespace GalacticWinds.Double

open Float.Model (Format UnpackedFloat totalExponent)
open Float.Model.UnpackedFloat

/-- Doubles by size: infinity and what is finite, on either side of zero. -/
def height : UnpackedFloat → Option (ℤ ×ₗ ℤ ×ₗ ℤ)
  | .notANumber => none
  | .infinity .negative => some (toLex (-2, toLex (0, 0)))
  | .finite .negative m e _ => some (toLex (-1, toLex (-e, -m)))
  | .zero _ => some (toLex (0, toLex (0, 0)))
  | .finite .positive m e _ => some (toLex (1, toLex (e, m)))
  | .infinity .positive => some (toLex (2, toLex (0, 0)))

lemma compare_sign (s t : Sign) :
    compare s t = match s, t with
      | .negative, .positive => .lt
      | .positive, .negative => .gt
      | _, _ => .eq := by
  cases s <;> cases t <;> rfl

section

variable {e f : ℤ} {m n : ℕ}

lemma isLE_then_compare :
    ((compare e f).then (compare m n)).isLE = true ↔ e < f ∨ e = f ∧ m ≤ n := by
  rw [Ordering.isLE_then_iff_or, compare_lt_iff_lt, compare_eq_iff_eq, Nat.isLE_compare]

lemma isGE_then_compare :
    ((compare e f).then (compare m n)).isGE = true ↔ f < e ∨ e = f ∧ n ≤ m := by
  rw [← Ordering.isLE_swap, Ordering.swap_then, Int.compare_swap, Nat.compare_swap,
    isLE_then_compare, eq_comm]

lemma le_finite_iff {hm : 0 < m} {hn : 0 < n} :
    UnpackedFloat.le (.finite .positive m e hm) (.finite .positive n f hn) = true ↔
      e < f ∨ e = f ∧ m ≤ n :=
  isLE_then_compare

end

section

variable {u v : UnpackedFloat}

lemma le_iff : UnpackedFloat.le u v = true ↔ ∃ a ∈ height u, ∃ b ∈ height v, a ≤ b := by
  rcases u with ⟨_ | _⟩ | _ | _ | ⟨_ | _, m, e, hm⟩ <;>
    rcases v with ⟨_ | _⟩ | _ | _ | ⟨_ | _, n, f, hn⟩ <;>
    simp [UnpackedFloat.le, UnpackedFloat.compare, height, Prod.Lex.toLex_le_toLex, compare_sign,
      isLE_then_compare, isGE_then_compare]

lemma lt_iff : UnpackedFloat.lt u v = true ↔ ∃ a ∈ height u, ∃ b ∈ height v, a < b := by
  rcases u with ⟨_ | _⟩ | _ | _ | ⟨_ | _, m, e, hm⟩ <;>
    rcases v with ⟨_ | _⟩ | _ | _ | ⟨_ | _, n, f, hn⟩ <;>
    simp [UnpackedFloat.lt, UnpackedFloat.compare, height, Prod.Lex.toLex_lt_toLex, compare_sign,
      Ordering.then_eq_lt, Ordering.then_eq_gt, compare_lt_iff_lt, compare_gt_iff_gt]

lemma isNaN_iff : u.isNaN = true ↔ height u = none := by
  rcases u with ⟨_ | _⟩ | _ | _ | ⟨_ | _, m, e, hm⟩ <;> simp [UnpackedFloat.isNaN, height]

lemma le_infinity (hu : Nonneg u) : UnpackedFloat.le u (.infinity .positive) = true := by
  obtain ⟨s, rfl⟩ | rfl | ⟨m, e, hm, rfl⟩ := nonneg_cases hu
  · cases s <;> rfl
  · rfl
  · rfl

end

/-- A mantissa and the two bits that are left of what follows it, as one number. -/
def quarters (em : ExtendedMantissa) : Nat :=
  4 * em.mantissa + 2 * em.roundBit.toNat + em.stickyBit.toNat

lemma toNat_odd (m : Nat) : (m % 2 != 0).toNat = m % 2 := by
  rcases Nat.mod_two_eq_zero_or_one m with h | h <;> simp [h]

section

variable {a b : ExtendedMantissa} (h : quarters a ≤ quarters b)

include h

lemma quarters_shiftRightOne : quarters a.shiftRightOne ≤ quarters b.shiftRightOne := by
  obtain ⟨m, r, s⟩ := a
  obtain ⟨n, t, u⟩ := b
  simp only [quarters, ExtendedMantissa.shiftRightOne, toNat_odd] at h ⊢
  cases r <;> cases s <;> cases t <;> cases u <;> simp at h ⊢ <;> omega

lemma roundedMantissa_mono : a.roundedMantissa ≤ b.roundedMantissa := by
  obtain ⟨m, r, s⟩ := a
  obtain ⟨n, t, u⟩ := b
  simp only [quarters] at h
  cases r <;> cases s <;> cases t <;> cases u <;>
    simp [ExtendedMantissa.roundedMantissa, ExtendedMantissa.accuracy,
      Accuracy.roundToNearestEven] at h ⊢ <;> omega

end

lemma roundedMantissa_bounds (em : ExtendedMantissa) :
    em.mantissa ≤ em.roundedMantissa ∧ em.roundedMantissa ≤ em.mantissa + 1 := by
  obtain ⟨m, r, s⟩ := em
  cases r <;> cases s <;>
    simp [ExtendedMantissa.roundedMantissa, ExtendedMantissa.accuracy,
      Accuracy.roundToNearestEven]
  omega

lemma shiftRight_succ (em : ExtendedMantissa) (s : Nat) :
    em >>> (s + 1) = (em >>> s).shiftRightOne :=
  rfl

lemma quarters_shiftRight {a b : ExtendedMantissa} (h : quarters a ≤ quarters b) (s : Nat) :
    quarters (a >>> s) ≤ quarters (b >>> s) := by
  induction s with
  | zero => exact h
  | succ s ih =>
    rw [shiftRight_succ, shiftRight_succ]
    exact quarters_shiftRightOne ih

lemma mantissa_shiftRight (em : ExtendedMantissa) (s : Nat) :
    (em >>> s).mantissa = em.mantissa / 2 ^ s := by
  induction s with
  | zero => exact (Nat.div_one _).symm
  | succ s ih =>
    rw [shiftRight_succ, ExtendedMantissa.shiftRightOne, ih, Nat.div_div_eq_div_mul, pow_succ]

/-- A mantissa with nothing after it. -/
def whole (m : Nat) : ExtendedMantissa :=
  .ofMantissaAndAccuracy m .exact

lemma whole_shiftRight (m k s : Nat) : whole (m * 2 ^ k) >>> (s + k) = whole m >>> s := by
  induction s with
  | zero =>
    rw [Nat.zero_add]
    induction k generalizing m with
    | zero => rw [pow_zero, mul_one]
    | succ k ih =>
      have hm : m * 2 ^ (k + 1) = m * 2 * 2 ^ k := by ring
      rw [shiftRight_succ, hm, ih]
      change (whole (m * 2)).shiftRightOne = whole m
      simp [whole, ExtendedMantissa.ofMantissaAndAccuracy, ExtendedMantissa.shiftRightOne]
  | succ s ih => rw [Nat.succ_add, shiftRight_succ, ih, shiftRight_succ]

/-- A mantissa counted in units of a power of two, to the nearest unit. -/
def unitsOf (m s : Nat) : Nat :=
  (whole m >>> s).roundedMantissa

lemma unitsOf_mono {m n : Nat} (h : m ≤ n) (s : Nat) : unitsOf m s ≤ unitsOf n s := by
  have hq : quarters (whole m) ≤ quarters (whole n) := by
    simp only [quarters, whole, ExtendedMantissa.ofMantissaAndAccuracy]
    omega
  exact roundedMantissa_mono (quarters_shiftRight hq s)

lemma unitsOf_mul (m k s : Nat) : unitsOf (m * 2 ^ k) (s + k) = unitsOf m s := by
  rw [unitsOf, whole_shiftRight, unitsOf]

lemma unitsOf_bounds (m s : Nat) : m / 2 ^ s ≤ unitsOf m s ∧ unitsOf m s ≤ m / 2 ^ s + 1 := by
  have h := roundedMantissa_bounds (whole m >>> s)
  rwa [mantissa_shiftRight] at h

lemma log2_lt_iff {m k : Nat} (hk : 0 < k) : m.log2 < k ↔ m < 2 ^ k := by
  rcases Nat.eq_zero_or_pos m with rfl | hm
  · simp [hk]
  · exact Nat.log2_lt hm.ne'

lemma log2_le {m n k : Nat} (h : m ≤ n * 2 ^ k) : m.log2 ≤ n.log2 + k := by
  have hlt : m < 2 ^ (n.log2 + 1 + k) :=
    calc m ≤ n * 2 ^ k := h
      _ < 2 ^ (n.log2 + 1) * 2 ^ k :=
        Nat.mul_lt_mul_of_pos_right Nat.lt_log2_self (Nat.two_pow_pos k)
      _ = 2 ^ (n.log2 + 1 + k) := (pow_add ..).symm
  have hlog := (log2_lt_iff (by omega)).mpr hlt
  omega

/-- The exponent that a double of this size has. -/
def lastPlace (m : Nat) (e : Int) : Int :=
  Format.binary64.targetExponent (totalExponent m e)

lemma lastPlace_eq (m : Nat) (e : Int) : lastPlace m e = max (m.log2 + e - 52) (-1074) := by
  have h : lastPlace m e = max (m.log2 + 1 + e - 53) (-1074) := rfl
  rw [h]
  congr 1
  omega

lemma shiftToTargetExponent_eq (m : Nat) (e : Int) :
    shiftToTargetExponent Format.binary64 m e .exact =
      (whole m >>> (lastPlace m e - e).toNat, e + (lastPlace m e - e).toNat) :=
  rfl

/-- The place of the nearest double, where doubles that are not negative are counted from zero
in their order. -/
def rank (m : Nat) (e : Int) : Int :=
  (lastPlace m e + 1074) * 2 ^ 52 + unitsOf m (lastPlace m e - e).toNat

section

variable {m : Nat} {e : Int} (h : e ≤ lastPlace m e)

include h

lemma unitsOf_le : unitsOf m (lastPlace m e - e).toNat ≤ 2 ^ 53 := by
  have hp := lastPlace_eq m e
  have hlog : m.log2 < 53 + (lastPlace m e - e).toNat := by omega
  have hm : m / 2 ^ (lastPlace m e - e).toNat < 2 ^ 53 := by
    rw [Nat.div_lt_iff_lt_mul (Nat.two_pow_pos _), ← pow_add]
    exact (log2_lt_iff (by omega)).mp hlog
  have hb := unitsOf_bounds m (lastPlace m e - e).toNat
  omega

lemma le_unitsOf (hn : lastPlace m e ≠ -1074) :
    2 ^ 52 ≤ unitsOf m (lastPlace m e - e).toNat := by
  have hp := lastPlace_eq m e
  have hlog : ¬ m.log2 < 52 + (lastPlace m e - e).toNat := by omega
  have hm : 2 ^ 52 ≤ m / 2 ^ (lastPlace m e - e).toNat := by
    rw [Nat.le_div_iff_mul_le (Nat.two_pow_pos _), ← pow_add]
    exact not_lt.mp fun hlt => hlog ((log2_lt_iff (by omega)).mpr hlt)
  exact hm.trans (unitsOf_bounds m _).1

/-- Numbers that are not smaller have no smaller rank: with the same last place they are rounded to
the same units, and with a later one there are more units than an earlier place has. -/
lemma rank_mono {n : Nat} {f : Int} (h' : f ≤ lastPlace n f) (hef : e ≤ f)
    (hmn : m ≤ n * 2 ^ (f - e).toNat) : rank m e ≤ rank n f := by
  have hlog := log2_le hmn
  have hp := lastPlace_eq m e
  have hq := lastPlace_eq n f
  rcases lt_or_eq_of_le (by omega : lastPlace m e ≤ lastPlace n f) with hlt | heq
  · have hlo := le_unitsOf h' (by omega)
    have hhi := unitsOf_le h
    rw [rank, rank]
    omega
  · have hs : (lastPlace m e - e).toNat = (lastPlace n f - f).toNat + (f - e).toNat := by omega
    have hle : unitsOf m (lastPlace m e - e).toNat ≤ unitsOf n (lastPlace n f - f).toNat := by
      rw [hs, ← unitsOf_mul n (f - e).toNat]
      exact unitsOf_mono hmn _
    rw [heq] at hle
    rw [rank, rank, heq]
    omega

end

structure Canonical (m : Nat) (e : Int) : Prop where
  lt : m < 2 ^ 53
  le : -1074 ≤ e
  normal : 2 ^ 52 ≤ m ∨ e = -1074

/-- A number that is not negative, and its rank. -/
def Ranked : UnpackedFloat → Int → Prop
  | .zero _, k => k = 0
  | .finite s m e _, k => s = .positive ∧ Canonical m e ∧ k = (e + 1074) * 2 ^ 52 + m
  | _, _ => False

lemma ranked_cases {u : UnpackedFloat} {k : Int} (h : Ranked u k) :
    (∃ s, u = .zero s ∧ k = 0) ∨
      ∃ m e hm, u = .finite .positive m e hm ∧ Canonical m e ∧ k = (e + 1074) * 2 ^ 52 + m := by
  cases u with
  | notANumber => exact h.elim
  | infinity s => exact h.elim
  | zero s => exact .inl ⟨s, rfl, h⟩
  | finite s m e hm =>
    obtain ⟨rfl, hc, hk⟩ := h
    exact .inr ⟨m, e, hm, rfl, hc, hk⟩

lemma nonneg_of_ranked {u : UnpackedFloat} {k : Int} (h : Ranked u k) : Nonneg u := by
  obtain ⟨s, rfl, -⟩ | ⟨m, e, hm, rfl, -⟩ := ranked_cases h
  · trivial
  · rfl

/-- Rounding may fill the mantissa up to the next power of two, which is shifted out again. -/
lemma ranked_shifted {n : Nat} {t : Int} (hn : n ≤ 2 ^ 53) (ht : -1074 ≤ t)
    (hnormal : 2 ^ 52 ≤ n ∨ t = -1074) :
    Ranked
      (if h : (whole n >>> (lastPlace n t - t).toNat).mantissa = 0 then .zero .positive
        else .finite .positive _ (t + (lastPlace n t - t).toNat) (Nat.pos_of_ne_zero h))
      ((t + 1074) * 2 ^ 52 + n) := by
  have hp := lastPlace_eq n t
  rcases hn.lt_or_eq with hlt | rfl
  · have hlog : n.log2 < 53 := (log2_lt_iff (by omega)).mpr hlt
    have hs : (lastPlace n t - t).toNat = 0 := by omega
    have hm : (whole n >>> 0).mantissa = n := rfl
    simp only [hs, hm]
    split_ifs with h0
    · simp only [Ranked]
      omega
    · exact ⟨rfl, ⟨hlt, by omega, by omega⟩, by simp⟩
  · rw [Nat.log2_two_pow] at hp
    have hs : (lastPlace (2 ^ 53) t - t).toNat = 1 := by omega
    have hm : (whole (2 ^ 53) >>> 1).mantissa = 2 ^ 52 := by decide
    simp only [hs, hm]
    exact ⟨rfl, ⟨by omega, by omega, by omega⟩, by omega⟩

lemma ranked_round {m : Nat} {e : Int} (h : e ≤ lastPlace m e) :
    Ranked (roundWithAccuracy Format.binary64 .positive m e .exact) (rank m e) := by
  have hp := lastPlace_eq m e
  have he : e + (lastPlace m e - e).toNat = lastPlace m e := by omega
  have hnormal : 2 ^ 52 ≤ unitsOf m (lastPlace m e - e).toNat ∨ lastPlace m e = -1074 := by
    by_cases hn : lastPlace m e = -1074
    · exact .inr hn
    · exact .inl (le_unitsOf h hn)
  have hr := ranked_shifted (unitsOf_le h) (by omega) hnormal
  simp only [roundWithAccuracy, shiftToTargetExponent_eq, he]
  exact hr

lemma unpack_infinity (s : Sign) :
    unpack Format.binary64 (packedInfinity Format.binary64 s) = .infinity s := by
  rw [packedInfinity, unpack]
  simp only [unpackMantissa_packComponents, unpackExponent_packComponents,
    unpackSign_packComponents, ofBitVec_toBitVec]
  rfl

lemma ofNat_ne_zero {w n : Nat} (hn : 0 < n) (hw : n < 2 ^ w) : BitVec.ofNat w n ≠ 0#w := by
  intro h
  have hbits := congrArg BitVec.toNat h
  rw [BitVec.toNat_ofNat, BitVec.toNat_ofNat, Nat.mod_eq_of_lt hw, Nat.zero_mod] at hbits
  omega

lemma toNat_one_append {w : Nat} (x : BitVec w) : (1#1 ++ x).toNat = 2 ^ w + x.toNat := by
  have h := Nat.two_pow_add_eq_or_of_lt x.isLt 1
  rw [mul_one] at h
  rw [BitVec.toNat_append, Nat.shiftLeft_eq, h]
  congr 1
  exact one_mul _

lemma unpack_normal {s : Sign} {m b : Nat} (hb : 0 < b) (hb' : b + 1 < 2 ^ 11)
    (hm : 2 ^ 52 ≤ m) (hm' : m < 2 ^ 53) :
    unpack Format.binary64
        (packComponents Format.binary64 s (BitVec.ofNat 11 b) (BitVec.ofNat 52 m)) =
      .finite s m (b - 1075) (by omega) := by
  have hzero : BitVec.ofNat 11 b ≠ 0#11 := ofNat_ne_zero hb (by omega)
  have hones : BitVec.ofNat 11 b ≠ -1#11 := @ofNat_ne_neg_one Format.binary64 b hb'
  have hmantissa : (1#1 ++ BitVec.ofNat 52 m).toNat = m := by
    rw [toNat_one_append, BitVec.toNat_ofNat]
    omega
  rw [unpack]
  simp only [unpackMantissa_packComponents, unpackExponent_packComponents,
    unpackSign_packComponents, ofBitVec_toBitVec, hzero, hones, if_false, hmantissa]
  congr 1
  rw [BitVec.toNat_ofNat]
  change ((b % 2 ^ 11 : Nat) : Int) - (1023 + 52) = b - 1075
  omega

lemma unpack_subnormal {s : Sign} {m : Nat} (hm : 0 < m) (hm' : m < 2 ^ 52) :
    unpack Format.binary64 (packComponents Format.binary64 s 0#11 (BitVec.ofNat 52 m)) =
      .finite s m (-1074) hm := by
  have hzero : BitVec.ofNat 52 m ≠ 0#52 := ofNat_ne_zero hm hm'
  have hones : 0#11 ≠ -1#11 := @zero_ne_neg_one Format.binary64
  have hmantissa : (BitVec.ofNat 52 m).toNat = m := by
    rw [BitVec.toNat_ofNat, Nat.mod_eq_of_lt hm']
  rw [unpack]
  simp only [unpackMantissa_packComponents, unpackExponent_packComponents,
    unpackSign_packComponents, ofBitVec_toBitVec, hzero, hones, if_false, if_true, hmantissa,
    dite_false]
  rfl

/-- Packing keeps a number, unless it is too large for a double. -/
lemma unpack_pack {s : Sign} {m : Nat} {e : Int} (hm : 0 < m) (h : Canonical m e) :
    unpack Format.binary64 (pack Format.binary64 (.finite s m e hm)) =
      if 971 < e then .infinity s else .finite s m e hm := by
  obtain ⟨hlt, hle, hn⟩ := h
  have hb : (e + Format.binary64.exponentBias +
      Format.binary64.mantissaBitsWithoutImplicit).toNat = (e + 1075).toNat := by
    change (e + 1023 + 52).toNat = _
    omega
  rw [pack]
  simp only [hb]
  by_cases hlarge : 971 < e
  · rw [if_pos hlarge, if_pos (by change 2048 ≤ _; omega)]
    exact unpack_infinity s
  rw [if_neg hlarge, if_neg (by change ¬ 2048 ≤ _; omega)]
  by_cases hnormal : 2 ^ 52 ≤ m
  · have hlog : ¬ m.log2 < 52 := by
      rw [log2_lt_iff (by omega)]
      omega
    have hlog' : m.log2 < 53 := (log2_lt_iff (by omega)).mpr hlt
    rw [if_pos (by change m.log2 + 1 = 53; omega),
      unpack_normal (by omega) (by omega) hnormal hlt]
    congr 1
    omega
  · have hlog : m.log2 < 52 := (log2_lt_iff (by omega)).mpr (not_le.mp hnormal)
    rw [if_neg (by change ¬ m.log2 + 1 = 53; omega), unpack_subnormal hm (not_le.mp hnormal)]
    congr 1
    omega

lemma canonical_unpack {b : BitVec 64} {s : Sign} {m : Nat} {e : Int} {hm : 0 < m}
    (h : unpack Format.binary64 b = .finite s m e hm) : Canonical m e := by
  have hlt : (@unpackMantissa Format.binary64 b).toNat < 2 ^ 52 := BitVec.isLt _
  have hone := toNat_one_append (@unpackMantissa Format.binary64 b)
  change _ = 2 ^ 52 + _ at hone
  rw [unpack] at h
  simp only at h
  split_ifs at h with _ _ hexponent
  · obtain ⟨-, rfl, rfl⟩ := (finite.injEq ..).mp h
    rw [hexponent]
    exact ⟨by omega, le_refl _, .inr rfl⟩
  · obtain ⟨-, rfl, rfl⟩ := (finite.injEq ..).mp h
    have hpos : 0 < (@unpackExponent Format.binary64 b).toNat := by
      rw [Nat.pos_iff_ne_zero]
      exact fun h0 => hexponent (BitVec.eq_of_toNat_eq h0)
    refine ⟨by omega, ?_, .inl (by omega)⟩
    change -1074 ≤ _ - (1023 + 52 : Int)
    omega

lemma le_of_ranked {u v : UnpackedFloat} {j k : Int} (hu : Ranked u j) (hv : Ranked v k)
    (h : j ≤ k) :
    UnpackedFloat.le (unpack Format.binary64 (pack Format.binary64 u))
      (unpack Format.binary64 (pack Format.binary64 v)) = true := by
  have hv0 := @nonneg_unpack_pack Format.binary64 _ (nonneg_of_ranked hv)
  obtain ⟨s, rfl, -⟩ | ⟨m, e, hm, rfl, hm', rfl⟩ := ranked_cases hu
  · rw [pack, unpack_packedZero]
    exact nonneg_iff.mp hv0
  · obtain ⟨t, rfl, rfl⟩ | ⟨n, f, hn, rfl, hn', rfl⟩ := ranked_cases hv
    · have hle := hm'.le
      omega
    · rw [unpack_pack hm hm', unpack_pack hn hn']
      obtain ⟨hm1, hm2, hm3⟩ := hm'
      obtain ⟨hn1, hn2, hn3⟩ := hn'
      have hle : e < f ∨ e = f ∧ m ≤ n := by omega
      split_ifs with he hf hf
      · rfl
      · omega
      · rfl
      · exact le_finite_iff.mpr hle

section

variable {m n : Nat} {e f : Int}

lemma le_lastPlace_mul_self (h : Canonical m e) : e + e ≤ lastPlace (m * m) (e + e) := by
  rw [lastPlace_eq]
  rcases h.normal with hn | hn
  · have hlog : ¬ (m * m).log2 < 52 := by
      rw [log2_lt_iff (by omega), not_lt]
      exact hn.trans (Nat.le_mul_self m)
    omega
  · omega

variable (hm : Canonical m e) (hn : Canonical n f) (h : e < f ∨ e = f ∧ m ≤ n)

include hm hn h

lemma le_mul_two_pow : m ≤ n * 2 ^ (f - e).toNat := by
  obtain ⟨hlt, hle, -⟩ := hm
  obtain ⟨-, -, hnormal⟩ := hn
  rcases h with h | ⟨rfl, h⟩
  · have hpow : 2 ^ 1 ≤ 2 ^ (f - e).toNat := Nat.pow_le_pow_right two_pos (by omega)
    calc m ≤ n * 2 ^ 1 := by omega
      _ ≤ n * 2 ^ (f - e).toNat := Nat.mul_le_mul_left n hpow
  · rw [Int.sub_self, Int.toNat_zero, pow_zero, mul_one]
    exact h

lemma rank_mul_self : rank (m * m) (e + e) ≤ rank (n * n) (f + f) := by
  have hle := le_mul_two_pow hm hn h
  have hs : (f + f - (e + e)).toNat = (f - e).toNat + (f - e).toNat := by omega
  refine rank_mono (le_lastPlace_mul_self hm) (le_lastPlace_mul_self hn) (by omega) ?_
  calc m * m ≤ n * 2 ^ (f - e).toNat * (n * 2 ^ (f - e).toNat) := Nat.mul_le_mul hle hle
    _ = n * n * 2 ^ (f + f - (e + e)).toNat := by rw [hs, pow_add]; ring

end

section

variable {u v : UnpackedFloat}

lemma nonneg_mul_self (hu : Nonneg u) : Nonneg (mul Format.binary64 u u) := by
  obtain ⟨s, rfl⟩ | rfl | ⟨m, e, hm, rfl⟩ := nonneg_cases hu
  · trivial
  · rfl
  · exact nonneg_roundWithAccuracy

/-- Also where the squares are too large for doubles, or too small to be told from zero. -/
lemma le_mul_self {b c : BitVec 64} (hb : unpack Format.binary64 b = u)
    (hc : unpack Format.binary64 c = v) (hu : Nonneg u) (hv : Nonneg v)
    (h : UnpackedFloat.le u v = true) :
    UnpackedFloat.le (unpack Format.binary64 (pack Format.binary64 (mul Format.binary64 u u)))
      (unpack Format.binary64 (pack Format.binary64 (mul Format.binary64 v v))) = true := by
  have hu2 := @nonneg_unpack_pack Format.binary64 _ (nonneg_mul_self hu)
  have hv2 := @nonneg_unpack_pack Format.binary64 _ (nonneg_mul_self hv)
  obtain ⟨s, rfl⟩ | rfl | ⟨m, e, hm, rfl⟩ := nonneg_cases hu
  · rw [mul, pack, unpack_packedZero]
    exact nonneg_iff.mp hv2
  · obtain ⟨t, rfl⟩ | rfl | ⟨n, f, hn, rfl⟩ := nonneg_cases hv
    · cases h
    · rfl
    · cases h
  · obtain ⟨t, rfl⟩ | rfl | ⟨n, f, hn, rfl⟩ := nonneg_cases hv
    · cases h
    · exact le_infinity hu2
    · have hm' := canonical_unpack hb
      have hn' := canonical_unpack hc
      exact le_of_ranked (ranked_round (le_lastPlace_mul_self hm'))
        (ranked_round (le_lastPlace_mul_self hn')) (rank_mul_self hm' hn' (le_finite_iff.mp h))

end

section

variable {x y z : Float}

lemma le_def : x ≤ y ↔ UnpackedFloat.le x.toModel.unpack y.toModel.unpack = true :=
  ⟨of_decide_eq_true, decide_eq_true⟩

lemma lt_def : x < y ↔ UnpackedFloat.lt x.toModel.unpack y.toModel.unpack = true :=
  ⟨of_decide_eq_true, decide_eq_true⟩

lemma le_height_iff :
    x ≤ y ↔ ∃ a ∈ height x.toModel.unpack, ∃ b ∈ height y.toModel.unpack, a ≤ b :=
  le_def.trans le_iff

lemma lt_height_iff :
    x < y ↔ ∃ a ∈ height x.toModel.unpack, ∃ b ∈ height y.toModel.unpack, a < b :=
  lt_def.trans lt_iff

lemma exists_height (hx : ¬ x.isNaN = true) : ∃ a, height x.toModel.unpack = some a :=
  Option.ne_none_iff_exists'.mp fun h => hx (isNaN_iff.mpr h)

lemma not_isNaN_of_le (h : x ≤ y) : ¬ x.isNaN = true ∧ ¬ y.isNaN = true := by
  obtain ⟨a, ha, b, hb, -⟩ := le_height_iff.mp h
  constructor
  · intro hx
    rw [isNaN_iff.mp hx] at ha
    cases ha
  · intro hy
    rw [isNaN_iff.mp hy] at hb
    cases hb

protected lemma le_refl (hx : ¬ x.isNaN = true) : x ≤ x := by
  obtain ⟨a, ha⟩ := exists_height hx
  exact le_height_iff.mpr ⟨a, ha, a, ha, le_rfl⟩

protected lemma le_trans (h : x ≤ y) (h' : y ≤ z) : x ≤ z := by
  rw [le_height_iff] at *
  obtain ⟨a, ha, b, hb, hab⟩ := h
  obtain ⟨b', hb', c, hc, hbc⟩ := h'
  obtain rfl := Option.mem_unique hb hb'
  exact ⟨a, ha, c, hc, hab.trans hbc⟩

protected lemma lt_of_le_of_lt (h : x ≤ y) (h' : y < z) : x < z := by
  rw [le_height_iff] at h
  rw [lt_height_iff] at *
  obtain ⟨a, ha, b, hb, hab⟩ := h
  obtain ⟨b', hb', c, hc, hbc⟩ := h'
  obtain rfl := Option.mem_unique hb hb'
  exact ⟨a, ha, c, hc, hab.trans_lt hbc⟩

protected lemma le_of_lt (h : x < y) : x ≤ y := by
  obtain ⟨a, ha, b, hb, hab⟩ := lt_height_iff.mp h
  exact le_height_iff.mpr ⟨a, ha, b, hb, hab.le⟩

protected lemma le_of_not_lt (hx : ¬ x.isNaN = true) (hy : ¬ y.isNaN = true) (h : ¬ x < y) :
    y ≤ x := by
  obtain ⟨a, ha⟩ := exists_height hx
  obtain ⟨b, hb⟩ := exists_height hy
  refine le_height_iff.mpr ⟨b, hb, a, ha, not_lt.mp fun hab => h ?_⟩
  exact lt_height_iff.mpr ⟨a, ha, b, hb, hab⟩

lemma mul_self_le_mul_self (hx : 0 ≤ x) (h : x ≤ y) : x * x ≤ y * y := by
  have hy := Double.le_trans hx h
  rw [zero_le_iff] at hx hy
  rw [le_def] at h ⊢
  exact le_mul_self rfl rfl hx hy h

end

end GalacticWinds.Double
