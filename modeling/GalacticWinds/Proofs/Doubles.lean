import GalacticWinds.Scalar
import Mathlib

/-! What the sign of a double survives: comparison with zero, packing, the square root and the
product. -/

namespace GalacticWinds.Double

open Float.Model (Format UnpackedFloat)
open Float.Model.UnpackedFloat

/-- Zero has no sign here, whichever it carries. -/
def Nonneg : UnpackedFloat → Prop
  | .infinity s => s = .positive
  | .notANumber => False
  | .zero _ => True
  | .finite s _ _ _ => s = .positive

section

variable {spec : Format} {s : Sign} {e : BitVec spec.exponentBits}
  {m : BitVec spec.mantissaBitsWithoutImplicit}

lemma unpackSign_packComponents : unpackSign (packComponents spec s e m) = s.toBitVec := by
  ext i hi
  obtain rfl : i = 0 := by omega
  simp [unpackSign, packComponents, BitVec.getLsbD_append, BitVec.getElem_append]

lemma ofBitVec_toBitVec : Sign.ofBitVec s.toBitVec = s := by
  cases s <;> rfl

/-- What is not all ones in its exponent is a number. -/
lemma ofNat_ne_neg_one {b : Nat} (hb : b + 1 < 2 ^ spec.exponentBits) :
    BitVec.ofNat spec.exponentBits b ≠ -1#_ := by
  intro h
  have hbits := congrArg BitVec.toNat h
  rw [BitVec.neg_one_eq_allOnes, BitVec.toNat_allOnes, BitVec.toNat_ofNat,
    Nat.mod_eq_of_lt (by omega)] at hbits
  omega

lemma zero_ne_neg_one : (0#_ : BitVec spec.exponentBits) ≠ -1#_ := by
  have hbits : 2 ^ 1 ≤ 2 ^ spec.exponentBits := Nat.pow_le_pow_right two_pos spec.he
  exact ofNat_ne_neg_one hbits

lemma unpack_packedZero : unpack spec (packedZero spec s) = .zero s := by
  rw [packedZero, unpack]
  simp only [unpackMantissa_packComponents, unpackExponent_packComponents,
    unpackSign_packComponents, ofBitVec_toBitVec, BitVec.ofNat_eq_ofNat, zero_ne_neg_one,
    ↓reduceIte, ↓reduceDIte]

lemma nonneg_unpack_packComponents (h : e = -1#_ → m = 0#_) :
    Nonneg (unpack spec (packComponents spec .positive e m)) := by
  rw [unpack]
  simp only [unpackMantissa_packComponents, unpackExponent_packComponents,
    unpackSign_packComponents, ofBitVec_toBitVec]
  split_ifs with he hm
  · rfl
  · exact absurd (h he) hm
  · trivial
  · rfl
  · rfl

end

variable {spec : Format} {u v : UnpackedFloat}

lemma nonneg_cases (hu : Nonneg u) :
    (∃ s, u = .zero s) ∨ u = .infinity .positive ∨ ∃ m e hm, u = .finite .positive m e hm := by
  cases u with
  | notANumber => exact hu.elim
  | zero s => exact .inl ⟨s, rfl⟩
  | infinity s =>
    obtain rfl : s = .positive := hu
    exact .inr (.inl rfl)
  | finite s m e hm =>
    obtain rfl : s = .positive := hu
    exact .inr (.inr ⟨m, e, hm, rfl⟩)

lemma nonneg_unpack_pack (hu : Nonneg u) : Nonneg (unpack spec (pack spec u)) := by
  obtain ⟨s, rfl⟩ | rfl | ⟨m, e, hm, rfl⟩ := nonneg_cases hu
  · rw [pack, unpack_packedZero]
    trivial
  · exact nonneg_unpack_packComponents fun _ => rfl
  · rw [pack]
    split_ifs with hlarge hnormal
    · exact nonneg_unpack_packComponents fun _ => rfl
    · exact nonneg_unpack_packComponents fun h =>
        absurd h (ofNat_ne_neg_one (not_le.mp hlarge))
    · exact nonneg_unpack_packComponents fun h => absurd h zero_ne_neg_one

lemma nonneg_roundWithAccuracy {m : Nat} {e : Int} {a : Accuracy} :
    Nonneg (roundWithAccuracy spec .positive m e a) := by
  simp only [roundWithAccuracy]
  split_ifs
  · trivial
  · rfl

/-- Also where the square root is minus zero. -/
lemma nonneg_sqrt (hu : sqrt spec u ≠ .notANumber) : Nonneg (sqrt spec u) := by
  cases u with
  | notANumber => exact (hu rfl).elim
  | zero s => trivial
  | infinity s =>
    cases s with
    | negative => exact (hu rfl).elim
    | positive => rfl
  | finite s m e hm =>
    cases s with
    | negative => exact (hu rfl).elim
    | positive => exact nonneg_roundWithAccuracy

lemma nonneg_mul (hu : Nonneg u) (hv : Nonneg v) (hu' : u.isFinite = true)
    (hv' : v.isFinite = true) : Nonneg (mul spec u v) := by
  obtain ⟨s, rfl⟩ | rfl | ⟨m, e, hm, rfl⟩ := nonneg_cases hu
  · obtain ⟨t, rfl⟩ | rfl | ⟨n, f, hn, rfl⟩ := nonneg_cases hv
    · trivial
    · cases hv'
    · trivial
  · cases hu'
  · obtain ⟨t, rfl⟩ | rfl | ⟨n, f, hn, rfl⟩ := nonneg_cases hv
    · trivial
    · cases hv'
    · exact nonneg_roundWithAccuracy

lemma nonneg_iff {s : Sign} : Nonneg u ↔ UnpackedFloat.le (.zero s) u = true := by
  cases u with
  | notANumber => exact ⟨False.elim, fun h => Bool.noConfusion h⟩
  | zero t => exact iff_of_true trivial rfl
  | infinity t => cases t <;> simp [Nonneg, UnpackedFloat.le, UnpackedFloat.compare]
  | finite t m e hm => cases t <;> simp [Nonneg, UnpackedFloat.le, UnpackedFloat.compare]

lemma nonneg_of_not_lt {s : Sign} (hu : u.isFinite = true)
    (h : ¬ UnpackedFloat.lt u (.zero s) = true) : Nonneg u := by
  cases u with
  | notANumber => cases hu
  | infinity t => cases hu
  | zero t => trivial
  | finite t m e hm =>
    cases t with
    | negative => exact (h rfl).elim
    | positive => rfl

lemma lt_of_not_le {s : Sign} (hu : u.isFinite = true)
    (h : ¬ UnpackedFloat.le u (.zero s) = true) : UnpackedFloat.lt (.zero s) u = true := by
  cases u with
  | notANumber => cases hu
  | infinity t => cases hu
  | zero t => exact (h rfl).elim
  | finite t m e hm =>
    cases t with
    | negative => exact (h rfl).elim
    | positive => rfl

lemma nonneg_of_lt {s : Sign} (h : UnpackedFloat.lt (.zero s) u = true) : Nonneg u := by
  cases u with
  | notANumber => cases h
  | zero t => trivial
  | infinity t =>
    cases t with
    | negative => cases h
    | positive => rfl
  | finite t m e hm =>
    cases t with
    | negative => cases h
    | positive => rfl

lemma zero_eq : (@Zero.toOfNat0 Float scalarZero).ofNat = 0 := by
  decide +kernel

lemma unpack_zero : (0 : Float).toModel.unpack = .zero .positive := by
  have hzero : (0 : Float) = ⟨.pack (.zero .positive)⟩ := by decide +kernel
  rw [hzero]
  exact unpack_packedZero

variable {x y : Float}

lemma zero_le_iff : 0 ≤ x ↔ Nonneg x.toModel.unpack := by
  rw [nonneg_iff (s := .positive), ← unpack_zero]
  exact ⟨of_decide_eq_true, decide_eq_true⟩

lemma zero_le_of_not_lt (hx : x.isFinite = true) (h : ¬ x < 0) : 0 ≤ x := by
  rw [zero_le_iff]
  refine nonneg_of_not_lt (s := .positive) hx fun hlt => h ?_
  rw [← unpack_zero] at hlt
  exact decide_eq_true hlt

lemma zero_lt_of_not_le (hx : x.isFinite = true) (h : ¬ x ≤ 0) : 0 < x := by
  have hlt := lt_of_not_le (u := x.toModel.unpack) (s := .positive) hx fun hle => h ?_
  · rw [← unpack_zero] at hlt
    exact decide_eq_true hlt
  · rw [← unpack_zero] at hle
    exact decide_eq_true hle

lemma zero_le_of_zero_lt (h : 0 < x) : 0 ≤ x := by
  rw [zero_le_iff]
  refine nonneg_of_lt (s := .positive) ?_
  rw [← unpack_zero]
  exact of_decide_eq_true h

lemma zero_le_sqrt (h : x.sqrt.isFinite = true) : 0 ≤ x.sqrt := by
  rw [zero_le_iff]
  refine nonneg_unpack_pack (nonneg_sqrt fun hnan => ?_)
  have hpack : x.sqrt.isFinite = (Float.Model.pack .notANumber).isFinite :=
    congrArg (fun u => (Float.Model.pack u).isFinite) hnan
  rw [hpack] at h
  exact absurd h (by decide +kernel)

lemma zero_le_mul (hx : 0 ≤ x) (hy : 0 ≤ y) (hx' : x.isFinite = true)
    (hy' : y.isFinite = true) : 0 ≤ x * y := by
  rw [zero_le_iff] at *
  exact nonneg_unpack_pack (nonneg_mul hx hy hx' hy')

end GalacticWinds.Double
