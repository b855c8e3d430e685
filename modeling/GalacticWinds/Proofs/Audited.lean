import GalacticWinds.Proofs.Extended

/-! Arithmetic that accounts for its divisions: with a number go all that have divided it, or what
it was made of. -/

namespace GalacticWinds

structure Audited (α : Type) where
  value : α
  divisors : List α

namespace Audited

section

variable {α : Type}

def given (x : α) : Audited α :=
  ⟨x, []⟩

def map (f : α → α) (x : Audited α) : Audited α :=
  ⟨f x.value, x.divisors⟩

def zipWith (f : α → α → α) (x y : Audited α) : Audited α :=
  ⟨f x.value y.value, x.divisors ++ y.divisors⟩

def div [Scalar α] (x y : Audited α) : Audited α :=
  ⟨x.value / y.value, x.divisors ++ y.divisors ++ [y.value]⟩

instance scalar [Scalar α] : Scalar (Audited α) where
  zero := ⟨given 0⟩
  one := ⟨given 1⟩
  add := ⟨zipWith (· + ·)⟩
  sub := ⟨zipWith (· - ·)⟩
  mul := ⟨zipWith (· * ·)⟩
  div := ⟨div⟩
  neg := ⟨map (-·)⟩
  lt := ⟨fun x y => x.value < y.value⟩
  le := ⟨fun x y => x.value ≤ y.value⟩
  scientific := ⟨fun m s e => given (OfScientific.ofScientific m s e)⟩
  ofInt := ⟨fun n => given n⟩
  decLT x y := inferInstanceAs (Decidable (x.value < y.value))
  decLE x y := inferInstanceAs (Decidable (x.value ≤ y.value))
  abs := map Scalar.abs
  sqrt := map Scalar.sqrt
  max := zipWith Scalar.max
  min := zipWith Scalar.min
  isFinite x := Scalar.isFinite x.value

instance transcendental [Transcendental α] : Transcendental (Audited α) where
  pi := given Transcendental.pi
  exp := map Transcendental.exp
  sin := map Transcendental.sin
  cos := map Transcendental.cos
  acos := map Transcendental.acos
  cbrt := map Transcendental.cbrt

end

def ofReal (r : ℝ) : Audited Extended :=
  given (.real r)

lemma value_div_of_nan {x : Audited Extended} (hx : x.value = .nan) (y : Audited Extended) :
    (x / y).value = .nan := by
  change Extended.mul x.value (Extended.inv y.value) = .nan
  rw [hx]
  cases Extended.inv y.value <;> rfl

/-- The number is this one, and nothing but positive numbers has divided on the way to it. -/
structure Reads (x : Audited Extended) (r : ℝ) : Prop where
  value : x.value = .real r
  divisors : ∀ d ∈ x.divisors, 0 < d

namespace Reads

lemma ofReal (r : ℝ) : (ofReal r).Reads r where
  value := rfl
  divisors := by simp [Audited.ofReal, given]

lemma zero : (0 : Audited Extended).Reads 0 := ofReal 0

lemma one : (1 : Audited Extended).Reads 1 := ofReal 1

lemma ofInt (n : Int) : (n : Audited Extended).Reads n := ofReal n

variable {x y : Audited Extended} {r s : ℝ}

lemma map {f : Extended → Extended} (hx : x.Reads r) (hf : f (.real r) = .real s) :
    (x.map f).Reads s where
  value := by rw [Audited.map, hx.value, hf]
  divisors := hx.divisors

lemma exp (hx : x.Reads r) : (Transcendental.exp x).Reads (Real.exp r) := hx.map rfl

lemma neg (hx : x.Reads r) : (-x).Reads (-r) := hx.map rfl

lemma sqrt (hx : x.Reads r) (hr : 0 ≤ r) : (Scalar.sqrt x).Reads √r :=
  hx.map (if_neg (not_lt.mpr hr))

lemma sqrt_neg (hx : x.Reads r) (hr : r < 0) : (Scalar.sqrt x).value = .nan := by
  have hroot : Scalar.sqrt (Extended.real r) = .nan := if_pos hr
  rw [← hroot, ← hx.value]
  rfl

variable (hx : x.Reads r) (hy : y.Reads s)

include hx hy

lemma le_iff : x ≤ y ↔ r ≤ s := by
  rw [← Extended.real_le, ← hx.value, ← hy.value]
  rfl

lemma lt_iff : x < y ↔ r < s := by
  rw [← Extended.real_lt, ← hx.value, ← hy.value]
  rfl

lemma zipWith {f : Extended → Extended → Extended} {t : ℝ}
    (hf : f (.real r) (.real s) = .real t) : (Audited.zipWith f x y).Reads t where
  value := by rw [Audited.zipWith, hx.value, hy.value, hf]
  divisors := List.forall_mem_append.mpr ⟨hx.divisors, hy.divisors⟩

lemma add : (x + y).Reads (r + s) := hx.zipWith hy rfl

lemma sub : (x - y).Reads (r - s) := hx.zipWith hy (Extended.real_sub r s)

lemma mul : (x * y).Reads (r * s) := hx.zipWith hy rfl

lemma max : (Scalar.max x y).Reads (Max.max r s) := by
  refine hx.zipWith hy ?_
  change (if r ≤ s then Extended.real s else .real r) = .real (Max.max r s)
  rw [max_def, apply_ite Extended.real]

lemma div (hs : 0 < s) : (x / y).Reads (r / s) where
  value := by
    have hinv : Extended.inv (.real s) = .real s⁻¹ := if_neg hs.ne'
    change Extended.mul x.value (Extended.inv y.value) = .real (r / s)
    rw [hx.value, hy.value, hinv]
    exact congrArg Extended.real (div_eq_mul_inv r s).symm
  divisors := by
    refine List.forall_mem_append.mpr ⟨(hx.add hy).divisors, ?_⟩
    rw [List.forall_mem_singleton, hy.value]
    exact Extended.real_lt.mpr hs

end Reads

end Audited

end GalacticWinds
