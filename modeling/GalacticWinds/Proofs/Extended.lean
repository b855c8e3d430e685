import GalacticWinds.Proofs.Exact

/-! Exact arithmetic with the values of a double that are no numbers: two infinities, and what is
left where an operation has no answer. Zero has one sign only. -/

namespace GalacticWinds

inductive Extended where
  | real (x : ℝ)
  | infinite (positive : Bool)
  | nan

namespace Extended

noncomputable section

open scoped Classical

def lift (f : ℝ → ℝ) (atInfinity : Bool → Extended) : Extended → Extended
  | real x => real (f x)
  | infinite b => atInfinity b
  | nan => nan

def neg : Extended → Extended :=
  lift (-·) fun b => infinite !b

def add : Extended → Extended → Extended
  | real x, real y => real (x + y)
  | real _, infinite b => infinite b
  | infinite b, real _ => infinite b
  | infinite b, infinite c => if b = c then infinite b else nan
  | nan, _ => nan
  | _, nan => nan

def times (b : Bool) (x : ℝ) : Extended :=
  if 0 < x then infinite b else if x < 0 then infinite !b else nan

def mul : Extended → Extended → Extended
  | real x, real y => real (x * y)
  | real x, infinite b => times b x
  | infinite b, real x => times b x
  | infinite b, infinite c => infinite (b == c)
  | nan, _ => nan
  | _, nan => nan

def inv : Extended → Extended
  | real x => if x = 0 then infinite true else real x⁻¹
  | infinite _ => real 0
  | nan => nan

def Le : Extended → Extended → Prop
  | real x, real y => x ≤ y
  | real _, infinite b => b = true
  | infinite b, real _ => b = false
  | infinite b, infinite c => b = true → c = true
  | nan, _ => False
  | _, nan => False

def Lt (x y : Extended) : Prop :=
  Le x y ∧ ¬ Le y x

def sqrt : Extended → Extended
  | real x => if x < 0 then nan else real √x
  | infinite true => infinite true
  | infinite false => nan
  | nan => nan

def max : Extended → Extended → Extended
  | nan, y => y
  | x, nan => x
  | x, y => if Le x y then y else x

def min : Extended → Extended → Extended
  | nan, y => y
  | x, nan => x
  | x, y => if Le x y then x else y

def isFinite : Extended → Bool
  | real _ => true
  | infinite _ => false
  | nan => false

instance scalar : Scalar Extended where
  zero := ⟨real 0⟩
  one := ⟨real 1⟩
  add := ⟨add⟩
  sub := ⟨fun x y => add x (neg y)⟩
  mul := ⟨mul⟩
  div := ⟨fun x y => mul x (inv y)⟩
  neg := ⟨neg⟩
  lt := ⟨Lt⟩
  le := ⟨Le⟩
  scientific := ⟨fun m s e => real (OfScientific.ofScientific m s e)⟩
  ofInt := ⟨fun n => real n⟩
  decLT _ _ := inferInstance
  decLE _ _ := inferInstance
  abs := lift (|·|) fun _ => infinite true
  sqrt := sqrt
  max := max
  min := min
  isFinite := isFinite

instance transcendental : Transcendental Extended where
  pi := real Real.pi
  exp := lift Real.exp fun b => if b then infinite true else real 0
  sin := lift Real.sin fun _ => nan
  cos := lift Real.cos fun _ => nan
  acos
    | real x => if |x| ≤ 1 then real (Real.arccos x) else nan
    | infinite _ => nan
    | nan => nan
  cbrt := lift Transcendental.cbrt infinite

end

variable (x y : ℝ)

lemma real_sub : real x - real y = real (x - y) :=
  congrArg real (sub_eq_add_neg x y).symm

variable {x y}

lemma real_le : real x ≤ real y ↔ x ≤ y := Iff.rfl

lemma real_lt : real x < real y ↔ x < y := by
  change x ≤ y ∧ ¬ y ≤ x ↔ x < y
  rw [lt_iff_le_not_ge]

lemma isFinite_iff {z : Extended} : Scalar.isFinite z = true ↔ ∃ x, z = real x := by
  cases z with
  | real x => exact ⟨fun _ => ⟨x, rfl⟩, fun _ => rfl⟩
  | infinite b => exact ⟨fun h => Bool.noConfusion h, fun ⟨x, h⟩ => Extended.noConfusion h⟩
  | nan => exact ⟨fun h => Bool.noConfusion h, fun ⟨x, h⟩ => Extended.noConfusion h⟩

section

variable {u v : Extended} (hu : Scalar.isFinite u = true) (hv : Scalar.isFinite v = true)

include hu hv

lemma isFinite_add : Scalar.isFinite (u + v) = true := by
  obtain ⟨x, rfl⟩ := isFinite_iff.mp hu
  obtain ⟨y, rfl⟩ := isFinite_iff.mp hv
  rfl

lemma isFinite_sub : Scalar.isFinite (u - v) = true := by
  obtain ⟨x, rfl⟩ := isFinite_iff.mp hu
  obtain ⟨y, rfl⟩ := isFinite_iff.mp hv
  rfl

lemma isFinite_mul : Scalar.isFinite (u * v) = true := by
  obtain ⟨x, rfl⟩ := isFinite_iff.mp hu
  obtain ⟨y, rfl⟩ := isFinite_iff.mp hv
  rfl

lemma isFinite_max : Scalar.isFinite (Scalar.max u v) = true := by
  obtain ⟨x, rfl⟩ := isFinite_iff.mp hu
  obtain ⟨y, rfl⟩ := isFinite_iff.mp hv
  change Scalar.isFinite (if x ≤ y then real y else real x) = true
  split_ifs <;> rfl

lemma isFinite_min : Scalar.isFinite (Scalar.min u v) = true := by
  obtain ⟨x, rfl⟩ := isFinite_iff.mp hu
  obtain ⟨y, rfl⟩ := isFinite_iff.mp hv
  change Scalar.isFinite (if x ≤ y then real x else real y) = true
  split_ifs <;> rfl

end

lemma isFinite_sqrt (hx : 0 ≤ x) : Scalar.isFinite (Scalar.sqrt (real x)) = true :=
  congrArg Scalar.isFinite (if_neg (not_lt.mpr hx) : Scalar.sqrt (real x) = real √x)

end Extended

end GalacticWinds
