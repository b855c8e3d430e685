/-!
The arithmetic that the wind model is written in. `Scalar` lists operations alone, so that one
definition runs in doubles and is reasoned about in the reals; the laws are those of the type it
is read at. The instances below stand back behind any that the type has of its own.
-/

namespace GalacticWinds

class Scalar (α : Type) where
  zero : Zero α
  one : One α
  add : Add α
  sub : Sub α
  mul : Mul α
  div : Div α
  neg : Neg α
  lt : LT α
  le : LE α
  scientific : OfScientific α
  ofInt : IntCast α
  decLT (x y : α) : Decidable (x < y)
  decLE (x y : α) : Decidable (x ≤ y)
  abs : α → α
  sqrt : α → α
  /-- The larger of two numbers; where one is not a number, the other. -/
  max : α → α → α
  /-- The smaller of two numbers; where one is not a number, the other. -/
  min : α → α → α
  isFinite : α → Bool

section

variable {α : Type} [Scalar α]

instance (priority := 50) scalarZero : Zero α := Scalar.zero
instance (priority := 50) scalarOne : One α := Scalar.one
instance (priority := 50) scalarAdd : Add α := Scalar.add
instance (priority := 50) scalarSub : Sub α := Scalar.sub
instance (priority := 50) scalarMul : Mul α := Scalar.mul
instance (priority := 50) scalarDiv : Div α := Scalar.div
instance (priority := 50) scalarNeg : Neg α := Scalar.neg
instance (priority := 50) scalarLT : LT α := Scalar.lt
instance (priority := 50) scalarLE : LE α := Scalar.le
instance (priority := 50) scalarOfScientific : OfScientific α := Scalar.scientific
instance (priority := 50) scalarIntCast : IntCast α := Scalar.ofInt
instance (priority := 50) scalarDecidableLT : DecidableLT α := Scalar.decLT
instance (priority := 50) scalarDecidableLE : DecidableLE α := Scalar.decLE

def Scalar.sq (x : α) : α := x * x

end

class Transcendental (α : Type) extends Scalar α where
  pi : α
  exp : α → α
  sin : α → α
  cos : α → α
  acos : α → α
  cbrt : α → α

instance floatScalar : Scalar Float where
  zero := ⟨0.0⟩
  one := ⟨1.0⟩
  add := inferInstance
  sub := inferInstance
  mul := inferInstance
  div := inferInstance
  neg := inferInstance
  lt := inferInstance
  le := inferInstance
  scientific := inferInstance
  ofInt := ⟨Float.ofInt⟩
  decLT := Float.decLt
  decLE := Float.decLe
  abs := Float.abs
  sqrt := Float.sqrt
  max x y := if x.isNaN then y else if y.isNaN then x else if y < x then x else y
  min x y := if x.isNaN then y else if y.isNaN then x else if x < y then x else y
  isFinite := Float.isFinite

instance floatTranscendental : Transcendental Float where
  pi := 3.141592653589793
  exp := Float.exp
  sin := Float.sin
  cos := Float.cos
  acos := Float.acos
  cbrt := Float.cbrt

end GalacticWinds
