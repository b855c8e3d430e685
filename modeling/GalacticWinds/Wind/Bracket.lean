import GalacticWinds.Scalar

/-!
The search for a radius that encloses about forty dark matter particles. The radius grows until
it encloses too many, then the interval between too few and too many is halved.
-/

namespace GalacticWinds

/-- A radius to be tried and the interval it lies in. A negative `right` says that no radius is
known to enclose too many. -/
structure Bracket (α : Type) where
  radius : α
  left : α
  right : α

namespace Bracket

def wanted : Int := 40

def tolerance : Int := 2

/-- The lowest number of 64 bits. -/
def lowest : Int := -9223372036854775808

/-- How many more than wanted, in 64 bits: below the lowest number it comes round from the top. -/
def surplus (count : Int) : Int :=
  if count - wanted < lowest then count - wanted + 18446744073709551616 else count - wanted

def tooFew (count : Int) : Bool :=
  surplus count < -tolerance

def tooMany (count : Int) : Bool :=
  tolerance < surplus count

def inBand (count : Int) : Bool :=
  !tooFew count && !tooMany count

variable {α : Type} [Scalar α]

def growth : α := 1.3

def narrow : α := 1e-2

def unused : Bracket α :=
  ⟨0, 0, -1⟩

def ofHsml (hsml : α) : Bracket α :=
  ⟨2.0 * hsml, 0, -1⟩

def bounded (b : Bracket α) : Bool :=
  0 ≤ b.right

def close (b : Bracket α) (count : Int) : Bracket α :=
  if tooFew count then { b with left := b.radius }
  else if tooMany count then { b with right := b.radius }
  else b

def next? (b : Bracket α) (maxRadius : α) : Option α :=
  if b.bounded then
    if b.right - b.left < narrow then none else some (0.5 * (b.left + b.right))
  else if maxRadius < b.radius then none
  else some (b.radius * growth)

def step (b : Bracket α) (count : Int) (maxRadius : α) : Bracket α × Bool :=
  let b := b.close count
  match b.next? maxRadius with
  | none => (b, true)
  | some radius => ({ b with radius }, inBand count)

end Bracket

end GalacticWinds
