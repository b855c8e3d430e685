/-!
The shortest decimal that reads back as a given double: the coarsest power-of-ten grid with a
point among the reals that round to it, and of two such points the nearer.
-/

namespace GalacticWinds

/-- A positive double as `mantissa * 2 ^ exponent`. Where the doubles below lie closer together
than those above, `tight` holds. -/
structure Binary where
  mantissa : Nat
  exponent : Int
  tight : Bool
  deriving DecidableEq, Repr

structure Decimal where
  digits : Nat
  exponent : Int
  deriving DecidableEq, Repr

namespace Binary

def fractionRange : Nat := Nat.pow 2 52

def fieldRange : Nat := Nat.pow 2 11

def ofBits (bits : UInt64) : Binary :=
  let field : Nat := bits.toNat / fractionRange % fieldRange
  let fraction : Nat := bits.toNat % fractionRange
  if field = 0 then ⟨fraction, -1074, false⟩
  else ⟨fractionRange + fraction, (field : Int) - 1075, fraction = 0 && 1 < field⟩

/-! In quarters of the last place the value is `4 * mantissa`, and the reals that round to it
reach from `low` to `high`, ends included when the mantissa is even. -/

def low (b : Binary) : Nat :=
  if b.tight then 4 * b.mantissa - 1 else 4 * b.mantissa - 2

def high (b : Binary) : Nat :=
  4 * b.mantissa + 2

def reaches (b : Binary) (x y : Nat) : Bool :=
  if b.mantissa % 2 = 0 then x ≤ y else x < y

def scale (b : Binary) (k : Int) : Nat × Nat :=
  let p := b.exponent - 2
  (Nat.pow 2 p.toNat * Nat.pow 10 (-k).toNat, Nat.pow 10 k.toNat * Nat.pow 2 (-p).toNat)

/-- The multiple of `10 ^ k` that stands for the number, if one rounds to it. Of two the nearer
is taken, and midway between them the larger. -/
def onGrid? (b : Binary) (k : Int) : Option Nat :=
  let (num, den) := b.scale k
  let value := 4 * b.mantissa * num
  let below := value / den
  let lower := b.reaches (b.low * num) (below * den)
  let upper := b.reaches ((below + 1) * den) (b.high * num)
  if lower && (!upper || 2 * (value - below * den) < den) then some below
  else if upper then some (below + 1)
  else none

/-- No more than this many grids lie between the leading power of ten and a grid finer than the
doubles. -/
def gridLimit : Nat := 20

def coarsest? (b : Binary) : Nat → Int → Option Decimal
  | 0, _ => none
  | n + 1, k =>
    match b.onGrid? k with
    | some digits => some ⟨digits, k⟩
    | none => b.coarsest? n (k - 1)

def leadingPower (b : Binary) : Int :=
  (b.exponent + Nat.log2 b.mantissa + 1) * 30103 / 100000 + 1

def shortest (b : Binary) : Decimal :=
  if b.mantissa = 0 then ⟨0, 0⟩
  else (b.coarsest? gridLimit b.leadingPower).getD ⟨0, 0⟩

end Binary

end GalacticWinds
