import GalacticWinds.Decimal.Shortest

/-!
How a double is written out: in positional form between two powers of ten, and with a power of
ten beyond them.
-/

namespace GalacticWinds

namespace Decimal

def digitList (d : Decimal) : List Char :=
  Nat.toDigits 10 d.digits

def magnitude (d : Decimal) : Int :=
  d.exponent + (d.digitList.length - 1 : Nat)

structure Style where
  least : Option Int
  greatest : Option Int
  keepsPoint : Bool

namespace Style

/-- Positional at every magnitude, and nothing after a whole number: the form within a message. -/
def plain : Style :=
  ⟨none, none, false⟩

/-- Positional from `1e-4` to below `1e16`, and a whole number marked as not an integer. -/
def marked : Style :=
  ⟨some (-4), some 15, true⟩

def positional (s : Style) (magnitude : Int) : Bool :=
  s.least.all (· ≤ magnitude) && s.greatest.all (magnitude ≤ ·)

end Style

def positionalText (keepsPoint : Bool) (d : Decimal) : List Char :=
  let ds := d.digitList
  if 0 ≤ d.exponent then
    ds ++ List.replicate d.exponent.toNat '0' ++ if keepsPoint then ['.', '0'] else []
  else
    let places := (-d.exponent).toNat
    let whole := ds.take (ds.length - places)
    let fraction := ds.drop (ds.length - places)
    (if whole = [] then ['0'] else whole) ++ '.' ::
      (List.replicate (places - fraction.length) '0' ++ fraction)

def exponentText (d : Decimal) : List Char :=
  (match d.digitList with
    | [] => []
    | [c] => [c]
    | c :: cs => c :: '.' :: cs) ++
  'e' :: (toString d.magnitude).toList

def text (s : Style) (d : Decimal) : List Char :=
  if s.positional d.magnitude then d.positionalText s.keepsPoint else d.exponentText

def ofFloat (s : Style) (x : Float) : String :=
  if x.isNaN then "NaN"
  else
    let body := if x.isInf then "inf".toList else text s (Binary.ofBits x.toBits).shortest
    String.ofList (if x.toBits &&& 0x8000000000000000 = 0 then body else '-' :: body)

end Decimal

end GalacticWinds
