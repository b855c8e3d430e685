import GalacticWinds.Scalar

namespace GalacticWinds

/-- What is done to a number that several hands act on in turn. -/
inductive Tally (α : Type) where
  | read
  | write (x : α)
  | add (x : α)
  | raise (x : α)

def Tally.apply {α : Type} [Scalar α] (value : α) : Tally α → α
  | read => value
  | write x => x
  | add x => value + x
  | raise x => Scalar.max value x

end GalacticWinds
