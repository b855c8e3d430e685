import GalacticWinds.Vec
import GalacticWinds.Walk.Merge

/-!
The moments of a set of velocities, taken one velocity at a time, and the spread they give.
-/

namespace GalacticWinds

structure Moments (α : Type) where
  count : Int
  first : Vec α
  second : α

namespace Moments

variable {α : Type} [Scalar α]

def zero : Moments α :=
  ⟨0, 0, 0⟩

def add (m : Moments α) (v : Vec α) : Moments α :=
  ⟨m.count + 1, m.first + v, v.foldl (fun s u => s + Scalar.sq u) m.second⟩

def ofList (vs : List (Vec α)) : Moments α :=
  vs.foldl add zero

def merge (mode : Merge) (m n : Moments α) : Moments α :=
  ⟨mode.apply m.count n.count, Vec.zipWith mode.apply m.first n.first,
    mode.apply m.second n.second⟩

def variance (m : Moments α) : α :=
  let n : α := (m.count : α)
  m.first.foldl (fun s u => s - Scalar.sq (u / n)) (m.second / n)

def dispersion (m : Moments α) : α :=
  if m.count ≤ 0 then 0 else Scalar.sqrt (Scalar.max (m.variance / 3.0) 0)

end Moments

end GalacticWinds
