import GalacticWinds.Particle.Basic
import GalacticWinds.Tree.Octant

/-!
Axis-parallel cubes, half-open at the upper faces.
-/

namespace GalacticWinds

structure Cube (α : Type) where
  center : Vec α
  half : α

namespace Cube

variable {α : Type} [Scalar α]

def contains (c : Cube α) (p : Vec α) : Bool :=
  (Vec.zipWith (fun m x => decide (m - c.half ≤ x) && decide (x < m + c.half)) c.center p).all

def octant (c : Cube α) (p : Vec α) : Octant :=
  ⟨decide (c.center.x ≤ p.x), decide (c.center.y ≤ p.y), decide (c.center.z ≤ p.z)⟩

def child (c : Cube α) (o : Octant) : Cube α :=
  let half := c.half / 2.0
  let shift (m : α) (upper : Bool) : α := if upper then m + half else m - half
  ⟨⟨shift c.center.x o.x, shift c.center.y o.y, shift c.center.z o.z⟩, half⟩

def octants (c : Cube α) : List (Cube α) :=
  Octant.all.map c.child

def excess (half m x : α) : α :=
  let e := Scalar.abs (x - m) - half
  if 0 < e then e else 0

def distSq (c : Cube α) (p : Vec α) : α :=
  (Vec.zipWith (excess c.half) c.center p).normSq

/-- The half size for a given extent: wider by one part in a thousand, and by a little more so
that a single point has room. -/
def padded (extent : α) : α :=
  0.5 * extent * 1.001 + 1e-9

def spanning (lo hi : Vec α) : Cube α :=
  let extent := (hi - lo).foldl Scalar.max 0
  ⟨(lo + hi).map (0.5 * ·), padded extent⟩

/-- A cube around all points, and a cube about the origin where there are none. -/
def bounding : List (Vec α) → Cube α
  | [] => ⟨0, 1⟩
  | p :: ps =>
    spanning (ps.foldl (Vec.zipWith Scalar.min) p) (ps.foldl (Vec.zipWith Scalar.max) p)

end Cube

end GalacticWinds
