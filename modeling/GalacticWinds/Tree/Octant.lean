/-!
The eight octants of a cube, and tables with an entry for each.
-/

namespace GalacticWinds

/-- On each axis, whether the octant is on the upper side. -/
@[ext] structure Octant where
  x : Bool
  y : Bool
  z : Bool
  deriving DecidableEq, Repr

namespace Octant

def all : List Octant :=
  [⟨false, false, false⟩, ⟨true, false, false⟩, ⟨false, true, false⟩, ⟨true, true, false⟩,
    ⟨false, false, true⟩, ⟨true, false, true⟩, ⟨false, true, true⟩, ⟨true, true, true⟩]

def number (o : Octant) : Nat :=
  o.x.toNat + 2 * o.y.toNat + 4 * o.z.toNat

@[simp] theorem mem_all (o : Octant) : o ∈ all := by
  obtain ⟨x, y, z⟩ := o
  cases x <;> cases y <;> cases z <;> decide

theorem nodup_all : all.Nodup := by
  decide

theorem map_number_all : all.map number = List.range 8 := by
  decide

end Octant

structure Octet (β : Type) where
  e0 : β
  e1 : β
  e2 : β
  e3 : β
  e4 : β
  e5 : β
  e6 : β
  e7 : β

namespace Octet

variable {β : Type}

def get (t : Octet β) : Octant → β
  | ⟨false, false, false⟩ => t.e0
  | ⟨true, false, false⟩ => t.e1
  | ⟨false, true, false⟩ => t.e2
  | ⟨true, true, false⟩ => t.e3
  | ⟨false, false, true⟩ => t.e4
  | ⟨true, false, true⟩ => t.e5
  | ⟨false, true, true⟩ => t.e6
  | ⟨true, true, true⟩ => t.e7

def ofFn (f : Octant → β) : Octet β where
  e0 := f ⟨false, false, false⟩
  e1 := f ⟨true, false, false⟩
  e2 := f ⟨false, true, false⟩
  e3 := f ⟨true, true, false⟩
  e4 := f ⟨false, false, true⟩
  e5 := f ⟨true, false, true⟩
  e6 := f ⟨false, true, true⟩
  e7 := f ⟨true, true, true⟩

theorem get_ofFn (f : Octant → β) : (ofFn f).get = f := by
  funext ⟨x, y, z⟩
  cases x <;> cases y <;> cases z <;> rfl

end Octet

end GalacticWinds
