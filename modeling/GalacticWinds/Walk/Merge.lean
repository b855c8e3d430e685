namespace GalacticWinds

/-- How a partial result enters a record. The part found on the task of the particle itself
replaces what was there, and the parts found elsewhere are added. -/
inductive Merge where
  | replace
  | add
  deriving DecidableEq, Repr

def Merge.apply {β : Type} [Add β] : Merge → β → β → β
  | replace, _, new => new
  | add, old, new => old + new

@[simp] theorem Merge.apply_replace {β : Type} [Add β] (old new : β) :
    replace.apply old new = new :=
  rfl

@[simp] theorem Merge.apply_add {β : Type} [Add β] (old new : β) : add.apply old new = old + new :=
  rfl

end GalacticWinds
