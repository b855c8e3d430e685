namespace GalacticWinds

inductive Species where
  | gas
  | darkMatter
  | star
  | blackHole
  deriving DecidableEq, Repr

namespace Species

def all : List Species :=
  [gas, darkMatter, star, blackHole]

theorem mem_all (s : Species) : s ∈ all := by
  cases s <;> decide

def name : Species → String
  | gas => "Gas"
  | darkMatter => "DarkMatter"
  | star => "Star"
  | blackHole => "BlackHole"

/-- The place of a species in a mask; the gap leaves room for two kinds that are not tracked. -/
def bit : Species → UInt32
  | gas => 1
  | darkMatter => 2
  | star => 16
  | blackHole => 32

end Species

structure SpeciesMask where
  bits : UInt32
  deriving DecidableEq, Repr

namespace SpeciesMask

def none : SpeciesMask := ⟨0⟩
def gas : SpeciesMask := ⟨1⟩
def darkMatter : SpeciesMask := ⟨2⟩
def gasAndDarkMatter : SpeciesMask := ⟨3⟩

def of (s : Species) : SpeciesMask :=
  ⟨s.bit⟩

def contains (m : SpeciesMask) (s : Species) : Bool :=
  m.bits &&& s.bit != 0

def meets (m n : SpeciesMask) : Bool :=
  m.bits &&& n.bits != 0

instance instUnion : Union SpeciesMask :=
  ⟨fun m n => ⟨m.bits ||| n.bits⟩⟩

@[simp] theorem bits_union (m n : SpeciesMask) : (m ∪ n).bits = m.bits ||| n.bits :=
  rfl

theorem contains_of (s t : Species) : (of s).contains t = decide (s = t) := by
  cases s <;> cases t <;> decide

end SpeciesMask

end GalacticWinds
