import GalacticWinds.Tree.Cube

/-!
Octrees over an array of particles. A tree holds the places of particles, not the particles, so
it can outlive a move of them. A leaf with more members than `capacity` is split, down to the
depth at which coincident particles stay together.
-/

namespace GalacticWinds

/-- A node knows the species and the number of the particles below it. -/
inductive Octree (α : Type) where
  | empty (cube : Cube α)
  | leaf (cube : Cube α) (members : List Nat)
  | node (cube : Cube α) (mask : SpeciesMask) (count : Nat) (children : Octant → Octree α)

namespace Octree

def capacity : Nat := 8

def maxDepth : Nat := 48

variable {α : Type}

def cube : Octree α → Cube α
  | empty c => c
  | leaf c _ => c
  | node c _ _ _ => c

def size : Octree α → Nat
  | empty _ => 0
  | leaf _ ms => ms.length
  | node _ _ n _ => n

def members : Octree α → List Nat
  | empty _ => []
  | leaf _ ms => ms
  | node _ _ _ children => Octant.all.flatMap fun o => (children o).members

def isEmpty : Octree α → Bool
  | empty _ => true
  | leaf .. => false
  | node .. => false

/-- A node whose children are computed once and kept in a table. -/
def branch (c : Cube α) (mask : SpeciesMask) (count : Nat) (children : Octant → Octree α) :
    Octree α :=
  let table := Octet.ofFn children
  node c mask count table.get

theorem branch_eq (c : Cube α) (mask : SpeciesMask) (count : Nat)
    (children : Octant → Octree α) : branch c mask count children = node c mask count children := by
  rw [branch, Octet.get_ofFn]

def maskAt (particles : Array (Particle α)) (i : Nat) : SpeciesMask :=
  match particles[i]? with
  | some p => .of p.species
  | none => .none

variable [Scalar α]

def octantAt (particles : Array (Particle α)) (c : Cube α) (i : Nat) : Octant :=
  match particles[i]? with
  | some p => c.octant p.pos
  | none => ⟨false, false, false⟩

def extend (particles : Array (Particle α)) (i : Nat) (c : Cube α) (mask : SpeciesMask)
    (count : Nat) (children : Octant → Octree α) (child : Octree α) : Octree α :=
  let octant := octantAt particles c i
  branch c (mask ∪ maskAt particles i) (count + 1) fun o =>
    if o = octant then child else children o

def insertDeep (particles : Array (Particle α)) (i : Nat) : Octree α → Octree α
  | empty c => leaf c [i]
  | leaf c ms => leaf c (ms ++ [i])
  | node c mask count children =>
    extend particles i c mask count children
      (insertDeep particles i (children (octantAt particles c i)))

def descend (particles : Array (Particle α)) (i : Nat) (below : Octree α → Octree α) :
    Octree α → Octree α
  | node c mask count children =>
    extend particles i c mask count children (below (children (octantAt particles c i)))
  | t => t

def hollow (c : Cube α) : Octree α :=
  branch c .none 0 fun o => empty (c.child o)

/-- One more place in a tree with at most `room` levels below it. The place goes to the leaf that
its octants lead to. A full leaf becomes a node with eight empty children, and its members are put
in again one by one, the new place after them. -/
def insert (particles : Array (Particle α)) : Nat → Nat → Octree α → Octree α
  | 0, i, t => insertDeep particles i t
  | _ + 1, i, empty c => leaf c [i]
  | room + 1, i, leaf c ms =>
    if ms.length < capacity then leaf c (ms ++ [i])
    else (ms ++ [i]).foldl (fun t j => descend particles j (insert particles room j) t) (hollow c)
  | room + 1, i, node c mask count children =>
    descend particles i (insert particles room i) (node c mask count children)

def build (particles : Array (Particle α)) : Octree α :=
  (List.range particles.size).foldl (fun t i => insert particles maxDepth i t)
    (empty (Cube.bounding (particles.toList.map (·.pos))))

end Octree

end GalacticWinds
