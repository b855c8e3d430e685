import GalacticWinds.Tree.Octree

/-!
The particles within a radius of a point. `near` works through a stack of subtrees, `nearRec`
descends into them; subtrees that hold none of the species or lie too far off are left out whole.
-/

namespace GalacticWinds

/-- A particle that a search found, with the vector from it to the centre and its length. -/
structure Neighbour (α : Type) where
  index : Nat
  particle : Particle α
  dist : Vec α
  r : α

structure Reach (α : Type) where
  center : Vec α
  radius : α
  mask : SpeciesMask

namespace Reach

variable {α : Type} [Scalar α]

def radiusSq (q : Reach α) : α :=
  Scalar.sq q.radius

def misses (q : Reach α) (c : Cube α) : Bool :=
  q.radiusSq < c.distSq q.center

def neighbour? (q : Reach α) (particles : Array (Particle α)) (i : Nat) : Option (Neighbour α) :=
  match particles[i]? with
  | none => none
  | some p =>
    if q.mask.contains p.species then
      let dist := q.center - p.pos
      let rSq := dist.normSq
      if rSq ≤ q.radiusSq then some ⟨i, p, dist, Scalar.sqrt rSq⟩ else none
    else none

def among (q : Reach α) (particles : Array (Particle α)) (c : Cube α) (ms : List Nat) :
    List (Neighbour α) :=
  if q.misses c then [] else ms.filterMap (q.neighbour? particles)

def prunes (q : Reach α) (c : Cube α) (mask : SpeciesMask) : Bool :=
  !mask.meets q.mask || q.misses c

end Reach

namespace Octree

variable {α : Type}

def nodes : Octree α → Nat
  | empty _ => 1
  | leaf _ _ => 1
  | node _ _ _ children => Octant.all.reverse.foldr (fun o n => (children o).nodes + n) 1

def nodesOf (stack : List (Octree α)) : Nat :=
  stack.foldr (fun t n => t.nodes + n) 0

def occupied (children : Octant → Octree α) : List (Octree α) :=
  (Octant.all.reverse.map children).filter (!·.isEmpty)

theorem nodesOf_append (s t : List (Octree α)) : nodesOf (s ++ t) = nodesOf s + nodesOf t := by
  induction s with
  | nil => simp [nodesOf]
  | cons u s ih =>
    simp only [nodesOf, List.cons_append, List.foldr_cons] at ih ⊢
    omega

theorem nodesOf_filter_map_lt (children : Octant → Octree α) (p : Octree α → Bool)
    (os : List Octant) :
    nodesOf ((os.map children).filter p) < os.foldr (fun o n => (children o).nodes + n) 1 := by
  induction os with
  | nil => simp [nodesOf]
  | cons o os ih =>
    simp only [nodesOf] at ih
    by_cases h : p (children o) <;> simp only [List.map_cons, List.filter_cons, h, if_true,
      if_false, Bool.false_eq_true, List.foldr_cons, nodesOf] <;> omega

theorem nodesOf_occupied_lt (c : Cube α) (mask : SpeciesMask) (n : Nat)
    (children : Octant → Octree α) : nodesOf (occupied children) < (node c mask n children).nodes :=
  nodesOf_filter_map_lt children _ _

theorem nodes_pos (t : Octree α) : 0 < t.nodes := by
  cases t with
  | empty c => exact Nat.one_pos
  | leaf c ms => exact Nat.one_pos
  | node c mask n children =>
    exact Nat.lt_of_le_of_lt (Nat.zero_le _) (nodesOf_occupied_lt c mask n children)

variable [Scalar α]

def nearStack (particles : Array (Particle α)) (q : Reach α) :
    List (Octree α) → List (Neighbour α)
  | [] => []
  | empty _ :: rest => nearStack particles q rest
  | leaf c ms :: rest => q.among particles c ms ++ nearStack particles q rest
  | node c mask _ children :: rest =>
    if q.prunes c mask then nearStack particles q rest
    else nearStack particles q (occupied children ++ rest)
  termination_by stack => nodesOf stack
  decreasing_by
    · exact Nat.lt_add_of_pos_left (nodes_pos _)
    · exact Nat.lt_add_of_pos_left (nodes_pos _)
    · exact Nat.lt_add_of_pos_left (nodes_pos _)
    · rw [nodesOf_append]
      exact Nat.add_lt_add_right (nodesOf_occupied_lt c mask _ children) _

def near (t : Octree α) (particles : Array (Particle α)) (q : Reach α) : List (Neighbour α) :=
  nearStack particles q [t]

def nearRec (particles : Array (Particle α)) (q : Reach α) : Octree α → List (Neighbour α)
  | empty _ => []
  | leaf c ms => q.among particles c ms
  | node c mask _ children =>
    if q.prunes c mask then []
    else Octant.all.reverse.flatMap fun o => nearRec particles q (children o)

end Octree

end GalacticWinds
