import GalacticWinds.Proofs.Tree.Search

/-! A search as a loop: a stack of subtrees that are still to be looked at, and a lookup of each
place in turn that fails beyond the particles. Within them the loop ends, and finds what the
descent into the tree finds, in the same order. -/

namespace GalacticWinds

/-- Where the loop stands: the subtrees still to be looked at, the next one first, and what has
been found. -/
structure Scan (α : Type) where
  stack : List (Octree α)
  found : List (Neighbour α)

namespace Scan

open Octree

variable {α : Type}

def push (children : Octant → Octree α) (stack : List (Octree α)) (o : Octant) :
    List (Octree α) :=
  if (children o).isEmpty then stack else children o :: stack

lemma foldl_push (children : Octant → Octree α) (stack : List (Octree α)) :
    Octant.all.foldl (push children) stack = occupied children ++ stack := by
  rw [occupied, List.map_reverse, List.filter_reverse]
  induction Octant.all generalizing stack with
  | nil => rfl
  | cons o os ih =>
    rw [List.foldl_cons, ih, List.map_cons, push]
    cases h : (children o).isEmpty <;> simp [h]

/-- Whether all places of the subtrees on the stack are places of these particles. -/
def Fits (particles : Array (Particle α)) (s : Scan α) : Prop :=
  ∀ t ∈ s.stack, ∀ i ∈ t.members, i < particles.size

variable [Scalar α] (particles : Array (Particle α)) (q : Reach α)

def visit? (found : List (Neighbour α)) (i : Nat) : Option (List (Neighbour α)) :=
  match particles[i]? with
  | none => none
  | some _ => some (found ++ (q.neighbour? particles i).toList)

def step? (s : Scan α) : Option (Scan α) :=
  match s.stack with
  | [] => some s
  | empty _ :: rest => some { s with stack := rest }
  | leaf c ms :: rest =>
    if q.misses c then some { s with stack := rest }
    else (ms.foldlM (visit? particles q) s.found).map (Scan.mk rest)
  | node c mask _ children :: rest =>
    if q.prunes c mask then some { s with stack := rest }
    else some { s with stack := Octant.all.foldl (push children) rest }

def run? : Nat → Scan α → Option (Scan α)
  | 0, s => some s
  | n + 1, s => (step? particles q s).bind (run? n)

/-- What the loop will have found once the stack is empty. -/
def outcome (s : Scan α) : List (Neighbour α) :=
  s.found ++ s.stack.flatMap (nearRec particles q)

lemma foldlM_visit? {ms : List Nat} (h : ∀ i ∈ ms, i < particles.size)
    (found : List (Neighbour α)) :
    ms.foldlM (visit? particles q) found =
      some (found ++ ms.filterMap (q.neighbour? particles)) := by
  induction ms generalizing found with
  | nil => simp
  | cons i ms ih =>
    have hvisit : visit? particles q found i =
        some (found ++ (q.neighbour? particles i).toList) := by
      rw [visit?, Array.getElem?_eq_getElem (h i List.mem_cons_self)]
    rw [List.foldlM_cons, hvisit]
    refine (ih (fun j hj => h j (List.mem_cons_of_mem i hj)) _).trans ?_
    cases hn : q.neighbour? particles i <;> simp [hn]

variable {particles}

/-- One round of the loop: it has a result, which takes a subtree apart and leaves the outcome. -/
lemma exists_step {t : Octree α} {rest : List (Octree α)} {found : List (Neighbour α)}
    (h : Fits particles ⟨t :: rest, found⟩) :
    ∃ s, step? particles q ⟨t :: rest, found⟩ = some s ∧ s.Fits particles ∧
      nodesOf s.stack < nodesOf (t :: rest) ∧
      s.outcome particles q = outcome particles q ⟨t :: rest, found⟩ := by
  have hrest : ∀ u ∈ rest, ∀ i ∈ u.members, i < particles.size :=
    fun u hu => h u (List.mem_cons_of_mem t hu)
  have hnodes : nodesOf rest < nodesOf (t :: rest) := Nat.lt_add_of_pos_left t.nodes_pos
  cases t with
  | empty c => exact ⟨⟨rest, found⟩, rfl, hrest, hnodes, by simp [outcome, nearRec]⟩
  | leaf c ms =>
    by_cases hq : q.misses c = true
    · refine ⟨⟨rest, found⟩, by simp [step?, hq], hrest, hnodes, ?_⟩
      simp [outcome, nearRec, Reach.among, hq]
    · have hms : ∀ i ∈ ms, i < particles.size := h _ List.mem_cons_self
      refine ⟨⟨rest, found ++ ms.filterMap (q.neighbour? particles)⟩, ?_, hrest, hnodes, ?_⟩
      · simp [step?, hq, foldlM_visit? particles q hms]
      · simp [outcome, nearRec, Reach.among, hq]
  | node c mask n children =>
    by_cases hq : q.prunes c mask = true
    · refine ⟨⟨rest, found⟩, by simp [step?, hq], hrest, hnodes, ?_⟩
      simp [outcome, nearRec, hq]
    · refine ⟨⟨occupied children ++ rest, found⟩, by simp [step?, hq, foldl_push], ?_, ?_, ?_⟩
      · intro u hu i hi
        rcases List.mem_append.mp hu with hu | hu
        · obtain ⟨o, ho, rfl⟩ := List.mem_map.mp (List.mem_of_mem_filter hu)
          apply h _ List.mem_cons_self
          exact List.mem_flatMap.mpr ⟨o, List.mem_reverse.mp ho, hi⟩
        · exact hrest u hu i hi
      · rw [nodesOf_append]
        exact Nat.add_lt_add_right (nodesOf_occupied_lt c mask n children) _
      · simp [outcome, nearRec, hq, flatMap_occupied]

lemma exists_run {s : Scan α} (h : s.Fits particles) :
    ∃ n ≤ nodesOf s.stack, run? particles q n s = some ⟨[], s.outcome particles q⟩ := by
  induction hk : nodesOf s.stack using Nat.strong_induction_on generalizing s with
  | _ k ih =>
    subst hk
    obtain ⟨_ | ⟨t, rest⟩, found⟩ := s
    · exact ⟨0, Nat.zero_le _, by simp [run?, outcome]⟩
    · obtain ⟨s, hs, hfits, hlt, hout⟩ := exists_step q h
      obtain ⟨n, hn, hrun⟩ := ih _ hlt hfits rfl
      refine ⟨n + 1, hn.trans_lt hlt, ?_⟩
      rw [run?, hs, Option.bind_some, hrun, hout]

end Scan

namespace Octree

variable {α : Type} [Scalar α]

/-- On any tree whose places are places of the particles, the loop comes to an end and never looks
beyond them. What it finds, in order, is what the descent finds: the members of a leaf as they are
kept, and of a node what its children have, the last of them first. -/
theorem near_scans (particles : Array (Particle α)) (q : Reach α) {t : Octree α}
    (h : ∀ i ∈ t.members, i < particles.size) :
    (∃ n ≤ t.nodes,
      Scan.run? particles q n ⟨[t], []⟩ = some ⟨[], t.near particles q⟩) ∧
    t.near particles q = nearRec particles q t := by
  have hfits : Scan.Fits particles ⟨[t], []⟩ := by
    intro u hu
    rwa [List.mem_singleton.mp hu]
  obtain ⟨n, hn, hrun⟩ := Scan.exists_run q hfits
  have hout : Scan.outcome particles q ⟨[t], []⟩ = t.near particles q := by
    rw [Scan.outcome, List.nil_append, near, nearStack_eq_flatMap]
  rw [hout] at hrun
  exact ⟨⟨n, hn, hrun⟩, near_eq_nearRec particles q t⟩

/-- Three places in two corners of a cube, whatever particles are there. -/
def twoCorners : Octree Float :=
  node ⟨0, 4⟩ .gasAndDarkMatter 3 fun o =>
    match o with
    | ⟨false, false, false⟩ => leaf ⟨⟨-2, -2, -2⟩, 2⟩ [0, 3]
    | ⟨true, true, true⟩ => leaf ⟨⟨2, 2, 2⟩, 2⟩ [2, 1]
    | _ => empty ⟨0, 2⟩

def fourGas : Array (Particle Float) :=
  #[.new 1 .gas 1 ⟨1, 0, 0⟩ 0 0, .new 2 .gas 1 ⟨2, 0, 0⟩ 0 1, .new 3 .gas 1 ⟨3, 0, 0⟩ 0 2,
    .new 4 .gas 1 ⟨9, 0, 0⟩ 0 3]

theorem near_scans_twoCorners :
    (∀ i ∈ twoCorners.members, i < fourGas.size) ∧
    (∃ n ≤ 9, Scan.run? fourGas ⟨0, 5, .gas⟩ n ⟨[twoCorners], []⟩ =
      some ⟨[], twoCorners.near fourGas ⟨0, 5, .gas⟩⟩) ∧
    (twoCorners.near fourGas ⟨0, 5, .gas⟩).map (·.index) = [2, 1, 0] := by
  have h : ∀ i ∈ twoCorners.members, i < fourGas.size := by decide
  obtain ⟨hscan, hrec⟩ := near_scans fourGas ⟨0, 5, .gas⟩ h
  refine ⟨h, hscan, ?_⟩
  rw [hrec]
  decide +kernel

end Octree

end GalacticWinds
