import GalacticWinds.Tree.Octree
import Mathlib.Tactic

/-! The tree that places build does not depend on how they went in: `ofMembers` tells its shape
from the members of each cube alone, and a built tree is that one. -/

namespace GalacticWinds.Octree

variable {α : Type} (particles : Array (Particle α))

def bucket (c : Cube α) (ms : List Nat) : Octree α :=
  if ms = [] then empty c else leaf c ms

def maskOf (ms : List Nat) : SpeciesMask :=
  ms.foldl (fun m i => m ∪ maskAt particles i) .none

lemma bucket_concat (c : Cube α) (ms : List Nat) (i : Nat) :
    bucket c (ms ++ [i]) = leaf c (ms ++ [i]) := by
  simp [bucket]

lemma maskOf_concat (ms : List Nat) (i : Nat) :
    maskOf particles (ms ++ [i]) = maskOf particles ms ∪ maskAt particles i := by
  simp [maskOf]

variable [Scalar α]

def sent (c : Cube α) (ms : List Nat) (o : Octant) : List Nat :=
  ms.filter (octantAt particles c · = o)

/-- The tree over a cube that holds the given places, with at most `room` levels below it. -/
def ofMembers : Nat → Cube α → List Nat → Octree α
  | 0, c, ms => bucket c ms
  | room + 1, c, ms =>
    if ms.length ≤ capacity then bucket c ms
    else
      node c (maskOf particles ms) ms.length fun o =>
        ofMembers room (c.child o) (sent particles c ms o)

def scattered (room : Nat) (c : Cube α) (ms : List Nat) : Octree α :=
  node c (maskOf particles ms) ms.length fun o =>
    ofMembers particles room (c.child o) (sent particles c ms o)

lemma sent_concat (c : Cube α) (ms : List Nat) (i : Nat) (o : Octant) :
    sent particles c (ms ++ [i]) o =
      if o = octantAt particles c i then sent particles c ms o ++ [i]
      else sent particles c ms o := by
  by_cases h : o = octantAt particles c i
  · simp [sent, h]
  · simp [sent, h, Ne.symm h]

lemma ofMembers_small (room : Nat) (c : Cube α) {ms : List Nat} (h : ms.length ≤ capacity) :
    ofMembers particles room c ms = bucket c ms := by
  cases room with
  | zero => rfl
  | succ room => rw [ofMembers, if_pos h]

lemma ofMembers_large (room : Nat) (c : Cube α) {ms : List Nat} (h : capacity < ms.length) :
    ofMembers particles (room + 1) c ms = scattered particles room c ms := by
  rw [ofMembers, if_neg (Nat.not_le_of_lt h), scattered]

lemma scattered_nil (room : Nat) (c : Cube α) : scattered particles room c [] = hollow c := by
  have hc : ∀ o, ofMembers particles room (c.child o) (sent particles c [] o) = empty (c.child o) :=
    fun o => ofMembers_small particles room _ (Nat.zero_le _)
  simp only [scattered, hc, hollow, branch_eq]
  rfl

lemma extend_scattered (room : Nat) (c : Cube α) (ms : List Nat) (i : Nat) :
    extend particles i c (maskOf particles ms) ms.length
        (fun o => ofMembers particles room (c.child o) (sent particles c ms o))
        (ofMembers particles room (c.child (octantAt particles c i))
          (sent particles c ms (octantAt particles c i) ++ [i])) =
      scattered particles room c (ms ++ [i]) := by
  simp only [extend, branch_eq, scattered, maskOf_concat, List.length_append, List.length_singleton]
  congr 1
  funext o
  rw [sent_concat]
  split_ifs with h
  · rw [h]
  · rfl

section

/-! One level of the tree, where insertion into the levels below is known to end in their trees. -/

variable {room : Nat} (below : ∀ (c : Cube α) (ms : List Nat) (i : Nat),
  insert particles room i (ofMembers particles room c ms) = ofMembers particles room c (ms ++ [i]))

include below

lemma descend_scattered (c : Cube α) (ms : List Nat) (i : Nat) :
    descend particles i (insert particles room i) (scattered particles room c ms) =
      scattered particles room c (ms ++ [i]) := by
  rw [scattered, descend, below, extend_scattered]

lemma foldl_descend (c : Cube α) (js : List Nat) :
    js.foldl (fun t j => descend particles j (insert particles room j) t) (hollow c) =
      scattered particles room c js := by
  induction js using List.reverseRecOn with
  | nil => exact (scattered_nil particles room c).symm
  | append_singleton js j ih =>
    rw [List.foldl_append, ih]
    exact descend_scattered particles below c js j

end

lemma insertDeep_bucket (c : Cube α) (ms : List Nat) (i : Nat) :
    insertDeep particles i (bucket c ms) = bucket c (ms ++ [i]) := by
  rw [bucket_concat, bucket]
  split_ifs with h
  · rw [h, insertDeep, List.nil_append]
  · rw [insertDeep]

lemma insert_bucket (room : Nat) (c : Cube α) {ms : List Nat} (i : Nat) (h : ms.length < capacity) :
    insert particles (room + 1) i (bucket c ms) = bucket c (ms ++ [i]) := by
  rw [bucket_concat, bucket]
  split_ifs with hn
  · rw [hn, insert, List.nil_append]
  · rw [insert, if_pos h]

/-- The ninth member of a leaf sets off a cascade of splits. It ends where the members would be if
the levels below had been there from the start. -/
theorem insert_ofMembers (room : Nat) (c : Cube α) (ms : List Nat) (i : Nat) :
    insert particles room i (ofMembers particles room c ms) =
      ofMembers particles room c (ms ++ [i]) := by
  induction room generalizing c ms i with
  | zero => exact insertDeep_bucket particles c ms i
  | succ room ih =>
    have hlen : (ms ++ [i]).length = ms.length + 1 := by simp
    rcases Nat.lt_trichotomy ms.length capacity with h | h | h
    · rw [ofMembers_small particles _ c h.le, ofMembers_small particles _ c (hlen ▸ h)]
      exact insert_bucket particles room c i h
    · have hn : ms ≠ [] := by
        rintro rfl
        exact absurd h (by decide)
      rw [ofMembers_small particles _ c h.le, bucket, if_neg hn, insert, if_neg (by omega),
        foldl_descend particles ih, ofMembers_large particles room c (by omega)]
    · rw [ofMembers_large particles room c h, ofMembers_large particles room c (by omega)]
      exact descend_scattered particles ih c ms i

theorem build_eq_ofMembers :
    build particles = ofMembers particles maxDepth
      (Cube.bounding (particles.toList.map (·.pos))) (List.range particles.size) := by
  have hfold : ∀ (c : Cube α) (js : List Nat),
      js.foldl (fun t i => insert particles maxDepth i t) (empty c) =
        ofMembers particles maxDepth c js := by
    intro c js
    induction js using List.reverseRecOn with
    | nil =>
      have h : ([] : List Nat).length ≤ capacity := Nat.zero_le _
      exact (ofMembers_small particles maxDepth c h).symm
    | append_singleton js j ih =>
      rw [List.foldl_append, ih]
      exact insert_ofMembers particles maxDepth c js j
  exact hfold _ _

def sites (particles : Array (Particle α)) : Array (Vec α × Species) :=
  particles.map fun p => (p.pos, p.species)

omit [Scalar α] in
lemma maskAt_congr {ps qs : Array (Particle α)} (h : sites ps = sites qs) (i : Nat) :
    maskAt ps i = maskAt qs i := by
  have hs : ∀ ps : Array (Particle α),
      maskAt ps i = ((sites ps)[i]?.map fun s => .of s.2).getD .none := by
    intro ps
    cases hp : ps[i]? <;> simp [maskAt, sites, hp]
  rw [hs, hs, h]

lemma octantAt_congr {ps qs : Array (Particle α)} (h : sites ps = sites qs) (c : Cube α) (i : Nat) :
    octantAt ps c i = octantAt qs c i := by
  have hs : ∀ ps : Array (Particle α),
      octantAt ps c i = ((sites ps)[i]?.map fun s => c.octant s.1).getD ⟨false, false, false⟩ := by
    intro ps
    cases hp : ps[i]? <;> simp [octantAt, sites, hp]
  rw [hs, hs, h]

lemma ofMembers_congr {ps qs : Array (Particle α)} (h : sites ps = sites qs) (room : Nat)
    (c : Cube α) (ms : List Nat) : ofMembers ps room c ms = ofMembers qs room c ms := by
  induction room generalizing c ms with
  | zero => rfl
  | succ room ih =>
    simp only [ofMembers, maskOf, sent, ih, maskAt_congr h, octantAt_congr h]

theorem build_congr {ps qs : Array (Particle α)} (h : sites ps = sites qs) :
    build ps = build qs := by
  have hpos : ∀ ps : Array (Particle α),
      ps.toList.map (·.pos) = (sites ps).toList.map Prod.fst := by
    intro ps
    simp [sites]
  have hsize : ps.size = qs.size := by simpa [sites] using congrArg Array.size h
  rw [build_eq_ofMembers, build_eq_ofMembers, hpos ps, hpos qs, h, hsize, ofMembers_congr h]

end GalacticWinds.Octree
