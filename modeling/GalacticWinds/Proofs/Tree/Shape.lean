import GalacticWinds.Proofs.Tree.Layout

/-! The shape of a built tree. What stands at the end of a path of octants is told by the particles
that the path leads to, so the order in which the particles come has no part in it. -/

namespace GalacticWinds

open scoped List

variable {α : Type} [Scalar α]

/-- Whether the octants of a point, from cube to cube, begin with these. -/
def Cube.leads (p : Vec α) : Cube α → List Octant → Bool
  | _, [] => true
  | c, o :: path => decide (c.octant p = o) && leads p (c.child o) path

namespace Octree

section

variable (particles : Array (Particle α))

def rootCube : Cube α :=
  .bounding (particles.toList.map (·.pos))

lemma build_rootCube :
    build particles =
      ofMembers particles maxDepth (rootCube particles) (List.range particles.size) :=
  build_eq_ofMembers particles

def cubeAlong (path : List Octant) : Cube α :=
  path.foldl Cube.child (rootCube particles)

/-- The particles that a path leads to from the cube around all of them. -/
def along (path : List Octant) : List Nat :=
  (List.range particles.size).filter fun i =>
    particles[i]?.any fun p => (rootCube particles).leads p.pos path

lemma sentAlong_eq_filter (c : Cube α) {ms : List Nat} (path : List Octant)
    (h : ∀ i ∈ ms, i < particles.size) :
    sentAlong particles c ms path =
      ms.filter fun i => particles[i]?.any fun p => c.leads p.pos path := by
  induction path generalizing c ms with
  | nil =>
    rw [sentAlong, eq_comm, List.filter_eq_self]
    intro i hi
    rw [Array.getElem?_eq_getElem (h i hi)]
    rfl
  | cons o path ih =>
    have hsent : ∀ i ∈ sent particles c ms o, i < particles.size :=
      fun i hi => h i (List.mem_of_mem_filter hi)
    rw [sentAlong, ih (c.child o) hsent, sent, List.filter_filter]
    apply List.filter_congr
    intro i hi
    rw [octantAt, Array.getElem?_eq_getElem (h i hi)]
    exact Bool.and_comm _ _

lemma sentAlong_range (path : List Octant) :
    sentAlong particles (rootCube particles) (List.range particles.size) path =
      along particles path :=
  sentAlong_eq_filter particles _ path fun _ hi => List.mem_range.mp hi

lemma ofMembers_nil (room : Nat) (c : Cube α) : ofMembers particles room c [] = empty c :=
  ofMembers_small particles room c (Nat.zero_le _)

lemma ofMembers_leaf {room : Nat} {c : Cube α} {ms : List Nat} (hms : ms ≠ [])
    (h : ¬(capacity < ms.length ∧ 0 < room)) : ofMembers particles room c ms = leaf c ms := by
  have hb : bucket c ms = leaf c ms := if_neg hms
  rcases Nat.lt_or_ge capacity ms.length with hl | hl
  · obtain rfl : room = 0 := by
      by_contra hr
      exact h ⟨hl, Nat.pos_of_ne_zero hr⟩
    exact hb
  · rw [ofMembers_small particles room c hl, hb]

lemma ofMembers_node {room : Nat} {c : Cube α} {ms : List Nat} (hl : capacity < ms.length)
    (hr : 0 < room) :
    ∃ mask children, ofMembers particles room c ms = node c mask ms.length children := by
  obtain ⟨room, rfl⟩ := Nat.exists_eq_add_of_lt hr
  rw [Nat.zero_add, ofMembers_large particles room c hl]
  exact ⟨_, _, rfl⟩

lemma ofMembers_cases (room : Nat) (c : Cube α) (ms : List Nat) :
    (ofMembers particles room c ms = empty c ↔ ms = []) ∧
    ((∃ mask children, ofMembers particles room c ms = node c mask ms.length children) ↔
      capacity < ms.length ∧ 0 < room) ∧
    (ofMembers particles room c ms = leaf c ms ↔ ms ≠ [] ∧ ¬(capacity < ms.length ∧ 0 < room)) := by
  by_cases hms : ms = []
  · subst hms
    simp [ofMembers_nil]
  · by_cases hroom : capacity < ms.length ∧ 0 < room
    · obtain ⟨mask, children, h⟩ := ofMembers_node particles (c := c) hroom.1 hroom.2
      simp [h, hms, hroom]
    · simp [ofMembers_leaf particles (c := c) hms hroom, hms, hroom]

end

/-- Two trees alike, but for the names of the places and their order in the leaves. -/
inductive Renamed (f : Nat → Nat) : Octree α → Octree α → Prop
  | empty (c : Cube α) : Renamed f (.empty c) (.empty c)
  | leaf (c : Cube α) {ms ns : List Nat} (h : ms.map f ~ ns) : Renamed f (.leaf c ms) (.leaf c ns)
  | node (c : Cube α) (mask : SpeciesMask) (count : Nat) {left right : Octant → Octree α}
    (h : ∀ o, Renamed f (left o) (right o)) :
    Renamed f (.node c mask count left) (.node c mask count right)

section

variable {ps qs : Array (Particle α)} {f : Nat → Nat} {ms ns : List Nat}
  (hf : ∀ i ∈ ms, qs[f i]? = ps[i]?) (h : ms.map f ~ ns)

include h

omit [Scalar α] in
lemma renamed_bucket (c : Cube α) : Renamed f (bucket c ms) (bucket c ns) := by
  have hnil : ms = [] ↔ ns = [] := by
    rw [← List.map_eq_nil_iff (f := f), ← List.length_eq_zero_iff, h.length_eq,
      List.length_eq_zero_iff]
  rw [bucket, bucket]
  split_ifs with hm hn hn
  · exact .empty c
  · exact absurd (hnil.mp hm) hn
  · exact absurd (hnil.mpr hn) hm
  · exact .leaf c h

include hf

omit [Scalar α] in
lemma maskOf_renamed : maskOf ps ms = maskOf qs ns := by
  rw [maskOf_eq_ofList, maskOf_eq_ofList]
  apply SpeciesMask.ofList_perm
  refine List.Perm.trans (.of_eq ?_) (h.filterMap _)
  rw [List.filterMap_map]
  exact List.filterMap_congr fun i hi => by rw [Function.comp_apply, hf i hi]

lemma sent_renamed (c : Cube α) (o : Octant) : (sent ps c ms o).map f ~ sent qs c ns o := by
  refine List.Perm.trans (.of_eq ?_) (h.filter _)
  rw [sent, List.filter_map]
  congr 1
  apply List.filter_congr
  intro i hi
  rw [Function.comp_apply, octantAt, octantAt, hf i hi]

end

lemma renamed_ofMembers {ps qs : Array (Particle α)} {f : Nat → Nat} {ms ns : List Nat}
    (hf : ∀ i ∈ ms, qs[f i]? = ps[i]?) (h : ms.map f ~ ns) (room : Nat) (c : Cube α) :
    Renamed f (ofMembers ps room c ms) (ofMembers qs room c ns) := by
  induction room generalizing c ms ns with
  | zero => exact renamed_bucket h c
  | succ room ih =>
    have hlen : ms.length = ns.length := by rw [← h.length_eq, List.length_map]
    rw [ofMembers, ofMembers, ← hlen, maskOf_renamed hf h]
    split_ifs
    · exact renamed_bucket h c
    · apply Renamed.node
      intro o
      exact ih (fun i hi => hf i (List.mem_of_mem_filter hi)) (sent_renamed hf h c o) _

section

variable {n : Nat} (σ : Equiv.Perm (Fin n))

def placeUnder (i : Nat) : Nat :=
  if h : i < n then σ ⟨i, h⟩ else i

lemma placeUnder_coe (i : Fin n) : placeUnder σ i = σ i :=
  dif_pos i.isLt

lemma map_placeUnder_range : (List.range n).map (placeUnder σ) ~ List.range n := by
  rw [← List.map_coe_finRange_eq_range, List.map_map]
  have hσ : placeUnder σ ∘ Fin.val = Fin.val ∘ σ := funext (placeUnder_coe σ)
  rw [hσ, ← List.map_map]
  exact (Equiv.Perm.map_finRange_perm σ).map _

end

/-- The same particles in another order. -/
def rearranged (particles : Array (Particle α)) (σ : Equiv.Perm (Fin particles.size)) :
    Array (Particle α) :=
  Array.ofFn fun i => particles[σ i]

omit [Scalar α] in
lemma getElem?_placeUnder (particles : Array (Particle α)) (σ : Equiv.Perm (Fin particles.size))
    {i : Nat} (hi : i < particles.size) :
    particles[placeUnder σ i]? = (rearranged particles σ)[i]? := by
  have hσ : placeUnder σ i = σ ⟨i, hi⟩ := placeUnder_coe σ ⟨i, hi⟩
  rw [rearranged, Array.getElem?_ofFn, dif_pos hi, hσ, Array.getElem?_eq_getElem (σ ⟨i, hi⟩).isLt]
  rfl

/-- What stands at a position is told by the particles that lead there: nothing, a node when there
are more than eight of them and the depth allows it, and a leaf with just these otherwise. So the
particles in another order build the same tree, up to their names. -/
theorem build_canonical (particles : Array (Particle α)) :
    (∀ path t, (build particles).at? path = some t →
      path.length ≤ 48 ∧
      (t = empty (cubeAlong particles path) ↔ along particles path = []) ∧
      ((∃ mask children,
          t = node (cubeAlong particles path) mask (along particles path).length children) ↔
        8 < (along particles path).length ∧ path.length < 48) ∧
      (t = leaf (cubeAlong particles path) (along particles path) ↔
        along particles path ≠ [] ∧
          ¬(8 < (along particles path).length ∧ path.length < 48))) ∧
    ∀ σ : Equiv.Perm (Fin particles.size),
      rootCube (rearranged particles σ) = rootCube particles →
        Renamed (placeUnder σ) (build (rearranged particles σ)) (build particles) := by
  constructor
  · intro path t h
    rw [build_rootCube] at h
    obtain ⟨hle, ht⟩ := at?_ofMembers_eq particles h
    have hroom : 0 < maxDepth - path.length ↔ path.length < 48 := Nat.sub_pos_iff_lt
    have hcases := ofMembers_cases particles (maxDepth - path.length) (cubeAlong particles path)
      (along particles path)
    rw [hroom] at hcases
    rw [ht, sentAlong_range]
    exact ⟨hle, hcases⟩
  · intro σ hσ
    have hsize : (rearranged particles σ).size = particles.size := Array.size_ofFn
    rw [build_rootCube, build_rootCube, hsize, hσ]
    apply renamed_ofMembers
    · intro i hi
      exact getElem?_placeUnder particles σ (List.mem_range.mp hi)
    · exact map_placeUnder_range σ

def farPair : Array (Particle Float) :=
  #[.new 1 .gas 1 ⟨1, 0, 0⟩ 0 0, .new 2 .star 1 ⟨3, 2, 0⟩ 0 1]

def exchange : Equiv.Perm (Fin farPair.size) :=
  Equiv.swap ⟨0, by decide⟩ ⟨1, by decide⟩

lemma rootCube_farPair : rootCube (rearranged farPair exchange) = rootCube farPair := by
  have hcenter : (rootCube (rearranged farPair exchange)).center = (rootCube farPair).center := by
    decide +kernel
  have hhalf : (rootCube (rearranged farPair exchange)).half = (rootCube farPair).half := by
    decide +kernel
  exact (Cube.mk.injEq ..).mpr ⟨hcenter, hhalf⟩

theorem build_canonical_farPair :
    rootCube (rearranged farPair exchange) = rootCube farPair ∧
    Renamed (placeUnder exchange) (build (rearranged farPair exchange)) (build farPair) :=
  ⟨rootCube_farPair, (build_canonical farPair).2 exchange rootCube_farPair⟩

end Octree

end GalacticWinds
