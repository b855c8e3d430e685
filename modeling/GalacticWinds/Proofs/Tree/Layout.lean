import GalacticWinds.Proofs.Particle.Slots
import GalacticWinds.Proofs.Tree.Canonical

/-! Where the particles of a built tree lie, and what each of its nodes knows of those below. -/

namespace GalacticWinds

namespace SpeciesMask

def ofList (ks : List Species) : SpeciesMask :=
  ks.foldl (fun m k => m ∪ .of k) .none

lemma union_right_comm (m a b : SpeciesMask) : m ∪ a ∪ b = m ∪ b ∪ a := by
  have h : m.bits ||| a.bits ||| b.bits = m.bits ||| b.bits ||| a.bits := by
    rw [UInt32.or_assoc, UInt32.or_comm a.bits, ← UInt32.or_assoc]
  exact congrArg SpeciesMask.mk h

lemma union_none (m : SpeciesMask) : m ∪ none = m :=
  congrArg SpeciesMask.mk UInt32.or_zero

lemma ofList_perm {ks ls : List Species} (h : ks.Perm ls) : ofList ks = ofList ls :=
  h.foldl_eq' (fun _ _ _ _ m => union_right_comm m _ _) _

lemma meets_union (m n a : SpeciesMask) : (m ∪ n).meets a = (m.meets a || n.meets a) := by
  have h : (m.bits ||| n.bits) &&& a.bits = (m.bits &&& a.bits) ||| (n.bits &&& a.bits) := by
    apply UInt32.eq_of_toBitVec_eq
    ext i hi
    simp [Bool.and_or_distrib_right]
  rw [meets, bits_union, h, meets, meets, Bool.eq_iff_iff]
  simp [UInt32.or_eq_zero_iff, Decidable.imp_iff_not_or]

lemma meets_ofList (ks : List Species) (m : SpeciesMask) :
    (ofList ks).meets m = ks.any m.contains := by
  induction ks using List.reverseRecOn with
  | nil => simp [ofList, meets, none]
  | append_singleton ks k ih =>
    have hk : (of k).meets m = m.contains k := by rw [meets, contains, of, UInt32.and_comm]
    rw [ofList, List.foldl_append, List.any_append, ← ih, ofList]
    simp [meets_union, hk]

end SpeciesMask

lemma Octant.flatMap_filter_perm {β : Type} (f : β → Octant) (xs : List β) :
    (all.flatMap fun o => xs.filter (f · = o)).Perm xs :=
  GalacticWinds.flatMap_filter_perm f nodup_all fun x _ => mem_all (f x)

namespace Octree

variable {α : Type}

def at? : Octree α → List Octant → Option (Octree α)
  | t, [] => some t
  | node _ _ _ children, o :: path => (children o).at? path
  | empty _, _ :: _ => none
  | leaf _ _, _ :: _ => none

def speciesBelow (particles : Array (Particle α)) (t : Octree α) : List Species :=
  t.members.filterMap fun i => particles[i]?.map (·.species)

lemma members_bucket (c : Cube α) (ms : List Nat) : (bucket c ms).members = ms := by
  rw [bucket]
  split_ifs with h
  · rw [h, members]
  · rw [members]

lemma size_bucket (c : Cube α) (ms : List Nat) : (bucket c ms).size = ms.length := by
  rw [bucket]
  split_ifs with h
  · rw [h, size, List.length_nil]
  · rw [size]

lemma cube_bucket (c : Cube α) (ms : List Nat) : (bucket c ms).cube = c := by
  rw [bucket]
  split_ifs <;> rfl

lemma at?_bucket_cons (c : Cube α) (ms : List Nat) (o : Octant) (path : List Octant) :
    (bucket c ms).at? (o :: path) = none := by
  rw [bucket]
  split_ifs <;> rfl

lemma maskOf_eq_ofList (particles : Array (Particle α)) (ms : List Nat) :
    maskOf particles ms = .ofList (ms.filterMap fun i => particles[i]?.map (·.species)) := by
  induction ms using List.reverseRecOn with
  | nil => rfl
  | append_singleton ms i ih =>
    rw [maskOf_concat, ih, List.filterMap_append]
    cases h : particles[i]? with
    | none => simp [maskAt, h, SpeciesMask.union_none]
    | some p => simp [maskAt, h, SpeciesMask.ofList]

variable [Scalar α] (particles : Array (Particle α))

def leafTowards (p : Vec α) : Octree α → List Nat
  | empty _ => []
  | leaf _ ms => ms
  | node c _ _ children => leafTowards p (children (c.octant p))

def sentAlong (c : Cube α) (ms : List Nat) : List Octant → List Nat
  | [] => ms
  | o :: path => sentAlong (c.child o) (sent particles c ms o) path

lemma sentAlong_sublist (c : Cube α) (ms : List Nat) (path : List Octant) :
    (sentAlong particles c ms path).Sublist ms := by
  induction path generalizing c ms with
  | nil => exact List.Sublist.refl ms
  | cons o path ih => exact (ih _ _).trans List.filter_sublist

lemma cube_ofMembers (room : Nat) (c : Cube α) (ms : List Nat) :
    (ofMembers particles room c ms).cube = c := by
  cases room with
  | zero => exact cube_bucket c ms
  | succ room =>
    rw [ofMembers]
    split_ifs
    · exact cube_bucket c ms
    · rfl

lemma size_ofMembers (room : Nat) (c : Cube α) (ms : List Nat) :
    (ofMembers particles room c ms).size = ms.length := by
  cases room with
  | zero => exact size_bucket c ms
  | succ room =>
    rw [ofMembers]
    split_ifs
    · exact size_bucket c ms
    · rfl

lemma members_ofMembers_perm (room : Nat) (c : Cube α) (ms : List Nat) :
    (ofMembers particles room c ms).members.Perm ms := by
  induction room generalizing c ms with
  | zero => rw [ofMembers, members_bucket]
  | succ room ih =>
    rw [ofMembers]
    split_ifs
    · rw [members_bucket]
    · rw [members]
      exact (List.Perm.flatMap_left _ fun o _ => ih _ _).trans
        (Octant.flatMap_filter_perm (octantAt particles c) ms)

lemma at?_ofMembers_eq {room : Nat} {c : Cube α} {ms : List Nat} {path : List Octant}
    {t : Octree α} (h : (ofMembers particles room c ms).at? path = some t) :
    path.length ≤ room ∧
      t = ofMembers particles (room - path.length) (path.foldl Cube.child c)
        (sentAlong particles c ms path) := by
  induction path generalizing room c ms with
  | nil =>
    rw [at?, Option.some.injEq] at h
    exact ⟨Nat.zero_le room, h.symm⟩
  | cons o path ih =>
    rcases Nat.lt_or_ge capacity ms.length with hl | hl
    · cases room with
      | zero => simp [ofMembers, at?_bucket_cons] at h
      | succ room =>
        rw [ofMembers_large particles room c hl, scattered, at?] at h
        obtain ⟨hle, ht⟩ := ih h
        rw [List.length_cons, Nat.add_sub_add_right]
        exact ⟨Nat.succ_le_succ hle, ht⟩
    · simp [ofMembers_small particles room c hl, at?_bucket_cons] at h

lemma at?_ofMembers {room : Nat} {c : Cube α} {ms : List Nat} {path : List Octant} {t : Octree α}
    (h : (ofMembers particles room c ms).at? path = some t) :
    ∃ room' c', t = ofMembers particles room' c' (sentAlong particles c ms path) :=
  ⟨_, _, (at?_ofMembers_eq particles h).2⟩

lemma leaf_of_ofMembers {room : Nat} {c c' : Cube α} {ms ms' : List Nat}
    (h : ofMembers particles room c ms = leaf c' ms') : ms' = ms := by
  have hb : ∀ {ms}, bucket c ms = leaf c' ms' → ms' = ms := by
    intro ms h
    have hm := congrArg members h
    rw [members_bucket, members] at hm
    exact hm.symm
  cases room with
  | zero => exact hb h
  | succ room =>
    rw [ofMembers] at h
    split_ifs at h
    exact hb h

lemma node_of_ofMembers {room : Nat} {c c' : Cube α} {ms : List Nat} {mask : SpeciesMask}
    {count : Nat} {children : Octant → Octree α}
    (h : ofMembers particles room c ms = node c' mask count children) :
    c' = c ∧ mask = maskOf particles ms ∧ count = ms.length ∧
      ∃ room', ∀ o, children o = ofMembers particles room' (c.child o) (sent particles c ms o) := by
  have hb : bucket c ms ≠ node c' mask count children := by
    rw [bucket]
    split_ifs <;> simp
  cases room with
  | zero => exact (hb h).elim
  | succ room =>
    rw [ofMembers] at h
    split_ifs at h
    · exact (hb h).elim
    · obtain ⟨rfl, rfl, rfl, rfl⟩ := (node.injEq ..).mp h
      exact ⟨rfl, rfl, rfl, room, fun o => rfl⟩

lemma mem_leafTowards_bucket (c : Cube α) (p : Vec α) {i : Nat} {ms : List Nat} (hi : i ∈ ms) :
    i ∈ (bucket c ms).leafTowards p := by
  rw [bucket, if_neg (List.ne_nil_of_mem hi)]
  exact hi

lemma mem_leafTowards_ofMembers {i : Nat} {p : Particle α} (hp : particles[i]? = some p)
    (room : Nat) (c : Cube α) {ms : List Nat} (hi : i ∈ ms) :
    i ∈ (ofMembers particles room c ms).leafTowards p.pos := by
  induction room generalizing c ms with
  | zero => exact mem_leafTowards_bucket c p.pos hi
  | succ room ih =>
    rw [ofMembers]
    split_ifs
    · exact mem_leafTowards_bucket c p.pos hi
    · exact ih _ (by simp [sent, octantAt, hp, hi])

/-- Every place lies in one leaf, which is where its octants lead, and in it once. Leaves keep
their members in order, children lie in the octants of their parent, and a node's count and mask
are those of the members below it. -/
theorem build_layout :
    (build particles).members.Perm (List.range particles.size) ∧
    (build particles).size = particles.size ∧
    (∀ i p, particles[i]? = some p → i ∈ (build particles).leafTowards p.pos) ∧
    (∀ path c ms, (build particles).at? path = some (leaf c ms) → ms.Pairwise (· < ·)) ∧
    ∀ path c mask count children,
      (build particles).at? path = some (node c mask count children) →
        (∀ o, (children o).cube = c.child o) ∧
        count = (node c mask count children).members.length ∧
        mask = .ofList ((node c mask count children).speciesBelow particles) := by
  rw [build_eq_ofMembers]
  refine ⟨members_ofMembers_perm particles _ _ _, ?_, ?_, ?_, ?_⟩
  · rw [size_ofMembers, List.length_range]
  · intro i p hp
    have hi : i < particles.size := (Array.getElem?_eq_some_iff.mp hp).1
    exact mem_leafTowards_ofMembers particles hp _ _ (List.mem_range.mpr hi)
  · intro path c ms h
    obtain ⟨room, c', ht⟩ := at?_ofMembers particles h
    rw [leaf_of_ofMembers particles ht.symm]
    exact List.Pairwise.sublist (sentAlong_sublist particles _ _ path) List.pairwise_lt_range
  · intro path c mask count children h
    obtain ⟨room, c', ht⟩ := at?_ofMembers particles h
    generalize sentAlong particles _ _ path = ms at ht
    have hm := members_ofMembers_perm particles room c' ms
    obtain ⟨rfl, hmask, hcount, room', hchildren⟩ := node_of_ofMembers particles ht.symm
    rw [← ht] at hm
    refine ⟨fun o => ?_, ?_, ?_⟩
    · rw [hchildren, cube_ofMembers]
    · rw [hm.length_eq, hcount]
    · rw [hmask, maskOf_eq_ofList, speciesBelow]
      exact SpeciesMask.ofList_perm (hm.filterMap _).symm

end Octree

end GalacticWinds
