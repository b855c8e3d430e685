import GalacticWinds.Proofs.Ordered
import GalacticWinds.Proofs.Tree.Search

/-! Searches through a tree that may be out of date. Cubes and masks need not describe the
particles any more, so a search may miss some; but what it leaves out, a shorter search leaves
out too. -/

namespace GalacticWinds

open scoped List

namespace Reach

variable {α : Type} [Scalar α]

/-- A search from the same point that goes less far, for fewer species. -/
structure Within (q r : Reach α) : Prop where
  center : q.center = r.center
  radiusSq : q.radiusSq ≤ r.radiusSq
  mask : ∀ k, q.mask.contains k = true → r.mask.contains k = true

variable [OrderedScalar α]

lemma Within.of_radius {c : Vec α} {x y : α} {m n : SpeciesMask} (hx : 0 ≤ x) (h : x ≤ y)
    (hm : ∀ k, m.contains k = true → n.contains k = true) :
    Within ⟨c, x, m⟩ ⟨c, y, n⟩ where
  center := rfl
  radiusSq := OrderedScalar.sq_le_sq hx h
  mask := hm

namespace Within

variable {q r : Reach α} (h : q.Within r) (particles : Array (Particle α))

include h

lemma misses {c : Cube α} (hr : r.misses c = true) : q.misses c = true := by
  have hlt : r.radiusSq < c.distSq r.center := of_decide_eq_true hr
  rw [← h.center] at hlt
  exact decide_eq_true (OrderedScalar.lt_of_le_of_lt h.radiusSq hlt)

lemma neighbour? {i : Nat} {n : Neighbour α} (hn : q.neighbour? particles i = some n) :
    r.neighbour? particles i = some n := by
  obtain ⟨p, hp, hs, hle, rfl⟩ := (q.neighbour?_eq_some_iff particles i n).mp hn
  rw [r.neighbour?_eq_some_iff, ← h.center]
  exact ⟨p, hp, h.mask _ hs, OrderedScalar.le_trans hle h.radiusSq, rfl⟩

lemma filterMap_sublist (ms : List Nat) :
    ms.filterMap (q.neighbour? particles) <+ ms.filterMap (r.neighbour? particles) := by
  induction ms with
  | nil => exact List.Sublist.refl []
  | cons i ms ih =>
    cases hq : q.neighbour? particles i with
    | none =>
      rw [List.filterMap_cons_none hq]
      exact ih.trans ((List.sublist_cons_self i ms).filterMap _)
    | some n =>
      rw [List.filterMap_cons_some hq, List.filterMap_cons_some (h.neighbour? particles hq)]
      exact ih.cons_cons n

lemma among_sublist (c : Cube α) (ms : List Nat) :
    q.among particles c ms <+ r.among particles c ms := by
  rw [among, among]
  split_ifs with hq hr hr
  · exact List.Sublist.refl []
  · exact List.nil_sublist _
  · exact absurd (h.misses hr) hq
  · exact h.filterMap_sublist particles ms

end Within

end Reach

namespace Octree

variable {α : Type}

/-- Whether every node of a tree has a mask of this kind. -/
def MaskedBy (P : SpeciesMask → Prop) (t : Octree α) : Prop :=
  ∀ path c mask count children, t.at? path = some (node c mask count children) → P mask

lemma MaskedBy.root {P : SpeciesMask → Prop} {c : Cube α} {mask : SpeciesMask} {count : Nat}
    {children : Octant → Octree α} (h : MaskedBy P (node c mask count children)) : P mask :=
  h [] _ _ _ _ rfl

lemma MaskedBy.child {P : SpeciesMask → Prop} {c : Cube α} {mask : SpeciesMask} {count : Nat}
    {children : Octant → Octree α} (h : MaskedBy P (node c mask count children)) (o : Octant) :
    MaskedBy P (children o) :=
  fun path _ _ _ _ hat => h (o :: path) _ _ _ _ hat

/-- The places of a tree in the order in which a search comes to them. -/
def searched : Octree α → List Nat
  | empty _ => []
  | leaf _ ms => ms
  | node _ _ _ children => Octant.all.reverse.flatMap fun o => (children o).searched

lemma searched_perm (t : Octree α) : t.searched ~ t.members := by
  induction t with
  | empty c => exact List.Perm.refl []
  | leaf c ms => exact List.Perm.refl ms
  | node c mask count children ih =>
    rw [searched, members]
    exact ((List.reverse_perm _).flatMap_right _).trans (List.Perm.flatMap_left _ fun o _ => ih o)

variable [Scalar α] (particles : Array (Particle α))

lemma maskedBy_build (origin : Array (Particle α)) :
    (build origin).MaskedBy fun mask => ∃ ks, mask = .ofList ks := by
  intro path c mask count children h
  rw [build_eq_ofMembers] at h
  obtain ⟨room, c', ht⟩ := at?_ofMembers origin h
  obtain ⟨-, hmask, -⟩ := node_of_ofMembers origin ht.symm
  exact ⟨_, hmask.trans (maskOf_eq_ofList origin _)⟩

section

variable (q : Reach α)

lemma exists_of_mem_nearRec {t : Octree α} {n : Neighbour α} (hn : n ∈ nearRec particles q t) :
    ∃ i, q.neighbour? particles i = some n := by
  induction t with
  | empty c => exact absurd hn List.not_mem_nil
  | leaf c ms =>
    rw [nearRec, Reach.among] at hn
    split_ifs at hn
    · exact absurd hn List.not_mem_nil
    · obtain ⟨i, -, hi⟩ := List.mem_filterMap.mp hn
      exact ⟨i, hi⟩
  | node c mask count children ih =>
    rw [nearRec] at hn
    split_ifs at hn
    · exact absurd hn List.not_mem_nil
    · obtain ⟨o, -, ho⟩ := List.mem_flatMap.mp hn
      exact ih o ho

lemma map_index_filterMap (ms : List Nat) :
    (ms.filterMap (q.neighbour? particles)).map (·.index) <+ ms := by
  induction ms with
  | nil => exact List.Sublist.refl []
  | cons i ms ih =>
    cases h : q.neighbour? particles i with
    | none =>
      rw [List.filterMap_cons_none h]
      exact ih.cons i
    | some n =>
      obtain ⟨p, -, -, -, rfl⟩ := (q.neighbour?_eq_some_iff particles i n).mp h
      rw [List.filterMap_cons_some h, List.map_cons]
      exact ih.cons_cons i

lemma map_index_nearRec (t : Octree α) :
    (nearRec particles q t).map (·.index) <+ t.searched := by
  induction t with
  | empty c => exact List.Sublist.refl []
  | leaf c ms =>
    rw [nearRec, Reach.among, searched]
    split_ifs
    · exact List.nil_sublist ms
    · exact map_index_filterMap particles q ms
  | node c mask count children ih =>
    rw [nearRec, searched]
    split_ifs
    · exact List.nil_sublist _
    · rw [List.map_flatMap]
      exact List.Sublist.flatMap_right _ fun o _ => ih o

lemma nodup_near_of_build (origin : Array (Particle α)) :
    (((build origin).near particles q).map (·.index)).Nodup := by
  have hmembers : (build origin).members.Nodup := by
    rw [build_eq_ofMembers]
    exact (members_ofMembers_perm origin _ _ _).nodup_iff.mpr List.nodup_range
  rw [near_eq_nearRec]
  exact ((searched_perm _).nodup_iff.mpr hmembers).sublist (map_index_nearRec particles q _)

lemma near_sound {t : Octree α} {n : Neighbour α} (hn : n ∈ t.near particles q) :
    ∃ p, particles[n.index]? = some p ∧ q.mask.contains p.species = true ∧
      (q.center - p.pos).normSq ≤ q.radiusSq ∧
      n = ⟨n.index, p, q.center - p.pos, (q.center - p.pos).norm⟩ := by
  rw [near_eq_nearRec] at hn
  obtain ⟨i, hi⟩ := exists_of_mem_nearRec particles q hn
  obtain ⟨p, hp, hs, hle, rfl⟩ := (q.neighbour?_eq_some_iff particles i n).mp hi
  exact ⟨p, hp, hs, hle, rfl⟩

end

variable [OrderedScalar α] {q r : Reach α} (h : q.Within r)

include h

lemma nearRec_sublist {t : Octree α}
    (ht : t.MaskedBy fun mask => mask.meets q.mask = true → mask.meets r.mask = true) :
    nearRec particles q t <+ nearRec particles r t := by
  induction t with
  | empty c => exact List.Sublist.refl []
  | leaf c ms => exact h.among_sublist particles c ms
  | node c mask count children ih =>
    rw [nearRec, nearRec]
    split_ifs with hq hr hr
    · exact List.Sublist.refl []
    · exact List.nil_sublist _
    · -- what the longer search leaves out, the shorter one does not enter either
      rw [Reach.prunes, Bool.or_eq_true, Bool.not_eq_true'] at hq hr
      rcases hr with hr | hr
      · refine absurd (.inl ?_) hq
        rw [← Bool.not_eq_true] at hr ⊢
        exact fun hm => hr (ht.root hm)
      · exact absurd (.inr (h.misses hr)) hq
    · exact List.Sublist.flatMap_right _ fun o _ => ih o (ht.child o)

lemma near_sublist_of_mask (hmask : q.mask = r.mask) (t : Octree α) :
    t.near particles q <+ t.near particles r := by
  rw [near_eq_nearRec, near_eq_nearRec]
  apply nearRec_sublist particles h
  intro path c mask count children _ hm
  rwa [← hmask]

lemma near_build_sublist (origin : Array (Particle α)) :
    (build origin).near particles q <+ (build origin).near particles r := by
  rw [near_eq_nearRec, near_eq_nearRec]
  apply nearRec_sublist particles h
  intro path c mask count children hat hm
  obtain ⟨ks, rfl⟩ := maskedBy_build origin path c mask count children hat
  rw [SpeciesMask.meets_ofList, List.any_eq_true] at hm ⊢
  obtain ⟨k, hk, hmk⟩ := hm
  exact ⟨k, hk, h.mask k hmk⟩

end Octree

end GalacticWinds
