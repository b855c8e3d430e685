import GalacticWinds.Proofs.Tree.Cubes
import GalacticWinds.Proofs.Tree.Layout
import GalacticWinds.Tree.Near

/-! A search through a built tree finds what a search through all particles finds. -/

namespace GalacticWinds

open scoped List

namespace Reach

variable {α : Type} [Scalar α] (q : Reach α) (particles : Array (Particle α))

lemma neighbour?_eq_some_iff (i : Nat) (n : Neighbour α) :
    q.neighbour? particles i = some n ↔
      ∃ p, particles[i]? = some p ∧ q.mask.contains p.species = true ∧
        (q.center - p.pos).normSq ≤ q.radiusSq ∧
        n = ⟨i, p, q.center - p.pos, Scalar.sqrt (q.center - p.pos).normSq⟩ := by
  rw [neighbour?]
  cases particles[i]? with
  | none => simp
  | some p =>
    by_cases hs : q.mask.contains p.species = true
    · by_cases hr : (q.center - p.pos).normSq ≤ q.radiusSq
      · simp only [hs, hr, if_true, Option.some.injEq, exists_eq_left', true_and]
        exact eq_comm
      · simp [hs, hr]
    · simp [hs]

end Reach

namespace Octree

section

variable {α : Type} [Scalar α] (particles : Array (Particle α)) (q : Reach α)

lemma flatMap_occupied (children : Octant → Octree α) :
    (occupied children).flatMap (nearRec particles q) =
      Octant.all.reverse.flatMap fun o => nearRec particles q (children o) := by
  rw [occupied]
  induction Octant.all.reverse with
  | nil => rfl
  | cons o os ih =>
    rw [List.map_cons, List.flatMap_cons, ← ih]
    cases h : children o with
    | empty c => rfl
    | leaf c ms => rfl
    | node c mask n children' => rfl

/-- What a stack of subtrees yields: each of them searched by descent, one after another. -/
theorem nearStack_eq_flatMap (stack : List (Octree α)) :
    nearStack particles q stack = stack.flatMap (nearRec particles q) := by
  induction stack using nearStack.induct q with
  | case1 => rw [nearStack, List.flatMap_nil]
  | case2 c rest ih => rw [nearStack, ih, List.flatMap_cons, nearRec, List.nil_append]
  | case3 c ms rest ih => rw [nearStack, ih, List.flatMap_cons, nearRec]
  | case4 c mask n children rest hp ih =>
    rw [nearStack, if_pos hp, ih, List.flatMap_cons, nearRec, if_pos hp, List.nil_append]
  | case5 c mask n children rest hp ih =>
    rw [nearStack, if_neg hp, ih, List.flatMap_append, flatMap_occupied, List.flatMap_cons, nearRec,
      if_neg hp]

lemma near_eq_nearRec (t : Octree α) : t.near particles q = nearRec particles q t := by
  rw [near, nearStack_eq_flatMap, List.flatMap_singleton]

section

variable {f : Particle α → Particle α} (hpos : ∀ p, (f p).pos = p.pos)
  (hspecies : ∀ p, (f p).species = p.species)

include hpos hspecies

lemma neighbour?_map (i : Nat) :
    q.neighbour? (particles.map f) i =
      (q.neighbour? particles i).map fun n => { n with particle := f n.particle } := by
  simp only [Reach.neighbour?]
  rw [Array.getElem?_map]
  cases particles[i]? with
  | none => rfl
  | some p =>
    rw [Option.map_some]
    simp only [hpos, hspecies]
    split_ifs <;> rfl

lemma nearRec_map (t : Octree α) :
    nearRec (particles.map f) q t =
      (nearRec particles q t).map fun n => { n with particle := f n.particle } := by
  induction t with
  | empty c => rfl
  | leaf c ms =>
    simp only [nearRec, Reach.among, neighbour?_map particles q hpos hspecies]
    split_ifs
    · rfl
    · rw [List.map_filterMap]
  | node c mask n children ih =>
    simp only [nearRec, ih]
    split_ifs
    · rfl
    · rw [List.map_flatMap]

/-- A search looks at places and species only; what else a particle has is handed on. -/
lemma near_map (t : Octree α) :
    t.near (particles.map f) q =
      (t.near particles q).map fun n => { n with particle := f n.particle } := by
  rw [near_eq_nearRec, near_eq_nearRec, nearRec_map particles q hpos hspecies]

end

end

variable {particles : Array (Particle ℝ)} {q : Reach ℝ}

def Holds (particles : Array (Particle ℝ)) (c : Cube ℝ) (ms : List Nat) : Prop :=
  ∀ i ∈ ms, ∃ p, particles[i]? = some p ∧ c.contains p.pos = true

lemma Holds.sent {c : Cube ℝ} {ms : List Nat} (h : Holds particles c ms) (o : Octant) :
    Holds particles (c.child o) (sent particles c ms o) := by
  intro i hi
  obtain ⟨hm, ho⟩ := List.mem_filter.mp hi
  obtain ⟨p, hp, hc⟩ := h i hm
  have ho' : c.octant p.pos = o := by simpa [octantAt, hp] using ho
  exact ⟨p, hp, (Cube.contains_child_iff c o p.pos).mpr ⟨hc, ho'⟩⟩

lemma filterMap_eq_nil_of_misses {c : Cube ℝ} {ms : List Nat} (h : Holds particles c ms)
    (hq : q.misses c = true) : ms.filterMap (q.neighbour? particles) = [] := by
  rw [List.filterMap_eq_nil_iff]
  intro i hi
  obtain ⟨p, hp, hc⟩ := h i hi
  have hfar : q.radiusSq < (q.center - p.pos).normSq :=
    (of_decide_eq_true hq).trans_le (Cube.distSq_le q.center hc)
  rw [Option.eq_none_iff_forall_ne_some]
  intro n hn
  obtain ⟨p', hp', -, hr, -⟩ := (q.neighbour?_eq_some_iff particles i n).mp hn
  obtain rfl := Option.some.inj (hp.symm.trans hp')
  exact absurd hr (not_le.mpr hfar)

lemma filterMap_eq_nil_of_mask {ms : List Nat} (hq : (maskOf particles ms).meets q.mask = false) :
    ms.filterMap (q.neighbour? particles) = [] := by
  rw [List.filterMap_eq_nil_iff]
  intro i hi
  rw [Option.eq_none_iff_forall_ne_some]
  intro n hn
  obtain ⟨p, hp, hs, -, -⟩ := (q.neighbour?_eq_some_iff particles i n).mp hn
  rw [maskOf_eq_ofList, SpeciesMask.meets_ofList, List.any_eq_false] at hq
  exact hq p.species (List.mem_filterMap.mpr ⟨i, hi, by rw [hp]; rfl⟩) hs

lemma among_eq_filterMap {c : Cube ℝ} {ms : List Nat} (h : Holds particles c ms) :
    q.among particles c ms = ms.filterMap (q.neighbour? particles) := by
  rw [Reach.among]
  split_ifs with hq
  · exact (filterMap_eq_nil_of_misses h hq).symm
  · rfl

lemma nearRec_bucket {c : Cube ℝ} {ms : List Nat} (h : Holds particles c ms) :
    nearRec particles q (bucket c ms) = ms.filterMap (q.neighbour? particles) := by
  rw [bucket]
  split_ifs with hn
  · rw [hn, nearRec, List.filterMap_nil]
  · rw [nearRec, among_eq_filterMap h]

theorem nearRec_ofMembers_perm {c : Cube ℝ} {ms : List Nat} (h : Holds particles c ms)
    (room : Nat) :
    (nearRec particles q (ofMembers particles room c ms)).Perm
      (ms.filterMap (q.neighbour? particles)) := by
  induction room generalizing c ms with
  | zero => rw [ofMembers, nearRec_bucket h]
  | succ room ih =>
    rw [ofMembers]
    split_ifs
    · rw [nearRec_bucket h]
    · rw [nearRec]
      split_ifs with hp
      · rw [Reach.prunes, Bool.or_eq_true, Bool.not_eq_true'] at hp
        rcases hp with hp | hp
        · rw [filterMap_eq_nil_of_mask hp]
        · rw [filterMap_eq_nil_of_misses h hp]
      · calc Octant.all.reverse.flatMap fun o =>
              nearRec particles q (ofMembers particles room (c.child o) (sent particles c ms o))
          _ ~ Octant.all.flatMap fun o =>
                nearRec particles q
                  (ofMembers particles room (c.child o) (sent particles c ms o)) :=
            (List.reverse_perm _).flatMap_right _
          _ ~ Octant.all.flatMap fun o =>
                (sent particles c ms o).filterMap (q.neighbour? particles) :=
            List.Perm.flatMap_left _ fun o _ => ih (h.sent o)
          _ = (Octant.all.flatMap (sent particles c ms)).filterMap (q.neighbour? particles) :=
            List.filterMap_flatMap.symm
          _ ~ ms.filterMap (q.neighbour? particles) :=
            (Octant.flatMap_filter_perm (octantAt particles c) ms).filterMap _

lemma holds_range (particles : Array (Particle ℝ)) :
    Holds particles (Cube.bounding (particles.toList.map (·.pos))) (List.range particles.size) := by
  intro i hi
  have hlt : i < particles.size := List.mem_range.mp hi
  have hmem : particles[i].pos ∈ particles.toList.map (·.pos) :=
    List.mem_map_of_mem (Array.getElem_mem_toList hlt)
  exact ⟨particles[i], Array.getElem?_eq_getElem hlt, Cube.contains_bounding hmem⟩

theorem near_build_perm (particles : Array (Particle ℝ)) (q : Reach ℝ) :
    (build particles).near particles q ~
      (List.range particles.size).filterMap (q.neighbour? particles) := by
  rw [near_eq_nearRec, build_eq_ofMembers]
  exact nearRec_ofMembers_perm (holds_range particles) maxDepth

lemma mem_near_build_iff (particles : Array (Particle ℝ)) (q : Reach ℝ) (n : Neighbour ℝ) :
    n ∈ (build particles).near particles q ↔
      ∃ p, particles[n.index]? = some p ∧ q.mask.contains p.species = true ∧
        (q.center - p.pos).normSq ≤ q.radiusSq ∧
        n = ⟨n.index, p, q.center - p.pos, √(q.center - p.pos).normSq⟩ := by
  rw [(near_build_perm particles q).mem_iff, List.mem_filterMap]
  constructor
  · rintro ⟨i, -, hn⟩
    obtain ⟨p, hp, hs, hr, rfl⟩ := (q.neighbour?_eq_some_iff particles i n).mp hn
    exact ⟨p, hp, hs, hr, rfl⟩
  · rintro ⟨p, hp, h⟩
    have hlt : n.index < particles.size := (Array.getElem?_eq_some_iff.mp hp).1
    exact ⟨n.index, List.mem_range.mpr hlt,
      (q.neighbour?_eq_some_iff particles n.index n).mpr ⟨p, hp, h⟩⟩

lemma nodup_near_build (particles : Array (Particle ℝ)) (q : Reach ℝ) :
    (((build particles).near particles q).map (·.index)).Nodup := by
  rw [((near_build_perm particles q).map (·.index)).nodup_iff, List.map_filterMap]
  refine List.nodup_range.filterMap fun i j k hi hj => ?_
  obtain ⟨n, hn, rfl⟩ := Option.map_eq_some_iff.mp hi
  obtain ⟨m, hm, hmn⟩ := Option.map_eq_some_iff.mp hj
  obtain ⟨_, -, -, -, rfl⟩ := (q.neighbour?_eq_some_iff particles i n).mp hn
  obtain ⟨_, -, -, -, rfl⟩ := (q.neighbour?_eq_some_iff particles j m).mp hm
  exact hmn.symm

lemma neighbour?_within {k : Species} (hmask : q.mask.contains k = true) {r : ℝ}
    (hr : r ≤ q.radius) {β : Type} (f : Neighbour ℝ → β) (i : Nat) :
    ((q.neighbour? particles i).filter fun n =>
        n.particle.species = k && !decide (r < n.r)).map f =
      particles[i]?.bind fun p =>
        if p.species = k ∧ (q.center - p.pos).norm ≤ r then
          some (f ⟨i, p, q.center - p.pos, (q.center - p.pos).norm⟩)
        else none := by
  cases hp : particles[i]? with
  | none => simp [Reach.neighbour?, hp]
  | some p =>
    rw [Option.bind_some]
    split_ifs with h
    · have hreach : (q.center - p.pos).normSq ≤ q.radiusSq := by
        have hsq : q.radiusSq = q.radius ^ 2 := Scalar.sq_real _
        rw [hsq]
        exact (Real.sqrt_le_iff.mp (h.2.trans hr)).2
      have hn := (q.neighbour?_eq_some_iff particles i _).mpr
        ⟨p, hp, by rw [h.1, hmask], hreach, rfl⟩
      have hin : ¬ r < √(q.center - p.pos).normSq := not_lt.mpr h.2
      rw [hn, Option.filter_some, if_pos]
      · rfl
      · rw [Bool.and_eq_true, Bool.not_eq_true']
        exact ⟨decide_eq_true h.1, decide_eq_false hin⟩
    · rw [Option.map_eq_none_iff, Option.filter_eq_none_iff]
      intro n hn hc
      obtain ⟨p', hp', -, -, rfl⟩ := (q.neighbour?_eq_some_iff particles i n).mp hn
      obtain rfl := Option.some.inj (hp.symm.trans hp')
      rw [Bool.and_eq_true, Bool.not_eq_true'] at hc
      exact h ⟨of_decide_eq_true hc.1, not_lt.mp (of_decide_eq_false hc.2)⟩

variable (particles) in
lemma near_within_perm {k : Species} (hmask : q.mask.contains k = true) {r : ℝ}
    (hr : r ≤ q.radius) {β : Type} (f : Neighbour ℝ → β) :
    (((build particles).near particles q).filter fun n =>
        n.particle.species = k && !decide (r < n.r)).map f ~
      (List.range particles.size).filterMap fun i => particles[i]?.bind fun p =>
        if p.species = k ∧ (q.center - p.pos).norm ≤ r then
          some (f ⟨i, p, q.center - p.pos, (q.center - p.pos).norm⟩)
        else none := by
  refine (((near_build_perm particles q).filter _).map f).trans ?_
  rw [List.filter_filterMap, List.map_filterMap]
  exact .of_eq (List.filterMap_congr fun i _ => neighbour?_within hmask hr f i)

/-- A search finds every particle of its species within the radius once, and no other, with the
vector from the particle to the centre and the distance. -/
theorem near_build_exact (particles : Array (Particle ℝ)) (q : Reach ℝ) :
    (((build particles).near particles q).map (·.index)).Nodup ∧
    (∀ i, i ∈ ((build particles).near particles q).map (·.index) ↔
      ∃ p, particles[i]? = some p ∧ q.mask.contains p.species = true ∧
        (q.center.x - p.pos.x) ^ 2 + (q.center.y - p.pos.y) ^ 2 + (q.center.z - p.pos.z) ^ 2 ≤
          q.radius * q.radius) ∧
    ∀ n ∈ (build particles).near particles q, ∃ p, particles[n.index]? = some p ∧ n.particle = p ∧
      n.dist = ⟨q.center.x - p.pos.x, q.center.y - p.pos.y, q.center.z - p.pos.z⟩ ∧
      n.r = √((q.center.x - p.pos.x) ^ 2 + (q.center.y - p.pos.y) ^ 2 +
        (q.center.z - p.pos.z) ^ 2) := by
  have hsq : ∀ p : Particle ℝ, (q.center - p.pos).normSq = (q.center.x - p.pos.x) ^ 2 +
      (q.center.y - p.pos.y) ^ 2 + (q.center.z - p.pos.z) ^ 2 :=
    fun p => Vec.normSq_real _
  have hr : q.radiusSq = q.radius * q.radius := rfl
  refine ⟨nodup_near_build particles q, fun i => ?_, fun n hn => ?_⟩
  · rw [List.mem_map]
    constructor
    · rintro ⟨n, hn, rfl⟩
      obtain ⟨p, hp, hs, hle, -⟩ := (mem_near_build_iff particles q n).mp hn
      exact ⟨p, hp, hs, by rwa [← hsq, ← hr]⟩
    · rintro ⟨p, hp, hs, hle⟩
      rw [← hsq, ← hr] at hle
      exact ⟨⟨i, p, q.center - p.pos, √(q.center - p.pos).normSq⟩,
        (mem_near_build_iff particles q _).mpr ⟨p, hp, hs, hle, rfl⟩, rfl⟩
  · obtain ⟨p, hp, -, -, he⟩ := (mem_near_build_iff particles q n).mp hn
    have hpart : n.particle = p := by rw [he]
    have hdist : n.dist = q.center - p.pos := by rw [he]
    have hnr : n.r = √(q.center - p.pos).normSq := by rw [he]
    exact ⟨p, hp, hpart, hdist, by rw [hnr, hsq]⟩

end Octree

end GalacticWinds
