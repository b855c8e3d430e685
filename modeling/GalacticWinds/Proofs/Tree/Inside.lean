import GalacticWinds.Proofs.Tree.Search
import GalacticWinds.Proofs.Tree.Shape

/-! The cubes on the way of a particle. It lies in each of them, and in no other cube of the tree. -/

namespace GalacticWinds

namespace Cube

lemma getElem?_octants (c : Cube ℝ) (o : Octant) : c.octants[o.number]? = some (c.child o) := by
  obtain ⟨x, y, z⟩ := o
  cases x <;> cases y <;> cases z <;> rfl

lemma exists_of_getElem?_octants {c c' : Cube ℝ} {k : Nat} (h : c.octants[k]? = some c') :
    ∃ o : Octant, o.number = k ∧ c.child o = c' := by
  obtain ⟨hk, rfl⟩ := List.getElem?_eq_some_iff.mp h
  have hlen : k < Octant.all.length := by simpa [octants] using hk
  refine ⟨Octant.all[k], ?_, ?_⟩
  · have hnumbers : (Octant.all.map Octant.number)[k]? = (List.range 8)[k]? := by
      rw [Octant.map_number_all]
    have hlt : k < 8 := hlen
    rw [List.getElem?_map, List.getElem?_eq_getElem hlen, List.getElem?_range hlt] at hnumbers
    exact Option.some.inj hnumbers
  · simp [octants]

lemma contains_octants_iff {c : Cube ℝ} {p : Vec ℝ} (hp : c.contains p = true) (k : Nat) :
    (∃ c', c.octants[k]? = some c' ∧ c'.contains p = true) ↔ k = (c.octant p).number := by
  constructor
  · rintro ⟨c', hk, hc⟩
    obtain ⟨o, rfl, rfl⟩ := exists_of_getElem?_octants hk
    rw [((contains_child_iff c o p).mp hc).2]
  · rintro rfl
    exact ⟨_, getElem?_octants c _, (contains_child_iff c _ p).mpr ⟨hp, rfl⟩⟩

lemma contains_foldl_child_iff (c : Cube ℝ) (p : Vec ℝ) (path : List Octant) :
    (path.foldl child c).contains p = true ↔ c.contains p = true ∧ c.leads p path = true := by
  induction path generalizing c with
  | nil => simp [leads]
  | cons o path ih =>
    calc (path.foldl child (c.child o)).contains p = true
      _ ↔ (c.child o).contains p = true ∧ (c.child o).leads p path = true := ih (c.child o)
      _ ↔ (c.contains p = true ∧ c.octant p = o) ∧ (c.child o).leads p path = true := by
        rw [contains_child_iff]
      _ ↔ c.contains p = true ∧ c.leads p (o :: path) = true := by
        rw [leads, Bool.and_eq_true, decide_eq_true_iff, and_assoc]

end Cube

namespace Octree

variable {particles : Array (Particle ℝ)} {path : List Octant} {t : Octree ℝ} {i : Nat}
  {p : Particle ℝ}

lemma cube_at?_build (ht : (build particles).at? path = some t) :
    t.cube = cubeAlong particles path := by
  rw [build_rootCube] at ht
  rw [(at?_ofMembers_eq particles ht).2, cube_ofMembers]
  rfl

lemma mem_members_iff (ht : (build particles).at? path = some t) (hp : particles[i]? = some p) :
    i ∈ t.members ↔ (rootCube particles).leads p.pos path = true := by
  have hi : i < particles.size := (Array.getElem?_eq_some_iff.mp hp).1
  rw [build_rootCube] at ht
  rw [(at?_ofMembers_eq particles ht).2, (members_ofMembers_perm ..).mem_iff, sentAlong_range, along,
    List.mem_filter, hp, List.mem_range]
  exact and_iff_right hi

lemma contains_rootCube (hp : particles[i]? = some p) :
    (rootCube particles).contains p.pos = true := by
  have hi : i < particles.size := (Array.getElem?_eq_some_iff.mp hp).1
  obtain ⟨q, hq, hc⟩ := holds_range particles i (List.mem_range.mpr hi)
  obtain rfl := Option.some.inj (hp.symm.trans hq)
  exact hc

lemma contains_cube_iff (ht : (build particles).at? path = some t) (hp : particles[i]? = some p) :
    t.cube.contains p.pos = true ↔ (rootCube particles).leads p.pos path = true := by
  rw [cube_at?_build ht, cubeAlong, Cube.contains_foldl_child_iff]
  exact and_iff_right (contains_rootCube hp)

/-- Particles at one point are never told apart, so their way goes down as far as there is room. -/
lemma exists_at?_together {p : Vec ℝ} {ms : List Nat}
    (hms : ∀ i ∈ ms, ∃ q, particles[i]? = some q ∧ q.pos = p) (hl : capacity < ms.length)
    (room : Nat) (c : Cube ℝ) :
    ∃ path, path.length = room ∧
      (ofMembers particles room c ms).at? path = some (leaf (path.foldl Cube.child c) ms) := by
  induction room generalizing c with
  | zero =>
    have hne : ms ≠ [] := List.ne_nil_of_length_pos (Nat.zero_lt_of_lt hl)
    refine ⟨[], rfl, ?_⟩
    rw [ofMembers, bucket, if_neg hne]
    rfl
  | succ room ih =>
    obtain ⟨path, hlen, hat⟩ := ih (c.child (c.octant p))
    have hsent : sent particles c ms (c.octant p) = ms := by
      apply List.filter_eq_self.mpr
      intro i hi
      obtain ⟨q, hq, rfl⟩ := hms i hi
      simp [octantAt, hq]
    refine ⟨c.octant p :: path, by simp [hlen], ?_⟩
    rw [ofMembers_large particles room c hl, scattered, at?, hsent, hat]
    rfl

/-- All particles lie strictly within the cube around them. A point of a cube lies in the octant of
its number and in no other. So the cubes of a built tree that a particle lies in are those on its
way, which are those of the nodes that hold it. -/
theorem inside_own_cubes :
    (∀ (ps : List (Vec ℝ)) (p : Vec ℝ), p ∈ ps →
      (Cube.bounding ps).center.Each (Cube.Inside (Cube.bounding ps).half) p) ∧
    (∀ (c : Cube ℝ) (p : Vec ℝ), c.contains p = true → ∀ k,
      (∃ c', c.octants[k]? = some c' ∧ c'.contains p = true) ↔ k = (c.octant p).number) ∧
    ∀ (particles : Array (Particle ℝ)) (path : List Octant) (t : Octree ℝ),
      (build particles).at? path = some t →
        path.length ≤ 48 ∧
        ∀ i p, particles[i]? = some p →
          (t.cube.contains p.pos = true ↔ (rootCube particles).leads p.pos path = true) ∧
          (t.cube.contains p.pos = true ↔ i ∈ t.members) := by
  refine ⟨fun ps p hp => Cube.inside_bounding hp, fun c p hp => Cube.contains_octants_iff hp, ?_⟩
  intro particles path t ht
  constructor
  · rw [build_rootCube] at ht
    exact (at?_ofMembers_eq particles ht).1
  · intro i p hp
    exact ⟨contains_cube_iff ht hp, (contains_cube_iff ht hp).trans (mem_members_iff ht hp).symm⟩

/-- One particle more than a leaf may hold, all at one point. -/
noncomputable def knot : Array (Particle ℝ) :=
  Array.replicate 9 (.new 1 .darkMatter 1 0 0 0)

lemma exists_at?_knot :
    ∃ path, path.length = 48 ∧
      (build knot).at? path = some (leaf (cubeAlong knot path) (List.range 9)) := by
  have hms : ∀ i ∈ List.range knot.size, ∃ q, knot[i]? = some q ∧ q.pos = 0 := by
    intro i hi
    have hi' : i < knot.size := List.mem_range.mp hi
    refine ⟨knot[i], Array.getElem?_eq_getElem hi', ?_⟩
    simp [knot, Particle.new]
  have hl : capacity < (List.range knot.size).length := by simp [knot, capacity]
  obtain ⟨path, hlen, hat⟩ := exists_at?_together hms hl maxDepth (rootCube knot)
  refine ⟨path, hlen, ?_⟩
  rw [build_rootCube, hat, knot, Array.size_replicate]
  rfl

theorem inside_own_cubes_knot :
    (Cube.bounding [(0 : Vec ℝ)]).center.Each (Cube.Inside (Cube.bounding [(0 : Vec ℝ)]).half) 0 ∧
    (∃ c', (Cube.bounding [(0 : Vec ℝ)]).octants[7]? = some c' ∧ c'.contains 0 = true) ∧
    ∃ path t, path.length = 48 ∧ (build knot).at? path = some t ∧ 0 ∈ t.members ∧
      t.cube.contains 0 = true := by
  obtain ⟨hbounding, hoctants, hbuild⟩ := inside_own_cubes
  have hmem : (0 : Vec ℝ) ∈ [(0 : Vec ℝ)] := List.mem_singleton_self 0
  have hin : (Cube.bounding [(0 : Vec ℝ)]).contains 0 = true := Cube.contains_bounding hmem
  have hseven : 7 = ((Cube.bounding [(0 : Vec ℝ)]).octant 0).number := by
    simp [Cube.bounding, Cube.spanning, Cube.octant, Vec.map, Octant.number]
  obtain ⟨path, hlen, hat⟩ := exists_at?_knot
  have hfirst : knot[0]? = some (.new 1 .darkMatter 1 0 0 0) := by simp [knot]
  obtain ⟨-, hnodes⟩ := hbuild knot path _ hat
  obtain ⟨-, hheld⟩ := hnodes 0 _ hfirst
  have hheld0 : 0 ∈ (leaf (cubeAlong knot path) (List.range 9)).members :=
    List.mem_range.mpr (by decide)
  exact ⟨hbounding _ 0 hmem, (hoctants _ 0 hin 7).mpr hseven, path, _, hlen, hat, hheld0,
    hheld.mpr hheld0⟩

end Octree

end GalacticWinds
