import GalacticWinds.Proofs.Tree.Inside

/-! The distance that a search prunes by. It is the distance to the closest point of the cube, so
it does not shrink on the way down from a cube to its octants. -/

namespace GalacticWinds

namespace Cube

def clamp (half m x : ℝ) : ℝ :=
  max (m - half) (min (m + half) x)

def nearest (c : Cube ℝ) (p : Vec ℝ) : Vec ℝ :=
  Vec.zipWith (clamp c.half) c.center p

lemma excess_eq_zero_iff (half m x : ℝ) : excess half m x = 0 ↔ |x - m| ≤ half := by
  rw [excess_real, max_eq_right_iff, sub_nonpos]

lemma distSq_eq_zero_iff (c : Cube ℝ) (p : Vec ℝ) : c.distSq p = 0 ↔ p ∈ c.solid := by
  have hx := sq_nonneg (excess c.half c.center.x p.x)
  have hy := sq_nonneg (excess c.half c.center.y p.y)
  have hz := sq_nonneg (excess c.half c.center.z p.z)
  rw [distSq_real, add_eq_zero_iff_of_nonneg (add_nonneg hx hy) hz,
    add_eq_zero_iff_of_nonneg hx hy, and_assoc]
  simp only [sq_eq_zero_iff, excess_eq_zero_iff]
  rfl

section

variable {half : ℝ} (h : 0 ≤ half) (m x : ℝ)

include h

lemma abs_clamp_sub_le : |clamp half m x - m| ≤ half := by
  apply abs_le.mpr
  constructor
  · have hlo : m - half ≤ clamp half m x := le_max_left _ _
    linarith
  · have hhi : clamp half m x ≤ m + half := by
      apply max_le
      · linarith
      · exact min_le_left _ _
    linarith

lemma abs_sub_clamp : |x - clamp half m x| = excess half m x := by
  rw [excess_real]
  -- The point is below the interval, in it or above it.
  rcases le_total x (m - half) with hlo | hlo
  · have hc : clamp half m x = m - half := max_eq_left ((min_le_right _ _).trans hlo)
    rw [hc, abs_of_nonpos (by linarith), abs_of_nonpos (by linarith), max_eq_left (by linarith)]
    ring
  · rcases le_total x (m + half) with hhi | hhi
    · have hc : clamp half m x = x := by rw [clamp, min_eq_right hhi, max_eq_right hlo]
      have hx : |x - m| ≤ half := abs_le.mpr ⟨by linarith, by linarith⟩
      rw [hc, sub_self, abs_zero, max_eq_right (by linarith)]
    · have hc : clamp half m x = m + half := by
        rw [clamp, min_eq_left hhi, max_eq_right (by linarith)]
      rw [hc, abs_of_nonneg (by linarith), abs_of_nonneg (by linarith), max_eq_left (by linarith)]
      ring

lemma excess_le_excess_shift (upper : Bool) :
    excess half m x ≤ excess (half / 2) (shift (half / 2) m upper) x := by
  have hshift : |shift (half / 2) m upper - m| = half / 2 := by
    cases upper with
    | false =>
      have he : shift (half / 2) m false - m = -(half / 2) := by norm_num [shift]
      rw [he, abs_neg, abs_of_nonneg (by linarith)]
    | true =>
      have he : shift (half / 2) m true - m = half / 2 := by norm_num [shift]
      rw [he, abs_of_nonneg (by linarith)]
  have ht : |x - m| ≤ |x - shift (half / 2) m upper| + |shift (half / 2) m upper - m| :=
    abs_sub_le _ _ _
  rw [excess_real, excess_real]
  apply max_le_max_right
  linarith

end

section

variable {c : Cube ℝ} (h : 0 ≤ c.half) (p : Vec ℝ)

include h

lemma nearest_mem_solid : c.nearest p ∈ c.solid :=
  ⟨abs_clamp_sub_le h _ _, abs_clamp_sub_le h _ _, abs_clamp_sub_le h _ _⟩

lemma normSq_sub_nearest : (p - c.nearest p).normSq = c.distSq p := by
  have he : ∀ m x, (x - clamp c.half m x) ^ 2 = excess c.half m x ^ 2 := by
    intro m x
    rw [← sq_abs, abs_sub_clamp h]
  rw [Vec.normSq_real, distSq_real, ← he, ← he, ← he]
  rfl

lemma isLeast_distSq : IsLeast ((fun q => (p - q).normSq) '' c.solid) (c.distSq p) := by
  refine ⟨⟨c.nearest p, nearest_mem_solid h p, normSq_sub_nearest h p⟩, ?_⟩
  rintro _ ⟨q, hq, rfl⟩
  exact distSq_le_of_mem p hq

lemma distSq_le_child (o : Octant) : c.distSq p ≤ (c.child o).distSq p := by
  have he : ∀ m x upper, excess c.half m x ^ 2 ≤
      excess (c.half / 2) (shift (c.half / 2) m upper) x ^ 2 := by
    intro m x upper
    apply pow_le_pow_left₀ (excess_nonneg _ _ _)
    exact excess_le_excess_shift h m x upper
  rw [distSq_real, distSq_real, child_real]
  exact add_le_add (add_le_add (he _ _ _) (he _ _ _)) (he _ _ _)

lemma half_child_nonneg (o : Octant) : 0 ≤ (c.child o).half := by
  rw [child_real]
  exact div_nonneg h two_pos.le

lemma half_foldl_child_nonneg (path : List Octant) : 0 ≤ (path.foldl child c).half := by
  induction path generalizing c with
  | nil => exact h
  | cons o path ih => exact ih (half_child_nonneg h o)

lemma distSq_le_foldl_child (path : List Octant) :
    c.distSq p ≤ (path.foldl child c).distSq p := by
  induction path generalizing c with
  | nil => exact le_rfl
  | cons o path ih =>
    calc c.distSq p ≤ (c.child o).distSq p := distSq_le_child h p o
      _ ≤ (path.foldl child (c.child o)).distSq p := ih (half_child_nonneg h o)

end

lemma half_bounding_pos (ps : List (Vec ℝ)) : 0 < (bounding ps).half := by
  cases ps with
  | nil => exact one_pos
  | cons p ps =>
    obtain ⟨⟨hlo, hhi⟩, -⟩ := inside_bounding (List.mem_cons_self (a := p) (l := ps))
    linarith

end Cube

namespace Octree

lemma at?_append {α : Type} {t u : Octree α} {path : List Octant} (h : t.at? path = some u)
    (below : List Octant) : t.at? (path ++ below) = u.at? below := by
  induction path generalizing t with
  | nil =>
    rw [at?, Option.some.injEq] at h
    rw [h, List.nil_append]
  | cons o path ih =>
    cases t with
    | empty c => cases h
    | leaf c ms => cases h
    | node c mask count children => exact ih h

lemma distSq_cube_le {particles : Array (Particle ℝ)} {path below : List Octant} {t u : Octree ℝ}
    (ht : (build particles).at? path = some t) (hu : t.at? below = some u) (p : Vec ℝ) :
    t.cube.distSq p ≤ u.cube.distSq p := by
  have hbelow : (build particles).at? (path ++ below) = some u := (at?_append ht below).trans hu
  have hroot : 0 ≤ (rootCube particles).half := (Cube.half_bounding_pos _).le
  rw [cube_at?_build ht, cube_at?_build hbelow, cubeAlong, cubeAlong, List.foldl_append]
  apply Cube.distSq_le_foldl_child
  exact Cube.half_foldl_child_nonneg hroot path

end Octree

/-- The pruning distance is attained by a point of the cube and by none undercut. No octant is
closer than its cube, so whatever a radius leaves out, it leaves out at every level below. -/
theorem Cube.distSq_exact {c : Cube ℝ} (h : 0 ≤ c.half) (p : Vec ℝ) :
    IsLeast ((fun q => (p - q).normSq) '' c.solid) (c.distSq p) ∧
    (c.distSq p = 0 ↔ p ∈ c.solid) ∧
    (∀ c' ∈ c.octants, c.distSq p ≤ c'.distSq p) ∧
    ∀ (particles : Array (Particle ℝ)) (path below : List Octant) (t u : Octree ℝ) (q : Reach ℝ),
      (Octree.build particles).at? path = some t → t.at? below = some u →
        q.misses t.cube = true → q.misses u.cube = true := by
  refine ⟨isLeast_distSq h p, distSq_eq_zero_iff c p, ?_, ?_⟩
  · intro c' hc'
    obtain ⟨o, -, rfl⟩ := List.mem_map.mp hc'
    exact distSq_le_child h p o
  · intro particles path below t u q ht hu hq
    apply decide_eq_true
    calc q.radiusSq < t.cube.distSq q.center := of_decide_eq_true hq
      _ ≤ u.cube.distSq q.center := Octree.distSq_cube_le ht hu q.center

lemma Cube.distSq_unit_corner : (⟨0, 1⟩ : Cube ℝ).distSq ⟨2, 2, 0⟩ = 2 := by
  rw [distSq_real, excess_real, excess_real, excess_real]
  norm_num

lemma Octree.rootCube_knot : rootCube knot = ⟨0, Cube.padded 0⟩ := by
  have hpos : knot.toList.map (·.pos) = List.replicate 9 0 := by simp [knot, Particle.new]
  rw [rootCube, hpos]
  simp [Cube.bounding, List.replicate_succ, Cube.spanning, Vec.zipWith, Vec.map, Vec.ext_iff,
    Vec.foldl, Scalar.min, Scalar.max]

lemma Octree.misses_rootCube_knot :
    Reach.misses ⟨⟨5, 0, 0⟩, 1, .darkMatter⟩ (rootCube knot) = true := by
  have hsq : Reach.radiusSq ⟨⟨5, 0, 0⟩, 1, .darkMatter⟩ = (1 : ℝ) := one_mul 1
  have hfar : 1 < (rootCube knot).distSq ⟨5, 0, 0⟩ := by
    rw [rootCube_knot, Cube.distSq_real, Cube.excess_real, Cube.excess_real, Cube.excess_real,
      Cube.padded_real]
    norm_num
  rw [Reach.misses, hsq]
  exact decide_eq_true hfar

theorem Cube.distSq_exact_corner :
    (0 : ℝ) ≤ 1 ∧
    IsLeast ((fun q => ((⟨2, 2, 0⟩ : Vec ℝ) - q).normSq) '' (⟨0, 1⟩ : Cube ℝ).solid) 2 ∧
    ∃ path t, path.length = 48 ∧ (Octree.build Octree.knot).at? path = some t ∧
      Reach.misses ⟨⟨5, 0, 0⟩, 1, .darkMatter⟩ t.cube = true := by
  obtain ⟨hleast, -, -, hbelow⟩ := distSq_exact (c := ⟨0, 1⟩) zero_le_one ⟨2, 2, 0⟩
  rw [distSq_unit_corner] at hleast
  obtain ⟨path, hlen, hat⟩ := Octree.exists_at?_knot
  have htop : (Octree.build Octree.knot).at? [] = some (Octree.build Octree.knot) := rfl
  have hroot : (Octree.build Octree.knot).cube = Octree.rootCube Octree.knot :=
    Octree.cube_at?_build htop
  have hmiss := Octree.misses_rootCube_knot
  rw [← hroot] at hmiss
  exact ⟨zero_le_one, hleast, path, _, hlen, hat, hbelow _ _ _ _ _ _ htop hat hmiss⟩

end GalacticWinds
