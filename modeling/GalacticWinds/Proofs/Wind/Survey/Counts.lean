import GalacticWinds.Proofs.Wind.Moments
import GalacticWinds.Proofs.Wind.Survey.Alone

/-! What a survey takes in around a star: the mass of the gas and the moments of the dark matter,
each within a radius of its own. -/

namespace GalacticWinds

open scoped List

section

variable {α : Type} [Scalar α] (cosmology : Cosmology α) (q : StarQuery α)

def StarQuery.counts (n : Neighbour α) : Bool :=
  n.particle.species = .darkMatter && !decide (q.record.bracket.radius < n.r)

lemma darkMatter_foldl_observe (ns : List (Neighbour α)) (z : Surroundings α) :
    (ns.foldl (Surroundings.observe cosmology q) z).darkMatter =
      ((ns.filter q.counts).map (·.flowVelocity cosmology)).foldl Moments.add z.darkMatter := by
  induction ns generalizing z with
  | nil => rfl
  | cons n ns ih =>
    rw [List.foldl_cons, ih, List.filter_cons]
    cases hk : n.particle.species with
    | darkMatter =>
      by_cases hr : q.record.bracket.radius < n.r
      · simp [StarQuery.counts, Surroundings.observe, hk, hr]
      · simp [StarQuery.counts, Surroundings.observe, hk, hr]
    | gas =>
      by_cases hr : q.star.hsml < n.r
      · simp [StarQuery.counts, Surroundings.observe, hk, hr]
      · simp [StarQuery.counts, Surroundings.observe, hk, hr]
    | star => simp [StarQuery.counts, Surroundings.observe, hk]
    | blackHole => simp [StarQuery.counts, Surroundings.observe, hk]

namespace StarQuery

def weighs (n : Neighbour α) : Bool :=
  n.particle.species = .gas && !decide (q.star.hsml < n.r)

/-- The reach of a search, which goes as far as the radius that is tried. -/
def searchReach : Reach α :=
  ⟨q.star.pos, Scalar.max q.star.hsml q.record.bracket.radius, .gasAndDarkMatter⟩

def weighed (tree : Octree α) (s : Store α) : List (Neighbour α) :=
  (tree.near s.particles q.searchReach).filter q.weighs

end StarQuery

lemma gasMass_foldl_observe (ns : List (Neighbour α)) (z : Surroundings α) :
    (ns.foldl (Surroundings.observe cosmology q) z).gasMass =
      ((ns.filter q.weighs).map (·.particle.mass)).foldl (· + ·) z.gasMass := by
  induction ns generalizing z with
  | nil => rfl
  | cons n ns ih =>
    rw [List.foldl_cons, ih, List.filter_cons]
    cases hk : n.particle.species with
    | gas =>
      by_cases hr : q.star.hsml < n.r
      · simp [StarQuery.weighs, Surroundings.observe, hk, hr]
      · simp [StarQuery.weighs, Surroundings.observe, hk, hr]
    | darkMatter =>
      by_cases hr : q.record.bracket.radius < n.r
      · simp [StarQuery.weighs, Surroundings.observe, hk, hr]
      · simp [StarQuery.weighs, Surroundings.observe, hk, hr]
    | star => simp [StarQuery.weighs, Surroundings.observe, hk]
    | blackHole => simp [StarQuery.weighs, Surroundings.observe, hk]

lemma darkMatter_gather (maxRadius : α) (tree : Octree α) (ps : Array (Particle α)) :
    ((surveyWalk cosmology maxRadius).gather tree ps q).darkMatter =
      .ofList (((tree.near ps ((surveyWalk cosmology maxRadius).reach q)).filter q.counts).map
        (·.flowVelocity cosmology)) :=
  darkMatter_foldl_observe cosmology q _ .zero

end

namespace Store

/-- The gas within a distance, each particle with its mass. -/
noncomputable def gasWithin (s : Store ℝ) (c : Vec ℝ) (r : ℝ) : List (Nat × ℝ) :=
  (List.range s.size).filterMap fun i => s.particles[i]?.bind fun p =>
    if p.species = .gas ∧ (c - p.pos).norm ≤ r then some (i, p.mass) else none

noncomputable def darkMatterWithin (s : Store ℝ) (c : Vec ℝ) (r : ℝ) : List Nat :=
  (s.placesOf .darkMatter).filter fun i =>
    s.particles[i]?.any fun p => decide ((c - p.pos).norm ≤ r)

/-- The velocities of the dark matter within a distance, as they are seen from the middle. -/
noncomputable def flowWithin (s : Store ℝ) (cosmology : Cosmology ℝ) (c : Vec ℝ) (r : ℝ) :
    List (Vec ℝ) :=
  (s.darkMatterWithin c r).filterMap fun i =>
    s.particles[i]?.map fun p => p.vel + (c - p.pos).map cosmology.hubbleFlow

end Store

variable (cosmology : Cosmology ℝ) (maxRadius : ℝ) (q : StarQuery ℝ) (s : Store ℝ)

lemma flowWithin_eq (c : Vec ℝ) (r : ℝ) :
    s.flowWithin cosmology c r = (List.range s.size).filterMap fun i =>
      s.particles[i]?.bind fun p =>
        if p.species = .darkMatter ∧ (c - p.pos).norm ≤ r then
          some (p.vel + (c - p.pos).map cosmology.hubbleFlow)
        else none := by
  rw [Store.flowWithin, Store.darkMatterWithin, Store.placesOf, List.filter_filter,
    List.filterMap_filter]
  refine List.filterMap_congr fun i _ => ?_
  rw [Store.species?]
  cases s.particles[i]? with
  | none => simp
  | some p => simp [and_comm]

lemma length_flowWithin (c : Vec ℝ) (r : ℝ) :
    (s.flowWithin cosmology c r).length = (s.darkMatterWithin c r).length := by
  rw [Store.flowWithin, List.length_filterMap_eq_countP, List.countP_eq_length]
  intro i hi
  rw [Store.darkMatterWithin, List.mem_filter, Option.any_eq_true] at hi
  obtain ⟨-, p, hp, -⟩ := hi
  rw [hp]
  rfl

lemma darkMatter_gather_build :
    ((surveyWalk cosmology maxRadius).gather (.build s.particles) s.particles q).darkMatter =
      .ofList (s.flowWithin cosmology q.star.pos q.record.bracket.radius) := by
  have hmask : ((surveyWalk cosmology maxRadius).reach q).mask.contains .darkMatter = true := by
    change SpeciesMask.gasAndDarkMatter.contains .darkMatter = true
    decide
  have hnear := Octree.near_within_perm s.particles hmask
    (le_max_right q.star.hsml q.record.bracket.radius) (·.flowVelocity cosmology)
  rw [darkMatter_gather, flowWithin_eq]
  exact Moments.ofList_perm hnear

lemma count_gather_build :
    ((surveyWalk cosmology maxRadius).gather (.build s.particles) s.particles
        q).darkMatter.count =
      (s.darkMatterWithin q.star.pos q.record.bracket.radius).length := by
  rw [darkMatter_gather_build, Moments.ofList_real]
  exact congrArg Nat.cast (length_flowWithin cosmology s _ _)

lemma gasMass_gather (tree : Octree ℝ) :
    ((surveyWalk cosmology maxRadius).gather tree s.particles q).gasMass =
      ((q.weighed tree s).map (·.particle.mass)).sum := by
  rw [List.sum_eq_foldl]
  exact gasMass_foldl_observe cosmology q _ .zero

lemma weighed_perm :
    (q.weighed (.build s.particles) s).map (fun n => (n.index, n.particle.mass)) ~
      s.gasWithin q.star.pos q.star.hsml := by
  have hmask : q.searchReach.mask.contains .gas = true := by
    change SpeciesMask.gasAndDarkMatter.contains .gas = true
    decide
  exact Octree.near_within_perm s.particles hmask
    (le_max_left q.star.hsml q.record.bracket.radius) fun n => (n.index, n.particle.mass)

variable {s}

lemma norm_le_diagonal {i j : Nat} {p p' : Particle ℝ} (hp : s.particles[i]? = some p)
    (hp' : s.particles[j]? = some p') :
    (p.pos - p'.pos).norm ≤ (Octree.build s.particles).diagonal := by
  have hcube : (Octree.build s.particles).cube =
      .bounding (s.particles.toList.map (·.pos)) := by
    rw [Octree.build_eq_ofMembers, Octree.cube_ofMembers]
  have hin : ∀ {k : Nat} {p : Particle ℝ}, s.particles[k]? = some p →
      (Octree.build s.particles).cube.contains p.pos = true := by
    intro k p hp
    rw [hcube]
    have hmem : p ∈ s.particles.toList := Array.mem_toList_iff.mpr (Array.mem_of_getElem? hp)
    exact Cube.contains_bounding (List.mem_map_of_mem hmem)
  have hdiag : (Octree.build s.particles).diagonal =
      2.0 * √3.0 * (Octree.build s.particles).cube.half := rfl
  have hhalf : 0 ≤ (Octree.build s.particles).cube.half := by
    obtain ⟨hx, -, -⟩ := (Cube.contains_iff _ _).mp (hin hp)
    exact (abs_nonneg _).trans hx.abs_sub_le
  rw [Vec.norm_real, hdiag, Real.sqrt_le_iff]
  refine ⟨by positivity, (Cube.normSq_sub_le (hin hp') (hin hp)).trans (le_of_eq ?_)⟩
  have hthree : √(3.0 : ℝ) ^ 2 = 3 := by
    rw [Real.sq_sqrt (by norm_num)]
    norm_num
  rw [mul_pow, mul_pow, hthree]
  norm_num

lemma darkMatterWithin_of_diagonal_le {r : ℝ} (hr : (Octree.build s.particles).diagonal ≤ r)
    {i : Nat} {p : Particle ℝ} (hp : s.particles[i]? = some p) :
    s.darkMatterWithin p.pos r = s.placesOf .darkMatter := by
  refine List.filter_eq_self.mpr fun j hj => ?_
  rw [Store.placesOf, List.mem_filter] at hj
  obtain ⟨p', hp', -⟩ := Option.map_eq_some_iff.mp (of_decide_eq_true hj.2)
  rw [hp', Option.any_some]
  exact decide_eq_true ((norm_le_diagonal hp hp').trans hr)

end GalacticWinds
