import GalacticWinds.Proofs.Tree.Nested
import GalacticWinds.Proofs.Wind.Survey.Counts

/-! A wider search for dark matter never counts fewer of it, whatever tree it goes through. -/

namespace GalacticWinds

open scoped List

section

variable {α : Type} [Scalar α]

/-- A star that tries this radius. -/
def StarQuery.trying (q : StarQuery α) (radius : α) : StarQuery α :=
  { q with record.bracket.radius := radius }

lemma count_gather (cosmology : Cosmology α) (maxRadius : α) (tree : Octree α)
    (particles : Array (Particle α)) (q : StarQuery α) :
    ((surveyWalk cosmology maxRadius).gather tree particles q).darkMatter.count =
      (tree.near particles q.searchReach).countP q.counts := by
  rw [darkMatter_gather, Moments.count_ofList, List.length_map, List.countP_eq_length_filter]
  rfl

variable [OrderedScalar α] {q : StarQuery α} {x y : α} (h : x ≤ y)

include h

lemma StarQuery.counts_trying (n : Neighbour α) (hn : (q.trying x).counts n = true) :
    (q.trying y).counts n = true := by
  rw [counts, Bool.and_eq_true, Bool.not_eq_true', decide_eq_false_iff_not] at hn ⊢
  exact ⟨hn.1, fun hlt => hn.2 (OrderedScalar.lt_of_le_of_lt h hlt)⟩

lemma StarQuery.searchReach_trying (hx : 0 ≤ x) :
    (q.trying x).searchReach.Within (q.trying y).searchReach :=
  .of_radius (OrderedScalar.le_max_right hx) (OrderedScalar.max_le_max h) fun _ hk => hk

end

/-- A search that goes further, for more species, comes to the same particles in the same order and
to others between them, on a tree that was built of any particles. Each of them it meets once, and
where it is now. So no tree makes the number of neighbours fall that the radius is judged by. -/
theorem near_nested {α : Type} [Scalar α] [OrderedScalar α]
    (origin particles : Array (Particle α)) :
    (∀ (center : Vec α) (x y : α) (m n : SpeciesMask), 0 ≤ x → x ≤ y →
      (∀ k, m.contains k = true → n.contains k = true) →
      (Octree.build origin).near particles ⟨center, x, m⟩ <+
        (Octree.build origin).near particles ⟨center, y, n⟩) ∧
    (∀ q : Reach α,
      (((Octree.build origin).near particles q).map (·.index)).Nodup ∧
      ∀ v ∈ (Octree.build origin).near particles q, ∃ p, particles[v.index]? = some p ∧
        q.mask.contains p.species = true ∧ (q.center - p.pos).normSq ≤ Scalar.sq q.radius ∧
        v = ⟨v.index, p, q.center - p.pos, (q.center - p.pos).norm⟩) ∧
    ∀ (tree : Octree α) (cosmology : Cosmology α) (maxRadius : α) (q : StarQuery α) (x y : α),
      0 ≤ x → x ≤ y →
      ((surveyWalk cosmology maxRadius).gather tree particles (q.trying x)).darkMatter.count ≤
        ((surveyWalk cosmology maxRadius).gather tree particles (q.trying y)).darkMatter.count := by
  refine ⟨fun center x y m n hx h hm => ?_, fun q => ⟨?_, fun v hv => ?_⟩,
    fun tree cosmology maxRadius q x y hx h => ?_⟩
  · exact Octree.near_build_sublist particles (.of_radius hx h hm) origin
  · exact Octree.nodup_near_of_build particles q origin
  · exact Octree.near_sound particles q hv
  · have hnear := Octree.near_sublist_of_mask particles (q.searchReach_trying h hx) rfl tree
    rw [count_gather, count_gather, Nat.cast_le]
    calc (tree.near particles (q.trying x).searchReach).countP (q.trying x).counts
      _ ≤ (tree.near particles (q.trying y).searchReach).countP (q.trying x).counts :=
        hnear.countP_le
      _ ≤ (tree.near particles (q.trying y).searchReach).countP (q.trying y).counts :=
        List.countP_mono_left fun n _ => StarQuery.counts_trying h n

/-- Gas at this place of an axis, and dark matter further along. -/
def gasBefore (x : Float) : Array (Particle Float) :=
  #[.new 1 .gas 1 ⟨x, 0, 0⟩ 0 1, .new 2 .darkMatter 1 ⟨11, 0, 0⟩ 0 0]

/-- The gas has moved to the point that is searched from, and is still sought where it was. -/
lemma near_strayed :
    (((Octree.build (gasBefore 10)).near (gasBefore 0) ⟨0, 5, .gasAndDarkMatter⟩).map
      (·.index) = []) ∧
    (((Octree.build (gasBefore 10)).near (gasBefore 0) ⟨0, 12, .darkMatter⟩).map
      (·.index) = [1]) ∧
    (((Octree.build (gasBefore 10)).near (gasBefore 0) ⟨0, 13, .gasAndDarkMatter⟩).map
      (·.index) = [0, 1]) := by
  simp only [Octree.near_eq_nearRec]
  decide +kernel

theorem near_nested_strayed :
    (0 : Float) ≤ 12 ∧ (12 : Float) ≤ 13 ∧
    (Octree.build (gasBefore 10)).near (gasBefore 0) ⟨0, 12, .darkMatter⟩ <+
      (Octree.build (gasBefore 10)).near (gasBefore 0) ⟨0, 13, .gasAndDarkMatter⟩ ∧
    ((Octree.build (gasBefore 10)).near (gasBefore 0) ⟨0, 12, .darkMatter⟩).map (·.index) = [1] ∧
    ((Octree.build (gasBefore 10)).near (gasBefore 0) ⟨0, 13, .gasAndDarkMatter⟩).map (·.index) =
      [0, 1] := by
  refine ⟨by decide +kernel, by decide +kernel, ?_, near_strayed.2⟩
  refine (near_nested (gasBefore 10) (gasBefore 0)).1 0 12 13 .darkMatter .gasAndDarkMatter
    (by decide +kernel) (by decide +kernel) fun k => ?_
  cases k <;> decide

end GalacticWinds
