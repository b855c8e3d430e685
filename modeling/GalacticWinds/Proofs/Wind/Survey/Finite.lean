import GalacticWinds.Proofs.Extended
import GalacticWinds.Proofs.Tree.Layout
import GalacticWinds.Proofs.Wind.Survey.Termination

/-! Searches among values that need not be numbers. A star whose smoothing length is a positive
number, in a store whose positions are numbers, is searched for in numbers alone. -/

namespace GalacticWinds

open Extended

noncomputable def Vec.isFinite (v : Vec Extended) : Bool :=
  (v.map Scalar.isFinite).all

namespace Vec

variable {u v : Vec Extended} {f : Extended → Extended → Extended}

lemma isFinite_iff : v.isFinite = true ↔
    Scalar.isFinite v.x = true ∧ Scalar.isFinite v.y = true ∧ Scalar.isFinite v.z = true := by
  rw [isFinite, Vec.all, Bool.and_eq_true, Bool.and_eq_true, and_assoc]
  rfl

section

variable (hf : ∀ {x y : Extended}, Scalar.isFinite x = true → Scalar.isFinite y = true →
  Scalar.isFinite (f x y) = true)

include hf

lemma isFinite_zipWith (hu : u.isFinite = true) (hv : v.isFinite = true) :
    (zipWith f u v).isFinite = true := by
  rw [isFinite_iff] at hu hv ⊢
  exact ⟨hf hu.1 hv.1, hf hu.2.1 hv.2.1, hf hu.2.2 hv.2.2⟩

lemma isFinite_foldl (hv : v.isFinite = true) {x : Extended} (hx : Scalar.isFinite x = true) :
    Scalar.isFinite (v.foldl f x) = true := by
  rw [isFinite_iff] at hv
  exact hf (hf (hf hx hv.1) hv.2.1) hv.2.2

lemma isFinite_foldl_zipWith {vs : List (Vec Extended)} (hvs : ∀ w ∈ vs, w.isFinite = true)
    (hv : v.isFinite = true) : (vs.foldl (zipWith f) v).isFinite = true := by
  induction vs generalizing v with
  | nil => exact hv
  | cons w vs ih =>
    apply ih
    · exact fun u hu => hvs u (List.mem_cons_of_mem w hu)
    · exact isFinite_zipWith hf hv (hvs w List.mem_cons_self)

end

end Vec

lemma Cube.isFinite_half_bounding {vs : List (Vec Extended)}
    (hvs : ∀ v ∈ vs, v.isFinite = true) : Scalar.isFinite (bounding vs).half = true := by
  cases vs with
  | nil => rfl
  | cons v vs =>
    have hv := hvs v List.mem_cons_self
    have hmore : ∀ w ∈ vs, w.isFinite = true := fun w hw => hvs w (List.mem_cons_of_mem v hw)
    have hlo := Vec.isFinite_foldl_zipWith isFinite_min hmore hv
    have hhi := Vec.isFinite_foldl_zipWith isFinite_max hmore hv
    have hextent := Vec.isFinite_foldl isFinite_max (Vec.isFinite_zipWith isFinite_sub hhi hlo)
      (rfl : Scalar.isFinite (0 : Extended) = true)
    exact isFinite_add (isFinite_mul (isFinite_mul rfl hextent) rfl) rfl

namespace Store

variable {s : Store Extended}

/-- Every particle is somewhere. -/
def Placed (s : Store Extended) : Prop :=
  ∀ p ∈ s.particles, p.pos.isFinite = true

lemma Placed.exists_diagonal (hs : s.Placed) :
    ∃ m, (Octree.build s.particles).diagonal = real m := by
  have hcube : (Octree.build s.particles).cube = .bounding (s.particles.toList.map (·.pos)) := by
    rw [Octree.build_eq_ofMembers, Octree.cube_ofMembers]
  have hhalf : Scalar.isFinite (Octree.build s.particles).cube.half = true := by
    rw [hcube]
    apply Cube.isFinite_half_bounding
    intro v hv
    obtain ⟨p, hp, rfl⟩ := List.mem_map.mp hv
    exact hs p (Array.mem_toList_iff.mp hp)
  have hthree : (0 : ℝ) ≤ 3.0 := by norm_num
  exact isFinite_iff.mp (isFinite_mul (isFinite_mul rfl (isFinite_sqrt hthree)) hhalf)

end Store

namespace Bracket

def extended (b : Bracket ℝ) : Bracket Extended :=
  ⟨real b.radius, real b.left, real b.right⟩

variable (b : Bracket ℝ) (count : Int) (maxRadius : ℝ)

lemma close_extended : b.extended.close count = (b.close count).extended := by
  rw [close, close]
  split_ifs <;> rfl

lemma bounded_extended : b.extended.bounded = b.bounded :=
  decide_eq_decide.mpr real_le

lemma next?_extended :
    b.extended.next? (real maxRadius) = (b.next? maxRadius).map real := by
  have hwide : b.extended.right - b.extended.left < (narrow : Extended) ↔
      b.right - b.left < narrow := by
    have hsub : b.extended.right - b.extended.left = real (b.right - b.left) := real_sub _ _
    rw [hsub]
    exact real_lt
  have hpast : real maxRadius < b.extended.radius ↔ maxRadius < b.radius := real_lt
  rw [next?, next?, bounded_extended]
  simp only [hwide, hpast]
  split_ifs <;> rfl

lemma step_extended :
    b.extended.step count (real maxRadius) =
      ((b.step count maxRadius).1.extended, (b.step count maxRadius).2) := by
  rw [step, step, close_extended]
  simp only [next?_extended]
  cases (b.close count).next? maxRadius <;> rfl

lemma ofHsml_extended (hsml : ℝ) : ofHsml (real hsml) = (ofHsml hsml).extended :=
  rfl

end Bracket

section

variable {cosmology : Cosmology Extended} {tree : Octree Extended} {s : Store Extended}

lemma settled_of_finite {p : Particle Extended} {hsml maxRadius : ℝ}
    (hmax : tree.diagonal = real maxRadius) (hp : p.hsml = real hsml) (hpos : 0 < hsml) {n : ℕ}
    (hle : Bracket.roundBound hsml maxRadius ≤ n) :
    (alone cosmology tree s p n).2 = true := by
  by_contra hn
  have hstage := unsettled_induction
    (P := fun n c => ∃ b : Bracket ℝ, c = b.extended ∧ b.Poised ∧
      Bracket.Stage hsml maxRadius n b)
    ⟨.ofHsml hsml, by rw [hp, Bracket.ofHsml_extended], Bracket.poised_ofHsml hpos,
      Bracket.stage_ofHsml⟩ ?_ (Bool.eq_false_iff.mpr hn)
  · obtain ⟨b, -, -, hb⟩ := hstage
    exact absurd (hb.lt_roundBound hpos) (not_lt.mpr hle)
  · rintro n r c ⟨b, hr, hb, hs⟩ hstep
    -- the step of the real search is the same step
    rw [hr, hmax, Bracket.step_extended, Prod.mk.injEq] at hstep
    obtain ⟨hc, hagain⟩ := hstep
    have hreal : b.step _ maxRadius = (_, false) := Prod.ext rfl hagain
    exact ⟨_, hc.symm, hb.step hreal, hs.step hb hreal⟩

lemma exists_settled_of_finite (hs : s.Placed) {i : Nat} (hi : s.Searchable i) :
    ∃ n, AllSettled cosmology (.build s.particles) s [i] n := by
  obtain ⟨p, hp, -, hpos, hfin⟩ := hi
  obtain ⟨maxRadius, hmax⟩ := hs.exists_diagonal
  obtain ⟨hsml, hh⟩ := isFinite_iff.mp hfin
  rw [hh] at hpos
  refine ⟨Bracket.roundBound hsml maxRadius, fun j hj q hq => ?_⟩
  obtain rfl := List.mem_singleton.mp hj
  obtain rfl := Option.some.inj (hp.symm.trans hq)
  exact settled_of_finite hmax hh (real_lt.mp hpos) le_rfl

end

end GalacticWinds
