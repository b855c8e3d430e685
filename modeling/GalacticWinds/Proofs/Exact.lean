import GalacticWinds.Particle.Basic
import Mathlib.Analysis.SpecialFunctions.Pow.Real
import Mathlib.Analysis.SpecialFunctions.Trigonometric.Inverse

/-! The wind model read in exact arithmetic: the real numbers as scalars. -/

namespace GalacticWinds

noncomputable section

instance realScalar : Scalar ℝ where
  zero := inferInstance
  one := inferInstance
  add := inferInstance
  sub := inferInstance
  mul := inferInstance
  div := inferInstance
  neg := inferInstance
  lt := inferInstance
  le := inferInstance
  scientific := inferInstance
  ofInt := inferInstance
  decLT := inferInstance
  decLE := inferInstance
  abs x := |x|
  sqrt := Real.sqrt
  max x y := max x y
  min x y := min x y
  isFinite _ := true

instance realTranscendental : Transcendental ℝ where
  pi := Real.pi
  exp := Real.exp
  sin := Real.sin
  cos := Real.cos
  acos := Real.arccos
  cbrt x := SignType.sign x * |x| ^ (1 / 3 : ℝ)

end

lemma Scalar.sq_real (x : ℝ) : Scalar.sq x = x ^ 2 :=
  (pow_two x).symm

namespace Vec

lemma add_def (v w : Vec ℝ) : v + w = ⟨v.x + w.x, v.y + w.y, v.z + w.z⟩ := rfl

lemma sub_def (v w : Vec ℝ) : v - w = ⟨v.x - w.x, v.y - w.y, v.z - w.z⟩ := rfl

lemma smul_def (k : ℝ) (v : Vec ℝ) : k * v = ⟨k * v.x, k * v.y, k * v.z⟩ := rfl

lemma normSq_real (v : Vec ℝ) : v.normSq = v.x ^ 2 + v.y ^ 2 + v.z ^ 2 := by
  simp only [pow_two]
  rfl

lemma norm_real (v : Vec ℝ) : v.norm = √v.normSq := rfl

end Vec

end GalacticWinds
