import GalacticWinds.Proofs.Exact
import GalacticWinds.Proofs.Rounding

/-! What can be relied on where numbers are compared, in exact arithmetic and in doubles alike. -/

namespace GalacticWinds

/-- A comparison that holds has numbers on both sides; without that neither reflexivity nor
totality can be asked for. -/
class OrderedScalar (α : Type) [Scalar α] : Prop where
  le_trans {x y z : α} : x ≤ y → y ≤ z → x ≤ z
  lt_of_le_of_lt {x y z : α} : x ≤ y → y < z → x < z
  sq_le_sq {x y : α} : 0 ≤ x → x ≤ y → Scalar.sq x ≤ Scalar.sq y
  le_max_right {x y z : α} : z ≤ y → z ≤ Scalar.max x y
  max_le_max {x y z : α} : y ≤ z → Scalar.max x y ≤ Scalar.max x z

instance realOrdered : OrderedScalar ℝ where
  le_trans := le_trans
  lt_of_le_of_lt := lt_of_le_of_lt
  sq_le_sq hx h := mul_self_le_mul_self hx h
  le_max_right h := le_max_of_le_right h
  max_le_max h := max_le_max_left _ h

namespace Double

variable {x y z : Float}

lemma max_eq (x y : Float) :
    Scalar.max x y = if x.isNaN then y else if y.isNaN then x else if y < x then x else y :=
  rfl

lemma le_max_right (h : z ≤ y) : z ≤ Scalar.max x y := by
  rw [max_eq]
  split_ifs with hx hy hlt
  · exact h
  · exact absurd hy (not_isNaN_of_le h).2
  · exact Double.le_trans h (Double.le_of_lt hlt)
  · exact h

lemma max_le_max (h : y ≤ z) : Scalar.max x y ≤ Scalar.max x z := by
  obtain ⟨hy, hz⟩ := not_isNaN_of_le h
  rw [max_eq, max_eq]
  split_ifs with hx hxy hxz hxz
  · exact h
  · exact Double.le_refl hx
  · exact Double.le_of_not_lt hz hx hxz
  · exact Double.le_trans h (Double.le_of_lt hxz)
  · exact h

end Double

instance doubleOrdered : OrderedScalar Float where
  le_trans := Double.le_trans
  lt_of_le_of_lt := Double.lt_of_le_of_lt
  sq_le_sq hx h := by
    rw [Double.zero_eq] at hx
    exact Double.mul_self_le_mul_self hx h
  le_max_right := Double.le_max_right
  max_le_max := Double.max_le_max

end GalacticWinds
