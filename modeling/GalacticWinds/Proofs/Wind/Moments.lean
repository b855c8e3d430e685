import GalacticWinds.Proofs.Exact
import GalacticWinds.Wind.Moments

/-! Moments in exact arithmetic are sums, so the order of the velocities does not matter. -/

namespace GalacticWinds.Moments

open scoped List

lemma add_real (m : Moments ℝ) (v : Vec ℝ) :
    m.add v = ⟨m.count + 1, m.first + v, m.second + v.normSq⟩ := by
  have hsecond : v.foldl (fun s u => s + Scalar.sq u) m.second = m.second + v.normSq := by
    change m.second + Scalar.sq v.x + Scalar.sq v.y + Scalar.sq v.z =
      m.second + (Scalar.sq v.x + Scalar.sq v.y + Scalar.sq v.z)
    ring
  rw [add, hsecond]

lemma ofList_concat {α : Type} [Scalar α] (vs : List (Vec α)) (v : Vec α) :
    ofList (vs ++ [v]) = (ofList vs).add v := by
  rw [ofList, List.foldl_append]
  rfl

lemma count_ofList {α : Type} [Scalar α] (vs : List (Vec α)) : (ofList vs).count = vs.length := by
  induction vs using List.reverseRecOn with
  | nil => rfl
  | append_singleton vs v ih =>
    rw [ofList_concat, add, ih, List.length_append, List.length_singleton, Nat.cast_add,
      Nat.cast_one]

theorem ofList_real (vs : List (Vec ℝ)) :
    ofList vs = ⟨vs.length, ⟨(vs.map (·.x)).sum, (vs.map (·.y)).sum, (vs.map (·.z)).sum⟩,
      (vs.map (·.normSq)).sum⟩ := by
  induction vs using List.reverseRecOn with
  | nil => rfl
  | append_singleton vs v ih =>
    rw [ofList_concat, ih, add_real, Vec.add_def]
    simp

lemma ofList_perm {vs ws : List (Vec ℝ)} (h : vs ~ ws) : ofList vs = ofList ws := by
  rw [ofList_real, ofList_real, h.length_eq, (h.map _).sum_eq, (h.map _).sum_eq, (h.map _).sum_eq,
    (h.map _).sum_eq]

end GalacticWinds.Moments
