import GalacticWinds.Proofs.Particle.Slots
import GalacticWinds.Proofs.Tree.Search
import GalacticWinds.Wind.Survey.Walk

/-! Marks change nothing that a survey measures. -/

namespace GalacticWinds

variable {α : Type}

def Particle.marked (p : Particle α) (converged : Bool) : Particle α :=
  { p with converged }

namespace Store

def unmarked (s : Store α) : Store α :=
  { s with particles := s.particles.map (·.marked false) }

variable {s t : Store α} {i : Nat} {p : Particle α}

lemma getElem?_mark (s : Store α) (b : Bool) (i j : Nat) :
    (s.mark b i).particles[j]? =
      s.particles[j]?.map fun p => if i = j then p.marked b else p := by
  rw [mark, modify, Array.getElem?_modify]
  split_ifs with h
  · rfl
  · rw [Option.map_id']

lemma unmarked_mark (s : Store α) (b : Bool) (i : Nat) : (s.mark b i).unmarked = s.unmarked := by
  have hp : (s.mark b i).unmarked.particles = s.unmarked.particles := by
    refine Array.ext_getElem? fun j => ?_
    simp only [unmarked, Array.getElem?_map, getElem?_mark, Option.map_map]
    cases s.particles[j]? with
    | none => rfl
    | some p =>
      simp only [Option.map_some, Function.comp_apply]
      split_ifs <;> rfl
  rw [unmarked, unmarked]
  exact congrArg (fun ps => Store.mk ps s.gasStates s.starCount) hp

lemma getElem?_foldl_mark (s : Store α) (b : Bool) (is : List Nat) (j : Nat) :
    (is.foldl (fun s i => s.mark b i) s).particles[j]? =
      s.particles[j]?.map fun p => if j ∈ is then p.marked b else p := by
  induction is generalizing s with
  | nil => simp
  | cons i is ih =>
    rw [List.foldl_cons, ih, getElem?_mark, Option.map_map]
    refine congrArg (s.particles[j]?.map ·) (funext fun p => ?_)
    by_cases hj : j ∈ is
    · simp [hj, Particle.marked, apply_ite]
    · by_cases hij : i = j
      · simp [hj, hij]
      · simp [hj, hij, Ne.symm hij]

lemma unmarked_foldl_mark (s : Store α) (b : Bool) (is : List Nat) :
    (is.foldl (fun s i => s.mark b i) s).unmarked = s.unmarked := by
  induction is generalizing s with
  | nil => rfl
  | cons i is ih => rw [List.foldl_cons, ih, unmarked_mark]

lemma exists_of_unmarked (h : t.unmarked = s.unmarked) (hp : s.particles[i]? = some p) :
    ∃ b, t.particles[i]? = some (p.marked b) := by
  have hi : t.unmarked.particles[i]? = s.unmarked.particles[i]? := by rw [h]
  simp only [unmarked, Array.getElem?_map, hp, Option.map_some, Option.map_eq_some_iff] at hi
  obtain ⟨q, hq, hqp⟩ := hi
  have hm : q = p.marked q.converged := by
    calc q = (q.marked false).marked q.converged := rfl
      _ = (p.marked false).marked q.converged := by rw [hqp]
      _ = p.marked q.converged := rfl
  exact ⟨q.converged, hm ▸ hq⟩

lemma getElem?_eq_none_of_unmarked (h : t.unmarked = s.unmarked)
    (hp : s.particles[i]? = none) : t.particles[i]? = none := by
  rw [Option.eq_none_iff_forall_ne_some]
  intro q hq
  obtain ⟨b, hq'⟩ := exists_of_unmarked h.symm hq
  exact absurd (hp.symm.trans hq') (by simp)

lemma gas?_of_unmarked (h : t.unmarked = s.unmarked) {g : SphState α}
    (hg : s.gas? i = some (p, g)) : ∃ b, t.gas? i = some (p.marked b, g) := by
  obtain ⟨hp, hk, hh⟩ := gas?_eq_some_iff.mp hg
  obtain ⟨b, hq⟩ := exists_of_unmarked h hp
  have hgas : t.gasStates = s.gasStates := congrArg (·.gasStates) h
  exact ⟨b, gas?_eq_some_iff.mpr ⟨hq, hk, by rwa [hgas]⟩⟩

end Store

variable [Scalar α] (cosmology : Cosmology α) (maxRadius : α) (tree : Octree α)

lemma gather_unmarked (s : Store α) (p : Particle α) (b : Bool) (r : StarRecord α) :
    (surveyWalk cosmology maxRadius).gather tree s.unmarked.particles ⟨p.marked b, r⟩ =
      (surveyWalk cosmology maxRadius).gather tree s.particles ⟨p, r⟩ := by
  have hnear := Octree.near_map s.particles ((surveyWalk cosmology maxRadius).reach ⟨p, r⟩)
    (f := (·.marked false)) (fun _ => rfl) (fun _ => rfl) tree
  rw [Walk.gather]
  rw [Store.unmarked]
  exact (congrArg (List.foldl _ _) hnear).trans List.foldl_map

lemma gather_congr {s t : Store α} (h : t.unmarked = s.unmarked) (p : Particle α) (b : Bool)
    (r : StarRecord α) :
    (surveyWalk cosmology maxRadius).gather tree t.particles ⟨p.marked b, r⟩ =
      (surveyWalk cosmology maxRadius).gather tree s.particles ⟨p, r⟩ := by
  rw [← gather_unmarked cosmology maxRadius tree t (p.marked b) b, h]
  exact gather_unmarked cosmology maxRadius tree s p b r

end GalacticWinds
