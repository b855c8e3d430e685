import GalacticWinds.Proofs.Wind.Survey.Sums
import Mathlib.Data.List.Sort

/-! How far the dark matter is from a point, and what the order of its distances says of the counts
within a radius. -/

namespace GalacticWinds

lemma Vec.norm_sub_axis (x y : ℝ) : ((⟨x, 0, 0⟩ : Vec ℝ) - ⟨y, 0, 0⟩).norm = |x - y| := by
  rw [norm_real, normSq_real, sub_def]
  norm_num [Real.sqrt_sq_eq_abs]

lemma lt_countP_le_iff {ds : List ℝ} (h : ds.Pairwise (· ≤ ·)) {k : ℕ} {d : ℝ}
    (hk : ds[k]? = some d) (r : ℝ) : k < ds.countP (fun x => decide (x ≤ r)) ↔ d ≤ r := by
  induction ds generalizing k with
  | nil => simp at hk
  | cons a ds ih =>
    obtain ⟨ha, hds⟩ := List.pairwise_cons.mp h
    by_cases har : a ≤ r
    · rw [List.countP_cons, if_pos (decide_eq_true har)]
      cases k with
      | zero =>
        obtain rfl := Option.some.inj hk
        exact ⟨fun _ => har, fun _ => Nat.succ_pos _⟩
      | succ k => rw [Nat.succ_lt_succ_iff, ih hds hk]
    · have hd : a ≤ d := by
        cases k with
        | zero => exact (Option.some.inj hk).le
        | succ k => exact ha d (List.mem_of_getElem? hk)
      have hnone : (a :: ds).countP (fun x => decide (x ≤ r)) = 0 := by
        rw [List.countP_eq_zero]
        intro x hx hxr
        rcases List.mem_cons.mp hx with rfl | hx
        · exact har (of_decide_eq_true hxr)
        · exact har ((ha x hx).trans (of_decide_eq_true hxr))
      rw [hnone]
      exact ⟨fun hlt => absurd hlt (Nat.not_lt_zero k), fun hdr => absurd (hd.trans hdr) har⟩

namespace Store

lemma countP_range {α : Type} (s : Store α) (f : Particle α → Bool) :
    (List.range s.size).countP (fun i => s.particles[i]?.any f) = s.particles.toList.countP f :=
  calc (List.range s.size).countP (fun i => s.particles[i]?.any f)
    _ = ((List.range s.size).map fun i => s.particles[i]?).countP (Option.any f) := by
      rw [List.countP_map]
      rfl
    _ = s.particles.toList.countP f := by
      rw [map_range, List.countP_map]
      rfl

noncomputable def distancesTo (s : Store ℝ) (c : Vec ℝ) : List ℝ :=
  (s.particles.toList.filter (·.species = .darkMatter)).map fun p => (c - p.pos).norm

/-- The distance to the dark matter particle that is the `k`th nearest, counted from one. -/
noncomputable def darkMatterDistance? (s : Store ℝ) (c : Vec ℝ) (k : ℕ) : Option ℝ :=
  ((s.distancesTo c).insertionSort (· ≤ ·))[k - 1]?

variable (s : Store ℝ) (c : Vec ℝ)

lemma length_distancesTo : (s.distancesTo c).length = (s.placesOf .darkMatter).length := by
  rw [distancesTo, List.length_map, placesOf, ← List.countP_eq_length_filter,
    ← List.countP_eq_length_filter, ← countP_range]
  refine List.countP_congr fun i _ => ?_
  rw [species?]
  cases s.particles[i]? with
  | none => simp
  | some p => simp

lemma length_darkMatterWithin (r : ℝ) :
    (s.darkMatterWithin c r).length =
      (s.distancesTo c).countP (fun d => decide (d ≤ r)) := by
  rw [distancesTo, List.countP_map, List.countP_filter, ← countP_range, darkMatterWithin, placesOf,
    List.filter_filter, ← List.countP_eq_length_filter]
  refine List.countP_congr fun i _ => ?_
  rw [species?]
  cases s.particles[i]? with
  | none => simp
  | some p => simp

variable {s c}

lemma lt_length_darkMatterWithin_iff {k : ℕ} {d : ℝ} (hk : s.darkMatterDistance? c (k + 1) = some d)
    (r : ℝ) : k < (s.darkMatterWithin c r).length ↔ d ≤ r := by
  rw [length_darkMatterWithin, ← (List.perm_insertionSort (· ≤ ·) (s.distancesTo c)).countP_eq]
  exact lt_countP_le_iff (List.pairwise_insertionSort (· ≤ ·) _) hk r

lemma exists_darkMatterDistance {k : ℕ} (hk : k < (s.placesOf .darkMatter).length) (c : Vec ℝ) :
    ∃ d, 0 ≤ d ∧ s.darkMatterDistance? c (k + 1) = some d := by
  have hlt : k < ((s.distancesTo c).insertionSort (· ≤ ·)).length := by
    rw [List.length_insertionSort, length_distancesTo]
    exact hk
  refine ⟨_, ?_, List.getElem?_eq_getElem hlt⟩
  have hmem := (List.mem_insertionSort (· ≤ ·)).mp (List.getElem_mem hlt)
  obtain ⟨p, -, hp⟩ := List.mem_map.mp hmem
  rw [← hp]
  exact Real.sqrt_nonneg _

lemma darkMatterDistance_of_heaps {m n : ℕ} {near far : ℝ} (hle : near ≤ far)
    (h : s.distancesTo c = List.replicate m near ++ List.replicate n far) (k : ℕ) :
    s.darkMatterDistance? c k = (List.replicate m near ++ List.replicate n far)[k - 1]? := by
  have hsorted : (List.replicate m near ++ List.replicate n far).Pairwise (· ≤ ·) := by
    refine List.pairwise_append.mpr ⟨?_, ?_, ?_⟩
    · exact List.pairwise_replicate.mpr (.inr le_rfl)
    · exact List.pairwise_replicate.mpr (.inr le_rfl)
    · intro a ha b hb
      rwa [List.eq_of_mem_replicate ha, List.eq_of_mem_replicate hb]
  rw [darkMatterDistance?, h, hsorted.insertionSort_eq]

lemma length_darkMatterWithin_of_heaps {m n : ℕ} {near far : ℝ}
    (h : s.distancesTo c = List.replicate m near ++ List.replicate n far) (r : ℝ) :
    (s.darkMatterWithin c r).length = (if near ≤ r then m else 0) + if far ≤ r then n else 0 := by
  rw [length_darkMatterWithin, h, List.countP_append, List.countP_replicate, List.countP_replicate]
  simp only [decide_eq_true_eq]

lemma length_darkMatterWithin_le (r : ℝ) :
    (s.darkMatterWithin c r).length ≤ (s.placesOf .darkMatter).length :=
  List.length_filter_le _ _

lemma distancesTo_addDarkMatter (id : UInt64) (mass : ℝ) (pos vel : Vec ℝ) :
    (s.addDarkMatter id mass pos vel).distancesTo c = s.distancesTo c ++ [(c - pos).norm] := by
  have hparticles : (s.addDarkMatter id mass pos vel).particles =
      s.particles.push (.new id .darkMatter mass pos vel 0) := rfl
  rw [distancesTo, hparticles, Array.toList_push, List.filter_append, List.map_append]
  rfl

/-- Dark matter at one place, at rest. -/
noncomputable def addHeap (s : Store ℝ) (pos : Vec ℝ) : ℕ → Store ℝ
  | 0 => s
  | n + 1 => (s.addHeap pos n).addDarkMatter 2 1 pos 0

lemma Filled.addHeap (hs : s.Filled) (pos : Vec ℝ) (n : ℕ) : (s.addHeap pos n).Filled := by
  induction n with
  | zero => exact hs
  | succ n ih => exact ih.addDarkMatter 2 1 pos 0

lemma getElem?_addHeap {i : Nat} {p : Particle ℝ} (hp : s.particles[i]? = some p) (pos : Vec ℝ)
    (n : ℕ) : (s.addHeap pos n).particles[i]? = some p := by
  induction n with
  | zero => exact hp
  | succ n ih =>
    have hparticles : (s.addHeap pos (n + 1)).particles =
        (s.addHeap pos n).particles.push (.new 2 .darkMatter 1 pos 0 0) := rfl
    have hi : i ≠ (s.addHeap pos n).particles.size := (Array.getElem?_eq_some_iff.mp ih).1.ne
    rw [hparticles, Array.getElem?_push, if_neg hi, ih]

lemma within_gas_addHeap (c : Vec ℝ) (r : ℝ) (pos : Vec ℝ) (n : ℕ) :
    (s.addHeap pos n).within .gas c r = s.within .gas c r := by
  induction n with
  | zero => rfl
  | succ n ih =>
    have hparticles : (s.addHeap pos (n + 1)).particles =
        (s.addHeap pos n).particles.push (.new 2 .darkMatter 1 pos 0 0) := rfl
    rw [← ih, within, hparticles, Array.toList_push, List.filter_append]
    exact List.append_nil _

lemma distancesTo_addHeap (c pos : Vec ℝ) (n : ℕ) :
    (s.addHeap pos n).distancesTo c = s.distancesTo c ++ List.replicate n (c - pos).norm := by
  induction n with
  | zero => exact (List.append_nil _).symm
  | succ n ih =>
    rw [addHeap, distancesTo_addDarkMatter, ih, List.append_assoc, List.replicate_succ']

end Store

end GalacticWinds
