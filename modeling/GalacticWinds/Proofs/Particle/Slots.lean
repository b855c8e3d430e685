import GalacticWinds.Particle.Store
import Mathlib.Tactic

/-! The numbering of gas and stars in a store that was filled particle by particle. -/

namespace GalacticWinds

open scoped List in
/-- Sorting into piles loses nothing. -/
lemma flatMap_filter_perm {β κ : Type} [DecidableEq κ] (f : β → κ) {ks : List κ} (hks : ks.Nodup)
    {xs : List β} (h : ∀ x ∈ xs, f x ∈ ks) : (ks.flatMap fun k => xs.filter (f · = k)) ~ xs := by
  induction ks generalizing xs with
  | nil =>
    have hxs : xs = [] := List.eq_nil_iff_forall_not_mem.mpr fun x hx => List.not_mem_nil (h x hx)
    rw [hxs, List.flatMap_nil]
  | cons k ks ih =>
    obtain ⟨hk, hks⟩ := List.nodup_cons.mp hks
    have hrest : ∀ x ∈ xs.filter (fun x => !decide (f x = k)), f x ∈ ks := by
      intro x hx
      obtain ⟨hm, hne⟩ := List.mem_filter.mp hx
      exact List.mem_of_ne_of_mem (by simpa using hne) (h x hm)
    have hpiles : (ks.flatMap fun l => xs.filter (f · = l)) =
        ks.flatMap fun l => (xs.filter (fun x => !decide (f x = k))).filter (f · = l) := by
      apply List.flatMap_congr
      intro l hl
      rw [List.filter_filter]
      apply List.filter_congr
      intro x _
      by_cases hx : f x = l
      · have hne : l ≠ k := fun he => hk (he ▸ hl)
        simp [hx, hne]
      · simp [hx]
    rw [List.flatMap_cons, hpiles]
    calc xs.filter (f · = k) ++
          ks.flatMap fun l => (xs.filter (fun x => !decide (f x = k))).filter (f · = l)
      _ ~ xs.filter (f · = k) ++ xs.filter (fun x => !decide (f x = k)) := (ih hks hrest).append_left _
      _ ~ xs := List.filter_append_perm _ xs

namespace Store

variable {α : Type}

def slotsOf (s : Store α) (k : Species) : List Nat :=
  (s.particles.toList.filter (·.species = k)).map (·.slot)

/-- Gas and stars are numbered from zero on, without gaps. -/
structure Slotted (s : Store α) : Prop where
  gas : s.slotsOf .gas = List.range s.gasStates.size
  star : s.slotsOf .star = List.range s.starCount

section

variable [Scalar α]

/-- Stores that come from adding particles to the empty one. What a particle or a gas state holds
may be changed at any time, except for species and slots. -/
inductive Filled : Store α → Prop
  | empty : Filled empty
  | push {s : Store α} (p : Particle α) : Filled s → Filled (s.push p)
  | addGas {s : Store α} (id : UInt64) (mass : α) (pos vel : Vec α) (hsml density : α) :
      Filled s → Filled (s.addGas id mass pos vel hsml density)
  | addDarkMatter {s : Store α} (id : UInt64) (mass : α) (pos vel : Vec α) :
      Filled s → Filled (s.addDarkMatter id mass pos vel)
  | addStar {s : Store α} (id : UInt64) (mass : α) (pos vel : Vec α) (hsml : α) :
      Filled s → Filled (s.addStar id mass pos vel hsml)
  | modify {s : Store α} (i : Nat) (f : Particle α → Particle α)
      (hf : ∀ p, (f p).species = p.species ∧ (f p).slot = p.slot) :
      Filled s → Filled (s.modify i f)
  | modifyGasState {s : Store α} (slot : Nat) (f : SphState α → SphState α) :
      Filled s → Filled (s.modifyGasState slot f)

end

lemma slotsOf_push (ps : Array (Particle α)) (hs : Array (SphState α)) (n : Nat) (p : Particle α)
    (k : Species) :
    (Store.mk (ps.push p) hs n).slotsOf k =
      (Store.mk ps hs n).slotsOf k ++ if p.species = k then [p.slot] else [] := by
  by_cases h : p.species = k
  · simp [slotsOf, h]
  · simp [slotsOf, h]

lemma Slotted.pushGas {s : Store α} (h : s.Slotted) {p : Particle α} (hp : p.species = .gas)
    (g : SphState α) : (s.pushGas p g).Slotted where
  gas := by
    rw [Store.pushGas, slotsOf_push, if_pos hp, Array.size_push, List.range_succ, ← h.gas]
    rfl
  star := by
    have hne : p.species ≠ .star := by simp [hp]
    rw [Store.pushGas, slotsOf_push, if_neg hne, List.append_nil]
    exact h.star

section

variable [Scalar α] (s : Store α) {p : Particle α}

lemma push_gas (hp : p.species = .gas) : s.push p = s.pushGas p (.ofDensity 0) := by
  rw [push, hp]

lemma push_star (hp : p.species = .star) :
    s.push p = ⟨s.particles.push { p with slot := s.starCount }, s.gasStates, s.starCount + 1⟩ := by
  rw [push, hp]

lemma push_unnumbered (hg : p.species ≠ .gas) (hs : p.species ≠ .star) :
    s.push p = ⟨s.particles.push p, s.gasStates, s.starCount⟩ := by
  rw [push]
  split <;> first | contradiction | rfl

end

lemma Slotted.push [Scalar α] {s : Store α} (h : s.Slotted) (p : Particle α) :
    (s.push p).Slotted := by
  by_cases hg : p.species = .gas
  · rw [push_gas s hg]
    exact h.pushGas hg _
  · by_cases hs : p.species = .star
    · rw [push_star s hs]
      refine ⟨?_, ?_⟩
      · rw [slotsOf_push, if_neg hg, List.append_nil]
        exact h.gas
      · rw [slotsOf_push, if_pos hs, List.range_succ, ← h.star]
        rfl
    · rw [push_unnumbered s hg hs]
      refine ⟨?_, ?_⟩
      · rw [slotsOf_push, if_neg hg, List.append_nil]
        exact h.gas
      · rw [slotsOf_push, if_neg hs, List.append_nil]
        exact h.star

lemma slotsOf_modify (s : Store α) (i : Nat) {f : Particle α → Particle α}
    (hf : ∀ p, (f p).species = p.species ∧ (f p).slot = p.slot) (k : Species) :
    (s.modify i f).slotsOf k = s.slotsOf k := by
  have hmap : (s.modify i f).particles.map (fun p => (p.species, p.slot)) =
      s.particles.map fun p => (p.species, p.slot) := by
    refine Array.ext_getElem? fun j => ?_
    rw [Array.getElem?_map, Array.getElem?_map, Store.modify, Array.getElem?_modify]
    split_ifs with h
    · simp [Function.comp_def, hf]
    · rfl
  have hslots : ∀ s : Store α, s.slotsOf k =
      ((s.particles.map fun p => (p.species, p.slot)).toList.filter (·.1 = k)).map (·.2) := by
    intro s
    simp [slotsOf, List.filter_map, Function.comp_def]
  rw [hslots, hslots, hmap]

lemma Slotted.modify {s : Store α} (h : s.Slotted) (i : Nat) {f : Particle α → Particle α}
    (hf : ∀ p, (f p).species = p.species ∧ (f p).slot = p.slot) : (s.modify i f).Slotted where
  gas := by
    rw [slotsOf_modify s i hf]
    exact h.gas
  star := by
    rw [slotsOf_modify s i hf]
    exact h.star

lemma Slotted.modifyGasState {s : Store α} (h : s.Slotted) (slot : Nat)
    (f : SphState α → SphState α) : (s.modifyGasState slot f).Slotted where
  gas := by
    rw [Store.modifyGasState, Array.size_modify]
    exact h.gas
  star := h.star

theorem Filled.slotted [Scalar α] {s : Store α} (h : s.Filled) : s.Slotted := by
  induction h with
  | empty => exact ⟨rfl, rfl⟩
  | push p _ ih => exact ih.push p
  | addGas id mass pos vel hsml density _ ih => exact ih.pushGas rfl _
  | addDarkMatter id mass pos vel _ ih => exact ih.push _
  | addStar id mass pos vel hsml _ ih => exact ih.push _
  | modify i f hf _ ih => exact ih.modify i hf
  | modifyGasState slot f _ ih => exact ih.modifyGasState slot f

section

variable {s : Store α} {k : Species} {i j : Nat} {p q : Particle α}

lemma slot_mem_slotsOf (hp : s.particles[i]? = some p) (hk : p.species = k) :
    p.slot ∈ s.slotsOf k := by
  have hm : p ∈ s.particles.toList := Array.mem_toList_iff.mpr (Array.mem_of_getElem? hp)
  exact List.mem_map_of_mem (List.mem_filter.mpr ⟨hm, decide_eq_true hk⟩)

lemma eq_of_slot_eq (h : (s.slotsOf k).Nodup) (hp : s.particles[i]? = some p)
    (hq : s.particles[j]? = some q) (hpk : p.species = k) (hqk : q.species = k)
    (he : p.slot = q.slot) : i = j := by
  rw [slotsOf, List.Nodup, List.pairwise_map, List.pairwise_filter,
    List.pairwise_iff_getElem] at h
  obtain ⟨hi, rfl⟩ := Array.getElem?_eq_some_iff.mp hp
  obtain ⟨hj, rfl⟩ := Array.getElem?_eq_some_iff.mp hq
  rcases Nat.lt_trichotomy i j with hlt | rfl | hlt
  · exact absurd he (h i j hi hj hlt (decide_eq_true hpk) (decide_eq_true hqk))
  · rfl
  · exact absurd he.symm (h j i hj hi hlt (decide_eq_true hqk) (decide_eq_true hpk))

lemma Slotted.gas_slot_lt (h : s.Slotted) (hp : s.particles[i]? = some p)
    (hk : p.species = .gas) : p.slot < s.gasStates.size := by
  have hm := slot_mem_slotsOf hp hk
  rwa [h.gas, List.mem_range] at hm

lemma Slotted.star_slot_lt (h : s.Slotted) (hp : s.particles[i]? = some p)
    (hk : p.species = .star) : p.slot < s.starCount := by
  have hm := slot_mem_slotsOf hp hk
  rwa [h.star, List.mem_range] at hm

lemma Slotted.gas_eq (h : s.Slotted) (hp : s.particles[i]? = some p)
    (hq : s.particles[j]? = some q) (hpk : p.species = .gas) (hqk : q.species = .gas)
    (he : p.slot = q.slot) : i = j :=
  eq_of_slot_eq (h.gas ▸ List.nodup_range) hp hq hpk hqk he

lemma Slotted.star_eq (h : s.Slotted) (hp : s.particles[i]? = some p)
    (hq : s.particles[j]? = some q) (hpk : p.species = .star) (hqk : q.species = .star)
    (he : p.slot = q.slot) : i = j :=
  eq_of_slot_eq (h.star ▸ List.nodup_range) hp hq hpk hqk he

lemma gas?_eq_some_iff {g : Particle α × SphState α} :
    s.gas? i = some g ↔
      s.particles[i]? = some g.1 ∧ g.1.species = .gas ∧ s.gasStates[g.1.slot]? = some g.2 := by
  obtain ⟨p, h⟩ := g
  rw [gas?]
  cases hp : s.particles[i]? with
  | none => simp
  | some q =>
    by_cases hq : q.species = .gas
    · simp only [bind, Option.bind_some, if_pos hq, Option.bind_eq_some_iff, Option.some.injEq,
        Prod.mk.injEq]
      constructor
      · rintro ⟨h', hh, rfl, rfl⟩
        exact ⟨rfl, hq, hh⟩
      · rintro ⟨rfl, -, hh⟩
        exact ⟨h, hh, rfl, rfl⟩
    · simp only [bind, Option.bind_some, if_neg hq, Option.some.injEq]
      constructor
      · intro hn
        cases hn
      · rintro ⟨rfl, hg, -⟩
        exact absurd hg hq

lemma Slotted.gas? (h : s.Slotted) (hp : s.particles[i]? = some p) (hk : p.species = .gas) :
    ∃ g, s.gas? i = some (p, g) := by
  have hlt := h.gas_slot_lt hp hk
  exact ⟨s.gasStates[p.slot], gas?_eq_some_iff.mpr ⟨hp, hk, Array.getElem?_eq_getElem hlt⟩⟩

end

lemma map_range (s : Store α) :
    (List.range s.size).map (fun i => s.particles[i]?) = s.particles.toList.map some := by
  refine List.ext_getElem (by simp [size]) fun i hi _ => ?_
  rw [List.length_map, List.length_range] at hi
  simp [Array.getElem?_eq_getElem (show i < s.particles.size from hi)]

lemma map_putGas {β : Type} {s : Store α} {i : Nat} {p q : Particle α}
    (hp : s.particles[i]? = some p) (f : Particle α → β) (hq : f q = f p) (g : SphState α) :
    (s.putGas i (q, g)).particles.map f = s.particles.map f := by
  refine Array.ext_getElem? fun j => ?_
  simp only [putGas, Array.getElem?_map, Array.getElem?_setIfInBounds]
  split_ifs with hij hlt
  · rw [← hij, hp, Option.map_some, Option.map_some, hq]
  · exact absurd (Array.getElem?_eq_some_iff.mp hp).1 hlt
  · rfl

lemma eq_of_getElem? {s t : Store α} (hp : ∀ i : Nat, s.particles[i]? = t.particles[i]?)
    (hg : ∀ k : Nat, s.gasStates[k]? = t.gasStates[k]?) (hc : s.starCount = t.starCount) :
    s = t := by
  obtain ⟨ps, gs, n⟩ := s
  have hps : ps = t.particles := Array.ext_getElem? hp
  have hgs : gs = t.gasStates := Array.ext_getElem? hg
  have hn : n = t.starCount := hc
  rw [hps, hgs, hn]

end Store

end GalacticWinds
