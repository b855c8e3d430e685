import GalacticWinds.Proofs.Walk.Stars
import GalacticWinds.Proofs.Wind.Survey.Marks
import GalacticWinds.Wind.Survey.Rounds

/-! The search of each star runs as if it were the only one: after every round the records and the
marks are those that its own rounds lead to. -/

namespace GalacticWinds

variable {α : Type} [Scalar α]

def StarRecord.conclude (r : StarRecord α) (maxRadius : α) : StarRecord α × Bool :=
  match r.narrow maxRadius with
  | (r, false) => (r, true)
  | (r, true) => ({ r with dispersion := r.around.darkMatter.dispersion }, false)

lemma finish_star (cosmology : Cosmology α) (maxRadius : α) (t : Target α) (r : StarRecord α)
    (hk : t.particle.species = .star) :
    (surveyWalk cosmology maxRadius).finish t r = .ok (r.conclude maxRadius) := by
  have hslot : t.starSlot = .ok t.particle.slot := if_pos hk
  rw [surveyWalk, StarRecord.conclude]
  simp only [hslot, bind, Except.bind]
  cases r.narrow maxRadius with
  | mk r done => cases done <;> rfl

section

variable (cosmology : Cosmology α) (tree : Octree α) (s : Store α)

def lookAround (p : Particle α) (r : StarRecord α) : StarRecord α :=
  r.merge .replace
    ((surveyWalk cosmology tree.diagonal).gather tree s.particles ⟨p, r⟩)

/-- The record of a star after rounds of its own, and whether its radius is settled. -/
def alone (p : Particle α) : Nat → StarRecord α × Bool
  | 0 => (.ofHsml p.hsml, false)
  | n + 1 =>
    if (alone p n).2 then alone p n
    else
      let (r, again) := (lookAround cosmology tree s p (alone p n).1).conclude tree.diagonal
      (r, !again)

/-- A star after `n` rounds, seen from the store before. -/
structure Follows (i : Nat) (p : Particle α) (n : Nat) (t : Store α)
    (records : List (StarRecord α)) : Prop where
  mark : t.particles[i]? = some (p.marked (alone cosmology tree s p n).2)
  record : records[p.slot]? = some (alone cosmology tree s p n).1

/-- A batch after `n` rounds, seen from the store before. -/
structure Tracks (batch : List Nat) (n : Nat) (t : Store α) (records : List (StarRecord α)) :
    Prop where
  store : t.unmarked = s.unmarked
  length : records.length = s.starCount
  mark : ∀ i ∈ batch, ∀ p, s.particles[i]? = some p →
    t.particles[i]? = some (p.marked (alone cosmology tree s p n).2)
  record : ∀ i ∈ batch, ∀ p, s.particles[i]? = some p →
    records[p.slot]? = some (alone cosmology tree s p n).1
  other : ∀ i : Nat, i ∉ batch → t.particles[i]? = s.particles[i]?
  blank : ∀ k < s.starCount, (∀ i ∈ batch, ∀ p, s.particles[i]? = some p → p.slot ≠ k) →
    records[k]? = some .blank

end

def AllSettled (cosmology : Cosmology α) (tree : Octree α) (s : Store α) (batch : List Nat)
    (n : Nat) : Prop :=
  ∀ i ∈ batch, ∀ p, s.particles[i]? = some p → (alone cosmology tree s p n).2 = true

variable {cosmology : Cosmology α} {tree : Octree α} {s : Store α} {batch : List Nat}

lemma alone_succ_of_settled {p : Particle α} {n : Nat}
    (h : (alone cosmology tree s p n).2 = true) :
    alone cosmology tree s p (n + 1) = alone cosmology tree s p n := by
  rw [alone, if_pos h]

lemma alone_of_le {p : Particle α} {m n : Nat} (hle : m ≤ n)
    (h : (alone cosmology tree s p m).2 = true) :
    alone cosmology tree s p n = alone cosmology tree s p m := by
  induction n, hle using Nat.le_induction with
  | base => rfl
  | succ n _ ih => rw [alone_succ_of_settled (by rw [ih, h]), ih]

lemma alone_eq_of_settled {p : Particle α} {m n : Nat}
    (hm : (alone cosmology tree s p m).2 = true) (hn : (alone cosmology tree s p n).2 = true) :
    alone cosmology tree s p m = alone cosmology tree s p n := by
  rcases Nat.le_total m n with hle | hle
  · exact (alone_of_le hle hm).symm
  · exact alone_of_le hle hn

lemma AllSettled.of_le {m n : Nat} (hle : m ≤ n) (h : AllSettled cosmology tree s batch m) :
    AllSettled cosmology tree s batch n := by
  intro i hi p hp
  rw [alone_of_le hle (h i hi p hp)]
  exact h i hi p hp

lemma conclude_lookAround {p : Particle α} {n : Nat}
    (h : (alone cosmology tree s p n).2 = false) :
    (lookAround cosmology tree s p (alone cosmology tree s p n).1).conclude tree.diagonal =
      ((alone cosmology tree s p (n + 1)).1, !(alone cosmology tree s p (n + 1)).2) := by
  have hn : ¬ (alone cosmology tree s p n).2 = true := by simp [h]
  rw [alone, if_neg hn]
  simp

lemma exists_of_settled {p : Particle α} {n : Nat}
    (h : (alone cosmology tree s p n).2 = true) :
    ∃ m < n, (alone cosmology tree s p m).2 = false ∧
      (lookAround cosmology tree s p (alone cosmology tree s p m).1).conclude tree.diagonal =
        ((alone cosmology tree s p n).1, false) := by
  induction n with
  | zero => exact absurd h (by simp [alone])
  | succ n ih =>
    cases hn : (alone cosmology tree s p n).2 with
    | true =>
      obtain ⟨m, hm, hc⟩ := ih hn
      rw [alone_succ_of_settled hn]
      exact ⟨m, Nat.lt_succ_of_lt hm, hc⟩
    | false => exact ⟨n, Nat.lt_succ_self n, hn, by rw [conclude_lookAround hn, h]; rfl⟩

section

variable (cosmology : Cosmology α) (tree : Octree α)

def surveyVisits (t : Store α) (records : List (StarRecord α)) (ts : List (Target α)) :
    List (Visit α (Surroundings α)) :=
  (ts.filter (surveyWalk cosmology tree.diagonal).hasWork).map
    ((surveyWalk cosmology tree.diagonal).starVisit tree t.particles records)

def concluded (visits : List (Visit α (Surroundings α))) (records : List (StarRecord α)) :
    Round α (StarRecord α) (Surroundings α) :=
  (surveyWalk cosmology tree.diagonal).completed (fun _ r => r.conclude tree.diagonal) visits
    records

def ownVisit (s : Store α) (n i : Nat) (p : Particle α) : Visit α (Surroundings α) :=
  ⟨⟨i, p.marked false⟩, p.slot, (surveyWalk cosmology tree.diagonal).gather tree s.particles
    ⟨p, (alone cosmology tree s p n).1⟩⟩

lemma surveyRound_stars {t : Store α} {records : List (StarRecord α)}
    (hb : t.Recorded records batch) :
    ∃ ts : List (Target α), ts.map (·.index) = batch ∧
      (∀ u ∈ ts, t.particles[u.index]? = some u.particle) ∧
      surveyRound cosmology tree.diagonal tree t batch records =
        .ok ((concluded cosmology tree (surveyVisits cosmology tree t records ts)
            records).settled.foldl (fun t i => t.mark true i) t,
          concluded cosmology tree (surveyVisits cosmology tree t records ts) records) := by
  obtain ⟨ts, hindex, hat, hrun⟩ := Walk.run_stars tree rfl hb
    fun u r hk => finish_star cosmology tree.diagonal u r hk
  refine ⟨ts, hindex, hat, ?_⟩
  rw [surveyRound, hrun]
  rfl

end

omit [Scalar α] in
lemma recorded_of_unmarked {t : Store α} {records : List (StarRecord α)}
    (hstore : t.unmarked = s.unmarked) (hlength : records.length = s.starCount)
    (hb : s.Stars batch)
    (hlt : ∀ i ∈ batch, ∀ p, s.particles[i]? = some p → p.slot < s.starCount) :
    t.Recorded records batch := by
  intro i hi
  obtain ⟨p, hp, hk⟩ := hb i hi
  obtain ⟨b, hq⟩ := Store.exists_of_unmarked hstore hp
  exact ⟨_, hq, hk, (hlt i hi p hp).trans_eq hlength.symm⟩

lemma target_mem_of_surveyVisits {t : Store α} {records : List (StarRecord α)}
    {ts : List (Target α)} {v : Visit α (Surroundings α)}
    (hv : v ∈ surveyVisits cosmology tree t records ts) :
    v.target ∈ ts ∧ v.slot = v.target.particle.slot := by
  obtain ⟨u, hu, rfl⟩ := List.mem_map.mp hv
  exact ⟨List.mem_of_mem_filter hu, rfl⟩

namespace Follows

variable {i n : Nat} {p : Particle α} {t : Store α} {records : List (StarRecord α)}
  {ts : List (Target α)} (hf : Follows cosmology tree s i p n t records)
  (hstore : t.unmarked = s.unmarked) (hat : ∀ u ∈ ts, t.particles[u.index]? = some u.particle)

include hf

lemma eq_of_index {b : Bool} (hb : (alone cosmology tree s p n).2 = b) {u : Target α}
    (hu : t.particles[u.index]? = some u.particle) (hi : u.index = i) : u = ⟨i, p.marked b⟩ := by
  obtain ⟨j, q⟩ := u
  obtain rfl : j = i := hi
  exact congrArg (Target.mk j) (Option.some.inj (hu.symm.trans (hb ▸ hf.mark)))

include hstore

lemma starVisit_own :
    (surveyWalk cosmology tree.diagonal).starVisit tree t.particles records ⟨i, p.marked false⟩ =
      ownVisit cosmology tree s n i p := by
  have hr : records[(p.marked false).slot]?.getD .blank = (alone cosmology tree s p n).1 := by
    rw [show (p.marked false).slot = p.slot from rfl, hf.record, Option.getD_some]
  rw [Walk.starVisit, hr]
  exact congrArg (Visit.mk _ _) (gather_congr cosmology tree.diagonal tree hstore p false _)

include hat

lemma eq_ownVisit {v : Visit α (Surroundings α)}
    (hv : v ∈ surveyVisits cosmology tree t records ts) (hi : v.target.index = i) :
    (alone cosmology tree s p n).2 = false ∧ v = ownVisit cosmology tree s n i p := by
  obtain ⟨u, hu, rfl⟩ := List.mem_map.mp hv
  obtain ⟨hu, hwork⟩ := List.mem_filter.mp hu
  have hn : (alone cosmology tree s p n).2 = false := by
    rw [hf.eq_of_index rfl (hat u hu) hi] at hwork
    simpa [surveyWalk, Particle.marked] using hwork
  rw [hf.eq_of_index hn (hat u hu) hi]
  exact ⟨hn, hf.starVisit_own hstore⟩

lemma ownVisit_mem (hi : i ∈ ts.map (·.index)) (hn : (alone cosmology tree s p n).2 = false) :
    ownVisit cosmology tree s n i p ∈ surveyVisits cosmology tree t records ts := by
  obtain ⟨u, hu, hui⟩ := List.mem_map.mp hi
  have hu' := hf.eq_of_index hn (hat u hu) hui
  rw [← hf.starVisit_own hstore, ← hu']
  refine List.mem_map_of_mem (List.mem_filter.mpr ⟨hu, ?_⟩)
  rw [hu']
  rfl

variable (hown : s.Owned (ts.map (·.index)) i) (hp : s.particles[i]? = some p)

include hown hp

omit hf in
lemma index_of_slot {v : Visit α (Surroundings α)}
    (hv : v ∈ surveyVisits cosmology tree t records ts) (hslot : v.slot = p.slot) :
    v.target.index = i := by
  obtain ⟨hu, hs⟩ := target_mem_of_surveyVisits hv
  obtain ⟨b, hq⟩ := Store.exists_of_unmarked hstore.symm (hat _ hu)
  exact hown _ (List.mem_map_of_mem hu) p _ hp hq (hs.symm.trans hslot)

lemma latest_own (hi : i ∈ ts.map (·.index)) :
    latest (surveyVisits cosmology tree t records ts) p.slot =
      if (alone cosmology tree s p n).2 then none else some (ownVisit cosmology tree s n i p) := by
  cases hn : (alone cosmology tree s p n).2 with
  | true =>
    refine latest_eq_none fun v hv hslot => ?_
    have hv' := hf.eq_ownVisit hstore hat hv (index_of_slot hstore hat hown hp hv hslot)
    exact absurd (hn.symm.trans hv'.1) (by simp)
  | false =>
    refine latest_eq_some (hf.ownVisit_mem hstore hat hi hn) fun v hv hslot => ?_
    exact (hf.eq_ownVisit hstore hat hv (index_of_slot hstore hat hown hp hv hslot)).2

omit hown hp

omit hf hstore hat in
lemma outcome_own (hlast : latest (surveyVisits cosmology tree t records ts) p.slot =
      if (alone cosmology tree s p n).2 then none else some (ownVisit cosmology tree s n i p)) :
    (surveyWalk cosmology tree.diagonal).outcome (fun _ r => r.conclude tree.diagonal)
        (surveyVisits cosmology tree t records ts) (alone cosmology tree s p n).1 p.slot =
      ((alone cosmology tree s p (n + 1)).1,
        if (alone cosmology tree s p n).2 then none
        else some (i, !(alone cosmology tree s p (n + 1)).2)) := by
  cases hn : (alone cosmology tree s p n).2 with
  | true =>
    rw [hn, if_pos rfl] at hlast
    rw [Walk.outcome_of_none _ hlast, alone_succ_of_settled hn]
    rfl
  | false =>
    rw [hn, if_neg Bool.false_ne_true] at hlast
    rw [Walk.outcome_of_some _ hlast]
    change (((lookAround cosmology tree s p (alone cosmology tree s p n).1).conclude
      tree.diagonal).1, some (i, ((lookAround cosmology tree s p
        (alone cosmology tree s p n).1).conclude tree.diagonal).2)) = _
    rw [conclude_lookAround hn]
    rfl

variable (hlast : latest (surveyVisits cosmology tree t records ts) p.slot =
  if (alone cosmology tree s p n).2 then none else some (ownVisit cosmology tree s n i p))

include hlast

lemma mark_iff {b : Bool} :
    (∃ (k : Nat) (r : StarRecord α), records[k]? = some r ∧
        ((surveyWalk cosmology tree.diagonal).outcome (fun _ r => r.conclude tree.diagonal)
          (surveyVisits cosmology tree t records ts) r k).2 = some (i, b)) ↔
      (alone cosmology tree s p n).2 = false ∧ (alone cosmology tree s p (n + 1)).2 = !b := by
  constructor
  · rintro ⟨k, r, hr, ho⟩
    obtain ⟨v, hv, rfl, hindex⟩ := Walk.exists_of_outcome ho
    obtain ⟨hn, rfl⟩ := hf.eq_ownVisit hstore hat hv hindex
    obtain rfl := Option.some.inj (hr.symm.trans hf.record)
    have ho' := (congrArg Prod.snd (outcome_own hlast)).symm.trans ho
    simp only [hn, Bool.false_eq_true, if_false, Option.some.injEq, Prod.mk.injEq,
      true_and] at ho'
    exact ⟨hn, by rw [← ho', Bool.not_not]⟩
  · rintro ⟨hn, hb⟩
    refine ⟨p.slot, _, hf.record, ?_⟩
    rw [outcome_own hlast, hn, hb, Bool.not_not]
    rfl

lemma pending_iff :
    i ∈ (concluded cosmology tree (surveyVisits cosmology tree t records ts) records).pending ↔
      (alone cosmology tree s p (n + 1)).2 = false := by
  refine Walk.mem_pending_iff.trans ((hf.mark_iff hstore hat hlast).trans ?_)
  refine ⟨fun h => h.2, fun h => ⟨?_, h⟩⟩
  cases hn : (alone cosmology tree s p n).2 with
  | false => rfl
  | true =>
    rw [alone_succ_of_settled hn] at h
    exact absurd (hn.symm.trans h) (by simp)

/-- A round takes each star that has the last word on its slot through one of its own rounds. -/
theorem round :
    Follows cosmology tree s i p (n + 1)
      ((concluded cosmology tree (surveyVisits cosmology tree t records ts)
        records).settled.foldl (fun t i => t.mark true i) t)
      (concluded cosmology tree (surveyVisits cosmology tree t records ts) records).records where
  mark := by
    rw [Store.getElem?_foldl_mark, hf.mark, Option.map_some]
    have hiff := Walk.mem_settled_iff.trans (hf.mark_iff hstore hat hlast)
    split_ifs with hset
    · rw [(hiff.mp hset).2]
      rfl
    · cases hn : (alone cosmology tree s p n).2 with
      | true => rw [alone_succ_of_settled hn, hn]
      | false =>
        have hn' : (alone cosmology tree s p (n + 1)).2 = false := by
          by_contra h
          exact hset (hiff.mpr ⟨hn, by simpa using h⟩)
        rw [hn']
  record := by
    rw [concluded, Walk.getElem?_completed, hf.record, Option.map_some, outcome_own hlast]

end Follows

namespace Tracks

variable {n : Nat} {t : Store α} {records : List (StarRecord α)}
  (ht : Tracks cosmology tree s batch n t records)

include ht

lemma follows {i : Nat} (hi : i ∈ batch) {p : Particle α} (hp : s.particles[i]? = some p) :
    Follows cosmology tree s i p n t records :=
  ⟨ht.mark i hi p hp, ht.record i hi p hp⟩

theorem round (hs : s.Numbered batch) (hb : s.Stars batch) :
    ∃ t' round, surveyRound cosmology tree.diagonal tree t batch records = .ok (t', round) ∧
      Tracks cosmology tree s batch (n + 1) t' round.records ∧
      (round.pending = [] ↔ AllSettled cosmology tree s batch (n + 1)) := by
  obtain ⟨ts, rfl, hat, hround⟩ := surveyRound_stars cosmology tree
    (recorded_of_unmarked ht.store ht.length hb hs.lt)
  have hindex : ∀ {i b}, (∃ (k : Nat) (r : StarRecord α), records[k]? = some r ∧
      ((surveyWalk cosmology tree.diagonal).outcome (fun _ r => r.conclude tree.diagonal)
        (surveyVisits cosmology tree t records ts) r k).2 = some (i, b)) →
      i ∈ ts.map (·.index) := by
    rintro i b ⟨k, r, -, ho⟩
    obtain ⟨v, hv, -, rfl⟩ := Walk.exists_of_outcome ho
    exact List.mem_map_of_mem (target_mem_of_surveyVisits hv).1
  have hlast : ∀ i ∈ ts.map (·.index), ∀ p, s.particles[i]? = some p → _ := fun i hi p hp =>
    (ht.follows hi hp).latest_own ht.store hat (hs.own i hi) hp hi
  have hfollows : ∀ i ∈ ts.map (·.index), ∀ p, s.particles[i]? = some p → _ := fun i hi p hp =>
    (ht.follows hi hp).round ht.store hat (hlast i hi p hp)
  refine ⟨_, _, hround, ⟨?_, ?_, fun i hi p hp => (hfollows i hi p hp).mark,
    fun i hi p hp => (hfollows i hi p hp).record, ?_, ?_⟩, ?_⟩
  · rw [Store.unmarked_foldl_mark, ht.store]
  · rw [concluded, Walk.length_completed, ht.length]
  · intro i hi
    have hni := mt (fun h => hindex (Walk.mem_settled_iff.mp h)) hi
    rw [Store.getElem?_foldl_mark, ht.other i hi]
    simp only [concluded, hni, if_false, Option.map_id']
  · intro k hk hfree
    have hnone : latest (surveyVisits cosmology tree t records ts) k = none := by
      refine latest_eq_none fun v hv hslot => ?_
      obtain ⟨hu, hvslot⟩ := target_mem_of_surveyVisits hv
      obtain ⟨b, hq⟩ := Store.exists_of_unmarked ht.store.symm (hat _ hu)
      exact hfree _ (List.mem_map_of_mem hu) _ hq (hvslot.symm.trans hslot)
    rw [concluded, Walk.getElem?_completed, ht.blank k hk hfree, Option.map_some,
      Walk.outcome_of_none _ hnone]
  · rw [List.eq_nil_iff_forall_not_mem]
    constructor
    · intro hnil i hi p hp
      have hiff := (ht.follows hi hp).pending_iff ht.store hat (hlast i hi p hp)
      simpa using mt hiff.mpr (hnil i)
    · intro hall i hpending
      have hi := hindex (Walk.mem_pending_iff.mp hpending)
      obtain ⟨p, hp, -⟩ := hb i hi
      have hiff := (ht.follows hi hp).pending_iff ht.store hat (hlast i hi p hp)
      exact absurd ((hall i hi p hp).symm.trans (hiff.mp hpending)) (by simp)

end Tracks

end GalacticWinds
