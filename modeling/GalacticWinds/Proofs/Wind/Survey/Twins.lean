import GalacticWinds.Proofs.Walk.Twins
import GalacticWinds.Proofs.Wind.Alike
import GalacticWinds.Proofs.Wind.Step

/-! Two surveys of the same batch: as long as the stores are alike and the marks of the batch are
the same, every round goes the same way. -/

namespace GalacticWinds

variable {α : Type} [Scalar α] {cosmology : Cosmology α} {tree : Octree α} {maxRadius : α}
  {batch : List Nat} {s t : Store α} {p q : Particle α}

lemma observe_seen (r : StarRecord α) (around : Surroundings α) (n : Neighbour α) :
    Surroundings.observe cosmology ⟨p.seen, r⟩ around { n with particle := n.particle.seen } =
      Surroundings.observe cosmology ⟨p, r⟩ around n := by
  cases hk : n.particle.species <;>
    simp [Surroundings.observe, Particle.seen, Neighbour.flowVelocity, hk]

lemma gather_seen (s : Store α) (p : Particle α) (r : StarRecord α) :
    (surveyWalk cosmology maxRadius).gather tree s.seen ⟨p.seen, r⟩ =
      (surveyWalk cosmology maxRadius).gather tree s.particles ⟨p, r⟩ := by
  have hnear := Octree.near_map s.particles ((surveyWalk cosmology maxRadius).reach ⟨p, r⟩)
    (f := (·.seen)) (fun _ => rfl) (fun _ => rfl) tree
  have hreach : (surveyWalk cosmology maxRadius).reach ⟨p.seen, r⟩ =
    (surveyWalk cosmology maxRadius).reach ⟨p, r⟩ := rfl
  rw [Walk.gather, Walk.gather, hreach, Store.seen, hnear, List.foldl_map]
  refine congrArg (fun f => List.foldl f _ _) ?_
  exact funext fun around => funext fun n => observe_seen r around n

lemma surveyWalk_twins (h : s.Alike t) (hpq : p.seen = q.seen) (hmark : p.converged = q.converged)
    (i : Nat) :
    (surveyWalk cosmology maxRadius).Twins tree s.particles t.particles ⟨i, p⟩ ⟨i, q⟩ := by
  have hslot := Target.starSlot_of_seen hpq i
  refine ⟨rfl, congrArg (!·) hmark, hslot, fun r => ?_, funext fun r => ?_⟩
  · have hquery : ∀ p, (surveyWalk cosmology maxRadius).query ⟨i, p⟩ r = ⟨p, r⟩ := fun _ => rfl
    rw [hquery, hquery, ← gather_seen, hpq, h.seen, gather_seen]
  · simp only [surveyWalk, hslot]

namespace Store

variable (batch) in
structure Twins (s t : Store α) : Prop where
  alike : s.Alike t
  marks : ∀ i ∈ batch, s.particles[i]?.map (·.converged) = t.particles[i]?.map (·.converged)

namespace Twins

variable (h : Twins batch s t)

include h

lemma mark (b : Bool) (i : Nat) : Twins batch (s.mark b i) (t.mark b i) where
  alike := (s.alike_mark b i).trans (h.alike.trans (t.alike_mark b i).symm)
  marks j hj := by
    have hm := h.marks j hj
    have hmark : ∀ s : Store α, (s.mark b i).particles[j]?.map (·.converged) =
        (s.particles[j]?.map (·.converged)).map fun c => if i = j then b else c := by
      intro s
      rw [getElem?_mark, Option.map_map, Option.map_map]
      refine congrArg (s.particles[j]?.map ·) (funext fun p => ?_)
      by_cases hij : i = j
      · simp [hij, Particle.marked]
      · simp [hij]
    rw [hmark, hmark, hm]

lemma foldl_mark (b : Bool) (is : List Nat) :
    Twins batch (is.foldl (fun s i => s.mark b i) s) (is.foldl (fun s i => s.mark b i) t) := by
  induction is generalizing s t with
  | nil => exact h
  | cons i is ih => exact ih (h.mark b i)

lemma at? {i : Nat} (hi : i ∈ batch) :
    Agree ((surveyWalk cosmology maxRadius).Twins tree s.particles t.particles)
      (Target.at? s.particles i) (Target.at? t.particles i) := by
  have hm := h.marks i hi
  rw [Target.at?, Target.at?]
  rcases h.alike.getElem? i with ⟨hp, hq⟩ | ⟨p, q, hp, hq, hpq⟩
  · rw [hp, hq]
    exact .error _
  · rw [hp, hq] at hm ⊢
    exact .ok (surveyWalk_twins h.alike hpq (Option.some.inj hm) i)

lemma surveyRound (records : List (StarRecord α)) :
    Agree (fun a b => Twins batch a.1 b.1 ∧ Walk.RoundTwins a.2 b.2)
      (surveyRound cosmology maxRadius tree s batch records)
      (surveyRound cosmology maxRadius tree t batch records) := by
  rw [GalacticWinds.surveyRound, GalacticWinds.surveyRound]
  refine (Walk.run_twins (fun i hi => h.at? hi) records).bind fun a b hab => .ok ⟨?_, hab⟩
  rw [hab.settled]
  exact h.foldl_mark true _

end Twins

end Store

lemma surveyRounds_twins {C : Type} [Collective C] (h : Store.Twins batch s t) (limit : Nat)
    (left : Int) (d : Survey α) (c : C) :
    (surveyRounds cosmology tree batch limit left d ⟨s, c⟩).2 =
        (surveyRounds cosmology tree batch limit left d ⟨t, c⟩).2 ∧
      (surveyRounds cosmology tree batch limit left d ⟨s, c⟩).1.comm =
        (surveyRounds cosmology tree batch limit left d ⟨t, c⟩).1.comm := by
  induction limit generalizing s t left d c with
  | zero =>
    rw [surveyRounds, surveyRounds]
    split_ifs <;> exact ⟨rfl, rfl⟩
  | succ limit ih =>
    rw [surveyRounds, surveyRounds]
    split_ifs
    · exact ⟨rfl, rfl⟩
    · dsimp only
      generalize ha : surveyRound cosmology tree.diagonal tree s batch d.records = a
      generalize hb : surveyRound cosmology tree.diagonal tree t batch d.records = b
      have hround : Agree _ a b := ha ▸ hb ▸ h.surveyRound d.records
      cases hround with
      | error e => exact ⟨rfl, rfl⟩
      | ok hab =>
        obtain ⟨hstore, hrecords, hpending, -⟩ := hab
        dsimp only
        rw [hrecords, hpending]
        exact ih hstore _ _ _

lemma Store.Alike.searchStart (h : s.Alike t) (i : Nat) :
    (Target.at? s.particles i >>= Target.searchStart) =
      (Target.at? t.particles i >>= Target.searchStart) := by
  rw [Target.at?, Target.at?]
  rcases h.getElem? i with ⟨hp, hq⟩ | ⟨p, q, hp, hq, hpq⟩
  · rw [hp, hq]
  · have hstart : ∀ p : Particle α,
        Target.searchStart ⟨i, p⟩ = Target.searchStart ⟨i, p.seen⟩ := fun _ => rfl
    rw [hp, hq]
    exact (hstart p).trans (hpq ▸ (hstart q).symm)

lemma Store.Alike.prepare (h : s.Alike t) (records : List (StarRecord α)) :
    (prepare batch s records).2 = (prepare batch t records).2 := by
  induction batch generalizing s t records with
  | nil => rfl
  | cons i batch ih =>
    rw [GalacticWinds.prepare, GalacticWinds.prepare, h.searchStart i]
    cases Target.at? t.particles i >>= Target.searchStart with
    | error e => rfl
    | ok start =>
      exact ih ((s.alike_mark false i).trans (h.trans (t.alike_mark false i).symm)) _

lemma Prepared.twins {s' t' : Store α} {records records' : List (StarRecord α)}
    (hs : Prepared cosmology tree s batch s' records)
    (ht : Prepared cosmology tree t batch t' records') (h : s.Alike t) :
    Store.Twins batch s' t' := by
  have halike : s'.Alike t' :=
    (Store.Alike.of_unmarked hs.store).trans (h.trans (Store.Alike.of_unmarked ht.store).symm)
  refine ⟨halike, fun i hi => ?_⟩
  rcases halike.getElem? i with ⟨hp, hq⟩ | ⟨p, q, hp, hq, -⟩
  · rw [hp, hq]
  · rw [hp, hq, Option.map_some, Option.map_some, hs.unsettled i hi p hp, ht.unsettled i hi q hq]

/-- A survey does not depend on what the kicks of an earlier step left behind. -/
theorem survey_alike {C : Type} [Collective C] (h : s.Alike t) (limit : Nat) (c : C) :
    (survey cosmology tree limit batch ⟨s, c⟩).2 = (survey cosmology tree limit batch ⟨t, c⟩).2 ∧
      (survey cosmology tree limit batch ⟨s, c⟩).1.comm =
        (survey cosmology tree limit batch ⟨t, c⟩).1.comm := by
  have hprep : (prepareBatch batch s).2 = (prepareBatch batch t).2 := by
    rw [prepareBatch, prepareBatch, h.starCount]
    exact h.prepare _
  rw [survey, survey]
  cases hs : prepareBatch batch s with
  | mk s' out =>
    cases ht : prepareBatch batch t with
    | mk t' out' =>
      rw [hs, ht] at hprep
      obtain rfl : out = out' := hprep
      cases out with
      | error e => exact ⟨rfl, rfl⟩
      | ok records =>
        have hprepared : Prepared cosmology tree s batch s' records := prepared_of_prepareBatch hs
        exact surveyRounds_twins (hprepared.twins (prepared_of_prepareBatch ht) h) _ _ _ _

end GalacticWinds
