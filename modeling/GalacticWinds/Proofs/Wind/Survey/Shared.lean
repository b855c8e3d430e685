import GalacticWinds.Proofs.Wind.Survey.Termination

/-! Stars that were given one slot have one record between them. In each round the last of the batch
has the last word on it, so that the survey ends when that star is settled. -/

namespace GalacticWinds

section

variable {α : Type} [Scalar α] {cosmology : Cosmology α} {tree : Octree α} {s t : Store α}
  {records : List (StarRecord α)} {ts : List (Target α)} {others : List Nat} {i n : Nat}
  {p : Particle α}

namespace Follows

variable (hf : Follows cosmology tree s i p n t records) (hstore : t.unmarked = s.unmarked)
  (hat : ∀ u ∈ ts, t.particles[u.index]? = some u.particle)

include hf hstore hat

lemma latest_last (hindex : ts.map (·.index) = others ++ [i])
    (hn : (alone cosmology tree s p n).2 = false) :
    latest (surveyVisits cosmology tree t records ts) p.slot =
      some (ownVisit cosmology tree s n i p) := by
  obtain ⟨us, vs, rfl, -, hvs⟩ := List.map_eq_append_iff.mp hindex
  obtain ⟨u, rfl, hu⟩ := List.map_eq_singleton_iff.mp hvs
  have hlast := hf.eq_of_index hn (hat u (by simp)) hu
  have hwork : (surveyWalk cosmology tree.diagonal).hasWork u = true := by
    rw [hlast]
    rfl
  have hvisits : surveyVisits cosmology tree t records (us ++ [u]) =
      surveyVisits cosmology tree t records us ++ [ownVisit cosmology tree s n i p] := by
    rw [surveyVisits, List.filter_append, List.map_append, ← hf.starVisit_own hstore, ← hlast,
      List.filter_singleton, hwork]
    rfl
  rw [hvisits, latest_concat]
  exact if_pos rfl

variable
  (hshare : ∀ j ∈ ts.map (·.index), ∀ q, s.particles[j]? = some q → q.slot = p.slot)
  (hlast : latest (surveyVisits cosmology tree t records ts) p.slot =
    if (alone cosmology tree s p n).2 then none else some (ownVisit cosmology tree s n i p))

include hshare hlast

lemma eq_of_outcome {j : Nat} {b : Bool} (h : ∃ (k : Nat) (r : StarRecord α), records[k]? = some r ∧
      ((surveyWalk cosmology tree.diagonal).outcome (fun _ r => r.conclude tree.diagonal)
        (surveyVisits cosmology tree t records ts) r k).2 = some (j, b)) :
    j = i ∧ (!(alone cosmology tree s p (n + 1)).2) = b := by
  obtain ⟨k, r, hr, ho⟩ := h
  obtain ⟨v, hv, rfl, rfl⟩ := Walk.exists_of_outcome ho
  obtain ⟨hu, hslot⟩ := target_mem_of_surveyVisits hv
  obtain ⟨b', hq⟩ := Store.exists_of_unmarked hstore.symm (hat _ hu)
  have hone := hshare _ (List.mem_map_of_mem hu) _ hq
  replace hone : v.slot = p.slot := hslot.trans hone
  rw [hone] at hr ho
  obtain rfl := Option.some.inj (hr.symm.trans hf.record)
  rw [outcome_own hlast] at ho
  split_ifs at ho
  obtain ⟨hi, hb⟩ := Prod.mk.inj (Option.some.inj ho)
  exact ⟨hi.symm, hb⟩

lemma pending_eq_nil_iff :
    (concluded cosmology tree (surveyVisits cosmology tree t records ts) records).pending = [] ↔
      (alone cosmology tree s p (n + 1)).2 = true := by
  constructor
  · intro hnil
    have hiff := hf.pending_iff hstore hat hlast
    rw [hnil] at hiff
    simpa using mt hiff.mpr List.not_mem_nil
  · intro hdone
    rw [List.eq_nil_iff_forall_not_mem]
    intro j hj
    obtain ⟨-, hagain⟩ := hf.eq_of_outcome hstore hat hshare hlast (Walk.mem_pending_iff.mp hj)
    rw [hdone] at hagain
    exact Bool.noConfusion hagain

lemma getElem?_of_ne {j : Nat} (hj : j ≠ i) :
    ((concluded cosmology tree (surveyVisits cosmology tree t records ts)
      records).settled.foldl (fun t i => t.mark true i) t).particles[j]? = t.particles[j]? := by
  have hnot : j ∉ (concluded cosmology tree (surveyVisits cosmology tree t records ts)
      records).settled := fun h =>
    hj (hf.eq_of_outcome hstore hat hshare hlast (Walk.mem_settled_iff.mp h)).1
  rw [Store.getElem?_foldl_mark]
  simp only [hnot, if_false, Option.map_id']

end Follows

variable (hlt : p.slot < s.starCount)
  (hshare : ∀ j ∈ others ++ [i], ∀ q, s.particles[j]? = some q → q.slot = p.slot)

include hlt hshare

lemma surveyRounds_shared (hb : s.Stars (others ++ [i])) {d : Survey α} {task : Task α SingleTask}
    {left : Int} {limit : Nat} (hstore : task.store.unmarked = s.unmarked)
    (hlength : d.records.length = s.starCount)
    (hf : Follows cosmology tree s i p d.rounds task.store d.records)
    (hleft : left ≤ 0 ↔ (alone cosmology tree s p d.rounds).2 = true)
    (hend : (alone cosmology tree s p (d.rounds + limit)).2 = true) :
    ∃ task' d', surveyRounds cosmology tree (others ++ [i]) limit left d task = (task', .ok d') ∧
      d'.records[p.slot]? = some (alone cosmology tree s p d'.rounds).1 ∧
      (alone cosmology tree s p d'.rounds).2 = true ∧
      ∀ j : Nat, j ≠ i → task'.store.particles[j]? = task.store.particles[j]? := by
  induction limit generalizing left d task with
  | zero =>
    exact ⟨task, d, surveyRounds_nobody_left (hleft.mpr hend), hf.record, hend, fun _ _ => rfl⟩
  | succ limit ih =>
    by_cases hl : left ≤ 0
    · exact ⟨task, d, surveyRounds_nobody_left hl, hf.record, hleft.mp hl, fun _ _ => rfl⟩
    · obtain ⟨ts, hindex, hat, hround⟩ := surveyRound_stars cosmology tree
        (recorded_of_unmarked hstore hlength hb fun j hj q hq => (hshare j hj q hq).trans_lt hlt)
      have hn : (alone cosmology tree s p d.rounds).2 = false := by
        simpa using mt hleft.mpr hl
      have hlast : latest (surveyVisits cosmology tree task.store d.records ts) p.slot =
          if (alone cosmology tree s p d.rounds).2 then none
          else some (ownVisit cosmology tree s d.rounds i p) := by
        rw [hf.latest_last hstore hat hindex hn, hn]
        rfl
      obtain ⟨store, c⟩ := task
      obtain ⟨rounds, records⟩ := d
      let round := concluded cosmology tree (surveyVisits cosmology tree store records ts) records
      let next := round.settled.foldl (fun t i => t.mark true i) store
      have hstore' : next.unmarked = s.unmarked := (store.unmarked_foldl_mark true _).trans hstore
      have hlength' : round.records.length = s.starCount :=
        (Walk.length_completed records).trans hlength
      have hleft' : (round.pending.length : Int) ≤ 0 ↔
          (alone cosmology tree s p (rounds + 1)).2 = true := by
        rw [← hf.pending_eq_nil_iff hstore hat (hindex ▸ hshare) hlast, ← List.length_eq_zero_iff]
        exact Int.natCast_nonpos_iff
      have hrest : ∃ task' d', surveyRounds cosmology tree (others ++ [i]) limit
          round.pending.length ⟨rounds + 1, round.records⟩ ⟨next, c⟩ = (task', .ok d') ∧ _ :=
        ih hstore' hlength' (hf.round hstore hat hlast) hleft' (by rwa [Nat.add_right_comm])
      obtain ⟨task', d', hrest, hr, hsettled, hothers⟩ := hrest
      refine ⟨task', d', ?_, hr, hsettled, fun j hj => ?_⟩
      · rw [surveyRounds_succ (not_le.mp hl) hround]
        exact hrest
      · exact (hothers j hj).trans (hf.getElem?_of_ne hstore hat (hindex ▸ hshare) hlast hj)

/-- Of stars that were given one slot, the last of the batch has the record: it is the one that the
star comes to by itself, whatever the others have found. They are left unsettled. -/
theorem survey_shared (hb : ∀ j ∈ others ++ [i], s.Searchable j) (hp : s.particles[i]? = some p)
    {limit : Nat} (hend : (alone cosmology tree s p limit).2 = true) (c : SingleTask) :
    ∃ task d, survey cosmology tree limit (others ++ [i]) ⟨s, c⟩ = (task, .ok d) ∧
      d.records[p.slot]? = some (alone cosmology tree s p limit).1 ∧
      ∀ j ∈ others, j ≠ i → ∀ q, task.store.particles[j]? = some q → q.converged = false := by
  obtain ⟨t, records, hprep⟩ : ∃ t records, prepareBatch (others ++ [i]) s = (t, .ok records) :=
    exists_prepare hb rfl _
  have ht : Prepared cosmology tree s (others ++ [i]) t records := prepared_of_prepareBatch hprep
  have hf : Follows cosmology tree s i p 0 t records := follows_of_prepareBatch hp hlt hprep
  have hleft : ((others ++ [i]).length : Int) ≤ 0 ↔ (alone cosmology tree s p 0).2 = true := by
    simp [alone]
  have hrounds : ∃ task d, surveyRounds cosmology tree (others ++ [i]) limit
      (others ++ [i]).length ⟨0, records⟩ ⟨t, c⟩ = (task, .ok d) ∧ _ :=
    surveyRounds_shared hlt hshare (Store.Searchable.stars hb) ht.store ht.length hf hleft
      ((Nat.zero_add limit).symm ▸ hend)
  obtain ⟨task, d, hrounds, hr, hsettled, hothers⟩ := hrounds
  refine ⟨task, d, ?_, by rw [hr, alone_eq_of_settled hsettled hend], fun j hj hne q hq => ?_⟩
  · rw [survey]
    simp only [hprep]
    exact hrounds
  · exact ht.unsettled j (List.mem_append_left _ hj) q ((hothers j hne).symm.trans hq)

end

noncomputable def twoInOneSlot : Store ℝ :=
  (((loneStar.addStar 2 1 ⟨0.006, 0, 0⟩ 0 0.004).modify 1 fun p => { p with slot := 0 }).addGas
    3 1 0 0 1 1).addGas 4 1 ⟨0.006, 0, 0⟩ 0 1 1

/-- Two stars in one slot, with gas around each and more dark matter than is wanted around both.
The second has so small a smoothing length that its search ends at once. -/
noncomputable def rivals : Store ℝ :=
  (twoInOneSlot.addHeap ⟨0, 0, 0⟩ 38).addHeap ⟨0.012, 0, 0⟩ 5

namespace rivals

noncomputable def second : Particle ℝ :=
  .new 2 .star 1 ⟨0.006, 0, 0⟩ 0 0.004

lemma toList_twoInOneSlot : twoInOneSlot.particles.toList =
    [loneParticle, second, .new 3 .gas 1 0 0 1,
      { Particle.new 4 .gas 1 ⟨0.006, 0, 0⟩ 0 1 with slot := 1 }] :=
  rfl

lemma star_first : rivals.particles[0]? = some loneParticle :=
  Store.getElem?_addHeap (Store.getElem?_addHeap rfl _ 38) _ 5

lemma star_second : rivals.particles[1]? = some second :=
  Store.getElem?_addHeap (Store.getElem?_addHeap rfl _ 38) _ 5

lemma searchable : ∀ i ∈ [0] ++ [1], rivals.Searchable i := by
  intro i hi
  obtain rfl | rfl : i = 0 ∨ i = 1 := by simpa using hi
  · exact ⟨_, star_first, rfl, one_pos, rfl⟩
  · refine ⟨_, star_second, rfl, ?_, rfl⟩
    change (0 : ℝ) < 0.004
    norm_num

lemma distances (x : ℝ) : rivals.distancesTo ⟨x, 0, 0⟩ =
    List.replicate 38 |x - 0| ++ List.replicate 5 |x - 0.012| := by
  have hnone : twoInOneSlot.distancesTo ⟨x, 0, 0⟩ = [] := by
    rw [Store.distancesTo, toList_twoInOneSlot]
    rfl
  rw [rivals, Store.distancesTo_addHeap, Store.distancesTo_addHeap, hnone, Vec.norm_sub_axis,
    Vec.norm_sub_axis, List.nil_append]

lemma mass_gasWithin (x r : ℝ) :
    ((rivals.within .gas ⟨x, 0, 0⟩ r).map (·.mass)).sum =
      (if |x| ≤ r then 1 else 0) + if |x - 0.006| ≤ r then 1 else 0 := by
  have hzero : (0 : Vec ℝ) = ⟨0, 0, 0⟩ := rfl
  rw [rivals, Store.within_gas_addHeap, Store.within_gas_addHeap, Store.within, toList_twoInOneSlot]
  by_cases hnear : |x| ≤ r <;> by_cases hfar : |x - 0.006| ≤ r <;>
    simp [Particle.new, loneParticle, second, hzero, Vec.norm_sub_axis, hnear, hfar]

lemma alone_second :
    (alone .still (.build rivals.particles) rivals second 1).2 = true ∧
      (alone .still (.build rivals.particles) rivals second 1).1.around.darkMatter.count = 43 ∧
      (alone .still (.build rivals.particles) rivals second 1).1.around.gasMass = 1 := by
  have hstart : Bracket.ofHsml second.hsml = ⟨0.008, 0, -1⟩ := by
    norm_num [Bracket.ofHsml, second, Particle.new]
  have hcount : (rivals.darkMatterWithin second.pos 0.008).length = 43 := by
    refine (Store.length_darkMatterWithin_of_heaps (distances 0.006) 0.008).trans ?_
    norm_num
  have hstep : (⟨0.008, 0, -1⟩ : Bracket ℝ).step (43 : ℕ)
      (Octree.build rivals.particles).diagonal = (⟨0.008, 0, 0.008⟩, true) := by
    have hclose : (⟨0.008, 0, -1⟩ : Bracket ℝ).close (43 : ℕ) = ⟨0.008, 0, 0.008⟩ := rfl
    exact Bracket.step_of_narrow hclose (by norm_num [Bracket.bounded_iff])
      (by norm_num [Bracket.narrow])
  obtain ⟨-, hdone, hfound⟩ := alone_succ_of_count (n := 0) rfl hstart hcount hstep
  refine ⟨hdone, hfound, (gasMass_of_settled hdone).trans ?_⟩
  refine (mass_gasWithin 0.006 0.004).trans ?_
  norm_num

lemma exists_survey :
    ∃ task d, survey .still (.build rivals.particles) 1 [0, 1] ⟨rivals, SingleTask.mk⟩ =
      (task, .ok d) ∧
      d.records[0]? = some (alone .still (.build rivals.particles) rivals second 1).1 := by
  have hshare : ∀ j ∈ [0] ++ [1], ∀ q, rivals.particles[j]? = some q → q.slot = second.slot := by
    intro j hj q hq
    obtain rfl | rfl : j = 0 ∨ j = 1 := by simpa using hj
    · rw [← Option.some.inj (star_first.symm.trans hq)]
      rfl
    · rw [← Option.some.inj (star_second.symm.trans hq)]
  have hlt : second.slot < rivals.starCount := two_pos
  obtain ⟨task, d, h, hr, -⟩ :=
    survey_shared hlt hshare searchable star_second alone_second.1 SingleTask.mk
  exact ⟨task, d, h, hr⟩

end rivals

end GalacticWinds
