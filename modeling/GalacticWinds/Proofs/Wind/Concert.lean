import GalacticWinds.Proofs.Wind.Kicks
import GalacticWinds.Proofs.Wind.Step
import GalacticWinds.Proofs.Wind.Survey.Course

/-! A step of several tasks together. What each of them says follows from its own rounds, so the
answers are settled call by call, and with them the round after which all leave. -/

namespace GalacticWinds

/-- What one of several tasks brings to a step. -/
structure Share (α : Type) where
  cosmology : Cosmology α
  random : RandomSource α
  store : Store α
  batch : List Nat

namespace Share

section

variable {α : Type} [Transcendental α] (x : Share α) (model : Model α) (limit : ℕ)

def tree : Octree α :=
  .build x.store.particles

def setting : Setting α :=
  ⟨model, x.cosmology, x.random, x.tree⟩

def run {C : Type} [Collective C] (c : C) : Task α C × Except (Failure α) Report :=
  (x.setting model).step limit x.batch ⟨x.store, c⟩

def survey {C : Type} [Collective C] (c : C) : Task α C × Except (Failure α) (Survey α) :=
  GalacticWinds.survey x.cosmology x.tree limit x.batch ⟨x.store, c⟩

def talk (n : ℕ) : List Call :=
  GalacticWinds.talk x.cosmology x.tree x.store x.batch n

def course (n : ℕ) : Course α :=
  GalacticWinds.course x.cosmology x.tree x.store x.batch n

/-- The rounds that the slowest star of the task needs. -/
noncomputable def rounds : ℕ :=
  x.batch.toFinset.sup (roundsAlone x.cosmology x.tree x.store)

variable {model} (hsub : model.subgrid = false) (answers : Answers) (task taskCount : ℕ)

/-- The task after its first call. -/
def asked : Member :=
  { answers.member task taskCount with calls := x.talk 0 }

lemma any_member :
    Collective.any (answers.member task taskCount) (!x.batch.isEmpty) =
      (answers.any 0, x.asked answers task taskCount) :=
  rfl

variable {answers}

include hsub

lemma run_nobody (hany : answers.any 0 = false) :
    x.run model limit (answers.member task taskCount) =
      (⟨x.store, x.asked answers task taskCount⟩, .ok .idle) :=
  Setting.step_nobody hsub (by rw [any_member, hany])

lemma comm_run (hany : answers.any 0 = true) :
    (x.run model limit (answers.member task taskCount)).1.comm =
      (x.survey limit (x.asked answers task taskCount)).1.comm := by
  have hcall : Collective.any (answers.member task taskCount) (!x.batch.isEmpty) =
      (true, x.asked answers task taskCount) := by rw [any_member, hany]
  have hrun : (x.setting model).model.subgrid = false := hsub
  obtain ⟨after, out, h⟩ : ∃ after out,
    GalacticWinds.survey (x.setting model).cosmology (x.setting model).tree limit x.batch
      ⟨x.store, x.asked answers task taskCount⟩ = (after, out) := ⟨_, _, rfl⟩
  have hsurvey : x.survey limit (x.asked answers task taskCount) = (after, out) := h
  rw [hsurvey, run]
  cases out with
  | error e => rw [Setting.step_fault hrun hcall h]
  | ok d => rw [Setting.step_kicks hrun hcall h]

end

/-- A task whose stars can all be looked for. -/
structure Ready (x : Share ℝ) : Prop where
  slotted : x.store.Slotted
  searchable : ∀ i ∈ x.batch, x.store.Searchable i

namespace Ready

variable {x : Share ℝ} (hx : x.Ready)

include hx

lemma numbered : x.store.Numbered x.batch :=
  hx.slotted.numbered (Store.Searchable.stars hx.searchable)

lemma allSettled_iff (n : ℕ) :
    AllSettled x.cosmology x.tree x.store x.batch n ↔ x.rounds ≤ n := by
  apply allSettled_iff_sup_le
  intro i hi
  obtain ⟨p, hp, -, hpos, -⟩ := hx.searchable i hi
  refine ⟨Bracket.roundBound p.hsml x.tree.diagonal, fun j hj q hq => ?_⟩
  obtain rfl := List.mem_singleton.mp hj
  obtain rfl := Option.some.inj (hp.symm.trans hq)
  exact settled_of_roundBound_le hpos le_rfl

lemma tracks (n : ℕ) :
    Tracks x.cosmology x.tree x.store x.batch n (x.course n).store (x.course n).records :=
  (tracks_course hx.numbered hx.searchable n).1

lemma left_eq_zero_iff (n : ℕ) : (x.course n).left = 0 ↔ x.rounds ≤ n :=
  (tracks_course hx.numbered hx.searchable n).2.trans (hx.allSettled_iff n)

/-- A task by itself comes to the same store and the same records as in any conversation that
outlasts it. -/
lemma exists_survey {n : ℕ} (hn : x.rounds ≤ n) {limit : ℕ} (hlimit : n ≤ limit) :
    ∃ own alone, x.survey limit SingleTask.mk = (own, .ok alone) ∧ alone.rounds = x.rounds ∧
      own.store = (x.course n).store ∧ alone.records = (x.course n).records := by
  have hall := (hx.allSettled_iff limit).mpr (hn.trans hlimit)
  obtain ⟨own, alone, h⟩ := survey_returns hx.numbered hx.searchable hall SingleTask.mk
  obtain ⟨ht, hsettled, hfirst⟩ := survey_tracks hx.numbered h
  obtain ⟨hstore, hrecords⟩ :=
    ht.eq_of_settled (hx.tracks n) hsettled ((hx.allSettled_iff n).mpr hn)
  exact ⟨own, alone, h, rounds_eq_sup hsettled hfirst, hstore, hrecords⟩

lemma exists_solo {i : Nat} (hi : i ∈ x.batch) {limit : ℕ} (hlimit : x.rounds ≤ limit) :
    ∃ own solo, GalacticWinds.survey x.cosmology x.tree limit [i] ⟨x.store, SingleTask.mk⟩ =
        (own, .ok solo) ∧
      solo.rounds = roundsAlone x.cosmology x.tree x.store i := by
  have hsub : [i] ⊆ x.batch := by simpa using hi
  have hn := hx.numbered.mono hsub
  have hsettled := GalacticWinds.allSettled_iff.mp ((hx.allSettled_iff limit).mpr hlimit) i hi
  obtain ⟨own, solo, h⟩ :=
    survey_returns hn (fun j hj => hx.searchable j (hsub hj)) hsettled SingleTask.mk
  obtain ⟨-, hlast, hfirst⟩ := survey_tracks hn h
  exact ⟨own, solo, h, (roundsAlone_eq hlast hfirst).symm⟩

end Ready

end Share

namespace Concerted

open Finset

variable {n : ℕ} {xs : Fin n → Share ℝ}

variable (xs) in
/-- The rounds that the slowest star of any task needs. -/
noncomputable def rounds : ℕ :=
  univ.sup fun k => (xs k).rounds

variable (xs) in
noncomputable def left (r : ℕ) : ℤ :=
  ∑ k, ((xs k).course r).left

variable (hxs : ∀ k, (xs k).Ready)

include hxs

lemma left_pos_iff (r : ℕ) : 0 < left xs r ↔ r < rounds xs := by
  have hzero : left xs r = 0 ↔ rounds xs ≤ r := by
    rw [left, rounds, Finset.sup_le_iff, sum_eq_zero_iff_of_nonneg fun k _ => Int.natCast_nonneg _]
    exact forall₂_congr fun k _ => Int.natCast_eq_zero.trans ((hxs k).left_eq_zero_iff r)
  have hnonneg : 0 ≤ left xs r := sum_nonneg fun k _ => Int.natCast_nonneg _
  rw [← not_le, ← not_le, ← hzero]
  omega

variable {model : Model ℝ} (hsub : model.subgrid = false) {limit : ℕ} {answers : Answers}

variable (xs model limit answers) in
noncomputable def calls (k : Fin n) : List Call :=
  ((xs k).run model limit (answers.member k n)).1.comm.calls

include hsub

/-- However the answers turn out, a task says what it has to up to the round in which they may tell
it to leave. -/
lemma prefix_calls (hany : answers.any 0 = true) {r : ℕ} (hr : r ≤ limit)
    (hleft : ∀ j < r, 0 < answers.sum (j + 1)) (k : Fin n) :
    (xs k).talk (r + 1) <+: calls xs model limit answers k := by
  rw [calls, (xs k).comm_run limit hsub k n hany]
  exact prefix_survey (hxs k).numbered (hxs k).searchable (answers.member k n) hr hleft

lemma calls_zero (k : Fin n) :
    (calls xs model limit answers k)[0]? = some (.any !(xs k).batch.isEmpty) := by
  cases hany : answers.any 0 with
  | false =>
    rw [calls, (xs k).run_nobody limit hsub k n hany]
    rfl
  | true =>
    obtain ⟨more, h⟩ := prefix_calls hxs hsub hany (Nat.zero_le limit)
      (fun j hj => absurd hj (Nat.not_lt_zero j)) k
    rw [← h]
    rfl

section

variable (hlimit : rounds xs ≤ limit) (hany : answers.any 0 = true)
  (hsum : ∀ r ≤ rounds xs, answers.sum (r + 1) = left xs r) (k : Fin n)

include hlimit hsum

omit hsub in
lemma survey_leaves :
    (xs k).survey limit ((xs k).asked answers k n) =
      (⟨((xs k).course (rounds xs)).store,
          { answers.member k n with calls := (xs k).talk (rounds xs + 1) }⟩,
        .ok ⟨rounds xs, ((xs k).course (rounds xs)).records⟩) := by
  apply survey_stops (hxs k).numbered (hxs k).searchable (answers.member k n) hlimit
  · intro r hr
    change 0 < answers.sum (r + 1)
    rw [hsum r hr.le]
    exact (left_pos_iff hxs r).mpr hr
  · change answers.sum (rounds xs + 1) ≤ 0
    rw [hsum _ le_rfl, ← not_lt, left_pos_iff hxs]
    exact lt_irrefl _

include hany

lemma run_leaves :
    ∃ t launched, (xs k).run model limit (answers.member k n) =
      (⟨t, { answers.member k n with calls := (xs k).talk (rounds xs + 1) }⟩,
        .ok ⟨rounds xs, (xs k).batch.length, launched⟩) := by
  have hrun : ((xs k).setting model).model.subgrid = false := hsub
  have hcall : Collective.any (answers.member k n) (!(xs k).batch.isEmpty) =
      (true, (xs k).asked answers k n) := by rw [Share.any_member, hany]
  have h : GalacticWinds.survey ((xs k).setting model).cosmology ((xs k).setting model).tree limit
    (xs k).batch ⟨(xs k).store, (xs k).asked answers k n⟩ = _ := survey_leaves hxs hlimit hsum k
  obtain ⟨t, launched, hkicks⟩ :=
    Setting.exists_kickAll ((xs k).setting model) (recorded_of_survey (hxs k).slotted h)
  rw [Share.run, Setting.step_kicks hrun hcall h, hkicks]
  exact ⟨t, launched, rfl⟩

end

variable (h : Concerted answers (calls xs model limit answers))

include h

lemma any_iff : answers.any 0 = true ↔ ∃ k, (xs k).batch ≠ [] := by
  rw [h.any 0 _ (calls_zero hxs hsub)]
  simp

lemma sum_eq_left (hlimit : rounds xs ≤ limit) (hany : answers.any 0 = true) {r : ℕ}
    (hr : r ≤ rounds xs) : answers.sum (r + 1) = left xs r := by
  induction r using Nat.strong_induction_on with
  | _ r ih =>
    have hleft : ∀ j < r, 0 < answers.sum (j + 1) := by
      intro j hj
      rw [ih j hj (hj.le.trans hr), left_pos_iff hxs]
      exact hj.trans_le hr
    refine h.sum (r + 1) _ fun k => ?_
    obtain ⟨more, hmore⟩ := prefix_calls hxs hsub hany (hr.trans hlimit) hleft k
    have hlt : r + 1 < ((xs k).talk (r + 1)).length := by
      rw [Share.talk, length_talk]
      exact Nat.lt_succ_self _
    rw [← hmore, List.getElem?_append_left hlt]
    exact getElem?_talk _ _ _ _ r

omit h

lemma exists_answers (hlimit : rounds xs ≤ limit) :
    ∃ answers, Concerted answers (calls xs model limit answers) := by
  let answers : Answers := ⟨fun _ => decide (∃ k, (xs k).batch ≠ []), fun m => left xs (m - 1)⟩
  have htalk : ∃ r, ∀ k, calls xs model limit answers k = (xs k).talk r := by
    cases hany : answers.any 0 with
    | false =>
      refine ⟨0, fun k => ?_⟩
      rw [calls, (xs k).run_nobody limit hsub k n hany]
      rfl
    | true =>
      refine ⟨rounds xs + 1, fun k => ?_⟩
      obtain ⟨t, launched, hrun⟩ := run_leaves hxs hsub hlimit hany (fun r _ => rfl) k
      rw [calls, hrun]
  obtain ⟨r, htalk⟩ := htalk
  refine ⟨answers, ⟨fun m b hb => ?_, fun m x hx => ?_⟩⟩
  · have hbatch : ∀ k, b k = !(xs k).batch.isEmpty := fun k =>
      getElem?_talk_any _ _ _ _ (htalk k ▸ hb k)
    simp [answers, hbatch]
  · have hleft : ∀ k, x k = ((xs k).course (m - 1)).left := fun k =>
      getElem?_talk_sum _ _ _ _ (htalk k ▸ hx k)
    have htotal : answers.sum m = ∑ k, (((xs k).course (m - 1)).left : ℤ) := rfl
    rw [htotal]
    exact (sum_congr rfl fun k _ => hleft k).symm

end Concerted

/-- Tasks that take a step together make the same calls and leave after the same round, the one in
which the slowest star of all settles. None of them goes while a star of any is left, and each has
the records that it would have by itself. -/
theorem tasks_leave_together (model : Model ℝ) (hsub : model.subgrid = false) {n : ℕ}
    {xs : Fin n → Share ℝ} (hs : ∀ k, (xs k).store.Filled)
    (hb : ∀ k, ∀ i ∈ (xs k).batch, ∃ p, (xs k).store.particles[i]? = some p ∧
      p.species = .star ∧ 0 < p.hsml) :
    let rounds := Finset.univ.sup fun k =>
      (xs k).batch.toFinset.sup (roundsAlone (xs k).cosmology (xs k).tree (xs k).store)
    (∀ k, ∀ i ∈ (xs k).batch, ∃ own solo,
      survey (xs k).cosmology (xs k).tree rounds [i] ⟨(xs k).store, SingleTask.mk⟩ =
        (own, .ok solo) ∧
      solo.rounds = roundsAlone (xs k).cosmology (xs k).tree (xs k).store i) ∧
    ∀ limit ≥ rounds,
      let out (answers : Answers) k := (xs k).run model limit (answers.member k n)
      (∃ answers, Concerted answers fun k => (out answers k).1.comm.calls) ∧
      ∀ answers, Concerted answers (fun k => (out answers k).1.comm.calls) →
        ((∀ k, (xs k).batch = []) → rounds = 0 ∧ ∀ k,
          (out answers k).1.comm.calls = [.any false] ∧
          (out answers k).1.store = (xs k).store ∧ (out answers k).2 = .ok .idle) ∧
        ((∃ k, (xs k).batch ≠ []) → ∀ k,
          (∃ sums : List Int, sums.length = rounds + 1 ∧
            (out answers k).1.comm.calls = .any (!(xs k).batch.isEmpty) :: sums.map .sum) ∧
          (∃ task d, (xs k).survey limit ((xs k).asked answers k n) = (task, .ok d) ∧
            d.rounds = rounds ∧
            (∀ i ∈ (xs k).batch, ∀ p, (xs k).store.particles[i]? = some p →
              task.store.particles[i]? = some { p with converged := true }) ∧
            ∃ own alone, (xs k).survey limit SingleTask.mk = (own, .ok alone) ∧
              own.store = task.store ∧ alone.records = d.records) ∧
          ∃ launched, (out answers k).2 = .ok ⟨rounds, (xs k).batch.length, launched⟩) := by
  intro rounds
  have hxs : ∀ k, (xs k).Ready := by
    intro k
    refine ⟨(hs k).slotted, fun i hi => ?_⟩
    obtain ⟨p, hp, hk, hpos⟩ := hb k i hi
    exact ⟨p, hp, hk, hpos, rfl⟩
  have hle : ∀ k, (xs k).rounds ≤ rounds := fun k =>
    Finset.le_sup (f := fun k => (xs k).rounds) (Finset.mem_univ k)
  refine ⟨fun k i hi => (hxs k).exists_solo hi (hle k), fun limit hlimit => ?_⟩
  intro out
  refine ⟨Concerted.exists_answers hxs hsub hlimit, fun answers h => ⟨fun hnone => ?_, ?_⟩⟩
  · have hany : answers.any 0 = false := by
      rw [← Bool.not_eq_true, Concerted.any_iff hxs hsub h]
      simpa using hnone
    refine ⟨by simp [rounds, hnone], fun k => ?_⟩
    have hrun : out answers k = _ := (xs k).run_nobody limit hsub k n hany
    rw [hrun]
    refine ⟨?_, rfl, rfl⟩
    change talk (xs k).cosmology (xs k).tree (xs k).store (xs k).batch 0 = _
    rw [hnone k]
    rfl
  · intro hsome k
    have hany : answers.any 0 = true := (Concerted.any_iff hxs hsub h).mpr hsome
    have hsum : ∀ r ≤ Concerted.rounds xs, answers.sum (r + 1) = Concerted.left xs r :=
      fun r hr => Concerted.sum_eq_left hxs hsub h hlimit hany hr
    obtain ⟨t, launched, hrun⟩ := Concerted.run_leaves hxs hsub hlimit hany hsum k
    have hsurvey := Concerted.survey_leaves hxs hlimit hsum k
    obtain ⟨own, alone, halone, -, hstore, hrecords⟩ := (hxs k).exists_survey (hle k) hlimit
    have hout : out answers k = _ := hrun
    rw [hout]
    refine ⟨exists_sums _ _ _ _ (rounds + 1), ⟨_, _, hsurvey, rfl, fun i hi p hp => ?_, own, alone,
      halone, hstore, hrecords⟩, launched, rfl⟩
    have hafter := ((hxs k).tracks rounds).getElem?_particles
      (((hxs k).allSettled_iff rounds).mpr (hle k)) hp
    rwa [if_pos hi] at hafter

/-- A task with a star that takes three rounds, one with a star that takes no more than one, and
one with no star. -/
noncomputable def threeTasks : Fin 3 → Share ℝ :=
  ![⟨.still, .const 0, companions, [0]⟩, ⟨.still, .const 0, companions, [1]⟩,
    ⟨.still, .const 0, .empty, []⟩]

theorem tasks_leave_together_threeTasks :
    ∃ answers,
      (Concerted answers fun k : Fin 3 =>
        ((threeTasks k).run Setting.fastWind 3 (answers.member k 3)).1.comm.calls) ∧
      ∀ k, ∃ launched, ((threeTasks k).run Setting.fastWind 3 (answers.member k 3)).2 =
        .ok ⟨3, (threeTasks k).batch.length, launched⟩ := by
  have hs : ∀ k, (threeTasks k).store.Filled := by
    intro k
    fin_cases k
    · exact companions.filled
    · exact companions.filled
    · exact Store.Filled.empty
  have hb : ∀ k, ∀ i ∈ (threeTasks k).batch, ∃ p,
      (threeTasks k).store.particles[i]? = some p ∧ p.species = .star ∧ 0 < p.hsml := by
    intro k i hi
    fin_cases k
    · have hsub : [0] ⊆ [0, 1] := by simp
      obtain ⟨p, hp, hk, hpos, -⟩ := companions.searchable hsub i hi
      exact ⟨p, hp, hk, hpos⟩
    · have hsub : [1] ⊆ [0, 1] := by simp
      obtain ⟨p, hp, hk, hpos, -⟩ := companions.searchable hsub i hi
      exact ⟨p, hp, hk, hpos⟩
    · exact absurd hi List.not_mem_nil
  have hrounds : (Finset.univ.sup fun k => (threeTasks k).batch.toFinset.sup
      (roundsAlone (threeTasks k).cosmology (threeTasks k).tree (threeTasks k).store)) = 3 := by
    have hshares : (fun k => (threeTasks k).batch.toFinset.sup (roundsAlone
        (threeTasks k).cosmology (threeTasks k).tree (threeTasks k).store)) = ![3, 1, 0] := by
      funext k
      fin_cases k
      · exact Finset.sup_singleton.trans companions.roundsAlone_first
      · exact Finset.sup_singleton.trans companions.roundsAlone_second
      · rfl
    rw [hshares]
    rfl
  obtain ⟨-, hmeet⟩ := tasks_leave_together Setting.fastWind rfl hs hb
  obtain ⟨⟨answers, hanswers⟩, hall⟩ := hmeet 3 hrounds.le
  obtain ⟨-, hsome⟩ := hall answers hanswers
  have hstar : ∃ k, (threeTasks k).batch ≠ [] := ⟨0, List.cons_ne_nil _ _⟩
  refine ⟨answers, hanswers, fun k => ?_⟩
  have hleave := (hsome hstar k).2.2
  rw [hrounds] at hleave
  exact hleave

end GalacticWinds
