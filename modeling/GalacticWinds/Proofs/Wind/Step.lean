import GalacticWinds.Proofs.Wind.Lasting
import GalacticWinds.Proofs.Wind.Survey.Rounds
import GalacticWinds.Wind.Step

/-! A step by cases, for any way in which the tasks talk to one another. Up to the kicks it changes
marks alone. -/

namespace GalacticWinds

section

variable {α C : Type} [Scalar α] [Collective C] {cosmology : Cosmology α} {tree : Octree α}
  {batch : List Nat} {limit : ℕ} {task task' : Task α C}

variable (batch) in
lemma unmarked_prepare (s : Store α) (records : List (StarRecord α)) :
    (prepare batch s records).1.unmarked = s.unmarked := by
  induction batch generalizing s records with
  | nil => rfl
  | cons i batch ih =>
    rw [prepare]
    cases Target.at? s.particles i >>= Target.searchStart with
    | error e => rfl
    | ok start => exact (ih _ _).trans (s.unmarked_mark false i)

lemma unmarked_surveyRound {s t : Store α} {records : List (StarRecord α)}
    {round : Round α (StarRecord α) (Surroundings α)}
    (h : surveyRound cosmology tree.diagonal tree s batch records = .ok (t, round)) :
    t.unmarked = s.unmarked := by
  rw [surveyRound] at h
  cases hrun : (surveyWalk cosmology tree.diagonal).run tree s.particles batch records with
  | error e => simp [hrun, bind, Except.bind] at h
  | ok out =>
    simp only [hrun, bind, Except.bind, pure, Except.pure, Except.ok.injEq, Prod.mk.injEq] at h
    rw [← h.1, Store.unmarked_foldl_mark]

lemma unmarked_surveyRounds (left : Int) (d : Survey α) (task : Task α C) :
    (surveyRounds cosmology tree batch limit left d task).1.store.unmarked =
      task.store.unmarked := by
  induction limit generalizing left d task with
  | zero =>
    rw [surveyRounds]
    split_ifs <;> rfl
  | succ limit ih =>
    rw [surveyRounds]
    split_ifs
    · rfl
    · cases hround : surveyRound cosmology tree.diagonal tree task.store batch d.records with
      | error e => rfl
      | ok out => exact (ih _ _ _).trans (unmarked_surveyRound hround)

variable (cosmology tree limit batch task) in
lemma unmarked_survey :
    (survey cosmology tree limit batch task).1.store.unmarked = task.store.unmarked := by
  have hprep := unmarked_prepare batch task.store
    (List.replicate task.store.starCount .blank)
  rw [survey, prepareBatch]
  cases hout : prepare batch task.store (List.replicate task.store.starCount .blank) with
  | mk t prepared =>
    rw [hout] at hprep
    cases prepared with
    | error e => exact hprep
    | ok records => exact (unmarked_surveyRounds _ _ _).trans hprep

lemma surveyRounds_tracks {s : Store α} (hs : s.Numbered batch) (hb : s.Stars batch) {left : Int}
    {d d' : Survey α} (ht : Tracks cosmology tree s batch d.rounds task.store d.records)
    (h : surveyRounds cosmology tree batch limit left d task = (task', .ok d')) :
    Tracks cosmology tree s batch d'.rounds task'.store d'.records := by
  induction limit generalizing left d task with
  | zero =>
    rcases surveyRounds_ok h with ⟨-, rfl, rfl⟩ | ⟨-, fewer, -, -, hlimit, -⟩
    · exact ht
    · exact absurd hlimit (Nat.succ_ne_zero fewer).symm
  | succ limit ih =>
    rcases surveyRounds_ok h with ⟨-, rfl, rfl⟩ | ⟨-, fewer, t, round, hlimit, hround, hrest⟩
    · exact ht
    · obtain rfl := Nat.succ.inj hlimit
      obtain ⟨t', round', hround', ht', -⟩ := ht.round hs hb
      obtain ⟨rfl, rfl⟩ := Prod.mk.inj (Except.ok.inj (hround.symm.trans hround'))
      exact ih (d := ⟨d.rounds + 1, round.records⟩) ht' hrest

lemma tracks_of_survey {s : Store α} (hs : s.Numbered batch) {c : C} {d : Survey α}
    (h : survey cosmology tree limit batch ⟨s, c⟩ = (task', .ok d)) :
    Tracks cosmology tree s batch d.rounds task'.store d.records := by
  obtain ⟨t, records, hprep, hrounds⟩ := survey_ok h
  have ht : Tracks cosmology tree s batch 0 t records := (prepared_of_prepareBatch hprep).tracks hs
  exact surveyRounds_tracks (d := ⟨0, records⟩) hs
    (Store.Searchable.stars (searchable_of_survey h)) ht hrounds

lemma recorded_of_survey {s : Store α} (hs : s.Slotted) {c : C} {d : Survey α}
    (h : survey cosmology tree limit batch ⟨s, c⟩ = (task', .ok d)) :
    task'.store.Recorded d.records batch := by
  have hb := Store.Searchable.stars (searchable_of_survey h)
  have hn := hs.numbered hb
  have ht := tracks_of_survey hn h
  exact recorded_of_unmarked ht.store ht.length hb hn.lt

end

namespace Setting

variable {α C : Type} [Transcendental α] [Collective C] {setting : Setting α} {limit : Nat}
  {batch : List Nat} {s : Store α} {c c' : C} {task : Task α C}

lemma step_subgrid (hsub : setting.model.subgrid = true) :
    setting.step limit batch task = (task, .ok .idle) := by
  rw [step, if_pos hsub]

section

variable (hsub : setting.model.subgrid = false)

include hsub

lemma step_nobody (hany : Collective.any c (!batch.isEmpty) = (false, c')) :
    setting.step limit batch ⟨s, c⟩ = (⟨s, c'⟩, .ok .idle) := by
  have hrun : ¬ setting.model.subgrid = true := by simp [hsub]
  rw [step, if_neg hrun]
  simp only [hany]

variable (hany : Collective.any c (!batch.isEmpty) = (true, c'))

include hany

lemma step_fault {e : Failure α}
    (h : survey setting.cosmology setting.tree limit batch ⟨s, c'⟩ = (task, .error e)) :
    setting.step limit batch ⟨s, c⟩ = (task, .error e) := by
  have hrun : ¬ setting.model.subgrid = true := by simp [hsub]
  rw [step, if_neg hrun]
  simp only [hany, h]

lemma step_kicks {d : Survey α}
    (h : survey setting.cosmology setting.tree limit batch ⟨s, c'⟩ = (task, .ok d)) :
    setting.step limit batch ⟨s, c⟩ =
      ({ task with store := (setting.kickAll d.records batch task.store).1 },
        (setting.kickAll d.records batch task.store).2.map fun n =>
          ⟨d.rounds, batch.length, n⟩) := by
  have hrun : ¬ setting.model.subgrid = true := by simp [hsub]
  rw [step, if_neg hrun]
  simp only [hany, h]

end

variable (setting limit batch s c) in
lemma step_cases :
    (∃ c', setting.step limit batch ⟨s, c⟩ = (⟨s, c'⟩, .ok .idle)) ∨
      setting.model.subgrid = false ∧ ∃ c', Collective.any c (!batch.isEmpty) = (true, c') ∧
        ∃ task out, survey setting.cosmology setting.tree limit batch ⟨s, c'⟩ = (task, out) ∧
          ((∃ e, out = .error e ∧ setting.step limit batch ⟨s, c⟩ = (task, .error e)) ∨
            ∃ d, out = .ok d ∧ setting.step limit batch ⟨s, c⟩ =
              ({ task with store := (setting.kickAll d.records batch task.store).1 },
                (setting.kickAll d.records batch task.store).2.map fun n =>
                  ⟨d.rounds, batch.length, n⟩)) := by
  cases hsub : setting.model.subgrid with
  | true => exact .inl ⟨c, step_subgrid hsub⟩
  | false =>
    obtain ⟨b, c', hany⟩ : ∃ b c', Collective.any c (!batch.isEmpty) = (b, c') := ⟨_, _, rfl⟩
    cases b with
    | false => exact .inl ⟨c', step_nobody hsub hany⟩
    | true =>
      refine .inr ⟨rfl, c', hany, ?_⟩
      obtain ⟨task, out, h⟩ : ∃ task out,
        survey setting.cosmology setting.tree limit batch ⟨s, c'⟩ = (task, out) := ⟨_, _, rfl⟩
      refine ⟨task, out, h, ?_⟩
      cases out with
      | error e => exact .inl ⟨e, rfl, step_fault hsub hany h⟩
      | ok d => exact .inr ⟨d, rfl, step_kicks hsub hany h⟩

end Setting

end GalacticWinds
