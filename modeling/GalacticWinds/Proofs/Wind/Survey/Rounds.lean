import GalacticWinds.Proofs.Wind.Survey.Preparation

/-! A survey by one task, from the fresh records to the round after which no star is left. -/

namespace GalacticWinds

variable {α : Type} [Scalar α] {cosmology : Cosmology α} {tree : Octree α} {s : Store α}

variable (cosmology tree s) in
/-- How rounds from `start` on can end: after the first one that leaves no star, or because
there is none among the `limit` rounds that are allowed. -/
def Ends (batch : List Nat) (start limit : Nat) :
    Task α SingleTask × Except (Failure α) (Survey α) → Prop
  | (task, .ok d) =>
    Tracks cosmology tree s batch d.rounds task.store d.records ∧
      AllSettled cosmology tree s batch d.rounds ∧
      ∀ n, start ≤ n → n < d.rounds → ¬ AllSettled cosmology tree s batch n
  | (_, .error _) => ¬ AllSettled cosmology tree s batch (start + limit)

variable {batch : List Nat}

lemma Ends.earlier {start limit : Nat} {out : Task α SingleTask × Except (Failure α) (Survey α)}
    (h : Ends cosmology tree s batch (start + 1) limit out)
    (hn : ¬ AllSettled cosmology tree s batch start) :
    Ends cosmology tree s batch start (limit + 1) out := by
  obtain ⟨task, e | d⟩ := out
  · have hlast : ¬ AllSettled cosmology tree s batch (start + 1 + limit) := h
    rwa [Nat.add_assoc, Nat.add_comm 1] at hlast
  · obtain ⟨ht, hall, hfirst⟩ := h
    refine ⟨ht, hall, fun n hle hlt => ?_⟩
    rcases Nat.eq_or_lt_of_le hle with rfl | hle
    · exact hn
    · exact hfirst n hle hlt

lemma surveyRounds_ends (hs : s.Numbered batch) (hb : s.Stars batch) {limit : Nat} {left : Int}
    {d : Survey α} {task : Task α SingleTask}
    (ht : Tracks cosmology tree s batch d.rounds task.store d.records)
    (hleft : left ≤ 0 ↔ AllSettled cosmology tree s batch d.rounds) :
    Ends cosmology tree s batch d.rounds limit
      (surveyRounds cosmology tree batch limit left d task) := by
  induction limit generalizing left d task with
  | zero =>
    rw [surveyRounds]
    split_ifs with hl
    · exact ⟨ht, hleft.mp hl, fun n hle hlt => absurd hlt (Nat.not_lt.mpr hle)⟩
    · exact fun h => hl (hleft.mpr h)
  | succ limit ih =>
    rw [surveyRounds]
    split_ifs with hl
    · exact ⟨ht, hleft.mp hl, fun n hle hlt => absurd hlt (Nat.not_lt.mpr hle)⟩
    · obtain ⟨t', round, hround, ht', hpending⟩ := ht.round hs hb
      have hleft' : (round.pending.length : Int) ≤ 0 ↔
          AllSettled cosmology tree s batch (d.rounds + 1) := by
        rw [← hpending, ← List.length_eq_zero_iff]
        omega
      simp only [hround]
      exact (ih (d := ⟨d.rounds + 1, round.records⟩) ht' hleft').earlier (mt hleft.mpr hl)

lemma allSettled_zero_iff (hb : s.Stars batch) :
    AllSettled cosmology tree s batch 0 ↔ batch = [] := by
  constructor
  · intro hall
    cases batch with
    | nil => rfl
    | cons i batch =>
      obtain ⟨p, hp, -⟩ := hb i List.mem_cons_self
      exact absurd (hall i List.mem_cons_self p hp) (by simp [alone])
  · rintro rfl i hi
    exact absurd hi List.not_mem_nil

theorem survey_ends (hs : s.Numbered batch) (hb : ∀ i ∈ batch, s.Searchable i) (limit : Nat)
    (c : SingleTask) :
    Ends cosmology tree s batch 0 limit (survey cosmology tree limit batch ⟨s, c⟩) := by
  obtain ⟨t, records, hprep⟩ : ∃ t records, prepareBatch batch s = (t, .ok records) :=
    exists_prepare hb rfl _
  have ht : Tracks cosmology tree s batch 0 t records := (prepared_of_prepareBatch hprep).tracks hs
  have hleft : (batch.length : Int) ≤ 0 ↔ AllSettled cosmology tree s batch 0 := by
    rw [allSettled_zero_iff (Store.Searchable.stars hb), ← List.length_eq_zero_iff]
    omega
  rw [survey]
  simp only [hprep]
  exact surveyRounds_ends (d := ⟨0, records⟩) hs (Store.Searchable.stars hb) ht hleft

theorem survey_returns (hs : s.Numbered batch) (hb : ∀ i ∈ batch, s.Searchable i) {limit : Nat}
    (hall : AllSettled cosmology tree s batch limit) (c : SingleTask) :
    ∃ task d, survey cosmology tree limit batch ⟨s, c⟩ = (task, .ok d) := by
  have hends : Ends cosmology tree s batch 0 limit _ := survey_ends hs hb limit c
  cases hout : survey cosmology tree limit batch ⟨s, c⟩ with
  | mk task out =>
    cases out with
    | error e =>
      rw [hout] at hends
      have hnot : ¬ AllSettled cosmology tree s batch (0 + limit) := hends
      rw [Nat.zero_add] at hnot
      exact absurd hall hnot
    | ok d => exact ⟨task, d, rfl⟩

section

variable {C : Type} [Collective C] {limit : Nat} {d : Survey α} {task task' : Task α C}

lemma surveyRounds_nobody_left {left : Int} (hl : left ≤ 0) :
    surveyRounds cosmology tree batch limit left d task = (task, .ok d) := by
  cases limit with
  | zero => rw [surveyRounds, if_pos hl]
  | succ limit => rw [surveyRounds, if_pos hl]

lemma surveyRounds_succ {n : ℕ} {records : List (StarRecord α)} {c : C} {left : Int}
    (hl : 0 < left) {t : Store α} {round : Round α (StarRecord α) (Surroundings α)}
    (hround : surveyRound cosmology tree.diagonal tree s batch records = .ok (t, round)) :
    surveyRounds cosmology tree batch (limit + 1) left ⟨n, records⟩ ⟨s, c⟩ =
      surveyRounds cosmology tree batch limit (Collective.sum c round.pending.length).1
        ⟨n + 1, round.records⟩ ⟨t, (Collective.sum c round.pending.length).2⟩ := by
  rw [surveyRounds, if_neg (not_le.mpr hl)]
  simp only [hround]

lemma surveyRounds_ok {left : Int} {d' : Survey α}
    (h : surveyRounds cosmology tree batch limit left d task = (task', .ok d')) :
    (left ≤ 0 ∧ task' = task ∧ d' = d) ∨
      (0 < left ∧ ∃ fewer t round, limit = fewer + 1 ∧
        surveyRound cosmology tree.diagonal tree task.store batch d.records = .ok (t, round) ∧
        surveyRounds cosmology tree batch fewer (Collective.sum task.comm round.pending.length).1
          ⟨d.rounds + 1, round.records⟩ ⟨t, (Collective.sum task.comm round.pending.length).2⟩ =
            (task', .ok d')) := by
  by_cases hl : left ≤ 0
  · rw [surveyRounds_nobody_left hl] at h
    simp only [Prod.mk.injEq, Except.ok.injEq] at h
    exact .inl ⟨hl, h.1.symm, h.2.symm⟩
  · cases limit with
    | zero =>
      rw [surveyRounds, if_neg hl] at h
      simp at h
    | succ fewer =>
      rw [surveyRounds, if_neg hl] at h
      cases hround : surveyRound cosmology tree.diagonal tree task.store batch d.records with
      | error e => simp [hround] at h
      | ok out =>
        simp only [hround] at h
        exact .inr ⟨not_le.mp hl, fewer, out.1, out.2, rfl, rfl, h⟩

lemma surveyRounds_of_le {left : Int} {d' : Survey α} {limit' : Nat} (hle : limit ≤ limit')
    (h : surveyRounds cosmology tree batch limit left d task = (task', .ok d')) :
    surveyRounds cosmology tree batch limit' left d task = (task', .ok d') := by
  induction limit' generalizing limit left d task with
  | zero => rwa [Nat.le_zero.mp hle] at h
  | succ limit' ih =>
    rcases surveyRounds_ok h with ⟨hl, rfl, rfl⟩ | ⟨hl, fewer, t, round, rfl, hround, hrest⟩
    · exact surveyRounds_nobody_left hl
    · rw [surveyRounds_succ hl hround]
      exact ih (Nat.le_of_succ_le_succ hle) hrest

lemma rounds_le_of_surveyRounds {left : Int} {d' : Survey α}
    (h : surveyRounds cosmology tree batch limit left d task = (task', .ok d')) :
    d'.rounds ≤ d.rounds + limit := by
  induction limit generalizing left d task with
  | zero =>
    rcases surveyRounds_ok h with ⟨-, -, rfl⟩ | ⟨-, fewer, -, -, hlimit, -⟩
    · exact Nat.le_add_right _ _
    · exact absurd hlimit (Nat.succ_ne_zero fewer).symm
  | succ limit ih =>
    rcases surveyRounds_ok h with ⟨-, -, rfl⟩ | ⟨-, fewer, t, round, hlimit, -, hrest⟩
    · exact Nat.le_add_right _ _
    · obtain rfl := Nat.succ.inj hlimit
      have hle : d'.rounds ≤ d.rounds + 1 + limit := ih hrest
      omega

lemma survey_ok (h : survey cosmology tree limit batch task = (task', .ok d)) :
    ∃ t records, prepareBatch batch task.store = (t, .ok records) ∧
      surveyRounds cosmology tree batch limit (Collective.sum task.comm batch.length).1
        ⟨0, records⟩ ⟨t, (Collective.sum task.comm batch.length).2⟩ = (task', .ok d) := by
  rw [survey] at h
  cases hprep : prepareBatch batch task.store with
  | mk t prepared =>
    cases prepared with
    | error e => simp [hprep] at h
    | ok records =>
      simp only [hprep] at h
      exact ⟨t, records, rfl, h⟩

lemma searchable_of_survey {c : C} (h : survey cosmology tree limit batch ⟨s, c⟩ = (task, .ok d)) :
    ∀ i ∈ batch, s.Searchable i := by
  obtain ⟨t, records, hprep, -⟩ := survey_ok h
  exact searchable_of_prepare rfl hprep

lemma survey_of_le {limit' : Nat} (hle : limit ≤ limit')
    (h : survey cosmology tree limit batch task = (task', .ok d)) :
    survey cosmology tree limit' batch task = (task', .ok d) := by
  obtain ⟨t, records, hprep, hrounds⟩ := survey_ok h
  rw [survey]
  simp only [hprep]
  exact surveyRounds_of_le hle hrounds

lemma rounds_le_of_survey (h : survey cosmology tree limit batch task = (task', .ok d)) :
    d.rounds ≤ limit := by
  obtain ⟨t, records, -, hrounds⟩ := survey_ok h
  exact (rounds_le_of_surveyRounds hrounds).trans_eq (Nat.zero_add limit)

end

section

variable {C : Type} [Collective C] {limit : Nat} {c : C} {left : Int} {d : Survey α}
  {task task' : Task α C}

lemma slot_lt_of_surveyRounds {t : Store α} {records : List (StarRecord α)}
    (ht : Prepared cosmology tree s batch t records) (hl : 0 < left)
    (h : surveyRounds cosmology tree batch limit left ⟨0, records⟩ ⟨t, c⟩ = (task, .ok d)) :
    ∀ i ∈ batch, ∀ p, s.particles[i]? = some p → p.slot < s.starCount := by
  intro i hi p hp
  rcases surveyRounds_ok h with ⟨hnone, -⟩ | ⟨-, fewer, t', round, -, hround, -⟩
  · exact absurd hl (not_lt.mpr hnone)
  · -- every star has work in the first round, so each of them must have found a record
    cases hrun : (surveyWalk cosmology tree.diagonal).run tree t.particles batch records with
    | error e => simp [surveyRound, hrun, bind, Except.bind] at hround
    | ok out =>
      have hwork : ∀ j ∈ batch, ∀ q, t.particles[j]? = some q →
          (surveyWalk cosmology tree.diagonal).hasWork ⟨j, q⟩ = true := fun j hj q hq =>
        congrArg (!·) (ht.unsettled j hj q hq)
      obtain ⟨b, hq⟩ := Store.exists_of_unmarked ht.store hp
      obtain ⟨q, hq', -, hlt⟩ := Walk.recorded_of_run tree rfl hrun hwork i hi
      obtain rfl := Option.some.inj (hq.symm.trans hq')
      exact ht.length ▸ hlt

/-- The star is settled at the end if the sum over the tasks is never zero before all of its own
task are. -/
lemma surveyRounds_follows (hb : s.Stars batch)
    (hlt : ∀ i ∈ batch, ∀ p, s.particles[i]? = some p → p.slot < s.starCount) {i : Nat}
    (hi : i ∈ batch) (hown : s.Owned batch i) {p : Particle α} (hp : s.particles[i]? = some p)
    {d' : Survey α} (hstore : task.store.unmarked = s.unmarked)
    (hlength : d.records.length = s.starCount)
    (hf : Follows cosmology tree s i p d.rounds task.store d.records)
    (h : surveyRounds cosmology tree batch limit left d task = (task', .ok d')) :
    Follows cosmology tree s i p d'.rounds task'.store d'.records ∧
      ((∀ (c : C) (n : Nat), (Collective.sum c n).1 ≤ 0 → n = 0) →
        (left ≤ 0 → (alone cosmology tree s p d.rounds).2 = true) →
        (alone cosmology tree s p d'.rounds).2 = true) := by
  induction limit generalizing left d task with
  | zero =>
    rcases surveyRounds_ok h with ⟨hl, rfl, rfl⟩ | ⟨-, fewer, -, -, hlimit, -⟩
    · exact ⟨hf, fun _ hleft => hleft hl⟩
    · exact absurd hlimit (Nat.succ_ne_zero fewer).symm
  | succ limit ih =>
    rcases surveyRounds_ok h with ⟨hl, rfl, rfl⟩ | ⟨-, fewer, t, round, hlimit, hround, hrest⟩
    · exact ⟨hf, fun _ hleft => hleft hl⟩
    · obtain rfl := Nat.succ.inj hlimit
      obtain ⟨ts, rfl, hat, hround'⟩ := surveyRound_stars cosmology tree
        (recorded_of_unmarked hstore hlength hb hlt)
      obtain ⟨rfl, rfl⟩ := Prod.mk.inj (Except.ok.inj (hround.symm.trans hround'))
      have hlast := hf.latest_own hstore hat hown hp hi
      have hmore := ih (d := ⟨d.rounds + 1, _⟩) (by rw [Store.unmarked_foldl_mark, hstore])
        (by rw [concluded, Walk.length_completed, hlength])
        (hf.round hstore hat hlast) hrest
      refine ⟨hmore.1, fun hsum _ => hmore.2 hsum fun hl => ?_⟩
      have hnil := List.length_eq_zero_iff.mp (hsum _ _ hl)
      have hiff := hf.pending_iff hstore hat hlast
      rw [hnil] at hiff
      simpa using mt hiff.mpr List.not_mem_nil

lemma record_of_survey (h : survey cosmology tree limit batch ⟨s, c⟩ = (task, .ok d)) {i : Nat}
    (hi : i ∈ batch) (hown : s.Owned batch i) {p : Particle α} (hp : s.particles[i]? = some p)
    {r : StarRecord α} (hr : d.records[p.slot]? = some r) :
    r = (alone cosmology tree s p d.rounds).1 := by
  obtain ⟨t, records, hprep, hrounds⟩ := survey_ok h
  have ht : Prepared cosmology tree s batch t records := prepared_of_prepareBatch hprep
  refine Option.some.inj (hr.symm.trans ?_)
  rcases surveyRounds_ok hrounds with ⟨-, rfl, rfl⟩ | ⟨hl, -⟩
  · have hlt : p.slot < records.length := (List.getElem?_eq_some_iff.mp hr).1
    exact (ht.follows i hi p hp (ht.length ▸ hlt) hown).record
  · have hlt := slot_lt_of_surveyRounds ht hl hrounds
    exact (surveyRounds_follows (d := ⟨0, records⟩)
      (Store.Searchable.stars (searchable_of_survey h)) hlt hi hown hp ht.store ht.length
      (ht.follows i hi p hp (hlt i hi p hp) hown) hrounds).1.record

end

section

variable {limit : Nat} {c : SingleTask} {d : Survey α} {task : Task α SingleTask}

lemma slot_lt_of_survey (h : survey cosmology tree limit batch ⟨s, c⟩ = (task, .ok d)) :
    ∀ i ∈ batch, ∀ p, s.particles[i]? = some p → p.slot < s.starCount := by
  obtain ⟨t, records, hprep, hrounds⟩ := survey_ok h
  have ht : Prepared cosmology tree s batch t records := prepared_of_prepareBatch hprep
  intro i hi
  exact slot_lt_of_surveyRounds ht (Int.natCast_pos.mpr (List.length_pos_of_mem hi)) hrounds i hi

/-- Whatever becomes of the rest of a batch, a star that shares its record with none of it is taken
to the round in which its own search ends, or further. -/
theorem survey_follows (h : survey cosmology tree limit batch ⟨s, c⟩ = (task, .ok d)) {i : Nat}
    (hi : i ∈ batch) (hown : s.Owned batch i) {p : Particle α} (hp : s.particles[i]? = some p) :
    d.records[p.slot]? = some (alone cosmology tree s p d.rounds).1 ∧
      (alone cosmology tree s p d.rounds).2 = true := by
  obtain ⟨t, records, hprep, hrounds⟩ := survey_ok h
  have ht : Prepared cosmology tree s batch t records := prepared_of_prepareBatch hprep
  have hlt := slot_lt_of_survey h
  have hleft : (batch.length : Int) ≤ 0 → (alone cosmology tree s p 0).2 = true := by
    intro hl
    have hpos := List.length_pos_of_mem hi
    omega
  obtain ⟨hf, hsettled⟩ := surveyRounds_follows (d := ⟨0, records⟩)
    (Store.Searchable.stars (searchable_of_survey h)) hlt hi hown hp ht.store ht.length
    (ht.follows i hi p hp (hlt i hi p hp) hown) hrounds
  exact ⟨hf.record, hsettled (fun _ _ hn => Nat.le_zero.mp (Int.ofNat_le.mp hn)) hleft⟩

end

lemma numbered_of_survey (hs : s.Slotted) {limit : Nat} {c : SingleTask} {d : Survey α}
    {task : Task α SingleTask}
    (h : survey cosmology tree limit batch ⟨s, c⟩ = (task, .ok d)) : s.Numbered batch :=
  hs.numbered (Store.Searchable.stars (searchable_of_survey h))

theorem survey_tracks (hs : s.Numbered batch) {limit : Nat} {c : SingleTask} {d : Survey α}
    {task : Task α SingleTask}
    (h : survey cosmology tree limit batch ⟨s, c⟩ = (task, .ok d)) :
    Tracks cosmology tree s batch d.rounds task.store d.records ∧
      AllSettled cosmology tree s batch d.rounds ∧
      ∀ n < d.rounds, ¬ AllSettled cosmology tree s batch n := by
  have hends : Ends cosmology tree s batch 0 limit (task, .ok d) :=
    h ▸ survey_ends hs (searchable_of_survey h) limit c
  obtain ⟨ht, hall, hfirst⟩ := hends
  exact ⟨ht, hall, fun n hn => hfirst n (Nat.zero_le n) hn⟩

end GalacticWinds
