import GalacticWinds.Proofs.Task.Concert
import GalacticWinds.Proofs.Wind.Survey.Independence

/-! The rounds of one task taken by themselves. What the others say decides how many of them there
are, and nothing else. -/

namespace GalacticWinds

variable {α : Type} [Scalar α]

structure Course (α : Type) where
  store : Store α
  records : List (StarRecord α)
  left : ℕ

section

variable (cosmology : Cosmology α) (tree : Octree α) (s : Store α) (batch : List Nat)

def Course.next (c : Course α) : Course α :=
  match surveyRound cosmology tree.diagonal tree c.store batch c.records with
  | .error _ => c
  | .ok (t, round) => ⟨t, round.records, round.pending.length⟩

/-- The store, the records and the number of stars that are left after each round. -/
def course : ℕ → Course α
  | 0 =>
    match prepareBatch batch s with
    | (t, .error _) => ⟨t, [], 0⟩
    | (t, .ok records) => ⟨t, records, batch.length⟩
  | n + 1 => (course n).next cosmology tree batch

end

variable {cosmology : Cosmology α} {tree : Octree α} {s : Store α} {batch : List Nat}

section

variable (hs : s.Numbered batch) (hb : ∀ i ∈ batch, s.Searchable i)

include hb

variable (cosmology tree) in
lemma prepareBatch_course :
    prepareBatch batch s =
      ((course cosmology tree s batch 0).store, .ok (course cosmology tree s batch 0).records) ∧
    (course cosmology tree s batch 0).left = batch.length := by
  obtain ⟨t, records, hprep⟩ : ∃ t records, prepareBatch batch s = (t, .ok records) :=
    exists_prepare hb rfl _
  rw [course, hprep]
  exact ⟨rfl, rfl⟩

omit hb

lemma course_succ {n : ℕ} {t : Store α} {round : Round α (StarRecord α) (Surroundings α)}
    (h : surveyRound cosmology tree.diagonal tree (course cosmology tree s batch n).store batch
      (course cosmology tree s batch n).records = .ok (t, round)) :
    course cosmology tree s batch (n + 1) = ⟨t, round.records, round.pending.length⟩ := by
  rw [course, Course.next, h]

include hs hb

lemma tracks_course (n : ℕ) :
    Tracks cosmology tree s batch n (course cosmology tree s batch n).store
      (course cosmology tree s batch n).records ∧
    ((course cosmology tree s batch n).left = 0 ↔ AllSettled cosmology tree s batch n) := by
  induction n with
  | zero =>
    obtain ⟨hprep, hleft⟩ := prepareBatch_course cosmology tree hb
    refine ⟨(prepared_of_prepareBatch hprep).tracks hs, ?_⟩
    rw [hleft, List.length_eq_zero_iff, allSettled_zero_iff (Store.Searchable.stars hb)]
  | succ n ih =>
    obtain ⟨t, round, hround, ht, hpending⟩ := ih.1.round hs (Store.Searchable.stars hb)
    rw [course_succ hround, List.length_eq_zero_iff]
    exact ⟨ht, hpending⟩

lemma surveyRound_course (n : ℕ) :
    ∃ round, surveyRound cosmology tree.diagonal tree (course cosmology tree s batch n).store batch
        (course cosmology tree s batch n).records =
          .ok ((course cosmology tree s batch (n + 1)).store, round) ∧
      round.records = (course cosmology tree s batch (n + 1)).records ∧
      round.pending.length = (course cosmology tree s batch (n + 1)).left := by
  obtain ⟨t, round, hround, -⟩ := (tracks_course hs hb n).1.round hs (Store.Searchable.stars hb)
  rw [course_succ hround]
  exact ⟨round, hround, rfl, rfl⟩

end

section

variable (cosmology tree s batch)

/-- What a task says in a step of which it has taken part in some rounds. -/
def talk (n : ℕ) : List Call :=
  .any (!batch.isEmpty) ::
    (List.range n).map fun k => .sum (course cosmology tree s batch k).left

lemma length_talk (n : ℕ) : (talk cosmology tree s batch n).length = n + 1 := by
  rw [talk, List.length_cons, List.length_map, List.length_range]

lemma exists_sums (n : ℕ) :
    ∃ sums : List Int, sums.length = n ∧
      talk cosmology tree s batch n = .any (!batch.isEmpty) :: sums.map .sum := by
  refine ⟨(List.range n).map fun k => ((course cosmology tree s batch k).left : Int), ?_, ?_⟩
  · rw [List.length_map, List.length_range]
  · rw [talk, List.map_map]
    rfl

lemma talk_succ (n : ℕ) :
    talk cosmology tree s batch (n + 1) =
      talk cosmology tree s batch n ++ [.sum (course cosmology tree s batch n).left] := by
  rw [talk, List.range_succ, List.map_append]
  rfl

lemma getElem?_talk (n : ℕ) :
    (talk cosmology tree s batch (n + 1))[n + 1]? =
      some (.sum (course cosmology tree s batch n).left) := by
  rw [talk_succ, ← length_talk cosmology tree s batch n, List.getElem?_concat_length]

lemma getElem?_talk_any {n m : ℕ} {b : Bool}
    (h : (talk cosmology tree s batch n)[m]? = some (.any b)) : b = !batch.isEmpty := by
  cases m with
  | zero => simpa [talk, eq_comm] using h
  | succ m => simp [talk] at h

lemma getElem?_talk_sum {n m : ℕ} {x : Int}
    (h : (talk cosmology tree s batch n)[m]? = some (.sum x)) :
    x = (course cosmology tree s batch (m - 1)).left := by
  cases m with
  | zero => simp [talk] at h
  | succ m =>
    obtain ⟨k, hk, hx⟩ : ∃ k, (List.range n)[m]? = some k ∧
        ((course cosmology tree s batch k).left : Int) = x := by
      simpa [talk] using h
    obtain ⟨_, rfl⟩ := List.getElem?_eq_some_iff.mp hk
    rw [List.getElem_range] at hx
    exact hx.symm

end

section

variable (hs : s.Numbered batch) (hb : ∀ i ∈ batch, s.Searchable i)

include hs hb

/-- As long as the others have stars left, a task goes through its own rounds. -/
lemma survey_course (m : Member) {limit n : ℕ} (hn : n ≤ limit)
    (hleft : ∀ k < n, 0 < m.answers.sum (k + 1)) :
    survey cosmology tree limit batch
        ⟨s, { m with calls := talk cosmology tree s batch 0 }⟩ =
      surveyRounds cosmology tree batch (limit - n) (m.answers.sum (n + 1))
        ⟨n, (course cosmology tree s batch n).records⟩
        ⟨(course cosmology tree s batch n).store,
          { m with calls := talk cosmology tree s batch (n + 1) }⟩ := by
  induction n with
  | zero =>
    obtain ⟨hprep, hlength⟩ := prepareBatch_course cosmology tree hb
    rw [survey]
    simp only [hprep, Member.sum_eq, length_talk, ← hlength, talk_succ]
    rfl
  | succ n ih =>
    obtain ⟨round, hround, hrecords, hpending⟩ := surveyRound_course hs hb n
    have hlimit : limit - n = limit - (n + 1) + 1 := by omega
    rw [ih (Nat.le_of_succ_le hn) fun k hk => hleft k (Nat.lt_succ_of_lt hk), hlimit,
      surveyRounds_succ (hleft n (Nat.lt_succ_self n)) hround, hrecords, hpending, Member.sum_eq,
      talk_succ _ _ _ _ (n + 1), length_talk]

lemma survey_stops (m : Member) {limit n : ℕ} (hn : n ≤ limit)
    (hleft : ∀ k < n, 0 < m.answers.sum (k + 1)) (hstop : m.answers.sum (n + 1) ≤ 0) :
    survey cosmology tree limit batch
        ⟨s, { m with calls := talk cosmology tree s batch 0 }⟩ =
      (⟨(course cosmology tree s batch n).store,
          { m with calls := talk cosmology tree s batch (n + 1) }⟩,
        .ok ⟨n, (course cosmology tree s batch n).records⟩) := by
  rw [survey_course hs hb m hn hleft, surveyRounds_nobody_left hstop]

omit hs hb

variable (cosmology tree batch) in
lemma prefix_surveyRounds (limit : ℕ) (left : Int) (d : Survey α) (task : Task α Member) :
    task.comm.calls <+: (surveyRounds cosmology tree batch limit left d task).1.comm.calls := by
  induction limit generalizing left d task with
  | zero =>
    rw [surveyRounds]
    split_ifs <;> exact List.prefix_refl _
  | succ limit ih =>
    by_cases hl : left ≤ 0
    · rw [surveyRounds_nobody_left hl]
    · cases hround : surveyRound cosmology tree.diagonal tree task.store batch d.records with
      | error e =>
        rw [surveyRounds, if_neg hl]
        simp only [hround]
        exact List.prefix_refl _
      | ok out =>
        rw [surveyRounds_succ (not_le.mp hl) hround]
        have hmore := ih (Collective.sum task.comm out.2.pending.length).1
          ⟨d.rounds + 1, out.2.records⟩ ⟨out.1, (Collective.sum task.comm out.2.pending.length).2⟩
        exact (List.prefix_append _ _).trans hmore

include hs hb

lemma prefix_survey (m : Member) {limit n : ℕ} (hn : n ≤ limit)
    (hleft : ∀ k < n, 0 < m.answers.sum (k + 1)) :
    talk cosmology tree s batch (n + 1) <+: (survey cosmology tree limit batch
      ⟨s, { m with calls := talk cosmology tree s batch 0 }⟩).1.comm.calls := by
  rw [survey_course hs hb m hn hleft]
  have hmore := prefix_surveyRounds cosmology tree batch (limit - n) (m.answers.sum (n + 1))
    ⟨n, (course cosmology tree s batch n).records⟩ ⟨(course cosmology tree s batch n).store,
      { m with calls := talk cosmology tree s batch (n + 1) }⟩
  exact hmore

end

end GalacticWinds
