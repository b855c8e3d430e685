import GalacticWinds.Proofs.Wind.Survey.Termination

/-! A star fares in a survey as it would by itself, whatever the batch around it. -/

namespace GalacticWinds

lemma Store.Numbered.of_unmarked {α : Type} {s t : Store α} {batch : List Nat}
    (hs : s.Numbered batch) (h : t.unmarked = s.unmarked) : t.Numbered batch where
  lt i hi p hp := by
    obtain ⟨b, hq⟩ := exists_of_unmarked h.symm hp
    have hcount : t.unmarked.starCount = s.unmarked.starCount := congrArg Store.starCount h
    exact (hs.lt i hi (p.marked b) hq).trans_eq hcount.symm
  own i hi j hj p q hp hq hslot := by
    obtain ⟨b, hp'⟩ := exists_of_unmarked h.symm hp
    obtain ⟨b', hq'⟩ := exists_of_unmarked h.symm hq
    exact hs.own i hi j hj (p.marked b) (q.marked b') hp' hq' hslot

variable {α : Type} [Scalar α] {cosmology : Cosmology α} {tree : Octree α} {s t : Store α}
  {batch : List Nat}

lemma alone_congr (h : t.unmarked = s.unmarked) (p : Particle α) (b : Bool) (n : ℕ) :
    alone cosmology tree t (p.marked b) n = alone cosmology tree s p n := by
  induction n with
  | zero => rfl
  | succ n ih =>
    have hlook : lookAround cosmology tree t (p.marked b) (alone cosmology tree s p n).1 =
        lookAround cosmology tree s p (alone cosmology tree s p n).1 :=
      congrArg (StarRecord.merge .replace _) (gather_congr cosmology tree.diagonal tree h p b _)
    rw [alone, alone, ih, hlook]

lemma allSettled_iff {n : ℕ} :
    AllSettled cosmology tree s batch n ↔ ∀ i ∈ batch, AllSettled cosmology tree s [i] n := by
  simp only [AllSettled, List.mem_singleton, forall_eq]

variable (cosmology tree s) in
noncomputable def roundsAlone (i : Nat) : ℕ :=
  sInf {n | AllSettled cosmology tree s [i] n}

lemma settled_roundsAlone {i : Nat} {n : ℕ} (h : AllSettled cosmology tree s [i] n) :
    AllSettled cosmology tree s [i] (roundsAlone cosmology tree s i) := by
  have hmem : roundsAlone cosmology tree s i ∈ {n | AllSettled cosmology tree s [i] n} :=
    Nat.sInf_mem ⟨n, h⟩
  exact hmem

lemma roundsAlone_eq {i : Nat} {n : ℕ} (hall : AllSettled cosmology tree s [i] n)
    (hfirst : ∀ m < n, ¬ AllSettled cosmology tree s [i] m) :
    roundsAlone cosmology tree s i = n := by
  apply le_antisymm
  · exact Nat.sInf_le hall
  · by_contra hlt
    exact hfirst _ (not_le.mp hlt) (settled_roundsAlone hall)

lemma allSettled_iff_sup_le (hb : ∀ i ∈ batch, ∃ n, AllSettled cosmology tree s [i] n) {n : ℕ} :
    AllSettled cosmology tree s batch n ↔
      batch.toFinset.sup (roundsAlone cosmology tree s) ≤ n := by
  rw [allSettled_iff, Finset.sup_le_iff]
  constructor
  · intro hall i hi
    exact Nat.sInf_le (hall i (List.mem_toFinset.mp hi))
  · intro hle i hi
    obtain ⟨m, hm⟩ := hb i hi
    exact (settled_roundsAlone hm).of_le (hle i (List.mem_toFinset.mpr hi))

lemma rounds_eq_sup {n : ℕ} (hall : AllSettled cosmology tree s batch n)
    (hfirst : ∀ m < n, ¬ AllSettled cosmology tree s batch m) :
    n = batch.toFinset.sup (roundsAlone cosmology tree s) := by
  have hiff : ∀ {m}, AllSettled cosmology tree s batch m ↔
      batch.toFinset.sup (roundsAlone cosmology tree s) ≤ m :=
    allSettled_iff_sup_le fun i hi => ⟨n, allSettled_iff.mp hall i hi⟩
  apply le_antisymm
  · by_contra hlt
    exact hfirst _ (not_le.mp hlt) (hiff.mpr le_rfl)
  · exact hiff.mp hall

section

variable {limit : Nat} {c : SingleTask} {d : Survey α} {task : Task α SingleTask}

lemma survey_alone (hs : s.Numbered batch)
    (h : survey cosmology tree limit batch ⟨s, c⟩ = (task, .ok d)) {i : Nat} (hi : i ∈ batch) :
    ∃ own solo, survey cosmology tree limit [i] ⟨s, c⟩ = (own, .ok solo) ∧
      solo.rounds = roundsAlone cosmology tree s i ∧
      ∀ p, s.particles[i]? = some p → solo.records[p.slot]? = d.records[p.slot]? := by
  obtain ⟨ht, hall, -⟩ := survey_tracks hs h
  have hsettled := (allSettled_iff.mp hall) i hi
  have hsub : [i] ⊆ batch := by simpa using hi
  have hn := hs.mono hsub
  have hb : ∀ j ∈ [i], s.Searchable j := fun j hj => searchable_of_survey h j (hsub hj)
  obtain ⟨own, solo, hsolo⟩ := survey_returns hn hb (hsettled.of_le (rounds_le_of_survey h)) c
  obtain ⟨hown, hlast, hfirst⟩ := survey_tracks hn hsolo
  have hrounds := roundsAlone_eq hlast hfirst
  refine ⟨own, solo, hsolo, hrounds.symm, fun p hp => ?_⟩
  have hle : solo.rounds ≤ d.rounds := hrounds ▸ Nat.sInf_le hsettled
  rw [hown.record i List.mem_cons_self p hp, ht.record i hi p hp,
    alone_of_le hle (hlast i List.mem_cons_self p hp)]

lemma survey_agree (hs : s.Numbered batch) {batch' : List Nat} (hs' : s.Numbered batch')
    (hmarks : t.unmarked = s.unmarked) {limit' : Nat} {c' : SingleTask} {d' : Survey α}
    {task' : Task α SingleTask}
    (h : survey cosmology tree limit batch ⟨s, c⟩ = (task, .ok d))
    (h' : survey cosmology tree limit' batch' ⟨t, c'⟩ = (task', .ok d')) {i : Nat}
    (hi : i ∈ batch) (hi' : i ∈ batch') {p : Particle α} (hp : s.particles[i]? = some p) :
    ∃ r, d.records[p.slot]? = some r ∧ d'.records[p.slot]? = some r := by
  obtain ⟨ht, hall, -⟩ := survey_tracks hs h
  obtain ⟨ht', hall', -⟩ := survey_tracks (hs'.of_unmarked hmarks) h'
  obtain ⟨b, hq⟩ := Store.exists_of_unmarked hmarks hp
  have hr := ht.record i hi p hp
  have hr' := ht'.record i hi' _ hq
  have hsettled := hall i hi p hp
  have hsettled' := hall' i hi' _ hq
  rw [alone_congr hmarks] at hr' hsettled'
  rw [alone_eq_of_settled hsettled' hsettled] at hr'
  exact ⟨_, hr, hr'⟩

lemma Tracks.getElem?_particles {n : ℕ} {records : List (StarRecord α)}
    (ht : Tracks cosmology tree s batch n t records)
    (hall : AllSettled cosmology tree s batch n) {i : Nat} {p : Particle α}
    (hp : s.particles[i]? = some p) :
    t.particles[i]? = some (if i ∈ batch then { p with converged := true } else p) := by
  split_ifs with hi
  · rw [ht.mark i hi p hp, hall i hi p hp]
    rfl
  · rw [ht.other i hi, hp]

lemma Tracks.eq_of_settled {m n : ℕ} {t' : Store α} {records records' : List (StarRecord α)}
    (ht : Tracks cosmology tree s batch m t records)
    (ht' : Tracks cosmology tree s batch n t' records')
    (hall : AllSettled cosmology tree s batch m) (hall' : AllSettled cosmology tree s batch n) :
    t = t' ∧ records = records' := by
  have hmarks : t.unmarked = t'.unmarked := ht.store.trans ht'.store.symm
  constructor
  · refine Store.eq_of_getElem? (fun i => ?_) (fun k => ?_) (congrArg (·.starCount) hmarks)
    · cases hp : s.particles[i]? with
      | some p => rw [ht.getElem?_particles hall hp, ht'.getElem?_particles hall' hp]
      | none =>
        rw [Store.getElem?_eq_none_of_unmarked ht.store hp,
          Store.getElem?_eq_none_of_unmarked ht'.store hp]
    · have hgas : t.gasStates = t'.gasStates := congrArg (·.gasStates) hmarks
      rw [hgas]
  · apply List.ext_getElem (ht.length.trans ht'.length.symm)
    intro k hk hk'
    apply Option.some.inj
    rw [← List.getElem?_eq_getElem hk, ← List.getElem?_eq_getElem hk']
    by_cases hfree : ∀ i ∈ batch, ∀ p, s.particles[i]? = some p → p.slot ≠ k
    · have hlt : k < s.starCount := ht.length ▸ hk
      rw [ht.blank k hlt hfree, ht'.blank k hlt hfree]
    · push Not at hfree
      obtain ⟨i, hi, p, hp, rfl⟩ := hfree
      rw [ht.record i hi p hp, ht'.record i hi p hp,
        alone_eq_of_settled (hall i hi p hp) (hall' i hi p hp)]

end

/-- The record of a star depends on the star and the store alone: it is the same in every batch,
and a batch takes as many rounds as the slowest of its stars. Stars outside the batch have blank
records, and only the marks of those in it change. -/
theorem survey_independent (cosmology : Cosmology α) (tree : Octree α) {s s' : Store α}
    (hs : s.Filled) (hmarks : s'.unmarked = s.unmarked) {limit limit' : Nat}
    {batch batch' : List Nat} {c c' : SingleTask} {task task' : Task α SingleTask}
    {d d' : Survey α}
    (h : survey cosmology tree limit batch ⟨s, c⟩ = (task, .ok d))
    (h' : survey cosmology tree limit' batch' ⟨s', c'⟩ = (task', .ok d')) :
    (∀ i ∈ batch, i ∈ batch' → ∀ p, s.particles[i]? = some p →
      ∃ r, d.records[p.slot]? = some r ∧ d'.records[p.slot]? = some r) ∧
    (∃ rounds : Nat → Nat, d.rounds = batch.toFinset.sup rounds ∧
      ∀ i ∈ batch, ∃ own solo, survey cosmology tree limit [i] ⟨s, c⟩ = (own, .ok solo) ∧
        solo.rounds = rounds i ∧
        ∀ p, s.particles[i]? = some p → solo.records[p.slot]? = d.records[p.slot]?) ∧
    d.records.length = s.starCount ∧
    (∀ i ∉ batch, ∀ p, s.particles[i]? = some p → p.species = .star →
      d.records[p.slot]? = some .blank) ∧
    task.store.gasStates = s.gasStates ∧ task.store.starCount = s.starCount ∧
    task.store.size = s.size ∧
    ∀ i p, s.particles[i]? = some p →
      task.store.particles[i]? = some (if i ∈ batch then { p with converged := true } else p) := by
  have hslot := hs.slotted
  have hn := numbered_of_survey hslot h
  have hn' : s.Numbered batch' := by
    refine hslot.numbered fun i hi => ?_
    obtain ⟨q, hq, hk, -⟩ := searchable_of_survey h' i hi
    obtain ⟨b, hp⟩ := Store.exists_of_unmarked hmarks.symm hq
    exact ⟨_, hp, hk⟩
  obtain ⟨ht, hall, hfirst⟩ := survey_tracks hn h
  have hstars := Store.Searchable.stars (searchable_of_survey h)
  have hgas : task.store.unmarked.gasStates = s.unmarked.gasStates :=
    congrArg Store.gasStates ht.store
  have hcount : task.store.unmarked.starCount = s.unmarked.starCount :=
    congrArg Store.starCount ht.store
  have hsize : task.store.size = s.size := by
    have hsize := congrArg Store.size ht.store
    simpa only [Store.size, Store.unmarked, Array.size_map] using hsize
  refine ⟨fun i hi hi' p hp => survey_agree hn hn' hmarks h h' hi hi' hp,
    ⟨_, rounds_eq_sup hall hfirst, fun i hi => survey_alone hn h hi⟩, ht.length, ?_,
    hgas, hcount, hsize, fun i p hp => ht.getElem?_particles hall hp⟩
  intro i hi p hp hk
  refine ht.blank _ (hslot.star_slot_lt hp hk) fun j hj q hq he => ?_
  exact hi (hslot.star_eq hp hq hk (hstars.star hj hq) he.symm ▸ hj)

lemma companions.roundsAlone_first :
    roundsAlone .still (.build companions.particles) companions 0 = 3 := by
  refine roundsAlone_eq ?_ fun m hm => not_allSettled (by simp) hm
  exact allSettled_iff.mp allSettled 0 (by simp)

lemma companions.roundsAlone_second :
    roundsAlone .still (.build companions.particles) companions 1 = 1 := by
  refine roundsAlone_eq ?_ fun m hm hall => ?_
  · intro i hi p hp
    obtain rfl := List.mem_singleton.mp hi
    obtain rfl := Option.some.inj (hp.symm.trans star_second)
    exact alone_second
  · obtain rfl := Nat.lt_one_iff.mp hm
    exact absurd (hall 1 (by simp) _ star_second) (by simp [alone])

/-- A star that settles at once has the same record whether or not another one goes on. -/
theorem survey_independent_companions :
    ∃ task task' d d',
      survey .still (.build companions.particles) 3 [0, 1] ⟨companions, SingleTask.mk⟩ =
        (task, .ok d) ∧
      survey .still (.build companions.particles) 3 [1, 1] ⟨companions, SingleTask.mk⟩ =
        (task', .ok d') ∧
      d.rounds = 3 ∧ d'.rounds = 1 ∧
      ∃ r, d.records[1]? = some r ∧ d'.records[1]? = some r := by
  have hsub : [1, 1] ⊆ [0, 1] := by simp
  obtain ⟨task, d, h⟩ := companions.exists_survey (List.Subset.refl _)
  obtain ⟨task', d', h'⟩ := companions.exists_survey hsub
  obtain ⟨hagree, -⟩ := survey_independent .still (.build companions.particles) companions.filled
    rfl h h'
  have hrounds {batch task d} (h : survey .still (.build companions.particles) 3 batch
      ⟨companions, SingleTask.mk⟩ = (task, .ok d)) : d.rounds = batch.toFinset.sup
        (roundsAlone .still (.build companions.particles) companions) := by
    obtain ⟨-, hall, hfirst⟩ := survey_tracks (numbered_of_survey companions.filled.slotted h) h
    exact rounds_eq_sup hall hfirst
  refine ⟨task, task', d, d', h, h', ?_, ?_, hagree 1 (by simp) (by simp) _
    companions.star_second⟩
  · rw [hrounds h]
    simp [companions.roundsAlone_first, companions.roundsAlone_second]
  · rw [hrounds h']
    simp [companions.roundsAlone_second]

end GalacticWinds
