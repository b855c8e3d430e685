import GalacticWinds.Proofs.Wind.Step
import GalacticWinds.Proofs.Wind.Survey.Finite
import GalacticWinds.Proofs.Wind.Survey.Independence

/-! Steps that give an error: the preparation of the batch is the one place where that happens. -/

namespace GalacticWinds

open Extended

section

variable {α : Type} [Scalar α] {s t : Store α} {i : Nat} {e : Failure α}

/-- What an entry of a batch is refused for. -/
def Store.Refused (s : Store α) (i : Nat) (e : Failure α) : Prop :=
  ∃ p, s.particles[i]? = some p ∧
    ((p.species ≠ .star ∧ e = .notAStar i p.species p.id) ∨
      (p.species = .star ∧ ¬ (0 < p.hsml ∧ Scalar.isFinite p.hsml = true) ∧
        e = .invalidParameter (.smoothingLength p.id p.hsml)))

lemma Store.Refused.not_searchable (he : s.Refused i e) : ¬ s.Searchable i := by
  rintro ⟨q, hq, hk, hstart⟩
  obtain ⟨p, hp, ⟨hne, -⟩ | ⟨-, hnot, -⟩⟩ := he
  · obtain rfl := Option.some.inj (hq.symm.trans hp)
    exact hne hk
  · obtain rfl := Option.some.inj (hq.symm.trans hp)
    exact hnot hstart

lemma Store.searchable_or_refused (hi : i < s.size) : s.Searchable i ∨ ∃ e, s.Refused i e := by
  have hp := Array.getElem?_eq_getElem hi
  by_cases hk : (s.particles[i]).species = .star
  · by_cases hstart : 0 < (s.particles[i]).hsml ∧ Scalar.isFinite (s.particles[i]).hsml = true
    · exact .inl ⟨_, hp, hk, hstart⟩
    · exact .inr ⟨_, _, hp, .inr ⟨hk, hstart, rfl⟩⟩
  · exact .inr ⟨_, _, hp, .inl ⟨hk, rfl⟩⟩

lemma Store.exists_first_refused {batch : List Nat} (hb : ∀ i ∈ batch, i < s.size) :
    (∀ i ∈ batch, s.Searchable i) ∨
      ∃ pre i post e, batch = pre ++ i :: post ∧ (∀ j ∈ pre, s.Searchable j) ∧ s.Refused i e :=
  exists_first fun i hi => searchable_or_refused (hb i hi)

lemma Store.Refused.of_unmarked (he : s.Refused i e) (ht : t.unmarked = s.unmarked) :
    t.Refused i e := by
  obtain ⟨p, hp, hwhy⟩ := he
  obtain ⟨b, hq⟩ := exists_of_unmarked ht hp
  exact ⟨p.marked b, hq, hwhy⟩

lemma Store.Refused.searchStart (he : s.Refused i e) :
    (Target.at? s.particles i >>= Target.searchStart) = .error e := by
  obtain ⟨p, hp, hwhy⟩ := he
  rw [Target.at?, hp]
  simp only [bind, Except.bind, Target.searchStart, Target.starSlot]
  rcases hwhy with ⟨hk, rfl⟩ | ⟨hk, hstart, rfl⟩
  · rw [if_neg hk]
  · rw [if_pos hk]
    exact if_neg hstart

lemma prepare_refused {pre : List Nat} (hpre : ∀ j ∈ pre, s.Searchable j) (he : s.Refused i e)
    (post : List Nat) (ht : t.unmarked = s.unmarked) (records : List (StarRecord α)) :
    prepare (pre ++ i :: post) t records =
      (pre.foldl (fun t j => t.mark false j) t, .error e) := by
  induction pre generalizing t records with
  | nil =>
    rw [List.nil_append, prepare, (he.of_unmarked ht).searchStart]
    rfl
  | cons j pre ih =>
    obtain ⟨start, hstart⟩ := (hpre j List.mem_cons_self).exists_start ht
    rw [List.cons_append, prepare]
    simp only [hstart]
    rw [List.foldl_cons]
    exact ih (fun k hk => hpre k (List.mem_cons_of_mem j hk)) (by rw [Store.unmarked_mark, ht]) _

lemma survey_refused {C : Type} [Collective C] (cosmology : Cosmology α) (tree : Octree α)
    (limit : Nat) {pre : List Nat} (hpre : ∀ j ∈ pre, s.Searchable j) (he : s.Refused i e)
    (post : List Nat) (c : C) :
    survey cosmology tree limit (pre ++ i :: post) ⟨s, c⟩ =
      (⟨pre.foldl (fun t j => t.mark false j) s, c⟩, .error e) := by
  rw [survey, prepareBatch, prepare_refused hpre he post rfl]

end

namespace Setting

variable {α C : Type} [Transcendental α] [Collective C] {setting : Setting α} {s : Store α}

lemma step_refused (hsub : setting.model.subgrid = false) {c : SingleTask} {limit : Nat}
    {pre : List Nat} (hpre : ∀ j ∈ pre, s.Searchable j) {i : Nat} {e : Failure α}
    (he : s.Refused i e) (post : List Nat) :
    setting.step limit (pre ++ i :: post) ⟨s, c⟩ =
      (⟨pre.foldl (fun t j => t.mark false j) s, c⟩, .error e) := by
  have hany : Collective.any c (!(pre ++ i :: post).isEmpty) = (true, c) := by
    simp [Collective.any]
  exact step_fault hsub hany (survey_refused setting.cosmology setting.tree limit hpre he post c)

lemma exists_step (hsub : setting.model.subgrid = false) (hs : s.Slotted) {batch : List Nat}
    (hb : ∀ i ∈ batch, s.Searchable i) {limit : ℕ}
    (hall : AllSettled setting.cosmology setting.tree s batch limit) (c : SingleTask) :
    ∃ task report, setting.step limit batch ⟨s, c⟩ = (task, .ok report) := by
  cases hempty : batch.isEmpty with
  | true =>
    have hany : Collective.any c (!batch.isEmpty) = (false, c) := by rw [hempty]; rfl
    exact ⟨_, _, step_nobody hsub hany⟩
  | false =>
    have hany : Collective.any c (!batch.isEmpty) = (true, c) := by rw [hempty]; rfl
    obtain ⟨task, d, h⟩ := survey_returns (hs.numbered (Store.Searchable.stars hb)) hb hall c
    obtain ⟨t, n, hkicks⟩ := exists_kickAll setting (recorded_of_survey hs h)
    have hstep := step_kicks hsub hany h
    rw [hkicks] at hstep
    exact ⟨_, _, hstep⟩

/-- A step gives an error just when there are winds to be made and an entry of the batch cannot be
looked for. The error is that of the first such entry, it comes before any gas is touched, and none
is possible later. The stars before that entry have been prepared, each in a slot that there is. -/
theorem step_fails_iff (model : Model Extended) (cosmology : Cosmology Extended)
    (random : RandomSource Extended) {s : Store Extended} (hs : s.Filled) (hplaced : s.Placed)
    {batch : List Nat} (hb : ∀ i ∈ batch, i < s.size) (c : SingleTask) :
    let setting : Setting Extended := ⟨model, cosmology, random, .build s.particles⟩
    ∃ rounds, ∀ limit ≥ rounds,
      ((∃ task e, setting.step limit batch ⟨s, c⟩ = (task, .error e)) ↔
        model.subgrid = false ∧ ∃ i ∈ batch, ¬ s.Searchable i) ∧
      (∀ task e, setting.step limit batch ⟨s, c⟩ = (task, .error e) →
        ∃ pre i post, batch = pre ++ i :: post ∧ (∀ j ∈ pre, s.Searchable j) ∧
          (∀ j ∈ pre, ∀ p, s.particles[j]? = some p → p.slot < s.starCount) ∧ s.Refused i e ∧
          task.store.gasStates = s.gasStates ∧ task.store.starCount = s.starCount ∧
          task.store.size = s.size ∧
          ∀ j p, s.particles[j]? = some p →
            task.store.particles[j]? =
              some (if j ∈ pre then { p with converged := false } else p)) ∧
      ∀ task d, survey cosmology (.build s.particles) limit batch ⟨s, c⟩ = (task, .ok d) →
        task.store.Recorded d.records batch ∧
        ∃ t n, setting.kickAll d.records batch task.store = (t, .ok n) := by
  intro setting
  refine ⟨batch.toFinset.sup (roundsAlone cosmology (.build s.particles) s), fun limit hle => ?_⟩
  have hkicks : ∀ task d,
      survey cosmology (.build s.particles) limit batch ⟨s, c⟩ = (task, .ok d) →
        task.store.Recorded d.records batch ∧
        ∃ t n, setting.kickAll d.records batch task.store = (t, .ok n) := by
    intro task d h
    have hrecorded := recorded_of_survey hs.slotted h
    obtain ⟨t, n, hall⟩ := exists_kickAll setting hrecorded
    exact ⟨hrecorded, t, n, hall⟩
  by_cases hfault : model.subgrid = false ∧ ∃ i ∈ batch, ¬ s.Searchable i
  · obtain ⟨hsub, k, hk, hnot⟩ := hfault
    rcases Store.exists_first_refused hb with hall | ⟨pre, i, post, e, rfl, hpre, he⟩
    · exact absurd (hall k hk) hnot
    · have hstep : setting.step limit (pre ++ i :: post) ⟨s, c⟩ = _ :=
        step_refused hsub hpre he post
      have hmarks := s.unmarked_foldl_mark false pre
      have hsize := congrArg Store.size hmarks
      simp only [Store.size, Store.unmarked, Array.size_map] at hsize
      rw [hstep]
      refine ⟨⟨fun _ => ⟨hsub, k, hk, hnot⟩, fun _ => ⟨_, e, rfl⟩⟩, ?_, hkicks⟩
      rintro task e' h
      obtain ⟨rfl, rfl⟩ : _ = task ∧ e = e' := by simpa using h
      have hlt := (hs.slotted.numbered (Store.Searchable.stars hpre)).lt
      refine ⟨pre, i, post, rfl, hpre, hlt, he, congrArg (·.gasStates) hmarks,
        congrArg (·.starCount) hmarks, hsize, fun j p hp => ?_⟩
      rw [Store.getElem?_foldl_mark, hp]
      rfl
  · obtain ⟨task, report, hstep⟩ : ∃ task report,
        setting.step limit batch ⟨s, c⟩ = (task, .ok report) := by
      cases hsub : model.subgrid with
      | true => exact ⟨_, _, step_subgrid hsub⟩
      | false =>
        have hall : ∀ i ∈ batch, s.Searchable i := by
          by_contra hnot
          exact hfault ⟨hsub, by simpa using hnot⟩
        have hsettled : ∀ i ∈ batch, ∃ n, AllSettled cosmology (.build s.particles) s [i] n :=
          fun i hi => exists_settled_of_finite hplaced (hall i hi)
        exact exists_step hsub hs.slotted hall ((allSettled_iff_sup_le hsettled).mpr hle) c
    rw [hstep]
    refine ⟨⟨?_, fun h => absurd h hfault⟩, ?_, hkicks⟩
    · rintro ⟨task', e, h⟩
      exact absurd (congrArg Prod.snd h) (by simp)
    · intro task' e h
      exact absurd (congrArg Prod.snd h) (by simp)

noncomputable def coldWind : Model Extended :=
  ⟨.fixedEfficiency, false, true, 1, 1, 1, 0, 0, 1, 1, 1⟩

/-- A star that can be looked for and one that cannot. -/
noncomputable def boundlessPair : Store Extended :=
  (Store.empty.addStar 1 1 0 0 1).addStar 2 1 0 0 (infinite true)

theorem step_fails_boundlessPair :
    ∃ limit task, step ⟨coldWind, .still, .const 0, .build boundlessPair.particles⟩ limit [0, 1]
        ⟨boundlessPair, SingleTask.mk⟩ =
      (task, .error (.invalidParameter (.smoothingLength 2 (infinite true)))) ∧
      task.store.gasStates = boundlessPair.gasStates := by
  have hs : boundlessPair.Filled :=
    (Store.Filled.empty.addStar 1 1 0 0 1).addStar 2 1 0 0 (infinite true)
  have hplaced : boundlessPair.Placed := by
    intro p hp
    obtain rfl | rfl : p = _ ∨ p = _ := by
      simpa [boundlessPair, Store.addStar, Store.push, Store.empty, Particle.new] using hp
    · rfl
    · rfl
  have hb : ∀ i ∈ [0, 1], i < boundlessPair.size := by decide
  have hgood : boundlessPair.Searchable 0 := ⟨_, rfl, rfl, real_lt.mpr one_pos, rfl⟩
  have hbad : ∀ e, boundlessPair.Refused 1 e →
      e = .invalidParameter (.smoothingLength 2 (infinite true)) := by
    rintro e ⟨p, hp, hwhy⟩
    obtain rfl := Option.some.inj hp
    rcases hwhy with ⟨hk, -⟩ | ⟨-, -, he⟩
    · exact absurd rfl hk
    · exact he
  have hrefused : ¬ boundlessPair.Searchable 1 := by
    rintro ⟨p, hp, -, -, hfin⟩
    obtain rfl := Option.some.inj hp
    exact Bool.noConfusion hfin
  obtain ⟨limit, h⟩ := step_fails_iff coldWind .still (.const 0) hs hplaced hb SingleTask.mk
  obtain ⟨hiff, hwhy, -⟩ := h limit le_rfl
  obtain ⟨task, e, hstep⟩ := hiff.mpr ⟨rfl, 1, by simp, hrefused⟩
  obtain ⟨pre, i, post, hsplit, hpre, -, he, hgas, -⟩ := hwhy task e hstep
  have hi : i = 1 := by
    cases pre with
    | nil =>
      obtain ⟨rfl, -⟩ := List.cons.inj hsplit
      exact absurd hgood he.not_searchable
    | cons j pre =>
      obtain ⟨-, hrest⟩ := List.cons.inj hsplit
      cases pre with
      | nil => exact (List.cons.inj hrest).1.symm
      | cons k pre => exact absurd (List.cons.inj hrest).2 (by simp)
  subst hi
  exact ⟨limit, task, by rw [hstep, hbad e he], hgas⟩

end Setting

end GalacticWinds
