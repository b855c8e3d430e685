import GalacticWinds.Walk.Basic
import Mathlib.Tactic

/-! A round of a walk in which no target is at fault: which target each record is settled for, and
what becomes of it. -/

namespace GalacticWinds

lemma mapM_eq_map {ε β γ : Type} {f : β → Except ε γ} {g : β → γ} {xs : List β}
    (h : ∀ x ∈ xs, f x = .ok (g x)) : xs.mapM f = .ok (xs.map g) := by
  induction xs with
  | nil => rfl
  | cons x xs ih =>
    rw [List.mapM_cons, h x List.mem_cons_self, ih fun y hy => h y (List.mem_cons_of_mem x hy)]
    rfl

lemma exists_of_mapM_ok {ε β γ : Type} {f : β → Except ε γ} {xs : List β} {ys : List γ}
    (h : xs.mapM f = .ok ys) : ∀ x ∈ xs, ∃ y ∈ ys, f x = .ok y := by
  induction xs generalizing ys with
  | nil => simp
  | cons x xs ih =>
    rw [List.mapM_cons] at h
    cases hx : f x with
    | error e => simp [hx, bind, Except.bind] at h
    | ok y =>
      cases hxs : xs.mapM f with
      | error e => simp [hx, hxs, bind, Except.bind] at h
      | ok zs =>
        obtain rfl : y :: zs = ys := by
          simpa [hx, hxs, bind, Except.bind, pure, Except.pure] using h
        intro x' hx'
        rcases List.mem_cons.mp hx' with rfl | hx'
        · exact ⟨y, List.mem_cons_self, hx⟩
        · obtain ⟨z, hz, hf⟩ := ih hxs x' hx'
          exact ⟨z, List.mem_cons_of_mem y hz, hf⟩

lemma exists_first {β ε : Type} {good : β → Prop} {fault : β → ε → Prop} {xs : List β}
    (h : ∀ x ∈ xs, good x ∨ ∃ e, fault x e) :
    (∀ x ∈ xs, good x) ∨ ∃ pre x post e, xs = pre ++ x :: post ∧ (∀ y ∈ pre, good y) ∧
      fault x e := by
  induction xs with
  | nil => exact .inl (by simp)
  | cons x xs ih =>
    rcases h x List.mem_cons_self with hx | ⟨e, he⟩
    · rcases ih fun y hy => h y (List.mem_cons_of_mem x hy) with hall | ⟨pre, y, post, e, hy⟩
      · exact .inl (List.forall_mem_cons.mpr ⟨hx, hall⟩)
      · obtain ⟨rfl, hpre, he⟩ := hy
        exact .inr ⟨x :: pre, y, post, e, rfl, List.forall_mem_cons.mpr ⟨hx, hpre⟩, he⟩
    · exact .inr ⟨[], x, xs, e, rfl, by simp, he⟩

lemma Target.at?_eq_ok_iff {α : Type} {particles : Array (Particle α)} {i : Nat} {t : Target α} :
    Target.at? particles i = .ok t ↔ particles[i]? = some t.particle ∧ t.index = i := by
  obtain ⟨j, q⟩ := t
  rw [Target.at?]
  cases particles[i]? with
  | none => simp
  | some p => simp [and_comm, eq_comm]

lemma Target.mapM_at?_eq_ok {α : Type} {particles : Array (Particle α)} {targets : List Nat}
    (h : ∀ i ∈ targets, ∃ p, particles[i]? = some p) :
    ∃ ts, targets.mapM (Target.at? particles) = .ok ts ∧ ts.map (·.index) = targets ∧
      ∀ t ∈ ts, particles[t.index]? = some t.particle := by
  induction targets with
  | nil => exact ⟨[], rfl, rfl, by simp⟩
  | cons i targets ih =>
    obtain ⟨p, hp⟩ := h i List.mem_cons_self
    obtain ⟨ts, hts, hindex, hat⟩ := ih fun j hj => h j (List.mem_cons_of_mem i hj)
    have hi : Target.at? particles i = .ok ⟨i, p⟩ := Target.at?_eq_ok_iff.mpr ⟨hp, rfl⟩
    refine ⟨⟨i, p⟩ :: ts, ?_, by rw [List.map_cons, hindex], ?_⟩
    · rw [List.mapM_cons, hi, hts]
      rfl
    · intro t ht
      rcases List.mem_cons.mp ht with rfl | ht
      · exact hp
      · exact hat t ht

section

variable {α σ : Type}

lemma latest_concat (visits : List (Visit α σ)) (v : Visit α σ) (slot : Nat) :
    latest (visits ++ [v]) slot = if v.slot = slot then some v else latest visits slot := by
  rw [latest, List.foldl_append]
  rfl

lemma latest_eq_none {visits : List (Visit α σ)} {slot : Nat} (h : ∀ v ∈ visits, v.slot ≠ slot) :
    latest visits slot = none := by
  induction visits using List.reverseRecOn with
  | nil => rfl
  | append_singleton visits v ih =>
    rw [latest_concat, if_neg (h v (by simp))]
    exact ih fun u hu => h u (List.mem_append_left _ hu)

lemma latest_mem {visits : List (Visit α σ)} {slot : Nat} {v : Visit α σ}
    (h : latest visits slot = some v) : v ∈ visits ∧ v.slot = slot := by
  induction visits using List.reverseRecOn with
  | nil => exact absurd h (by simp [latest])
  | append_singleton visits u ih =>
    rw [latest_concat] at h
    split_ifs at h with hu
    · obtain rfl := Option.some.inj h
      exact ⟨by simp, hu⟩
    · exact ⟨List.mem_append_left _ (ih h).1, (ih h).2⟩

lemma latest_eq_some {visits : List (Visit α σ)} {v : Visit α σ} (hv : v ∈ visits)
    (h : ∀ u ∈ visits, u.slot = v.slot → u = v) : latest visits v.slot = some v := by
  cases hl : latest visits v.slot with
  | none =>
    induction visits using List.reverseRecOn with
    | nil => exact absurd hv List.not_mem_nil
    | append_singleton visits u ih =>
      rw [latest_concat] at hl
      split_ifs at hl with hu
      rcases List.mem_append.mp hv with hv | hv
      · exact ih hv (fun w hw => h w (List.mem_append_left _ hw)) hl
      · exact absurd (congrArg Visit.slot (List.mem_singleton.mp hv).symm) hu
  | some u =>
    obtain ⟨hu, hs⟩ := latest_mem hl
    rw [h u hu hs]

end

namespace Walk

section

variable {α ρ κ σ : Type} (w : Walk α ρ κ σ) (fin : Target α → ρ → ρ × Bool)
  (visits : List (Visit α σ))

def outcome (record : ρ) (slot : Nat) : ρ × Option (Nat × Bool) :=
  match latest visits slot with
  | none => (record, none)
  | some v =>
    let settled := fin v.target (w.reduce .replace record v.result)
    (settled.1, some (v.target.index, settled.2))

def completed (records : List ρ) : Round α ρ σ :=
  let outcomes := records.zipIdx.map fun (r, slot) => w.outcome fin visits r slot
  let marks := outcomes.filterMap (·.2)
  ⟨visits, outcomes.map (·.1), (marks.filter (·.2)).map (·.1), (marks.filter (!·.2)).map (·.1)⟩

variable {w fin visits}

lemma outcome_of_none (record : ρ) {slot : Nat} (h : latest visits slot = none) :
    w.outcome fin visits record slot = (record, none) := by
  rw [outcome, h]

lemma outcome_of_some (record : ρ) {slot : Nat} {v : Visit α σ} (h : latest visits slot = some v) :
    w.outcome fin visits record slot =
      ((fin v.target (w.reduce .replace record v.result)).1,
        some (v.target.index, (fin v.target (w.reduce .replace record v.result)).2)) := by
  rw [outcome, h]

lemma exists_of_outcome {record : ρ} {slot i : Nat} {b : Bool}
    (h : (w.outcome fin visits record slot).2 = some (i, b)) :
    ∃ v ∈ visits, v.slot = slot ∧ v.target.index = i := by
  cases hl : latest visits slot with
  | none =>
    rw [outcome_of_none record hl] at h
    exact absurd h (by simp)
  | some v =>
    rw [outcome_of_some record hl] at h
    obtain ⟨hv, hs⟩ := latest_mem hl
    exact ⟨v, hv, hs, congrArg Prod.fst (Option.some.inj h)⟩

lemma getElem?_completed (records : List ρ) (slot : Nat) :
    (w.completed fin visits records).records[slot]? =
      records[slot]?.map fun r => (w.outcome fin visits r slot).1 := by
  simp [completed, Function.comp_def]

lemma length_completed (records : List ρ) :
    (w.completed fin visits records).records.length = records.length := by
  simp [completed]

lemma mem_marks_iff {records : List ρ} {m : Nat × Bool} :
    m ∈ (records.zipIdx.map fun (r, slot) => w.outcome fin visits r slot).filterMap (·.2) ↔
      ∃ (slot : Nat) (r : ρ), records[slot]? = some r ∧
        (w.outcome fin visits r slot).2 = some m := by
  simp only [List.mem_filterMap, List.mem_map, Prod.exists, List.mem_zipIdx_iff_getElem?]
  constructor
  · rintro ⟨r, mark, ⟨r', slot, hr, ho⟩, rfl⟩
    exact ⟨slot, r', hr, by rw [ho]⟩
  · rintro ⟨slot, r, hr, ho⟩
    exact ⟨_, _, ⟨r, slot, hr, rfl⟩, ho⟩

lemma mem_pending_iff {records : List ρ} {i : Nat} :
    i ∈ (w.completed fin visits records).pending ↔
      ∃ (slot : Nat) (r : ρ), records[slot]? = some r ∧
        (w.outcome fin visits r slot).2 = some (i, true) := by
  rw [← mem_marks_iff]
  simp [completed]

lemma mem_settled_iff {records : List ρ} {i : Nat} :
    i ∈ (w.completed fin visits records).settled ↔
      ∃ (slot : Nat) (r : ρ), records[slot]? = some r ∧
        (w.outcome fin visits r slot).2 = some (i, false) := by
  rw [← mem_marks_iff]
  simp [completed]

lemma settle_eq_ok (hf : ∀ v ∈ visits, ∀ r, w.finish v.target r = .ok (fin v.target r))
    (record : ρ) (slot : Nat) :
    w.settle visits record slot = .ok (w.outcome fin visits record slot) := by
  rw [settle, outcome]
  cases h : latest visits slot with
  | none => rfl
  | some v =>
    simp only [hf v (latest_mem h).1]
    rfl

variable (w visits) in
def settleAll (slot : Nat) (records : List ρ) :
    Except (Failure α) (List (ρ × Option (Nat × Bool))) :=
  (records.zipIdx slot).mapM fun x => w.settle visits x.1 x.2

lemma settleAll_cons (slot : Nat) (record : ρ) (records : List ρ) :
    w.settleAll visits slot (record :: records) = do
      let outcome ← w.settle visits record slot
      let outcomes ← w.settleAll visits (slot + 1) records
      return outcome :: outcomes := by
  rw [settleAll, List.zipIdx_cons, List.mapM_cons]
  rfl

end

variable {α ρ κ σ : Type} [Scalar α] {w : Walk α ρ κ σ} {tree : Octree α}
  {particles : Array (Particle α)}

lemma run_eq (targets : List Nat) (records : List ρ) :
    w.run tree particles targets records = do
      let ts ← targets.mapM (Target.at? particles)
      let visits ← (ts.filter w.hasWork).mapM (w.visitTarget tree particles records)
      let outcomes ← w.settleAll visits 0 records
      let marks := outcomes.filterMap (·.2)
      return ⟨visits, outcomes.map (·.1), (marks.filter (·.2)).map (·.1),
        (marks.filter (!·.2)).map (·.1)⟩ :=
  rfl

theorem run_eq_ok {targets : List Nat} {records : List ρ} {ts : List (Target α)}
    {visit : Target α → Visit α σ} {fin : Target α → ρ → ρ × Bool}
    (hts : targets.mapM (Target.at? particles) = .ok ts)
    (hv : ∀ t ∈ ts, w.hasWork t = true →
      w.visitTarget tree particles records t = .ok (visit t) ∧ (visit t).target = t)
    (hf : ∀ t ∈ ts, w.hasWork t = true → ∀ r, w.finish t r = .ok (fin t r)) :
    w.run tree particles targets records =
      .ok (w.completed fin ((ts.filter w.hasWork).map visit) records) := by
  have hvisits : (ts.filter w.hasWork).mapM (w.visitTarget tree particles records) =
      .ok ((ts.filter w.hasWork).map visit) := by
    refine mapM_eq_map fun t ht => ?_
    obtain ⟨ht, hw⟩ := List.mem_filter.mp ht
    exact (hv t ht hw).1
  have hsettle : ∀ v ∈ (ts.filter w.hasWork).map visit, ∀ r,
      w.finish v.target r = .ok (fin v.target r) := by
    intro v hm r
    obtain ⟨t, ht, rfl⟩ := List.mem_map.mp hm
    obtain ⟨ht, hw⟩ := List.mem_filter.mp ht
    rw [(hv t ht hw).2]
    exact hf t ht hw r
  have houtcomes : (records.zipIdx.mapM fun (r, slot) =>
      w.settle ((ts.filter w.hasWork).map visit) r slot) =
      .ok (records.zipIdx.map fun (r, slot) =>
        w.outcome fin ((ts.filter w.hasWork).map visit) r slot) :=
    mapM_eq_map fun ⟨r, slot⟩ _ => settle_eq_ok hsettle r slot
  rw [run]
  rw [hts]
  simp only [bind, Except.bind, hvisits, houtcomes]
  rfl

end Walk

end GalacticWinds
