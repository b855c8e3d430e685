import GalacticWinds.Proofs.Tree.Search
import GalacticWinds.Proofs.Walk.Round
import GalacticWinds.Walk.Counting

/-!
Whatever the walk is, a round comes out the same as one that changes an array of records where they
stand: every search comes before the first change, and a target at fault stops the round before it.
-/

namespace GalacticWinds

section

variable {ε β γ : Type} {f : β → Except ε γ}

lemma mapM_eq_error {pre : List β} (hpre : ∀ y ∈ pre, ∃ z, f y = .ok z) {x : β} {e : ε}
    (hx : f x = .error e) (post : List β) : (pre ++ x :: post).mapM f = .error e := by
  induction pre with
  | nil =>
    rw [List.nil_append, List.mapM_cons, hx]
    rfl
  | cons y pre ih =>
    obtain ⟨z, hz⟩ := hpre y List.mem_cons_self
    rw [List.cons_append, List.mapM_cons, hz, ih fun u hu => hpre u (List.mem_cons_of_mem y hu)]
    rfl

lemma Target.mapM_at?_index {α : Type} {particles : Array (Particle α)} {ts : List (Target α)}
    (hts : ∀ t ∈ ts, particles[t.index]? = some t.particle) :
    (ts.map (·.index)).mapM (Target.at? particles) = .ok ts := by
  induction ts with
  | nil => rfl
  | cons t ts ih =>
    rw [List.map_cons, List.mapM_cons, at?_eq_ok_iff.mpr ⟨hts t List.mem_cons_self, rfl⟩,
      ih fun u hu => hts u (List.mem_cons_of_mem t hu)]
    rfl

lemma latest_eq_getLast? {α σ : Type} (visits : List (Visit α σ)) (slot : Nat) :
    latest visits slot = (visits.filter fun v => v.slot = slot).getLast? := by
  induction visits using List.reverseRecOn with
  | nil => rfl
  | append_singleton visits v ih =>
    rw [latest_concat, List.filter_append]
    by_cases hv : v.slot = slot
    · simp [hv]
    · simp [hv, ih]

end

structure Progress where
  visited : Nat
  pending : Nat

namespace Walk

variable {α ρ κ σ : Type}

def unfinished (outcomes : List (ρ × Option (Nat × Bool))) : Nat :=
  (outcomes.filterMap (·.2)).countP (·.2)

/-- The records from `slot` on, changed one after the other. One that cannot be finished keeps what
was reduced into it, and the ones after it are not reached. -/
def settleEach (w : Walk α ρ κ σ) (visits : List (Visit α σ)) :
    Nat → List ρ → List ρ × Except (Failure α) Nat
  | _, [] => ([], .ok 0)
  | slot, record :: records =>
    match latest visits slot with
    | none =>
      let (rest, pending) := w.settleEach visits (slot + 1) records
      (record :: rest, pending)
    | some v =>
      let reduced := w.reduce .replace record v.result
      match w.finish v.target reduced with
      | .error e => (reduced :: records, .error e)
      | .ok (record, again) =>
        let (rest, pending) := w.settleEach visits (slot + 1) records
        (record :: rest, pending.map (again.toNat + ·))

def runInPlace [Scalar α] (w : Walk α ρ κ σ) (tree : Octree α) (particles : Array (Particle α))
    (targets : List Nat) (records : List ρ) : List ρ × Except (Failure α) Progress :=
  let visits := do
    let targets ← targets.mapM (Target.at? particles)
    (targets.filter w.hasWork).mapM (w.visitTarget tree particles records)
  match visits with
  | .error e => (records, .error e)
  | .ok visits =>
    let (records, pending) := w.settleEach visits 0 records
    (records, pending.map (⟨visits.length, ·⟩))

section

variable {w : Walk α ρ κ σ} {visits : List (Visit α σ)}

lemma settle_of_none (record : ρ) {slot : Nat} (h : latest visits slot = none) :
    w.settle visits record slot = .ok (record, none) := by
  rw [settle, h]

lemma settle_of_some (record : ρ) {slot : Nat} {v : Visit α σ} (h : latest visits slot = some v) :
    w.settle visits record slot =
      (w.finish v.target (w.reduce .replace record v.result)).map fun done =>
        (done.1, some (v.target.index, done.2)) := by
  simp only [settle, h]
  cases w.finish v.target (w.reduce .replace record v.result) <;> rfl

lemma settleEach_pending (records : List ρ) (slot : Nat) :
    (w.settleEach visits slot records).2 =
      (w.settleAll visits slot records).map unfinished := by
  induction records generalizing slot with
  | nil => rfl
  | cons record records ih =>
    rw [settleAll_cons, settleEach]
    cases hl : latest visits slot with
    | none =>
      simp only [settle_of_none record hl, ih]
      cases w.settleAll visits (slot + 1) records <;> rfl
    | some v =>
      simp only [settle_of_some record hl]
      cases w.finish v.target (w.reduce .replace record v.result) with
      | error e => rfl
      | ok done =>
        simp only [ih]
        cases w.settleAll visits (slot + 1) records with
        | error e => rfl
        | ok rest =>
          cases hd : done.2 <;>
            simp [unfinished, hd, Except.map, bind, Except.bind, pure, Except.pure, Nat.add_comm]

lemma settleEach_records {records : List ρ} {slot : Nat}
    {outcomes : List (ρ × Option (Nat × Bool))}
    (h : w.settleAll visits slot records = .ok outcomes) :
    (w.settleEach visits slot records).1 = outcomes.map (·.1) := by
  induction records generalizing slot outcomes with
  | nil =>
    obtain rfl : [] = outcomes := by simpa [settleAll, pure, Except.pure] using h
    rfl
  | cons record records ih =>
    rw [settleAll_cons] at h
    cases hs : w.settle visits record slot with
    | error e => simp [hs, bind, Except.bind] at h
    | ok outcome =>
      cases hrest : w.settleAll visits (slot + 1) records with
      | error e => simp [hs, hrest, bind, Except.bind] at h
      | ok rest =>
        obtain rfl : outcome :: rest = outcomes := by
          simpa [hs, hrest, bind, Except.bind, pure, Except.pure] using h
        rw [settleEach, List.map_cons, ← ih hrest]
        cases hl : latest visits slot with
        | none =>
          obtain rfl : (record, none) = outcome :=
            Except.ok.inj ((settle_of_none record hl).symm.trans hs)
          rfl
        | some v =>
          rw [settle_of_some record hl] at hs
          cases hf : w.finish v.target (w.reduce .replace record v.result) with
          | error e => simp [hf, Except.map] at hs
          | ok done =>
            obtain rfl : (done.1, some (v.target.index, done.2)) = outcome := by
              simpa [hf, Except.map] using hs
            simp only [hf]

lemma length_pending_completed (fin : Target α → ρ → ρ × Bool) (records : List ρ) :
    (w.completed fin visits records).pending.length =
      records.zipIdx.countP fun x => (w.outcome fin visits x.1 x.2).2.any (·.2) := by
  simp only [completed, List.length_map, ← List.countP_eq_length_filter, List.countP_filterMap,
    List.countP_map]
  refine List.countP_congr fun x _ => ?_
  cases h : (w.outcome fin visits x.1 x.2).2 <;> simp [h]

end

section

variable [Scalar α] {w : Walk α ρ κ σ} {tree : Octree α} {particles : Array (Particle α)}
  {targets : List Nat} {records : List ρ}

lemma runInPlace_progress :
    (w.runInPlace tree particles targets records).2 =
      (w.run tree particles targets records).map fun round =>
        ⟨round.visits.length, round.pending.length⟩ := by
  rw [runInPlace, run_eq]
  cases targets.mapM (Target.at? particles) with
  | error e => rfl
  | ok ts =>
    simp only [bind, Except.bind]
    cases (ts.filter w.hasWork).mapM (w.visitTarget tree particles records) with
    | error e => rfl
    | ok visits =>
      simp only [settleEach_pending]
      cases w.settleAll visits 0 records with
      | error e => rfl
      | ok outcomes =>
        simp [unfinished, Except.map, pure, Except.pure, List.countP_eq_length_filter]

lemma runInPlace_records {round : Round α ρ σ}
    (h : w.run tree particles targets records = .ok round) :
    (w.runInPlace tree particles targets records).1 = round.records := by
  rw [run_eq] at h
  rw [runInPlace]
  cases hts : targets.mapM (Target.at? particles) with
  | error e => simp [hts, bind, Except.bind] at h
  | ok ts =>
    simp only [hts, bind, Except.bind] at h ⊢
    cases hvisits : (ts.filter w.hasWork).mapM (w.visitTarget tree particles records) with
    | error e => simp [hvisits] at h
    | ok visits =>
      simp only [hvisits] at h
      cases houtcomes : w.settleAll visits 0 records with
      | error e => simp [houtcomes] at h
      | ok outcomes =>
        simp only [houtcomes, pure, Except.pure, Except.ok.injEq] at h
        subst h
        exact settleEach_records houtcomes

lemma visitTarget_eq_ok_iff {t : Target α} {v : Visit α σ} :
    w.visitTarget tree particles records t = .ok v ↔
      ∃ slot record, w.slot t = .ok slot ∧ records[slot]? = some record ∧
        v = ⟨t, slot, w.gather tree particles (w.query t record)⟩ := by
  rw [visitTarget]
  cases hs : w.slot t with
  | error e => simp [bind, Except.bind]
  | ok slot =>
    cases hr : records[slot]? with
    | none => simp [hr, bind, Except.bind]
    | some record => simp [hr, bind, Except.bind, eq_comm]

end

section

variable (w : Walk α ρ κ σ)

/-- One of `n` records is that of the target. -/
def Seated (n : Nat) (t : Target α) : Prop :=
  ∃ slot < n, w.slot t = .ok slot

/-- What a target is refused for when there are `n` records. -/
def Refused (n : Nat) (t : Target α) (e : Failure α) : Prop :=
  w.slot t = .error e ∨ ∃ slot, w.slot t = .ok slot ∧ n ≤ slot ∧ e = .noRecord t.index slot

def lastAt (ts : List (Target α)) (slot : Nat) : Option (Target α) :=
  (ts.filter fun t => (w.slot t).toOption = some slot).getLast?

/-- A record made anew from what a target finds around it. -/
def renewed [Scalar α] (tree : Octree α) (particles : Array (Particle α))
    (fin : Target α → ρ → ρ × Bool) (t : Target α) (record : ρ) : ρ × Bool :=
  let q := w.query t record
  fin t (w.reduce .replace record ((tree.near particles (w.reach q)).foldl (w.visit q) w.start))

variable {w} {n : Nat} {ts : List (Target α)}

lemma seated_or_refused (w : Walk α ρ κ σ) (n : Nat) (t : Target α) :
    w.Seated n t ∨ ∃ e, w.Refused n t e := by
  cases hslot : w.slot t with
  | error e => exact .inr ⟨e, .inl hslot⟩
  | ok slot =>
    rcases Nat.lt_or_ge slot n with hlt | hge
    · exact .inl ⟨slot, hlt, hslot⟩
    · exact .inr ⟨_, .inr ⟨slot, hslot, hge, rfl⟩⟩

lemma mem_of_lastAt {slot : Nat} {t : Target α} (h : w.lastAt ts slot = some t) :
    t ∈ ts ∧ w.slot t = .ok slot := by
  obtain ⟨ht, hslot⟩ := List.mem_filter.mp (List.mem_of_getLast? h)
  refine ⟨ht, ?_⟩
  cases hs : w.slot t with
  | error e => simp [hs, Except.toOption] at hslot
  | ok k => simpa [hs, Except.toOption] using hslot

variable [Scalar α] {tree : Octree α} {particles : Array (Particle α)} {records : List ρ}

lemma Seated.exists_visit {t : Target α} (h : w.Seated records.length t) :
    ∃ v, w.visitTarget tree particles records t = .ok v := by
  obtain ⟨slot, hlt, hslot⟩ := h
  exact ⟨_, visitTarget_eq_ok_iff.mpr ⟨slot, _, hslot, List.getElem?_eq_getElem hlt, rfl⟩⟩

lemma Refused.visitTarget {t : Target α} {e : Failure α} (h : w.Refused records.length t e) :
    w.visitTarget tree particles records t = .error e := by
  rw [Walk.visitTarget]
  rcases h with hslot | ⟨slot, hslot, hge, rfl⟩
  · simp only [hslot, bind, Except.bind]
  · simp only [hslot, bind, Except.bind, List.getElem?_eq_none hge]

lemma Refused.run {e : Failure α} {t : Target α} (h : w.Refused records.length t e)
    {pre post : List (Target α)} (hpre : ∀ u ∈ pre, w.Seated records.length u)
    (hts : ∀ t ∈ ts, particles[t.index]? = some t.particle)
    (hsplit : ts.filter w.hasWork = pre ++ t :: post) :
    w.run tree particles (ts.map (·.index)) records = .error e ∧
      w.runInPlace tree particles (ts.map (·.index)) records = (records, .error e) := by
  have hvisits : (pre ++ t :: post).mapM (w.visitTarget tree particles records) = .error e :=
    mapM_eq_error (fun u hu => (hpre u hu).exists_visit) h.visitTarget post
  constructor
  · simp only [Walk.run, Target.mapM_at?_index hts, hsplit, hvisits, bind, Except.bind]
  · simp only [runInPlace, Target.mapM_at?_index hts, hsplit, hvisits, bind, Except.bind]

lemma Seated.visitTarget_toOption {t : Target α} (h : w.Seated records.length t) :
    w.visitTarget tree particles records t =
      .ok ((w.visitTarget tree particles records t).toOption.getD ⟨t, 0, w.start⟩) := by
  obtain ⟨v, hv⟩ := h.exists_visit
  rw [hv]
  rfl

variable {visit : Target α → Visit α σ}

lemma latest_map_visit
    (hv : ∀ t ∈ ts, w.visitTarget tree particles records t = .ok (visit t)) (slot : Nat) :
    latest (ts.map visit) slot = (w.lastAt ts slot).map visit := by
  rw [latest_eq_getLast?, List.filter_map, List.getLast?_map, lastAt]
  congr 2
  refine List.filter_congr fun t ht => ?_
  obtain ⟨k, r, hslot, -, hvisit⟩ := visitTarget_eq_ok_iff.mp (hv t ht)
  simp [hvisit, hslot, Except.toOption]

lemma outcome_map_visit
    (hv : ∀ t ∈ ts, w.visitTarget tree particles records t = .ok (visit t))
    (fin : Target α → ρ → ρ × Bool) {slot : Nat} {record : ρ} (hr : records[slot]? = some record) :
    w.outcome fin (ts.map visit) record slot =
      ((w.lastAt ts slot).elim record fun t => (w.renewed tree particles fin t record).1,
        (w.lastAt ts slot).map fun t => (t.index, (w.renewed tree particles fin t record).2)) := by
  cases hl : w.lastAt ts slot with
  | none =>
    rw [outcome_of_none record (by rw [latest_map_visit hv, hl]; rfl)]
    rfl
  | some t =>
    obtain ⟨ht, hslot⟩ := mem_of_lastAt hl
    obtain ⟨k, r, hk, hr', hvisit⟩ := visitTarget_eq_ok_iff.mp (hv t ht)
    obtain rfl : slot = k := Except.ok.inj (hslot.symm.trans hk)
    obtain rfl := Option.some.inj (hr.symm.trans hr')
    rw [outcome_of_some record (by rw [latest_map_visit hv, hl]; rfl), hvisit]
    rfl

lemma run_of_visits (hts : ∀ t ∈ ts, particles[t.index]? = some t.particle)
    {fin : Target α → ρ → ρ × Bool} (hfin : ∀ t ∈ ts, ∀ r, w.finish t r = .ok (fin t r))
    (hv : ∀ t ∈ ts.filter w.hasWork,
      w.visitTarget tree particles records t = .ok (visit t)) :
    ∃ round, w.run tree particles (ts.map (·.index)) records = .ok round ∧
      round.visits.map (·.target) = ts.filter w.hasWork ∧
      round.records = records.mapIdx (fun slot r =>
        (w.lastAt (ts.filter w.hasWork) slot).elim r fun t =>
          (w.renewed tree particles fin t r).1) ∧
      round.pending.length = records.zipIdx.countP fun x =>
        (w.lastAt (ts.filter w.hasWork) x.2).any fun t =>
          (w.renewed tree particles fin t x.1).2 := by
  have htarget : ∀ t ∈ ts.filter w.hasWork, (visit t).target = t := by
    intro t ht
    obtain ⟨k, r, -, -, hvisit⟩ := visitTarget_eq_ok_iff.mp (hv t ht)
    rw [hvisit]
  have hrun : w.run tree particles (ts.map (·.index)) records =
      .ok (w.completed fin ((ts.filter w.hasWork).map visit) records) := by
    refine run_eq_ok (Target.mapM_at?_index hts) (fun t ht hw => ?_) fun t ht _ => hfin t ht
    have hmem := List.mem_filter.mpr ⟨ht, hw⟩
    exact ⟨hv t hmem, htarget t hmem⟩
  refine ⟨_, hrun, ?_, ?_, ?_⟩
  · rw [completed, List.map_map]
    exact (List.map_congr_left htarget).trans (List.map_id _)
  · refine List.ext_getElem? fun slot => ?_
    rw [getElem?_completed, List.getElem?_mapIdx]
    cases hr : records[slot]? with
    | none => rfl
    | some r => simp only [Option.map_some, outcome_map_visit hv fin hr]
  · rw [length_pending_completed]
    refine List.countP_congr fun x hx => ?_
    have hr : records[x.2]? = some x.1 := List.mem_zipIdx_iff_getElem?.mp hx
    simp only [outcome_map_visit hv fin hr]
    cases w.lastAt (ts.filter w.hasWork) x.2 <;> simp

variable (tree) in
/-- Where every working target finds a record, each record is made anew from what it was before
the round, for the last target that is sent to it. Otherwise the first target without one gives the
error, and no record is touched. -/
theorem run_exact (hts : ∀ t ∈ ts, particles[t.index]? = some t.particle)
    {fin : Target α → ρ → ρ × Bool} (hfin : ∀ t ∈ ts, ∀ r, w.finish t r = .ok (fin t r))
    (records : List ρ) :
    ((∀ t ∈ ts.filter w.hasWork, w.Seated records.length t) →
      ∃ round, w.run tree particles (ts.map (·.index)) records = .ok round ∧
        w.runInPlace tree particles (ts.map (·.index)) records =
          (round.records, .ok ⟨(ts.filter w.hasWork).length, round.pending.length⟩) ∧
        round.visits.map (·.target) = ts.filter w.hasWork ∧
        round.records = records.mapIdx (fun slot r =>
          (w.lastAt (ts.filter w.hasWork) slot).elim r fun t =>
            (w.renewed tree particles fin t r).1) ∧
        round.pending.length = records.zipIdx.countP fun x =>
          (w.lastAt (ts.filter w.hasWork) x.2).any fun t =>
            (w.renewed tree particles fin t x.1).2) ∧
    (¬ (∀ t ∈ ts.filter w.hasWork, w.Seated records.length t) →
      ∃ pre t post e, ts.filter w.hasWork = pre ++ t :: post ∧
        (∀ u ∈ pre, w.Seated records.length u) ∧ w.Refused records.length t e ∧
        w.run tree particles (ts.map (·.index)) records = .error e ∧
        w.runInPlace tree particles (ts.map (·.index)) records = (records, .error e)) := by
  constructor
  · intro hall
    have hv : ∀ t ∈ ts.filter w.hasWork, w.visitTarget tree particles records t =
        .ok ((w.visitTarget tree particles records t).toOption.getD ⟨t, 0, w.start⟩) :=
      fun t ht => (hall t ht).visitTarget_toOption
    obtain ⟨round, hround, h⟩ := run_of_visits hts hfin hv
    refine ⟨round, hround, Prod.ext (runInPlace_records hround) ?_, h⟩
    rw [runInPlace_progress, hround, ← h.1, List.length_map]
    rfl
  · intro hnot
    rcases exists_first fun t (_ : t ∈ ts.filter w.hasWork) =>
      w.seated_or_refused records.length t with hall | ⟨pre, t, post, e, hsplit, hpre, he⟩
    · exact absurd hall hnot
    · exact ⟨pre, t, post, e, hsplit, hpre, he, he.run hpre hts hsplit⟩

end

/-- A star with one gas particle at its place, and far off a star with two that was given the same
slot. -/
noncomputable def crowd : Array (Particle ℝ) :=
  #[.new 1 .gas 1 0 0 1, .new 2 .star 1 0 0 1, .new 3 .star 1 ⟨9, 0, 0⟩ 0 1,
    .new 4 .gas 1 ⟨9, 0, 0⟩ 0 1, .new 5 .gas 1 ⟨9, 0, 0⟩ 0 1]

lemma foldl_counting {α : Type} [Scalar α] (wanted : Int) (mask : SpeciesMask) (q : Reach α)
    (ns : List (Neighbour α)) (k : Int) :
    ns.foldl ((counting wanted mask [] none .replace).visit q) k = k + ns.length := by
  induction ns generalizing k with
  | nil => simp
  | cons n ns ih =>
    rw [List.foldl_cons, ih, List.length_cons]
    simp only [counting]
    omega

lemma length_near_crowd :
    (Octree.near (.build crowd) crowd ⟨⟨9, 0, 0⟩, 1, .gas⟩).length = 2 := by
  have hstar : SpeciesMask.gas.contains .star = false := by decide
  have hgas : SpeciesMask.gas.contains .gas = true := by decide
  have hrange : List.range crowd.size = [0, 1, 2, 3, 4] := rfl
  rw [(Octree.near_build_perm crowd _).length_eq, hrange]
  simp [Reach.neighbour?, crowd, Particle.new, hstar, hgas, Reach.radiusSq, Vec.normSq_real,
    Vec.sub_def, Scalar.sq_real]

/-- Both stars search from the record as it was, and what the later one finds counts. -/
theorem run_exact_crowd :
    let w := counting 3 .gas [] none .replace
    (∃ round, w.run (.build crowd) crowd [1, 2] [⟨1, 0, 0⟩] = .ok round ∧
      w.runInPlace (.build crowd) crowd [1, 2] [⟨1, 0, 0⟩] = ([⟨1 * 2.0, 2, 1⟩], .ok ⟨2, 1⟩)) ∧
    w.run (.build crowd) crowd [1, 2] [] = .error (.noRecord 1 0) ∧
    w.runInPlace (.build crowd) crowd [1, 2] [] = ([], .error (.noRecord 1 0)) := by
  intro w
  let fin (_ : Target ℝ) (c : Count ℝ) : Count ℝ × Bool :=
    if c.found < 3 then (⟨c.radius * 2.0, c.found, c.rounds + 1⟩, true)
    else (⟨c.radius, c.found, c.rounds + 1⟩, false)
  let ts : List (Target ℝ) := [⟨1, .new 2 .star 1 0 0 1⟩, ⟨2, .new 3 .star 1 ⟨9, 0, 0⟩ 0 1⟩]
  have hts : ∀ t ∈ ts, crowd[t.index]? = some t.particle := by simp [ts, crowd]
  have hfin : ∀ t ∈ ts, ∀ r, w.finish t r = .ok (fin t r) := by
    intro t _ r
    simp only [w, counting, fin]
    split_ifs <;> first | rfl | contradiction
  have hslot : ∀ t ∈ ts, w.slot t = .ok 0 := by
    intro t ht
    obtain rfl | rfl : t = _ ∨ t = _ := by simpa [ts] using ht
    · rfl
    · rfl
  have hlast : w.lastAt (ts.filter w.hasWork) 0 = some ⟨2, .new 3 .star 1 ⟨9, 0, 0⟩ 0 1⟩ := rfl
  have hnext : w.renewed (.build crowd) crowd fin ⟨2, .new 3 .star 1 ⟨9, 0, 0⟩ 0 1⟩ ⟨1, 0, 0⟩ =
      (⟨1 * 2.0, 2, 1⟩, true) := by
    have hfound : (Octree.near (.build crowd) crowd ⟨⟨9, 0, 0⟩, 1, .gas⟩).foldl
        (w.visit ⟨⟨9, 0, 0⟩, 1, .gas⟩) 0 = 2 := by
      rw [foldl_counting, length_near_crowd]
      rfl
    simp only [renewed, w, counting, fin, Particle.new] at hfound ⊢
    rw [hfound]
    rfl
  constructor
  · obtain ⟨round, hround, hplace, -, hrecords, hpending⟩ :=
      (run_exact (.build crowd) hts hfin [⟨1, 0, 0⟩]).1 fun t ht =>
        ⟨0, Nat.one_pos, hslot t (List.mem_filter.mp ht).1⟩
    have hlength : (ts.filter w.hasWork).length = 2 := rfl
    refine ⟨round, hround, hplace.trans ?_⟩
    rw [hlength, hpending, hrecords]
    simp [hlast, hnext]
  · obtain ⟨pre, t, post, e, hsplit, hpre, he, hrun, hplace⟩ :=
      (run_exact (.build crowd) hts hfin []).2 fun h =>
        (h _ List.mem_cons_self).elim fun _ hlt => Nat.not_lt_zero _ hlt.1
    cases pre with
    | cons u pre => exact (hpre u List.mem_cons_self).elim fun _ h => absurd h.1 (Nat.not_lt_zero _)
    | nil =>
      obtain ⟨rfl, -⟩ := List.cons.inj hsplit
      obtain rfl : e = .noRecord 1 0 := by
        rcases he with he | ⟨slot, hs, -, rfl⟩
        · exact absurd he (by simp [hslot _ List.mem_cons_self])
        · rw [← Except.ok.inj hs]
          rfl
      exact ⟨hrun, hplace⟩

end Walk

end GalacticWinds
