import GalacticWinds.Proofs.Wind.Alike
import GalacticWinds.Proofs.Wind.Step

/-! The kicks of a pass made out beforehand. A pass over any store that is alike carries out just
these, since no kick has a part in what is decided after it. -/

namespace GalacticWinds.Setting

variable {α : Type} [Transcendental α]

section

variable (setting : Setting α) (records : List (StarRecord α)) (s : Store α)

def kicksFrom (i : Nat) : Except (Failure α) (List (Kick α)) := do
  let t ← Target.at? s.particles i
  let slot ← t.starSlot
  match records[slot]? with
  | none => .error (.noRecord t.index slot)
  | some record =>
    .ok ((setting.tree.near s.particles ⟨t.particle.pos, t.particle.hsml, .gas⟩).filterMap
      (setting.kick? s ⟨t.particle, record⟩))

def plan : List Nat → List (Kick α) × Except (Failure α) Nat
  | [] => ([], .ok 0)
  | i :: batch =>
    match setting.kicksFrom records s i with
    | .error e => ([], .error e)
    | .ok ks =>
      let (more, launched) := plan batch
      (ks ++ more, launched.map (ks.length + ·))

end

variable {setting : Setting α} {records : List (StarRecord α)} {s t : Store α}

lemma kick?_alike (h : s.Alike t) (q : StarQuery α) (n : Neighbour α) :
    setting.kick? s q n = setting.kick? t q n := by
  rw [kick?, kick?, h.gas?_isNone]

lemma filterMap_near_seen (p : Particle α) (record : StarRecord α) (q : Reach α) :
    (setting.tree.near s.seen q).filterMap (setting.kick? s ⟨p.seen, record⟩) =
      (setting.tree.near s.particles q).filterMap (setting.kick? s ⟨p, record⟩) := by
  rw [Store.seen, Octree.near_map (f := (·.seen)) s.particles q (fun _ => rfl) (fun _ => rfl),
    List.filterMap_map]
  rfl

lemma kicksFrom_alike (h : s.Alike t) (i : Nat) :
    setting.kicksFrom records s i = setting.kicksFrom records t i := by
  rw [kicksFrom, kicksFrom, Target.at?, Target.at?]
  rcases h.getElem? i with ⟨hp, hq⟩ | ⟨p, q, hp, hq, hpq⟩
  · rw [hp, hq]
    rfl
  · have hslot := Target.starSlot_of_seen hpq i
    have hpos : p.pos = q.pos := congrArg (·.pos) hpq
    have hhsml : p.hsml = q.hsml := congrArg (·.hsml) hpq
    have hkicks : ∀ (record : StarRecord α) (r : Reach α),
        (setting.tree.near s.particles r).filterMap (setting.kick? s ⟨p, record⟩) =
          (setting.tree.near t.particles r).filterMap (setting.kick? t ⟨q, record⟩) := by
      intro record r
      rw [← filterMap_near_seen, hpq, h.seen, ← filterMap_near_seen q]
      exact List.filterMap_congr fun n _ => kick?_alike h _ n
    rw [hp, hq]
    simp only [bind, Except.bind, hslot, hpos, hhsml, hkicks]

variable (setting) in
lemma foldl_strike_plan (q : StarQuery α) (ns : List (Neighbour α)) (h : s.Alike t) (n : Nat) :
    ns.foldl (setting.strike q) (s, n) =
      ((ns.filterMap (setting.kick? t q)).foldl Store.kick s,
        n + (ns.filterMap (setting.kick? t q)).length) := by
  induction ns generalizing s n with
  | nil => rfl
  | cons m ns ih =>
    rw [List.foldl_cons, strike, kick?_alike h, List.filterMap_cons]
    cases setting.kick? t q m with
    | none => exact ih h n
    | some k =>
      dsimp only
      rw [ih ((s.alike_kick k).trans h), List.foldl_cons, List.length_cons]
      rw [Nat.add_assoc, Nat.add_comm 1]

lemma kickFrom_plan (i : Nat) :
    setting.kickFrom records s i =
      (setting.kicksFrom records s i).map fun ks => (ks.foldl Store.kick s, ks.length) := by
  rw [kickFrom, kicksFrom]
  cases Target.at? s.particles i with
  | error e => rfl
  | ok t =>
    simp only [bind, Except.bind, Walk.visitTarget]
    have hslot : (setting.kickWalk s).slot t = t.starSlot := rfl
    rw [hslot]
    cases t.starSlot with
    | error e => rfl
    | ok slot =>
      cases hr : records[slot]? with
      | none => simp only [hr]; rfl
      | some record =>
        have hfold := foldl_strike_plan setting ⟨t.particle, record⟩
          (setting.tree.near s.particles ⟨t.particle.pos, t.particle.hsml, .gas⟩) (.refl s) 0
        rw [Nat.zero_add] at hfold
        simp only [hr, Except.map, ← hfold]
        rfl

theorem kickAll_plan (h : s.Alike t) (batch : List Nat) :
    setting.kickAll records batch s =
      ((setting.plan records t batch).1.foldl Store.kick s, (setting.plan records t batch).2) := by
  induction batch generalizing s with
  | nil => rfl
  | cons i batch ih =>
    rw [kickAll, kickFrom_plan, kicksFrom_alike h, plan]
    cases setting.kicksFrom records t i with
    | error e => rfl
    | ok ks =>
      simp only [Except.map]
      rw [ih ((s.alike_foldl_kick ks).trans h), List.foldl_append]

section

variable (setting) in
/-- The kick is a launch of the model, in some direction. -/
def Gives (k : Kick α) : Prop :=
  ∃ dispersion l key, setting.model.launch? setting.cosmology dispersion = some l ∧
    k.velocity = l.speed * randomDirection setting.random key ∧
    k.delay = setting.model.travelTime setting.cosmology l.speed

variable {k : Kick α}

lemma gives_of_kick? {q : StarQuery α} {n : Neighbour α} (h : setting.kick? s q n = some k) :
    setting.Gives k := by
  rw [kick?] at h
  cases hl : setting.model.launch? setting.cosmology q.record.dispersion with
  | none =>
    rw [hl] at h
    split_ifs at h
  | some l =>
    rw [hl] at h
    dsimp only at h
    split_ifs at h
    rw [← Option.some.inj h]
    exact ⟨_, l, _, hl, rfl, rfl⟩

lemma gives_of_kicksFrom {i : Nat} {ks : List (Kick α)}
    (h : setting.kicksFrom records s i = .ok ks) : ∀ k ∈ ks, setting.Gives k := by
  rw [kicksFrom] at h
  cases ht : Target.at? s.particles i with
  | error e =>
    rw [ht] at h
    cases h
  | ok t =>
    cases hslot : t.starSlot with
    | error e =>
      simp only [ht, hslot, bind, Except.bind] at h
      cases h
    | ok slot =>
      simp only [ht, hslot, bind, Except.bind] at h
      split at h
      · cases h
      · intro k hk
        rw [← Except.ok.inj h] at hk
        obtain ⟨n, -, hn⟩ := List.mem_filterMap.mp hk
        exact gives_of_kick? hn

lemma gives_of_plan (batch : List Nat) :
    ∀ k ∈ (setting.plan records s batch).1, setting.Gives k := by
  induction batch with
  | nil => exact fun k hk => absurd hk List.not_mem_nil
  | cons i batch ih =>
    rw [plan]
    cases h : setting.kicksFrom records s i with
    | error e => exact fun k hk => absurd hk List.not_mem_nil
    | ok ks => exact List.forall_mem_append.mpr ⟨gives_of_kicksFrom h, ih⟩

lemma length_plan {batch : List Nat} {n : Nat} (h : (setting.plan records s batch).2 = .ok n) :
    (setting.plan records s batch).1.length = n := by
  induction batch generalizing n with
  | nil => exact Except.ok.inj h
  | cons i batch ih =>
    rw [plan] at h ⊢
    cases hks : setting.kicksFrom records s i with
    | error e =>
      rw [hks] at h
      cases h
    | ok ks =>
      rw [hks] at h
      cases hn : (setting.plan records s batch).2 with
      | error e =>
        simp only [hn, Except.map] at h
        cases h
      | ok m =>
        simp only [hn, Except.map] at h
        rw [← Except.ok.inj h, ← ih hn]
        exact List.length_append

variable (setting) in
lemma gives_step {C : Type} [Collective C] (limit : Nat) (batch : List Nat) (task : Task α C) :
    ∃ (u : Store α) (ks : List (Kick α)), u.unmarked = task.store.unmarked ∧
      (setting.step limit batch task).1.store = ks.foldl Store.kick u ∧
      (∀ r, (setting.step limit batch task).2 = .ok r → r.launched = ks.length) ∧
      ∀ k ∈ ks, setting.model.subgrid = false ∧ setting.Gives k := by
  obtain ⟨s, c⟩ := task
  obtain ⟨c', h⟩ | ⟨hsub, c', -, task, out, h, hout⟩ := setting.step_cases limit batch s c
  · rw [h]
    refine ⟨s, [], rfl, rfl, fun r hr => ?_, by simp⟩
    rw [← Except.ok.inj hr]
    rfl
  · have hmarks := unmarked_survey setting.cosmology setting.tree batch limit ⟨s, c'⟩
    rw [h] at hmarks
    obtain ⟨e, -, hstep⟩ | ⟨d, -, hstep⟩ := hout
    · rw [hstep]
      exact ⟨task.store, [], hmarks, rfl, fun r hr => (by cases hr), by simp⟩
    · rw [hstep, kickAll_plan (.refl _)]
      refine ⟨task.store, _, hmarks, rfl, fun r hr => ?_, fun k hk =>
        ⟨hsub, gives_of_plan batch k hk⟩⟩
      cases hn : (setting.plan d.records task.store batch).2 with
      | error e =>
        rw [hn] at hr
        cases hr
      | ok n =>
        rw [hn] at hr
        rw [← Except.ok.inj hr, length_plan hn]

end

end GalacticWinds.Setting
