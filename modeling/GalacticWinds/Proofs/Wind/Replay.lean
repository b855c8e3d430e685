import GalacticWinds.Proofs.Wind.Budget
import GalacticWinds.Proofs.Wind.Plan
import GalacticWinds.Proofs.Wind.Survey.Twins

/-! A step goes the same way on all stores that are alike, and so a second step in a row repeats
the first. -/

namespace GalacticWinds

namespace Store

section

variable {α : Type} [Transcendental α] (s : Store α) (k : Kick α)

lemma getElem?_kick (i : Nat) :
    (s.kick k).particles[i]? =
      s.particles[i]?.map fun p =>
        if k.index = i ∧ (s.gas? i).isSome then p.kick k.velocity else p := by
  rw [kick]
  cases hg : s.gas? k.index with
  | none =>
    have hno : ¬ (k.index = i ∧ (s.gas? i).isSome) := by
      rintro ⟨rfl, h⟩
      simp [hg] at h
    simp only [if_neg hno, Option.map_id']
  | some g =>
    obtain ⟨hp, -, -⟩ := gas?_eq_some_iff.mp hg
    have hlt := (Array.getElem?_eq_some_iff.mp hp).1
    by_cases hi : k.index = i
    · subst hi
      simp [putGas, Array.getElem?_setIfInBounds_self_of_lt hlt, hp, hg]
    · simp [putGas, Array.getElem?_setIfInBounds_ne hi, hi]

lemma getElem?_gasStates_kick (j : Nat) :
    (s.kick k).gasStates[j]? =
      s.gasStates[j]?.map fun h =>
        if (s.gas? k.index).any (·.1.slot = j) then h.delayAtLeast k.delay else h := by
  rw [kick]
  cases hg : s.gas? k.index with
  | none => simp
  | some g =>
    obtain ⟨-, -, hh⟩ := gas?_eq_some_iff.mp hg
    have hslot : (g.1.kick k.velocity).slot = g.1.slot := rfl
    have hlt := (Array.getElem?_eq_some_iff.mp hh).1
    by_cases hj : g.1.slot = j
    · subst hj
      simp [putGas, hslot, Array.getElem?_setIfInBounds_self_of_lt hlt, hh]
    · simp [putGas, hslot, Array.getElem?_setIfInBounds_ne hj, hj]

end

variable {s t : Store ℝ} {k : Kick ℝ} {ks : List (Kick ℝ)}

section

variable (s ks)

/-- What kicks add to the velocity of one particle. -/
noncomputable def impulse (i : Nat) : Vec ℝ :=
  ks.foldr (fun k dv => (if k.index = i ∧ (s.gas? i).isSome then k.velocity else 0) + dv) 0

lemma impulse_alike (h : s.Alike t) (i : Nat) : s.impulse ks i = t.impulse ks i := by
  have hg : (s.gas? i).isSome = (t.gas? i).isSome := by
    rw [← Option.not_isNone, ← Option.not_isNone, h.gas?_isNone]
  simp only [impulse, hg]

lemma getElem?_foldl_kick (i : Nat) :
    (ks.foldl kick s).particles[i]? =
      s.particles[i]?.map fun p => { p with vel := p.vel + s.impulse ks i } := by
  induction ks generalizing s with
  | nil =>
    have hzero : ∀ v : Vec ℝ, v + s.impulse [] i = v := by
      intro v
      simp [impulse, Vec.add_def]
    simp only [List.foldl_nil, hzero, Option.map_id']
  | cons k ks ih =>
    rw [List.foldl_cons, ih, (s.kick k).impulse_alike ks (s.alike_kick k), getElem?_kick,
      Option.map_map]
    refine congrArg (s.particles[i]?.map ·) (funext fun p => ?_)
    have hcons : s.impulse (k :: ks) i =
        (if k.index = i ∧ (s.gas? i).isSome then k.velocity else 0) + s.impulse ks i := rfl
    rw [Function.comp_apply, hcons]
    split_ifs
    · simp [Particle.kick, Vec.add_def, add_assoc]
    · simp [Vec.add_def]

end

lemma vel_foldl_kick {i : Nat} {p : Particle ℝ} (ht : t.unmarked = s.unmarked)
    (hp : s.particles[i]? = some p) (ks : List (Kick ℝ)) :
    (ks.foldl kick t).particles[i]?.map (·.vel) = some (p.vel + s.impulse ks i) := by
  obtain ⟨b, hq⟩ := exists_of_unmarked ht hp
  rw [getElem?_foldl_kick, hq, t.impulse_alike ks (.of_unmarked ht)]
  rfl

/-- The wind timer of the gas that is kicked runs at least as long as the kick says. -/
def Reached (s : Store ℝ) (k : Kick ℝ) : Prop :=
  ∀ g, s.gas? k.index = some g → k.delay ≤ g.2.delay

lemma Reached.congr (hk : s.Reached k) (h : s.Alike t) (hgas : s.gasStates = t.gasStates) :
    t.Reached k := by
  intro g hg
  obtain ⟨hq, hkind, hh⟩ := gas?_eq_some_iff.mp hg
  obtain ⟨p, hp, hqp⟩ := h.symm.exists_seen hq
  have hspecies : g.1.species = p.species := congrArg (·.species) hqp
  have hslot : g.1.slot = p.slot := congrArg (·.slot) hqp
  refine hk (p, g.2) (gas?_eq_some_iff.mpr ⟨hp, hspecies.symm.trans hkind, ?_⟩)
  rw [hgas, ← hslot, hh]

lemma Reached.gasStates (hk : s.Reached k) : (s.kick k).gasStates = s.gasStates := by
  refine Array.ext_getElem? fun j => ?_
  rw [getElem?_gasStates_kick]
  cases hg : s.gas? k.index with
  | none => simp
  | some g =>
    by_cases hj : g.1.slot = j
    · have hh := (gas?_eq_some_iff.mp hg).2.2
      have hmax : g.2.delayAtLeast k.delay = g.2 := by
        rw [SphState.delayAtLeast, show Scalar.max g.2.delay k.delay = g.2.delay from
          max_eq_left (hk g hg)]
      rw [← hj, hh]
      simp [hmax]
    · simp [hj]

lemma exists_of_gas?_kick {i : Nat} {g : Particle ℝ × SphState ℝ}
    (hg : (s.kick k).gas? i = some g) :
    ∃ g', s.gas? i = some g' ∧ g'.2.delay ≤ g.2.delay ∧
      (k.index = i → k.delay ≤ g.2.delay) := by
  obtain ⟨hq, hkind, hh⟩ := gas?_eq_some_iff.mp hg
  obtain ⟨p, hp, hqp⟩ := (s.alike_kick k).exists_seen hq
  have hspecies : g.1.species = p.species := congrArg (·.species) hqp
  have hslot : g.1.slot = p.slot := congrArg (·.slot) hqp
  rw [getElem?_gasStates_kick, hslot] at hh
  obtain ⟨h, hh', hle⟩ := Option.map_eq_some_iff.mp hh
  have hg' : s.gas? i = some (p, h) :=
    gas?_eq_some_iff.mpr ⟨hp, hspecies.symm.trans hkind, hh'⟩
  refine ⟨(p, h), hg', ?_, ?_⟩
  · rw [← hle]
    split_ifs
    · exact le_max_left _ _
    · exact le_rfl
  · rintro rfl
    rw [hg'] at hle
    rw [← hle, if_pos (by simp)]
    exact le_max_right _ _

lemma reached_kick (s : Store ℝ) (k : Kick ℝ) : (s.kick k).Reached k := by
  intro g hg
  obtain ⟨-, -, -, hle⟩ := exists_of_gas?_kick hg
  exact hle rfl

lemma Reached.kick (hk : s.Reached k) (l : Kick ℝ) : (s.kick l).Reached k := by
  intro g hg
  obtain ⟨g', hg', hle, -⟩ := exists_of_gas?_kick hg
  exact (hk g' hg').trans hle

lemma Reached.foldl_kick (hk : s.Reached k) (ks : List (Kick ℝ)) :
    (ks.foldl Store.kick s).Reached k := by
  induction ks generalizing s with
  | nil => exact hk
  | cons l ks ih => exact ih (hk.kick l)

lemma reached_foldl_kick (s : Store ℝ) (ks : List (Kick ℝ)) :
    ∀ k ∈ ks, (ks.foldl Store.kick s).Reached k := by
  induction ks generalizing s with
  | nil => simp
  | cons k ks ih =>
    exact List.forall_mem_cons.mpr ⟨(s.reached_kick k).foldl_kick ks, ih (s.kick k)⟩

lemma gasStates_foldl_kick (hks : ∀ k ∈ ks, s.Reached k) :
    (ks.foldl kick s).gasStates = s.gasStates := by
  induction ks generalizing s with
  | nil => rfl
  | cons k ks ih =>
    obtain ⟨hk, hks⟩ := List.forall_mem_cons.mp hks
    rw [List.foldl_cons, ih fun l hl => (hks l hl).kick k, hk.gasStates]

end Store

namespace Setting

/-- One store settles the kicks of a step and its report, for all that are alike. -/
lemma exists_kicks {α : Type} [Transcendental α] (setting : Setting α) (limit : Nat)
    (batch : List Nat) (s : Store α) :
    ∃ (ks : List (Kick α)) (result : Except (Failure α) Report),
      ∀ (t : Store α) (c : SingleTask), t.Alike s → ∃ u, u.unmarked = t.unmarked ∧
        setting.step limit batch ⟨t, c⟩ = (⟨ks.foldl Store.kick u, c⟩, result) := by
  cases hsub : setting.model.subgrid with
  | true => exact ⟨[], _, fun t c _ => ⟨t, rfl, step_subgrid hsub⟩⟩
  | false =>
    cases hempty : batch.isEmpty with
    | true =>
      refine ⟨[], _, fun t c _ => ⟨t, rfl, step_nobody hsub ?_⟩⟩
      rw [hempty]
      rfl
    | false =>
      have hany : ∀ c : SingleTask, Collective.any c (!batch.isEmpty) = (true, c) := by
        intro c
        rw [hempty]
        rfl
      have hsame : ∀ (t : Store α) (c : SingleTask), t.Alike s →
          (survey setting.cosmology setting.tree limit batch ⟨t, c⟩).2 =
            (survey setting.cosmology setting.tree limit batch ⟨s, c⟩).2 :=
        fun t c h => (survey_alike h limit c).1
      have hstore : ∀ (t : Store α) (c : SingleTask),
          (survey setting.cosmology setting.tree limit batch ⟨t, c⟩).1.store.unmarked =
            t.unmarked :=
        fun t c => unmarked_survey setting.cosmology setting.tree batch limit ⟨t, c⟩
      let task : Task α SingleTask := ⟨s, ⟨⟩⟩
      cases hout : (survey setting.cosmology setting.tree limit batch task).2 with
      | error e =>
        refine ⟨[], .error e, fun t c h => ⟨_, hstore t c, ?_⟩⟩
        exact step_fault hsub (hany c) (Prod.ext rfl ((hsame t c h).trans hout))
      | ok d =>
        refine ⟨(setting.plan d.records s batch).1,
          (setting.plan d.records s batch).2.map fun n => ⟨d.rounds, batch.length, n⟩,
          fun t c h => ⟨_, hstore t c, ?_⟩⟩
        have halike := (Store.Alike.of_unmarked (hstore t c)).trans h
        rw [step_kicks hsub (hany c) (Prod.ext rfl ((hsame t c h).trans hout)),
          kickAll_plan halike]

/-- What a step decides has no part in it of what earlier steps wrote: neither the velocities that
kicks change nor timers nor marks. A second step in a row adds the same velocities once more and
finds every timer as long as it would make it. -/
theorem step_replays (setting : Setting ℝ) (limit : Nat) (batch : List Nat) {s t : Store ℝ}
    (hs : s.Filled) (ht : t.Filled) (h : s.seen = t.seen) (c : SingleTask) :
    let once := setting.step limit batch ⟨s, c⟩
    let other := setting.step limit batch ⟨t, c⟩
    let twice := setting.step limit batch once.1
    other.2 = once.2 ∧ twice.2 = once.2 ∧
      (survey setting.cosmology setting.tree limit batch ⟨t, c⟩).2 =
        (survey setting.cosmology setting.tree limit batch ⟨s, c⟩).2 ∧
      (∀ (i : Nat) (p q : Particle ℝ), s.particles[i]? = some p → t.particles[i]? = some q →
        ∃ dv : Vec ℝ,
          once.1.store.particles[i]?.map (·.vel) = some (p.vel + dv) ∧
          other.1.store.particles[i]?.map (·.vel) = some (q.vel + dv) ∧
          twice.1.store.particles[i]?.map (·.vel) = some (p.vel + dv + dv)) ∧
      twice.1.store.gasStates = once.1.store.gasStates := by
  intro once other twice
  have halike : t.Alike s := .of_slotted ht.slotted hs.slotted h.symm
  obtain ⟨ks, result, hks⟩ := setting.exists_kicks limit batch s
  obtain ⟨u, hu, honce⟩ := hks s c (.refl s)
  obtain ⟨v, hv, hother⟩ := hks t c halike
  have hfirst : (ks.foldl Store.kick u).Alike s :=
    (Store.alike_foldl_kick ks u).trans (.of_unmarked hu)
  obtain ⟨w, hw, htwice⟩ := hks (ks.foldl Store.kick u) c hfirst
  have honce' : once = (⟨ks.foldl Store.kick u, c⟩, result) := honce
  have hother' : other = (⟨ks.foldl Store.kick v, c⟩, result) := hother
  have htwice' : twice = (⟨ks.foldl Store.kick w, c⟩, result) :=
    (congrArg (setting.step limit batch ·.1) honce).trans htwice
  have hsurvey : (survey setting.cosmology setting.tree limit batch ⟨t, c⟩).2 =
      (survey setting.cosmology setting.tree limit batch ⟨s, c⟩).2 :=
    (survey_alike halike limit c).1
  rw [honce', hother', htwice']
  refine ⟨rfl, rfl, hsurvey, fun i p q hp hq => ⟨s.impulse ks i, ?_, ?_, ?_⟩, ?_⟩
  · exact Store.vel_foldl_kick hu hp ks
  · rw [Store.vel_foldl_kick hv hq ks, t.impulse_alike ks halike]
  · have hpu := Store.vel_foldl_kick hu hp ks
    obtain ⟨p', hp', hvel⟩ := Option.map_eq_some_iff.mp hpu
    rw [Store.vel_foldl_kick hw hp' ks, Store.impulse_alike _ ks hfirst, hvel]
  · have hgas : w.gasStates = (ks.foldl Store.kick u).gasStates := congrArg (·.gasStates) hw
    rw [← hgas]
    refine Store.gasStates_foldl_kick fun k hk => ?_
    exact (Store.reached_foldl_kick u ks k hk).congr (Store.Alike.of_unmarked hw).symm hgas.symm

/-- The gas and the star as an earlier step may have left them. -/
noncomputable def gasAndStarMoved : Store ℝ :=
  (Store.empty.addGas 1 1 0 ⟨3.0, 0, 0⟩ 1 5.0).push
    { Particle.new 2 .star 1 0 ⟨0, 1, 0⟩ 1 with converged := true }

noncomputable def fastSetting : Setting ℝ :=
  ⟨fastWind, .still, .const 0, .build gasAndStar.particles⟩

lemma filled_gasAndStar : gasAndStar.Filled :=
  (Store.Filled.empty.addGas 1 1 0 0 1 1).addStar 2 1 0 0 1

section

variable {records : List (StarRecord ℝ)} {r : StarRecord ℝ} (hr : records[0]? = some r)
  (hmass : r.around.gasMass = 1)

include hr hmass

lemma impulse_gasAndStar :
    gasAndStar.impulse (fastSetting.plan records gasAndStar [1]).1 0 = ⟨0, 0, -100⟩ := by
  have hb : gasAndStar.Recorded records [1] := by
    intro j hj
    obtain rfl := List.mem_singleton.mp hj
    exact ⟨_, rfl, rfl, (List.getElem?_eq_some_iff.mp hr).1⟩
  have hplan : fastSetting.kickAll records [1] gasAndStar = _ := kickAll_plan (.refl gasAndStar) [1]
  obtain ⟨s', n, hall, -, hgas, -⟩ := kickAll_exact fastWind .still (.const 0) filled_gasAndStar hb
  obtain ⟨hp, -⟩ := hgas 0 _ rfl rfl
  obtain rfl := congrArg Prod.fst (hplan.symm.trans hall)
  have hvel := Store.vel_foldl_kick (s := gasAndStar) (i := 0) rfl rfl
    (fastSetting.plan records gasAndStar [1]).1
  have hlaunch : launchOf? ⟨fastWind, .still, .const 0, .build gasAndStar.particles⟩ gasAndStar
    records 1 0 = some ⟨2, 100⟩ := launchOf?_of_gasMass hr hmass
  have hzero : gasAndStar.particles[0].vel = 0 := rfl
  simp only [hp, Option.map_some, hlaunch, List.filterMap_cons, List.filterMap_nil, List.map_cons,
    List.map_nil, List.sum_singleton, hzero, randomDirection_zero] at hvel
  simp only [Vec.add_def, Vec.smul_def, Option.some.injEq, Vec.mk.injEq, Vec.zero_x, Vec.zero_y,
    Vec.zero_z, zero_add] at hvel
  obtain ⟨hx, hy, hz⟩ := hvel
  refine Vec.ext (hx.symm.trans ?_) (hy.symm.trans ?_) (hz.symm.trans ?_) <;> norm_num

end

theorem step_replays_gasAndStar :
    ∃ limit report once other twice,
      fastSetting.step limit [1] ⟨gasAndStar, SingleTask.mk⟩ = (once, .ok report) ∧
      fastSetting.step limit [1] ⟨gasAndStarMoved, SingleTask.mk⟩ = (other, .ok report) ∧
      fastSetting.step limit [1] once = (twice, .ok report) ∧
      once.store.particles[0]?.map (·.vel) = some ⟨0, 0, -100⟩ ∧
      other.store.particles[0]?.map (·.vel) = some ⟨3.0, 0, -100⟩ ∧
      twice.store.particles[0]?.map (·.vel) = some ⟨0, 0, -200⟩ ∧
      twice.store.gasStates = once.store.gasStates := by
  have hs := filled_gasAndStar
  have hrest : gasAndStar.particles[0].vel = 0 := rfl
  have hmoved : gasAndStarMoved.particles[0].vel = ⟨3.0, 0, 0⟩ := rfl
  have hzero : ∀ v : Vec ℝ, 0 + v = v := by
    intro v
    simp [Vec.add_def]
  have ht : gasAndStarMoved.Filled :=
    (Store.Filled.empty.addGas 1 1 0 ⟨3.0, 0, 0⟩ 1 5.0).push _
  have hseen : gasAndStar.seen = gasAndStarMoved.seen := by
    simp [Store.seen, gasAndStar, gasAndStarMoved, Store.addStar, Store.addGas, Store.empty,
      Store.push, Store.pushGas, Particle.new, Particle.seen]
  have hb : ∀ i ∈ [1], gasAndStar.Searchable i := by
    intro i hi
    obtain rfl := List.mem_singleton.mp hi
    exact ⟨_, rfl, rfl, one_pos, rfl⟩
  have hn := hs.slotted.numbered (Store.Searchable.stars hb)
  obtain ⟨task, d, -, h⟩ := exists_survey .still hn hb SingleTask.mk
  obtain ⟨hr, hsettled⟩ := survey_follows h List.mem_cons_self (hn.own 1 List.mem_cons_self) rfl
  have hmass := (gasMass_of_settled hsettled).trans gasMass_gasAndStar
  have hstore : task.store.unmarked = gasAndStar.unmarked := by
    have hsurvey := unmarked_survey .still (.build gasAndStar.particles) [1]
      (gasAndStar.roundBound [1]) (Task.mk gasAndStar SingleTask.mk)
    rwa [h] at hsurvey
  have hany : Collective.any SingleTask.mk (!([1] : List Nat).isEmpty) = (true, SingleTask.mk) :=
    rfl
  obtain ⟨t, n, hkicks⟩ := exists_kickAll fastSetting (recorded_of_survey hs.slotted h)
  have hsub : fastSetting.model.subgrid = false := rfl
  have honce := step_kicks hsub hany h
  rw [hkicks] at honce
  have hkick : t.particles[0]?.map (·.vel) = some ⟨0, 0, -100⟩ := by
    have hplan : fastSetting.kickAll d.records [1] task.store = _ :=
      kickAll_plan (.of_unmarked hstore) [1]
    obtain rfl := congrArg Prod.fst (hplan.symm.trans hkicks)
    refine (Store.vel_foldl_kick hstore rfl _).trans ?_
    rw [impulse_gasAndStar hr hmass, hrest, hzero]
  obtain ⟨hother, htwice, -, hvel, hgas⟩ :=
    step_replays fastSetting (gasAndStar.roundBound [1]) [1] hs ht hseen SingleTask.mk
  obtain ⟨dv, hfirst, hthere, hsecond⟩ := hvel 0 _ _ rfl rfl
  rw [honce] at hother htwice hfirst hsecond hgas
  obtain rfl : ⟨0, 0, -100⟩ = dv := by
    simpa only [hkick, hrest, hzero, Option.some.injEq] using hfirst
  refine ⟨_, _, _, _, _, honce, Prod.ext rfl hother, Prod.ext rfl htwice, hkick, ?_, ?_, hgas⟩
  · refine hthere.trans (congrArg some ?_)
    simp [hmoved, Vec.add_def]
  · refine hsecond.trans (congrArg some ?_)
    norm_num [hrest, Vec.add_def]

end Setting

end GalacticWinds
