import GalacticWinds.Proofs.Audited
import GalacticWinds.Proofs.Wind.Plan
import GalacticWinds.Proofs.Wind.Timers

/-! What a model divides by once it is accepted. -/

namespace GalacticWinds

open Audited

section

variable {α β : Type} (f : α → β)

def Parameters.map (w : Parameters α) : Parameters β :=
  ⟨w.selection, f w.efficiency, f w.energyFraction, f w.sigma0, f w.speedFactor,
    f w.travelLength, f w.recouplingFraction⟩

def Supernovae.map (sn : Supernovae α) : Supernovae β :=
  ⟨f sn.fraction, f sn.specificEnergy, f sn.densityThreshold⟩

def Cosmology.map (c : Cosmology α) : Cosmology β :=
  ⟨f c.a, f c.hubble⟩

def Moments.map (m : Moments α) : Moments β :=
  ⟨m.count, m.first.map f, f m.second⟩

lemma Parameters.get_map (w : Parameters α) (p : Parameter) : (w.map f).get p = f (w.get p) := by
  cases p <;> rfl

end

lemma Moments.reads_dispersion (m : Moments ℝ) : (m.map ofReal).dispersion.Reads m.dispersion := by
  rw [dispersion, dispersion]
  have hcount : (m.map ofReal).count = m.count := rfl
  rw [hcount]
  split_ifs with hn
  · exact .zero
  · have hn : (0 : ℝ) < m.count := by exact_mod_cast not_le.mp hn
    have hvariance : (m.map ofReal).variance.Reads m.variance := by
      have hmean (r : ℝ) : (ofReal r / (m.count : Audited Extended)).Reads (r / m.count) :=
        (Reads.ofReal r).div (.ofInt _) hn
      exact ((((hmean m.second).sub ((hmean m.first.x).mul (hmean m.first.x))).sub
        ((hmean m.first.y).mul (hmean m.first.y))).sub ((hmean m.first.z).mul (hmean m.first.z)))
    have hthree : (3.0 : Audited Extended).Reads 3.0 := .ofReal 3.0
    exact ((hvariance.div hthree (by norm_num)).max .zero).sqrt (le_max_right _ _)

namespace Cosmology

variable {c : Cosmology ℝ}

lemma reads_densityFactor (ha : 0 < c.a) : (c.map ofReal).densityFactor.Reads c.densityFactor := by
  have ha' : (c.map ofReal).a.Reads c.a := .ofReal c.a
  exact Reads.one.div ((ha'.mul ha').mul ha') (by positivity)

lemma reads_properTime (step : ℝ) :
    ((c.map ofReal).properTime (ofReal step)).Reads (c.properTime step) := by
  have hh : (c.map ofReal).hubble.Reads c.hubble := .ofReal c.hubble
  rw [properTime, properTime]
  simp only [Reads.zero.lt_iff hh]
  split_ifs with hpos
  · exact (Reads.ofReal step).div hh hpos
  · exact .ofReal step

end Cosmology

namespace Parameters

lemma inRange_ofReal {r : ℝ} : inRange (ofReal r) = true ↔ 0 ≤ r := by
  rw [inRange, Bool.and_eq_true, Bool.not_eq_true', decide_eq_false_iff_not,
    (Reads.ofReal r).lt_iff .zero, not_lt]
  exact and_iff_right rfl

lemma fault?_ofReal_eq_none_iff {w : Parameters ℝ} :
    (w.map ofReal).fault? = none ↔ w.fault? = none := by
  have heff : (w.map ofReal).efficiency ≤ 0 ↔ w.efficiency ≤ 0 := (Reads.ofReal _).le_iff .zero
  have hkind : (w.map ofReal).selection = w.selection := rfl
  rw [faultless_iff, fault?_eq_none_iff, heff, hkind]
  simp only [get_map, inRange_ofReal, not_and, not_le]

end Parameters

structure Launch.Reads (l : Launch (Audited Extended)) (k : Launch ℝ) : Prop where
  efficiency : l.efficiency.Reads k.efficiency
  speed : l.speed.Reads k.speed

lemma Launch.Reads.chance {l : Launch (Audited Extended)} {k : Launch ℝ} (hl : l.Reads k)
    (starMass gasMass : ℝ) :
    (l.chance (ofReal starMass) (ofReal gasMass)).Reads (k.chance starMass gasMass) := by
  rw [Launch.chance, Launch.chance]
  simp only [(Audited.Reads.ofReal gasMass).le_iff .zero]
  split_ifs with hgas
  · exact .zero
  · exact (hl.efficiency.mul (.ofReal starMass)).div (.ofReal gasMass) (not_le.mp hgas)

namespace Model

structure Reads (audited : Model (Audited Extended)) (model : Model ℝ) : Prop where
  kinetic : audited.kinetic = model.kinetic
  subgrid : audited.subgrid = model.subgrid
  decouples : audited.decouples = model.decouples
  efficiency : audited.efficiency.Reads model.efficiency
  energyFraction : audited.energyFraction.Reads model.energyFraction
  speed : audited.speed.Reads model.speed
  sigma0 : audited.sigma0.Reads model.sigma0
  speedFactor : audited.speedFactor.Reads model.speedFactor
  travelLength : audited.travelLength.Reads model.travelLength
  recouplingFraction : audited.recouplingFraction.Reads model.recouplingFraction
  recouplingDensity : audited.recouplingDensity.Reads model.recouplingDensity

section

variable {w : Parameters ℝ} {sn : Supernovae ℝ}

/-- What the reference speed is the root of. -/
noncomputable def speedSq (w : Parameters ℝ) (sn : Supernovae ℝ) : ℝ :=
  2.0 * w.energyFraction * sn.fraction * sn.specificEnergy / (1 - sn.fraction)

variable (hf : sn.fraction < 1)

include hf

lemma reads_speedSq : ∃ x : Audited Extended, x.Reads (speedSq w sn) ∧
    referenceSpeed (w.map ofReal) (sn.map ofReal) = Scalar.sqrt x := by
  have htwo : (2.0 : Audited Extended).Reads 2.0 := .ofReal 2.0
  refine ⟨_, ((((htwo.mul (.ofReal w.energyFraction)).mul (.ofReal sn.fraction)).mul
    (.ofReal sn.specificEnergy)).div (Audited.Reads.one.sub (.ofReal sn.fraction))
      (sub_pos.mpr hf)), rfl⟩

lemma speedSq_nonneg
    (h : Scalar.isFinite (launchSpeed (w.map ofReal) (sn.map ofReal)) = true) :
    0 ≤ speedSq w sn := by
  by_contra hneg
  obtain ⟨x, hx, hroot⟩ := reads_speedSq (w := w) hf
  have hnan : (referenceSpeed (w.map ofReal) (sn.map ofReal)).value = .nan := by
    rw [hroot]
    exact hx.sqrt_neg (not_le.mp hneg)
  have hspeed : (launchSpeed (w.map ofReal) (sn.map ofReal)).value = .nan := by
    rw [launchSpeed]
    cases (w.map ofReal).selection.kinetic with
    | fixedEfficiency => exact value_div_of_nan hnan _
    | haloDispersion => exact hnan
  have hfinite : Scalar.isFinite (launchSpeed (w.map ofReal) (sn.map ofReal)) = false :=
    congrArg Scalar.isFinite hspeed
  exact Bool.noConfusion (hfinite.symm.trans h)

variable (heff : w.selection.kinetic = .fixedEfficiency → 0 < w.efficiency)

include heff

lemma reads_launchSpeed (henergy : 0 ≤ speedSq w sn) :
    (launchSpeed (w.map ofReal) (sn.map ofReal)).Reads (launchSpeed w sn) := by
  obtain ⟨x, hx, hroot⟩ := reads_speedSq (w := w) hf
  have hspeed : (referenceSpeed (w.map ofReal) (sn.map ofReal)).Reads (referenceSpeed w sn) := by
    rw [hroot]
    exact hx.sqrt henergy
  have hkind : (w.map ofReal).selection = w.selection := rfl
  rw [launchSpeed, launchSpeed, hkind]
  cases hk : w.selection.kinetic with
  | haloDispersion => exact hspeed
  | fixedEfficiency =>
    have heff := heff hk
    exact hspeed.div ((Audited.Reads.ofReal w.efficiency).sqrt heff.le) (Real.sqrt_pos.mpr heff)

omit hf

lemma fault?_ofReal_eq_none_iff :
    fault? (w.map ofReal) (sn.map ofReal) = none ↔ fault? w sn = none ∧ 0 ≤ speedSq w sn := by
  have hbounds : (0 ≤ (sn.map ofReal).fraction ∧ (sn.map ofReal).fraction < 1) ↔
      0 ≤ sn.fraction ∧ sn.fraction < 1 :=
    and_congr (Audited.Reads.zero.le_iff (.ofReal _)) ((Audited.Reads.ofReal _).lt_iff .one)
  have hfactor : (w.map ofReal).speedFactor ≤ 0 ↔ w.speedFactor ≤ 0 :=
    (Audited.Reads.ofReal _).le_iff .zero
  have hkind : (w.map ofReal).selection = w.selection := rfl
  rw [faultless_iff, fault?_eq_none_iff, hbounds, hfactor, hkind]
  constructor
  · rintro ⟨hf, hfinite, hpos, hnonzero⟩
    have hsq := speedSq_nonneg hf.2 hfinite
    rw [(reads_launchSpeed hf.2 heff hsq).le_iff .zero] at hpos
    exact ⟨⟨hf, fun hu => not_le.mp fun hle => hpos ⟨hu, hle⟩,
      fun hu => not_le.mp fun hle => hnonzero ⟨hu, hle⟩⟩, hsq⟩
  · rintro ⟨⟨hf, hpos, hnonzero⟩, hsq⟩
    have hspeed := reads_launchSpeed hf.2 heff hsq
    rw [hspeed.le_iff .zero]
    exact ⟨hf, Extended.isFinite_iff.mpr ⟨_, hspeed.value⟩, fun hu => not_le.mpr (hpos hu.1) hu.2,
      fun hu => not_le.mpr (hnonzero hu.1) hu.2⟩

omit heff

lemma efficiency_pos (hw : w.fault? = none) (hk : w.selection.kinetic = .fixedEfficiency) :
    0 < w.efficiency :=
  (Parameters.fault?_eq_none_iff.mp hw).2 hk

lemma derive_reads {audited : Model (Audited Extended)}
    (h : derive (w.map ofReal) (sn.map ofReal) = .ok audited) :
    ∃ model, derive w sn = .ok model ∧ audited.Reads model := by
  obtain ⟨hw, hsn, rfl⟩ := derive_eq_ok_iff.mp h
  rw [Parameters.fault?_ofReal_eq_none_iff] at hw
  have heff := efficiency_pos hw
  obtain ⟨hsn, hsq⟩ := (fault?_ofReal_eq_none_iff heff).mp hsn
  have hf := (fault?_eq_none_iff.mp hsn).1.2
  exact ⟨_, derive_eq_ok_iff.mpr ⟨hw, hsn, rfl⟩, rfl, rfl, rfl, .ofReal _, .ofReal _,
    reads_launchSpeed hf heff hsq, .ofReal _, .ofReal _, .ofReal _, .ofReal _,
    (Audited.Reads.ofReal _).mul (.ofReal _)⟩

lemma exists_derive_ofReal {model : Model ℝ} (h : derive w sn = .ok model)
    (hsq : 0 ≤ speedSq w sn) :
    ∃ audited, derive (w.map ofReal) (sn.map ofReal) = .ok audited := by
  obtain ⟨hw, hsn, -⟩ := derive_eq_ok_iff.mp h
  exact ⟨_, derive_eq_ok_iff.mpr ⟨Parameters.fault?_ofReal_eq_none_iff.mpr hw,
    (fault?_ofReal_eq_none_iff (efficiency_pos hw)).mpr ⟨hsn, hsq⟩, rfl⟩⟩

end

section

variable {w : Parameters ℝ} {sn : Supernovae ℝ} {model : Model ℝ} {c : Cosmology ℝ}
  {dispersion : ℝ} {k : Launch ℝ}

lemma spawnProbability_nonneg (h : 0 ≤ model.efficiency) {starMass parentMass : ℝ}
    (hstar : 0 ≤ starMass) (hparent : 0 ≤ parentMass) :
    0 ≤ model.spawnProbability starMass parentMass := by
  have hrate : 0 ≤ model.efficiency * starMass / parentMass := by positivity
  exact sub_nonneg.mpr (Real.exp_le_one_iff.mpr (neg_nonpos.mpr hrate))

variable (h : derive w sn = .ok model)

include h

lemma efficiency_nonneg : 0 ≤ model.efficiency := by
  obtain ⟨hw, -, rfl⟩ := derive_eq_ok_iff.mp h
  exact (Parameters.fault?_eq_none_iff.mp hw).1 .efficiency

lemma speedFactor_pos (hk : model.kinetic = .haloDispersion) (hsub : model.subgrid = false) :
    0 < model.speedFactor := by
  obtain ⟨-, hsn, rfl⟩ := derive_eq_ok_iff.mp h
  refine (fault?_eq_none_iff.mp hsn).2.2 ?_
  have hkind : w.selection.kinetic = .haloDispersion := hk
  have hdirect : w.selection.subgrid = false := hsub
  rw [usesSpeed, hkind, hdirect]
  rfl

lemma chance_nonneg (hk : model.launch? c dispersion = some k) {starMass : ℝ}
    (hstar : 0 ≤ starMass) (gasMass : ℝ) : 0 ≤ k.chance starMass gasMass := by
  have hefficiency : 0 ≤ k.efficiency := by
    obtain ⟨-, rfl⟩ | ⟨-, -, rfl⟩ := launch?_cases hk
    · exact efficiency_nonneg h
    · exact sq_nonneg _
  rw [Launch.chance]
  split_ifs with hgas
  · exact le_rfl
  · exact div_nonneg (mul_nonneg hefficiency hstar) (not_le.mp hgas).le

lemma launch_speed_pos (ha : 0 < c.a) (hsub : model.subgrid = false)
    (hk : model.launch? c dispersion = some k) : 0 < k.speed := by
  obtain ⟨hkind, rfl⟩ | ⟨hkind, hd, rfl⟩ := launch?_cases hk
  · exact mul_pos ((accepted_of_derive h).speed (.inl hkind)) ha
  · exact mul_pos (speedFactor_pos h hkind hsub) hd

end

namespace Reads

variable {audited : Model (Audited Extended)} {model : Model ℝ} (hm : audited.Reads model)
  {c : Cosmology ℝ}

include hm

lemma spawnProbability (starMass : ℝ) {parentMass : ℝ} (hparent : 0 < parentMass) :
    (audited.spawnProbability (ofReal starMass) (ofReal parentMass)).Reads
      (model.spawnProbability starMass parentMass) :=
  Audited.Reads.one.sub
    ((hm.efficiency.mul (.ofReal starMass)).div (.ofReal parentMass) hparent).neg.exp

variable (ha : 0 < c.a)

include ha

lemma travelTime {x : Audited Extended} {v : ℝ} (hx : x.Reads v) (hv : 0 < v) :
    (audited.travelTime (c.map ofReal) x).Reads (model.travelTime c v) :=
  hm.travelLength.div (hx.div (.ofReal c.a) ha) (div_pos hv ha)

lemma launch {dispersion : ℝ} {l : Launch (Audited Extended)}
    (hl : audited.launch? (c.map ofReal) (ofReal dispersion) = some l) :
    ∃ k, model.launch? c dispersion = some k ∧ l.Reads k := by
  have ha' : (c.map ofReal).a.Reads c.a := .ofReal c.a
  have hd : (ofReal dispersion).Reads dispersion := .ofReal dispersion
  rw [launch?, hm.kinetic] at hl
  rw [launch?]
  cases hkind : model.kinetic with
  | fixedEfficiency =>
    rw [hkind] at hl
    rw [← Option.some.inj hl]
    exact ⟨_, rfl, hm.efficiency, hm.speed.mul ha'⟩
  | haloDispersion =>
    simp only [hkind, hd.le_iff .zero] at hl ⊢
    split_ifs at hl ⊢ with hpos
    rw [← Option.some.inj hl]
    have hratio := hm.sigma0.div (hd.div ha' ha) (div_pos (not_le.mp hpos) ha)
    exact ⟨_, rfl, hratio.mul hratio, hm.speedFactor.mul hd⟩

end Reads

/-- What the model works out at a time divides by positive numbers alone. It launches at positive
speeds, and neither times nor chances are below zero. -/
structure Guarded (audited : Model (Audited Extended)) (model : Model ℝ) (c : Cosmology ℝ) :
    Prop where
  densityFactor : (c.map ofReal).densityFactor.Reads c.densityFactor
  properTime : ∀ step, ((c.map ofReal).properTime (ofReal step)).Reads (c.properTime step)
  launch : ∀ dispersion l, audited.launch? (c.map ofReal) (ofReal dispersion) = some l →
    ∃ k, model.launch? c dispersion = some k ∧ l.Reads k ∧
      (∀ starMass gasMass,
        (l.chance (ofReal starMass) (ofReal gasMass)).Reads (k.chance starMass gasMass) ∧
          (0 ≤ starMass → 0 ≤ k.chance starMass gasMass)) ∧
      (model.subgrid = false → 0 < k.speed ∧
        (audited.travelTime (c.map ofReal) l.speed).Reads (model.travelTime c k.speed) ∧
          0 ≤ model.travelTime c k.speed)
  spawnProbability : ∀ starMass parentMass,
    (0 < parentMass → (audited.spawnProbability (ofReal starMass) (ofReal parentMass)).Reads
      (model.spawnProbability starMass parentMass)) ∧
    (0 ≤ starMass → 0 ≤ parentMass → 0 ≤ model.spawnProbability starMass parentMass)
  spawn : ∀ random starMass p h g,
    audited.spawn? (c.map ofReal) random starMass p h = some g →
      ∃ (x : Audited Extended) (v time : ℝ), x.Reads v ∧ 0 < v ∧
        g.1 = p.kick (x * randomDirection random p.id) ∧ g.2.delay.Reads time ∧ 0 ≤ time

lemma guarded {w : Parameters ℝ} {sn : Supernovae ℝ} {audited : Model (Audited Extended)}
    {model : Model ℝ} (h : derive w sn = .ok model) (hm : audited.Reads model) {c : Cosmology ℝ}
    (ha : 0 < c.a) : audited.Guarded model c where
  densityFactor := c.reads_densityFactor ha
  properTime := c.reads_properTime
  launch dispersion l hl := by
    obtain ⟨k, hk, hreads⟩ := hm.launch ha hl
    refine ⟨k, hk, hreads, fun starMass gasMass => ⟨hreads.chance starMass gasMass, fun hstar =>
      chance_nonneg h hk hstar gasMass⟩, fun hsub => ?_⟩
    have hspeed := launch_speed_pos h ha hsub hk
    exact ⟨hspeed, hm.travelTime ha hreads.speed hspeed,
      (allows_travelTime ha (accepted_of_derive h) hsub hk).nonneg⟩
  spawnProbability starMass parentMass :=
    ⟨hm.spawnProbability starMass, spawnProbability_nonneg (efficiency_nonneg h)⟩
  spawn random starMass p g₀ g hg := by
    rw [spawn?] at hg
    split_ifs at hg with hsub
    rw [← Option.some.inj hg]
    have hm' := accepted_of_derive h
    have hspeed := hm'.speed (.inr (by simpa [hm.subgrid] using hsub))
    have hreads : (audited.speed * (c.map ofReal).a).Reads (model.speed * c.a) :=
      hm.speed.mul (.ofReal c.a)
    have hv := mul_pos hspeed ha
    refine ⟨_, _, _, hreads, hv, rfl, hm.travelTime ha hreads hv, ?_⟩
    rw [travelTime_own ha]
    exact div_nonneg hm'.travelLength hspeed.le

end Model

/-- A model that is accepted divides by positive numbers alone: on the way to it, for the dispersion
of any moments, and at any time. A step launches as often as it reports, always at a positive speed
and never for a time below zero. -/
theorem divisors_pos {w : Parameters ℝ} {sn : Supernovae ℝ} {audited : Model (Audited Extended)}
    (h : Model.derive (w.map ofReal) (sn.map ofReal) = .ok audited) :
    ∃ model, Model.derive w sn = .ok model ∧ audited.Reads model ∧
      (∀ m : Moments ℝ, (m.map ofReal).dispersion.Reads m.dispersion) ∧
      ∀ c : Cosmology ℝ, 0 < c.a → audited.Guarded model c ∧
        ∀ (C : Type) [Collective C] (random : RandomSource ℝ) (tree : Octree ℝ) (limit : Nat)
          (batch : List Nat) (task : Task ℝ C),
          let after := Setting.step ⟨model, c, random, tree⟩ limit batch task
          ∃ (u : Store ℝ) (ks : List (Kick ℝ)), u.unmarked = task.store.unmarked ∧
            after.1.store = ks.foldl Store.kick u ∧
            (∀ r, after.2 = .ok r → r.launched = ks.length) ∧
            ∀ k ∈ ks, 0 ≤ k.delay ∧
              ∃ (v : ℝ) (key : UInt64), 0 < v ∧ k.velocity = v * randomDirection random key := by
  obtain ⟨model, hmodel, hm⟩ := Model.derive_reads h
  refine ⟨model, hmodel, hm, Moments.reads_dispersion, fun c ha => ⟨Model.guarded hmodel hm ha,
    fun C _ random tree limit batch task => ?_⟩⟩
  obtain ⟨u, ks, hu, hstore, hlaunched, hks⟩ :=
    Setting.gives_step ⟨model, c, random, tree⟩ limit batch task
  refine ⟨u, ks, hu, hstore, hlaunched, fun k hk => ?_⟩
  obtain ⟨hsub, dispersion, l, key, hl, hvelocity, hdelay⟩ := hks k hk
  rw [hdelay]
  exact ⟨(Model.allows_travelTime ha (Model.accepted_of_derive hmodel) hsub hl).nonneg, l.speed,
    key, Model.launch_speed_pos hmodel ha hsub hl, hvelocity⟩

theorem divisors_pos_usual :
    ∃ w audited model, Model.derive (w.map ofReal) (Model.halfExplode.map ofReal) = .ok audited ∧
      Model.derive w Model.halfExplode = .ok model ∧ audited.speed.Reads model.speed ∧
        audited.Guarded model .still := by
  obtain ⟨model, hmodel, -⟩ := Model.exists_derive_usual false
  obtain ⟨audited, h⟩ := Model.exists_derive_ofReal hmodel
    (by norm_num [Model.speedSq, Model.halfExplode])
  obtain ⟨model, hmodel, hm, -, hguarded⟩ := divisors_pos h
  exact ⟨_, audited, model, h, hmodel, hm.speed, (hguarded .still one_pos).1⟩

end GalacticWinds
