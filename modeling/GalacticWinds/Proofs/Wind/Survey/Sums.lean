import GalacticWinds.Proofs.Wind.Survey.Counts

/-! One search around a star as sums over all particles, in which neither the tree nor the order of
the particles nor the larger of the two radii has a part. -/

namespace GalacticWinds

open scoped List

namespace Store

lemma filterMap_range {α β : Type} (s : Store α) (f : Particle α → Option β) :
    (List.range s.size).filterMap (fun i => s.particles[i]?.bind f) =
      s.particles.toList.filterMap f :=
  calc (List.range s.size).filterMap (fun i => s.particles[i]?.bind f)
    _ = ((List.range s.size).map fun i => s.particles[i]?).filterMap (Option.bind · f) := by
      rw [List.filterMap_map]
      rfl
    _ = s.particles.toList.filterMap f := by
      rw [map_range, List.filterMap_map]
      rfl

noncomputable def within (s : Store ℝ) (k : Species) (c : Vec ℝ) (r : ℝ) : List (Particle ℝ) :=
  s.particles.toList.filter fun p => p.species = k ∧ (c - p.pos).norm ≤ r

variable (s : Store ℝ) (c : Vec ℝ) (r : ℝ)

lemma filterMap_within {β : Type} (k : Species) (f : Particle ℝ → β) :
    (s.particles.toList.filterMap fun p =>
      if p.species = k ∧ (c - p.pos).norm ≤ r then some (f p) else none) =
      (s.within k c r).map f := by
  rw [within, ← List.filterMap_eq_map, List.filterMap_filter]
  simp

lemma within_perm {s t : Store ℝ} (h : t.particles.toList ~ s.particles.toList) (k : Species)
    (c : Vec ℝ) (r : ℝ) : t.within k c r ~ s.within k c r :=
  h.filter _

lemma flowWithin_eq_map (cosmology : Cosmology ℝ) :
    s.flowWithin cosmology c r = (s.within .darkMatter c r).map fun p =>
      p.vel + (c - p.pos).map cosmology.hubbleFlow := by
  rw [flowWithin_eq, filterMap_range, filterMap_within]

lemma mass_gasWithin :
    (s.gasWithin c r).map (·.2) = (s.within .gas c r).map (·.mass) := by
  rw [gasWithin, List.map_filterMap, ← filterMap_within, ← filterMap_range]
  refine List.filterMap_congr fun i _ => ?_
  cases s.particles[i]? with
  | none => rfl
  | some p => simp [apply_ite]

end Store

lemma gasMass_gather_build (cosmology : Cosmology ℝ) (maxRadius : ℝ) (q : StarQuery ℝ)
    (s : Store ℝ) :
    ((surveyWalk cosmology maxRadius).gather (.build s.particles) s.particles q).gasMass =
      ((s.within .gas q.star.pos q.star.hsml).map (·.mass)).sum := by
  have hmass := (weighed_perm q s).map (·.2)
  rw [List.map_map, Store.mass_gasWithin] at hmass
  rw [gasMass_gather, ← hmass.sum_eq]
  rfl

/-- What one search finds: the mass of the gas as near as the smoothing length, and the moments of
the dark matter as near as the radius that is tried, with the flow of the background in its
velocities. -/
theorem gather_build_exact (cosmology : Cosmology ℝ) (maxRadius : ℝ) (s : Store ℝ)
    (q : StarQuery ℝ) :
    let found (s : Store ℝ) :=
      (surveyWalk cosmology maxRadius).gather (.build s.particles) s.particles q
    let gas := s.within .gas q.star.pos q.star.hsml
    let dark := s.within .darkMatter q.star.pos q.record.bracket.radius
    let flow (p : Particle ℝ) : Vec ℝ :=
      ⟨p.vel.x + cosmology.hubble * cosmology.a * cosmology.a * (q.star.pos.x - p.pos.x),
        p.vel.y + cosmology.hubble * cosmology.a * cosmology.a * (q.star.pos.y - p.pos.y),
        p.vel.z + cosmology.hubble * cosmology.a * cosmology.a * (q.star.pos.z - p.pos.z)⟩
    (found s).gasMass = (gas.map (·.mass)).sum ∧
    (found s).darkMatter.count = dark.length ∧
    (found s).darkMatter.first =
      ⟨(dark.map fun p => (flow p).x).sum, (dark.map fun p => (flow p).y).sum,
        (dark.map fun p => (flow p).z).sum⟩ ∧
    (found s).darkMatter.second =
      (dark.map fun p => (flow p).x ^ 2 + (flow p).y ^ 2 + (flow p).z ^ 2).sum ∧
    ∀ t : Store ℝ, t.particles.toList ~ s.particles.toList → found t = found s := by
  intro found gas dark flow
  have hgas : ∀ s : Store ℝ, (found s).gasMass =
      ((s.within .gas q.star.pos q.star.hsml).map (·.mass)).sum :=
    gasMass_gather_build cosmology maxRadius q
  have hdark : ∀ s : Store ℝ, (found s).darkMatter =
      .ofList ((s.within .darkMatter q.star.pos q.record.bracket.radius).map flow) := by
    intro s
    refine (darkMatter_gather_build cosmology maxRadius q s).trans ?_
    rw [Store.flowWithin_eq_map]
    rfl
  have hmoments := hdark s
  rw [Moments.ofList_real] at hmoments
  simp only [List.map_map, List.length_map, Vec.normSq_real] at hmoments
  refine ⟨hgas s, ?_, ?_, ?_, fun t ht => ?_⟩
  · rw [hmoments]
  · rw [hmoments]
    rfl
  · rw [hmoments]
    rfl
  · have hmass : (found t).gasMass = (found s).gasMass := by
      rw [hgas, hgas, ((Store.within_perm ht _ _ _).map _).sum_eq]
    have hmatter : (found t).darkMatter = (found s).darkMatter := by
      rw [hdark, hdark, Moments.ofList_perm ((Store.within_perm ht _ _ _).map _)]
    calc found t
      _ = ⟨(found t).gasMass, (found t).darkMatter⟩ := rfl
      _ = ⟨(found s).gasMass, (found s).darkMatter⟩ := by rw [hmass, hmatter]
      _ = found s := rfl

noncomputable def gasThenMatter : Store ℝ :=
  (Store.empty.addGas 1 5.0 0 0 1 1).addDarkMatter 2 1 ⟨2.0, 0, 0⟩ 0

noncomputable def matterThenGas : Store ℝ :=
  (Store.empty.addDarkMatter 2 1 ⟨2.0, 0, 0⟩ 0).addGas 1 5.0 0 0 1 1

theorem gather_matterThenGas :
    let found (s : Store ℝ) := (surveyWalk .still 0).gather (.build s.particles) s.particles
      ⟨.new 3 .star 1 0 0 1, .ofHsml 1⟩
    (found gasThenMatter).gasMass = 5.0 ∧ (found gasThenMatter).darkMatter.count = 1 ∧
      found matterThenGas = found gasThenMatter := by
  intro found
  have hperm : matterThenGas.particles.toList ~ gasThenMatter.particles.toList :=
    .swap _ _ []
  have hgas : ((0 : Vec ℝ) - 0).norm = 0 := by
    simp [Vec.norm_real, Vec.normSq_real]
  have hmatter : ((0 : Vec ℝ) - ⟨2.0, 0, 0⟩).norm = 2.0 * 1 := by
    rw [Vec.norm_real, Vec.normSq_real, Vec.sub_def, Real.sqrt_eq_iff_mul_self_eq_of_pos]
    · norm_num
    · norm_num
  obtain ⟨hmass, hcount, -, -, hfound⟩ := gather_build_exact .still 0 gasThenMatter
    ⟨.new 3 .star 1 0 0 1, .ofHsml 1⟩
  refine ⟨hmass.trans ?_, hcount.trans ?_, hfound matterThenGas hperm⟩
  · simp [Store.within, gasThenMatter, Store.addDarkMatter, Store.addGas, Store.push,
      Store.pushGas, Store.empty, Particle.new, hgas]
  · simp [Store.within, gasThenMatter, Store.addDarkMatter, Store.addGas, Store.push,
      Store.pushGas, Store.empty, Particle.new, StarRecord.ofHsml, Bracket.ofHsml, hmatter]

end GalacticWinds
