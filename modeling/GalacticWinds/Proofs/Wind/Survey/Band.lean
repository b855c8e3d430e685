import GalacticWinds.Proofs.Wind.Survey.Shared

/-! The band is found where there is room for it: no interval ever leaves out a radius that
encloses enough and not too much. -/

namespace GalacticWinds

/-- From `near` on a radius encloses enough, and up to `far` not too much. -/
structure Bracket.Straddles (near far : ℝ) (b : Bracket ℝ) : Prop where
  left_le : b.left ≤ near
  le_right : 0 ≤ b.right → far ≤ b.right

namespace Bracket

variable {near far maxRadius : ℝ} {b : Bracket ℝ}

lemma straddles_ofHsml (hnear : 0 ≤ near) (hsml : ℝ) : (ofHsml hsml).Straddles near far where
  left_le := hnear
  le_right h := by
    have hneg : (0 : ℝ) ≤ -1 := h
    norm_num at hneg

lemma Straddles.close {count : ℕ} (hb : b.Straddles near far)
    (hfew : count < 38 → b.radius ≤ near) (hmany : 42 < count → far ≤ b.radius) :
    (b.close count).Straddles near far := by
  rw [Bracket.close]
  split_ifs with hf hm
  · rw [tooFew_iff (fits_natCast count)] at hf
    exact ⟨hfew (by omega), hb.le_right⟩
  · rw [tooMany_iff (fits_natCast count)] at hm
    exact ⟨hb.left_le, fun _ => hmany (by omega)⟩
  · exact hb

lemma Straddles.step {count : ℕ} (hb : b.Straddles near far)
    (hfew : count < 38 → b.radius ≤ near) (hmany : 42 < count → far ≤ b.radius) {b' : Bracket ℝ}
    {done : Bool} (h : b.step count maxRadius = (b', done)) : b'.Straddles near far := by
  obtain ⟨hleft, hright⟩ := ends_step b count maxRadius
  obtain ⟨hl, hr⟩ := hb.close hfew hmany
  rw [h] at hleft hright
  exact ⟨hleft ▸ hl, hright ▸ hr⟩

end Bracket

namespace Store

variable {s : Store ℝ}

/-- The radii at which the counts around a point enter the band and leave it. -/
structure Room (s : Store ℝ) (c : Vec ℝ) (near far : ℝ) : Prop where
  near_nonneg : 0 ≤ near
  wide : 1e-2 ≤ far - near
  few : ∀ r, (s.darkMatterWithin c r).length < 38 → r ≤ near
  many : ∀ r, 42 < (s.darkMatterWithin c r).length → far ≤ r

lemma exists_room {c : Vec ℝ} (henough : 38 ≤ (s.placesOf .darkMatter).length)
    (hwide : (s.placesOf .darkMatter).length < 43 ∨
      ∃ near far, s.darkMatterDistance? c 38 = some near ∧ s.darkMatterDistance? c 43 = some far ∧
        1e-2 ≤ far - near) :
    ∃ near far, s.Room c near far := by
  obtain ⟨near, hnonneg, hnear⟩ := exists_darkMatterDistance henough c
  have hfew : ∀ r, (s.darkMatterWithin c r).length < 38 → r ≤ near := by
    intro r hr
    have hlt := mt (lt_length_darkMatterWithin_iff hnear r).mpr (by omega)
    exact (not_le.mp hlt).le
  rcases hwide with hall | ⟨near', far, hnear', hfar, hgap⟩
  · -- all the dark matter there is would not be too much
    refine ⟨near, near + 1e-2, hnonneg, by linarith, hfew, fun r hr => ?_⟩
    have hle := s.length_darkMatterWithin_le (c := c) r
    omega
  · obtain rfl := Option.some.inj (hnear.symm.trans hnear')
    exact ⟨near, far, hnonneg, hgap, hfew, fun r => (lt_length_darkMatterWithin_iff hfar r).mp⟩

end Store

variable {cosmology : Cosmology ℝ} {s : Store ℝ} {p : Particle ℝ} {near far : ℝ}

lemma Store.Room.step (hroom : s.Room p.pos near far) {r : StarRecord ℝ} {b : Bracket ℝ}
    {done : Bool} (hb : r.bracket.Straddles near far)
    (h : r.bracket.step (lookAround cosmology (.build s.particles) s p r).around.darkMatter.count
      (Octree.build s.particles).diagonal = (b, done)) : b.Straddles near far := by
  rw [count_lookAround] at h
  exact hb.step (hroom.few _) (hroom.many _) h

lemma straddles_of_settled (hroom : s.Room p.pos near far) {n : ℕ}
    (hn : (alone cosmology (.build s.particles) s p n).2 = true) :
    (alone cosmology (.build s.particles) s p n).1.bracket.Straddles near far := by
  obtain ⟨m, -, hm, hc⟩ := exists_of_settled hn
  have hb : (alone cosmology (.build s.particles) s p m).1.bracket.Straddles near far :=
    unsettled_induction (P := fun _ b => b.Straddles near far)
      (Bracket.straddles_ofHsml hroom.near_nonneg _) (fun _ _ _ hb hstep => hroom.step hb hstep) hm
  obtain ⟨-, -, hstep⟩ := StarRecord.conclude_done hc
  exact hroom.step hb hstep

/-- A star with dark matter enough, and a gap after it that the search cannot miss, ends in the
band: neither a narrow interval nor the diagonal of the store stops it outside. -/
theorem survey_reaches_band (cosmology : Cosmology ℝ) {s : Store ℝ} {limit : Nat}
    {batch : List Nat} {c : SingleTask} {task : Task ℝ SingleTask} {d : Survey ℝ}
    (h : survey cosmology (.build s.particles) limit batch ⟨s, c⟩ = (task, .ok d)) {i : Nat}
    (hi : i ∈ batch) (hown : s.Owned batch i) {p : Particle ℝ} (hp : s.particles[i]? = some p)
    (henough : 38 ≤ (s.placesOf .darkMatter).length)
    (hwide : (s.placesOf .darkMatter).length < 43 ∨
      ∃ near far, s.darkMatterDistance? p.pos 38 = some near ∧
        s.darkMatterDistance? p.pos 43 = some far ∧ 1e-2 ≤ far - near) :
    ∃ r, d.records[p.slot]? = some r ∧
      38 ≤ r.around.darkMatter.count ∧ r.around.darkMatter.count ≤ 42 := by
  obtain ⟨hr, hsettled⟩ := survey_follows h hi hown hp
  obtain ⟨near, far, hroom⟩ := Store.exists_room henough hwide
  obtain ⟨hleft, hright⟩ := straddles_of_settled hroom hsettled
  obtain ⟨-, hexit⟩ := exit_of_settled hp (Prod.ext rfl hsettled)
  refine ⟨_, hr, ?_⟩
  rcases hexit with hband | ⟨hbounded, hnarrow⟩ | ⟨-, hfew, hall⟩
  · exact hband
  · -- the interval spans the gap, so it is never narrow
    have hgap := hroom.wide
    have hfar := hright hbounded
    linarith
  · omega

/-- A star whose slot is taken by another one can end outside, however wide the gap. -/
theorem survey_misses_band :
    ∃ (task : Task ℝ SingleTask) (d : Survey ℝ) (p : Particle ℝ) (near far : ℝ) (r : StarRecord ℝ),
      survey .still (.build rivals.particles) 1 [0, 1] ⟨rivals, SingleTask.mk⟩ = (task, .ok d) ∧
      rivals.particles[0]? = some p ∧ 38 ≤ (rivals.placesOf .darkMatter).length ∧
      rivals.darkMatterDistance? p.pos 38 = some near ∧
      rivals.darkMatterDistance? p.pos 43 = some far ∧ 1e-2 ≤ far - near ∧
      d.records[p.slot]? = some r ∧ r.around.darkMatter.count = 43 := by
  obtain ⟨task, d, h, hr⟩ := rivals.exists_survey
  have hdistances : rivals.distancesTo loneParticle.pos =
      List.replicate 38 0 ++ List.replicate 5 0.012 := by
    refine (rivals.distances 0).trans ?_
    norm_num
  have hheaps := Store.darkMatterDistance_of_heaps (by norm_num) hdistances
  have henough : 38 ≤ (rivals.placesOf .darkMatter).length := by
    rw [← Store.length_distancesTo rivals loneParticle.pos, hdistances]
    simp
  exact ⟨task, d, loneParticle, 0, 0.012, _, h, rivals.star_first, henough, (hheaps 38).trans rfl,
    (hheaps 43).trans rfl, by norm_num, hr, rivals.alone_second.2.1⟩

theorem survey_reaches_band_companions :
    ∃ (task : Task ℝ SingleTask) (d : Survey ℝ),
      survey .still (.build companions.particles) 3 [0, 1] ⟨companions, SingleTask.mk⟩ =
        (task, .ok d) ∧
      ∃ r : StarRecord ℝ, d.records[0]? = some r ∧
        38 ≤ r.around.darkMatter.count ∧ r.around.darkMatter.count ≤ 42 := by
  have hn : companions.Numbered [0, 1] := companions.numbered (List.Subset.refl _)
  obtain ⟨task, d, h⟩ := companions.exists_survey (List.Subset.refl _)
  have hdistances : companions.distancesTo loneParticle.pos =
      List.replicate 38 2.2 ++ List.replicate 5 2.5 := by
    refine (companions.distances 0).trans ?_
    norm_num
  have hheaps := Store.darkMatterDistance_of_heaps (by norm_num) hdistances
  have henough : 38 ≤ (companions.placesOf .darkMatter).length := by
    rw [← Store.length_distancesTo companions loneParticle.pos, hdistances]
    simp
  exact ⟨task, d, h, survey_reaches_band .still h (by simp) (hn.own 0 (by simp))
    companions.star_first henough
    (.inr ⟨2.2, 2.5, (hheaps 38).trans rfl, (hheaps 43).trans rfl, by norm_num⟩)⟩

end GalacticWinds
