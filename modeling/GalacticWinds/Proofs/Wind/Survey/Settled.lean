import GalacticWinds.Proofs.Wind.Narrowing
import GalacticWinds.Proofs.Wind.Survey.Distances
import GalacticWinds.Proofs.Wind.Survey.Rounds

/-! Where a survey leaves its stars: the three ways in which the search for a radius can end. -/

namespace GalacticWinds

lemma StarRecord.conclude_fields {α : Type} [Scalar α] (r : StarRecord α) (maxRadius : α) :
    (r.conclude maxRadius).1.around = r.around ∧
      (r.conclude maxRadius).1.bracket =
        (r.bracket.step r.around.darkMatter.count maxRadius).1 ∧
      (r.conclude maxRadius).2 =
        !(r.bracket.step r.around.darkMatter.count maxRadius).2 := by
  rw [conclude, narrow]
  cases r.bracket.step r.around.darkMatter.count maxRadius with
  | mk b done => cases done <;> exact ⟨rfl, rfl, rfl⟩

lemma StarRecord.conclude_done {α : Type} [Scalar α] {r r' : StarRecord α} {maxRadius : α}
    (h : r.conclude maxRadius = (r', false)) :
    r'.around = r.around ∧ r'.dispersion = r'.around.darkMatter.dispersion ∧
      r.bracket.step r.around.darkMatter.count maxRadius = (r'.bracket, true) := by
  rw [conclude, narrow] at h
  cases hstep : r.bracket.step r.around.darkMatter.count maxRadius with
  | mk b done =>
    cases done with
    | false => simp [hstep] at h
    | true =>
      simp only [hstep, Prod.mk.injEq, and_true] at h
      subst h
      exact ⟨rfl, rfl, rfl⟩

variable {cosmology : Cosmology ℝ} {s : Store ℝ}

variable (cosmology s) in
lemma count_lookAround (p : Particle ℝ) (r : StarRecord ℝ) :
    (lookAround cosmology (.build s.particles) s p r).around.darkMatter.count =
      (s.darkMatterWithin p.pos r.bracket.radius).length :=
  count_gather_build cosmology (Octree.build s.particles).diagonal ⟨p, r⟩ s

lemma alone_succ_of_count {p : Particle ℝ} {n k : ℕ} {b b' : Bracket ℝ} {done : Bool}
    (hn : (alone cosmology (.build s.particles) s p n).2 = false)
    (hb : (alone cosmology (.build s.particles) s p n).1.bracket = b)
    (hk : (s.darkMatterWithin p.pos b.radius).length = k)
    (hstep : b.step k (Octree.build s.particles).diagonal = (b', done)) :
    (alone cosmology (.build s.particles) s p (n + 1)).1.bracket = b' ∧
      (alone cosmology (.build s.particles) s p (n + 1)).2 = done ∧
      (alone cosmology (.build s.particles) s p (n + 1)).1.around.darkMatter.count = k := by
  have hcount := count_lookAround cosmology s p (alone cosmology (.build s.particles) s p n).1
  rw [hb, hk] at hcount
  obtain ⟨haround, hbracket, hdone⟩ := StarRecord.conclude_fields (lookAround cosmology
    (.build s.particles) s p (alone cosmology (.build s.particles) s p n).1)
    (Octree.build s.particles).diagonal
  have hsame : (lookAround cosmology (.build s.particles) s p
      (alone cosmology (.build s.particles) s p n).1).bracket = b := hb
  rw [conclude_lookAround hn] at haround hbracket hdone
  rw [hsame, hcount, hstep] at hbracket hdone
  exact ⟨hbracket, Bool.not_inj hdone, by rw [haround, hcount]⟩

lemma gasMass_of_settled {p : Particle ℝ} {n : ℕ}
    (hn : (alone cosmology (.build s.particles) s p n).2 = true) :
    (alone cosmology (.build s.particles) s p n).1.around.gasMass =
      ((s.within .gas p.pos p.hsml).map (·.mass)).sum := by
  obtain ⟨m, -, -, hc⟩ := exists_of_settled hn
  rw [(StarRecord.conclude_done hc).1]
  exact gasMass_gather_build cosmology (Octree.build s.particles).diagonal ⟨p, _⟩ s

lemma exit_of_settled {i n : Nat} {p : Particle ℝ} (hp : s.particles[i]? = some p)
    {r : StarRecord ℝ} (hr : alone cosmology (.build s.particles) s p n = (r, true)) :
    r.dispersion = r.around.darkMatter.dispersion ∧
      ((38 ≤ r.around.darkMatter.count ∧ r.around.darkMatter.count ≤ 42) ∨
        (0 ≤ r.bracket.right ∧ r.bracket.right - r.bracket.left < 1e-2) ∨
        (r.bracket.right < 0 ∧ r.around.darkMatter.count < 38 ∧
          r.around.darkMatter.count = (s.placesOf .darkMatter).length)) := by
  obtain ⟨m, -, -, hc⟩ := exists_of_settled (congrArg Prod.snd hr)
  generalize (alone cosmology (.build s.particles) s p m).1 = r₀ at hc
  rw [hr] at hc
  obtain ⟨haround, hdisp, hstep⟩ := StarRecord.conclude_done hc
  refine ⟨hdisp, ?_⟩
  rw [haround]
  have hfits := Bracket.fits_natCast (s.darkMatterWithin p.pos r₀.bracket.radius).length
  rw [← count_lookAround cosmology s p r₀] at hfits
  rcases Bracket.step_done hstep with hband | ⟨hb, hnarrow⟩ | ⟨hb, hpast, hclose⟩
  · exact .inl ((Bracket.inBand_iff hfits).mp hband)
  · exact .inr (.inl ⟨of_decide_eq_true hb, hnarrow⟩)
  · have hright : r.bracket.right < 0 := not_le.mp (of_decide_eq_false hb)
    have hradius : (Octree.build s.particles).diagonal < r₀.bracket.radius := hpast
    have hcount := count_lookAround cosmology s p r₀
    rw [darkMatterWithin_of_diagonal_le hradius.le hp] at hcount
    have hpos : 0 < r₀.bracket.radius :=
      ((Real.sqrt_nonneg _).trans (norm_le_diagonal hp hp)).trans_lt hradius
    by_cases hfew : Bracket.tooFew
        (lookAround cosmology (.build s.particles) s p r₀).around.darkMatter.count = true
    · exact .inr (.inr ⟨hright, (Bracket.tooFew_iff hfits).mp hfew, hcount⟩)
    · by_cases hmany : Bracket.tooMany
          (lookAround cosmology (.build s.particles) s p r₀).around.darkMatter.count = true
      · -- too many would have made the radius an upper bound
        rw [Bracket.close, if_neg hfew, if_pos hmany] at hclose
        have hbound : r.bracket.right = r₀.bracket.radius := by
          rw [hclose]
          rfl
        exact absurd hright (not_lt.mpr (hbound ▸ hpos.le))
      · rw [Bracket.tooFew_iff hfits, not_lt] at hfew
        rw [Bracket.tooMany_iff hfits, not_lt] at hmany
        exact .inl ⟨hfew, hmany⟩

/-- When a survey returns, no star has been dropped: each is marked, its dispersion is that of its
own moments, and the search has ended in the band, with an interval too narrow to go on, or with
all the dark matter there is. -/
theorem survey_settles (cosmology : Cosmology ℝ) {s : Store ℝ} (hs : s.Filled) {limit : Nat}
    {batch : List Nat} {c : SingleTask} {task : Task ℝ SingleTask} {d : Survey ℝ}
    (h : survey cosmology (.build s.particles) limit batch ⟨s, c⟩ = (task, .ok d)) :
    ∀ i ∈ batch, ∃ (p : Particle ℝ) (r : StarRecord ℝ),
      task.store.particles[i]? = some p ∧ p.converged = true ∧ d.records[p.slot]? = some r ∧
      r.dispersion = r.around.darkMatter.dispersion ∧
      ((38 ≤ r.around.darkMatter.count ∧ r.around.darkMatter.count ≤ 42) ∨
        (0 ≤ r.bracket.right ∧ r.bracket.right - r.bracket.left < 1e-2) ∨
        (r.bracket.right < 0 ∧ r.around.darkMatter.count < 38 ∧
          r.around.darkMatter.count = (s.placesOf .darkMatter).length)) := by
  intro i hi
  obtain ⟨ht, hall, -⟩ := survey_tracks (numbered_of_survey hs.slotted h) h
  obtain ⟨p, hp, -⟩ := searchable_of_survey h i hi
  have hsettled := hall i hi p hp
  refine ⟨_, _, ht.mark i hi p hp, hsettled, ht.record i hi p hp, ?_⟩
  exact exit_of_settled hp (Prod.ext rfl hsettled)

noncomputable def loneStar : Store ℝ :=
  Store.empty.addStar 1 1 0 0 1

noncomputable def loneParticle : Particle ℝ :=
  .new 1 .star 1 0 0 1

lemma star_loneStar : loneStar.particles[0]? = some loneParticle :=
  rfl

lemma bracket_loneParticle : Bracket.ofHsml loneParticle.hsml = ⟨2, 0, -1⟩ := by
  norm_num [Bracket.ofHsml, loneParticle, Particle.new]

/-- A star with no dark matter nearby, and another one in the middle of a heap of it. Beyond the
heap there is more. -/
noncomputable def companions : Store ℝ :=
  ((loneStar.addStar 2 1 ⟨2.2, 0, 0⟩ 0 0.1).addHeap ⟨2.2, 0, 0⟩ 38).addHeap ⟨2.5, 0, 0⟩ 5

namespace companions

noncomputable def second : Particle ℝ :=
  { Particle.new 2 .star 1 ⟨2.2, 0, 0⟩ 0 0.1 with slot := 1 }

lemma filled : companions.Filled :=
  (((Store.Filled.empty.addStar 1 1 0 0 1).addStar 2 1 ⟨2.2, 0, 0⟩ 0 0.1).addHeap _ 38).addHeap _ 5

lemma star_first : companions.particles[0]? = some loneParticle := by
  have hstar : (loneStar.addStar 2 1 ⟨2.2, 0, 0⟩ 0 0.1).particles[0]? = some loneParticle := rfl
  exact Store.getElem?_addHeap (Store.getElem?_addHeap hstar _ 38) _ 5

lemma star_second : companions.particles[1]? = some second := by
  have hstar : (loneStar.addStar 2 1 ⟨2.2, 0, 0⟩ 0 0.1).particles[1]? = some second := rfl
  exact Store.getElem?_addHeap (Store.getElem?_addHeap hstar _ 38) _ 5

lemma searchable {batch : List Nat} (h : batch ⊆ [0, 1]) :
    ∀ i ∈ batch, companions.Searchable i := by
  intro i hi
  obtain rfl | rfl : i = 0 ∨ i = 1 := by simpa using h hi
  · exact ⟨_, star_first, rfl, one_pos, rfl⟩
  · refine ⟨_, star_second, rfl, ?_, rfl⟩
    change (0 : ℝ) < 0.1
    norm_num

lemma numbered {batch : List Nat} (h : batch ⊆ [0, 1]) : companions.Numbered batch :=
  filled.slotted.numbered (Store.Searchable.stars (searchable h))

lemma distances (x : ℝ) : companions.distancesTo ⟨x, 0, 0⟩ =
    List.replicate 38 |x - 2.2| ++ List.replicate 5 |x - 2.5| := by
  have hnone : (loneStar.addStar 2 1 ⟨2.2, 0, 0⟩ 0 0.1).distancesTo ⟨x, 0, 0⟩ = [] := rfl
  rw [companions, Store.distancesTo_addHeap, Store.distancesTo_addHeap, hnone, Vec.norm_sub_axis,
    Vec.norm_sub_axis, List.nil_append]

lemma le_diagonal : 2.2 ≤ (Octree.build companions.particles).diagonal := by
  have hle := norm_le_diagonal star_second star_first
  have hnorm : (second.pos - loneParticle.pos).norm = |2.2 - 0| := Vec.norm_sub_axis 2.2 0
  rw [hnorm] at hle
  norm_num at hle ⊢
  exact hle

/-- The first star finds nothing, then too much, and then enough between the two radii. -/
lemma alone_first :
    (∀ n < 3, (alone .still (.build companions.particles) companions loneParticle n).2 = false) ∧
      (alone .still (.build companions.particles) companions loneParticle 3).2 = true ∧
      (alone .still (.build companions.particles) companions loneParticle
        3).1.around.darkMatter.count = 38 := by
  have hfar := le_diagonal
  have hwithin : ∀ r, (companions.darkMatterWithin loneParticle.pos r).length =
      (if |0 - 2.2| ≤ r then 38 else 0) + if |0 - 2.5| ≤ r then 5 else 0 :=
    Store.length_darkMatterWithin_of_heaps (distances 0)
  have hgrow : (⟨2, 0, -1⟩ : Bracket ℝ).step (0 : ℕ) (Octree.build companions.particles).diagonal =
      (⟨2.6, 2, -1⟩, false) := by
    have hclose : (⟨2, 0, -1⟩ : Bracket ℝ).close (0 : ℕ) = ⟨2, 2, -1⟩ := rfl
    rw [Bracket.step_of_unbounded hclose (by norm_num [Bracket.bounded_iff]) (by linarith)]
    norm_num [Bracket.growth]
    rfl
  have hturn : (⟨2.6, 2, -1⟩ : Bracket ℝ).step (43 : ℕ)
      (Octree.build companions.particles).diagonal = (⟨2.3, 2, 2.6⟩, false) := by
    have hclose : (⟨2.6, 2, -1⟩ : Bracket ℝ).close (43 : ℕ) = ⟨2.6, 2, 2.6⟩ := rfl
    rw [Bracket.step_of_bounded hclose (by norm_num [Bracket.bounded_iff])
      (by norm_num [Bracket.narrow])]
    norm_num
    rfl
  have hmeet : (⟨2.3, 2, 2.6⟩ : Bracket ℝ).step (38 : ℕ)
      (Octree.build companions.particles).diagonal = (⟨2.3, 2, 2.6⟩, true) := by
    have hclose : (⟨2.3, 2, 2.6⟩ : Bracket ℝ).close (38 : ℕ) = ⟨2.3, 2, 2.6⟩ := rfl
    rw [Bracket.step_of_bounded hclose (by norm_num [Bracket.bounded_iff])
      (by norm_num [Bracket.narrow])]
    norm_num
    rfl
  obtain ⟨hb₁, hn₁, -⟩ := alone_succ_of_count (n := 0) rfl bracket_loneParticle
    (by rw [hwithin]; norm_num) hgrow
  obtain ⟨hb₂, hn₂, -⟩ := alone_succ_of_count hn₁ hb₁ (by rw [hwithin]; norm_num) hturn
  obtain ⟨-, hn₃, hcount⟩ := alone_succ_of_count hn₂ hb₂ (by rw [hwithin]; norm_num) hmeet
  refine ⟨fun n hn => ?_, hn₃, hcount⟩
  interval_cases n
  · rfl
  · exact hn₁
  · exact hn₂

lemma alone_second :
    (alone .still (.build companions.particles) companions second 1).2 = true := by
  have hfar := le_diagonal
  have hstart : Bracket.ofHsml second.hsml = ⟨0.2, 0, -1⟩ := by
    norm_num [Bracket.ofHsml, second, Particle.new]
  have hcount : (companions.darkMatterWithin second.pos 0.2).length = 38 := by
    refine (Store.length_darkMatterWithin_of_heaps (distances 2.2) 0.2).trans ?_
    norm_num
  have hstep : (⟨0.2, 0, -1⟩ : Bracket ℝ).step (38 : ℕ)
      (Octree.build companions.particles).diagonal = (⟨0.26, 0, -1⟩, true) := by
    have hclose : (⟨0.2, 0, -1⟩ : Bracket ℝ).close (38 : ℕ) = ⟨0.2, 0, -1⟩ := rfl
    rw [Bracket.step_of_unbounded hclose (by norm_num [Bracket.bounded_iff]) (by linarith)]
    norm_num [Bracket.growth]
    rfl
  exact (alone_succ_of_count (n := 0) rfl hstart hcount hstep).2.1

lemma allSettled : AllSettled .still (.build companions.particles) companions [0, 1] 3 := by
  intro i hi p hp
  obtain rfl | rfl : i = 0 ∨ i = 1 := by simpa using hi
  · obtain rfl := Option.some.inj (hp.symm.trans star_first)
    exact alone_first.2.1
  · obtain rfl := Option.some.inj (hp.symm.trans star_second)
    rw [alone_of_le (by norm_num) alone_second]
    exact alone_second

lemma exists_survey {batch : List Nat} (h : batch ⊆ [0, 1]) :
    ∃ task d, survey .still (.build companions.particles) 3 batch ⟨companions, SingleTask.mk⟩ =
      (task, .ok d) :=
  survey_returns (numbered h) (searchable h) (fun i hi => allSettled i (h hi)) SingleTask.mk

lemma not_allSettled {batch : List Nat} (h : 0 ∈ batch) {n : ℕ} (hn : n < 3) :
    ¬ AllSettled .still (.build companions.particles) companions batch n := by
  intro hall
  exact absurd ((hall 0 h _ star_first).symm.trans (alone_first.1 n hn)) (by simp)

end companions

theorem survey_settles_companions :
    ∃ task d, survey .still (.build companions.particles) 3 [0, 1] ⟨companions, SingleTask.mk⟩ =
      (task, .ok d) ∧ d.rounds = 3 ∧
      ∃ (p : Particle ℝ) (r : StarRecord ℝ), task.store.particles[0]? = some p ∧
        p.converged = true ∧ d.records[p.slot]? = some r ∧
        r.dispersion = r.around.darkMatter.dispersion ∧ r.around.darkMatter.count = 38 := by
  obtain ⟨task, d, h⟩ := companions.exists_survey (List.Subset.refl _)
  obtain ⟨p, r, hp, hmark, hr, hdisp, -⟩ := survey_settles .still companions.filled h 0 (by simp)
  obtain ⟨ht, hlast, -⟩ := survey_tracks (companions.numbered (List.Subset.refl _)) h
  have hrounds : d.rounds = 3 := le_antisymm (rounds_le_of_survey h)
    (not_lt.mp fun hlt => companions.not_allSettled (by simp) hlt hlast)
  refine ⟨task, d, h, hrounds, p, r, hp, hmark, hr, hdisp, ?_⟩
  have hrecord := ht.record 0 (by simp) _ companions.star_first
  obtain rfl := Option.some.inj (hp.symm.trans (ht.mark 0 (by simp) _ companions.star_first))
  obtain rfl := Option.some.inj (hr.symm.trans hrecord)
  rw [hrounds]
  exact companions.alone_first.2.2

end GalacticWinds
