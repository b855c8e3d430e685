import GalacticWinds.Proofs.Wind.Survey.Distances
import GalacticWinds.Proofs.Wind.Survey.Termination

/-! What a record holds of the dark matter was taken within the radius of the last search, which is
not always the radius in the record. -/

namespace GalacticWinds

variable {cosmology : Cosmology ℝ} {s : Store ℝ}

lemma darkMatter_lookAround (p : Particle ℝ) (r : StarRecord ℝ) :
    (lookAround cosmology (.build s.particles) s p r).around.darkMatter =
      .ofList (s.flowWithin cosmology p.pos r.bracket.radius) :=
  darkMatter_gather_build cosmology (Octree.build s.particles).diagonal ⟨p, r⟩ s

lemma measured_of_settled {p : Particle ℝ} (hpos : 0 < p.hsml) {n : ℕ}
    (hn : (alone cosmology (.build s.particles) s p n).2 = true) :
    ∃ searched, (alone cosmology (.build s.particles) s p n).1.around.darkMatter =
        .ofList (s.flowWithin cosmology p.pos searched) ∧
      (alone cosmology (.build s.particles) s p n).1.bracket.radius =
        if (alone cosmology (.build s.particles) s p n).1.bracket.right < 0 ∧
            searched ≤ (Octree.build s.particles).diagonal then
          1.3 * searched
        else searched := by
  obtain ⟨m, -, hm, hc⟩ := exists_of_settled hn
  obtain ⟨haround, -, hstep⟩ := StarRecord.conclude_done hc
  refine ⟨(alone cosmology (.build s.particles) s p m).1.bracket.radius, ?_, ?_⟩
  · rw [haround, darkMatter_lookAround]
  · exact (poised_of_unsettled hpos hm).radius_of_done hstep

/-- The moments in a record are those of the dark matter within the radius of the last search. That
is the radius in the record too, unless the search found enough on its way out and the diagonal of
the store was still ahead: then the record has a radius that was never searched. -/
theorem survey_measures (cosmology : Cosmology ℝ) {s : Store ℝ} {limit : Nat} {batch : List Nat}
    {c : SingleTask} {task : Task ℝ SingleTask} {d : Survey ℝ}
    (h : survey cosmology (.build s.particles) limit batch ⟨s, c⟩ = (task, .ok d)) :
    ∀ i ∈ batch, s.Owned batch i → ∃ p r searched, s.particles[i]? = some p ∧
      d.records[p.slot]? = some r ∧
      r.around.darkMatter.count = (s.darkMatterWithin p.pos searched).length ∧
      r.around.darkMatter.first =
        ⟨((s.flowWithin cosmology p.pos searched).map (·.x)).sum,
          ((s.flowWithin cosmology p.pos searched).map (·.y)).sum,
          ((s.flowWithin cosmology p.pos searched).map (·.z)).sum⟩ ∧
      r.around.darkMatter.second = ((s.flowWithin cosmology p.pos searched).map (·.normSq)).sum ∧
      r.bracket.radius =
        if r.bracket.right < 0 ∧ searched ≤ (Octree.build s.particles).diagonal then
          1.3 * searched
        else searched := by
  intro i hi hown
  obtain ⟨p, hp, -, hpos, -⟩ := searchable_of_survey h i hi
  obtain ⟨hr, hsettled⟩ := survey_follows h hi hown hp
  obtain ⟨searched, hmoments, hradius⟩ := measured_of_settled hpos hsettled
  refine ⟨p, _, searched, hp, hr, ?_, ?_, ?_, hradius⟩
  · rw [hmoments, Moments.ofList_real]
    exact congrArg Nat.cast (length_flowWithin cosmology s p.pos searched)
  · rw [hmoments, Moments.ofList_real]
  · rw [hmoments, Moments.ofList_real]

/-- A star amid enough dark matter, and more of it a little beyond the first search. -/
noncomputable def outpost : Store ℝ :=
  (loneStar.addHeap 0 38).addHeap ⟨2.5, 0, 0⟩ 5

lemma filled_outpost : outpost.Filled :=
  ((Store.Filled.empty.addStar 1 1 0 0 1).addHeap 0 38).addHeap _ 5

lemma star_outpost : outpost.particles[0]? = some loneParticle :=
  Store.getElem?_addHeap (Store.getElem?_addHeap star_loneStar 0 38) _ 5

lemma norm_outlier : (0 - ⟨2.5, 0, 0⟩ : Vec ℝ).norm = 2.5 := by
  have haxis : (0 - ⟨2.5, 0, 0⟩ : Vec ℝ).norm = |0 - 2.5| := Vec.norm_sub_axis 0 2.5
  rw [haxis]
  norm_num

lemma darkMatterWithin_outpost (r : ℝ) :
    (outpost.darkMatterWithin 0 r).length =
      (if 0 ≤ r then 38 else 0) + if 2.5 ≤ r then 5 else 0 := by
  refine Store.length_darkMatterWithin_of_heaps ?_ r
  have hzero : (0 - 0 : Vec ℝ).norm = 0 := by
    simp [Vec.norm_real, Vec.normSq_real]
  have hnone : loneStar.distancesTo 0 = [] := rfl
  rw [outpost, Store.distancesTo_addHeap, Store.distancesTo_addHeap, hnone, hzero, norm_outlier,
    List.nil_append]

lemma diagonal_outpost : 2.5 ≤ (Octree.build outpost.particles).diagonal := by
  have hfar : outpost.particles[((loneStar.addHeap 0 38).addHeap ⟨2.5, 0, 0⟩ 4).particles.size]? =
      some (.new 2 .darkMatter 1 ⟨2.5, 0, 0⟩ 0 0) := Array.getElem?_push_size
  exact norm_outlier.symm.trans_le (norm_le_diagonal star_outpost hfar)

lemma searchable_outpost : ∀ i ∈ [0], outpost.Searchable i := by
  intro i hi
  obtain rfl := List.mem_singleton.mp hi
  exact ⟨_, star_outpost, rfl, one_pos, rfl⟩

lemma numbered_outpost : outpost.Numbered [0] :=
  filled_outpost.slotted.numbered (Store.Searchable.stars searchable_outpost)

lemma alone_outpost :
    ∃ r, alone .still (.build outpost.particles) outpost loneParticle 1 = (r, true) ∧
      r.around.darkMatter.count = 38 ∧ r.bracket.radius = 2.6 := by
  have hfar := diagonal_outpost
  have hcount : (outpost.darkMatterWithin loneParticle.pos 2).length = 38 := by
    refine (darkMatterWithin_outpost 2).trans ?_
    norm_num
  -- enough within the first radius, but no upper bound is known and the radius moves on
  have hstep : (⟨2, 0, -1⟩ : Bracket ℝ).step (38 : ℕ) (Octree.build outpost.particles).diagonal =
      (⟨2.6, 0, -1⟩, true) := by
    have hclose : (⟨2, 0, -1⟩ : Bracket ℝ).close (38 : ℕ) = ⟨2, 0, -1⟩ := rfl
    rw [Bracket.step_of_unbounded hclose (by norm_num [Bracket.bounded_iff]) (by linarith)]
    norm_num [Bracket.growth]
    rfl
  obtain ⟨hbracket, hdone, hfound⟩ :=
    alone_succ_of_count (n := 0) rfl bracket_loneParticle hcount hstep
  exact ⟨_, Prod.ext rfl hdone, hfound, by rw [hbracket]⟩

/-- The record of a star can count 38 particles and have a radius that holds 43. -/
theorem survey_outpost_misses :
    ∃ (task : Task ℝ SingleTask) (d : Survey ℝ) (r : StarRecord ℝ),
      survey .still (.build outpost.particles) 1 [0] ⟨outpost, SingleTask.mk⟩ = (task, .ok d) ∧
      d.records[0]? = some r ∧ r.around.darkMatter.count = 38 ∧ r.bracket.radius = 2.6 ∧
      (outpost.darkMatterWithin loneParticle.pos r.bracket.radius).length = 43 := by
  obtain ⟨r, halone, hcount, hradius⟩ := alone_outpost
  have hall : AllSettled .still (.build outpost.particles) outpost [0] 1 := by
    intro i hi p hp
    obtain rfl := List.mem_singleton.mp hi
    obtain rfl := Option.some.inj (hp.symm.trans star_outpost)
    rw [halone]
  obtain ⟨task, d, h⟩ := survey_returns numbered_outpost searchable_outpost hall SingleTask.mk
  obtain ⟨ht, hlast, -⟩ := survey_tracks numbered_outpost h
  have hrounds : d.rounds = 1 := by
    refine le_antisymm (rounds_le_of_survey h) (Nat.one_le_iff_ne_zero.mpr fun hzero => ?_)
    have hsettled := hlast 0 List.mem_cons_self _ star_outpost
    rw [hzero] at hsettled
    simp [alone] at hsettled
  have hr := ht.record 0 List.mem_cons_self _ star_outpost
  rw [hrounds, halone] at hr
  refine ⟨task, d, r, h, hr, hcount, hradius, ?_⟩
  change (outpost.darkMatterWithin 0 r.bracket.radius).length = 43
  rw [hradius, darkMatterWithin_outpost]
  norm_num

theorem survey_measures_outpost :
    ∃ (limit : ℕ) (task : Task ℝ SingleTask) (d : Survey ℝ),
      survey .still (.build outpost.particles) limit [0] ⟨outpost, SingleTask.mk⟩ =
        (task, .ok d) ∧
      ∃ (r : StarRecord ℝ) (searched : ℝ), d.records[0]? = some r ∧
        r.around.darkMatter.count = (outpost.darkMatterWithin 0 searched).length := by
  obtain ⟨task, d, -, h⟩ := exists_survey .still numbered_outpost searchable_outpost SingleTask.mk
  obtain ⟨p, r, searched, hp, hr, hcount, -⟩ :=
    survey_measures .still h 0 List.mem_cons_self (numbered_outpost.own 0 List.mem_cons_self)
  obtain rfl := Option.some.inj (hp.symm.trans star_outpost)
  exact ⟨_, task, d, h, r, searched, hr, hcount⟩

end GalacticWinds
