import GalacticWinds.Proofs.Wind.Narrowing
import GalacticWinds.Proofs.Wind.Survey.Settled

/-! A survey ends: each star has a bound of rounds of its own, and the largest of them is one for
the batch. -/

namespace GalacticWinds

section

variable {α : Type} [Scalar α] {cosmology : Cosmology α} {tree : Octree α} {s : Store α}

lemma StarRecord.conclude_again {r r' : StarRecord α} {maxRadius : α}
    (h : r.conclude maxRadius = (r', true)) :
    r'.around = r.around ∧
      r.bracket.step r.around.darkMatter.count maxRadius = (r'.bracket, false) := by
  rw [conclude, narrow] at h
  cases hstep : r.bracket.step r.around.darkMatter.count maxRadius with
  | mk b done =>
    cases done with
    | true => simp [hstep] at h
    | false =>
      simp only [hstep, Prod.mk.injEq, and_true] at h
      subst h
      exact ⟨rfl, rfl⟩

/-- A star that is not settled has come to its bracket by rounds of which none was the last. -/
lemma unsettled_induction {p : Particle α} {P : ℕ → Bracket α → Prop}
    (hzero : P 0 (.ofHsml p.hsml))
    (hsucc : ∀ (n : ℕ) (r : StarRecord α) (b : Bracket α), P n r.bracket →
      r.bracket.step (lookAround cosmology tree s p r).around.darkMatter.count tree.diagonal =
        (b, false) → P (n + 1) b)
    {n : ℕ} (hn : (alone cosmology tree s p n).2 = false) :
    P n (alone cosmology tree s p n).1.bracket := by
  induction n with
  | zero => exact hzero
  | succ n ih =>
    have hprev : (alone cosmology tree s p n).2 = false := by
      by_contra h
      rw [alone_succ_of_settled (by simpa using h)] at hn
      exact h hn
    have hc := conclude_lookAround hprev
    rw [hn, Bool.not_false] at hc
    exact hsucc n _ _ (ih hprev) (StarRecord.conclude_again hc).2

end

variable {cosmology : Cosmology ℝ} {s : Store ℝ}

lemma poised_of_unsettled {tree : Octree ℝ} {p : Particle ℝ} (hpos : 0 < p.hsml) {n : ℕ}
    (hn : (alone cosmology tree s p n).2 = false) :
    (alone cosmology tree s p n).1.bracket.Poised :=
  unsettled_induction (P := fun _ b => b.Poised) (Bracket.poised_ofHsml hpos)
    (fun _ _ _ hb hstep => hb.step hstep) hn

lemma settled_of_roundBound_le {tree : Octree ℝ} {p : Particle ℝ} (hpos : 0 < p.hsml) {n : ℕ}
    (hle : Bracket.roundBound p.hsml tree.diagonal ≤ n) :
    (alone cosmology tree s p n).2 = true := by
  by_contra hn
  have hstage := unsettled_induction
    (P := fun n b => b.Poised ∧ Bracket.Stage p.hsml tree.diagonal n b)
    ⟨Bracket.poised_ofHsml hpos, Bracket.stage_ofHsml⟩
    (fun _ _ _ hb hstep => ⟨hb.1.step hstep, hb.2.step hb.1 hstep⟩) (Bool.eq_false_iff.mpr hn)
  exact absurd (hstage.2.lt_roundBound hpos) (not_lt.mpr hle)

/-- The largest bound of rounds in a batch, with the diagonal of the whole store as the radius that
no search has to pass. -/
noncomputable def Store.roundBound (s : Store ℝ) (batch : List Nat) : ℕ :=
  batch.toFinset.sup fun i => s.particles[i]?.elim 0 fun p =>
    Bracket.roundBound p.hsml (Octree.build s.particles).diagonal

lemma Store.le_roundBound {batch : List Nat} {i : Nat} (hi : i ∈ batch) {p : Particle ℝ}
    (hp : s.particles[i]? = some p) :
    Bracket.roundBound p.hsml (Octree.build s.particles).diagonal ≤ s.roundBound batch := by
  have hle := Finset.le_sup (f := fun i => s.particles[i]?.elim 0 fun p =>
    Bracket.roundBound p.hsml (Octree.build s.particles).diagonal) (List.mem_toFinset.mpr hi)
  simp only [hp, Option.elim_some] at hle
  exact hle

variable (cosmology) in
lemma exists_survey {batch : List Nat} (hs : s.Numbered batch) (hb : ∀ i ∈ batch, s.Searchable i)
    (c : SingleTask) :
    ∃ task d, d.rounds ≤ s.roundBound batch ∧
      survey cosmology (.build s.particles) (s.roundBound batch) batch ⟨s, c⟩ = (task, .ok d) := by
  have hall : AllSettled cosmology (.build s.particles) s batch (s.roundBound batch) := by
    intro i hi p hp
    obtain ⟨p', hp', -, hpos, -⟩ := hb i hi
    obtain rfl := Option.some.inj (hp.symm.trans hp')
    exact settled_of_roundBound_le hpos (Store.le_roundBound hi hp)
  obtain ⟨task, d, h⟩ := survey_returns hs hb hall c
  exact ⟨task, d, rounds_le_of_survey h, h⟩

/-- The search for a radius is over within a bound of rounds that its counts have no part in, and
so is a survey, which no larger limit changes. -/
theorem survey_terminates (cosmology : Cosmology ℝ) (c : SingleTask) :
    (∀ hsml maxRadius : ℝ, 0 < hsml → ∀ counts : ℕ → Int,
      ∃ n < Bracket.roundBound hsml maxRadius,
        ((((StarRecord.ofHsml hsml).narrowing maxRadius counts n).withCount (counts n)).narrow
          maxRadius).2 = true) ∧
    ∀ s : Store ℝ, s.Filled → ∀ batch : List Nat,
      (∀ i ∈ batch, ∃ p, s.particles[i]? = some p ∧ p.species = .star ∧ 0 < p.hsml) →
      ∃ task d, d.rounds ≤ s.roundBound batch ∧ ∀ limit ≥ s.roundBound batch,
        survey cosmology (.build s.particles) limit batch ⟨s, c⟩ = (task, .ok d) := by
  refine ⟨fun hsml maxRadius h counts => exists_narrow_done h maxRadius counts, ?_⟩
  intro s hs batch hstars
  have hb : ∀ i ∈ batch, s.Searchable i := by
    intro i hi
    obtain ⟨p, hp, hk, hpos⟩ := hstars i hi
    exact ⟨p, hp, hk, hpos, rfl⟩
  have hn := hs.slotted.numbered (Store.Searchable.stars hb)
  obtain ⟨task, d, hrounds, h⟩ := exists_survey cosmology hn hb c
  exact ⟨task, d, hrounds, fun limit hle => survey_of_le hle h⟩

theorem survey_terminates_loneStar :
    (∃ n < Bracket.roundBound 1 2,
      ((((StarRecord.ofHsml (1 : ℝ)).narrowing 2 (fun n => 100 * n) n).withCount
        (100 * n)).narrow 2).2 = true) ∧
    ∃ task d, survey .still (.build loneStar.particles) (loneStar.roundBound [0, 0]) [0, 0]
      ⟨loneStar, SingleTask.mk⟩ = (task, .ok d) ∧ d.rounds ≤ loneStar.roundBound [0, 0] := by
  obtain ⟨hsearch, hsurvey⟩ := survey_terminates .still SingleTask.mk
  have hs : loneStar.Filled := Store.Filled.empty.addStar 1 1 0 0 1
  have hstars : ∀ i ∈ [0, 0], ∃ p, loneStar.particles[i]? = some p ∧ p.species = .star ∧
      0 < p.hsml := by
    intro i hi
    obtain rfl : i = 0 := by simpa using hi
    exact ⟨_, rfl, rfl, one_pos⟩
  obtain ⟨task, d, hrounds, h⟩ := hsurvey loneStar hs [0, 0] hstars
  exact ⟨hsearch 1 2 one_pos fun n => 100 * n, task, d, h _ le_rfl, hrounds⟩

end GalacticWinds
