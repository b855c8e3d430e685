import GalacticWinds.Proofs.Particle.Slots
import GalacticWinds.Proofs.Walk.Round
import GalacticWinds.Wind.Survey.Walk

/-! Rounds over stars, each of which has a record at its slot. -/

namespace GalacticWinds

variable {α : Type}

namespace Store

def Stars (s : Store α) (batch : List Nat) : Prop :=
  ∀ i ∈ batch, ∃ p, s.particles[i]? = some p ∧ p.species = .star

def Recorded {ρ : Type} (s : Store α) (records : List ρ) (batch : List Nat) : Prop :=
  ∀ i ∈ batch, ∃ t, s.particles[i]? = some t ∧ t.species = .star ∧ t.slot < records.length

/-- No star of the batch but this one has its slot, so that its record is its own. In a store that
has numbered its particles as they came this holds of every star. -/
def Owned (s : Store α) (batch : List Nat) (i : Nat) : Prop :=
  ∀ j ∈ batch, ∀ p q, s.particles[i]? = some p → s.particles[j]? = some q →
    q.slot = p.slot → j = i

structure Numbered (s : Store α) (batch : List Nat) : Prop where
  lt : ∀ i ∈ batch, ∀ p, s.particles[i]? = some p → p.slot < s.starCount
  own : ∀ i ∈ batch, s.Owned batch i

variable {s : Store α} {batch : List Nat} {i j : Nat} {p q : Particle α}

lemma Stars.star (hb : s.Stars batch) (hi : i ∈ batch) (hp : s.particles[i]? = some p) :
    p.species = .star := by
  obtain ⟨p', hp', hk⟩ := hb i hi
  rwa [Option.some.inj (hp.symm.trans hp')]

lemma Owned.mono {more : List Nat} (hs : s.Owned more i) (h : batch ⊆ more) : s.Owned batch i :=
  fun j hj => hs j (h hj)

lemma Numbered.mono {more : List Nat} (hs : s.Numbered more) (h : batch ⊆ more) :
    s.Numbered batch where
  lt i hi := hs.lt i (h hi)
  own i hi := (hs.own i (h hi)).mono h

lemma Slotted.numbered (hs : s.Slotted) (hb : s.Stars batch) : s.Numbered batch where
  lt _ hi _ hp := hs.star_slot_lt hp (hb.star hi hp)
  own _ hi _ hj _ _ hp hq := hs.star_eq hq hp (hb.star hj hq) (hb.star hi hp)

end Store

namespace Walk

variable [Scalar α] {κ σ : Type}

def starVisit (w : Walk α (StarRecord α) κ σ) (tree : Octree α) (particles : Array (Particle α))
    (records : List (StarRecord α)) (t : Target α) : Visit α σ :=
  ⟨t, t.particle.slot,
    w.gather tree particles (w.query t (records[t.particle.slot]?.getD .blank))⟩

variable {w : Walk α (StarRecord α) κ σ} (tree : Octree α) {s : Store α}
  {records : List (StarRecord α)} {batch : List Nat}

theorem run_stars (hslot : w.slot = Target.starSlot) (hb : s.Recorded records batch)
    {fin : Target α → StarRecord α → StarRecord α × Bool}
    (hf : ∀ t r, t.particle.species = .star → w.finish t r = .ok (fin t r)) :
    ∃ ts : List (Target α), ts.map (·.index) = batch ∧
      (∀ t ∈ ts, s.particles[t.index]? = some t.particle) ∧
      w.run tree s.particles batch records = .ok (w.completed fin
        ((ts.filter w.hasWork).map (w.starVisit tree s.particles records)) records) := by
  obtain ⟨ts, hts, hindex, hat⟩ := Target.mapM_at?_eq_ok fun i hi => (hb i hi).imp fun _ h => h.1
  have hstar : ∀ t ∈ ts, t.particle.species = .star ∧ t.particle.slot < records.length := by
    intro t ht
    obtain ⟨p, hp, hk, hlt⟩ := hb t.index (hindex ▸ List.mem_map_of_mem ht)
    obtain rfl := Option.some.inj ((hat t ht).symm.trans hp)
    exact ⟨hk, hlt⟩
  refine ⟨ts, hindex, hat, run_eq_ok hts (fun t ht _ => ⟨?_, rfl⟩) fun t ht _ r =>
    hf t r (hstar t ht).1⟩
  obtain ⟨hk, hlt⟩ := hstar t ht
  have hs : w.slot t = .ok t.particle.slot := by
    rw [hslot]
    exact if_pos hk
  simp only [visitTarget, starVisit, hs, bind, Except.bind, List.getElem?_eq_getElem hlt,
    Option.getD_some]

lemma recorded_of_run (hslot : w.slot = Target.starSlot) {round : Round α (StarRecord α) σ}
    (h : w.run tree s.particles batch records = .ok round)
    (hwork : ∀ i ∈ batch, ∀ p, s.particles[i]? = some p → w.hasWork ⟨i, p⟩ = true) :
    s.Recorded records batch := by
  rw [run] at h
  cases hts : batch.mapM (Target.at? s.particles) with
  | error e => simp [hts, bind, Except.bind] at h
  | ok ts =>
    simp only [hts, bind, Except.bind] at h
    cases hvisits : (ts.filter w.hasWork).mapM (w.visitTarget tree s.particles records) with
    | error e => simp [hvisits] at h
    | ok visits =>
      intro i hi
      obtain ⟨t, ht, hit⟩ := exists_of_mapM_ok hts i hi
      obtain ⟨hp, rfl⟩ := Target.at?_eq_ok_iff.mp hit
      obtain ⟨v, -, hv⟩ := exists_of_mapM_ok hvisits t
        (List.mem_filter.mpr ⟨ht, hwork _ hi _ hp⟩)
      rw [visitTarget, hslot, Target.starSlot] at hv
      split_ifs at hv with hk
      · cases hr : records[t.particle.slot]? with
        | none => simp [hr, bind, Except.bind] at hv
        | some r => exact ⟨_, hp, hk, (List.getElem?_eq_some_iff.mp hr).1⟩
      · simp [bind, Except.bind] at hv

end Walk

end GalacticWinds
