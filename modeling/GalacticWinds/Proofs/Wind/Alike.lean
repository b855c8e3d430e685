import GalacticWinds.Proofs.Wind.Lasting

/-! Stores that winds tell nothing apart in: they may differ in marks, gas states and all
velocities but those of the dark matter. -/

namespace GalacticWinds

variable {α : Type} [Scalar α]

def Particle.seen (p : Particle α) : Particle α :=
  { p with vel := if p.species = .darkMatter then p.vel else 0, converged := false }

lemma Particle.seen_kick {p : Particle α} (hp : p.species = .gas) (dv : Vec α) :
    (p.kick dv).seen = p.seen := by
  simp [seen, kick, hp]

lemma Target.starSlot_of_seen {p q : Particle α} (h : p.seen = q.seen) (i : Nat) :
    Target.starSlot ⟨i, p⟩ = Target.starSlot ⟨i, q⟩ := by
  have hspecies : p.species = q.species := congrArg (·.species) h
  have hslot : p.slot = q.slot := congrArg (·.slot) h
  have hid : p.id = q.id := congrArg (·.id) h
  simp only [starSlot, hspecies, hslot, hid]

namespace Store

def seen (s : Store α) : Array (Particle α) :=
  s.particles.map (·.seen)

structure Alike (s t : Store α) : Prop where
  seen : s.seen = t.seen
  gasStates : s.gasStates.size = t.gasStates.size
  starCount : s.starCount = t.starCount

variable {s t u : Store α} {i : Nat} {p : Particle α}

lemma lasting_of_seen (h : s.seen = t.seen) : s.lasting = t.lasting := by
  have hs : ∀ s : Store α, s.lasting = s.seen.map (·.lasting) := by
    intro s
    rw [lasting, seen, Array.map_map]
    rfl
  rw [hs, hs, h]

namespace Alike

lemma refl (s : Store α) : s.Alike s :=
  ⟨rfl, rfl, rfl⟩

lemma symm (h : s.Alike t) : t.Alike s :=
  ⟨h.seen.symm, h.gasStates.symm, h.starCount.symm⟩

lemma trans (h : s.Alike t) (h' : t.Alike u) : s.Alike u :=
  ⟨h.seen.trans h'.seen, h.gasStates.trans h'.gasStates, h.starCount.trans h'.starCount⟩

lemma of_slotted (hs : s.Slotted) (ht : t.Slotted) (h : s.seen = t.seen) : s.Alike t where
  seen := h
  gasStates := by
    have hgas := slotsOf_of_lasting (lasting_of_seen h) .gas
    rw [hs.gas, ht.gas] at hgas
    simpa using congrArg List.length hgas
  starCount := by
    have hstar := slotsOf_of_lasting (lasting_of_seen h) .star
    rw [hs.star, ht.star] at hstar
    simpa using congrArg List.length hstar

lemma of_unmarked (h : s.unmarked = t.unmarked) : s.Alike t where
  seen := by
    have hs : ∀ s : Store α, s.seen = s.unmarked.seen := by
      intro s
      rw [Store.seen, Store.seen, unmarked, Array.map_map]
      rfl
    rw [hs s, h, ← hs t]
  gasStates := congrArg (·.gasStates.size) h
  starCount := congrArg (·.starCount) h

lemma getElem? (h : s.Alike t) (i : Nat) :
    s.particles[i]? = none ∧ t.particles[i]? = none ∨
      ∃ p q, s.particles[i]? = some p ∧ t.particles[i]? = some q ∧ p.seen = q.seen := by
  have hi : s.seen[i]? = t.seen[i]? := by rw [h.seen]
  rw [Store.seen, Store.seen, Array.getElem?_map, Array.getElem?_map] at hi
  cases hp : s.particles[i]? with
  | none =>
    rw [hp, Option.map_none, eq_comm, Option.map_eq_none_iff] at hi
    exact .inl ⟨rfl, hi⟩
  | some p =>
    rw [hp, Option.map_some, eq_comm] at hi
    obtain ⟨q, hq, hqp⟩ := Option.map_eq_some_iff.mp hi
    exact .inr ⟨p, q, rfl, hq, hqp.symm⟩

lemma exists_seen (h : s.Alike t) (hp : s.particles[i]? = some p) :
    ∃ q, t.particles[i]? = some q ∧ p.seen = q.seen := by
  rcases h.getElem? i with ⟨hnone, -⟩ | ⟨p', q, hp', hq, hpq⟩
  · exact absurd (hp.symm.trans hnone) (by simp)
  · obtain rfl := Option.some.inj (hp.symm.trans hp')
    exact ⟨q, hq, hpq⟩

lemma gas?_isNone (h : s.Alike t) (i : Nat) : (s.gas? i).isNone = (t.gas? i).isNone := by
  have hsome : ∀ {s t : Store α}, s.Alike t → (s.gas? i).isSome → (t.gas? i).isSome := by
    intro s t h hs
    obtain ⟨⟨p, g⟩, hg⟩ := Option.isSome_iff_exists.mp hs
    obtain ⟨hp, hk, hh⟩ := gas?_eq_some_iff.mp hg
    obtain ⟨q, hq, hqp⟩ := h.exists_seen hp
    have hspecies : q.species = p.species := congrArg (·.species) hqp.symm
    have hslot : q.slot = p.slot := congrArg (·.slot) hqp.symm
    have hlt : q.slot < t.gasStates.size := by
      rw [hslot, ← h.gasStates]
      exact (Array.getElem?_eq_some_iff.mp hh).1
    exact Option.isSome_iff_exists.mpr ⟨(q, t.gasStates[q.slot]), gas?_eq_some_iff.mpr
      ⟨hq, hspecies.trans hk, Array.getElem?_eq_getElem hlt⟩⟩
  rw [← Option.not_isSome, ← Option.not_isSome, Bool.eq_iff_iff.mpr ⟨hsome h, hsome h.symm⟩]

end Alike

lemma alike_mark (s : Store α) (b : Bool) (i : Nat) : (s.mark b i).Alike s :=
  .of_unmarked (s.unmarked_mark b i)

end Store

lemma Store.alike_kick {α : Type} [Transcendental α] (s : Store α) (k : Kick α) :
    (s.kick k).Alike s := by
  rw [kick]
  cases hg : s.gas? k.index with
  | none => exact .refl s
  | some g =>
    obtain ⟨hp, hk, -⟩ := gas?_eq_some_iff.mp hg
    have hkick := Particle.seen_kick hk k.velocity
    exact ⟨map_putGas hp (fun p => p.seen) hkick _, Array.size_setIfInBounds, rfl⟩

lemma Store.alike_foldl_kick {α : Type} [Transcendental α] (ks : List (Kick α)) (s : Store α) :
    (ks.foldl Store.kick s).Alike s := by
  induction ks generalizing s with
  | nil => exact .refl s
  | cons k ks ih => exact (ih (s.kick k)).trans (s.alike_kick k)

end GalacticWinds
