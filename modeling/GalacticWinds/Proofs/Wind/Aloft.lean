import GalacticWinds.Proofs.Exact
import GalacticWinds.Proofs.Particle.Slots
import GalacticWinds.Wind.Kick

/-! What launches leave behind in a store, and why their order does not matter: a kick reads
neither a velocity nor a delay to decide, and what it writes adds up or is a maximum. -/

namespace GalacticWinds

open scoped List

section

variable (setting : Setting ℝ)

noncomputable def Particle.aloft (p : Particle ℝ) (ls : List (Launch ℝ)) : Particle ℝ :=
  if p.species = .gas then
    { p with vel := p.vel + (ls.map (·.speed)).sum * randomDirection setting.random p.id }
  else p

noncomputable def SphState.aloft (h : SphState ℝ) (ls : List (Launch ℝ)) : SphState ℝ :=
  { h with
    delay :=
      (ls.map fun l => setting.model.travelTime setting.cosmology l.speed).foldl max h.delay }

noncomputable def Store.aloft (s : Store ℝ) (ls : Nat → List (Launch ℝ)) : Store ℝ :=
  ⟨s.particles.map fun p => p.aloft setting (ls p.slot),
    s.gasStates.mapIdx fun k h => h.aloft setting (ls k), s.starCount⟩

variable {setting}

lemma Particle.aloft_gas {p : Particle ℝ} (hp : p.species = .gas) (ls : List (Launch ℝ)) :
    p.aloft setting ls =
      { p with vel := p.vel + (ls.map (·.speed)).sum * randomDirection setting.random p.id } := by
  rw [aloft, if_pos hp]

lemma Particle.aloft_of_ne {p : Particle ℝ} (hp : p.species ≠ .gas) (ls : List (Launch ℝ)) :
    p.aloft setting ls = p := by
  rw [aloft, if_neg hp]

@[simp] lemma Particle.aloft_species (p : Particle ℝ) (ls : List (Launch ℝ)) :
    (p.aloft setting ls).species = p.species := by
  rw [aloft]
  split <;> rfl

@[simp] lemma Particle.aloft_slot (p : Particle ℝ) (ls : List (Launch ℝ)) :
    (p.aloft setting ls).slot = p.slot := by
  rw [aloft]
  split <;> rfl

@[simp] lemma Particle.aloft_id (p : Particle ℝ) (ls : List (Launch ℝ)) :
    (p.aloft setting ls).id = p.id := by
  rw [aloft]
  split <;> rfl

@[simp] lemma Particle.aloft_pos (p : Particle ℝ) (ls : List (Launch ℝ)) :
    (p.aloft setting ls).pos = p.pos := by
  rw [aloft]
  split <;> rfl

lemma Particle.aloft_nil (p : Particle ℝ) : p.aloft setting [] = p := by
  rw [aloft]
  split_ifs with hp
  · have hv : p.vel + (([] : List (Launch ℝ)).map (·.speed)).sum *
        randomDirection setting.random p.id = p.vel := by
      simp [Vec.add_def, Vec.smul_def]
    rw [hv]
  · rfl

lemma Particle.kick_aloft {p : Particle ℝ} (hp : p.species = .gas) (ls : List (Launch ℝ))
    (l : Launch ℝ) :
    (p.aloft setting ls).kick (l.speed * randomDirection setting.random p.id) =
      p.aloft setting (ls ++ [l]) := by
  have hv : p.vel + (ls.map (·.speed)).sum * randomDirection setting.random p.id +
      l.speed * randomDirection setting.random p.id =
      p.vel + ((ls ++ [l]).map (·.speed)).sum * randomDirection setting.random p.id := by
    rw [List.map_append, List.sum_append]
    simp only [Vec.add_def, Vec.smul_def, List.map_cons, List.map_nil, List.sum_singleton]
    congr 1 <;> ring
  rw [aloft_gas hp, aloft_gas hp, kick, hv]

lemma SphState.delayAtLeast_aloft (h : SphState ℝ) (ls : List (Launch ℝ)) (l : Launch ℝ) :
    (h.aloft setting ls).delayAtLeast (setting.model.travelTime setting.cosmology l.speed) =
      h.aloft setting (ls ++ [l]) := by
  rw [aloft, aloft, delayAtLeast, List.map_append, List.foldl_append]
  rfl

lemma Particle.aloft_perm (p : Particle ℝ) {ls ls' : List (Launch ℝ)} (h : ls ~ ls') :
    p.aloft setting ls = p.aloft setting ls' := by
  rw [aloft, aloft, (h.map (·.speed)).sum_eq]

lemma SphState.aloft_perm (g : SphState ℝ) {ls ls' : List (Launch ℝ)} (h : ls ~ ls') :
    g.aloft setting ls = g.aloft setting ls' := by
  have hm := h.map fun l => setting.model.travelTime setting.cosmology l.speed
  rw [aloft, aloft, hm.foldl_eq' fun x _ y _ z => max_right_comm z x y]

end

namespace Store

variable {setting : Setting ℝ} {s : Store ℝ} (ls : Nat → List (Launch ℝ)) {i : Nat}

lemma getElem?_aloft (s : Store ℝ) (i : Nat) :
    (s.aloft setting ls).particles[i]? =
      s.particles[i]?.map fun p => p.aloft setting (ls p.slot) := by
  simp [aloft]

lemma getElem?_gasStates_aloft (s : Store ℝ) (k : Nat) :
    (s.aloft setting ls).gasStates[k]? = s.gasStates[k]?.map fun h => h.aloft setting (ls k) := by
  simp [aloft]

variable (setting) in
lemma aloft_nil (s : Store ℝ) : s.aloft setting (fun _ => []) = s := by
  refine eq_of_getElem? (fun i => ?_) (fun k => ?_) rfl
  · simp [getElem?_aloft, Particle.aloft_nil]
  · rw [getElem?_gasStates_aloft]
    exact congrFun Option.map_id _

lemma gas?_aloft {g : Particle ℝ × SphState ℝ} (hg : s.gas? i = some g) :
    (s.aloft setting ls).gas? i =
      some (g.1.aloft setting (ls g.1.slot), g.2.aloft setting (ls g.1.slot)) := by
  obtain ⟨hp, hk, hh⟩ := gas?_eq_some_iff.mp hg
  refine gas?_eq_some_iff.mpr ⟨?_, ?_, ?_⟩
  · rw [getElem?_aloft, hp, Option.map_some]
  · rw [Particle.aloft_species, hk]
  · rw [getElem?_gasStates_aloft, Particle.aloft_slot, hh, Option.map_some]

variable {ls}

lemma aloft_perm (s : Store ℝ) {ls' : Nat → List (Launch ℝ)} (h : ∀ k, ls k ~ ls' k) :
    s.aloft setting ls = s.aloft setting ls' := by
  refine eq_of_getElem? (fun i => ?_) (fun k => ?_) rfl
  · rw [getElem?_aloft, getElem?_aloft]
    exact congrArg (s.particles[i]?.map ·) (funext fun p => p.aloft_perm (h p.slot))
  · rw [getElem?_gasStates_aloft, getElem?_gasStates_aloft]
    exact congrArg (s.gasStates[k]?.map ·) (funext fun g => g.aloft_perm (h k))

lemma kick_aloft (hs : s.Slotted) {p : Particle ℝ} (hp : s.particles[i]? = some p)
    (hk : p.species = .gas) (l : Launch ℝ) :
    (s.aloft setting ls).kick ⟨i, l.speed * randomDirection setting.random p.id,
        setting.model.travelTime setting.cosmology l.speed⟩ =
      s.aloft setting (Function.update ls p.slot (ls p.slot ++ [l])) := by
  obtain ⟨h, hg⟩ := hs.gas? hp hk
  have hh : s.gasStates[p.slot]? = some h := (gas?_eq_some_iff.mp hg).2.2
  rw [kick, gas?_aloft ls hg]
  simp only [putGas, Particle.kick_aloft hk, SphState.delayAtLeast_aloft, Particle.aloft_slot]
  refine eq_of_getElem? (fun j => ?_) (fun k => ?_) rfl
  · rw [getElem?_aloft, Array.getElem?_setIfInBounds, getElem?_aloft]
    split_ifs with hij hj
    · subst hij
      rw [hp, Option.map_some, Function.update_self]
    · subst hij
      have hlt := (Array.getElem?_eq_some_iff.mp hp).1
      exact absurd (by simpa [aloft] using hlt) hj
    · cases hq : s.particles[j]? with
      | none => rfl
      | some q =>
        rw [Option.map_some, Option.map_some]
        by_cases hqk : q.species = .gas
        · have hne : q.slot ≠ p.slot := fun he => hij (hs.gas_eq hq hp hqk hk he).symm
          rw [Function.update_of_ne hne]
        · rw [Particle.aloft_of_ne hqk, Particle.aloft_of_ne hqk]
  · rw [getElem?_gasStates_aloft, Array.getElem?_setIfInBounds, getElem?_gasStates_aloft]
    split_ifs with hkp hlt
    · subst hkp
      rw [hh, Option.map_some, Function.update_self]
    · subst hkp
      have hlt' := (Array.getElem?_eq_some_iff.mp hh).1
      exact absurd (by simpa [aloft] using hlt') hlt
    · rw [Function.update_of_ne (Ne.symm hkp)]

end Store

end GalacticWinds
