import GalacticWinds.Proofs.Particle.Slots

/-! What a store knows of the particles added to it, through all that is added later and in every
copy: which slot is whose, and what was said of the gas. -/

namespace GalacticWinds

inductive Addition (α : Type) where
  | particle (p : Particle α)
  | gas (id : UInt64) (mass : α) (pos vel : Vec α) (hsml density : α)
  | darkMatter (id : UInt64) (mass : α) (pos vel : Vec α)
  | star (id : UInt64) (mass : α) (pos vel : Vec α) (hsml : α)

namespace Store

variable {α : Type}

/-- Two stores alike, but for one particle and one gas state. -/
structure SameBut (s t : Store α) (i slot : Nat) : Prop where
  particles : ∀ j : Nat, j ≠ i → t.particles[j]? = s.particles[j]?
  gasStates : ∀ k : Nat, k ≠ slot → t.gasStates[k]? = s.gasStates[k]?
  starCount : t.starCount = s.starCount

structure Kept (s t : Store α) : Prop where
  particle : ∀ (i : Nat) p, s.particles[i]? = some p → t.particles[i]? = some p
  gasState : ∀ (slot : Nat) h, s.gasStates[slot]? = some h → t.gasStates[slot]? = some h

section

variable {s t : Store α} {i : Nat} {p : Particle α}

lemma Kept.gas? (hst : Kept s t) {g : Particle α × SphState α} (hg : s.gas? i = some g) :
    t.gas? i = some g := by
  obtain ⟨hp, hk, hh⟩ := gas?_eq_some_iff.mp hg
  exact gas?_eq_some_iff.mpr ⟨hst.particle _ _ hp, hk, hst.gasState _ _ hh⟩

lemma getElem?_push_of_some {β : Type} {xs : Array β} {x : β} (y : β) (h : xs[i]? = some x) :
    (xs.push y)[i]? = some x := by
  have hi : i < xs.size := (Array.getElem?_eq_some_iff.mp h).1
  rw [Array.getElem?_push, if_neg (by omega), h]

lemma kept_pushGas (s : Store α) (p : Particle α) (h : SphState α) : Kept s (s.pushGas p h) where
  particle _ _ hq := getElem?_push_of_some _ hq
  gasState _ _ hg := getElem?_push_of_some _ hg

lemma gas?_of_ne (hp : s.particles[i]? = some p) (hk : p.species ≠ .gas) : s.gas? i = none := by
  apply Option.eq_none_iff_forall_ne_some.mpr
  intro g hg
  obtain ⟨hq, hgas, -⟩ := gas?_eq_some_iff.mp hg
  obtain rfl := Option.some.inj (hp.symm.trans hq)
  exact hk hgas

lemma alterGas_of_some {g : Particle α × SphState α} (hg : s.gas? i = some g)
    (f : Particle α × SphState α → Particle α × SphState α) :
    ∃ t, s.alterGas i f = .ok t ∧ t.particles[i]? = some (f g).1 ∧
      t.gasStates[g.1.slot]? = some (f g).2 ∧ SameBut s t i g.1.slot := by
  obtain ⟨hp, -, hh⟩ := gas?_eq_some_iff.mp hg
  have hi : i < s.particles.size := (Array.getElem?_eq_some_iff.mp hp).1
  have hslot : g.1.slot < s.gasStates.size := (Array.getElem?_eq_some_iff.mp hh).1
  refine ⟨_, by rw [alterGas, gasAt_of_some hg]; rfl, ?_, ?_, ?_⟩
  · exact Array.getElem?_setIfInBounds_self_of_lt hi
  · exact Array.getElem?_setIfInBounds_self_of_lt hslot
  · constructor
    · exact fun j hj => Array.getElem?_setIfInBounds_ne (Ne.symm hj)
    · exact fun k hk => Array.getElem?_setIfInBounds_ne (Ne.symm hk)
    · rfl

lemma mem_placesOf_iff {k : Species} : i ∈ s.placesOf k ↔ s.species? i = some k := by
  rw [placesOf, List.mem_filter, decide_eq_true_iff, List.mem_range]
  constructor
  · exact And.right
  · intro h
    obtain ⟨p, hp, -⟩ := Option.map_eq_some_iff.mp h
    exact ⟨(Array.getElem?_eq_some_iff.mp hp).1, h⟩

lemma pairwise_placesOf (s : Store α) (k : Species) : (s.placesOf k).Pairwise (· < ·) :=
  List.pairwise_lt_range.filter _

lemma placesOf_perm (s : Store α) :
    (Species.all.flatMap s.placesOf).Perm (List.range s.size) := by
  have hdistinct : (Species.all.map some).Nodup := by decide
  have hspecies : ∀ i ∈ List.range s.size, s.species? i ∈ Species.all.map some := by
    intro i hi
    have hlt : i < s.particles.size := List.mem_range.mp hi
    rw [species?, Array.getElem?_eq_getElem hlt]
    exact List.mem_map_of_mem (Species.mem_all _)
  have hperm := flatMap_filter_perm s.species? hdistinct hspecies
  rwa [List.flatMap_map] at hperm

end

variable [Scalar α]

def add (s : Store α) : Addition α → Store α
  | .particle p => s.push p
  | .gas id mass pos vel hsml density => s.addGas id mass pos vel hsml density
  | .darkMatter id mass pos vel => s.addDarkMatter id mass pos vel
  | .star id mass pos vel hsml => s.addStar id mass pos vel hsml

def fill (additions : List (Addition α)) : Store α :=
  additions.foldl add empty

lemma fill_concat (additions : List (Addition α)) (a : Addition α) :
    fill (additions ++ [a]) = (fill additions).add a := by
  rw [fill, List.foldl_append]
  rfl

lemma kept_push (s : Store α) (p : Particle α) : Kept s (s.push p) := by
  by_cases hg : p.species = .gas
  · rw [push_gas s hg]
    exact kept_pushGas s p _
  · by_cases hs : p.species = .star
    · rw [push_star s hs]
      exact ⟨fun _ _ hq => getElem?_push_of_some _ hq, fun _ _ hh => hh⟩
    · rw [push_unnumbered s hg hs]
      exact ⟨fun _ _ hq => getElem?_push_of_some _ hq, fun _ _ hh => hh⟩

lemma kept_add (s : Store α) (a : Addition α) : Kept s (s.add a) := by
  cases a with
  | particle p => exact kept_push s p
  | gas id mass pos vel hsml density => exact kept_pushGas s _ _
  | darkMatter id mass pos vel => exact kept_push s (.new id .darkMatter mass pos vel 0)
  | star id mass pos vel hsml => exact kept_push s (.new id .star mass pos vel hsml)

lemma size_add (s : Store α) (a : Addition α) : (s.add a).size = s.size + 1 := by
  cases a with
  | particle p => exact size_push s p
  | gas id mass pos vel hsml density => simp [add, addGas, pushGas, size]
  | darkMatter id mass pos vel => exact size_push s _
  | star id mass pos vel hsml => exact size_push s _

lemma filled_add {s : Store α} (h : s.Filled) (a : Addition α) : (s.add a).Filled := by
  cases a with
  | particle p => exact h.push p
  | gas id mass pos vel hsml density => exact h.addGas id mass pos vel hsml density
  | darkMatter id mass pos vel => exact h.addDarkMatter id mass pos vel
  | star id mass pos vel hsml => exact h.addStar id mass pos vel hsml

lemma filled_fill (additions : List (Addition α)) : (fill additions).Filled := by
  induction additions using List.reverseRecOn with
  | nil => exact .empty
  | append_singleton additions a ih =>
    rw [fill_concat]
    exact filled_add ih a

lemma size_fill (additions : List (Addition α)) : (fill additions).size = additions.length := by
  induction additions using List.reverseRecOn with
  | nil => rfl
  | append_singleton additions a ih => rw [fill_concat, size_add, ih, List.length_append]; rfl

lemma gas?_addGas (s : Store α) (id : UInt64) (mass : α) (pos vel : Vec α) (hsml density : α) :
    ∃ p, (s.addGas id mass pos vel hsml density).gas? s.size = some (p, .ofDensity density) := by
  refine ⟨_, gas?_eq_some_iff.mpr ⟨Array.getElem?_push_size, rfl, ?_⟩⟩
  exact Array.getElem?_push_size

lemma gas?_fill {additions : List (Addition α)} {i : Nat} {id : UInt64} {mass : α} {pos vel : Vec α}
    {hsml density : α} (h : additions[i]? = some (.gas id mass pos vel hsml density)) :
    ∃ p, (fill additions).gas? i = some (p, .ofDensity density) := by
  induction additions using List.reverseRecOn with
  | nil => cases h
  | append_singleton additions a ih =>
    rw [fill_concat]
    rcases Nat.lt_trichotomy i additions.length with hi | rfl | hi
    · rw [List.getElem?_append_left hi] at h
      obtain ⟨p, hp⟩ := ih h
      exact ⟨p, (kept_add _ a).gas? hp⟩
    · rw [List.getElem?_concat_length] at h
      obtain rfl := Option.some.inj h
      rw [← size_fill]
      exact gas?_addGas _ id mass pos vel hsml density
    · have hout : (additions ++ [a]).length ≤ i := by
        rw [List.length_append, List.length_singleton]
        omega
      rw [List.getElem?_eq_none hout] at h
      cases h

end Store

/-- What can be done with a family of stores: one gets another particle, or one is copied and the
copy comes last. -/
inductive Growth (α : Type) where
  | add (j : Nat) (a : Addition α)
  | copy (j : Nat)

namespace Growth

variable {α β γ : Type}

def act (grow : β → Addition α → β) (family : List β) : Growth α → List β
  | add j a => family.modify j (grow · a)
  | copy j => family ++ family[j]?.toList

def run (grow : β → Addition α → β) (start : β) (steps : List (Growth α)) : List β :=
  steps.foldl (act grow) [start]

lemma act_map {grow : β → Addition α → β} {grow' : γ → Addition α → γ} {f : β → γ}
    (hf : ∀ x a, f (grow x a) = grow' (f x) a) (family : List β) (step : Growth α) :
    act grow' (family.map f) step = (act grow family step).map f := by
  cases step with
  | add j a =>
    apply List.ext_getElem?
    intro k
    simp only [act, List.getElem?_modify, List.getElem?_map, Option.map_eq_map, Option.map_map]
    congr 1
    funext x
    by_cases hk : j = k <;> simp [hk, hf]
  | copy j => simp [act, List.getElem?_map, Option.toList_map]

lemma run_map {grow : β → Addition α → β} {grow' : γ → Addition α → γ} {f : β → γ}
    (hf : ∀ x a, f (grow x a) = grow' (f x) a) (start : β) (steps : List (Growth α)) :
    run grow' (f start) steps = (run grow start steps).map f := by
  induction steps using List.reverseRecOn with
  | nil => rfl
  | append_singleton steps step ih =>
    simp only [run, List.foldl_append, List.foldl_cons, List.foldl_nil] at ih ⊢
    rw [ih, act_map hf]

variable [Scalar α]

/-- The stores that come from a new one. -/
def stores (steps : List (Growth α)) : List (Store α) :=
  run Store.add .empty steps

/-- What was added to each of the stores, or before that to the one that it was copied from. -/
def histories (steps : List (Growth α)) : List (List (Addition α)) :=
  run (fun additions a => additions ++ [a]) [] steps

lemma stores_eq (steps : List (Growth α)) : stores steps = (histories steps).map Store.fill :=
  run_map Store.fill_concat [] steps

/-- Gas and stars are numbered in order. Gas alone has states, one each, and a change reaches just
the one. The densities that were given stay, whatever comes later, and the species sort all places
into ascending lists. -/
theorem stores_keep_slots {steps : List (Growth α)} {j : Nat} {s : Store α}
    {additions : List (Addition α)} (hs : (stores steps)[j]? = some s)
    (hadditions : (histories steps)[j]? = some additions) :
    s.size = additions.length ∧
    s.slotsOf .gas = List.range s.gasStates.size ∧
    s.slotsOf .star = List.range s.starCount ∧
    (∀ (i : Nat) p, s.particles[i]? = some p → p.species = .gas →
      ∃ h, s.gasStates[p.slot]? = some h ∧ s.gasStateAt i = .ok h ∧
        ∀ f, ∃ t, s.alterGas i f = .ok t ∧ t.particles[i]? = some (f (p, h)).1 ∧
          t.gasStates[p.slot]? = some (f (p, h)).2 ∧ s.SameBut t i p.slot) ∧
    (∀ (i : Nat) p, s.particles[i]? = some p → p.species ≠ .gas →
      s.gasStateAt i = .error (.noGasState i) ∧ ∀ f, s.alterGas i f = .error (.noGasState i)) ∧
    (∀ (i k : Nat) p q, s.particles[i]? = some p → s.particles[k]? = some q →
      p.species = .gas → q.species = .gas → i ≠ k → p.slot ≠ q.slot) ∧
    (∀ i id mass pos vel hsml density,
      additions[i]? = some (.gas id mass pos vel hsml density) →
        ∃ h, s.gasStateAt i = .ok h ∧ h.density = density) ∧
    (∀ k, (s.placesOf k).Pairwise (· < ·) ∧ ∀ i, i ∈ s.placesOf k ↔ s.species? i = some k) ∧
    (Species.all.flatMap s.placesOf).Perm (List.range s.size) := by
  rw [stores_eq, List.getElem?_map, hadditions, Option.map_some, Option.some.injEq] at hs
  subst hs
  have hslotted := (Store.filled_fill additions).slotted
  refine ⟨Store.size_fill additions, hslotted.gas, hslotted.star, ?_, ?_, ?_, ?_, ?_,
    Store.placesOf_perm _⟩
  · intro i p hp hk
    obtain ⟨h, hg⟩ := hslotted.gas? hp hk
    exact ⟨h, (Store.gas?_eq_some_iff.mp hg).2.2, Store.gasStateAt_of_some hg,
      Store.alterGas_of_some hg⟩
  · intro i p hp hk
    have hnone := Store.gas?_of_ne hp hk
    exact ⟨Store.gasStateAt_of_none hnone, Store.alterGas_of_none hnone⟩
  · intro i k p q hp hq hpk hqk hik hslot
    exact hik (hslotted.gas_eq hp hq hpk hqk hslot)
  · intro i id mass pos vel hsml density h
    obtain ⟨p, hg⟩ := Store.gas?_fill h
    exact ⟨.ofDensity density, Store.gasStateAt_of_some hg, rfl⟩
  · intro k
    exact ⟨Store.pairwise_placesOf _ k, fun i => Store.mem_placesOf_iff⟩

-- The second store is a copy of the first, taken when that had one particle.
def forked : List (Growth Float) :=
  [.add 0 (.gas 1 1 0 0 1 2), .copy 0, .add 0 (.darkMatter 2 5 0 0), .add 1 (.star 3 1 0 0 1),
    .add 1 (.gas 4 1 0 0 1 3)]

theorem stores_keep_slots_forked :
    ∃ s additions, (stores forked)[1]? = some s ∧ (histories forked)[1]? = some additions ∧
      s.slotsOf .gas = [0, 1] ∧ s.gasStateAt 1 = .error (.noGasState 1) ∧
      (∃ h, s.gasStateAt 0 = .ok h ∧ h.density = 2) ∧
      ∃ h, s.gasStateAt 2 = .ok h ∧ h.density = 3 := by
  have hs : (stores forked)[1]? = some _ := rfl
  have hadditions : (histories forked)[1]? = some _ := rfl
  obtain ⟨-, hgas, -, -, hother, -, hdensity, -, -⟩ := stores_keep_slots hs hadditions
  have hstar := hother 1 _ rfl (by decide)
  have hfirst := hdensity 0 _ _ _ _ _ _ rfl
  have hlast := hdensity 2 _ _ _ _ _ _ rfl
  exact ⟨_, _, hs, hadditions, hgas, hstar.1, hfirst, hlast⟩

end Growth

end GalacticWinds
