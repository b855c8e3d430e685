import GalacticWinds.Proofs.Tree.Canonical
import GalacticWinds.Proofs.Walk.Stars
import GalacticWinds.Proofs.Wind.Survey.Marks
import GalacticWinds.Wind.Kick

/-! What neither marks nor kicks touch: all of a particle but its velocity and its mark. The stars
of a pass stay the stars they were, so a pass over stars that have records gives no error. -/

namespace GalacticWinds

section

variable {α : Type} [Scalar α]

def Particle.lasting (p : Particle α) : Particle α :=
  { p with vel := 0, converged := false }

namespace Store

def lasting (s : Store α) : Array (Particle α) :=
  s.particles.map (·.lasting)

variable {s t : Store α} {i : Nat} {p : Particle α}

lemma lasting_unmarked (s : Store α) : s.unmarked.lasting = s.lasting := by
  rw [lasting, unmarked, Array.map_map]
  rfl

lemma lasting_of_unmarked (h : t.unmarked = s.unmarked) : t.lasting = s.lasting := by
  rw [← lasting_unmarked t, h, lasting_unmarked]

lemma exists_of_lasting (h : t.lasting = s.lasting) (hp : s.particles[i]? = some p) :
    ∃ q, t.particles[i]? = some q ∧ q.lasting = p.lasting := by
  have hi : t.lasting[i]? = s.lasting[i]? := by rw [h]
  rw [lasting, lasting, Array.getElem?_map, Array.getElem?_map, hp, Option.map_some] at hi
  exact Option.map_eq_some_iff.mp hi

lemma sites_of_lasting (h : t.lasting = s.lasting) :
    Octree.sites t.particles = Octree.sites s.particles := by
  have hs : ∀ s : Store α, Octree.sites s.particles = Octree.sites s.lasting := by
    intro s
    rw [Octree.sites, Octree.sites, lasting, Array.map_map]
    rfl
  rw [hs, hs, h]

lemma build_of_lasting (h : t.lasting = s.lasting) :
    Octree.build t.particles = Octree.build s.particles :=
  Octree.build_congr (sites_of_lasting h)

lemma slotsOf_of_lasting (h : t.lasting = s.lasting) (k : Species) :
    t.slotsOf k = s.slotsOf k := by
  have hs : ∀ s : Store α, s.slotsOf k =
      (s.lasting.toList.filter (·.species = k)).map (·.slot) := by
    intro s
    rw [slotsOf, lasting, Array.toList_map, List.filter_map, List.map_map]
    rfl
  rw [hs, hs, h]

lemma Slotted.of_lasting (hs : s.Slotted) (h : t.lasting = s.lasting)
    (hgas : t.gasStates.size = s.gasStates.size) (hstar : t.starCount = s.starCount) :
    t.Slotted where
  gas := by rw [slotsOf_of_lasting h, hs.gas, hgas]
  star := by rw [slotsOf_of_lasting h, hs.star, hstar]

lemma Slotted.of_unmarked (hs : s.Slotted) (h : t.unmarked = s.unmarked) : t.Slotted := by
  apply hs.of_lasting (lasting_of_unmarked h)
  · exact congrArg (·.gasStates.size) h
  · exact congrArg (·.starCount) h

section

variable {q : Particle α} {g g' : SphState α} {j : Nat} (hq : q.lasting = p.lasting)

include hq

lemma lasting_putGas (hp : s.particles[i]? = some p) (g : SphState α) :
    (s.putGas i (q, g)).lasting = s.lasting :=
  map_putGas hp _ hq g

lemma Slotted.putGas (hs : s.Slotted) (hp : s.particles[i]? = some p) (g : SphState α) :
    (s.putGas i (q, g)).Slotted :=
  hs.of_lasting (lasting_putGas hq hp g) Array.size_setIfInBounds rfl

lemma gas?_putGas_self (hg : s.gas? i = some (p, g)) :
    (s.putGas i (q, g')).gas? i = some (q, g') := by
  obtain ⟨hp, hk, hh⟩ := gas?_eq_some_iff.mp hg
  have hspecies : q.species = p.species := congrArg (·.species) hq
  have hslot : q.slot = p.slot := congrArg (·.slot) hq
  refine gas?_eq_some_iff.mpr ⟨?_, hspecies.trans hk, ?_⟩
  · exact Array.getElem?_setIfInBounds_self_of_lt (Array.getElem?_eq_some_iff.mp hp).1
  · have hlt := (Array.getElem?_eq_some_iff.mp hh).1
    exact Array.getElem?_setIfInBounds_self_of_lt (hslot ▸ hlt)

lemma gas?_putGas_of_ne (hs : s.Slotted) (hg : s.gas? i = some (p, g)) (hij : i ≠ j)
    {g₀ : Particle α × SphState α} (hj : s.gas? j = some g₀) :
    (s.putGas i (q, g')).gas? j = some g₀ := by
  obtain ⟨hp, hk, -⟩ := gas?_eq_some_iff.mp hg
  obtain ⟨hp₀, hk₀, hh₀⟩ := gas?_eq_some_iff.mp hj
  have hslot : q.slot = p.slot := congrArg (·.slot) hq
  have hne : q.slot ≠ g₀.1.slot := fun he => hij (hs.gas_eq hp hp₀ hk hk₀ (hslot.symm.trans he))
  refine gas?_eq_some_iff.mpr ⟨?_, hk₀, ?_⟩
  · exact (Array.getElem?_setIfInBounds_ne hij).trans hp₀
  · exact (Array.getElem?_setIfInBounds_ne hne).trans hh₀

end

lemma Recorded.of_lasting {ρ : Type} {records : List ρ} {batch : List Nat}
    (hb : s.Recorded records batch) (h : t.lasting = s.lasting) : t.Recorded records batch := by
  intro i hi
  obtain ⟨p, hp, hk, hlt⟩ := hb i hi
  obtain ⟨q, hq, hqp⟩ := exists_of_lasting h hp
  have hspecies : q.species = p.species := congrArg (·.species) hqp
  have hslot : q.slot = p.slot := congrArg (·.slot) hqp
  exact ⟨q, hq, hspecies.trans hk, hslot.trans_lt hlt⟩

end Store

end

variable {α : Type} [Transcendental α] {setting : Setting α} {records : List (StarRecord α)}
  {s : Store α}

lemma Store.lasting_kick (s : Store α) (k : Kick α) : (s.kick k).lasting = s.lasting := by
  rw [kick]
  cases hg : s.gas? k.index with
  | none => rfl
  | some g =>
    obtain ⟨hp, -, -⟩ := gas?_eq_some_iff.mp hg
    have hkick : (g.1.kick k.velocity).lasting = g.1.lasting := rfl
    exact lasting_putGas hkick hp _

namespace Setting

lemma lasting_strike (q : StarQuery α) (s : Store α × Nat) (n : Neighbour α) :
    (setting.strike q s n).1.lasting = s.1.lasting := by
  rw [strike]
  cases setting.kick? s.1 q n with
  | none => rfl
  | some k => exact s.1.lasting_kick k

variable (setting)

lemma lasting_foldl_strike (q : StarQuery α) (ns : List (Neighbour α)) (s : Store α × Nat) :
    (ns.foldl (setting.strike q) s).1.lasting = s.1.lasting := by
  induction ns generalizing s with
  | nil => rfl
  | cons n ns ih => rw [List.foldl_cons, ih, lasting_strike]

lemma kickFrom_star {i : Nat} {p : Particle α} {r : StarRecord α} (hp : s.particles[i]? = some p)
    (hk : p.species = .star) (hr : records[p.slot]? = some r) :
    setting.kickFrom records s i =
      .ok ((setting.tree.near s.particles ⟨p.pos, p.hsml, .gas⟩).foldl
        (setting.strike ⟨p, r⟩) (s, 0)) := by
  have ht : Target.at? s.particles i = .ok ⟨i, p⟩ := Target.at?_eq_ok_iff.mpr ⟨hp, rfl⟩
  have hslot : (setting.kickWalk s).slot ⟨i, p⟩ = .ok p.slot := if_pos hk
  rw [kickFrom, ht]
  simp only [bind, Except.bind, Walk.visitTarget, hslot, hr]
  rfl

variable {setting} in
lemma lasting_kickFrom {i : Nat} {out : Store α × Nat}
    (h : setting.kickFrom records s i = .ok out) : out.1.lasting = s.lasting := by
  rw [kickFrom] at h
  cases ht : Target.at? s.particles i with
  | error e => simp [ht, bind, Except.bind] at h
  | ok t =>
    cases hslot : (setting.kickWalk s).slot t with
    | error e => simp [ht, hslot, Walk.visitTarget, bind, Except.bind] at h
    | ok slot =>
      cases hr : records[slot]? with
      | none => simp [ht, hslot, hr, Walk.visitTarget, bind, Except.bind] at h
      | some r =>
        simp only [ht, hslot, hr, Walk.visitTarget, bind, Except.bind, pure, Except.pure,
          Except.ok.injEq] at h
        rw [← h]
        exact lasting_foldl_strike setting ⟨t.particle, r⟩ _ (s, 0)

variable (records) in
lemma lasting_kickAll (batch : List Nat) (s : Store α) :
    (setting.kickAll records batch s).1.lasting = s.lasting := by
  induction batch generalizing s with
  | nil => rfl
  | cons i batch ih =>
    rw [kickAll]
    cases hfrom : setting.kickFrom records s i with
    | error e => rfl
    | ok out => exact (ih out.1).trans (lasting_kickFrom hfrom)

theorem exists_kickAll {batch : List Nat} (hb : s.Recorded records batch) :
    ∃ t n, setting.kickAll records batch s = (t, .ok n) := by
  induction batch generalizing s with
  | nil => exact ⟨s, 0, rfl⟩
  | cons i batch ih =>
    obtain ⟨p, hp, hk, hlt⟩ := hb i List.mem_cons_self
    have hfrom := kickFrom_star setting hp hk (List.getElem?_eq_getElem hlt)
    have hmore : s.Recorded records batch := fun j hj => hb j (List.mem_cons_of_mem i hj)
    obtain ⟨t, n, hall⟩ := ih (hmore.of_lasting (lasting_kickFrom hfrom))
    rw [kickAll, hfrom]
    simp only [hall]
    exact ⟨t, _, rfl⟩

end Setting

end GalacticWinds
