import GalacticWinds.Proofs.Wind.Survey.Alone

/-! Fresh records for a batch: what the preparation asks of the stars and what it leaves for
them. -/

namespace GalacticWinds

variable {α : Type} [Scalar α]

def Store.Searchable (s : Store α) (i : Nat) : Prop :=
  ∃ p, s.particles[i]? = some p ∧ p.species = .star ∧ 0 < p.hsml ∧
    Scalar.isFinite p.hsml = true

lemma searchStart_eq_ok_iff {ps : Array (Particle α)} {i k : Nat} {r : StarRecord α} :
    (Target.at? ps i >>= Target.searchStart) = .ok (k, r) ↔
      ∃ p, ps[i]? = some p ∧ p.species = .star ∧ 0 < p.hsml ∧
        Scalar.isFinite p.hsml = true ∧ k = p.slot ∧ r = .ofHsml p.hsml := by
  rw [Target.at?]
  cases ps[i]? with
  | none => simp [bind, Except.bind]
  | some p =>
    simp only [bind, Except.bind, Target.searchStart, Target.starSlot, Option.some.injEq,
      exists_eq_left']
    by_cases hk : p.species = .star
    · by_cases hh : 0 < p.hsml ∧ Scalar.isFinite p.hsml = true
      · simp [hk, hh, pure, Except.pure, eq_comm]
      · simp [hk, hh]
        tauto
    · simp [hk]

variable {cosmology : Cosmology α} {tree : Octree α} {s : Store α}

lemma Store.Searchable.stars {batch : List Nat} (hb : ∀ i ∈ batch, s.Searchable i) :
    s.Stars batch :=
  fun i hi => (hb i hi).imp fun _ hp => ⟨hp.1, hp.2.1⟩

lemma prepare_cons {i : Nat} {more : List Nat} {t t' : Store α}
    {records records' : List (StarRecord α)} (hstore : t.unmarked = s.unmarked)
    (h : prepare (i :: more) t records = (t', .ok records')) :
    ∃ p, s.particles[i]? = some p ∧
      (p.species = .star ∧ 0 < p.hsml ∧ Scalar.isFinite p.hsml = true) ∧
      prepare more (t.mark false i) (records.set p.slot (.ofHsml p.hsml)) = (t', .ok records') := by
  rw [prepare] at h
  cases hstart : Target.at? t.particles i >>= Target.searchStart with
  | error e => simp [hstart] at h
  | ok start =>
    obtain ⟨k, r⟩ := start
    obtain ⟨q, hq, hk, hpos, hfin, rfl, rfl⟩ := searchStart_eq_ok_iff.mp hstart
    obtain ⟨b, hp⟩ := Store.exists_of_unmarked hstore.symm hq
    simp only [hstart] at h
    exact ⟨_, hp, ⟨hk, hpos, hfin⟩, h⟩

lemma searchable_of_prepare {more : List Nat} {t t' : Store α}
    {records records' : List (StarRecord α)} (hstore : t.unmarked = s.unmarked)
    (h : prepare more t records = (t', .ok records')) : ∀ i ∈ more, s.Searchable i := by
  induction more generalizing t records with
  | nil => simp
  | cons i more ih =>
    obtain ⟨p, hp, hstart, hmore⟩ := prepare_cons hstore h
    intro j hj
    rcases List.mem_cons.mp hj with rfl | hj
    · exact ⟨p, hp, hstart⟩
    · exact ih (by rw [Store.unmarked_mark, hstore]) hmore j hj

lemma prepare_append {front more : List Nat} {t t' : Store α} {records records' : List (StarRecord α)}
    (h : prepare (front ++ more) t records = (t', .ok records')) :
    ∃ u us, prepare front t records = (u, .ok us) ∧ prepare more u us = (t', .ok records') := by
  induction front generalizing t records with
  | nil => exact ⟨t, records, rfl, h⟩
  | cons i front ih =>
    rw [List.cons_append, prepare] at h
    rw [prepare]
    cases hstart : Target.at? t.particles i >>= Target.searchStart with
    | error e => simp [hstart] at h
    | ok start =>
      simp only [hstart] at h
      exact ih h

lemma Store.Searchable.exists_start {t : Store α} {i : Nat} (hi : s.Searchable i)
    (hstore : t.unmarked = s.unmarked) :
    ∃ start, (Target.at? t.particles i >>= Target.searchStart) = .ok start := by
  obtain ⟨p, hp, hk, hpos, hfin⟩ := hi
  obtain ⟨b, hq⟩ := Store.exists_of_unmarked hstore hp
  exact ⟨(p.slot, .ofHsml p.hsml), searchStart_eq_ok_iff.mpr ⟨_, hq, hk, hpos, hfin, rfl, rfl⟩⟩

lemma exists_prepare {more : List Nat} (hb : ∀ i ∈ more, s.Searchable i) {t : Store α}
    (hstore : t.unmarked = s.unmarked) (records : List (StarRecord α)) :
    ∃ t' records', prepare more t records = (t', .ok records') := by
  induction more generalizing t records with
  | nil => exact ⟨t, records, rfl⟩
  | cons i more ih =>
    obtain ⟨start, hstart⟩ := (hb i List.mem_cons_self).exists_start hstore
    rw [prepare]
    simp only [hstart]
    exact ih (fun j hj => hb j (List.mem_cons_of_mem i hj)) (by rw [Store.unmarked_mark, hstore]) _

namespace Follows

variable {i : Nat} {p : Particle α} {t : Store α} {records : List (StarRecord α)}

lemma fresh (hstore : t.unmarked = s.unmarked) (hp : s.particles[i]? = some p)
    (hlt : p.slot < records.length) :
    Follows cosmology tree s i p 0 (t.mark false i) (records.set p.slot (.ofHsml p.hsml)) where
  mark := by
    obtain ⟨b, hq⟩ := Store.exists_of_unmarked hstore hp
    rw [Store.getElem?_mark, hq, Option.map_some, if_pos rfl]
    rfl
  record := by
    rw [List.getElem?_set_self hlt]
    rfl

lemma elsewhere {n : Nat} (hf : Follows cosmology tree s i p n t records) {j k : Nat}
    (hj : j ≠ i) (hk : k ≠ p.slot) (b : Bool) (r : StarRecord α) :
    Follows cosmology tree s i p n (t.mark b j) (records.set k r) where
  mark := by rw [Store.getElem?_mark, hf.mark, Option.map_some, if_neg hj]
  record := by rw [List.getElem?_set_ne hk, hf.record]

end Follows

variable (cosmology tree s) in
/-- A store and its records with part of a batch prepared. -/
structure Prepared (batch : List Nat) (t : Store α) (records : List (StarRecord α)) : Prop where
  store : t.unmarked = s.unmarked
  length : records.length = s.starCount
  unsettled : ∀ i ∈ batch, ∀ p, t.particles[i]? = some p → p.converged = false
  follows : ∀ i ∈ batch, ∀ p, s.particles[i]? = some p → p.slot < s.starCount →
    s.Owned batch i → Follows cosmology tree s i p 0 t records
  other : ∀ i : Nat, i ∉ batch → t.particles[i]? = s.particles[i]?
  blank : ∀ k < s.starCount, (∀ i ∈ batch, ∀ p, s.particles[i]? = some p → p.slot ≠ k) →
    records[k]? = some .blank

namespace Prepared

lemma nil (s : Store α) :
    Prepared cosmology tree s [] s (List.replicate s.starCount .blank) where
  store := rfl
  length := List.length_replicate
  unsettled i hi := absurd hi List.not_mem_nil
  follows i hi := absurd hi List.not_mem_nil
  other _ _ := rfl
  blank k hk _ := by rw [List.getElem?_replicate, if_pos hk]

variable {batch : List Nat} {t : Store α} {records : List (StarRecord α)}
  (ht : Prepared cosmology tree s batch t records)

include ht

lemma concat {i : Nat} {p : Particle α} (hp : s.particles[i]? = some p) :
    Prepared cosmology tree s (batch ++ [i]) (t.mark false i)
      (records.set p.slot (.ofHsml p.hsml)) where
  store := by rw [Store.unmarked_mark, ht.store]
  length := by rw [List.length_set, ht.length]
  unsettled j hj q hq := by
    rw [Store.getElem?_mark] at hq
    obtain ⟨q', hq', rfl⟩ := Option.map_eq_some_iff.mp hq
    split_ifs with hij
    · rfl
    · have hj' : j ∈ batch := by simpa [Ne.symm hij] using hj
      exact ht.unsettled j hj' q' hq'
  follows j hj q hq hlt hown := by
    by_cases hij : i = j
    · subst hij
      obtain rfl := Option.some.inj (hp.symm.trans hq)
      exact .fresh ht.store hp (ht.length ▸ hlt)
    · have hj' : j ∈ batch := by simpa [Ne.symm hij] using hj
      have hslot : p.slot ≠ q.slot := fun h => hij (hown i (by simp) q p hq hp h)
      exact (ht.follows j hj' q hq hlt
        (hown.mono (List.subset_append_left _ _))).elsewhere hij hslot _ _
  other j hj := by
    have hij : i ≠ j := fun h => hj (by simp [h])
    have hj' : j ∉ batch := fun h => hj (List.mem_append_left _ h)
    rw [Store.getElem?_mark, ht.other j hj']
    simp only [hij, if_false, Option.map_id']
  blank k hlt hfree := by
    have hslot : p.slot ≠ k := hfree i (by simp) p hp
    rw [List.getElem?_set_ne hslot]
    exact ht.blank k hlt fun j hj => hfree j (List.mem_append_left _ hj)

lemma prepare {more : List Nat} {t' : Store α} {records' : List (StarRecord α)}
    (h : prepare more t records = (t', .ok records')) :
    Prepared cosmology tree s (batch ++ more) t' records' := by
  induction more generalizing batch t records with
  | nil =>
    rw [GalacticWinds.prepare] at h
    simp only [Prod.mk.injEq, Except.ok.injEq] at h
    obtain ⟨rfl, rfl⟩ := h
    rwa [List.append_nil]
  | cons i more ih =>
    obtain ⟨p, hp, -, hmore⟩ := prepare_cons ht.store h
    rw [List.append_cons]
    exact ih (ht.concat hp) hmore

lemma tracks (hs : s.Numbered batch) : Tracks cosmology tree s batch 0 t records where
  store := ht.store
  length := ht.length
  mark i hi p hp := (ht.follows i hi p hp (hs.lt i hi p hp) (hs.own i hi)).mark
  record i hi p hp := (ht.follows i hi p hp (hs.lt i hi p hp) (hs.own i hi)).record
  other := ht.other
  blank := ht.blank

end Prepared

lemma prepared_of_prepareBatch {batch : List Nat} {t : Store α} {records : List (StarRecord α)}
    (h : prepareBatch batch s = (t, .ok records)) : Prepared cosmology tree s batch t records :=
  (Prepared.nil s).prepare h

/-- The star that is prepared last starts afresh, whoever had its slot before. -/
lemma follows_of_prepareBatch {others : List Nat} {i : Nat} {p : Particle α} {t : Store α}
    {records : List (StarRecord α)} (hp : s.particles[i]? = some p) (hlt : p.slot < s.starCount)
    (h : prepareBatch (others ++ [i]) s = (t, .ok records)) :
    Follows cosmology tree s i p 0 t records := by
  obtain ⟨u, us, hothers, hlast⟩ := prepare_append h
  have hu : Prepared cosmology tree s others u us := prepared_of_prepareBatch hothers
  obtain ⟨p', hp', -, hmore⟩ := prepare_cons hu.store hlast
  obtain rfl := Option.some.inj (hp.symm.trans hp')
  simp only [prepare, Prod.mk.injEq, Except.ok.injEq] at hmore
  obtain ⟨rfl, rfl⟩ := hmore
  exact .fresh hu.store hp (hu.length.symm ▸ hlt)

end GalacticWinds
