import GalacticWinds.Proofs.Tree.Search
import GalacticWinds.Proofs.Wind.Strikes

/-! The visits of one star: what they launch is the same before and after other kicks, and can be
told from the store alone. -/

namespace GalacticWinds

open scoped List

lemma filterMap_eq_toList {β γ : Type} {xs : List β} {x : β} {f : β → Option γ} (hn : xs.Nodup)
    (hx : x ∈ xs) (hf : ∀ y ∈ xs, y ≠ x → f y = none) : xs.filterMap f = (f x).toList := by
  obtain ⟨ys, zs, rfl⟩ := List.append_of_mem hx
  obtain ⟨-, hz, hyz⟩ := List.nodup_append.mp hn
  have hys : ys.filterMap f = [] := List.filterMap_eq_nil_iff.mpr fun y hy =>
    hf y (List.mem_append_left _ hy) (hyz y hy x List.mem_cons_self)
  have hzs : zs.filterMap f = [] := List.filterMap_eq_nil_iff.mpr fun z hz' =>
    hf z (List.mem_append_right _ (List.mem_cons_of_mem _ hz')) fun he =>
      (List.nodup_cons.mp hz).1 (he ▸ hz')
  rw [List.filterMap_append, hys, List.nil_append, List.filterMap_cons]
  cases f x with
  | none => rw [hzs]; rfl
  | some c => rw [hzs]; rfl

namespace StarQuery

def of? (s : Store ℝ) (records : List (StarRecord ℝ)) (j : Nat) : Option (StarQuery ℝ) :=
  s.particles[j]?.bind fun t => records[t.slot]?.map fun r => ⟨t, r⟩

def gasReach (q : StarQuery ℝ) : Reach ℝ :=
  ⟨q.star.pos, q.star.hsml, .gas⟩

lemma gas_contains (k : Species) : SpeciesMask.gas.contains k = true ↔ k = .gas := by
  have h := SpeciesMask.contains_of .gas k
  rw [show SpeciesMask.gas = .of .gas from rfl, h, decide_eq_true_iff, eq_comm]

lemma norm_le_hsml_iff (q : StarQuery ℝ) (p : Vec ℝ) :
    (q.star.pos - p).norm ≤ q.star.hsml ↔
      (q.star.pos - p).normSq ≤ q.gasReach.radiusSq ∧ ¬ q.star.hsml < √(q.star.pos - p).normSq := by
  rw [Vec.norm_real, Reach.radiusSq, Scalar.sq_real, not_lt]
  constructor
  · intro h
    exact ⟨(Real.sqrt_le_iff.mp h).2, h⟩
  · exact fun h => h.2

end StarQuery

namespace Setting

variable {setting : Setting ℝ} {s : Store ℝ} {ls : Nat → List (Launch ℝ)}

variable (setting) in
/-- The launch that a star means for a gas particle. -/
noncomputable def launch? (q : StarQuery ℝ) (p : Particle ℝ) : Option (Launch ℝ) :=
  if (q.star.pos - p.pos).norm ≤ q.star.hsml then
    (setting.model.launch? setting.cosmology q.record.dispersion).filter fun l =>
      setting.random (q.star.id + p.id) < l.chance q.star.mass q.record.around.gasMass
  else none

variable (setting) in
noncomputable def launchOf? (s : Store ℝ) (records : List (StarRecord ℝ)) (j i : Nat) :
    Option (Launch ℝ) :=
  (StarQuery.of? s records j).bind fun q => s.particles[i]?.bind (setting.launch? q)

variable (setting) in
noncomputable def visits (ps : Array (Particle ℝ)) (q : StarQuery ℝ) :
    List (StarQuery ℝ × Neighbour ℝ) :=
  (setting.tree.near ps q.gasReach).map (q, ·)

variable (setting) in
noncomputable def deferred (ls : Nat → List (Launch ℝ)) (e : StarQuery ℝ × Neighbour ℝ) :
    StarQuery ℝ × Neighbour ℝ :=
  (e.1, { e.2 with particle := e.2.particle.aloft setting (ls e.2.particle.slot) })

section

variable (ls) (e : StarQuery ℝ × Neighbour ℝ)

lemma deferred_slot : (setting.deferred ls e).2.particle.slot = e.2.particle.slot :=
  Particle.aloft_slot _ _

lemma aim?_deferred : setting.aim? (setting.deferred ls e) = setting.aim? e := by
  simp only [aim?, deferred, Particle.aloft_id]

variable (s) (q : StarQuery ℝ)

lemma visits_aloft :
    setting.visits (s.aloft setting ls).particles q =
      (setting.visits s.particles q).map (setting.deferred ls) := by
  rw [visits, Store.aloft, Octree.near_map _ _ (fun p => p.aloft_pos _) fun p => p.aloft_species _,
    visits, List.map_map, List.map_map]
  rfl

lemma filterMap_visits_aloft :
    (setting.visits (s.aloft setting ls).particles q).filterMap setting.aim? =
      (setting.visits s.particles q).filterMap setting.aim? := by
  rw [visits_aloft, List.filterMap_map]
  exact List.filterMap_congr fun e _ => aim?_deferred ls e

lemma volley_visits_aloft (k : Nat) :
    setting.volley (setting.visits (s.aloft setting ls).particles q) k =
      setting.volley (setting.visits s.particles q) k := by
  rw [volley, visits_aloft, List.filter_map, List.filterMap_map, volley]
  simp only [Function.comp_def, deferred_slot, aim?_deferred]

end

variable {q : StarQuery ℝ} {i : Nat} {p : Particle ℝ}

lemma gas_of_neighbour? {n : Neighbour ℝ}
    (hn : q.gasReach.neighbour? s.particles i = some n) :
    n.index = i ∧ s.particles[i]? = some n.particle ∧ n.particle.species = .gas := by
  obtain ⟨p, hp, hk, -, rfl⟩ := (Reach.neighbour?_eq_some_iff _ _ _ _).mp hn
  exact ⟨rfl, hp, (StarQuery.gas_contains _).mp hk⟩

lemma neighbour?_bind_aim? (hp : s.particles[i]? = some p) (hk : p.species = .gas) :
    ((q.gasReach.neighbour? s.particles i).bind fun n => setting.aim? (q, n)) =
      setting.launch? q p := by
  have hm : q.gasReach.mask.contains p.species = true := (StarQuery.gas_contains _).mpr hk
  by_cases hr : (q.star.pos - p.pos).normSq ≤ q.gasReach.radiusSq
  · have hn := (q.gasReach.neighbour?_eq_some_iff s.particles i _).mpr ⟨p, hp, hm, hr, rfl⟩
    rw [hn, Option.bind_some, aim?, launch?, if_congr (q.norm_le_hsml_iff p.pos) rfl rfl]
    simp only [hr, true_and, ite_not]
    rfl
  · have hn : q.gasReach.neighbour? s.particles i = none := by
      rw [Option.eq_none_iff_forall_ne_some]
      intro n hn
      obtain ⟨p', hp', -, hr', -⟩ := (Reach.neighbour?_eq_some_iff _ _ _ _).mp hn
      obtain rfl := Option.some.inj (hp.symm.trans hp')
      exact hr hr'
    rw [hn, Option.bind_none, launch?, if_neg fun h => hr ((q.norm_le_hsml_iff p.pos).mp h).1]

variable (htree : setting.tree = .build s.particles)

include htree

lemma met_of_mem_visits {e : StarQuery ℝ × Neighbour ℝ}
    (he : e ∈ setting.visits s.particles q) : Met s e.2 := by
  rw [visits, htree] at he
  obtain ⟨n, hn, rfl⟩ := List.mem_map.mp he
  rw [(Octree.near_build_perm s.particles q.gasReach).mem_iff] at hn
  obtain ⟨i, -, hi⟩ := List.mem_filterMap.mp hn
  obtain ⟨rfl, hp, hk⟩ := gas_of_neighbour? hi
  exact ⟨n.particle, hp, hk, rfl, rfl⟩

lemma met_of_mem_visits_aloft {e : StarQuery ℝ × Neighbour ℝ}
    (he : e ∈ setting.visits (s.aloft setting ls).particles q) : Met s e.2 := by
  rw [visits_aloft] at he
  obtain ⟨e', he', rfl⟩ := List.mem_map.mp he
  obtain ⟨p, hp, hk, hslot, hid⟩ := met_of_mem_visits htree he'
  exact ⟨p, hp, hk, by rw [deferred_slot, hslot], (Particle.aloft_id _ _).trans hid⟩

lemma filterMap_visits_perm :
    (setting.visits s.particles q).filterMap setting.aim? ~
      (s.placesOf .gas).filterMap fun i => s.particles[i]?.bind (setting.launch? q) := by
  rw [visits, htree, List.filterMap_map]
  refine ((Octree.near_build_perm s.particles q.gasReach).filterMap _).trans ?_
  rw [List.filterMap_filterMap, Store.placesOf, List.filterMap_filter]
  refine List.Perm.of_eq (List.filterMap_congr fun i _ => ?_)
  by_cases hk : s.species? i = some .gas
  · obtain ⟨p, hp, hpk⟩ := Option.map_eq_some_iff.mp hk
    rw [if_pos (decide_eq_true hk), hp, Option.bind_some]
    exact neighbour?_bind_aim? hp hpk
  · have hn : q.gasReach.neighbour? s.particles i = none := by
      rw [Option.eq_none_iff_forall_ne_some]
      intro n hn
      obtain ⟨-, hp, hpk⟩ := gas_of_neighbour? hn
      exact hk (by rw [Store.species?, hp, Option.map_some, hpk])
    rw [if_neg fun h => hk (of_decide_eq_true h), hn, Option.bind_none]

lemma volley_visits_perm (hs : s.Slotted) (hp : s.particles[i]? = some p)
    (hk : p.species = .gas) :
    setting.volley (setting.visits s.particles q) p.slot ~ (setting.launch? q p).toList := by
  rw [volley, visits, htree, List.filter_map, List.filterMap_map]
  refine (((Octree.near_build_perm s.particles q.gasReach).filter _).filterMap _).trans ?_
  rw [List.filter_filterMap, List.filterMap_filterMap]
  have hi : i ∈ List.range s.particles.size :=
    List.mem_range.mpr (Array.getElem?_eq_some_iff.mp hp).1
  refine List.Perm.of_eq ((filterMap_eq_toList List.nodup_range hi fun j _ hj => ?_).trans ?_)
  · cases hn : q.gasReach.neighbour? s.particles j with
    | none => rfl
    | some n =>
      -- another place holds gas of another slot
      obtain ⟨-, hn, hnk⟩ := gas_of_neighbour? hn
      have hne : n.particle.slot ≠ p.slot := fun he => hj (hs.gas_eq hn hp hnk hk he)
      simp [Option.filter, hne]
  · rw [← neighbour?_bind_aim? hp hk]
    cases hn : q.gasReach.neighbour? s.particles i with
    | none => rfl
    | some n =>
      obtain ⟨-, hn, -⟩ := gas_of_neighbour? hn
      obtain rfl := Option.some.inj (hp.symm.trans hn)
      simp [Option.filter]

end Setting

end GalacticWinds
