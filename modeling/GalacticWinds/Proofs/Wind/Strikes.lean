import GalacticWinds.Proofs.Wind.Aloft

/-! Visits decide without a look at velocities and delays, so a series of them adds up launches. -/

namespace GalacticWinds

namespace Setting

variable (setting : Setting ℝ)

noncomputable def aim? (e : StarQuery ℝ × Neighbour ℝ) : Option (Launch ℝ) :=
  if e.1.star.hsml < e.2.r then none
  else
    (setting.model.launch? setting.cosmology e.1.record.dispersion).filter fun l =>
      setting.random (e.1.star.id + e.2.particle.id) <
        l.chance e.1.star.mass e.1.record.around.gasMass

noncomputable def volley (es : List (StarQuery ℝ × Neighbour ℝ)) (k : Nat) : List (Launch ℝ) :=
  (es.filter (·.2.particle.slot = k)).filterMap setting.aim?

def Met (s : Store ℝ) (n : Neighbour ℝ) : Prop :=
  ∃ p, s.particles[n.index]? = some p ∧ p.species = .gas ∧ n.particle.slot = p.slot ∧
    n.particle.id = p.id

variable {setting} {s : Store ℝ} {ls : Nat → List (Launch ℝ)}

lemma kick?_eq_map (hs : s.Slotted) (q : StarQuery ℝ) {n : Neighbour ℝ} (hn : Met s n) :
    setting.kick? (s.aloft setting ls) q n =
      (setting.aim? (q, n)).map fun l => ⟨n.index, l.speed * randomDirection setting.random
        n.particle.id, setting.model.travelTime setting.cosmology l.speed⟩ := by
  obtain ⟨p, hp, hk, -, -⟩ := hn
  obtain ⟨h, hg⟩ := hs.gas? hp hk
  have hsome : ((s.aloft setting ls).gas? n.index).isNone = false := by
    rw [Store.gas?_aloft ls hg, Option.isNone_some]
  rw [kick?, aim?]
  by_cases hr : q.star.hsml < n.r
  · rw [if_pos hr, if_pos hr, Option.map_none]
  · rw [if_neg hr, if_neg hr]
    cases setting.model.launch? setting.cosmology q.record.dispersion with
    | none => rfl
    | some l =>
      by_cases hd : setting.random (q.star.id + n.particle.id) <
          l.chance q.star.mass q.record.around.gasMass
      · simp [hd, hsome, Option.filter]
      · simp [hd, Option.filter, not_lt.mp hd]

lemma volley_append (es es' : List (StarQuery ℝ × Neighbour ℝ)) (k : Nat) :
    setting.volley (es ++ es') k = setting.volley es k ++ setting.volley es' k := by
  rw [volley, volley, volley, List.filter_append, List.filterMap_append]

lemma volley_singleton (e : StarQuery ℝ × Neighbour ℝ) (k : Nat) :
    setting.volley [e] k = if e.2.particle.slot = k then (setting.aim? e).toList else [] := by
  by_cases h : e.2.particle.slot = k
  · cases ha : setting.aim? e with
    | none => simp [volley, h, ha]
    | some l => simp [volley, h, ha]
  · simp [volley, h]

lemma strike_aloft (hs : s.Slotted) {e : StarQuery ℝ × Neighbour ℝ} (he : Met s e.2) (c : Nat) :
    setting.strike e.1 (s.aloft setting ls, c) e.2 =
      (s.aloft setting fun k => ls k ++ setting.volley [e] k,
        c + ([e].filterMap setting.aim?).length) := by
  rw [strike, kick?_eq_map hs e.1 he]
  cases ha : setting.aim? e with
  | none =>
    simp only [volley_singleton, ha, Option.toList_none, ite_self, List.append_nil]
    simp [ha]
  | some l =>
    obtain ⟨p, hp, hk, hslot, hid⟩ := he
    have hls : Function.update ls p.slot (ls p.slot ++ [l]) =
        fun k => ls k ++ setting.volley [e] k := by
      funext k
      rw [volley_singleton, ha, hslot]
      by_cases hkp : k = p.slot
      · rw [if_pos hkp.symm, hkp, Function.update_self, Option.toList_some]
      · rw [if_neg (Ne.symm hkp), Function.update_of_ne hkp, List.append_nil]
    have hkick : (s.aloft setting ls).kick _ = _ := Store.kick_aloft hs hp hk l
    rw [← hid, hls] at hkick
    simp only [Option.map_some, hkick]
    simp [ha]

theorem foldl_strike (hs : s.Slotted) {es : List (StarQuery ℝ × Neighbour ℝ)}
    (he : ∀ e ∈ es, Met s e.2) (c : Nat) :
    es.foldl (fun s e => setting.strike e.1 s e.2) (s.aloft setting ls, c) =
      (s.aloft setting fun k => ls k ++ setting.volley es k,
        c + (es.filterMap setting.aim?).length) := by
  induction es generalizing ls c with
  | nil => simp [volley]
  | cons e es ih =>
    have hsplit : e :: es = [e] ++ es := rfl
    rw [List.foldl_cons, strike_aloft hs (he e List.mem_cons_self),
      ih fun e' h => he e' (List.mem_cons_of_mem e h), hsplit]
    simp only [volley_append, List.filterMap_append, List.length_append, List.append_assoc,
      Nat.add_assoc]

end Setting

end GalacticWinds
