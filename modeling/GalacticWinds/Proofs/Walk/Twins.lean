import GalacticWinds.Proofs.Walk.Round

/-! Two rounds side by side, over particles that differ in what the walk does not look at. -/

namespace GalacticWinds

inductive Agree {ε β γ : Type} (R : β → γ → Prop) : Except ε β → Except ε γ → Prop
  | error (e : ε) : Agree R (.error e) (.error e)
  | ok {x : β} {y : γ} : R x y → Agree R (.ok x) (.ok y)

namespace Agree

variable {ε β γ β' γ' : Type} {R : β → γ → Prop} {S : β' → γ' → Prop}

lemma bind {x : Except ε β} {y : Except ε γ} {f : β → Except ε β'} {g : γ → Except ε γ'}
    (h : Agree R x y) (hf : ∀ a b, R a b → Agree S (f a) (g b)) : Agree S (x >>= f) (y >>= g) := by
  cases h with
  | error e => exact .error e
  | ok h => exact hf _ _ h

lemma mapM {xs : List β} {ys : List γ} {f : β → Except ε β'} {g : γ → Except ε γ'}
    (h : List.Forall₂ R xs ys) (hf : ∀ x y, R x y → Agree S (f x) (g y)) :
    Agree (List.Forall₂ S) (xs.mapM f) (ys.mapM g) := by
  induction h with
  | nil => exact .ok .nil
  | cons hxy _ ih =>
    rw [List.mapM_cons, List.mapM_cons]
    exact (hf _ _ hxy).bind fun a b hab => ih.bind fun as bs habs => .ok (.cons hab habs)

end Agree

namespace Walk

variable {α ρ κ σ : Type}

section

variable (w : Walk α ρ κ σ)

structure VisitTwins (u v : Visit α σ) : Prop where
  index : u.target.index = v.target.index
  slot : u.slot = v.slot
  result : u.result = v.result
  finish : w.finish u.target = w.finish v.target

/-- Targets in their own surroundings, between which the walk sees no difference. -/
structure Twins [Scalar α] (tree : Octree α) (ps qs : Array (Particle α)) (t u : Target α) :
    Prop where
  index : t.index = u.index
  hasWork : w.hasWork t = w.hasWork u
  slot : w.slot t = w.slot u
  gather : ∀ r, w.gather tree ps (w.query t r) = w.gather tree qs (w.query u r)
  finish : w.finish t = w.finish u

end

structure RoundTwins (a b : Round α ρ σ) : Prop where
  records : a.records = b.records
  pending : a.pending = b.pending
  settled : a.settled = b.settled

variable {w : Walk α ρ κ σ}

lemma latest_twins {us vs : List (Visit α σ)} (h : List.Forall₂ w.VisitTwins us vs) (slot : Nat) :
    Option.Rel w.VisitTwins (latest us slot) (latest vs slot) := by
  refine List.rel_foldl (P := Option.Rel w.VisitTwins) ?_ .none h
  intro a b hab u v huv
  dsimp only
  rw [huv.slot]
  split_ifs
  · exact .some huv
  · exact hab

lemma settle_twins {us vs : List (Visit α σ)} (h : List.Forall₂ w.VisitTwins us vs) (record : ρ)
    (slot : Nat) : w.settle us record slot = w.settle vs record slot := by
  have hl := latest_twins h slot
  rw [settle, settle]
  generalize latest us slot = u, latest vs slot = v at hl
  cases hl with
  | none => rfl
  | some huv => simp only [huv.index, huv.result, huv.finish]

variable [Scalar α] {tree : Octree α} {ps qs : Array (Particle α)}

lemma visitTarget_twins {t u : Target α} (h : w.Twins tree ps qs t u) (records : List ρ) :
    Agree w.VisitTwins (w.visitTarget tree ps records t) (w.visitTarget tree qs records u) := by
  rw [visitTarget, visitTarget, h.slot]
  cases w.slot u with
  | error e => exact .error e
  | ok slot =>
    simp only [bind, Except.bind]
    cases records[slot]? with
    | none =>
      rw [h.index]
      exact .error _
    | some record => exact .ok ⟨h.index, rfl, h.gather record, h.finish⟩

theorem run_twins {targets : List Nat} (h : ∀ i ∈ targets,
    Agree (w.Twins tree ps qs) (Target.at? ps i) (Target.at? qs i)) (records : List ρ) :
    Agree RoundTwins (w.run tree ps targets records) (w.run tree qs targets records) := by
  have hat : Agree (List.Forall₂ (w.Twins tree ps qs)) (targets.mapM (Target.at? ps))
      (targets.mapM (Target.at? qs)) := by
    refine Agree.mapM (R := fun i j => i = j ∧ i ∈ targets) ?_ ?_
    · exact List.forall₂_same.mpr fun i hi => ⟨rfl, hi⟩
    · rintro i _ ⟨rfl, hi⟩
      exact h i hi
  rw [run_eq, run_eq]
  refine hat.bind fun ts us htus => ?_
  have hwork : List.Forall₂ (w.Twins tree ps qs) (ts.filter w.hasWork) (us.filter w.hasWork) := by
    refine List.rel_filter (fun t u htu => ?_) htus
    dsimp only
    rw [htu.hasWork]
  refine (Agree.mapM hwork fun t u htu => visitTarget_twins htu records).bind fun as bs hab => ?_
  have hsettle : w.settleAll as 0 records = w.settleAll bs 0 records := by
    rw [settleAll, settleAll]
    exact congrArg (List.mapM · _) (funext fun x => settle_twins hab x.1 x.2)
  rw [hsettle]
  cases w.settleAll bs 0 records with
  | error e => exact .error e
  | ok outcomes => exact .ok ⟨rfl, rfl, rfl⟩

end Walk

end GalacticWinds
