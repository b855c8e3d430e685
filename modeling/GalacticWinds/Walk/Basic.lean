import GalacticWinds.Failure
import GalacticWinds.Tree.Near
import GalacticWinds.Walk.Merge

/-!
One kind of neighbour computation, and a round of it over a batch of targets. Each target fills a
query from the record at its slot and folds over its neighbours. The results then go into the
records, where of several targets with one slot the last one counts, and each record says whether
its target needs another round.
-/

namespace GalacticWinds

structure Target (α : Type) where
  index : Nat
  particle : Particle α

/-- A computation with records `ρ`, queries `κ` and results `σ`. -/
structure Walk (α ρ κ σ : Type) where
  hasWork : Target α → Bool := fun _ => true
  slot : Target α → Except (Failure α) Nat := fun t => .ok t.particle.slot
  query : Target α → ρ → κ
  reach : κ → Reach α
  start : σ
  visit : κ → σ → Neighbour α → σ
  reduce : Merge → ρ → σ → ρ := fun _ record _ => record
  finish : Target α → ρ → Except (Failure α) (ρ × Bool) := fun _ record => .ok (record, false)

structure Visit (α σ : Type) where
  target : Target α
  slot : Nat
  result : σ

structure Round (α ρ σ : Type) where
  visits : List (Visit α σ)
  records : List ρ
  pending : List Nat
  settled : List Nat

def Target.at? {α : Type} (particles : Array (Particle α)) (i : Nat) :
    Except (Failure α) (Target α) :=
  match particles[i]? with
  | some p => .ok ⟨i, p⟩
  | none => .error (.noParticle i)

def latest {α σ : Type} (visits : List (Visit α σ)) (slot : Nat) : Option (Visit α σ) :=
  visits.foldl (fun found v => if v.slot = slot then some v else found) none

namespace Walk

variable {α ρ κ σ : Type} [Scalar α]

def gather (w : Walk α ρ κ σ) (tree : Octree α) (particles : Array (Particle α)) (q : κ) : σ :=
  (tree.near particles (w.reach q)).foldl (w.visit q) w.start

def visitTarget (w : Walk α ρ κ σ) (tree : Octree α) (particles : Array (Particle α))
    (records : List ρ) (t : Target α) : Except (Failure α) (Visit α σ) := do
  let slot ← w.slot t
  match records[slot]? with
  | none => .error (.noRecord t.index slot)
  | some record => .ok ⟨t, slot, w.gather tree particles (w.query t record)⟩

def settle (w : Walk α ρ κ σ) (visits : List (Visit α σ)) (record : ρ) (slot : Nat) :
    Except (Failure α) (ρ × Option (Nat × Bool)) :=
  match latest visits slot with
  | none => .ok (record, none)
  | some v => do
    let (record, again) ← w.finish v.target (w.reduce .replace record v.result)
    return (record, some (v.target.index, again))

def run (w : Walk α ρ κ σ) (tree : Octree α) (particles : Array (Particle α))
    (targets : List Nat) (records : List ρ) : Except (Failure α) (Round α ρ σ) := do
  let targets ← targets.mapM (Target.at? particles)
  let visits ← (targets.filter w.hasWork).mapM (w.visitTarget tree particles records)
  let outcomes ← records.zipIdx.mapM fun (record, slot) => w.settle visits record slot
  let marks := outcomes.filterMap (·.2)
  return {
    visits
    records := outcomes.map (·.1)
    pending := (marks.filter (·.2)).map (·.1)
    settled := (marks.filter (!·.2)).map (·.1) }

end Walk

end GalacticWinds
