import GalacticWinds.Task.Collective
import GalacticWinds.Wind.Survey.Walk

/-!
The rounds of the first walk, until no star of any task is left. All tasks leave after the same
round, since each round ends in a sum over the tasks.
-/

namespace GalacticWinds

structure Task (α C : Type) where
  store : Store α
  comm : C

structure Survey (α : Type) where
  rounds : Nat
  records : List (StarRecord α)

/-- More rounds than a search in doubles can take: growth leaves their range and halving comes to
an end of its digits long before. -/
def usualRoundLimit : Nat := 65536

variable {α : Type} [Scalar α]

/-- A radius that does not start out positive and finite never grows to enclose anything. -/
def Target.searchStart (t : Target α) : Except (Failure α) (Nat × StarRecord α) := do
  let slot ← t.starSlot
  let hsml := t.particle.hsml
  if 0 < hsml ∧ Scalar.isFinite hsml then return (slot, .ofHsml hsml)
  else .error (.invalidParameter (.smoothingLength t.particle.id hsml))

/-- Fresh records for a batch, whose stars count as unsettled from here on. An entry at fault ends
the preparation, and the stars before it stay unsettled. -/
def prepare : List Nat → Store α → List (StarRecord α) →
    Store α × Except (Failure α) (List (StarRecord α))
  | [], s, records => (s, .ok records)
  | i :: batch, s, records =>
    match Target.at? s.particles i >>= Target.searchStart with
    | .error e => (s, .error e)
    | .ok (slot, record) => prepare batch (s.mark false i) (records.set slot record)

def Octree.diagonal (t : Octree α) : α :=
  2.0 * Scalar.sqrt 3.0 * t.cube.half

def prepareBatch (batch : List Nat) (s : Store α) :
    Store α × Except (Failure α) (List (StarRecord α)) :=
  prepare batch s (List.replicate s.starCount .blank)

variable {C : Type} [Collective C]

def surveyRounds (cosmology : Cosmology α) (tree : Octree α) (batch : List Nat) :
    Nat → Int → Survey α → Task α C → Task α C × Except (Failure α) (Survey α)
  | limit, left, d, task =>
    if left ≤ 0 then (task, .ok d)
    else
      match limit with
      | 0 => (task, .error (.roundLimit d.rounds))
      | limit + 1 =>
        match surveyRound cosmology tree.diagonal tree task.store batch d.records with
        | .error e => (task, .error e)
        | .ok (store, round) =>
          let (left, comm) := Collective.sum task.comm round.pending.length
          surveyRounds cosmology tree batch limit left ⟨d.rounds + 1, round.records⟩
            ⟨store, comm⟩

def survey (cosmology : Cosmology α) (tree : Octree α) (limit : Nat) (batch : List Nat)
    (task : Task α C) : Task α C × Except (Failure α) (Survey α) :=
  match prepareBatch batch task.store with
  | (store, .error e) => ({ task with store }, .error e)
  | (store, .ok records) =>
    let (left, comm) := Collective.sum task.comm batch.length
    surveyRounds cosmology tree batch limit left ⟨0, records⟩ ⟨store, comm⟩

end GalacticWinds
