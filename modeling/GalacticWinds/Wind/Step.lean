import GalacticWinds.Wind.Survey.Rounds
import GalacticWinds.Wind.Kick

/-!
The winds of one step: the surroundings of all new stars, then the kicks.
-/

namespace GalacticWinds

structure Report where
  rounds : Nat
  stars : Nat
  launched : Nat
  deriving DecidableEq, Repr

def Report.idle : Report :=
  ⟨0, 0, 0⟩

/-- A subgrid wind leaves nothing to do here, and so does a step in which no task has a new star;
a task without new stars of its own takes part in every round. -/
def Setting.step {α C : Type} [Transcendental α] [Collective C] (setting : Setting α)
    (limit : Nat) (batch : List Nat) (task : Task α C) :
    Task α C × Except (Failure α) Report :=
  if setting.model.subgrid then (task, .ok .idle)
  else
    match Collective.any task.comm (!batch.isEmpty) with
    | (false, comm) => ({ task with comm }, .ok .idle)
    | (true, comm) =>
      match survey setting.cosmology setting.tree limit batch { task with comm } with
      | (task, .error e) => (task, .error e)
      | (task, .ok d) =>
        let (store, launched) := setting.kickAll d.records batch task.store
        ({ task with store }, launched.map fun n => ⟨d.rounds, batch.length, n⟩)

end GalacticWinds
