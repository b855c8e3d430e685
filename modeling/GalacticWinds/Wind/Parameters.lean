import GalacticWinds.Scalar
import GalacticWinds.Task.Collective
import GalacticWinds.Wind.Selection

/-!
The numbers that a wind model is set up with: their usual values, their bounds, and how the first
task hands them to the others.
-/

namespace GalacticWinds

structure Parameters (α : Type) where
  selection : Selection
  efficiency : α
  energyFraction : α
  sigma0 : α
  speedFactor : α
  travelLength : α
  recouplingFraction : α

namespace Parameters

variable {α : Type}

def get (w : Parameters α) : Parameter → α
  | .efficiency => w.efficiency
  | .energyFraction => w.energyFraction
  | .sigma0 => w.sigma0
  | .speedFactor => w.speedFactor
  | .travelLength => w.travelLength
  | .recouplingFraction => w.recouplingFraction

variable [Scalar α]

def usual : Parameters α :=
  ⟨⟨.fixedEfficiency, false, true⟩, 2.0, 1.0, 353.0, 2.95, 20.0, 0.1⟩

def withGiven (selection : Selection) (given : Parameter → Option α) : Parameters α :=
  let value (p : Parameter) : α := (given p).getD (usual.get p)
  { selection
    efficiency := value .efficiency
    energyFraction := value .energyFraction
    sigma0 := value .sigma0
    speedFactor := value .speedFactor
    travelLength := value .travelLength
    recouplingFraction := value .recouplingFraction }

def choose (text : Option String) (given : Parameter → Option α) :
    Except (Failure α) (Parameters α) :=
  match text with
  | some text => (Selection.parse text).map fun selection => withGiven selection given
  | none => .ok (withGiven (usual : Parameters α).selection given)

def inRange (x : α) : Bool :=
  Scalar.isFinite x && !decide (x < 0)

def fault? (w : Parameters α) : Option (ParameterFault α) :=
  match Parameter.all.find? fun p => !inRange (w.get p) with
  | some p => some (.outOfRange p (w.get p))
  | none =>
    if w.selection.kinetic = .fixedEfficiency ∧ w.efficiency ≤ 0 then some .zeroEfficiency else none

def validate (w : Parameters α) : Except (Failure α) Unit :=
  match w.fault? with
  | some f => .error (.invalidParameter f)
  | none => .ok ()

def new (text : Option String) (given : Parameter → Option α) :
    Except (Failure α) (Parameters α) := do
  let w ← choose text given
  w.validate
  return w

/-- The parameters of the first task, on every task. The first task checks them before it hands
them on, the others take what they are handed. -/
def share {C : Type} [Collective C] [Broadcaster C (Parameters α)] (c : C)
    (own : Option (Parameters α)) : Except (Failure α) (Parameters α) := do
  let sent ←
    if Collective.task c = 0 then
      match own with
      | none => .error (.invalidParameter .noParameters)
      | some w => do
        w.validate
        pure (some w)
    else pure none
  match (Broadcaster.broadcast c sent).1 with
  | some w => return w
  | none => .error (.invalidParameter .notBroadcast)

end Parameters

end GalacticWinds
