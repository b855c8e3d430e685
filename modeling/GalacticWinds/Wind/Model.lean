import GalacticWinds.Wind.Parameters

/-!
A wind model ready to run: the parameters together with what follows from them and from the
supernovae of the star formation model.
-/

namespace GalacticWinds

structure Model (α : Type) where
  kinetic : KineticModel
  subgrid : Bool
  decouples : Bool
  efficiency : α
  energyFraction : α
  speed : α
  sigma0 : α
  speedFactor : α
  travelLength : α
  recouplingFraction : α
  /-- The physical density below which a wind particle meets the surrounding gas again. -/
  recouplingDensity : α

/-- What star formation tells the wind: the fraction of the stars that explode, the energy of an
explosion for each unit of mass, and the density at which stars form. -/
structure Supernovae (α : Type) where
  fraction : α
  specificEnergy : α
  densityThreshold : α

namespace Model

variable {α : Type} [Scalar α]

/-- The speed at which the supernova energy given to the wind carries the mass of the stars. -/
def referenceSpeed (w : Parameters α) (sn : Supernovae α) : α :=
  Scalar.sqrt (2.0 * w.energyFraction * sn.fraction * sn.specificEnergy / (1 - sn.fraction))

def launchSpeed (w : Parameters α) (sn : Supernovae α) : α :=
  match w.selection.kinetic with
  | .fixedEfficiency => referenceSpeed w sn / Scalar.sqrt w.efficiency
  | .haloDispersion => referenceSpeed w sn

def usesSpeed (s : Selection) : Bool :=
  s.subgrid || s.kinetic = .fixedEfficiency

def fault? (w : Parameters α) (sn : Supernovae α) : Option (ParameterFault α) :=
  let speed := launchSpeed w sn
  if ¬(0 ≤ sn.fraction ∧ sn.fraction < 1) then some (.supernovaFraction sn.fraction)
  else if ¬Scalar.isFinite speed then some (.speedNotFinite speed)
  else if usesSpeed w.selection ∧ speed ≤ 0 then
    some (.speedNotPositive speed w.energyFraction sn.fraction)
  else if ¬usesSpeed w.selection ∧ w.speedFactor ≤ 0 then some .zeroSpeedFactor
  else none

def derive (w : Parameters α) (sn : Supernovae α) : Except (Failure α) (Model α) := do
  w.validate
  match fault? w sn with
  | some f => .error (.invalidParameter f)
  | none =>
    return {
      kinetic := w.selection.kinetic
      subgrid := w.selection.subgrid
      decouples := w.selection.decouples
      efficiency := w.efficiency
      energyFraction := w.energyFraction
      speed := launchSpeed w sn
      sigma0 := w.sigma0
      speedFactor := w.speedFactor
      travelLength := w.travelLength
      recouplingFraction := w.recouplingFraction
      recouplingDensity := w.recouplingFraction * sn.densityThreshold }

end Model

end GalacticWinds
