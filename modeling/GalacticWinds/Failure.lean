import GalacticWinds.Decimal.Style
import GalacticWinds.Particle.Species

namespace GalacticWinds

inductive Parameter where
  | efficiency
  | energyFraction
  | sigma0
  | speedFactor
  | travelLength
  | recouplingFraction
  deriving DecidableEq, Repr

def Parameter.all : List Parameter :=
  [efficiency, energyFraction, sigma0, speedFactor, travelLength, recouplingFraction]

theorem Parameter.mem_all (p : Parameter) : p ∈ all := by
  cases p <;> decide

def Parameter.label : Parameter → String
  | efficiency => "WindEfficiency"
  | energyFraction => "WindEnergyFraction"
  | sigma0 => "WindSigma0"
  | speedFactor => "WindSpeedFactor"
  | travelLength => "WindFreeTravelLength"
  | recouplingFraction => "WindFreeTravelDensFac"

inductive ParameterFault (α : Type) where
  | outOfRange (which : Parameter) (value : α)
  | zeroEfficiency
  | zeroSpeedFactor
  | supernovaFraction (value : α)
  | speedNotFinite (speed : α)
  | speedNotPositive (speed energyFraction supernovaFraction : α)
  | noParameters
  | notBroadcast
  | smoothingLength (id : UInt64) (hsml : α)
  | refusedTarget (index : Nat)

inductive Failure (α : Type) where
  | unsupportedModel (selection : String)
  | notAStar (index : Nat) (species : Species) (id : UInt64)
  | invalidParameter (fault : ParameterFault α)
  | noGasState (index : Nat)
  | noRecord (index slot : Nat)
  | noParticle (index : Nat)
  | roundLimit (rounds : Nat)

private def numberText (x : Float) : String :=
  Decimal.ofFloat .plain x

def ParameterFault.message : ParameterFault Float → String
  | outOfRange which value => which.label ++ " = " ++ numberText value
  | zeroEfficiency => "WindEfficiency must be positive for the fixed-efficiency model"
  | zeroSpeedFactor => "WindSpeedFactor must be positive for the halo model"
  | supernovaFraction value => "FactorSN = " ++ numberText value ++ " must lie in [0, 1)"
  | speedNotFinite speed => "derived wind speed " ++ numberText speed ++ " is not finite"
  | speedNotPositive speed energy fraction =>
    "derived wind speed " ++ numberText speed ++ " must be positive (WindEnergyFraction = " ++
      numberText energy ++ ", FactorSN = " ++ numberText fraction ++ ")"
  | noParameters => "task 0 has no wind parameters"
  | notBroadcast => "wind parameters were not broadcast"
  | smoothingLength id hsml => "star " ++ toString id ++ " has smoothing length " ++ numberText hsml
  | refusedTarget index => "target " ++ toString index

def Failure.message : Failure Float → String
  | unsupportedModel selection => "Unsupported wind model selection: " ++ selection
  | notAStar index species id =>
    "Wind called on something not a star particle: (i=" ++ toString index ++ ", t=" ++
      species.name ++ ", id = " ++ toString id ++ ")"
  | invalidParameter fault => "Invalid wind parameter: " ++ fault.message
  | noGasState index => "Gas particle " ++ toString index ++ " has no SPH data"
  | noRecord index slot =>
    "Particle " ++ toString index ++ " maps to unallocated record slot " ++ toString slot
  | noParticle index => "There is no particle " ++ toString index
  | roundLimit rounds => "Radii still unsettled after " ++ toString rounds ++ " rounds"

end GalacticWinds
