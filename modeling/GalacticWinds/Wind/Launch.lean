import GalacticWinds.Cosmology
import GalacticWinds.Wind.Model

/-!
How much gas a star launches, how fast, and for how long the gas then flows freely.
-/

namespace GalacticWinds

/-- The mass launched for each unit of stellar mass, and the speed of the launch. -/
structure Launch (α : Type) where
  efficiency : α
  speed : α

namespace Model

variable {α : Type} [Scalar α]

def launch? (model : Model α) (cosmology : Cosmology α) (dispersion : α) :
    Option (Launch α) :=
  match model.kinetic with
  | .fixedEfficiency => some ⟨model.efficiency, model.speed * cosmology.a⟩
  | .haloDispersion =>
    if dispersion ≤ 0 then none
    else
      some ⟨Scalar.sq (model.sigma0 / (dispersion / cosmology.a)),
        model.speedFactor * dispersion⟩

def travelTime (model : Model α) (cosmology : Cosmology α) (speed : α) : α :=
  model.travelLength / (speed / cosmology.a)

end Model

def Launch.chance {α : Type} [Scalar α] (l : Launch α) (starMass gasMass : α) : α :=
  if gasMass ≤ 0 then 0 else l.efficiency * starMass / gasMass

end GalacticWinds
