import GalacticWinds.Scalar

/-!
The expanding background: the scale factor and the Hubble rate of one step.
-/

namespace GalacticWinds

structure Cosmology (α : Type) where
  a : α
  hubble : α

namespace Cosmology

variable {α : Type} [Scalar α]

def still : Cosmology α :=
  ⟨1, 0⟩

def densityFactor (c : Cosmology α) : α :=
  1 / (c.a * c.a * c.a)

/-- The time that a step in `log a` takes; without expansion the step is a time already. -/
def properTime (c : Cosmology α) (step : α) : α :=
  if 0 < c.hubble then step / c.hubble else step

def hubbleFlow (c : Cosmology α) (dx : α) : α :=
  c.hubble * c.a * c.a * dx

end Cosmology

end GalacticWinds
