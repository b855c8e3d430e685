import GalacticWinds.Cosmology
import GalacticWinds.Particle.Store
import GalacticWinds.Wind.Model

/-!
The way of a wind particle back into the gas: its timer runs down, and while it runs the particle
may be left out of the hydrodynamics.
-/

namespace GalacticWinds

namespace Model

variable {α : Type} [Scalar α]

def tick (model : Model α) (cosmology : Cosmology α) (step : α) (h : SphState α) :
    SphState α :=
  let h :=
    if 0 < h.delay ∧ h.density * cosmology.densityFactor < model.recouplingDensity then
      { h with delay := 0 }
    else h
  if 0 < h.delay then
    { h with delay := Scalar.max (h.delay - cosmology.properTime step) 0 }
  else h

def tickAll (model : Model α) (cosmology : Cosmology α) (step : Nat → α)
    (states : Array (SphState α)) : Array (SphState α) × Nat :=
  let states := states.mapIdx fun slot h => model.tick cosmology (step slot) h
  (states, states.countP fun h => decide (0 < h.delay))

def leavesHydro (model : Model α) (p : Particle α) (h : SphState α) : Bool :=
  model.decouples && decide (p.species = .gas) && decide (0 < h.delay)

end Model

/-- The state of a particle that feels no hydrodynamic force. The signal speed is that of the
wind over the size that the particle has at the density of recoupling; at the adiabatic index 5/3
the power of the scale factor in it is one. -/
def Model.freeState {α : Type} [Transcendental α] (model : Model α) (a : α)
    (h : SphState α) : SphState α :=
  let windSpeed := model.speed * a * (a / a)
  let size := Transcendental.cbrt (model.recouplingDensity / h.density) * a
  { h with
    accel := 0
    entropyRate := 0
    maxSignal := size * Scalar.max (2.0 * windSpeed) h.maxSignal }

end GalacticWinds
