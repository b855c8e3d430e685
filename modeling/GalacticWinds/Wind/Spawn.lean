import GalacticWinds.Particle.Store
import GalacticWinds.Random.Direction
import GalacticWinds.Wind.Launch

/-!
The subgrid wind: the gas particle that a star forms from is launched itself, with no search for
neighbours.
-/

namespace GalacticWinds

variable {α : Type} [Transcendental α]

namespace Model

def spawnProbability (model : Model α) (starMass parentMass : α) : α :=
  1 - Transcendental.exp (-(model.efficiency * starMass / parentMass))

/-- The parent in the wind, or nothing if it stays. The timer starts anew. -/
def spawn? (model : Model α) (cosmology : Cosmology α) (random : RandomSource α)
    (starMass : α) (parent : Particle α) (h : SphState α) : Option (Particle α × SphState α) :=
  if !model.subgrid then none
  else if model.spawnProbability starMass parent.mass ≤ random (spawnKey parent.id) then none
  else
    let speed := model.speed * cosmology.a
    some (parent.kick (speed * randomDirection random parent.id),
      { h with delay := model.travelTime cosmology speed })

end Model

def Store.spawn {β : Type} (s : Store α) (i : Nat)
    (launch? : Particle α → SphState α → Option (Particle α × SphState α)) :
    Except (Failure β) (Store α × Bool) :=
  match s.gas? i with
  | none => .error (.noGasState i)
  | some (p, h) =>
    match launch? p h with
    | some g => .ok (s.putGas i g, true)
    | none => .ok (s, false)

end GalacticWinds
