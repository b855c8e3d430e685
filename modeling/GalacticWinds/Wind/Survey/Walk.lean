import GalacticWinds.Cosmology
import GalacticWinds.Particle.Store
import GalacticWinds.Walk.Basic
import GalacticWinds.Wind.StarRecord

/-!
The first walk around new stars: the gas mass within the smoothing length and the moments of the
dark matter within the radius that is being searched for.
-/

namespace GalacticWinds

structure StarQuery (α : Type) where
  star : Particle α
  record : StarRecord α

variable {α : Type}

def Target.starSlot (t : Target α) : Except (Failure α) Nat :=
  if t.particle.species = .star then .ok t.particle.slot
  else .error (.notAStar t.index t.particle.species t.particle.id)

variable [Scalar α]

def Neighbour.flowVelocity (n : Neighbour α) (cosmology : Cosmology α) : Vec α :=
  n.particle.vel + n.dist.map cosmology.hubbleFlow

namespace Surroundings

/-- The search reaches further than one of the two radii, so each species has its own cut. -/
def observe (cosmology : Cosmology α) (q : StarQuery α) (s : Surroundings α) (n : Neighbour α) :
    Surroundings α :=
  match n.particle.species with
  | .gas => if q.star.hsml < n.r then s else { s with gasMass := s.gasMass + n.particle.mass }
  | .darkMatter =>
    if q.record.bracket.radius < n.r then s
    else { s with darkMatter := s.darkMatter.add (n.flowVelocity cosmology) }
  | .star | .blackHole => s

end Surroundings

def surveyWalk (cosmology : Cosmology α) (maxRadius : α) :
    Walk α (StarRecord α) (StarQuery α) (Surroundings α) where
  hasWork t := !t.particle.converged
  slot := Target.starSlot
  query t record := ⟨t.particle, record⟩
  reach q := ⟨q.star.pos, Scalar.max q.star.hsml q.record.bracket.radius, .gasAndDarkMatter⟩
  start := .zero
  visit := Surroundings.observe cosmology
  reduce := StarRecord.merge
  finish t record := do
    let _ ← t.starSlot
    match record.narrow maxRadius with
    | (record, false) => return (record, true)
    | (record, true) =>
      return ({ record with dispersion := record.around.darkMatter.dispersion }, false)

def surveyRound (cosmology : Cosmology α) (maxRadius : α) (tree : Octree α) (store : Store α)
    (batch : List Nat) (records : List (StarRecord α)) :
    Except (Failure α) (Store α × Round α (StarRecord α) (Surroundings α)) := do
  let round ← (surveyWalk cosmology maxRadius).run tree store.particles batch records
  return (round.settled.foldl (fun s i => s.mark true i) store, round)

end GalacticWinds
