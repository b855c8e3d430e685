import GalacticWinds.Particle.Species
import GalacticWinds.Vec

namespace GalacticWinds

/-- A particle of any species. Positions are comoving. The slot counts gas or stars, and the mark
`converged` says of a star that its search radius is settled. -/
structure Particle (α : Type) where
  id : UInt64
  species : Species
  mass : α
  pos : Vec α
  vel : Vec α
  hsml : α
  slot : Nat
  converged : Bool

/-- What gas alone carries: the time left until a wind particle meets the surrounding gas again,
zero when it is coupled, and its hydrodynamic state. -/
structure SphState (α : Type) where
  delay : α
  density : α
  accel : Vec α
  entropyRate : α
  maxSignal : α

variable {α : Type} [Scalar α]

def Particle.new (id : UInt64) (species : Species) (mass : α) (pos vel : Vec α) (hsml : α) :
    Particle α :=
  ⟨id, species, mass, pos, vel, hsml, 0, false⟩

def Particle.kick (p : Particle α) (dv : Vec α) : Particle α :=
  { p with vel := p.vel + dv }

def displacement (p q : Vec α) : Vec α × α :=
  (p - q, (p - q).norm)

def SphState.ofDensity (density : α) : SphState α :=
  ⟨0, density, 0, 0, 0⟩

def SphState.delayAtLeast (h : SphState α) (t : α) : SphState α :=
  { h with delay := Scalar.max h.delay t }

end GalacticWinds
