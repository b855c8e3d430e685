import GalacticWinds.Failure
import GalacticWinds.Particle.Basic

/-!
All particles of one task. Gas owns an entry of `gasStates` and stars own a number below
`starCount`; a particle's slot is its place in the numbering of its own species.
-/

namespace GalacticWinds

structure Store (α : Type) where
  particles : Array (Particle α)
  gasStates : Array (SphState α)
  starCount : Nat

namespace Store

variable {α : Type}

def empty : Store α :=
  ⟨#[], #[], 0⟩

def size (s : Store α) : Nat :=
  s.particles.size

def species? (s : Store α) (i : Nat) : Option Species :=
  s.particles[i]?.map (·.species)

def placesOf (s : Store α) (k : Species) : List Nat :=
  (List.range s.size).filter (s.species? · = some k)

def gas? (s : Store α) (i : Nat) : Option (Particle α × SphState α) := do
  let p ← s.particles[i]?
  if p.species = .gas then
    let h ← s.gasStates[p.slot]?
    some (p, h)
  else none

def putGas (s : Store α) (i : Nat) (g : Particle α × SphState α) : Store α :=
  { s with
    particles := s.particles.setIfInBounds i g.1
    gasStates := s.gasStates.setIfInBounds g.1.slot g.2 }

def gasAt (s : Store α) (i : Nat) : Except (Failure α) (Particle α × SphState α) :=
  match s.gas? i with
  | some g => .ok g
  | none => .error (.noGasState i)

def gasStateAt (s : Store α) (i : Nat) : Except (Failure α) (SphState α) :=
  (s.gasAt i).map (·.2)

/-- A gas particle and its state changed together. The state stays where it is, also if the
particle is given another slot. -/
def alterGas (s : Store α) (i : Nat) (f : Particle α × SphState α → Particle α × SphState α) :
    Except (Failure α) (Store α) :=
  (s.gasAt i).map fun g =>
    { s with
      particles := s.particles.setIfInBounds i (f g).1
      gasStates := s.gasStates.setIfInBounds g.1.slot (f g).2 }

theorem gasAt_of_some {s : Store α} {i : Nat} {g : Particle α × SphState α}
    (h : s.gas? i = some g) : s.gasAt i = .ok g := by
  rw [gasAt, h]

theorem gasAt_of_none {s : Store α} {i : Nat} (h : s.gas? i = none) :
    s.gasAt i = .error (.noGasState i) := by
  rw [gasAt, h]

theorem gasStateAt_of_some {s : Store α} {i : Nat} {g : Particle α × SphState α}
    (h : s.gas? i = some g) : s.gasStateAt i = .ok g.2 := by
  rw [gasStateAt, gasAt_of_some h]
  rfl

theorem gasStateAt_of_none {s : Store α} {i : Nat} (h : s.gas? i = none) :
    s.gasStateAt i = .error (.noGasState i) := by
  rw [gasStateAt, gasAt_of_none h]
  rfl

theorem alterGas_of_none {s : Store α} {i : Nat} (h : s.gas? i = none)
    (f : Particle α × SphState α → Particle α × SphState α) :
    s.alterGas i f = .error (.noGasState i) := by
  rw [alterGas, gasAt_of_none h]
  rfl

def modify (s : Store α) (i : Nat) (f : Particle α → Particle α) : Store α :=
  { s with particles := s.particles.modify i f }

def modifyGasState (s : Store α) (slot : Nat) (f : SphState α → SphState α) : Store α :=
  { s with gasStates := s.gasStates.modify slot f }

def mark (s : Store α) (converged : Bool) (i : Nat) : Store α :=
  s.modify i fun p => { p with converged }

variable [Scalar α]

def pushGas (s : Store α) (p : Particle α) (h : SphState α) : Store α :=
  { s with
    particles := s.particles.push { p with slot := s.gasStates.size }
    gasStates := s.gasStates.push h }

/-- The new particle comes last. Gas and stars get the next slot of their kind, other species
keep the slot they bring. -/
def push (s : Store α) (p : Particle α) : Store α :=
  match p.species with
  | .gas => s.pushGas p (.ofDensity 0)
  | .star =>
    { s with
      particles := s.particles.push { p with slot := s.starCount }
      starCount := s.starCount + 1 }
  | .darkMatter | .blackHole => { s with particles := s.particles.push p }

def addGas (s : Store α) (id : UInt64) (mass : α) (pos vel : Vec α) (hsml density : α) :
    Store α :=
  s.pushGas (.new id .gas mass pos vel hsml) (.ofDensity density)

def addDarkMatter (s : Store α) (id : UInt64) (mass : α) (pos vel : Vec α) : Store α :=
  s.push (.new id .darkMatter mass pos vel 0)

def addStar (s : Store α) (id : UInt64) (mass : α) (pos vel : Vec α) (hsml : α) : Store α :=
  s.push (.new id .star mass pos vel hsml)

omit [Scalar α] in
@[simp] theorem size_modify (s : Store α) (i : Nat) (f : Particle α → Particle α) :
    (s.modify i f).size = s.size := by
  simp [size, modify]

@[simp] theorem size_push (s : Store α) (p : Particle α) : (s.push p).size = s.size + 1 := by
  unfold push
  split <;> simp [size, pushGas]

end Store

end GalacticWinds
