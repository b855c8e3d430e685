import GalacticWinds.Random.Direction
import GalacticWinds.Wind.Launch
import GalacticWinds.Wind.Survey.Walk

/-!
The second walk around new stars: gas within the smoothing length is kicked at random. Stars are
taken in the order of the batch, and the kicks of one are done before the next is looked at.
-/

namespace GalacticWinds

structure Setting (α : Type) where
  model : Model α
  cosmology : Cosmology α
  random : RandomSource α
  tree : Octree α

structure Kick (α : Type) where
  index : Nat
  velocity : Vec α
  delay : α

variable {α : Type} [Transcendental α]

def Store.kick (s : Store α) (k : Kick α) : Store α :=
  match s.gas? k.index with
  | some (p, h) => s.putGas k.index (p.kick k.velocity, h.delayAtLeast k.delay)
  | none => s

namespace Setting

def kick? (setting : Setting α) (s : Store α) (q : StarQuery α) (n : Neighbour α) :
    Option (Kick α) :=
  if q.star.hsml < n.r then none
  else
    match setting.model.launch? setting.cosmology q.record.dispersion with
    | none => none
    | some launch =>
      let draw := setting.random (q.star.id + n.particle.id)
      if launch.chance q.star.mass q.record.around.gasMass ≤ draw then none
      else if (s.gas? n.index).isNone then none
      else
        some {
          index := n.index
          velocity := launch.speed * randomDirection setting.random n.particle.id
          delay := setting.model.travelTime setting.cosmology launch.speed }

/-- A neighbour is kicked on the spot, so the next one meets a store that knows of it. With the
store goes the number of kicks so far. -/
def strike (setting : Setting α) (q : StarQuery α) (s : Store α × Nat) (n : Neighbour α) :
    Store α × Nat :=
  match setting.kick? s.1 q n with
  | some k => (s.1.kick k, s.2 + 1)
  | none => s

def kickWalk (setting : Setting α) (s : Store α) :
    Walk α (StarRecord α) (StarQuery α) (Store α × Nat) where
  slot := Target.starSlot
  query t record := ⟨t.particle, record⟩
  reach q := ⟨q.star.pos, q.star.hsml, .gas⟩
  start := (s, 0)
  visit := setting.strike

def kickFrom (setting : Setting α) (records : List (StarRecord α)) (s : Store α) (i : Nat) :
    Except (Failure α) (Store α × Nat) := do
  let t ← Target.at? s.particles i
  let v ← (setting.kickWalk s).visitTarget setting.tree s.particles records t
  return v.result

/-- The number of kicks given by a batch. An entry at fault ends the pass, and the kicks given
before it stay. -/
def kickAll (setting : Setting α) (records : List (StarRecord α)) :
    List Nat → Store α → Store α × Except (Failure α) Nat
  | [], s => (s, .ok 0)
  | i :: batch, s =>
    match setting.kickFrom records s i with
    | .error e => (s, .error e)
    | .ok (s, n) =>
      let (s, launched) := setting.kickAll records batch s
      (s, launched.map (n + ·))

end Setting

end GalacticWinds
