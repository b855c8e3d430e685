import GalacticWinds.Random.Keyed
import GalacticWinds.Vec

namespace GalacticWinds

/-! Separate draws for one particle use keys at separate distances from its number. -/

def spawnKey (id : UInt64) : UInt64 := id + 2
def polarKey (id : UInt64) : UInt64 := id + 3
def azimuthKey (id : UInt64) : UInt64 := id + 4

/-- The unit vector of a particle. The cosine of the polar angle and the azimuth are uniform, so
the directions are uniform on the sphere. -/
def randomDirection {α : Type} [Transcendental α] (random : RandomSource α) (id : UInt64) :
    Vec α :=
  let polar := Transcendental.acos (2.0 * random (polarKey id) - 1)
  let azimuth := 2.0 * Transcendental.pi * random (azimuthKey id)
  ⟨Transcendental.sin polar * Transcendental.cos azimuth,
    Transcendental.sin polar * Transcendental.sin azimuth,
    Transcendental.cos polar⟩

end GalacticWinds
