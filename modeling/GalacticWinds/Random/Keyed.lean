import GalacticWinds.Random.ChaCha
import GalacticWinds.Scalar

/-!
Reproducible uniform numbers: a draw is a function of its key, so it does not depend on how many
draws came before. A source of random numbers is such a function.
-/

namespace GalacticWinds

abbrev RandomSource (α : Type) := UInt64 → α

namespace Keyed

def advance (state : UInt64) : UInt64 :=
  state * 6364136223846793005 + 11634580027462260723

def output (state : UInt64) : UInt32 :=
  let x := (((state >>> 18) ^^^ state) >>> 27).toUInt32
  let n := (state >>> 59).toUInt32
  (x >>> n) ||| (x <<< ((32 - n) % 32))

def stateAfter (seed : UInt64) (n : Nat) : UInt64 :=
  Nat.repeat advance n seed

def key (seed : UInt64) : Vector UInt32 8 :=
  Vector.ofFn fun i => output (stateAfter seed (i + 1))

def drawRange : Nat := 0x20000000000000

/-- Fifty-three random bits: the leading bits of the first two words of the key's block. -/
def draw (seed k : UInt64) : Nat :=
  let b := ChaCha.block 6 (key (seed ^^^ k))
  (b[0].toNat + b[1].toNat * 0x100000000) / 0x800

end Keyed

namespace RandomSource

variable {α : Type}

def keyed [Scalar α] (seed : UInt64) : RandomSource α :=
  fun k => ((Keyed.draw seed k : Int) : α) / ((Keyed.drawRange : Int) : α)

def const (x : α) : RandomSource α :=
  fun _ => x

def cyclic (table : Array α) (h : 0 < table.size) : RandomSource α :=
  fun k =>
    have := Nat.mod_lt k.toNat h
    table[k.toNat % table.size]

end RandomSource

end GalacticWinds
