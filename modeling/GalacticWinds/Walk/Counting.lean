import GalacticWinds.Walk.Basic

/-!
Walks that count neighbours. `counting` doubles the radius of a target until enough are found;
`census` counts once at a fixed radius and leaves the records alone.
-/

namespace GalacticWinds

structure Count (α : Type) where
  radius : α
  found : Int
  rounds : Nat

namespace Walk

variable {α : Type} [Scalar α]

def counting (wanted : Int) (mask : SpeciesMask) (skipped : List Nat) (refused : Option Nat)
    (merge : Merge) : Walk α (Count α) (Reach α) Int where
  hasWork t := !skipped.contains t.index
  query t c := ⟨t.particle.pos, c.radius, mask⟩
  reach q := q
  start := 0
  visit _ n _ := n + 1
  reduce _ c n := { c with found := merge.apply c.found n }
  finish t c :=
    if refused = some t.index then .error (.invalidParameter (.refusedTarget t.index))
    else
      let c := { c with rounds := c.rounds + 1 }
      if c.found < wanted then .ok ({ c with radius := c.radius * 2.0 }, true) else .ok (c, false)

def census {ρ : Type} (radius : α) (mask : SpeciesMask) : Walk α ρ (Reach α) Int where
  query t _ := ⟨t.particle.pos, radius, mask⟩
  reach q := q
  start := 0
  visit _ n _ := n + 1

end Walk

end GalacticWinds
