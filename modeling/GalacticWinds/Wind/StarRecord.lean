import GalacticWinds.Wind.Bracket
import GalacticWinds.Wind.Moments

/-!
What is known about the surroundings of one star.
-/

namespace GalacticWinds

structure Surroundings (α : Type) where
  gasMass : α
  darkMatter : Moments α

structure StarRecord (α : Type) where
  bracket : Bracket α
  around : Surroundings α
  dispersion : α

variable {α : Type} [Scalar α]

namespace Surroundings

def zero : Surroundings α :=
  ⟨0, .zero⟩

def merge (mode : Merge) (s t : Surroundings α) : Surroundings α :=
  ⟨mode.apply s.gasMass t.gasMass, s.darkMatter.merge mode t.darkMatter⟩

end Surroundings

namespace StarRecord

def blank : StarRecord α :=
  ⟨.unused, .zero, 0⟩

def ofHsml (hsml : α) : StarRecord α :=
  { (blank : StarRecord α) with bracket := .ofHsml hsml }

def merge (mode : Merge) (r : StarRecord α) (s : Surroundings α) : StarRecord α :=
  { r with around := r.around.merge mode s }

def narrow (r : StarRecord α) (maxRadius : α) : StarRecord α × Bool :=
  let (bracket, done) := r.bracket.step r.around.darkMatter.count maxRadius
  ({ r with bracket }, done)

def withCount (r : StarRecord α) (count : Int) : StarRecord α :=
  { r with around.darkMatter.count := count }

def search (count : α → Int) (maxRadius : α) : Nat → StarRecord α → List α × StarRecord α
  | 0, r => ([], r)
  | limit + 1, r =>
    match (r.withCount (count r.bracket.radius)).narrow maxRadius with
    | (next, true) => ([r.bracket.radius], next)
    | (next, false) =>
      let (radii, last) := search count maxRadius limit next
      (r.bracket.radius :: radii, last)

end StarRecord

end GalacticWinds
