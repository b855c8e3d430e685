import GalacticWinds.Failure
import GalacticWinds.Text.Blank

/-!
The text that selects a wind model: words between separators, one of which names the kinetic
model and others of which turn on options.
-/

namespace GalacticWinds

inductive KineticModel where
  | fixedEfficiency
  | haloDispersion
  deriving DecidableEq, Repr

structure Selection where
  kinetic : KineticModel
  subgrid : Bool
  decouples : Bool
  deriving DecidableEq, Repr

namespace Selection

inductive Keyword where
  | kinetic (k : KineticModel)
  | subgrid
  | decouples
  deriving DecidableEq, Repr

def vocabulary : List (String × Keyword) :=
  [("fixed-efficiency", .kinetic .fixedEfficiency),
    ("fixedefficiency", .kinetic .fixedEfficiency),
    ("vs08", .kinetic .fixedEfficiency),
    ("sh03", .kinetic .fixedEfficiency),
    ("halo", .kinetic .haloDispersion),
    ("use-halo", .kinetic .haloDispersion),
    ("halo-dispersion", .kinetic .haloDispersion),
    ("ofjt10", .kinetic .haloDispersion),
    ("subgrid", .subgrid),
    ("decouple-hydro", .decouples),
    ("decouple", .decouples)]

def isSeparator (c : Char) : Bool :=
  c = '|' || c = ',' || isBlank c

def cut : List Char → List (List Char)
  | [] => [[]]
  | c :: cs =>
    if isSeparator c then [] :: cut cs
    else
      match cut cs with
      | [] => [[c]]
      | w :: ws => (c :: w) :: ws

def words (text : String) : List (List Char) :=
  (cut text.toList).filter (· ≠ [])

/-- Case does not matter, among the letters of ASCII. -/
def keyword? (word : List Char) : Option Keyword :=
  vocabulary.lookup (String.ofList (word.map Char.toLower))

structure Draft where
  kinetic : Option KineticModel
  subgrid : Bool
  decouples : Bool
  deriving DecidableEq, Repr

namespace Draft

def start : Draft :=
  ⟨none, false, false⟩

def add? (d : Draft) : Keyword → Option Draft
  | .kinetic k => if d.kinetic.all (· = k) then some { d with kinetic := some k } else none
  | .subgrid => some { d with subgrid := true }
  | .decouples => some { d with decouples := true }

def read? (d : Draft) : List (List Char) → Option Draft
  | [] => some d
  | w :: ws =>
    match keyword? w with
    | none => none
    | some k =>
      match d.add? k with
      | none => none
      | some d => d.read? ws

def selection? (d : Draft) : Option Selection :=
  d.kinetic.map fun kinetic => ⟨kinetic, d.subgrid, d.decouples⟩

end Draft

def ofString? (text : String) : Option Selection :=
  (Draft.start.read? (words text)).bind Draft.selection?

def parse {α : Type} (text : String) : Except (Failure α) Selection :=
  match ofString? text with
  | some s => .ok s
  | none => .error (.unsupportedModel text)

def kineticName : KineticModel → String
  | .fixedEfficiency => "fixed-efficiency"
  | .haloDispersion => "halo"

instance instToString : ToString Selection where
  toString s :=
    kineticName s.kinetic ++ (if s.subgrid then "|subgrid" else "") ++
      (if s.decouples then "|decouple-hydro" else "")

end Selection

end GalacticWinds
