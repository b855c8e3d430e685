import GalacticWinds.Cosmology
import GalacticWinds.Decimal.Shortest
import GalacticWinds.Decimal.Style
import GalacticWinds.Failure
import GalacticWinds.Particle.Basic
import GalacticWinds.Particle.Species
import GalacticWinds.Particle.Store
import GalacticWinds.Proofs.Audited
import GalacticWinds.Proofs.Doubles
import GalacticWinds.Proofs.Exact
import GalacticWinds.Proofs.Extended
import GalacticWinds.Proofs.Ordered
import GalacticWinds.Proofs.Particle.Additions
import GalacticWinds.Proofs.Particle.Slots
import GalacticWinds.Proofs.Task.Concert
import GalacticWinds.Proofs.Tree.Canonical
import GalacticWinds.Proofs.Tree.Cubes
import GalacticWinds.Proofs.Tree.Distance
import GalacticWinds.Proofs.Tree.Inside
import GalacticWinds.Proofs.Tree.Layout
import GalacticWinds.Proofs.Tree.Nested
import GalacticWinds.Proofs.Tree.Scan
import GalacticWinds.Proofs.Tree.Search
import GalacticWinds.Proofs.Tree.Shape
import GalacticWinds.Proofs.Walk.InPlace
import GalacticWinds.Proofs.Walk.Round
import GalacticWinds.Proofs.Walk.Stars
import GalacticWinds.Proofs.Walk.Twins
import GalacticWinds.Proofs.Wind.Alike
import GalacticWinds.Proofs.Wind.Aloft
import GalacticWinds.Proofs.Wind.Bracket
import GalacticWinds.Proofs.Wind.Budget
import GalacticWinds.Proofs.Wind.Concert
import GalacticWinds.Proofs.Wind.Divisors
import GalacticWinds.Proofs.Wind.Enclosure
import GalacticWinds.Proofs.Wind.Faults
import GalacticWinds.Proofs.Wind.Kicks
import GalacticWinds.Proofs.Wind.Lasting
import GalacticWinds.Proofs.Wind.Model
import GalacticWinds.Proofs.Wind.Moments
import GalacticWinds.Proofs.Wind.Narrowing
import GalacticWinds.Proofs.Wind.Plan
import GalacticWinds.Proofs.Wind.Ranges
import GalacticWinds.Proofs.Wind.Recoupling
import GalacticWinds.Proofs.Wind.Replay
import GalacticWinds.Proofs.Wind.Selection
import GalacticWinds.Proofs.Wind.Spread
import GalacticWinds.Proofs.Wind.Step
import GalacticWinds.Proofs.Wind.Strikes
import GalacticWinds.Proofs.Wind.Survey.Alone
import GalacticWinds.Proofs.Wind.Survey.Band
import GalacticWinds.Proofs.Wind.Survey.Counts
import GalacticWinds.Proofs.Wind.Survey.Course
import GalacticWinds.Proofs.Wind.Survey.Distances
import GalacticWinds.Proofs.Wind.Survey.Finite
import GalacticWinds.Proofs.Wind.Survey.Independence
import GalacticWinds.Proofs.Wind.Survey.Marks
import GalacticWinds.Proofs.Wind.Survey.Measured
import GalacticWinds.Proofs.Wind.Survey.Nested
import GalacticWinds.Proofs.Wind.Survey.Parts
import GalacticWinds.Proofs.Wind.Survey.Preparation
import GalacticWinds.Proofs.Wind.Survey.Rounds
import GalacticWinds.Proofs.Wind.Survey.Settled
import GalacticWinds.Proofs.Wind.Survey.Shared
import GalacticWinds.Proofs.Wind.Survey.Sums
import GalacticWinds.Proofs.Wind.Survey.Termination
import GalacticWinds.Proofs.Wind.Survey.Twins
import GalacticWinds.Proofs.Wind.Timers
import GalacticWinds.Proofs.Wind.Visits
import GalacticWinds.Random.ChaCha
import GalacticWinds.Random.Direction
import GalacticWinds.Random.Keyed
import GalacticWinds.Scalar
import GalacticWinds.Tally
import GalacticWinds.Task.Collective
import GalacticWinds.Text.Blank
import GalacticWinds.Tree.Cube
import GalacticWinds.Tree.Near
import GalacticWinds.Tree.Octant
import GalacticWinds.Tree.Octree
import GalacticWinds.Vec
import GalacticWinds.Walk.Basic
import GalacticWinds.Walk.Counting
import GalacticWinds.Walk.Merge
import GalacticWinds.Wind.Bracket
import GalacticWinds.Wind.Kick
import GalacticWinds.Wind.Launch
import GalacticWinds.Wind.Model
import GalacticWinds.Wind.Moments
import GalacticWinds.Wind.Parameters
import GalacticWinds.Wind.Recoupling
import GalacticWinds.Wind.Selection
import GalacticWinds.Wind.Spawn
import GalacticWinds.Wind.StarRecord
import GalacticWinds.Wind.Step
import GalacticWinds.Wind.Survey.Rounds
import GalacticWinds.Wind.Survey.Walk
