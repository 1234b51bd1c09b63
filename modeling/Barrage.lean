import Barrage.Arena
import Barrage.Bodies
import Barrage.Catalog.Basic
import Barrage.Catalog.Load
import Barrage.CollisionList
import Barrage.Config
import Barrage.Decimal.Numeral
import Barrage.Decimal.Shortest
import Barrage.Definition.Basic
import Barrage.Definition.Error
import Barrage.Definition.Fault
import Barrage.Definition.Grammar
import Barrage.Definition.Line
import Barrage.Definition.Parse
import Barrage.Definition.Reader
import Barrage.Definition.Schema
import Barrage.Engine
import Barrage.Ramp
import Barrage.Random.Basic
import Barrage.Random.ChaCha
import Barrage.Registry
import Barrage.Roster
import Barrage.Scalar.Basic
import Barrage.Scalar.Exact
import Barrage.Scalar.Single
import Barrage.Shot
import Barrage.ShotDefinition
import Barrage.Spawn
import Barrage.Step.Basic
import Barrage.Step.Beam
import Barrage.Step.Burst
import Barrage.Step.Periodic
import Barrage.Step.Run
import Barrage.Step.Splitting
import Barrage.Step.Steered
import Barrage.Step.Straight
import Barrage.Step.Turn
import Barrage.StepLibrary
import Barrage.Text.CaseRanges
import Barrage.Text.HiddenRanges
import Barrage.Text.Lowercase
import Barrage.Text.Place
import Barrage.Text.Quoted
import Barrage.Text.Space
import Barrage.Vec
import Barrage.World
import Barrage.Proofs.Creation
import Barrage.Proofs.Numbering
import Barrage.Proofs.Storage
import Barrage.Proofs.Pass
import Barrage.Proofs.Births
import Barrage.Proofs.Footprint
import Barrage.Proofs.Runs
import Barrage.Proofs.Planting
import Barrage.Proofs.Correspondence
import Barrage.Proofs.TwoPhase
import Barrage.Proofs.Catalog.Cycles
import Barrage.Proofs.Catalog.Marks
import Barrage.Proofs.Catalog.Loading
import Barrage.Proofs.Mentions
import Barrage.Proofs.Catalog.Acceptance
import Barrage.Proofs.Catalog.Permutation
import Barrage.Proofs.Catalog.Unfolding
import Barrage.Proofs.References
import Barrage.Proofs.Identity
import Barrage.Proofs.Beats
import Barrage.Proofs.Likeness
import Barrage.Proofs.Independence
import Barrage.Proofs.Scalar.Zero
import Barrage.Proofs.Ageing
import Barrage.Proofs.Definition.Spelling
import Barrage.Proofs.Definition.Numerals
import Barrage.Proofs.Definition.Reading
import Barrage.Proofs.Definition.Outline
import Barrage.Proofs.Definition.Rules
import Barrage.Proofs.Definition.Scannerless
import Barrage.Proofs.Persistence
import Barrage.Proofs.Descent
import Barrage.Proofs.Presence
import Barrage.Definition.Attempt
import Barrage.Proofs.Definition.Stops
import Barrage.Proofs.Definition.Attempts
import Barrage.Proofs.Definition.Failures
import Barrage.Proofs.Definition.Place
import Barrage.Proofs.Handles
import Barrage.Proofs.Bullets
import Barrage.Proofs.Definition.Classification
import Barrage.Proofs.Definition.Topics
import Barrage.Proofs.Definition.Entries
import Barrage.Proofs.Generations
import Barrage.Proofs.Scripts
import Barrage.Proofs.Lasers
import Barrage.Proofs.Emitters
import Barrage.Proofs.Fans
import Barrage.Proofs.Memory
import Barrage.Proofs.Swings
import Barrage.Proofs.Lifetimes
import Barrage.Proofs.Pursuit
import Barrage.Proofs.Text.Lowercase
import Barrage.Proofs.Catalog.CaseFolding
import Barrage.Proofs.Steering
import Barrage.Proofs.Rainfall
import Barrage.Proofs.Orbits
import Barrage.Checked.Word
import Barrage.Checked.Step
import Barrage.Checked.Engine
import Barrage.Proofs.Heredity
import Barrage.Proofs.Scalar.Counts
import Barrage.Proofs.Checked.Turns
import Barrage.Proofs.Checked.Ticks
import Barrage.Proofs.Curves
