import Lisplet.Host.Sample
import Lisplet.Main
import Lisplet.Repl
import Lisplet.Session
import Lisplet.Proofs.Invariant
import Lisplet.Proofs.Invariant.Native
import Lisplet.Proofs.Nesting
import Lisplet.Proofs.DepthLimit
import Lisplet.Proofs.Coincidence
import Lisplet.Proofs.Definitions
import Lisplet.Proofs.Source.Grammar
import Lisplet.Proofs.Source.Acceptance
import Lisplet.Proofs.Source.RoundTrip
import Lisplet.Proofs.Source.Diagnosis
import Lisplet.Proofs.Runs
import Lisplet.Proofs.Forms
import Lisplet.Proofs.Prelude
import Lisplet.Proofs.InTurn
import Lisplet.Proofs.InnermostForm
import Lisplet.Proofs.HostNesting
import Lisplet.Proofs.Transcript
import Lisplet.Proofs.Source.Remainder
import Lisplet.Proofs.Source.ReadLimit
import Lisplet.Proofs.Bindings
import Lisplet.Proofs.Loading
import Lisplet.Proofs.PrimitiveCalls
import Lisplet.Proofs.ShortCircuit
import Lisplet.Proofs.Equality
import Lisplet.Proofs.Comparisons
import Lisplet.Proofs.Folding
import Lisplet.Proofs.MapAndFilter
import Lisplet.Proofs.Redirection
import Lisplet.Proofs.Reduction
import Lisplet.Proofs.Decimal.Binary64
import Lisplet.Proofs.Decimal.Integers
import Lisplet.Proofs.Equivalence
import Lisplet.Proofs.ReadBack
import Lisplet.Proofs.Refusals
import Lisplet.Proofs.Expansion
import Lisplet.Proofs.GrowingVectors
import Lisplet.Proofs.Decimal.ExactValue
import Lisplet.Proofs.Indexing
import Lisplet.Proofs.DeadBranches
import Lisplet.Proofs.Source.Window
import Lisplet.Proofs.Histories
