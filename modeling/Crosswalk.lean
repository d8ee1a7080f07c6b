import Crosswalk.Function.Registry
import Crosswalk.Proofs.History
import Crosswalk.Proofs.KeyedIndexing
import Crosswalk.Proofs.Value.Widening
import Crosswalk.Proofs.Value.Equality
import Crosswalk.Proofs.Host.FailurePath
import Crosswalk.Proofs.Host.Filling
import Crosswalk.Proofs.Reading.ByInference
import Crosswalk.Proofs.Wrapped.Handler
import Crosswalk.Proofs.Wrapped.Exposed
import Crosswalk.Proofs.Wrapped.Transitivity
import Crosswalk.Proofs.Wrapped.Arithmetic
import Crosswalk.Proofs.Value.Escape
import Crosswalk.Proofs.Value.Acceptance
import Crosswalk.Proofs.Value.Resolution
import Crosswalk.Proofs.Wrapped.Builtin
import Crosswalk.Proofs.Value.Symmetry
import Crosswalk.Proofs.Value.ConstructionOrder
import Crosswalk.Proofs.Value.LastingLength
import Crosswalk.Proofs.Value.NullElements
import Crosswalk.Proofs.Binary64.Whole
import Crosswalk.Proofs.Host.Reach
import Crosswalk.Proofs.Host.PositionalTable
import Crosswalk.Proofs.Host.KeyedConversion
import Crosswalk.Proofs.Decimal.Grammar
import Crosswalk.Proofs.Value.Negation
import Crosswalk.Proofs.Value.Unification
import Crosswalk.Proofs.Host.NativeArithmetic
import Crosswalk.Proofs.Host.WholeText
import Crosswalk.Proofs.Host.TableHistory
import Crosswalk.Proofs.Host.IndexChain
import Crosswalk.Proofs.Host.NumeralText
import Crosswalk.Proofs.Settings.Loading
import Crosswalk.Proofs.Path
