import Multimatch.Engine.Tabulated
import Multimatch.Engine.Walking
import Multimatch.PatternSet.Search
import Multimatch.Proofs.Consistency
import Multimatch.Proofs.Searching
import Multimatch.Proofs.Agreement
import Multimatch.Proofs.Answers
import Multimatch.Proofs.Exactness
import Multimatch.Proofs.Lifecycle
import Multimatch.Proofs.Alignment
import Multimatch.Proofs.Interleaving
import Multimatch.Proofs.Encoding
import Multimatch.Proofs.Matching
import Multimatch.Proofs.Settling
import Multimatch.Proofs.Walks
import Multimatch.Proofs.Collecting
import Multimatch.Proofs.Characters
import Multimatch.Proofs.FirstEnds
import Multimatch.Proofs.Preferences
import Multimatch.Proofs.Backends
import Multimatch.Proofs.Reading
import Multimatch.Proofs.Walking
import Multimatch.Proofs.Candidacy
import Multimatch.Proofs.Anchoring
import Multimatch.Proofs.Following
import Multimatch.Proofs.Removal
import Multimatch.Proofs.Existence
import Multimatch.Proofs.Acceptance
import Multimatch.Proofs.Spans
import Multimatch.Proofs.Composition
import Multimatch.Proofs.Moving
import Multimatch.Proofs.Ordering
import Multimatch.Proofs.Logging
import Multimatch.Proofs.Capabilities
import Multimatch.Proofs.Greed
import Multimatch.Proofs.Limits
import Multimatch.Proofs.Canonical
import Multimatch.Proofs.Cursors
import Multimatch.Proofs.Showing
