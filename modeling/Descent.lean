import Descent.Value.Field
import Descent.Value.Render
import Descent.Value.Flatten
import Descent.Fault
import Descent.Diagnostic.Format
import Descent.Rule.Derived
import Descent.Outcome
import Descent.Document.Embedding
import Descent.Document.Loader
import Descent.Pattern.Reader
import Descent.Catalogue.Tests
import Descent.Catalogue.Transforms
import Descent.Catalogue.Rules
import Descent.Script
import Descent.Proofs.Finality
import Descent.Proofs.Relocation
import Descent.Proofs.Document.ViablePrefix
import Descent.Proofs.Budget
import Descent.Proofs.Bookkeeping
import Descent.Proofs.Document.Counters
import Descent.Proofs.Document.Tracking
import Descent.Proofs.Document.Totality
import Descent.Proofs.Document.Nesting
import Descent.Proofs.Commitment
import Descent.Proofs.Guarded
import Descent.Proofs.Document.Backtracking
import Descent.Proofs.Document.NestingLimit
import Descent.Proofs.Consumption
import Descent.Proofs.Faultless
import Descent.Proofs.Document.ReadBack
import Descent.Proofs.Lossless
import Descent.Proofs.Document.Literals
import Descent.Proofs.Document.Excerpt
import Descent.Proofs.Document.WrongCharacter
import Descent.Proofs.Document.Leftover
import Descent.Proofs.Repetition
import Descent.Proofs.Derivation
import Descent.Proofs.Document.Representation
import Descent.Proofs.Window
import Descent.Proofs.Clipping
import Descent.Proofs.Document.SingleLine
import Descent.Proofs.Leaves
import Descent.Proofs.Updating
import Descent.Proofs.Records
import Descent.Proofs.Pattern.Reader
import Descent.Proofs.Catalogue
import Descent.Proofs.Scripts
