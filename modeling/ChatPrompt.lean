import ChatPrompt.Text.Blank
import ChatPrompt.Text.Alphanumeric
import ChatPrompt.Text.Quoted
import ChatPrompt.Text.Control
import ChatPrompt.Text.Offset
import ChatPrompt.Number.Text
import ChatPrompt.Number.Reading
import ChatPrompt.Json.Printer
import ChatPrompt.Json.Reader
import ChatPrompt.Value.Truth
import ChatPrompt.Expr.Parser
import ChatPrompt.Leaf.Cache
import ChatPrompt.Estimator
import ChatPrompt.Source
import ChatPrompt.Anchor
import ChatPrompt.Blueprint.Cache
import ChatPrompt.Render.Prompt
import ChatPrompt.Settings
import ChatPrompt.Proofs.Accounting
import ChatPrompt.Proofs.Ceiling
import ChatPrompt.Proofs.Exhaustion
import ChatPrompt.Proofs.Monotonicity
import ChatPrompt.Proofs.Acceptance
import ChatPrompt.Proofs.Assembly
import ChatPrompt.Proofs.Releases
import ChatPrompt.Proofs.Parsing
import ChatPrompt.Proofs.Nesting
import ChatPrompt.Proofs.Openness
import ChatPrompt.Proofs.Confinement
import ChatPrompt.Proofs.Reservation
import ChatPrompt.Proofs.Overflow
import ChatPrompt.Proofs.Agreement
import ChatPrompt.Proofs.Roundtrip
import ChatPrompt.Proofs.Expansion
import ChatPrompt.Proofs.Translation
import ChatPrompt.Proofs.Reporting
import ChatPrompt.Proofs.Interchange
import ChatPrompt.Proofs.Blanks
import ChatPrompt.Proofs.Rearrangement
import ChatPrompt.Proofs.Caching
import ChatPrompt.Proofs.Linting
import ChatPrompt.Proofs.Counting
import ChatPrompt.Proofs.Balance
import ChatPrompt.Proofs.Packing
import ChatPrompt.Proofs.Direction
import ChatPrompt.Proofs.Programs
import ChatPrompt.Proofs.Landing
import ChatPrompt.Proofs.Grouping
import ChatPrompt.Proofs.Stopping
import ChatPrompt.Proofs.Urgency
import ChatPrompt.Proofs.FixedKeys
import ChatPrompt.Proofs.Spelling
import ChatPrompt.Proofs.Display
import ChatPrompt.Proofs.Interpolation
import ChatPrompt.Proofs.Transcription
import ChatPrompt.Proofs.Excerpts
import ChatPrompt.Proofs.Coherence
import ChatPrompt.Proofs.Overlay
import ChatPrompt.Proofs.Rephrasing
import ChatPrompt.Proofs.Bundling
import ChatPrompt.Proofs.Substitution
import ChatPrompt.Proofs.Refusals
import ChatPrompt.Main
