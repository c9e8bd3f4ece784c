import LineScript.Main
import LineScript.Proofs.Block
import LineScript.Proofs.Decimal
import LineScript.Proofs.Form
import LineScript.Proofs.Frame
import LineScript.Proofs.History
import LineScript.Proofs.Lexemes
import LineScript.Proofs.Lifecycle
import LineScript.Proofs.Listing
import LineScript.Proofs.Loading
import LineScript.Proofs.Mention
import LineScript.Proofs.Nesting
import LineScript.Proofs.Opacity
import LineScript.Proofs.Reading
import LineScript.Proofs.Reordering
import LineScript.Proofs.Scale
import LineScript.Proofs.Sequence
import LineScript.Proofs.Upcoming
import LineScript.Proofs.ValueKind
import LineScript.Session
