import LexSpan.Main
import LexSpan.Session
import LexSpan.CharSet
import LexSpan.Proofs.Canonical
import LexSpan.Proofs.Malformed
import LexSpan.Proofs.QuotedReading
import LexSpan.Proofs.QuotedScan
import LexSpan.Proofs.Consumption
import LexSpan.Proofs.LineColumn
import LexSpan.Proofs.Checkpoints
import LexSpan.Proofs.Tiling
import LexSpan.Proofs.Extension
import LexSpan.Proofs.Restart
import LexSpan.Proofs.HeadLexing
import LexSpan.Proofs.FileRuns
import LexSpan.Proofs.Listing
import LexSpan.Proofs.AttemptOrder
import LexSpan.Proofs.LoggedRuns
import LexSpan.Proofs.Trivia
import LexSpan.Proofs.Spacing
import LexSpan.Proofs.StopPosition
import LexSpan.Proofs.PlaceOrder
import LexSpan.Proofs.Displacement
import LexSpan.Proofs.Landing
import LexSpan.Proofs.LiteralReading
import LexSpan.Proofs.Turns
import LexSpan.Proofs.Decimals
