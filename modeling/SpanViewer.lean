import SpanViewer.Main
import SpanViewer.Proofs.Document.Written
import SpanViewer.Proofs.Highlight.Offsets
import SpanViewer.Proofs.Json.Scalar
import SpanViewer.Proofs.Protocol.Envelope
import SpanViewer.Proofs.Protocol.Session
import SpanViewer.Proofs.Viewer.LineEnding
import SpanViewer.Proofs.Json.Written
import SpanViewer.Proofs.Protocol.Written
import SpanViewer.Proofs.Viewer.Operation
import SpanViewer.Proofs.Viewer.Run
import SpanViewer.Proofs.Document.Positions
import SpanViewer.Proofs.Render.Markup
import SpanViewer.Proofs.Prompt.Typed
import SpanViewer.Proofs.Viewer.Surfaces
import SpanViewer.Proofs.Stream.Script
import SpanViewer.Proofs.Prompt.Session
import SpanViewer.Proofs.Protocol.Header
import SpanViewer.Proofs.Protocol.Ending
import SpanViewer.Proofs.Protocol.Isolation
import SpanViewer.Proofs.Protocol.Role
import SpanViewer.Proofs.Viewer.Transfer
import SpanViewer.Proofs.Render.Shown
import SpanViewer.Proofs.Highlight.Place
import SpanViewer.Proofs.Document.Sections
import SpanViewer.Proofs.Document.Metadata
import SpanViewer.Proofs.Document.Comment
import SpanViewer.Proofs.Hover.Redirect
import SpanViewer.Proofs.Hover.Range
import SpanViewer.Proofs.Prompt.Range
import SpanViewer.Proofs.Prompt.LineEnding
import SpanViewer.Proofs.Render.Decoded
import SpanViewer.Proofs.Highlight.Dedented
import SpanViewer.Proofs.Render.ReverseVideo
import SpanViewer.Proofs.Render.AsWritten
import SpanViewer.Proofs.Prompt.Listing
import SpanViewer.Proofs.Text.Index
