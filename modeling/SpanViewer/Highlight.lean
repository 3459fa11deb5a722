import SpanViewer.Position
import SpanViewer.Text.Bytes

/-!
# Highlights

The source cut into the text before a span, the span and the text after it. Lines and columns
outside the source are moved to the nearest place inside it, and no text is lost: the three parts
together are the source.
-/

namespace SpanViewer

/-- The source cut around a span. -/
structure Highlight where
  /-- The source in front of the span. -/
  before : Text := []
  /-- The span. -/
  inside : Text := []
  /-- The source behind the span. -/
  after : Text := []
  /-- The number of spaces in front of the line on which the span starts. -/
  indentation : Nat := 0
  /-- There is a span. -/
  mapped : Bool := false
  deriving DecidableEq, Repr

namespace Highlight

/-- The three parts put together again. -/
def reassembled (h : Highlight) : Text :=
  h.before ++ h.inside ++ h.after

/-- The lines of the span, where all but the first lose as many characters as the first line of
the span is indented. -/
def dedented (h : Highlight) : Text :=
  match h.inside.lines with
  | [] => []
  | first :: following => .ofLines (first :: following.map (·.drop h.indentation))

/-- Cuts lines of the source around a span that covers `first` and the lines `following`, with the
lines `above` and `below` around them. -/
def cutLines (column endColumn : Nat) (above : List Text) (first : Text)
    (following below : List Text) : Highlight :=
  let (head, rest) := first.splitAtByte column
  let (inside, tail) :=
    match following.getLast? with
    | none => rest.splitAtByte (endColumn - head.byteSize)
    | some last =>
      let (inside, tail) := last.splitAtByte endColumn
      (.ofLines (rest :: following.dropLast ++ [inside]), tail)
  { before := .ofLines (above ++ [head])
    inside := inside
    after := .ofLines (tail :: below)
    indentation := first.indentation
    mapped := true }

/-- Cuts the source around a position. The span covers the lines from the start to the end, both
moved into the source, and a span that ends before its start is empty. -/
def cut (p : Position) (source : List Text) : Highlight :=
  let start := min p.line source.length
  let stop := max start (min p.endLine source.length)
  match p.isMapped, (source.take stop).drop (start - 1) with
  | true, first :: following =>
    cutLines p.column p.endColumn (source.take (start - 1)) first following (source.drop stop)
  | _, _ => { before := .ofLines source }

end Highlight

end SpanViewer
