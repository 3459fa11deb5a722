import SpanViewer.Text.Blank
import SpanViewer.Text.Number
import SpanViewer.Text.Quoted

/-!
# Positions

The source span that a word of the derived form comes from. Lines are numbered from 1 and columns
count bytes from 0. A span is written `line:column,line:column`, with blanks allowed around each
number; the span of four zeros says that a word comes from nowhere in the source.
-/

namespace SpanViewer

/-- A span of the source, from a start to an end. -/
structure Position where
  /-- The line of the start, from 1; 0 for a word without a span. -/
  line : Nat
  /-- The byte column of the start. -/
  column : Nat
  /-- The line of the end. -/
  endLine : Nat
  /-- The byte column of the end. -/
  endColumn : Nat
  deriving DecidableEq, Repr, Inhabited

namespace Position

/-- The position of a word without a span. -/
def unmapped : Position := ⟨0, 0, 0, 0⟩

/-- The word comes from the source. -/
def isMapped (p : Position) : Bool :=
  p.line ≠ 0

/-- The span starts and ends on one line. -/
def isSingleLine (p : Position) : Bool :=
  p.line = p.endLine

/-- The start lies at or before the end, in reading order. -/
def Ordered (p : Position) : Prop :=
  p.line < p.endLine ∨ p.line = p.endLine ∧ p.column ≤ p.endColumn

instance (p : Position) : Decidable p.Ordered :=
  inferInstanceAs (Decidable (_ ∨ _))

/-- What a written position may denote: no span, or one that starts on a line and does not end
before its start. -/
def Valid (p : Position) : Prop :=
  p = unmapped ∨ 1 ≤ p.line ∧ p.Ordered

instance (p : Position) : Decidable p.Valid :=
  inferInstanceAs (Decidable (_ ∨ _))

/-- The written form of a start or an end. -/
def renderBound (line column : Nat) : Text :=
  .ofNumber line ++ [':'] ++ .ofNumber column

/-- The written form of a position. -/
def render (p : Position) : Text :=
  renderBound p.line p.column ++ [','] ++ renderBound p.endLine p.endColumn

end Position

/-- Why a text is not a position. -/
inductive PositionError where
  /-- No comma separates a start from an end. -/
  | missingEnd (text : Text)
  /-- A start or an end without a colon. -/
  | malformedBound (text : Text)
  /-- A line or a column that is not a number. -/
  | invalidNumber (text : Text)
  /-- Four numbers that are no valid span. -/
  | invalidRange (position : Position)
  deriving DecidableEq, Repr

/-- What a user is told about the error. -/
def PositionError.message : PositionError → Text
  | missingEnd text => "expected `start,end`, got ".toList ++ text.quoted
  | malformedBound text => "expected `line:col`, got ".toList ++ text.quoted
  | invalidNumber text => "invalid number ".toList ++ text.quoted
  | invalidRange position =>
    "range ".toList ++ position.render ++ " is not a valid source span".toList

namespace Position

/-- Reads a line or a column, with blanks around it. -/
def parseNumber (text : Text) : Except PositionError Nat :=
  match text.trim.number? with
  | some number => .ok number
  | none => .error (.invalidNumber text.trim)

/-- Reads the start or the end of a span. -/
def parseBound (text : Text) : Except PositionError (Nat × Nat) :=
  match text.cutFirst? [':'] with
  | none => .error (.malformedBound text)
  | some (line, column) => do
    let line ← parseNumber line
    let column ← parseNumber column
    return (line, column)

/-- Reads a position. -/
def parse (text : Text) : Except PositionError Position :=
  match text.trim.cutFirst? [','] with
  | none => .error (.missingEnd text.trim)
  | some (start, stop) => do
    let (line, column) ← parseBound start
    let (endLine, endColumn) ← parseBound stop
    let position : Position := ⟨line, column, endLine, endColumn⟩
    if position.Valid then return position else throw (.invalidRange position)

end Position

end SpanViewer
