import SpanViewer.Document.Line

/-!
# Documents

A file holds a source program and its annotated derived form, one after the other, with a delimiter
between them. Reading never fails: a file without a delimiter is all source, and blank lines of the
derived form are left out.
-/

namespace SpanViewer

/-- How a file is laid out. -/
structure FileFormat where
  /-- What separates the source from the derived form. -/
  delimiter : Text := "\r\n##########\r\n".toList
  /-- A delimiter line that ends in a line feed alone is accepted as well. -/
  acceptLineFeed : Bool := true
  /-- What stands for one space in the indentation of a line. -/
  indentMarker : Text := ['\u00a0']
  deriving DecidableEq, Repr

/-- The delimiter in a file whose lines end in a line feed alone. -/
def lineFeedDelimiter : Text := "\n##########\n".toList

/-- The source section of a file, and the section of the derived form if there is one. -/
def FileFormat.splitSections (format : FileFormat) (text : Text) : Text × Option Text :=
  match text.cutFirst? format.delimiter with
  | some (source, derived) => (source, some derived)
  | none =>
    match if format.acceptLineFeed then text.cutFirst? lineFeedDelimiter else none with
    | some (source, derived) => (source, some derived)
    | none => (text, none)

/-- A source program beside its annotated derived form. -/
structure Document where
  /-- The lines of the source. -/
  source : List Text := []
  /-- The words of each line of the derived form. -/
  derived : List (List Word) := []
  deriving DecidableEq, Repr

namespace Document

/-- The source as one text. -/
def sourceText (d : Document) : Text :=
  .ofLines d.source

/-- The number of words of the derived form. -/
def wordCount (d : Document) : Nat :=
  d.derived.flatten.length

/-- There is neither source nor derived form. -/
def isEmpty (d : Document) : Bool :=
  d.source.isEmpty && d.derived.isEmpty

/-- Reads the text of a file. -/
def parse (format : FileFormat) (text : Text) : Document :=
  let (source, derived) := format.splitSections text
  { source := if source.isEmpty then [] else source.lines
    derived := match derived with
      | none => []
      | some text => text.lines.filterMap (parseLine? format.indentMarker) }

end Document

end SpanViewer
