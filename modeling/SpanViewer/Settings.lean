import SpanViewer.Document.Basic

/-!
# Settings

What a user may choose: the layout of files, what a hover on an indentation means, and how output
looks.
-/

namespace SpanViewer

/-- The choices of a user. -/
structure Settings extends FileFormat where
  /-- A hover on the indentation of a line means the first word behind it. -/
  redirectIndentation : Bool := true
  /-- What stands in front of a span in plain output. -/
  highlightOpen : Text := "[[".toList
  /-- What stands behind a span in plain output. -/
  highlightClose : Text := "]]".toList
  /-- Terminal output has colors. -/
  color : Bool := true
  /-- The file that a log is written to. -/
  logFile : Option Text := none
  deriving DecidableEq, Repr

end SpanViewer
