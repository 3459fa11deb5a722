import SpanViewer.Position

/-!
# Words

A word is one token of the derived form with the span of the source that it comes from. The
indentation of a line is a word too: its text repeats the indent marker once for every space.
-/

namespace SpanViewer

/-- A token of the derived form. -/
structure Word where
  /-- The characters of the token. -/
  text : Text
  /-- Where in the source the token comes from. -/
  position : Position
  deriving DecidableEq, Repr, Inhabited

namespace Word

/-- A word that comes from nowhere in the source. -/
def unmapped (text : Text) : Word := ⟨text, .unmapped⟩

/-- The word for an indentation of `width` spaces. -/
def indentation (marker : Text) (width : Nat) : Word :=
  unmapped (List.replicate width marker).flatten

/-- The text is the indent marker, once or more. -/
def isIndentation (marker : Text) (w : Word) : Bool :=
  !marker.isEmpty && !w.text.isEmpty && (w.text.dropRepeats marker).isEmpty

end Word

end SpanViewer
