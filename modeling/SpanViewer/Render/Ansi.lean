import SpanViewer.Highlight
import SpanViewer.Word.Class

/-!
# Terminal output

Spans in reverse video and words in the color of their class. Carriage returns are left out.
-/

namespace SpanViewer.Ansi

/-- The code that ends every effect. -/
def reset : Text := "\x1b[0m".toList

/-- The code for reverse video. -/
def reverseVideo : Text := "\x1b[7m".toList

/-- The code for the color of a class. -/
def color? : WordClass → Option Text
  | .keyword => some "\x1b[1;35m".toList
  | .functionCall => some "\x1b[34m".toList
  | .blockLabel => some "\x1b[33m".toList
  | .bufferVariable => some "\x1b[36m".toList
  | .constant => some "\x1b[31m".toList
  | .string => some "\x1b[32m".toList
  | .comment => some "\x1b[2m".toList
  | .plain => none

/-- A span in reverse video. Every line is marked on its own, since a terminal may drop the effect
at the end of a line. -/
def span (inside : Text) : Text :=
  .ofLines (inside.dropReturns.lines.map fun line => reverseVideo ++ line ++ reset)

/-- The source with its span marked. -/
def highlight (h : Highlight) : Text :=
  if h.mapped then
    h.before.dropReturns ++ span h.inside ++ h.after.dropReturns
  else
    h.before.dropReturns

/-- A word in its color, with spaces for indent markers. -/
def word (marker : Text) (w : Word) : Text :=
  let text := (w.text.replace marker [' ']).dropReturns
  match color? w.classify with
  | some color => color ++ text ++ reset
  | none => text

end SpanViewer.Ansi
