import SpanViewer.Highlight
import SpanViewer.Word.Basic

/-!
# Plain output

Spans between two markers of the user's choice, and words as they are. Carriage returns are left
out.
-/

namespace SpanViewer.Plain

/-- The source with its span between the markers. -/
def highlight (opening closing : Text) (h : Highlight) : Text :=
  if h.mapped then
    Text.dropReturns (h.before ++ opening ++ h.inside ++ closing ++ h.after)
  else
    h.before.dropReturns

/-- A word with spaces for indent markers. -/
def word (marker : Text) (w : Word) : Text :=
  (w.text.replace marker [' ']).dropReturns

end SpanViewer.Plain
