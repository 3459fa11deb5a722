import SpanViewer.Highlight
import SpanViewer.Word.Class

/-!
# Markup

Output for a browser. Every character that has a meaning in markup is escaped, and a span is
dedented because it is shown as a block of its own. Carriage returns are left out.
-/

namespace SpanViewer.Html

/-- The markup of one character. -/
def escapeChar (c : Char) : Text :=
  if c = '&' then "&amp;".toList
  else if c = '<' then "&lt;".toList
  else if c = '>' then "&gt;".toList
  else if c = '"' then "&quot;".toList
  else if c = '\'' then "&#39;".toList
  else if c = '\r' then []
  else [c]

/-- The markup of a text. -/
def escape (text : Text) : Text :=
  text.flatMap escapeChar

/-- The markup of a space that is kept. -/
def keptSpace : Text := "&nbsp;".toList

/-- An element of a class around markup. -/
def element (name content : Text) : Text :=
  "<span class=\"".toList ++ name ++ "\">".toList ++ content ++ "</span>".toList

/-- The source with its span as an element. -/
def highlight (h : Highlight) : Text :=
  if h.mapped then
    escape h.before ++ element "highlight".toList (escape h.dedented) ++ escape h.after
  else
    escape h.before

/-- A word as an element of its class, with kept spaces for indent markers. -/
def word (marker : Text) (w : Word) : Text :=
  let content :=
    if marker.isEmpty then
      escape w.text
    else
      keptSpace.intercalate ((w.text.pieces marker).map escape)
  element w.classify.name content

end SpanViewer.Html
