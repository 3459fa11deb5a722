import SpanViewer.Render.Ansi
import SpanViewer.Render.Html
import SpanViewer.Render.Plain
import SpanViewer.Settings

/-!
# Targets

Where output goes decides how spans and words are written.
-/

namespace SpanViewer

/-- The style of output that a user asks for. -/
inductive Style where
  | ansi
  | html
  | plain
  deriving DecidableEq, Repr

/-- The style of a name. -/
def Style.ofName? (name : Text) : Option Style :=
  if name = "ansi".toList then some .ansi
  else if name = "html".toList then some .html
  else if name = "plain".toList then some .plain
  else none

/-- A style with the settings that it needs. -/
inductive Target where
  /-- A terminal with colors. -/
  | terminal (marker : Text)
  /-- A browser. -/
  | browser (marker : Text)
  /-- Text alone, with markers around a span. -/
  | plain (marker opening closing : Text)
  deriving DecidableEq, Repr

/-- The target for a style. Without colors a terminal is plain. -/
def Style.target (style : Style) (settings : Settings) : Target :=
  let plain := .plain settings.indentMarker settings.highlightOpen settings.highlightClose
  match style with
  | .ansi => if settings.color then .terminal settings.indentMarker else plain
  | .html => .browser settings.indentMarker
  | .plain => plain

namespace Target

/-- What stands for one space in an indentation. -/
def marker : Target → Text
  | terminal marker => marker
  | browser marker => marker
  | plain marker _ _ => marker

/-- The source with its span marked. -/
def highlight : Target → Highlight → Text
  | terminal _, h => Ansi.highlight h
  | browser _, h => Html.highlight h
  | plain _ opening closing, h => Plain.highlight opening closing h

/-- One word. -/
def word : Target → Word → Text
  | terminal marker, w => Ansi.word marker w
  | browser marker, w => Html.word marker w
  | plain marker _ _, w => Plain.word marker w

/-- One line of the derived form. A space stands in front of every word but the first and one
behind an indentation. -/
def line (target : Target) : List Word → Text
  | [] => []
  | [w] => target.word w
  | w :: next :: rest =>
    target.word w ++ (if w.isIndentation target.marker then [] else [' ']) ++
      target.line (next :: rest)

end Target

end SpanViewer
