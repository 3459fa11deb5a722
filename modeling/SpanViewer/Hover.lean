import SpanViewer.Document.Basic
import SpanViewer.Fault
import SpanViewer.Highlight

/-!
# Hovers

Pointing at a word of the derived form shows the span of the source that it comes from. A policy
says what pointing at an indentation means.
-/

namespace SpanViewer

/-- What pointing at an indentation means. -/
structure HoverPolicy where
  /-- It means the first word behind it. -/
  redirectIndentation : Bool
  /-- What stands for one space in an indentation. -/
  indentMarker : Text
  deriving DecidableEq, Repr

/-- What is shown for a word. -/
structure Hover where
  /-- The line of the word, from 0. -/
  line : Nat
  /-- The place of the word in its line, from 0. -/
  index : Nat
  /-- The word. -/
  word : Word
  /-- The source cut around the span of the word. -/
  highlight : Highlight
  deriving DecidableEq, Repr

/-- The place of the word that pointing at `index` means. -/
def HoverPolicy.resolve (policy : HoverPolicy) (words : List Word) (index : Nat) : Nat :=
  match words, index with
  | first :: _ :: _, 0 =>
    if policy.redirectIndentation && first.isIndentation policy.indentMarker then 1 else 0
  | _, _ => index

/-- Points at a word. Lines and places are counted from 0. -/
def Document.hover (d : Document) (policy : HoverPolicy) (line index : Nat) : Except Fault Hover :=
  match d.derived[line]? with
  | none => .error (.lineOutOfRange line d.derived.length)
  | some words =>
    let resolved := policy.resolve words index
    match words[resolved]? with
    | none => .error (.wordOutOfRange line index words.length)
    | some word => .ok ⟨line, resolved, word, .cut word.position d.source⟩

end SpanViewer
