import SpanViewer.Word.Basic

/-!
# Word classes

How a word is displayed. Each class has a test of its own; where several hold, the first in the
order of precedence decides.
-/

namespace SpanViewer

/-- The display class of a word. -/
inductive WordClass where
  | comment
  | string
  | keyword
  | blockLabel
  | functionCall
  | bufferVariable
  | constant
  | plain
  deriving DecidableEq, Repr

/-- The name of a class, as style sheets and messages use it. -/
def WordClass.name : WordClass → Text
  | comment => "comment".toList
  | string => "string".toList
  | keyword => "keyword".toList
  | blockLabel => "block-label".toList
  | functionCall => "function-call".toList
  | bufferVariable => "buffer-variable".toList
  | constant => "constant".toList
  | plain => "plain".toList

/-- The words that structure the derived form. -/
def keywords : List Text :=
  ["let".toList, "letrec".toList, "=".toList, "in".toList, "if".toList, "else".toList,
    "then".toList]

/-- A number sign stands after leading spaces. -/
def Text.isComment (text : Text) : Bool :=
  ['#'].isPrefixOf (text.dropWhile (· = ' '))

namespace Word

/-- The word is a comment. -/
def isComment (w : Word) : Bool :=
  w.text.isComment

/-- The word holds a quoted part: it has two apostrophes. -/
def isString (w : Word) : Bool :=
  2 ≤ w.text.count '\''

/-- The word is one of the keywords. -/
def isKeyword (w : Word) : Bool :=
  w.text ∈ keywords

/-- A capital L stands somewhere in front of a digit. -/
def isBlockLabel (w : Word) : Bool :=
  (w.text.zip w.text.tail).any fun (c, next) => c = 'L' && next.isDigit

/-- The word starts like a call. A lone underscore is no call, nor is a reserved name. -/
def isFunctionCall (w : Word) : Bool :=
  ['_'].isPrefixOf w.text && !"_SSA".toList.isPrefixOf w.text && w.text ≠ ['_']

/-- The word names a buffer. -/
def isBufferVariable (w : Word) : Bool :=
  ['%'].isPrefixOf w.text

/-- The word is a number or a truth value. -/
def isConstant (w : Word) : Bool :=
  w.text.head?.any Char.isDigit || w.text = "True".toList || w.text = "False".toList

/-- The first class, in order of precedence, whose test the word passes. -/
def classify (w : Word) : WordClass :=
  if w.isComment then .comment
  else if w.isString then .string
  else if w.isKeyword then .keyword
  else if w.isBlockLabel then .blockLabel
  else if w.isFunctionCall then .functionCall
  else if w.isBufferVariable then .bufferVariable
  else if w.isConstant then .constant
  else .plain

end Word

end SpanViewer
