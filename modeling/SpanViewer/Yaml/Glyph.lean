import SpanViewer.Text.Basic

/-!
# Glyphs

The characters of a YAML text with their places. Indentation and the ends of lines carry meaning,
so every reader needs them. The several ways to end a line become one.
-/

namespace SpanViewer.Yaml

/-- A character and its place. -/
structure Glyph where
  /-- The character. -/
  char : Char
  /-- The line, from 0. -/
  line : Nat
  /-- The number of characters before it on its line. -/
  column : Nat
  /-- The number of bytes before it on its line. -/
  byte : Nat
  deriving DecidableEq, Repr

/-- A character that ends a line. -/
def isBreak (c : Char) : Bool :=
  c = '\n' || c = '\u2028' || c = '\u2029'

/-- A space or a tab. -/
def isGap (c : Char) : Bool :=
  c = ' ' || c = '\t'

/-- A character that a YAML text may hold. -/
def isAllowed (c : Char) : Bool :=
  let n := c.toNat
  c = '\t' || c = '\n' || c = '\r' || n = 0x85 || 0x20 ≤ n && n ≤ 0x7E ||
    0xA0 ≤ n && n ≤ 0xFFFD || 0x10000 ≤ n

/-- Ends every line with a line feed, where it is not a separator of lines or paragraphs. -/
def unifyBreaks : Text → Text
  | [] => []
  | '\r' :: '\n' :: rest => '\n' :: unifyBreaks rest
  | '\r' :: rest => '\n' :: unifyBreaks rest
  | '\u0085' :: rest => '\n' :: unifyBreaks rest
  | c :: rest => c :: unifyBreaks rest

/-- The glyphs of a text that starts at a place. -/
def locate (line column byte : Nat) : Text → List Glyph
  | [] => []
  | c :: rest =>
    ⟨c, line, column, byte⟩ ::
      if isBreak c then locate (line + 1) 0 0 rest
      else locate line (column + 1) (byte + c.utf8Size) rest

/-- The glyphs of a YAML text; nothing if a character is not allowed. -/
def glyphs? (text : Text) : Option (List Glyph) :=
  if text.all isAllowed then some (locate 0 0 0 (unifyBreaks text)) else none

/-- A gap, the end of a line or the end of the text comes next. -/
def atGap : List Glyph → Bool
  | [] => true
  | g :: _ => isGap g.char || isBreak g.char

/-- A line with the given mark and nothing more than a gap behind it comes next. -/
def atMark (mark : Text) (glyphs : List Glyph) : Bool :=
  match glyphs with
  | g :: _ =>
    g.column = 0 && (glyphs.take mark.length).map Glyph.char = mark &&
      atGap (glyphs.drop mark.length)
  | [] => false

/-- The mark of the start of a document. -/
def startMark : Text := "---".toList

/-- The mark of the end of a document. -/
def endMark : Text := "...".toList

/-- The start or the end of a document comes next. -/
def atDocumentMark (glyphs : List Glyph) : Bool :=
  atMark startMark glyphs || atMark endMark glyphs

end SpanViewer.Yaml
