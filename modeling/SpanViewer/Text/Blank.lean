import SpanViewer.Text.Basic

/-!
# Blank characters

The characters with the Unicode property White_Space, and texts without them at their ends. The
zero-width space and the byte order mark are not blank.
-/

namespace SpanViewer

/-- The blank characters, as first and last code point of each range. -/
def blankRanges : List (Nat × Nat) :=
  [(0x09, 0x0D), (0x20, 0x20), (0x85, 0x85), (0xA0, 0xA0), (0x1680, 0x1680), (0x2000, 0x200A),
    (0x2028, 0x2029), (0x202F, 0x202F), (0x205F, 0x205F), (0x3000, 0x3000)]

/-- A character that trimming removes. -/
def isBlank (c : Char) : Bool :=
  blankRanges.any fun (first, last) => first ≤ c.toNat ∧ c.toNat ≤ last

namespace Text

/-- A text without the blank characters at its end. -/
def trimEnd (text : Text) : Text :=
  text.dropEndWhile isBlank

/-- A text without the blank characters at both ends. -/
def trim (text : Text) : Text :=
  trimEnd (text.dropWhile isBlank)

end Text

end SpanViewer
