import SpanViewer.Text.Basic

/-!
# Bytes of a text

Columns and message lengths count the bytes of the UTF-8 form of a text. A cut at a byte column
never divides a character: it falls back to the character's first byte.
-/

namespace SpanViewer

/-- A stream of bytes. -/
abbrev Bytes := List UInt8

namespace Text

/-- The UTF-8 form of a text. -/
def toBytes (text : Text) : Bytes :=
  text.flatMap String.utf8EncodeChar

/-- The text that has the given UTF-8 form, if there is one. -/
def ofBytes? (bytes : Bytes) : Option Text :=
  bytes.toByteArray.utf8Decode?.map Array.toList

/-- The number of bytes of the UTF-8 form. -/
def byteSize : Text → Nat
  | [] => 0
  | c :: rest => c.utf8Size + byteSize rest

/-- Cuts a text into its longest part of at most `column` bytes and the rest. -/
def splitAtByte (text : Text) (column : Nat) : Text × Text :=
  match text with
  | [] => ([], [])
  | c :: rest =>
    if c.utf8Size ≤ column then
      let (before, after) := splitAtByte rest (column - c.utf8Size)
      (c :: before, after)
    else
      ([], c :: rest)

/-- The last start or end of a character that is at most `column` bytes into the text. -/
def floorColumn (text : Text) (column : Nat) : Nat :=
  byteSize (text.splitAtByte column).1

/-- A cut at a byte column loses nothing. -/
theorem splitAtByte_append (text : Text) (column : Nat) :
    (text.splitAtByte column).1 ++ (text.splitAtByte column).2 = text := by
  induction text generalizing column with
  | nil => rfl
  | cons c rest ih =>
    simp only [splitAtByte]
    split
    · simp [ih]
    · rfl

/-- The number of bytes is the length of the UTF-8 form. -/
theorem length_toBytes (text : Text) : (toBytes text).length = byteSize text := by
  induction text with
  | nil => rfl
  | cons c rest ih =>
    simp only [toBytes, List.flatMap_cons, List.length_append, String.length_utf8EncodeChar,
      byteSize]
    rw [← ih, toBytes]

/-- Every text is read back from its UTF-8 form. -/
theorem ofBytes?_toBytes (text : Text) : ofBytes? (toBytes text) = some text := by
  have hdecode := List.utf8Decode?_utf8Encode (l := text)
  simp only [List.utf8Encode] at hdecode
  simp [ofBytes?, toBytes, hdecode]

end Text

end SpanViewer
