import SpanViewer.Yaml.Scalar

/-!
# YAML properties

A part of a YAML text may carry an anchor, by which an alias refers to it, and a tag, which names
its type. A tag is written in full or behind a handle, which directives give a meaning.
-/

namespace SpanViewer.Yaml

/-- A character of an anchor, of a handle or of the name of a directive. -/
def isNameChar (c : Char) : Bool :=
  c.isAlphanum || c = '_' || c = '-'

/-- A name at the front, which may be empty, and what follows it. -/
def readName (glyphs : List Glyph) : Text × List Glyph :=
  ((glyphs.takeWhile fun g => isNameChar g.char).map Glyph.char,
    glyphs.dropWhile fun g => isNameChar g.char)

/-- One of some characters comes next. -/
def atAny (chars : Text) (glyphs : List Glyph) : Bool :=
  glyphs.head?.any fun g => g.char ∈ chars

/-- The name of an anchor or an alias behind its indicator, and what follows it. -/
def readAnchorName? (glyphs : List Glyph) : Option (Text × List Glyph) :=
  let (name, rest) := readName glyphs
  if name ≠ [] ∧ (atGap rest || atAny "?:,]\x7d%@\x60".toList rest) then some (name, rest) else none

/-- A character that a tag may hold. Commas and brackets need a tag that is written in full. -/
def isTagChar (full : Bool) (c : Char) : Bool :=
  isNameChar c || c ∈ ";/?:@&=+$.!~*'()".toList || full && c ∈ ",[]".toList

/-- The number of octets that follow the first octet of a character. -/
def followingOctets? (octet : Nat) : Option Nat :=
  if octet < 0x80 then some 0
  else if octet < 0xC0 then none
  else if octet < 0xE0 then some 1
  else if octet < 0xF0 then some 2
  else if octet < 0xF8 then some 3
  else none

/-- The characters of a tag, and what follows them. Two hexadecimal digits behind a percent sign
give one octet of a character, of which `pending` are still to come. `skip` glyphs have been read
already. -/
def readTagChars? (full : Bool) (pending skip : Nat) (glyphs : List Glyph) :
    Option (Text × List Glyph) :=
  match skip, glyphs with
  | _, [] => if pending = 0 then some ([], []) else none
  | skip + 1, _ :: rest => readTagChars? full pending skip rest
  | 0, g :: rest =>
    if g.char = '%' then do
      let high ← rest.head? >>= fun digit => Json.hexValue? digit.char
      let low ← rest[1]? >>= fun digit => Json.hexValue? digit.char
      let octet := 16 * high + low
      let left ← match pending with
        | 0 => followingOctets? octet
        | pending + 1 => if octet / 64 = 2 then some pending else none
      let (text, after) ← readTagChars? full left 2 rest
      return (Char.ofNat octet :: text, after)
    else if 0 < pending then
      none
    else if isTagChar full g.char then do
      let (text, after) ← readTagChars? full 0 0 rest
      return (g.char :: text, after)
    else
      some ([], g :: rest)

/-- The characters of a tag up to the first null character. There must be one at least. -/
def readSuffix? (full : Bool) (glyphs : List Glyph) : Option (Text × List Glyph) := do
  let (text, rest) ← readTagChars? full 0 0 glyphs
  if text = [] then none else return (text.takeWhile (· ≠ '\x00'), rest)

/-- Handles and what they stand for. -/
abbrev Handles := List (Text × Text)

/-- The handle of tags that belong to one text. -/
def privateHandle : Text := ['!']

/-- The handle of tags that belong to all texts. -/
def commonHandle : Text := ['!', '!']

/-- What the common handle stands for. -/
def commonStem : Text := "tag:yaml.org,2002:".toList

/-- What a handle stands for; nothing if no directive says it. -/
def Handles.stem? (handles : Handles) (handle : Text) : Option Text :=
  match handles.lookup handle with
  | some stem => some stem
  | none =>
    if handle = privateHandle then some privateHandle
    else if handle = commonHandle then some commonStem
    else none

/-- A handle behind its first exclamation mark, if it has another one at its end, or the private
handle and the name that was read; and what follows. -/
def readHandle (glyphs : List Glyph) : Text × Text × List Glyph :=
  let (name, rest) := readName glyphs
  match rest with
  | g :: after =>
    if g.char = '!' then ('!' :: name ++ ['!'], [], after) else (privateHandle, name, rest)
  | [] => (privateHandle, name, [])

/-- A tag behind its first exclamation mark, without regard to what follows it. -/
def readTagName? (handles : Handles) (glyphs : List Glyph) : Option (Text × List Glyph) :=
  match glyphs with
  | [] => some (privateHandle, [])
  | g :: rest =>
    if g.char = '<' then do
      let (name, rest) ← readSuffix? true rest
      if atAny ['>'] rest then return (name, rest.tail) else none
    else do
      let (handle, name, rest) := readHandle glyphs
      if handle = privateHandle then
        let (more, rest) ← readTagChars? false 0 0 rest
        let suffix := (name ++ more).takeWhile (· ≠ '\x00')
        if suffix = [] then return (privateHandle, rest)
        else return ((← handles.stem? handle) ++ suffix, rest)
      else
        let (suffix, rest) ← readSuffix? false rest
        return ((← handles.stem? handle) ++ suffix, rest)

/-- A tag behind its first exclamation mark, and what follows it. -/
def readTag? (handles : Handles) (inFlow : Bool) (glyphs : List Glyph) :
    Option (Text × List Glyph) := do
  let (name, rest) ← readTagName? handles glyphs
  if atGap rest || inFlow && atAny [','] rest then return (name, rest) else none

/-- A line in front of a document that says how to read it. -/
inductive Directive where
  /-- The version of YAML. -/
  | version (major minor : Nat)
  /-- What a handle stands for. -/
  | handle (handle stem : Text)
  deriving DecidableEq, Repr

/-- What follows spaces and tabs. -/
def dropGaps (glyphs : List Glyph) : List Glyph :=
  glyphs.dropWhile fun g => isGap g.char

/-- A number of at most nine digits, and what follows it. -/
def readVersionNumber? (glyphs : List Glyph) : Option (Nat × List Glyph) :=
  let digits := (glyphs.takeWhile fun g => g.char.isDigit).map Glyph.char
  if digits = [] ∨ 9 < digits.length then none
  else some (Nat.ofDigitChars 10 digits 0, glyphs.drop digits.length)

/-- A version, and what follows it. -/
def readVersion? (glyphs : List Glyph) : Option (Directive × List Glyph) := do
  let (major, rest) ← readVersionNumber? glyphs
  if atAny ['.'] rest then
    let (minor, rest) ← readVersionNumber? rest.tail
    return (.version major minor, rest)
  else
    none

/-- A handle and what it stands for, and what follows them. -/
def readHandleMeaning? (glyphs : List Glyph) : Option (Directive × List Glyph) := do
  if !atAny ['!'] glyphs then none
  let (handle, name, rest) := readHandle glyphs.tail
  if name ≠ [] ∨ !(rest.head?.any fun g => isGap g.char) then none
  let (stem, rest) ← readSuffix? true (dropGaps rest)
  if atGap rest then return (.handle handle stem, rest) else none

/-- A directive behind its percent sign, and the lines below it. -/
def readDirective? (glyphs : List Glyph) : Option (Directive × List Glyph) := do
  let (name, rest) := readName glyphs
  if !atGap rest then none
  let (directive, rest) ←
    if name = "YAML".toList then readVersion? (dropGaps rest)
    else if name = "TAG".toList then readHandleMeaning? (dropGaps rest)
    else none
  return (directive, ← endLine? rest)

end SpanViewer.Yaml
