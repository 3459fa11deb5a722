import SpanViewer.Yaml.Property

/-!
# YAML tokens

The tokens of a YAML text. Indentation is made visible: a block of entries or fields stands between
a start and an end, as a collection in brackets does. A key in front of a colon is recognised only
when the colon is met, so its mark is put in front of tokens that are there already.
-/

namespace SpanViewer.Yaml

/-- A token of a YAML text. -/
inductive Token where
  /-- The mark of the start of a document. -/
  | documentStart
  /-- The mark of the end of a document. -/
  | documentEnd
  /-- A block of entries begins. -/
  | blockSequence
  /-- A block of fields begins. -/
  | blockMapping
  /-- A block ends. -/
  | blockEnd
  /-- An opening bracket. -/
  | flowSequence
  /-- A closing bracket. -/
  | flowSequenceEnd
  /-- An opening brace. -/
  | flowMapping
  /-- A closing brace. -/
  | flowMappingEnd
  /-- An entry of a block. -/
  | blockEntry
  /-- A comma between the items of a collection in brackets. -/
  | flowEntry
  /-- A key comes next. -/
  | key
  /-- The value of a key comes next. -/
  | value
  /-- A scalar. -/
  | scalar (text : Text) (style : ScalarStyle)
  /-- An anchor of the part that comes next. -/
  | anchor (number : Nat)
  /-- A part that stands elsewhere, at the anchor of a number. -/
  | aliasOf (number : Nat)
  /-- The tag of the part that comes next. -/
  | tag (name : Text)
  /-- A directive. -/
  | directive
  deriving DecidableEq, Repr

/-- A place at which a key may have begun. -/
structure KeyPlace where
  /-- The number of tokens before it. -/
  index : Nat
  /-- There must be a key here. -/
  required : Bool
  /-- The line of its first character. -/
  line : Nat
  /-- The column of its first character. -/
  column : Nat
  /-- The number of bytes before it on its line. -/
  byte : Nat

/-- The longest key, in bytes. -/
def longestKey : Nat := 1024

/-- What has been read of a text, and what is left. -/
structure Lexer where
  /-- The text that is left. -/
  rest : List Glyph
  /-- The tokens so far. -/
  tokens : Array Token := #[]
  /-- The columns of the blocks around this place, the innermost first. -/
  indents : List Nat := []
  /-- The places of keys that wait for their colon: that of the block, and one for each collection
  in brackets around this place, the innermost first. -/
  keys : List (Option KeyPlace) := [none]
  /-- A key may begin here. -/
  keyAllowed : Bool := true
  /-- The anchors so far and their numbers. -/
  anchors : List (Text × Nat) := []
  /-- The handles to which directives give a meaning. -/
  handles : Handles := []
  /-- A directive has given the version. -/
  hasVersion : Bool := false

namespace Lexer

/-- This place is inside of brackets. -/
def inFlow (l : Lexer) : Bool :=
  1 < l.keys.length

/-- Adds a token. -/
def push (l : Lexer) (token : Token) : Lexer :=
  { l with tokens := l.tokens.push token }

/-- What follows spaces, comments and empty lines, and whether a key may begin there. A byte order
mark at the start of a line is passed over. -/
def skipFiller (inFlow keyAllowed inComment : Bool) (glyphs : List Glyph) : Bool × List Glyph :=
  match glyphs with
  | [] => (keyAllowed, [])
  | g :: rest =>
    if isBreak g.char then skipFiller inFlow (keyAllowed || !inFlow) false rest
    else if inComment || g.char = ' ' || g.char = '\t' && (inFlow || !keyAllowed) then
      skipFiller inFlow keyAllowed inComment rest
    else if g.char = '#' then skipFiller inFlow keyAllowed true rest
    else if g.char = '\uFEFF' && g.column = 0 then skipFiller inFlow keyAllowed false rest
    else (keyAllowed, g :: rest)

/-- Forgets the place of a key, which must not be required. -/
def dropPlace? (place : Option KeyPlace) : Option (Option KeyPlace) :=
  if place.any (·.required) then none else some none

/-- Forgets the places of keys that are on an earlier line or too far back. -/
def dropStale? (l : Lexer) (g : Glyph) : Option Lexer := do
  let keys ← l.keys.mapM fun place =>
    if place.any fun p => p.line < g.line || p.byte + longestKey < g.byte then
      dropPlace? place
    else
      some place
  return { l with keys := keys }

/-- Forgets the place of the innermost key. -/
def dropKey? (l : Lexer) : Option Lexer :=
  match l.keys with
  | [] => some l
  | place :: outer => do return { l with keys := (← dropPlace? place) :: outer }

/-- Keeps this place as that of a key, if a key may begin here. -/
def saveKey? (l : Lexer) (g : Glyph) : Option Lexer :=
  if l.keyAllowed then do
    let l ← l.dropKey?
    let required := !l.inFlow && l.indents.head? = some g.column
    let place : KeyPlace := ⟨l.tokens.size, required, g.line, g.column, g.byte⟩
    return { l with keys := some place :: l.keys.tail }
  else
    some l

/-- Begins a block at a column, in front of the token of an index, if it is indented more than the
block around it. -/
def openBlock (l : Lexer) (column index : Nat) (token : Token) : Lexer :=
  if l.inFlow || l.indents.head?.any (column ≤ ·) then
    l
  else
    { l with
      indents := column :: l.indents
      tokens := l.tokens.insertIdxIfInBounds index token }

/-- Ends the blocks that are indented more than a column. -/
def closeBlocks (l : Lexer) (column : Nat) : Lexer :=
  if l.inFlow then
    l
  else
    let closed := l.indents.takeWhile (column < ·)
    { l with
      indents := l.indents.drop closed.length
      tokens := l.tokens ++ Array.replicate closed.length .blockEnd }

/-- Ends all blocks. -/
def closeAll (l : Lexer) : Lexer :=
  if l.inFlow then
    l
  else
    { l with indents := [], tokens := l.tokens ++ Array.replicate l.indents.length .blockEnd }

/-- Reads the mark of the start or the end of a document. -/
def readMark? (l : Lexer) (token : Token) : Option Lexer := do
  let l ← l.closeAll.dropKey?
  return { l.push token with keyAllowed := false, rest := l.rest.drop 3 }

/-- Reads an opening bracket or brace. -/
def readOpening? (l : Lexer) (g : Glyph) (token : Token) : Option Lexer := do
  let l ← l.saveKey? g
  return { l.push token with keys := none :: l.keys, keyAllowed := true, rest := l.rest.tail }

/-- Reads a closing bracket or brace. -/
def readClosing? (l : Lexer) (token : Token) : Option Lexer := do
  let l ← l.dropKey?
  let keys := if l.inFlow then l.keys.tail else l.keys
  return { l.push token with keys := keys, keyAllowed := false, rest := l.rest.tail }

/-- Reads a comma. -/
def readComma? (l : Lexer) : Option Lexer := do
  let l ← l.dropKey?
  return { l.push .flowEntry with keyAllowed := true, rest := l.rest.tail }

/-- Begins a block at this place, where a key or an entry must be allowed to begin. -/
def openHere? (l : Lexer) (g : Glyph) (token : Token) : Option Lexer :=
  if l.inFlow then some l
  else if l.keyAllowed then some (l.openBlock g.column l.tokens.size token)
  else none

/-- Reads the dash of an entry. -/
def readDash? (l : Lexer) (g : Glyph) : Option Lexer := do
  let l ← (← l.openHere? g .blockSequence).dropKey?
  return { l.push .blockEntry with keyAllowed := true, rest := l.rest.tail }

/-- Reads the question mark of a key. -/
def readQuestion? (l : Lexer) (g : Glyph) : Option Lexer := do
  let l ← (← l.openHere? g .blockMapping).dropKey?
  return { l.push .key with keyAllowed := !l.inFlow, rest := l.rest.tail }

/-- Reads the colon of a value. If the place of a key waits for it, the key is marked there. -/
def readColon? (l : Lexer) (g : Glyph) : Option Lexer :=
  match l.keys with
  | some place :: outer =>
    let marked := { l with
      keys := none :: outer
      tokens := l.tokens.insertIdxIfInBounds place.index .key }
    let opened := marked.openBlock place.column place.index .blockMapping
    some { opened.push .value with keyAllowed := false, rest := l.rest.tail }
  | _ => do
    let l ← l.openHere? g .blockMapping
    return { l.push .value with keyAllowed := !l.inFlow, rest := l.rest.tail }

/-- Reads a block scalar. -/
def readBlockScalar? (l : Lexer) (folded : Bool) : Option Lexer := do
  let l ← l.dropKey?
  let (text, rest) ← Yaml.readBlockScalar? folded l.indents.head? l.rest.tail
  let style := if folded then .folded else .literal
  return { l.push (.scalar text style) with keyAllowed := true, rest := rest }

/-- Reads a quoted scalar. -/
def readQuoted? (l : Lexer) (g : Glyph) (single : Bool) : Option Lexer := do
  let l ← l.saveKey? g
  let (text, rest) ← Yaml.readQuoted? single (.spaces []) 0 l.rest.tail
  return { l.push (.scalar text .quoted) with keyAllowed := false, rest := rest }

/-- Reads a plain scalar. -/
def readPlain? (l : Lexer) (g : Glyph) : Option Lexer := do
  let l ← l.saveKey? g
  let indent := (l.indents.head?.map (· + 1)).getD 0
  let (text, broken, rest) ← Yaml.readPlain? l.inFlow indent [] [] l.rest
  return { l.push (.scalar text .plain) with keyAllowed := broken, rest := rest }

/-- Numbers an anchor. Its number is that of the names before it, without repetition, so an anchor
that is given again may share the number of a later one. -/
def addAnchor (l : Lexer) (name : Text) : Lexer :=
  let number := l.anchors.length
  { l.push (.anchor number) with
    anchors := (name, number) :: l.anchors.filter fun anchor => anchor.1 ≠ name }

/-- Reads an anchor. -/
def readAnchor? (l : Lexer) (g : Glyph) : Option Lexer := do
  let l ← l.saveKey? g
  let (name, rest) ← readAnchorName? l.rest.tail
  return { l.addAnchor name with keyAllowed := false, rest := rest }

/-- Reads an alias, whose anchor must stand before it. -/
def readAlias? (l : Lexer) (g : Glyph) : Option Lexer := do
  let l ← l.saveKey? g
  let (name, rest) ← readAnchorName? l.rest.tail
  let number ← l.anchors.lookup name
  return { l.push (.aliasOf number) with keyAllowed := false, rest := rest }

/-- Reads a tag. -/
def readTag? (l : Lexer) (g : Glyph) : Option Lexer := do
  let l ← l.saveKey? g
  let (name, rest) ← Yaml.readTag? l.handles l.inFlow l.rest.tail
  return { l.push (.tag name) with keyAllowed := false, rest := rest }

/-- Follows a directive. The version is given once at most and so is the meaning of a handle. -/
def follow? (l : Lexer) : Directive → Option Lexer
  | .version major minor =>
    if !l.hasVersion ∧ major = 1 ∧ (minor = 1 ∨ minor = 2) then some { l with hasVersion := true }
    else none
  | .handle handle stem =>
    if (l.handles.lookup handle).isNone then some { l with handles := (handle, stem) :: l.handles }
    else none

/-- Reads a directive. -/
def readDirective? (l : Lexer) : Option Lexer := do
  let l ← l.closeAll.dropKey?
  let (directive, rest) ← Yaml.readDirective? l.rest.tail
  let l ← l.follow? directive
  return { l.push .directive with keyAllowed := false, rest := rest }

/-- Characters that begin something other than a plain scalar, though some may if no gap follows
them. -/
def indicators : Text := "-?:,[]\x7b\x7d#&*!|>'\"%@\x60".toList

/-- Reads the token that begins with the glyph `g`, the first of the text that is left. -/
def readToken? (l : Lexer) (g : Glyph) : Option Lexer :=
  let c := g.char
  let gapNext := atGap l.rest.tail
  if g.column = 0 && c = '%' then l.readDirective?
  else if atMark startMark l.rest then l.readMark? .documentStart
  else if atMark endMark l.rest then l.readMark? .documentEnd
  else if c = '[' then l.readOpening? g .flowSequence
  else if c = '\x7b' then l.readOpening? g .flowMapping
  else if c = ']' then l.readClosing? .flowSequenceEnd
  else if c = '\x7d' then l.readClosing? .flowMappingEnd
  else if c = ',' then l.readComma?
  else if c = '-' && gapNext then l.readDash? g
  else if c = '?' && (l.inFlow || gapNext) then l.readQuestion? g
  else if c = ':' && (l.inFlow || gapNext) then l.readColon? g
  else if c = '&' then l.readAnchor? g
  else if c = '*' then l.readAlias? g
  else if c = '!' then l.readTag? g
  else if c = '|' && !l.inFlow then l.readBlockScalar? false
  else if c = '>' && !l.inFlow then l.readBlockScalar? true
  else if c = '\'' then l.readQuoted? g true
  else if c = '"' then l.readQuoted? g false
  else if c ∉ indicators && !isGap c then l.readPlain? g
  else if c = '-' || !l.inFlow && (c = '?' || c = ':') then l.readPlain? g
  else none

/-- Reads tokens to the end of the text, of which every token takes at least one character. -/
def readTokens? (bound : Nat) (l : Lexer) : Option (List Token) :=
  match bound with
  | 0 => none
  | bound + 1 => do
    let (keyAllowed, rest) := skipFiller l.inFlow l.keyAllowed false l.rest
    let l := { l with keyAllowed := keyAllowed, rest := rest }
    match rest with
    | [] =>
      let l ← l.closeAll.dropKey?
      return l.tokens.toList
    | g :: _ =>
      let l ← l.dropStale? g
      let l ← (l.closeBlocks g.column).readToken? g
      readTokens? bound l

end Lexer

/-- The tokens of a YAML text. -/
def tokens? (text : Text) : Option (List Token) := do
  let glyphs ← glyphs? text
  Lexer.readTokens? (glyphs.length + 1) { rest := glyphs }

end SpanViewer.Yaml
