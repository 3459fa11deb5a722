import SpanViewer.Yaml.Glyph
import SpanViewer.Json.Reader

/-!
# YAML scalars

A scalar is written plainly, between quotes, or as a block of indented lines. Line ends inside a
scalar are folded: a single one is read as a space, and of several all but the first are kept.
-/

namespace SpanViewer.Yaml

/-- How a scalar is written. -/
inductive ScalarStyle where
  /-- As it is. -/
  | plain
  /-- Between quotes. -/
  | quoted
  /-- As a block of lines that are kept. -/
  | literal
  /-- As a block of lines that are folded. -/
  | folded
  deriving DecidableEq, Repr

/-- What line ends are read as. -/
def foldBreaks : Text → Text
  | [] => []
  | '\n' :: [] => [' ']
  | '\n' :: more => more
  | breaks => breaks

/-- A plain scalar up to its end: its text, whether line ends follow it, and the rest. `spaces` and
`breaks` hold what has been passed since the last character of the scalar. -/
def readPlain? (inFlow : Bool) (indent : Nat) (spaces breaks : Text) (glyphs : List Glyph) :
    Option (Text × Bool × List Glyph) :=
  match glyphs with
  | [] => some ([], !breaks.isEmpty, [])
  | g :: rest =>
    let c := g.char
    let stop := some ([], !breaks.isEmpty, g :: rest)
    let passed := !spaces.isEmpty || !breaks.isEmpty
    if isGap c then
      if breaks.isEmpty then readPlain? inFlow indent (spaces ++ [c]) [] rest
      else if c = '\t' ∧ g.column < indent then none
      else readPlain? inFlow indent [] breaks rest
    else if isBreak c then
      readPlain? inFlow indent [] (breaks ++ [c]) rest
    else if passed ∧ (!inFlow ∧ g.column < indent ∨ c = '#') ∨ atDocumentMark (g :: rest) then
      stop
    else if inFlow ∧ c = ':' ∧ (rest.head?.any fun next => next.char ∈ ",?[]\x7b\x7d".toList) then
      none
    else if c = ':' ∧ atGap rest ∨ inFlow ∧ c ∈ ",[]\x7b\x7d".toList then
      stop
    else do
      let (text, broken, after) ← readPlain? inFlow indent [] [] rest
      return ((if breaks.isEmpty then spaces else foldBreaks breaks) ++ c :: text, broken, after)

/-- What has been passed since the last character of a quoted scalar. -/
inductive Passed where
  /-- Spaces and tabs, which are kept. -/
  | spaces (text : Text)
  /-- Line ends, which are folded. -/
  | breaks (text : Text)
  /-- A line end behind a backslash, which is dropped, and those behind it. -/
  | escaped (more : Text)

namespace Passed

/-- Passes one more gap or line end. -/
def add (c : Char) : Passed → Passed
  | spaces text => if isBreak c then breaks [c] else spaces (text ++ [c])
  | breaks text => if isBreak c then breaks (text ++ [c]) else breaks text
  | escaped more => if isBreak c then escaped (more ++ [c]) else escaped more

/-- What the passed characters are read as. -/
def text : Passed → Text
  | spaces text => text
  | breaks text => foldBreaks text
  | escaped more => more

end Passed

/-- The character for a letter behind a backslash. -/
def escape? (c : Char) : Option Char :=
  ([('0', '\x00'), ('a', '\x07'), ('b', '\x08'), ('t', '\t'), ('\t', '\t'), ('n', '\n'),
    ('v', '\x0b'), ('f', '\x0c'), ('r', '\r'), ('e', '\x1b'), (' ', ' '), ('"', '"'), ('/', '/'),
    ('\\', '\\'), ('N', '\u0085'), ('_', '\u00a0'), ('L', '\u2028'), ('P', '\u2029')]).lookup c

/-- The number of hexadecimal digits behind a letter that follows a backslash. -/
def codeLength? (c : Char) : Option Nat :=
  ([('x', 2), ('u', 4), ('U', 8)]).lookup c

/-- The character of hexadecimal digits. -/
def codeChar? (digits : List Glyph) : Option Char := do
  let code ← digits.foldlM (fun code g => do return 16 * code + (← Json.hexValue? g.char)) 0
  if code.isValidChar then return Char.ofNat code else none

/-- A quoted scalar behind its opening quote: its text, and what follows the closing quote. `skip`
glyphs have been read already. -/
def readQuoted? (single : Bool) (passed : Passed) (skip : Nat) (glyphs : List Glyph) :
    Option (Text × List Glyph) :=
  match skip, glyphs with
  | _, [] => none
  | skip + 1, _ :: rest => readQuoted? single passed skip rest
  | 0, g :: rest =>
    let c := g.char
    let next? := rest.head?.map Glyph.char
    let addChar (c : Char) (skip : Nat) : Option (Text × List Glyph) := do
      let (text, after) ← readQuoted? single (.spaces []) skip rest
      return (passed.text ++ c :: text, after)
    if isGap c || isBreak c then
      readQuoted? single (passed.add c) 0 rest
    else if atDocumentMark (g :: rest) then
      none
    else if single then
      if c ≠ '\'' then addChar c 0
      else if next? = some '\'' then addChar c 1
      else some (passed.text, rest)
    else if c = '"' then
      some (passed.text, rest)
    else if c ≠ '\\' then
      addChar c 0
    else
      match next? with
      | none => none
      | some next =>
        if isBreak next then do
          let (text, after) ← readQuoted? single (.escaped []) 1 rest
          return (passed.text ++ text, after)
        else
          match codeLength? next with
          | none => do addChar (← escape? next) 1
          | some length =>
            let digits := (rest.drop 1).take length
            if digits.length = length then do addChar (← codeChar? digits) (length + 1) else none

/-- The rest of a line. -/
def dropLine (glyphs : List Glyph) : List Glyph :=
  glyphs.dropWhile fun g => !isBreak g.char

/-- What happens to the line ends behind a block scalar. -/
inductive Chomping where
  /-- The first is kept. -/
  | clip
  /-- None is kept. -/
  | strip
  /-- All are kept. -/
  | keep
  deriving DecidableEq, Repr

/-- The indicator of a chomping. -/
def chomping? (c : Char) : Option Chomping :=
  if c = '-' then some .strip else if c = '+' then some .keep else none

/-- The digit that gives an indentation. -/
def indentDigit? (c : Char) : Option Nat :=
  if c.isDigit && c ≠ '0' then some (c.toNat - '0'.toNat) else none

/-- The indicators of a block scalar, in either order, and what follows them. -/
def readIndicators (glyphs : List Glyph) : Chomping × Option Nat × List Glyph :=
  let first? := glyphs.head?.map Glyph.char
  let second? := glyphs[1]?.map Glyph.char
  match first? >>= chomping?, first? >>= indentDigit? with
  | some chomping, _ =>
    match second? >>= indentDigit? with
    | some indent => (chomping, some indent, glyphs.drop 2)
    | none => (chomping, none, glyphs.drop 1)
  | none, some indent =>
    match second? >>= chomping? with
    | some chomping => (chomping, some indent, glyphs.drop 2)
    | none => (.clip, some indent, glyphs.drop 1)
  | none, none => (.clip, none, glyphs)

/-- The lines below a line that holds nothing more than a comment. -/
def endLine? (glyphs : List Glyph) : Option (List Glyph) :=
  let rest := glyphs.dropWhile fun g => isGap g.char
  match if rest.head?.any (·.char = '#') then dropLine rest else rest with
  | [] => some []
  | g :: below => if isBreak g.char then some below else none

/-- The widest indentation in front of the first line that is not empty; nothing if it holds a
tab. -/
def widestIndent? (widest : Nat) : List Glyph → Option Nat
  | [] => some widest
  | g :: rest =>
    if g.char = ' ' then widestIndent? (max widest (g.column + 1)) rest
    else if g.char = '\t' then none
    else if isBreak g.char then widestIndent? (max widest g.column) rest
    else some (max widest g.column)

/-- The lines of a block scalar: their text, the line end of the last, those behind it, and the
rest. `inside` says that a line has begun, `wide` that the last line begins with a gap; `last` and
`more` hold the line ends passed since. -/
def readBlock? (folded : Bool) (indent : Nat) (inside wide : Bool) (last more : Text)
    (glyphs : List Glyph) : Option (Text × Text × Text × List Glyph) :=
  match glyphs with
  | [] => some ([], last, more, [])
  | g :: rest =>
    let c := g.char
    if isBreak c then
      if inside then readBlock? folded indent false wide [c] [] rest
      else readBlock? folded indent false wide last (more ++ [c]) rest
    else if inside then do
      let (text, ends) ← readBlock? folded indent true wide [] [] rest
      return (c :: text, ends)
    else if g.column < indent ∧ c = ' ' then
      readBlock? folded indent false wide last more rest
    else if g.column < indent ∧ c = '\t' then
      none
    else if g.column = indent then do
      let joined :=
        if folded ∧ last = ['\n'] ∧ !wide ∧ !isGap c then
          if more.isEmpty then [' '] else more
        else
          last ++ more
      let (text, ends) ← readBlock? folded indent true (isGap c) [] [] rest
      return (joined ++ c :: text, ends)
    else
      some ([], last, more, g :: rest)

/-- A block scalar behind its indicator: its text and the rest. Its lines are indented more than
`parent`, the column of the block around it. -/
def readBlockScalar? (folded : Bool) (parent : Option Nat) (glyphs : List Glyph) :
    Option (Text × List Glyph) := do
  let (chomping, given, rest) := readIndicators glyphs
  let below ← endLine? rest
  let widest ← if given.isSome then some 0 else widestIndent? 0 below
  let indent := match given with
    | some n => parent.getD 0 + n
    | none => max 1 (max ((parent.map (· + 1)).getD 0) widest)
  let (text, last, more, rest) ← readBlock? folded indent false false [] [] below
  let ending := (if chomping = .strip then [] else last) ++ (if chomping = .keep then more else [])
  return (text ++ ending, rest)

end SpanViewer.Yaml
