import SpanViewer.Yaml.Token

/-!
# YAML trees

The one document of a YAML text as a tree of scalars, sequences and mappings. What is left out,
such as the value behind a colon at the end of a line, is an empty plain scalar. Aliases stay in the
tree, since a collection may hold an alias of itself.
-/

namespace SpanViewer

/-- A scalar of a YAML document. -/
structure YamlScalar where
  /-- The characters of the scalar. -/
  text : Text
  /-- How it is written. -/
  style : Yaml.ScalarStyle
  /-- The tag that it carries. -/
  tag : Option Text
  deriving DecidableEq, Repr

/-- A YAML document or a part of it. -/
inductive Yaml where
  /-- A scalar. -/
  | scalar (content : YamlScalar)
  /-- A sequence of entries. -/
  | sequence (items : List Yaml)
  /-- A mapping of keys to values, in their order and with repeated keys. -/
  | mapping (fields : List (Yaml × Yaml))
  /-- A part that carries an anchor. -/
  | anchored (number : Nat) (part : Yaml)
  /-- A part that stands elsewhere, at the anchor of a number. -/
  | aliasOf (number : Nat)
  deriving Repr

namespace Yaml

/-- What is read where nothing is written. -/
def empty : Yaml := .scalar ⟨[], .plain, none⟩

mutual

/-- The parts that carry an anchor, in the order of the text. -/
def anchoredParts : Yaml → List (Nat × Yaml)
  | scalar _ => []
  | sequence items => anchoredItems items
  | mapping fields => anchoredFields fields
  | anchored number part => (number, part) :: part.anchoredParts
  | aliasOf _ => []

/-- The parts of items that carry an anchor. -/
def anchoredItems : List Yaml → List (Nat × Yaml)
  | [] => []
  | item :: items => item.anchoredParts ++ anchoredItems items

/-- The parts of fields that carry an anchor. -/
def anchoredFields : List (Yaml × Yaml) → List (Nat × Yaml)
  | [] => []
  | (key, value) :: fields => key.anchoredParts ++ value.anchoredParts ++ anchoredFields fields

end

/-- A part without its anchor. -/
def withoutAnchor : Yaml → Yaml
  | anchored _ part => part
  | part => part

/-- The part that an alias stands for in a document: the last with the anchor of its number. -/
def target? (document : Yaml) (number : Nat) : Option Yaml :=
  document.anchoredParts.reverse.lookup number

/-- The scalar that a part of a document is or stands for. -/
def scalarIn? (document part : Yaml) : Option YamlScalar :=
  match part.withoutAnchor with
  | .scalar content => some content
  | .aliasOf number =>
    match document.target? number with
    | some (.scalar content) => some content
    | _ => none
  | _ => none

/-- What reads a part of a document from tokens. -/
abbrev TreeReader := List Token → Option (Yaml × List Token)

/-- A part of a document, or nothing if one of the tokens that end it comes next. -/
def readUnless? (ends : List Token) (read : TreeReader) (tokens : List Token) :
    Option (Yaml × List Token) :=
  match tokens with
  | token :: _ => if token ∈ ends then some (empty, tokens) else read tokens
  | [] => none

/-- The value behind a key; an empty one if it has none. -/
def readValueOf? (ends : List Token) (read : TreeReader) (tokens : List Token) :
    Option (Yaml × List Token) :=
  match tokens with
  | .value :: rest => readUnless? ends read rest
  | _ => some (empty, tokens)

/-- The entries of a block up to its end. The list is at most `bound` long. -/
def readBlockEntries? (read : TreeReader) (bound : Nat) (tokens : List Token) :
    Option (List Yaml × List Token) :=
  match bound, tokens with
  | bound + 1, .blockEntry :: rest => do
    let (item, rest) ← readUnless? [.blockEntry, .blockEnd] read rest
    let (items, rest) ← readBlockEntries? read bound rest
    return (item :: items, rest)
  | _, .blockEnd :: rest => some ([], rest)
  | _, _ => none

/-- The entries of a block that is not indented more than the mapping around it. -/
def readIndentlessEntries? (read : TreeReader) (bound : Nat) (tokens : List Token) :
    Option (List Yaml × List Token) :=
  match bound, tokens with
  | bound + 1, .blockEntry :: rest => do
    let (item, rest) ← readUnless? [.blockEntry, .key, .value, .blockEnd] read rest
    let (items, rest) ← readIndentlessEntries? read bound rest
    return (item :: items, rest)
  | 0, .blockEntry :: _ => none
  | _, _ => some ([], tokens)

/-- The fields of a block up to its end. The list is at most `bound` long. -/
def readBlockFields? (read : TreeReader) (bound : Nat) (tokens : List Token) :
    Option (List (Yaml × Yaml) × List Token) :=
  match bound, tokens with
  | bound + 1, .key :: rest => do
    let (key, rest) ← readUnless? [.key, .value, .blockEnd] read rest
    let (value, rest) ← readValueOf? [.key, .value, .blockEnd] read rest
    let (fields, rest) ← readBlockFields? read bound rest
    return ((key, value) :: fields, rest)
  | _, .blockEnd :: rest => some ([], rest)
  | _, _ => none

/-- A pair in brackets: a mapping of one key. -/
def readPair? (read : TreeReader) (tokens : List Token) : Option (Yaml × List Token) := do
  let (key, rest) ← match tokens with
    | token :: rest =>
      if token ∈ [Token.value, .flowEntry, .flowSequenceEnd] then some (empty, rest)
      else read tokens
    | [] => none
  let (value, rest) ← readValueOf? [.flowEntry, .flowSequenceEnd] read rest
  return (.mapping [(key, value)], rest)

/-- The items between brackets up to the closing one, with a comma in front of each but the first.
The list is at most `bound` long. -/
def readFlowItems? (read : TreeReader) (bound : Nat) (first : Bool) (tokens : List Token) :
    Option (List Yaml × List Token) :=
  match bound, tokens with
  | 0, _ => none
  | _, .flowSequenceEnd :: rest => some ([], rest)
  | bound + 1, tokens => do
    let tokens ← match first, tokens with
      | true, _ => some tokens
      | false, .flowEntry :: rest => some rest
      | false, _ => none
    match tokens with
    | .flowSequenceEnd :: rest => return ([], rest)
    | .key :: rest =>
      let (item, rest) ← readPair? read rest
      let (items, rest) ← readFlowItems? read bound false rest
      return (item :: items, rest)
    | _ =>
      let (item, rest) ← read tokens
      let (items, rest) ← readFlowItems? read bound false rest
      return (item :: items, rest)

/-- The fields between braces up to the closing one, with a comma in front of each but the first.
The list is at most `bound` long. -/
def readFlowFields? (read : TreeReader) (bound : Nat) (first : Bool) (tokens : List Token) :
    Option (List (Yaml × Yaml) × List Token) :=
  match bound, tokens with
  | 0, _ => none
  | _, .flowMappingEnd :: rest => some ([], rest)
  | bound + 1, tokens => do
    let tokens ← match first, tokens with
      | true, _ => some tokens
      | false, .flowEntry :: rest => some rest
      | false, _ => none
    match tokens with
    | .flowMappingEnd :: rest => return ([], rest)
    | .key :: rest =>
      let (key, rest) ← readUnless? [.value, .flowEntry, .flowMappingEnd] read rest
      let (value, rest) ← readValueOf? [.flowEntry, .flowMappingEnd] read rest
      let (fields, rest) ← readFlowFields? read bound false rest
      return ((key, value) :: fields, rest)
    | _ =>
      let (key, rest) ← read tokens
      let (fields, rest) ← readFlowFields? read bound false rest
      return ((key, empty) :: fields, rest)

/-- The anchor and the tag of a part. -/
structure Properties where
  /-- The number of the anchor. -/
  anchor : Option Nat := none
  /-- The tag. -/
  tag : Option Text := none

/-- The properties in front of a part, in either order, and the tokens behind them. -/
def readProperties : List Token → Properties × List Token
  | .anchor number :: .tag name :: rest => (⟨some number, some name⟩, rest)
  | .tag name :: .anchor number :: rest => (⟨some number, some name⟩, rest)
  | .anchor number :: rest => (⟨some number, none⟩, rest)
  | .tag name :: rest => (⟨none, some name⟩, rest)
  | tokens => ({}, tokens)

namespace Properties

/-- A part with the anchor of its properties. -/
def mark (properties : Properties) (part : Yaml) : Yaml :=
  match properties.anchor with
  | some number => .anchored number part
  | none => part

/-- A scalar with properties. -/
def scalar (properties : Properties) (text : Text) (style : ScalarStyle) : Yaml :=
  properties.mark (.scalar ⟨text, style, properties.tag⟩)

/-- What is read where nothing but properties is written; nothing if there are none. -/
def empty? (properties : Properties) : Option Yaml :=
  if properties.anchor.isSome || properties.tag.isSome then
    some (properties.scalar [] .plain)
  else
    none

end Properties

/-- A part of a document and the tokens behind it. `inBlock` allows blocks in it, and `indentless`
entries that are not indented. The parts inside each other are at most `depth`. -/
def readTree? (depth : Nat) (inBlock indentless : Bool) (tokens : List Token) :
    Option (Yaml × List Token) :=
  let (properties, content) := readProperties tokens
  match depth, tokens, content with
  | 0, _, _ => none
  | _, .aliasOf number :: rest, _ => some (.aliasOf number, rest)
  | _, _, .scalar text style :: rest => some (properties.scalar text style, rest)
  | depth + 1, _, .flowSequence :: rest => do
    let (items, rest) ← readFlowItems? (readTree? depth false false) tokens.length true rest
    return (properties.mark (.sequence items), rest)
  | depth + 1, _, .flowMapping :: rest => do
    let (fields, rest) ← readFlowFields? (readTree? depth false false) tokens.length true rest
    return (properties.mark (.mapping fields), rest)
  | depth + 1, _, token :: rest =>
    if inBlock ∧ token = .blockSequence then do
      let (items, rest) ← readBlockEntries? (readTree? depth true false) tokens.length rest
      return (properties.mark (.sequence items), rest)
    else if inBlock ∧ token = .blockMapping then do
      let (fields, rest) ← readBlockFields? (readTree? depth true true) tokens.length rest
      return (properties.mark (.mapping fields), rest)
    else if indentless ∧ token = .blockEntry then do
      let (items, rest) ←
        readIndentlessEntries? (readTree? depth true false) tokens.length (token :: rest)
      return (properties.mark (.sequence items), rest)
    else do
      return (← properties.empty?, token :: rest)
  | _, _, [] => do return (← properties.empty?, [])

/-- The document of some tokens, which must be the only one. Directives need the mark of its
start. -/
def ofTokens? (tokens : List Token) : Option Yaml := do
  let read := readTree? (tokens.length + 1) true false
  let (tree, rest) ← match tokens.dropWhile (· = .directive) with
    | [] => if tokens = [] then some (empty, []) else none
    | [.documentStart] => some (empty, [])
    | .documentStart :: rest =>
      readUnless? [.directive, .documentStart, .documentEnd] read rest
    | _ => read tokens
  if rest.all (· = .documentEnd) then return tree else none

/-- Reads a YAML text. -/
def parse? (text : Text) : Option Yaml :=
  tokens? text >>= ofTokens?

end Yaml

end SpanViewer
