import SpanViewer.Json.Basic

/-!
# Reading JSON

A text is one value with blanks around it and nothing else. Numbers that are too large, halves of
surrogate pairs, controls inside strings and values nested too deeply are refused.
-/

namespace SpanViewer.Json

/-- The number of arrays and objects that may stand inside each other. -/
def depthLimit : Nat := 127

/-- What follows the blanks in front of a text. -/
def skipBlanks (text : Text) : Text :=
  text.dropWhile fun c => c = ' ' || c = '\t' || c = '\n' || c = '\r'

/-- The value of a hexadecimal digit. -/
def hexValue? (c : Char) : Option Nat :=
  if '0' ≤ c ∧ c ≤ '9' then some (c.toNat - '0'.toNat)
  else if 'a' ≤ c ∧ c ≤ 'f' then some (c.toNat - 'a'.toNat + 10)
  else if 'A' ≤ c ∧ c ≤ 'F' then some (c.toNat - 'A'.toNat + 10)
  else none

/-- The code unit of four hexadecimal digits. -/
def codeUnit? (a b c d : Char) : Option Nat := do
  return (← hexValue? a) * 4096 + (← hexValue? b) * 256 + (← hexValue? c) * 16 + (← hexValue? d)

/-- The character that follows a backslash in short form. -/
def shortEscape? (c : Char) : Option Char :=
  if c = '"' ∨ c = '\\' ∨ c = '/' then some c
  else if c = 'b' then some '\x08'
  else if c = 'f' then some '\x0c'
  else if c = 'n' then some '\n'
  else if c = 'r' then some '\r'
  else if c = 't' then some '\t'
  else none

/-- The rest of a string behind its opening quote, and what follows the closing quote. -/
def readString? : Text → Option (Text × Text)
  | '"' :: rest => some ([], rest)
  | '\\' :: 'u' :: a :: b :: c :: d :: rest => do
    let unit ← codeUnit? a b c d
    if 0xD800 ≤ unit ∧ unit < 0xDC00 then
      match rest with
      | '\\' :: 'u' :: a :: b :: c :: d :: rest =>
        let low ← codeUnit? a b c d
        if 0xDC00 ≤ low ∧ low < 0xE000 then
          let (text, after) ← readString? rest
          return (Char.ofNat (0x10000 + (unit - 0xD800) * 0x400 + (low - 0xDC00)) :: text, after)
        else
          none
      | _ => none
    else if 0xDC00 ≤ unit ∧ unit < 0xE000 then
      none
    else
      let (text, after) ← readString? rest
      return (Char.ofNat unit :: text, after)
  | '\\' :: c :: rest => do
    let escaped ← shortEscape? c
    let (text, after) ← readString? rest
    return (escaped :: text, after)
  | c :: rest =>
    if c = '\\' ∨ c.toNat < 32 then
      none
    else do
      let (text, after) ← readString? rest
      return (c :: text, after)
  | [] => none

/-- The digits in front of a text and what follows them. -/
def splitDigits (text : Text) : Text × Text :=
  (text.takeWhile Char.isDigit, text.dropWhile Char.isDigit)

/-- Adds digits to a number for as long as it stays in bounds: the number, how many digits were
added, and how many were left. -/
def addDigits (number : Nat) : Text → Nat × Nat × Nat
  | [] => (number, 0, 0)
  | c :: rest =>
    let next := 10 * number + (c.toNat - '0'.toNat)
    if next < numberBound then
      let (total, added, left) := addDigits next rest
      (total, added + 1, left)
    else
      (number, 0, rest.length + 1)

/-- The exponent of a number and what follows it; 0 if there is none. -/
def readExponent? (text : Text) : Option (Option Int × Text) :=
  match text with
  | c :: rest =>
    if c = 'e' ∨ c = 'E' then
      let (sign, rest) := match rest with
        | '+' :: rest => (1, rest)
        | '-' :: rest => (-1, rest)
        | rest => (1, rest)
      let (digits, rest) := splitDigits rest
      if digits = [] then none else some (some (sign * Nat.ofDigitChars 10 digits 0), rest)
    else
      some (none, text)
  | [] => some (none, text)

/-- The fraction of a number and what follows it. -/
def readFraction? (text : Text) : Option (Option Text × Text) :=
  match text with
  | '.' :: rest =>
    let (digits, rest) := splitDigits rest
    if digits = [] then none else some (some digits, rest)
  | _ => some (none, text)

/-- The number with the given parts. Digits that do not fit into 64 bits are dropped. -/
def numberOfParts? (negative : Bool) (whole : Text) (fraction : Option Text)
    (exponent : Option Int) : Option JsonNumber := do
  let (value, _, left) := addDigits 0 whole
  let (significand, added, _) := addDigits value (fraction.getD [])
  let real := do
    return .real (← Binary64.ofDecimal? negative significand (exponent.getD 0 + left - added))
  if left = 0 ∧ fraction = none ∧ exponent = none then
    if !negative then return .natural value
    else if value = 0 ∨ numberBound / 2 < value then real
    else return .negative value
  else
    real

/-- A number behind its sign, and what follows it. -/
def readUnsigned? (negative : Bool) (text : Text) : Option (JsonNumber × Text) := do
  let (whole, rest) := splitDigits text
  if whole = [] ∨ whole.head? = some '0' ∧ whole ≠ ['0'] then none
  let (fraction, rest) ← readFraction? rest
  let (exponent, rest) ← readExponent? rest
  return (← numberOfParts? negative whole fraction exponent, rest)

/-- A number in front of a text, and what follows it. -/
def readNumber? (text : Text) : Option (JsonNumber × Text) :=
  match text with
  | '-' :: rest => readUnsigned? true rest
  | _ => readUnsigned? false text

/-- The items of an array up to its end, where `item?` reads one of them. The list of items is at
most `bound` long. -/
def readItems? (item? : Text → Option (Json × Text)) (bound : Nat) (text : Text) :
    Option (List Json × Text) :=
  match bound with
  | 0 => none
  | bound + 1 => do
    let (item, rest) ← item? (skipBlanks text)
    match skipBlanks rest with
    | ',' :: rest =>
      let (items, after) ← readItems? item? bound rest
      return (item :: items, after)
    | ']' :: after => return ([item], after)
    | _ => none

/-- A field of an object, where `item?` reads its value. -/
def readField? (item? : Text → Option (Json × Text)) (text : Text) :
    Option ((Text × Json) × Text) :=
  match skipBlanks text with
  | '"' :: rest => do
    let (name, rest) ← readString? rest
    match skipBlanks rest with
    | ':' :: rest =>
      let (value, rest) ← item? (skipBlanks rest)
      return ((name, value), rest)
    | _ => none
  | _ => none

/-- The fields of an object up to its end. The list of fields is at most `bound` long. -/
def readFields? (item? : Text → Option (Json × Text)) (bound : Nat) (text : Text) :
    Option (List (Text × Json) × Text) :=
  match bound with
  | 0 => none
  | bound + 1 => do
    let (field, rest) ← readField? item? text
    match skipBlanks rest with
    | ',' :: rest =>
      let (fields, after) ← readFields? item? bound rest
      return (field :: fields, after)
    | '\x7d' :: after => return ([field], after)
    | _ => none

/-- The fields of an object behind its opening brace, and what follows the closing brace. -/
def readObject? (item? : Text → Option (Json × Text)) (text : Text) :
    Option (List (Text × Json) × Text) :=
  match skipBlanks text with
  | '\x7d' :: after => some ([], after)
  | _ => readFields? item? text.length text

/-- The items of an array behind its opening bracket, and what follows the closing bracket. -/
def readArray? (item? : Text → Option (Json × Text)) (text : Text) : Option (List Json × Text) :=
  match skipBlanks text with
  | ']' :: after => some ([], after)
  | _ => readItems? item? text.length text

/-- A value that is neither an array nor an object, and what follows it. -/
def readScalar? (text : Text) : Option (Json × Text) :=
  match text with
  | '"' :: rest => do
    let (value, rest) ← readString? rest
    return (.string value, rest)
  | 'n' :: 'u' :: 'l' :: 'l' :: rest => some (.null, rest)
  | 't' :: 'r' :: 'u' :: 'e' :: rest => some (.bool true, rest)
  | 'f' :: 'a' :: 'l' :: 's' :: 'e' :: rest => some (.bool false, rest)
  | _ => do
    let (value, rest) ← readNumber? text
    return (.number value, rest)

/-- A value in front of a text with at most `depth` arrays and objects inside each other, and what
follows it. -/
def readValue? (depth : Nat) (text : Text) : Option (Json × Text) :=
  match depth, text with
  | depth + 1, '[' :: rest => do
    let (items, rest) ← readArray? (readValue? depth) rest
    return (.array items, rest)
  | depth + 1, '\x7b' :: rest => do
    let (fields, rest) ← readObject? (readValue? depth) rest
    return (ofFields fields, rest)
  | _, text => readScalar? text

/-- The value that a text holds. -/
def parseValue? (text : Text) : Option Json := do
  let (value, rest) ← readValue? depthLimit (skipBlanks text)
  if skipBlanks rest = [] then return value else none

/-- The fields of the object that a text holds, as they stand there: in their order, and with
repeated names. -/
def parseFields? (text : Text) : Option (List (Text × Json)) :=
  match skipBlanks text with
  | '\x7b' :: rest => do
    let (fields, rest) ← readObject? (readValue? (depthLimit - 1)) rest
    if skipBlanks rest = [] then return fields else none
  | _ => none

end SpanViewer.Json
