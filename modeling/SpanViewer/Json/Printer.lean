import SpanViewer.Json.Basic

/-!
# Writing JSON

The compact written form of a value, without blanks. Inside a string only a quote, a backslash and
the controls are escaped.
-/

namespace SpanViewer

namespace Json

/-- The digit of a number below 16. -/
def hexDigit (n : Nat) : Char :=
  Nat.digitChar n

/-- The written form of a character in a string. -/
def escapeChar (c : Char) : Text :=
  if c = '"' then ['\\', '"']
  else if c = '\\' then ['\\', '\\']
  else if c = '\x08' then ['\\', 'b']
  else if c = '\t' then ['\\', 't']
  else if c = '\n' then ['\\', 'n']
  else if c = '\x0c' then ['\\', 'f']
  else if c = '\r' then ['\\', 'r']
  else if c.toNat < 32 then
    ['\\', 'u', '0', '0', hexDigit (c.toNat / 16), hexDigit (c.toNat % 16)]
  else [c]

/-- The written form of a string. -/
def renderString (text : Text) : Text :=
  ['"'] ++ text.flatMap escapeChar ++ ['"']

end Json

/-- The written form of a number. -/
def JsonNumber.render : JsonNumber → Text
  | natural value => .ofNumber value
  | negative size => '-' :: Text.ofNumber size
  | real value => value.render

namespace Json

mutual

/-- The written form of a value. -/
def render : Json → Text
  | null => "null".toList
  | bool true => "true".toList
  | bool false => "false".toList
  | number value => value.render
  | string value => renderString value
  | array items => ['['] ++ renderItems items ++ [']']
  | object fields => ['\x7b'] ++ renderFields fields ++ ['\x7d']

/-- The written forms of values, with commas between them. -/
def renderItems : List Json → Text
  | [] => []
  | [item] => item.render
  | item :: next :: rest => item.render ++ [','] ++ renderItems (next :: rest)

/-- The written forms of fields, with commas between them. -/
def renderFields : List (Text × Json) → Text
  | [] => []
  | [(name, value)] => renderString name ++ [':'] ++ value.render
  | (name, value) :: next :: rest =>
    renderString name ++ [':'] ++ value.render ++ [','] ++ renderFields (next :: rest)

end

end Json

end SpanViewer
