import SpanViewer.Text.Basic
import SpanViewer.Text.Unprintable

/-!
# Quoted text

A text between double quotes, as messages show it: a quote, a backslash and the common controls are
written with a backslash, and an unprintable character by its code point.
-/

namespace SpanViewer.Text

/-- The quoted form of one character. -/
def quoteChar (c : Char) : Text :=
  if c = '"' then ['\\', '"']
  else if c = '\\' then ['\\', '\\']
  else if c = '\n' then ['\\', 'n']
  else if c = '\r' then ['\\', 'r']
  else if c = '\t' then ['\\', 't']
  else if c.toNat = 0 then ['\\', '0']
  else if isUnprintable c then ['\\', 'u', '\x7b'] ++ Nat.toDigits 16 c.toNat ++ ['\x7d']
  else [c]

/-- A text as messages show it. -/
def quoted (text : Text) : Text :=
  ['"'] ++ text.flatMap quoteChar ++ ['"']

end SpanViewer.Text
