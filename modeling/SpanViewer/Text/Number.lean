import SpanViewer.Text.Basic

/-!
# Numbers

Natural numbers below `2 ^ 64` in decimal. A number is read from digits alone, after at most one
plus sign; it is written without sign and without leading zeros.
-/

namespace SpanViewer

/-- Lines, columns, lengths and sequence numbers are below this bound, the number of values of 64
bits. -/
def numberBound : Nat := 18446744073709551616

namespace Text

/-- The number that a text holds, if it holds nothing else. -/
def number? (text : Text) : Option Nat :=
  let digits := match text with
    | '+' :: digits => digits
    | digits => digits
  let value := Nat.ofDigitChars 10 digits 0
  if digits ≠ [] ∧ digits.all Char.isDigit ∧ value < numberBound then some value else none

/-- The decimal digits of a number. -/
def ofNumber (number : Nat) : Text :=
  Nat.toDigits 10 number

end Text

end SpanViewer
