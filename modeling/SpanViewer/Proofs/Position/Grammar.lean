import SpanViewer.Position
import SpanViewer.Proofs.Outcome
import SpanViewer.Proofs.Text.Occurrence
import SpanViewer.Proofs.Text.Trim

/-!
# The grammar of positions

A position is written as four numbers with colons and a comma between them. A number may have a plus
sign, zeros in front of it and blanks on both sides. Reading accepts what is written so, if the four
numbers are a valid span, and nothing else.
-/

namespace SpanViewer

/-- A digit is one of the characters from 0 to 9. -/
theorem toNat_of_isDigit {c : Char} (hdigit : c.isDigit = true) : 48 ≤ c.toNat ∧ c.toNat ≤ 57 := by
  simpa [Char.isDigit, UInt32.le_iff_toNat_le] using hdigit

/-- A digit is not blank. -/
theorem isBlank_of_isDigit {c : Char} (hdigit : c.isDigit = true) : isBlank c = false := by
  obtain ⟨hlow, hhigh⟩ := toNat_of_isDigit hdigit
  simp [isBlank, blankRanges]
  omega

namespace Text

/-- The digits of a number that is small enough. Zeros may stand in front. -/
structure IsDigits (digits : Text) (number : Nat) : Prop where
  /-- There is a digit. -/
  ne_nil : digits ≠ []
  /-- There is nothing but digits. -/
  isDigit : ∀ c ∈ digits, c.isDigit = true
  /-- The number is what the digits stand for. -/
  value : Nat.ofDigitChars 10 digits 0 = number
  /-- The number has no more than 64 bits. -/
  bound : number < numberBound

/-- What may be written for a number. -/
inductive IsNumeral (number : Nat) : Text → Prop
  /-- Digits alone. -/
  | plain {digits : Text} (hdigits : IsDigits digits number) : IsNumeral number digits
  /-- Digits behind a plus sign. -/
  | signed {digits : Text} (hdigits : IsDigits digits number) : IsNumeral number ('+' :: digits)

variable {number : Nat} {text : Text}

/-- The numbers that can be written are small enough. -/
theorem IsNumeral.bound (hnumeral : IsNumeral number text) : number < numberBound := by
  cases hnumeral with
  | plain hdigits => exact hdigits.bound
  | signed hdigits => exact hdigits.bound

/-- A numeral is made of digits and plus signs. -/
theorem IsNumeral.mem (hnumeral : IsNumeral number text) {c : Char} (hc : c ∈ text) :
    c.isDigit = true ∨ c = '+' := by
  cases hnumeral with
  | plain hdigits => exact .inl (hdigits.isDigit c hc)
  | signed hdigits =>
    rcases List.mem_cons.mp hc with rfl | hc
    · exact .inr rfl
    · exact .inl (hdigits.isDigit c hc)

/-- Nothing in a numeral is blank. -/
theorem IsNumeral.not_blank (hnumeral : IsNumeral number text) : ∀ c ∈ text, isBlank c = false := by
  intro c hc
  rcases hnumeral.mem hc with hdigit | rfl
  · exact isBlank_of_isDigit hdigit
  · decide

/-- The digits of a number, as they are checked. -/
theorem isDigits_iff {digits : Text} :
    IsDigits digits number ↔
      (digits ≠ [] ∧ digits.all Char.isDigit = true ∧ Nat.ofDigitChars 10 digits 0 < numberBound) ∧
        Nat.ofDigitChars 10 digits 0 = number := by
  constructor
  · rintro ⟨hne, hall, rfl, hbound⟩
    exact ⟨⟨hne, List.all_eq_true.mpr hall, hbound⟩, rfl⟩
  · rintro ⟨⟨hne, hall, hbound⟩, rfl⟩
    exact ⟨hne, List.all_eq_true.mp hall, rfl, hbound⟩

/-- A text is read as a number exactly if it is a numeral of it. -/
theorem number?_eq_some_iff : text.number? = some number ↔ IsNumeral number text := by
  by_cases hsign : ∃ digits, text = '+' :: digits
  · obtain ⟨digits, rfl⟩ := hsign
    rw [number?, Option.ite_none_right_eq_some, Option.some.injEq, ← isDigits_iff]
    refine ⟨.signed, fun hnumeral => ?_⟩
    cases hnumeral with
    | plain hdigits =>
      have hplus := hdigits.isDigit '+' List.mem_cons_self
      contradiction
    | signed hdigits => exact hdigits
  · have hunsigned (digits : Text) (htext : text = '+' :: digits) : False := hsign ⟨digits, htext⟩
    rw [number?, Option.ite_none_right_eq_some, Option.some.injEq, ← isDigits_iff]
    · refine ⟨.plain, fun hnumeral => ?_⟩
      cases hnumeral with
      | plain hdigits => exact hdigits
      | signed hdigits => exact absurd rfl (hunsigned _)
    · exact hunsigned

end Text

namespace Position

/-- A numeral with blanks around it. -/
def IsField (text : Text) (number : Nat) : Prop :=
  ∃ front numeral back, text = front ++ numeral ++ back ∧ Text.IsNumeral number numeral ∧
    (∀ c ∈ front, isBlank c = true) ∧ ∀ c ∈ back, isBlank c = true

/-- What may be written for a start or an end: a line and a column, with a colon between them. -/
def IsBound (text : Text) (line column : Nat) : Prop :=
  ∃ front back, text = front ++ [':'] ++ back ∧ IsField front line ∧ IsField back column

/-- What may be written for a position: a start and an end, with a comma between them. -/
def IsWritten (text : Text) (p : Position) : Prop :=
  ∃ start stop, text = start ++ [','] ++ stop ∧ IsBound start p.line p.column ∧
    IsBound stop p.endLine p.endColumn

variable {text : Text} {number line column : Nat} {p : Position}

/-- The numbers of fields are small enough. -/
theorem IsField.bound (hfield : IsField text number) : number < numberBound := by
  obtain ⟨front, numeral, back, -, hnumeral, -⟩ := hfield
  exact hnumeral.bound

/-- No separator stands in a field. -/
theorem IsField.not_mem (hfield : IsField text number) {c : Char} (hblank : isBlank c = false)
    (hdigit : c.isDigit = false) (hplus : c ≠ '+') : c ∉ text := by
  obtain ⟨front, numeral, back, rfl, hnumeral, hfront, hback⟩ := hfield
  have hnone : c ∉ numeral := by
    intro hc
    rcases hnumeral.mem hc with hother | hother
    · simp [hother] at hdigit
    · exact hplus hother
  have haround {blanks : Text} (hblanks : ∀ d ∈ blanks, isBlank d = true) : c ∉ blanks := by
    intro hc
    simp [hblanks c hc] at hblank
  simp [hnone, haround hfront, haround hback]

/-- A line or a column is read exactly from a field. -/
theorem parseNumber_eq_ok_iff : parseNumber text = .ok number ↔ IsField text number := by
  constructor
  · intro hparse
    obtain ⟨front, back, htext, hfront, hback⟩ := text.exists_eq_append_trim
    unfold parseNumber at hparse
    cases hnumber : text.trim.number? with
    | none =>
      rw [hnumber] at hparse
      contradiction
    | some value =>
      rw [hnumber] at hparse
      obtain rfl := Except.ok.inj hparse
      exact ⟨front, _, back, htext, Text.number?_eq_some_iff.mp hnumber, hfront, hback⟩
  · rintro ⟨front, numeral, back, rfl, hnumeral, hfront, hback⟩
    rw [parseNumber, Text.trim_append_right _ hback, Text.trim_append_left hfront,
      Text.trim_of_not_blank hnumeral.not_blank, Text.number?_eq_some_iff.mpr hnumeral]

/-- Blanks in front of a field belong to it. -/
theorem isField_append_left_iff {blanks : Text} (hblanks : ∀ c ∈ blanks, isBlank c = true) :
    IsField (blanks ++ text) number ↔ IsField text number := by
  rw [← parseNumber_eq_ok_iff, ← parseNumber_eq_ok_iff, parseNumber, parseNumber,
    Text.trim_append_left hblanks]

/-- Blanks behind a field belong to it. -/
theorem isField_append_right_iff {blanks : Text} (hblanks : ∀ c ∈ blanks, isBlank c = true) :
    IsField (text ++ blanks) number ↔ IsField text number := by
  rw [← parseNumber_eq_ok_iff, ← parseNumber_eq_ok_iff, parseNumber, parseNumber,
    Text.trim_append_right text hblanks]

/-- A start or an end is read exactly from its written form. -/
theorem parseBound_eq_ok_iff :
    parseBound text = .ok (line, column) ↔ IsBound text line column := by
  constructor
  · intro hparse
    unfold parseBound at hparse
    split at hparse
    · contradiction
    · next front back hcut =>
      obtain ⟨line', hline, hparse⟩ := exists_of_bind_eq_ok hparse
      obtain ⟨column', hcolumn, hparse⟩ := exists_of_bind_eq_ok hparse
      obtain ⟨rfl, rfl⟩ := Prod.mk.inj (Except.ok.inj hparse)
      exact ⟨front, back, Text.eq_of_cutFirst? hcut, parseNumber_eq_ok_iff.mp hline,
        parseNumber_eq_ok_iff.mp hcolumn⟩
  · rintro ⟨front, back, rfl, hline, hcolumn⟩
    have hcolon : ':' ∉ front := hline.not_mem (by decide) (by decide) (by decide)
    have hcut : (front ++ [':'] ++ back).cutFirst? [':'] = some (front, back) := by
      rw [List.append_assoc]
      exact Text.cutFirst?_of_not_mem hcolon back
    rw [parseBound, hcut]
    simp [parseNumber_eq_ok_iff.mpr hline, parseNumber_eq_ok_iff.mpr hcolumn, bind, Except.bind,
      pure, Except.pure]

/-- Blanks behind a text do not change what is read from it. -/
theorem parse_append_right (text : Text) {blanks : Text}
    (hblanks : ∀ c ∈ blanks, isBlank c = true) : parse (text ++ blanks) = parse text := by
  unfold parse
  rw [Text.trim_append_right text hblanks]

/-- What is read as a position, without the blanks at its ends, is a written form of it. -/
theorem isWritten_of_parse (hparse : parse text = .ok p) : IsWritten text.trim p ∧ p.Valid := by
  unfold parse at hparse
  split at hparse
  · contradiction
  · next start stop hcut =>
    obtain ⟨⟨line, column⟩, hstart, hparse⟩ := exists_of_bind_eq_ok hparse
    obtain ⟨⟨endLine, endColumn⟩, hstop, hparse⟩ := exists_of_bind_eq_ok hparse
    simp only at hparse
    split at hparse
    · next hvalid =>
      obtain rfl := Except.ok.inj hparse
      exact ⟨⟨start, stop, Text.eq_of_cutFirst? hcut, parseBound_eq_ok_iff.mp hstart,
        parseBound_eq_ok_iff.mp hstop⟩, hvalid⟩
    · contradiction

/-- A valid position is read from its written forms, with blanks at both ends or without. -/
theorem parse_of_isWritten (hwritten : IsWritten text.trim p) (hvalid : p.Valid) :
    parse text = .ok p := by
  obtain ⟨start, stop, htext, hstart, hstop⟩ := hwritten
  have hcomma : ',' ∉ start := by
    obtain ⟨line, column, rfl, hline, hcolumn⟩ := hstart
    have hnone {text : Text} {number : Nat} (hfield : IsField text number) : ',' ∉ text :=
      hfield.not_mem (by decide) (by decide) (by decide)
    simp [hnone hline, hnone hcolumn]
  have hcut : (start ++ [','] ++ stop).cutFirst? [','] = some (start, stop) := by
    rw [List.append_assoc]
    exact Text.cutFirst?_of_not_mem hcomma stop
  rw [parse, htext, hcut]
  simp [parseBound_eq_ok_iff.mpr hstart, parseBound_eq_ok_iff.mpr hstop, bind, Except.bind, pure,
    Except.pure, hvalid]

/-- A field without the blanks in front of it is a field of the same number. -/
theorem isField_dropWhile_iff : IsField (text.dropWhile isBlank) number ↔ IsField text number := by
  have hblanks : ∀ c ∈ text.takeWhile isBlank, isBlank c = true :=
    fun _ hc => List.mem_takeWhile_imp hc
  rw [← isField_append_left_iff hblanks, List.takeWhile_append_dropWhile]

/-- A field without the blanks behind it is a field of the same number. -/
theorem isField_trimEnd_iff : IsField text.trimEnd number ↔ IsField text number := by
  obtain ⟨blanks, htext, hblanks⟩ := text.exists_eq_dropEndWhile_append isBlank
  have hfield : IsField (text.trimEnd ++ blanks) number ↔ IsField text.trimEnd number :=
    isField_append_right_iff hblanks
  rw [Text.trimEnd, ← htext] at hfield
  exact hfield.symm

/-- Blanks at the ends of a written form belong to its first and its last field. -/
theorem isWritten_trim_iff : IsWritten text.trim p ↔ IsWritten text p := by
  constructor
  · rintro ⟨_, _, htrim, ⟨line, column, rfl, hline, hcolumn⟩,
      ⟨endLine, endColumn, rfl, hendLine, hendColumn⟩⟩
    obtain ⟨front, back, htext, hfront, hback⟩ := text.exists_eq_append_trim
    rw [htrim] at htext
    refine ⟨front ++ line ++ [':'] ++ column, endLine ++ [':'] ++ (endColumn ++ back),
      by simp [htext], ⟨_, _, rfl, ?_, hcolumn⟩, ⟨_, _, rfl, hendLine, ?_⟩⟩
    · exact (isField_append_left_iff hfront).mpr hline
    · exact (isField_append_right_iff hback).mpr hendColumn
  · rintro ⟨_, _, rfl, ⟨line, column, rfl, hline, hcolumn⟩,
      ⟨endLine, endColumn, rfl, hendLine, hendColumn⟩⟩
    refine ⟨line.dropWhile isBlank ++ [':'] ++ column, endLine ++ [':'] ++ endColumn.trimEnd, ?_,
      ⟨_, _, rfl, isField_dropWhile_iff.mpr hline, hcolumn⟩,
      ⟨_, _, rfl, hendLine, isField_trimEnd_iff.mpr hendColumn⟩⟩
    have hcolon : isBlank ':' = false := by decide
    have hfront :=
      Text.trim_append_cons line (column ++ ',' :: (endLine ++ ':' :: endColumn)) hcolon
    have hback := Text.dropEndWhile_append_cons (column ++ ',' :: endLine) endColumn hcolon
    simp only [Text.trimEnd, List.append_assoc, List.cons_append, List.nil_append] at hfront hback ⊢
    rw [hfront, hback]

/-- **Reading accepts the grammar of positions.** A text is read as a position exactly if it is a
written form of it and the position is unmapped or a span that starts on a line and does not end
before its start. -/
theorem parse_eq_ok_iff : parse text = .ok p ↔ IsWritten text p ∧ p.Valid := by
  rw [← isWritten_trim_iff]
  exact ⟨isWritten_of_parse, fun ⟨hwritten, hvalid⟩ => parse_of_isWritten hwritten hvalid⟩

example : parse " +2 : 004,\t5 :1 \r".toList = .ok ⟨2, 4, 5, 1⟩ := by
  decide +kernel

end Position

end SpanViewer
