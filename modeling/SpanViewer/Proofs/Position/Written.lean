import SpanViewer.Proofs.Position.Grammar

/-!
# Written positions

A valid position whose numbers are small enough is read back from its written form, in which digits
stand between colons and a comma and nothing needs to be trimmed. No other position is ever read.
-/

namespace SpanViewer

/-- All numbers of a position can be read. -/
def Position.Bounded (p : Position) : Prop :=
  p.line < numberBound ∧ p.column < numberBound ∧ p.endLine < numberBound ∧
    p.endColumn < numberBound

instance (p : Position) : Decidable p.Bounded :=
  inferInstanceAs (Decidable (_ ∧ _))

namespace Text

/-- A number is written in digits. -/
theorem isDigit_of_mem_ofNumber {number : Nat} {c : Char} (hc : c ∈ ofNumber number) :
    c.isDigit = true :=
  Nat.isDigit_of_mem_toDigits (by decide) (by decide) hc

/-- A character that is no digit does not stand in a written number. -/
theorem not_mem_ofNumber {number : Nat} {c : Char} (hc : c.isDigit = false) :
    c ∉ ofNumber number := by
  intro hmem
  rw [isDigit_of_mem_ofNumber hmem] at hc
  contradiction

/-- A number that is small enough is written as a numeral of it. -/
theorem isNumeral_ofNumber {number : Nat} (hbound : number < numberBound) :
    IsNumeral number (ofNumber number) :=
  .plain ⟨Nat.toDigits_ne_nil, fun _ => isDigit_of_mem_ofNumber, Nat.ofDigitChars_ten_toDigits,
    hbound⟩

/-- A number that is small enough is read back from its digits. -/
theorem number?_ofNumber {number : Nat} (hbound : number < numberBound) :
    number? (ofNumber number) = some number :=
  number?_eq_some_iff.mpr (isNumeral_ofNumber hbound)

end Text

namespace Position

/-- A line or a column is written as a field without blanks. -/
theorem isField_ofNumber {number : Nat} (hbound : number < numberBound) :
    IsField (.ofNumber number) number :=
  ⟨[], _, [], by simp, Text.isNumeral_ofNumber hbound, List.forall_mem_nil _, List.forall_mem_nil _⟩

/-- A position is written by the grammar. -/
theorem isWritten_render {p : Position} (hbound : p.Bounded) : IsWritten p.render p := by
  obtain ⟨hline, hcolumn, hendLine, hendColumn⟩ := hbound
  exact ⟨_, _, rfl, ⟨_, _, rfl, isField_ofNumber hline, isField_ofNumber hcolumn⟩,
    ⟨_, _, rfl, isField_ofNumber hendLine, isField_ofNumber hendColumn⟩⟩

/-- The characters of a written position are digits, colons and commas. -/
theorem mem_render {p : Position} {c : Char} (hc : c ∈ p.render) :
    c.isDigit = true ∨ c = ':' ∨ c = ',' := by
  simp only [render, renderBound, List.mem_append, List.mem_singleton] at hc
  rcases hc with (((hc | hc) | hc) | hc) | ((hc | hc) | hc)
  · exact Or.inl (Text.isDigit_of_mem_ofNumber hc)
  · exact Or.inr (Or.inl hc)
  · exact Or.inl (Text.isDigit_of_mem_ofNumber hc)
  · exact Or.inr (Or.inr hc)
  · exact Or.inl (Text.isDigit_of_mem_ofNumber hc)
  · exact Or.inr (Or.inl hc)
  · exact Or.inl (Text.isDigit_of_mem_ofNumber hc)

/-- Nothing in a written position is blank. -/
theorem isBlank_of_mem_render {p : Position} {c : Char} (hc : c ∈ p.render) :
    isBlank c = false := by
  rcases mem_render hc with hdigit | rfl | rfl
  · exact isBlank_of_isDigit hdigit
  · decide
  · decide

/-- A valid position is read back from its written form. -/
theorem parse_render {p : Position} (hvalid : p.Valid) (hbound : p.Bounded) :
    parse p.render = .ok p :=
  parse_of_isWritten (isWritten_trim_iff.mpr (isWritten_render hbound)) hvalid

/-- What can be read as a position: a valid one of numbers that are small enough. -/
def Readable (p : Position) : Prop :=
  p.Valid ∧ p.Bounded

instance (p : Position) : Decidable p.Readable :=
  inferInstanceAs (Decidable (_ ∧ _))

/-- Four zeros can be read. -/
theorem readable_unmapped : unmapped.Readable := by
  decide

/-- The numbers of a written position are small enough. -/
theorem IsWritten.bounded {text : Text} {p : Position} (hwritten : IsWritten text p) :
    p.Bounded := by
  obtain ⟨start, stop, -, ⟨line, column, -, hline, hcolumn⟩,
    ⟨endLine, endColumn, -, hendLine, hendColumn⟩⟩ := hwritten
  exact ⟨hline.bound, hcolumn.bound, hendLine.bound, hendColumn.bound⟩

/-- What is read as a position is readable. -/
theorem readable_of_parse {text : Text} {p : Position} (hparse : parse text = .ok p) :
    p.Readable := by
  obtain ⟨hwritten, hvalid⟩ := isWritten_of_parse hparse
  exact ⟨hvalid, hwritten.bounded⟩

/-- The readable positions are those that are read back from their written form. -/
theorem readable_iff_parse_render {p : Position} : p.Readable ↔ parse p.render = .ok p :=
  ⟨fun ⟨hvalid, hbound⟩ => parse_render hvalid hbound, readable_of_parse⟩

end Position

end SpanViewer
