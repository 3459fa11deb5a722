import SpanViewer.Json.Printer
import SpanViewer.Json.Reader
import SpanViewer.Proofs.Position.Written

/-!
# Written strings and whole numbers

A string is read back from its written form, escape by escape, and so is a whole number of 64 bits.
A number ends where no character follows that could go on it.
-/

namespace SpanViewer

namespace Text

/-- Only zero is written with a zero in front. -/
theorem ofNumber_eq_of_head?_zero {number : Nat} (hzero : (ofNumber number).head? = some '0') :
    ofNumber number = ['0'] := by
  unfold ofNumber at hzero ⊢
  induction number using Nat.base_induction 10 (by decide) with
  | single digit hdigit =>
    rw [Nat.toDigits_of_lt_base hdigit] at hzero ⊢
    simpa using hzero
  | digit front digit hdigit hfront ih =>
    rw [← Nat.toDigits_append_toDigits (by decide) hfront hdigit,
      List.head?_append, Option.or_of_isSome (by simp)] at hzero
    have hvalue := Nat.ofDigitChars_ten_toDigits (n := front)
    rw [ih hzero] at hvalue
    exact absurd hvalue.symm (Nat.ne_of_gt hfront)

end Text

namespace Json

/-- Four hexadecimal digits of which the first two are zeros name a control. -/
theorem codeUnit?_hexDigit {code : Nat} (hcode : code < 32) :
    codeUnit? '0' '0' (hexDigit (code / 16)) (hexDigit (code % 16)) = some code := by
  revert code
  decide

/-- A character is written in short form, by its code, or as it is. -/
theorem escapeChar_cases (c : Char) :
    (∃ d, d ≠ 'u' ∧ shortEscape? d = some c ∧ escapeChar c = ['\\', d]) ∨
      (c.toNat < 32 ∧ escapeChar c =
        ['\\', 'u', '0', '0', hexDigit (c.toNat / 16), hexDigit (c.toNat % 16)]) ∨
      (c ≠ '"' ∧ c ≠ '\\' ∧ 32 ≤ c.toNat ∧ escapeChar c = [c]) := by
  by_cases hquote : c = '"'
  · exact Or.inl ⟨'"', by subst hquote; decide⟩
  by_cases hbackslash : c = '\\'
  · exact Or.inl ⟨'\\', by subst hbackslash; decide⟩
  by_cases hbackspace : c = '\x08'
  · exact Or.inl ⟨'b', by subst hbackspace; decide⟩
  by_cases htab : c = '\t'
  · exact Or.inl ⟨'t', by subst htab; decide⟩
  by_cases hline : c = '\n'
  · exact Or.inl ⟨'n', by subst hline; decide⟩
  by_cases hform : c = '\x0c'
  · exact Or.inl ⟨'f', by subst hform; decide⟩
  by_cases hreturn : c = '\r'
  · exact Or.inl ⟨'r', by subst hreturn; decide⟩
  simp only [escapeChar, hquote, hbackslash, hbackspace, htab, hline, hform, hreturn, if_false]
  by_cases hcontrol : c.toNat < 32
  · exact Or.inr (Or.inl ⟨hcontrol, if_pos hcontrol⟩)
  · exact Or.inr (Or.inr ⟨hquote, hbackslash, Nat.le_of_not_lt hcontrol, if_neg hcontrol⟩)

/-- A character is read back from its written form in a string. -/
theorem readString?_escapeChar (c : Char) (rest : Text) :
    readString? (escapeChar c ++ rest) =
      (readString? rest).map fun (text, after) => (c :: text, after) := by
  rcases escapeChar_cases c with
    ⟨d, hunit, hshort, hwritten⟩ | ⟨hcontrol, hwritten⟩ | ⟨hquote, hbackslash, hplain, hwritten⟩
  · have hread : readString? ('\\' :: d :: rest) =
        (readString? rest).map fun (text, after) => (c :: text, after) := by
      rw [readString?, hshort]
      · cases readString? rest <;> rfl
      · simp [hunit]
    rw [hwritten]
    exact hread
  · have hhigh : ¬ (0xD800 ≤ c.toNat ∧ c.toNat < 0xDC00) := by omega
    have hlow : ¬ (0xDC00 ≤ c.toNat ∧ c.toNat < 0xE000) := by omega
    rw [hwritten]
    simp only [List.cons_append, List.nil_append]
    rw [readString?, codeUnit?_hexDigit hcontrol]
    simp only [bind, Option.bind, if_neg hhigh, if_neg hlow, Char.ofNat_toNat]
    cases readString? rest <;> rfl
  · have hread : readString? (c :: rest) =
        (readString? rest).map fun (text, after) => (c :: text, after) := by
      rw [readString?, if_neg (not_or.mpr ⟨hbackslash, Nat.not_lt_of_le hplain⟩)]
      · cases readString? rest <;> rfl
      all_goals simp [hquote, hbackslash]
    rw [hwritten]
    exact hread

/-- A string is read back up to its closing quote. -/
theorem readString?_flatMap_escapeChar (text rest : Text) :
    readString? (text.flatMap escapeChar ++ '"' :: rest) = some (text, rest) := by
  induction text with
  | nil => rw [List.flatMap_nil, List.nil_append, readString?]
  | cons c text ih =>
    rw [List.flatMap_cons, List.append_assoc, readString?_escapeChar, ih]
    rfl

/-- No character with which a number could go on stands in front. -/
def EndsNumber (rest : Text) : Prop :=
  ∀ c ∈ rest.head?, c.isDigit = false ∧ c ≠ '.' ∧ c ≠ 'e' ∧ c ≠ 'E'

/-- A number grows with its digits. -/
theorem le_ofDigitChars (digits : Text) (number : Nat) :
    number ≤ Nat.ofDigitChars 10 digits number := by
  have hpositive : 0 < 10 ^ digits.length := Nat.pow_pos (by decide)
  calc number
    _ ≤ 10 ^ digits.length * number := Nat.le_mul_of_pos_left number hpositive
    _ ≤ 10 ^ digits.length * number + Nat.ofDigitChars 10 digits 0 := Nat.le_add_right _ _
    _ = Nat.ofDigitChars 10 digits number := Nat.ofDigitChars_eq_ofDigitChars_zero.symm

/-- Digits of a number that stays in bounds are added to the last. -/
theorem addDigits_of_lt {digits : Text} {number : Nat}
    (hbound : Nat.ofDigitChars 10 digits number < numberBound) :
    addDigits number digits = (Nat.ofDigitChars 10 digits number, digits.length, 0) := by
  induction digits generalizing number with
  | nil => simp [addDigits]
  | cons c digits ih =>
    rw [Nat.ofDigitChars_cons] at hbound ⊢
    have hnext : 10 * number + (c.toNat - '0'.toNat) < numberBound :=
      Nat.lt_of_le_of_lt (le_ofDigitChars digits _) hbound
    simp only [addDigits, if_pos hnext, ih hbound, List.length_cons]

/-- Digits end where the rest does not go on with one. -/
theorem splitDigits_append {digits rest : Text} (hdigits : ∀ c ∈ digits, c.isDigit = true)
    (hrest : EndsNumber rest) : splitDigits (digits ++ rest) = (digits, rest) := by
  have hnone : rest.takeWhile Char.isDigit = [] ∧ rest.dropWhile Char.isDigit = rest := by
    cases rest with
    | nil => simp
    | cons c rest => simp [(hrest c (by simp)).1]
  rw [splitDigits, List.takeWhile_append_of_pos hdigits, List.dropWhile_append_of_pos hdigits,
    hnone.1, hnone.2, List.append_nil]

/-- Neither a fraction nor an exponent follows. -/
theorem readFraction?_readExponent?_of_endsNumber {rest : Text} (hrest : EndsNumber rest) :
    readFraction? rest = some (none, rest) ∧ readExponent? rest = some (none, rest) := by
  cases rest with
  | nil => exact ⟨rfl, rfl⟩
  | cons c rest =>
    obtain ⟨-, hpoint, hsmall, hlarge⟩ := hrest c (by simp)
    constructor
    · rw [readFraction?]
      simp [hpoint]
    · simp [readExponent?, hsmall, hlarge]

/-- Behind its sign a whole number is read from its digits. -/
theorem readUnsigned?_ofNumber (negative : Bool) (number : Nat) {rest : Text}
    (hrest : EndsNumber rest) :
    readUnsigned? negative (.ofNumber number ++ rest) =
      (numberOfParts? negative (.ofNumber number) none none).map (·, rest) := by
  have hsplit : splitDigits (.ofNumber number ++ rest) = (.ofNumber number, rest) :=
    splitDigits_append (fun _ => Text.isDigit_of_mem_ofNumber) hrest
  have hwhole : ¬ (Text.ofNumber number = [] ∨
      (Text.ofNumber number).head? = some '0' ∧ Text.ofNumber number ≠ ['0']) := by
    rintro (hnone | ⟨hzero, hmore⟩)
    · exact Nat.toDigits_ne_nil hnone
    · exact hmore (Text.ofNumber_eq_of_head?_zero hzero)
  obtain ⟨hfraction, hexponent⟩ := readFraction?_readExponent?_of_endsNumber hrest
  simp only [readUnsigned?, hsplit, if_neg hwhole, hfraction, hexponent, bind, Option.bind]
  cases numberOfParts? negative (.ofNumber number) none none <;> rfl

end Json

/-- A whole number of 64 bits, which a value holds as such. -/
def JsonNumber.IsWhole : JsonNumber → Prop
  | natural value => value < numberBound
  | negative size => 0 < size ∧ size ≤ numberBound / 2
  | real _ => False

instance : (value : JsonNumber) → Decidable value.IsWhole
  | .natural value => inferInstanceAs (Decidable (value < numberBound))
  | .negative _ => inferInstanceAs (Decidable (_ ∧ _))
  | .real _ => inferInstanceAs (Decidable False)

namespace Json

/-- The digits of a number that is in bounds are all added up. -/
theorem addDigits_ofNumber {number : Nat} (hbound : number < numberBound) :
    addDigits 0 (.ofNumber number) = (number, (Text.ofNumber number).length, 0) := by
  have hvalue : Nat.ofDigitChars 10 (Text.ofNumber number) 0 = number :=
    Nat.ofDigitChars_ten_toDigits
  rw [addDigits_of_lt (by rwa [hvalue]), hvalue]

/-- A written whole number starts with a digit or a minus sign. -/
theorem exists_render_eq_cons_of_isWhole {value : JsonNumber} (hvalue : value.IsWhole) :
    ∃ c text, value.render = c :: text ∧ (c.isDigit = true ∨ c = '-') := by
  cases value with
  | natural value =>
    obtain ⟨c, digits, hdigits⟩ := List.exists_cons_of_ne_nil
      (show Text.ofNumber value ≠ [] from Nat.toDigits_ne_nil)
    have hdigit : c.isDigit = true :=
      Text.isDigit_of_mem_ofNumber (hdigits ▸ List.mem_cons_self)
    exact ⟨c, digits, hdigits, Or.inl hdigit⟩
  | negative size => exact ⟨'-', Text.ofNumber size, rfl, Or.inr rfl⟩
  | real value => contradiction

/-- Neither a digit nor a minus sign is any other character. -/
theorem ne_of_isDigit_or_minus {c d : Char} (hc : c.isDigit = true ∨ c = '-')
    (hd : d.isDigit = false ∧ d ≠ '-') : c ≠ d := by
  rintro rfl
  rcases hc with hdigit | hminus
  · rw [hd.1] at hdigit
    contradiction
  · exact hd.2 hminus

/-- A whole number is read back from its written form. -/
theorem readNumber?_render {value : JsonNumber} (hvalue : value.IsWhole) {rest : Text}
    (hrest : EndsNumber rest) : readNumber? (value.render ++ rest) = some (value, rest) := by
  cases value with
  | natural value =>
    have hparts : numberOfParts? false (.ofNumber value) none none = some (.natural value) := by
      simp [numberOfParts?, addDigits_ofNumber hvalue]
    have hsign (after : Text) : Text.ofNumber value ++ rest ≠ '-' :: after := by
      intro hminus
      obtain ⟨c, digits, hdigits⟩ := List.exists_cons_of_ne_nil
        (show Text.ofNumber value ≠ [] from Nat.toDigits_ne_nil)
      rw [hdigits, List.cons_append] at hminus
      obtain ⟨rfl, -⟩ := List.cons.inj hminus
      have hdigit := Text.isDigit_of_mem_ofNumber (hdigits ▸ List.mem_cons_self)
      contradiction
    rw [JsonNumber.render, readNumber?, readUnsigned?_ofNumber false value hrest, hparts]
    · rfl
    · exact hsign
  | negative size =>
    obtain ⟨hpositive, hbound⟩ := hvalue
    have hsize : size < numberBound := Nat.lt_of_le_of_lt hbound (by decide)
    have hsmall : ¬ (size = 0 ∨ numberBound / 2 < size) := by omega
    have hparts : numberOfParts? true (.ofNumber size) none none = some (.negative size) := by
      simp only [numberOfParts?, addDigits_ofNumber hsize, addDigits, Option.getD_none]
      simp [hsmall]
    rw [JsonNumber.render, List.cons_append, readNumber?,
      readUnsigned?_ofNumber true size hrest, hparts]
    rfl
  | real value => contradiction

end Json

end SpanViewer
