/-!
# Text

A text is a list of characters. This file cuts texts: around the first or the last occurrence of a
pattern, at every occurrence, or where a number of bytes ends. A cut never loses a character: the
parts and the pattern between them give the text back.
-/

namespace SpanViewer

/-- A text, as the list of its characters. -/
abbrev Text := List Char

namespace Text

/-- The texts before and after the first occurrence of `pattern`. -/
def cutFirst? (text pattern : Text) : Option (Text × Text) :=
  match text with
  | [] => if pattern.isEmpty then some ([], []) else none
  | c :: rest =>
    match pattern.isPrefixOf? (c :: rest) with
    | some after => some ([], after)
    | none => (cutFirst? rest pattern).map fun (before, after) => (c :: before, after)

/-- The texts before and after the last occurrence of `pattern`. -/
def cutLast? (text pattern : Text) : Option (Text × Text) :=
  match text with
  | [] => if pattern.isEmpty then some ([], []) else none
  | c :: rest =>
    match cutLast? rest pattern with
    | some (before, after) => some (c :: before, after)
    | none => (pattern.isPrefixOf? (c :: rest)).map fun after => ([], after)

/-- A pattern stands in front of a text exactly when the text is the pattern and the rest. -/
theorem isPrefixOf?_eq_some_iff {pattern text after : Text} :
    pattern.isPrefixOf? text = some after ↔ text = pattern ++ after := by
  induction pattern generalizing text with
  | nil =>
    change some text = some after ↔ _
    simp
  | cons c pattern ih =>
    cases text with
    | nil =>
      change none = some after ↔ _
      simp
    | cons d text =>
      change (if (c == d) = true then pattern.isPrefixOf? text else none) = some after ↔ _
      by_cases h : c = d
      · simp [h, ih]
      · simp [h, Ne.symm h]

/-- A cut at the first occurrence loses nothing. -/
theorem eq_of_cutFirst? {text pattern before after : Text}
    (hcut : text.cutFirst? pattern = some (before, after)) : text = before ++ pattern ++ after := by
  induction text generalizing before with
  | nil =>
    simp only [cutFirst?, List.isEmpty_iff, Option.ite_none_right_eq_some, Option.some.injEq,
      Prod.mk.injEq] at hcut
    obtain ⟨rfl, rfl, rfl⟩ := hcut
    rfl
  | cons c rest ih =>
    simp only [cutFirst?] at hcut
    split at hcut
    · next after' hfront =>
      obtain ⟨rfl, rfl⟩ := Prod.mk.inj (Option.some.inj hcut)
      simpa using isPrefixOf?_eq_some_iff.mp hfront
    · obtain ⟨⟨before', after'⟩, hrest, heq⟩ := Option.map_eq_some_iff.mp hcut
      obtain ⟨rfl, rfl⟩ := Prod.mk.inj heq
      simp [ih hrest]

/-- What follows an occurrence of a pattern that is not empty is shorter than the text. -/
theorem length_lt_of_cutFirst? {text pattern before after : Text} (hpattern : pattern ≠ [])
    (hcut : text.cutFirst? pattern = some (before, after)) : after.length < text.length := by
  have hlength := congrArg List.length (eq_of_cutFirst? hcut)
  have hpositive := List.length_pos_iff.mpr hpattern
  simp only [List.length_append] at hlength
  omega

/-- What follows a pattern that is not empty is shorter than the text. -/
theorem length_lt_of_isPrefixOf? {text pattern after : Text} (hpattern : pattern ≠ [])
    (hfront : pattern.isPrefixOf? text = some after) : after.length < text.length := by
  have hlength := congrArg List.length (isPrefixOf?_eq_some_iff.mp hfront)
  have hpositive := List.length_pos_iff.mpr hpattern
  simp only [List.length_append] at hlength
  omega

/-- The pieces of a text between the occurrences of `pattern`, found from left to right without
overlap. An empty pattern occurs around every character. -/
def pieces (text pattern : Text) : List Text :=
  if hpattern : pattern = [] then
    [] :: text.map ([·]) ++ [[]]
  else
    match hcut : text.cutFirst? pattern with
    | none => [text]
    | some (before, after) =>
      have : after.length < text.length := length_lt_of_cutFirst? hpattern hcut
      before :: pieces after pattern
termination_by text.length

/-- Puts `replacement` in the place of every occurrence of `pattern`. -/
def replace (text pattern replacement : Text) : Text :=
  replacement.intercalate (text.pieces pattern)

/-- What remains when `pattern` is taken off the front as often as it stands there. -/
def dropRepeats (text pattern : Text) : Text :=
  if hpattern : pattern = [] then
    text
  else
    match hfront : pattern.isPrefixOf? text with
    | none => text
    | some rest =>
      have : rest.length < text.length := length_lt_of_isPrefixOf? hpattern hfront
      dropRepeats rest pattern
termination_by text.length

/-- Takes the characters of a class off the end. -/
def dropEndWhile (text : Text) (p : Char → Bool) : Text :=
  (text.reverse.dropWhile p).reverse

/-- The lines of a text: its pieces between line feeds. -/
def lines (text : Text) : List Text :=
  text.splitOn '\n'

/-- The text that has the given lines. -/
def ofLines (lines : List Text) : Text :=
  ['\n'].intercalate lines

/-- The number of spaces in front of a text. -/
def indentation (text : Text) : Nat :=
  (text.takeWhile (· = ' ')).length

/-- A text without its carriage returns. -/
def dropReturns (text : Text) : Text :=
  text.filter (· ≠ '\r')

end Text

end SpanViewer
