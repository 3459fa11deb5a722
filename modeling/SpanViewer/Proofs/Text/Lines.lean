import SpanViewer.Text.Basic

/-!
# Lines of a text

A text and the list of its lines determine each other. Two runs of lines that are written one
behind the other meet in one line, made of the last line of the first run and the first line of the
second: this is what a cut inside of a line leaves behind.
-/

namespace SpanViewer.Text

/-- No lines make the empty text. -/
@[simp] theorem ofLines_nil : ofLines [] = [] := rfl

/-- A separator stands in front of every text but the first. -/
theorem intercalate_cons (separator text : Text) (rest : List Text) :
    separator.intercalate (text :: rest) = text ++ rest.flatMap (separator ++ ·) := by
  induction rest generalizing text with
  | nil => simp
  | cons next rest ih =>
    rw [List.intercalate_cons_cons, ih, List.flatMap_cons, List.append_assoc, List.append_assoc]

/-- A line feed stands in front of every line but the first. -/
theorem ofLines_cons (line : Text) (rest : List Text) :
    ofLines (line :: rest) = line ++ rest.flatMap ('\n' :: ·) := by
  rw [ofLines, intercalate_cons]
  rfl

/-- A line feed stands between two lines. -/
theorem ofLines_cons_cons (line next : Text) (rest : List Text) :
    ofLines (line :: next :: rest) = line ++ '\n' :: ofLines (next :: rest) := by
  rw [ofLines, List.intercalate_cons_cons, List.append_assoc]
  rfl

/-- One line is a text of its own. -/
@[simp] theorem ofLines_singleton (line : Text) : ofLines [line] = line := by
  simp [ofLines_cons]

/-- The text of two runs of lines meets in the line where the first run ends. -/
theorem ofLines_append_ofLines (above : List Text) (head tail : Text) (below : List Text) :
    ofLines (above ++ [head]) ++ ofLines (tail :: below) =
      ofLines (above ++ (head ++ tail) :: below) := by
  cases above <;> simp [ofLines_cons]

/-- A line feed stands between two runs of lines. -/
theorem ofLines_append {above below : List Text} (habove : above ≠ []) (hbelow : below ≠ []) :
    ofLines (above ++ below) = ofLines above ++ '\n' :: ofLines below := by
  obtain ⟨first, above, rfl⟩ := List.exists_cons_of_ne_nil habove
  obtain ⟨next, below, rfl⟩ := List.exists_cons_of_ne_nil hbelow
  simp [ofLines_cons]

/-- Only no lines at all and one empty line make the empty text. -/
theorem ofLines_eq_nil_iff {lines : List Text} :
    ofLines lines = [] ↔ lines = [] ∨ lines = [[]] := by
  rcases lines with _ | ⟨line, _ | ⟨next, rest⟩⟩ <;> simp [ofLines_cons]

/-- A character of intercalated texts stands in the separator or in one of the texts. -/
theorem mem_intercalate {separator : Text} {texts : List Text} {c : Char}
    (hc : c ∈ separator.intercalate texts) : c ∈ separator ∨ ∃ text ∈ texts, c ∈ text := by
  induction texts with
  | nil => contradiction
  | cons text texts ih =>
    cases texts with
    | nil => exact Or.inr ⟨text, by simp, by simpa using hc⟩
    | cons next texts =>
      simp only [List.intercalate_cons_cons, List.mem_append] at hc
      rcases hc with (hfirst | hseparator) | hrest
      · exact Or.inr ⟨text, by simp, hfirst⟩
      · exact Or.inl hseparator
      · rcases ih hrest with hseparator | ⟨other, hother, hmem⟩
        · exact Or.inl hseparator
        · exact Or.inr ⟨other, by simp [hother], hmem⟩

/-- The lines that a text was made of are read back from it. -/
theorem lines_ofLines {lines : List Text} (hlines : lines ≠ []) (hfeed : ∀ l ∈ lines, '\n' ∉ l) :
    (ofLines lines).lines = lines :=
  List.splitOn_intercalate '\n' hfeed hlines

/-- A text is made of its lines. -/
theorem ofLines_lines (text : Text) : ofLines text.lines = text :=
  List.intercalate_splitOn '\n'

/-- Texts are equal exactly if they have the same lines. -/
theorem eq_iff_lines_eq {text other : Text} : text = other ↔ text.lines = other.lines := by
  constructor
  · exact congrArg lines
  · intro hlines
    rw [← ofLines_lines text, hlines, ofLines_lines]

/-- What stands in a line stands in the text. -/
theorem mem_of_mem_line {text line : Text} {c : Char} (hline : line ∈ text.lines) (hc : c ∈ line) :
    c ∈ text := by
  obtain ⟨above, below, hlines⟩ := List.append_of_mem hline
  have hmeet := ofLines_append_ofLines above [] line below
  rw [List.nil_append, ← hlines, ofLines_lines, ofLines_cons] at hmeet
  rw [← hmeet]
  exact List.mem_append_right _ (List.mem_append_left _ hc)

/-- A text has one line more than it has line feeds. -/
theorem length_lines (text : Text) : text.lines.length = text.count '\n' + 1 := by
  induction text with
  | nil => rfl
  | cons c rest ih =>
    rw [lines] at ih
    rw [lines, List.splitOn_cons_eq_if_modifyHead, List.count_cons]
    split
    · rw [List.length_cons, ih]
    · rw [List.length_modifyHead, ih, Nat.add_zero]

/-- The character that a text is divided at stands in none of the pieces. -/
theorem not_mem_of_mem_splitOn {c : Char} {text piece : Text} (hpiece : piece ∈ text.splitOn c) :
    c ∉ piece := by
  rw [List.splitOn_eq_splitOnP] at hpiece
  induction text generalizing piece with
  | nil =>
    rw [List.splitOnP_nil, List.mem_singleton] at hpiece
    simp [hpiece]
  | cons d rest ih =>
    obtain ⟨first, pieces, hrest⟩ := List.exists_cons_of_ne_nil (List.splitOnP_ne_nil (· == c) rest)
    rw [List.splitOnP_cons_eq_if_modifyHead, hrest] at hpiece
    rw [hrest] at ih
    split at hpiece
    · rcases List.mem_cons.mp hpiece with rfl | hpiece
      · exact List.not_mem_nil
      · exact ih hpiece
    · next hother =>
      rw [List.modifyHead_cons] at hpiece
      rcases List.mem_cons.mp hpiece with rfl | hpiece
      · have hfirst : c ∉ first := ih List.mem_cons_self
        simp only [beq_iff_eq] at hother
        simp [hfirst, Ne.symm hother]
      · exact ih (List.mem_cons_of_mem first hpiece)

/-- What follows the last place at which a text is divided belongs to the last piece. -/
theorem exists_splitOn_append {c : Char} {tail : Text} (htail : c ∉ tail) (text : Text) :
    ∃ front last, text.splitOn c = front ++ [last] ∧
      (text ++ tail).splitOn c = front ++ [last ++ tail] := by
  induction text with
  | nil => exact ⟨[], [], rfl, List.splitOn_eq_singleton htail⟩
  | cons d rest ih =>
    obtain ⟨front, last, hrest, hrest'⟩ := ih
    rw [List.cons_append, List.splitOn_cons_eq_if_modifyHead, List.splitOn_cons_eq_if_modifyHead,
      hrest, hrest']
    split
    · exact ⟨[] :: front, last, rfl, rfl⟩
    · cases front with
      | nil => exact ⟨[], d :: last, rfl, rfl⟩
      | cons first front => exact ⟨(d :: first) :: front, last, rfl, rfl⟩

end SpanViewer.Text
