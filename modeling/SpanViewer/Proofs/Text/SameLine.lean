import Mathlib.Data.List.Forall2
import SpanViewer.Proofs.Text.Lines
import SpanViewer.Proofs.Text.Offset

/-!
# Lines with and without a carriage return

A line may end in a line feed alone or in a carriage return and a line feed. The two forms of a line
stay two forms of one line when both lose characters at the front or are cut at the same column,
even at a column behind the end of the line, and texts that are made of such lines are equal without
carriage returns.
-/

namespace SpanViewer.Text

/-- A line and the same line with or without a carriage return at its end. -/
structure SameLine (line returned : Text) : Prop where
  /-- The line is one line. -/
  no_feed : '\n' ∉ line
  /-- The line has no carriage return of its own. -/
  no_return : '\r' ∉ line
  /-- There may be a carriage return at the end. -/
  eq_or : returned = line ∨ returned = line ++ ['\r']

namespace SameLine

variable {line returned : Text}

/-- A line without carriage returns is the same as itself. -/
theorem refl (hfeed : '\n' ∉ line) (hreturn : '\r' ∉ line) : SameLine line line :=
  ⟨hfeed, hreturn, Or.inl rfl⟩

/-- The empty line is the same as itself. -/
theorem nil : SameLine [] [] :=
  refl (by simp) (by simp)

/-- Both forms are one line. -/
theorem no_feed_returned (hsame : SameLine line returned) : '\n' ∉ returned := by
  rcases hsame.eq_or with rfl | rfl
  · exact hsame.no_feed
  · simpa using hsame.no_feed

/-- Without carriage returns both forms are equal. -/
theorem dropReturns_eq (hsame : SameLine line returned) :
    returned.dropReturns = line.dropReturns := by
  rcases hsame.eq_or with rfl | rfl
  · rfl
  · simp [dropReturns]

/-- Characters at the front can be dropped from both forms. -/
theorem drop (hsame : SameLine line returned) (count : Nat) :
    SameLine (line.drop count) (returned.drop count) := by
  refine ⟨fun hmem => hsame.no_feed (List.mem_of_mem_drop hmem),
    fun hmem => hsame.no_return (List.mem_of_mem_drop hmem), ?_⟩
  rcases hsame.eq_or with rfl | rfl
  · exact Or.inl rfl
  · rw [List.drop_append]
    cases count - line.length with
    | zero => exact Or.inr rfl
    | succ extra => exact Or.inl (by simp)

/-- At the same column both forms are cut behind the same text, or both are left whole. -/
theorem splitAtByte_cases (hsame : SameLine line returned) (column : Nat) :
    (∃ head rest rest', line.splitAtByte column = (head, rest) ∧
        returned.splitAtByte column = (head, rest') ∧ SameLine head head ∧ SameLine rest rest') ∨
      line.splitAtByte column = (line, []) ∧ returned.splitAtByte column = (returned, []) := by
  obtain ⟨head, rest, hline⟩ := line.exists_splitAtByte column
  have happend := eq_append_of_splitAtByte hline
  have hfeed := hsame.no_feed
  have hreturn := hsame.no_return
  rw [happend, List.mem_append, not_or] at hfeed hreturn
  have hhead := SameLine.refl hfeed.1 hreturn.1
  have hrest := SameLine.refl hfeed.2 hreturn.2
  rcases hsame.eq_or with hequal | hequal
  · exact Or.inl ⟨head, rest, rest, hline, hequal ▸ hline, hhead, hrest⟩
  · by_cases hinside : column < byteSize line
    · refine Or.inl ⟨head, rest, rest ++ ['\r'], hline, ?_, hhead, ⟨hfeed.2, hreturn.2, Or.inr rfl⟩⟩
      rw [hequal, splitAtByte_append_of_lt hinside, hline]
    · have hwhole : line.splitAtByte column = (line, []) := splitAtByte_of_le (by omega)
      by_cases hbehind : byteSize returned ≤ column
      · exact Or.inr ⟨hwhole, splitAtByte_of_le hbehind⟩
      · refine Or.inl ⟨line, [], ['\r'], hwhole, ?_, SameLine.refl hsame.no_feed hsame.no_return,
          ⟨by simp, by simp, Or.inr rfl⟩⟩
        have hsize : byteSize ['\r'] = 1 := rfl
        rw [hequal, byteSize_append, hsize] at hbehind
        have hcolumn : column - byteSize line = 0 := by omega
        have hnone : Text.splitAtByte ['\r'] 0 = ([], ['\r']) := rfl
        rw [hequal, splitAtByte_append_of_le (by omega), hcolumn, hnone, List.append_nil]

/-- At the same column both forms are cut into two lines each. -/
theorem splitAtByte (hsame : SameLine line returned) (column : Nat) :
    SameLine (line.splitAtByte column).1 (returned.splitAtByte column).1 ∧
      SameLine (line.splitAtByte column).2 (returned.splitAtByte column).2 := by
  rcases hsame.splitAtByte_cases column with
    ⟨head, rest, rest', hline, hreturned, hhead, hrest⟩ | ⟨hline, hreturned⟩
  · rw [hline, hreturned]
    exact ⟨hhead, hrest⟩
  · rw [hline, hreturned]
    exact ⟨hsame, SameLine.nil⟩

/-- What follows a cut is cut into two lines each at a column that is counted from the start. -/
theorem splitAtByte_behind (hsame : SameLine line returned) {column : Nat}
    {head rest head' rest' : Text} (hline : line.splitAtByte column = (head, rest))
    (hreturned : returned.splitAtByte column = (head', rest')) (endColumn : Nat) :
    SameLine (rest.splitAtByte (endColumn - head.byteSize)).1
        (rest'.splitAtByte (endColumn - head'.byteSize)).1 ∧
      SameLine (rest.splitAtByte (endColumn - head.byteSize)).2
        (rest'.splitAtByte (endColumn - head'.byteSize)).2 := by
  rcases hsame.splitAtByte_cases column with
    ⟨_, _, _, hcut, hcut', -, hrest⟩ | ⟨hcut, hcut'⟩
  · rw [hcut, Prod.mk.injEq] at hline
    rw [hcut', Prod.mk.injEq] at hreturned
    obtain ⟨rfl, rfl⟩ := hline
    obtain ⟨rfl, rfl⟩ := hreturned
    exact hrest.splitAtByte _
  · rw [hcut, Prod.mk.injEq] at hline
    rw [hcut', Prod.mk.injEq] at hreturned
    obtain ⟨-, rfl⟩ := hline
    obtain ⟨-, rfl⟩ := hreturned
    exact ⟨SameLine.nil, SameLine.nil⟩

end SameLine

section Lines

variable {lines returned : List Text}

/-- Parts of a text lose their carriage returns on their own. -/
theorem dropReturns_append (front back : Text) :
    (front ++ back).dropReturns = front.dropReturns ++ back.dropReturns :=
  List.filter_append front back

/-- Joined texts lose their carriage returns on their own. -/
theorem dropReturns_intercalate (separator : Text) (texts : List Text) :
    dropReturns (separator.intercalate texts) =
      separator.dropReturns.intercalate (texts.map dropReturns) := by
  cases texts with
  | nil => rfl
  | cons first rest =>
    rw [List.map_cons, intercalate_cons, intercalate_cons, dropReturns_append, List.flatMap_map]
    simp [dropReturns, List.filter_flatMap]

/-- The lines of a text lose their carriage returns on their own. -/
theorem dropReturns_ofLines (lines : List Text) :
    (ofLines lines).dropReturns = ofLines (lines.map dropReturns) :=
  dropReturns_intercalate ['\n'] lines

/-- Texts of the same lines are equal without carriage returns. -/
theorem dropReturns_ofLines_eq (hsame : List.Forall₂ SameLine lines returned) :
    (ofLines returned).dropReturns = (ofLines lines).dropReturns := by
  have hlines : returned.map dropReturns = lines.map dropReturns := by
    induction hsame with
    | nil => rfl
    | cons hline _ ih => rw [List.map_cons, List.map_cons, hline.dropReturns_eq, ih]
  rw [dropReturns_ofLines, dropReturns_ofLines, hlines]

/-- The lines of both texts hold no line feed. -/
theorem no_feed_of_sameLine (hsame : List.Forall₂ SameLine lines returned) :
    (∀ l ∈ lines, '\n' ∉ l) ∧ ∀ l ∈ returned, '\n' ∉ l := by
  induction hsame with
  | nil => simp
  | cons hfirst _ ih =>
    simp only [List.forall_mem_cons]
    exact ⟨⟨hfirst.no_feed, ih.1⟩, hfirst.no_feed_returned, ih.2⟩

/-- The same lines are read back from texts that were made of them. -/
theorem lines_ofLines_sameLine (hsame : List.Forall₂ SameLine lines returned) :
    List.Forall₂ SameLine (ofLines lines).lines (ofLines returned).lines := by
  obtain ⟨hfeed, hfeed'⟩ := no_feed_of_sameLine hsame
  by_cases hnone : lines = []
  · subst hnone
    cases hsame
    exact .cons SameLine.nil .nil
  · have hnone' : returned ≠ [] := by
      rintro rfl
      cases hsame
      contradiction
    rw [lines_ofLines hnone hfeed, lines_ofLines hnone' hfeed']
    exact hsame

/-- The last line of one text is the same as the last line of the other. -/
theorem exists_of_forall₂_concat {middle : List Text} {last : Text}
    (hsame : List.Forall₂ SameLine (middle ++ [last]) returned) :
    ∃ middle' last', returned = middle' ++ [last'] ∧ List.Forall₂ SameLine middle middle' ∧
      SameLine last last' := by
  induction middle generalizing returned with
  | nil =>
    obtain ⟨last', rest, hlast, hrest, rfl⟩ := List.forall₂_cons_left_iff.mp hsame
    cases hrest
    exact ⟨[], last', rfl, .nil, hlast⟩
  | cons line middle ih =>
    obtain ⟨line', rest, hline, hrest, rfl⟩ := List.forall₂_cons_left_iff.mp hsame
    obtain ⟨middle', last', rfl, hmiddle, hlast⟩ := ih hrest
    exact ⟨line' :: middle', last', rfl, .cons hline hmiddle, hlast⟩

end Lines

end SpanViewer.Text
