import SpanViewer.Proofs.Stream.Line

/-!
# Scripts

A text that is fed to a reader of lines is read as its lines, each with the line feed that ends it.
Only the last line may have none. Lines that are left out of a script leave the others as they were.
-/

namespace SpanViewer

namespace Text

/-- The lines of a text as they are read, each with its line feed if it has one. -/
def typedLines : Text → List Text
  | [] => []
  | c :: rest =>
    if c = '\n' then
      [c] :: typedLines rest
    else
      match typedLines rest with
      | [] => [[c]]
      | line :: lines => (c :: line) :: lines

/-- Lines that are read one behind the other: no line is empty, and each ends in its only line feed,
but the last may have none. -/
inductive AreTyped : List Text → Prop
  /-- There are no lines. -/
  | nil : AreTyped []
  /-- The last line has no line feed. -/
  | last {line : Text} (hne : line ≠ []) (hfeed : '\n' ∉ line) : AreTyped [line]
  /-- A line ends in its line feed. -/
  | cons {line : Text} {lines : List Text} (hfeed : '\n' ∉ line) (hlines : AreTyped lines) :
      AreTyped ((line ++ ['\n']) :: lines)

/-- A text consists of its lines. -/
theorem flatten_typedLines (text : Text) : text.typedLines.flatten = text := by
  induction text with
  | nil => rfl
  | cons c rest ih =>
    unfold typedLines
    split
    · rw [List.flatten_cons, ih]
      rfl
    · split
      · next hnone =>
        rw [hnone] at ih
        rw [← ih]
        rfl
      · next line lines hlines =>
        rw [hlines] at ih
        rw [← ih]
        rfl

/-- The lines of a text are lines as they are read. -/
theorem areTyped_typedLines (text : Text) : AreTyped text.typedLines := by
  induction text with
  | nil => exact .nil
  | cons c rest ih =>
    unfold typedLines
    split
    · next hc =>
      subst hc
      have hfeed : '\n' ∉ ([] : Text) := List.not_mem_nil
      exact .cons hfeed ih
    · next hc =>
      split
      · exact .last (List.cons_ne_nil c []) (by simpa using Ne.symm hc)
      · next line lines hlines =>
        rw [hlines] at ih
        cases ih with
        | last hne hfeed => exact .last (List.cons_ne_nil c line) (by simp [Ne.symm hc, hfeed])
        | @cons front _ hfeed hlines =>
          have hlonger : '\n' ∉ c :: front := by simp [Ne.symm hc, hfeed]
          exact .cons hlonger hlines

/-- Lines that are left out leave lines as they are read. -/
theorem AreTyped.sublist {lines others : List Text} (hlines : AreTyped lines)
    (hothers : others.Sublist lines) : AreTyped others := by
  induction hlines generalizing others with
  | nil =>
    rw [List.sublist_nil.mp hothers]
    exact .nil
  | @last line hne hfeed =>
    rcases List.sublist_cons_iff.mp hothers with hnone | ⟨rest, rfl, hrest⟩
    · rw [List.sublist_nil.mp hnone]
      exact .nil
    · rw [List.sublist_nil.mp hrest]
      exact .last hne hfeed
  | cons hfeed hlines ih =>
    rcases List.sublist_cons_iff.mp hothers with hrest | ⟨rest, rfl, hrest⟩
    · exact ih hrest
    · exact .cons hfeed (ih hrest)

/-- Only the empty text has no bytes. -/
theorem toBytes_ne_nil {text : Text} (htext : text ≠ []) : toBytes text ≠ [] := by
  obtain ⟨c, rest, rfl⟩ := List.exists_cons_of_ne_nil htext
  have hpositive := c.utf8Size_pos
  rw [← List.length_pos_iff, length_toBytes, byteSize]
  omega

end Text

/-- An input without a line feed is one line. -/
theorem nextLine?_of_no_feed {input : Bytes} (hne : input ≠ []) (hfeed : 10 ∉ input) :
    nextLine? input = some (input, []) := by
  induction input with
  | nil => contradiction
  | cons byte input ih =>
    obtain ⟨hbyte, hrest⟩ := not_or.mp (mt List.mem_cons.mpr hfeed)
    rw [nextLine?, if_neg (Ne.symm hbyte)]
    cases input with
    | nil => rfl
    | cons next input => rw [ih (List.cons_ne_nil next input) hrest]

/-- Lines are read one by one. -/
theorem nextLine?_flatten {line : Text} {lines : List Text} (hlines : Text.AreTyped (line :: lines)) :
    nextLine? (Text.toBytes (line :: lines).flatten) =
      some (Text.toBytes line, Text.toBytes lines.flatten) := by
  cases hlines with
  | last hne hfeed =>
    simp only [List.flatten_cons, List.flatten_nil, List.append_nil]
    exact nextLine?_of_no_feed (Text.toBytes_ne_nil hne) (Text.feed_not_mem_toBytes hfeed)
  | cons hfeed hlines =>
    rw [List.flatten_cons, Text.toBytes_append]
    exact nextLine?_toBytes hfeed _

end SpanViewer
