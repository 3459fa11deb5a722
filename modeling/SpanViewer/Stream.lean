import SpanViewer.Fault

/-!
# Input streams

Input arrives as bytes and is read line by line or in blocks of known length. Every read that is
not at the end of the input makes the rest shorter, so readers come to an end.
-/

namespace SpanViewer

/-- The next line of the input, with its line feed, and the rest; nothing at the end of it. -/
def nextLine? : Bytes → Option (Bytes × Bytes)
  | [] => none
  | byte :: rest =>
    if byte = 10 then
      some ([byte], rest)
    else
      match nextLine? rest with
      | none => some ([byte], [])
      | some (line, after) => some (byte :: line, after)

/-- Reading a line loses nothing. -/
theorem append_of_nextLine? {input line rest : Bytes}
    (hline : nextLine? input = some (line, rest)) : line ++ rest = input := by
  induction input generalizing line rest with
  | nil => simp [nextLine?] at hline
  | cons byte input ih =>
    simp only [nextLine?] at hline
    split at hline
    · obtain ⟨rfl, rfl⟩ := Prod.mk.inj (Option.some.inj hline)
      rfl
    · split at hline
      · next hrest =>
        obtain ⟨rfl, rfl⟩ := Prod.mk.inj (Option.some.inj hline)
        cases input with
        | nil => rfl
        | cons next input =>
          simp only [nextLine?] at hrest
          split at hrest
          · simp at hrest
          · split at hrest <;> simp at hrest
      · next line' after hrest =>
        obtain ⟨rfl, rfl⟩ := Prod.mk.inj (Option.some.inj hline)
        simp [ih hrest]

/-- A line has at least one byte. -/
theorem ne_nil_of_nextLine? {input line rest : Bytes}
    (hline : nextLine? input = some (line, rest)) : line ≠ [] := by
  cases input with
  | nil => simp [nextLine?] at hline
  | cons byte input =>
    simp only [nextLine?] at hline
    split at hline
    · obtain ⟨rfl, -⟩ := Prod.mk.inj (Option.some.inj hline)
      simp
    · split at hline <;>
      · obtain ⟨rfl, -⟩ := Prod.mk.inj (Option.some.inj hline)
        simp

/-- Reading a line makes the rest of the input shorter. -/
theorem length_lt_of_nextLine? {input line rest : Bytes}
    (hline : nextLine? input = some (line, rest)) : rest.length < input.length := by
  have hlength := congrArg List.length (append_of_nextLine? hline)
  have hpositive := List.length_pos_iff.mpr (ne_nil_of_nextLine? hline)
  simp only [List.length_append] at hlength
  omega

end SpanViewer
