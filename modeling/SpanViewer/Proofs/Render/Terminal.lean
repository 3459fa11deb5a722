import SpanViewer.Render.Target

/-!
# Output as a terminal shows it

A terminal takes the codes for colors and for reverse video out of its input and shows all other
characters. Every code starts with an escape character, so text without one is shown as it is.
-/

namespace SpanViewer.Terminal

/-- The codes that are written to a terminal. -/
def codes : List Text :=
  [Ansi.reset, Ansi.reverseVideo] ++
    [.keyword, .functionCall, .blockLabel, .bufferVariable, .constant, .string,
      .comment].filterMap Ansi.color?

/-- The code for a color is one of them. -/
theorem mem_codes_of_color? {kind : WordClass} {color : Text}
    (hcolor : Ansi.color? kind = some color) : color ∈ codes := by
  cases kind with
  | plain => contradiction
  | _ =>
    obtain rfl := Option.some.inj hcolor
    decide

/-- A piece of what is written to a terminal. -/
inductive Piece where
  /-- A code. -/
  | code (text : Text)
  /-- A character that is shown. -/
  | char (c : Char)
  deriving DecidableEq, Repr

/-- The character that is shown, if it is one. -/
def Piece.char? : Piece → Option Char
  | code _ => none
  | char c => some c

/-- The code in front of a text, and what follows it. -/
def frontCode? (text : Text) : Option (Text × Text) :=
  codes.findSome? fun code => (code.isPrefixOf? text).map (code, ·)

/-- A code has at least one character. -/
theorem length_lt_of_frontCode? {text code rest : Text}
    (hfront : frontCode? text = some (code, rest)) : rest.length < text.length := by
  obtain ⟨other, hother, hfound⟩ := List.exists_of_findSome?_eq_some hfront
  obtain ⟨behind, hprefix, heq⟩ := Option.map_eq_some_iff.mp hfound
  obtain ⟨-, rfl⟩ := Prod.mk.inj heq
  have hcodes : ∀ code ∈ codes, code ≠ [] := by decide
  exact Text.length_lt_of_isPrefixOf? (hcodes other hother) hprefix

/-- The pieces of a text. -/
def read (text : Text) : List Piece :=
  match hfront : frontCode? text with
  | some (code, rest) =>
    have : rest.length < text.length := length_lt_of_frontCode? hfront
    .code code :: read rest
  | none =>
    match text with
    | [] => []
    | c :: rest => .char c :: read rest
termination_by text.length

/-- What a terminal shows of a text. -/
def shown (text : Text) : Text :=
  (read text).filterMap Piece.char?

/-- A code is found where it stands. -/
theorem frontCode?_append {code : Text} (hcode : code ∈ codes) (rest : Text) :
    frontCode? (code ++ rest) = some (code, rest) := by
  have hcodes : codes = ["\x1b[0m".toList, "\x1b[7m".toList, "\x1b[1;35m".toList, "\x1b[34m".toList,
      "\x1b[33m".toList, "\x1b[36m".toList, "\x1b[31m".toList, "\x1b[32m".toList,
      "\x1b[2m".toList] := by decide
  -- No code is the start of another one, so each is found before the search comes to the others.
  rw [hcodes] at hcode
  simp only [List.mem_cons, List.not_mem_nil, or_false] at hcode
  rcases hcode with rfl | rfl | rfl | rfl | rfl | rfl | rfl | rfl | rfl <;> rfl

/-- No code starts with another character. -/
theorem frontCode?_cons {c : Char} (hc : c ≠ '\x1b') (rest : Text) :
    frontCode? (c :: rest) = none := by
  have hcodes : ∀ code ∈ codes, code.head? = some '\x1b' := by decide
  refine List.findSome?_eq_none_iff.mpr fun code hcode => Option.map_eq_none_iff.mpr ?_
  obtain ⟨behind, rfl⟩ := List.head?_eq_some_iff.mp (hcodes code hcode)
  refine Option.eq_none_iff_forall_not_mem.mpr fun after hafter => ?_
  exact hc (List.cons.inj (Text.isPrefixOf?_eq_some_iff.mp hafter)).1

/-- A code is read as one. -/
theorem read_code {code : Text} (hcode : code ∈ codes) (rest : Text) :
    read (code ++ rest) = .code code :: read rest := by
  have hfront := frontCode?_append hcode rest
  rw [read]
  split
  · next found behind hfound =>
    rw [hfront] at hfound
    obtain ⟨rfl, rfl⟩ := Prod.mk.inj (Option.some.inj hfound)
    rfl
  · next hnone =>
    rw [hfront] at hnone
    contradiction

/-- Another character is read as itself. -/
theorem read_cons {c : Char} (hc : c ≠ '\x1b') (rest : Text) :
    read (c :: rest) = .char c :: read rest := by
  have hfront := frontCode?_cons hc rest
  rw [read]
  split
  · next hfound =>
    rw [hfront] at hfound
    contradiction
  · rfl

/-- Characters without an escape character are read as themselves. -/
theorem read_append {text : Text} (htext : '\x1b' ∉ text) (rest : Text) :
    read (text ++ rest) = text.map .char ++ read rest := by
  induction text with
  | nil => rfl
  | cons c text ih =>
    have hc := List.ne_of_not_mem_cons htext
    rw [List.cons_append, read_cons (Ne.symm hc), ih (List.not_mem_of_not_mem_cons htext),
      List.map_cons, List.cons_append]

/-- Nothing is shown of nothing. -/
theorem shown_nil : shown [] = [] := by
  rw [shown, read]
  rfl

/-- A code is not shown. -/
theorem shown_code {code : Text} (hcode : code ∈ codes) (rest : Text) :
    shown (code ++ rest) = shown rest := by
  rw [shown, read_code hcode, List.filterMap_cons_none rfl, shown]

/-- A text without codes is shown as it is. -/
theorem shown_append {text : Text} (htext : '\x1b' ∉ text) (rest : Text) :
    shown (text ++ rest) = text ++ shown rest := by
  have hchars : (text.map Piece.char).filterMap Piece.char? = text := by
    rw [List.filterMap_map]
    exact List.filterMap_some
  rw [shown, read_append htext, List.filterMap_append, hchars, shown]

end SpanViewer.Terminal
