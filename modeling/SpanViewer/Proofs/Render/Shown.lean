import SpanViewer.Proofs.Render.Markup
import SpanViewer.Proofs.Render.Terminal
import SpanViewer.Proofs.Text.Pieces

/-!
# What is shown of a line

A browser shows no tags and decodes references, a terminal shows no codes. With an indent marker all
targets then show a line alike. The empty marker is different: the browser leaves the words as they
are, while plain output and the terminal put a space around every character.
-/

namespace SpanViewer

namespace Markup

/-- What the references in the output stand for. -/
def references : List (Text × Text) :=
  [("nbsp".toList, [' ']), ("amp".toList, ['&']), ("lt".toList, ['<']), ("gt".toList, ['>']),
    ("quot".toList, ['"']), ("#39".toList, ['\''])]

/-- What a browser shows of a piece. An unknown reference is shown as it is written. -/
def Piece.shown : Piece → Text
  | tag _ => []
  | reference name => (references.lookup name).getD (reference name).text
  | char c => [c]

/-- What a browser shows of a text that is markup. -/
def shown? (text : Text) : Option Text :=
  (read? text).map fun pieces => pieces.flatMap Piece.shown

/-- What is shown is put together from what is shown of the parts. -/
theorem shown?_append {text front : Text} (hfront : shown? text = some front) (later : Text) :
    shown? (text ++ later) = (shown? later).map (front ++ ·) := by
  obtain ⟨pieces, hread, rfl⟩ := Option.map_eq_some_iff.mp hfront
  rw [shown?, read?, readFrom_append hread, shown?, Option.map_map, Option.map_map]
  simp only [Function.comp_def, List.flatMap_append]

/-- A character without a meaning in markup is shown as it is. -/
theorem shown?_char {c : Char} (hc : c ∉ ['<', '>', '&', '"', '\'']) : shown? [c] = some [c] := by
  rw [shown?, read?_char hc]
  rfl

/-- A tag is not shown. -/
theorem shown?_tag {body : Text} (hopen : '<' ∉ body) (hclose : '>' ∉ body) :
    shown? ('<' :: body ++ ['>']) = some [] := by
  rw [shown?, read?_tag hopen hclose]
  rfl

/-- Joined texts are shown with what is shown of the separator between them. -/
theorem shown?_intercalate {separator shown : Text} (hseparator : shown? separator = some shown)
    {write visible : Text → Text} {texts : List Text}
    (htexts : ∀ text ∈ texts, shown? (write text) = some (visible text)) :
    shown? (separator.intercalate (texts.map write)) =
      some (shown.intercalate (texts.map visible)) := by
  induction texts with
  | nil => rfl
  | cons text rest ih =>
    obtain ⟨htext, hrest⟩ := List.forall_mem_cons.mp htexts
    cases rest with
    | nil => simpa using htext
    | cons next rest =>
      have hlater := ih hrest
      simp only [List.map_cons, List.intercalate_cons_cons, List.append_assoc] at hlater ⊢
      rw [shown?_append htext, shown?_append hseparator, hlater]
      rfl

end Markup

namespace Html

open Markup

/-- An escaped character is shown, unless it is a carriage return. -/
theorem shown?_escapeChar (c : Char) : shown? (escapeChar c) = some (Text.dropReturns [c]) := by
  by_cases hmeaning : c ∈ ['<', '>', '&', '"', '\'', '\r']
  · simp only [List.mem_cons, List.not_mem_nil, or_false] at hmeaning
    rcases hmeaning with rfl | rfl | rfl | rfl | rfl | rfl <;> decide
  · have hchar : c ∉ ['<', '>', '&', '"', '\''] := fun hc =>
      hmeaning (List.mem_append_left ['\r'] hc)
    have hreturn : c ≠ '\r' := by
      rintro rfl
      exact hmeaning (by decide)
    have hkept : Text.dropReturns [c] = [c] := by simp [Text.dropReturns, hreturn]
    rw [escapeChar_of_not_mem hmeaning, hkept, shown?_char hchar]

/-- Escaped text is shown without its carriage returns. -/
theorem shown?_escape (text : Text) : shown? (escape text) = some text.dropReturns := by
  induction text with
  | nil => rfl
  | cons c rest ih =>
    have hsplit : Text.dropReturns (c :: rest) = Text.dropReturns [c] ++ Text.dropReturns rest :=
      Text.dropReturns_append [c] rest
    rw [escape] at ih
    rw [escape, List.flatMap_cons, shown?_append (shown?_escapeChar c), ih, hsplit]
    rfl

/-- An element shows its content. -/
theorem shown?_element {name content shown : Text} (hopen : '<' ∉ name) (hclose : '>' ∉ name)
    (hcontent : shown? content = some shown) : shown? (element name content) = some shown := by
  have hfront : shown? ('<' :: ("span class=\"".toList ++ name ++ ['"']) ++ ['>']) = some [] := by
    apply shown?_tag
    · simp [hopen]
    · simp [hclose]
  have hback : shown? ('<' :: "/span".toList ++ ['>']) = some [] := by decide
  rw [element_eq, List.append_assoc, shown?_append hfront, shown?_append hcontent, hback]
  simp

/-- With an indent marker a word is shown as it is written in plain output. -/
theorem shown?_word {marker : Text} (hmarker : marker ≠ []) (w : Word) :
    shown? (word marker w) = some (Plain.word marker w) := by
  obtain ⟨hopen, hclose⟩ := bracket_not_mem_name w.classify
  have hspace : shown? keptSpace = some [' '] := by decide
  have hdropped : Text.dropReturns [' '] = [' '] := by decide
  have hempty : marker.isEmpty = false := by simpa using hmarker
  rw [Plain.word, Text.replace, Text.dropReturns_intercalate, hdropped, word, hempty]
  exact shown?_element hopen hclose (shown?_intercalate hspace fun piece _ => shown?_escape piece)

/-- Without an indent marker a word is shown as it is. -/
theorem shown?_word_nil (w : Word) : shown? (word [] w) = some w.text.dropReturns := by
  obtain ⟨hopen, hclose⟩ := bracket_not_mem_name w.classify
  exact shown?_element hopen hclose (shown?_escape w.text)

end Html

/-- A terminal shows a word as it is written in plain output. -/
theorem Ansi.shown_word_append {marker : Text} {w : Word} (hescape : '\x1b' ∉ w.text)
    (rest : Text) :
    Terminal.shown (Ansi.word marker w ++ rest) = Plain.word marker w ++ Terminal.shown rest := by
  have htext : '\x1b' ∉ Plain.word marker w := by
    intro hmem
    obtain hmem | hmem := Text.mem_or_mem_of_mem_replace (List.mem_of_mem_filter hmem)
    · exact hescape hmem
    · exact absurd hmem (by decide)
  rw [word, ← Plain.word]
  cases hcolor : color? w.classify with
  | none => exact Terminal.shown_append htext rest
  | some color =>
    simp only [List.append_assoc]
    rw [Terminal.shown_code (Terminal.mem_codes_of_color? hcolor), Terminal.shown_append htext,
      Terminal.shown_code (by decide)]

/-- Words one behind the other, each written in some way, as in a line. -/
def spacedWords (marker : Text) (write : Word → Text) : List Word → Text
  | [] => []
  | [w] => write w
  | w :: next :: rest =>
    write w ++ (if w.isIndentation marker then [] else [' ']) ++
      spacedWords marker write (next :: rest)

/-- A line of a target is made of its words. -/
theorem Target.line_eq_spacedWords (target : Target) (words : List Word) :
    target.line words = spacedWords target.marker target.word words := by
  induction words with
  | nil => rfl
  | cons w rest ih =>
    cases rest with
    | nil => rfl
    | cons next rest => rw [line, ih, spacedWords]

section
variable {marker : Text} {write visible : Word → Text} {words : List Word}

/-- A terminal shows a line word by word. -/
theorem Terminal.shown_spacedWords_append
    (hwords : ∀ w ∈ words, ∀ rest, shown (write w ++ rest) = visible w ++ shown rest)
    (rest : Text) :
    shown (spacedWords marker write words ++ rest) =
      spacedWords marker visible words ++ shown rest := by
  induction words with
  | nil => rfl
  | cons w later ih =>
    obtain ⟨hw, hlater⟩ := List.forall_mem_cons.mp hwords
    cases later with
    | nil => exact hw rest
    | cons next later =>
      have hspace : '\x1b' ∉ if w.isIndentation marker then [] else [' '] := by
        split <;> decide
      simp only [spacedWords, List.append_assoc]
      rw [hw, shown_append hspace, ih hlater]

/-- A browser shows a line word by word. -/
theorem Markup.shown?_spacedWords (hwords : ∀ w ∈ words, shown? (write w) = some (visible w)) :
    shown? (spacedWords marker write words) = some (spacedWords marker visible words) := by
  induction words with
  | nil => rfl
  | cons w later ih =>
    obtain ⟨hw, hlater⟩ := List.forall_mem_cons.mp hwords
    cases later with
    | nil => exact hw
    | cons next later =>
      have hspace : shown? (if w.isIndentation marker then [] else [' ']) =
          some (if w.isIndentation marker then [] else [' ']) := by
        split <;> decide
      simp only [spacedWords, List.append_assoc]
      rw [shown?_append hw, shown?_append hspace, ih hlater]
      rfl

/-- A line of longer words is longer. -/
theorem length_spacedWords_lt (hwords : ∀ w ∈ words, (write w).length < (visible w).length)
    (hne : words ≠ []) :
    (spacedWords marker write words).length < (spacedWords marker visible words).length := by
  induction words with
  | nil => contradiction
  | cons w later ih =>
    obtain ⟨hw, hlater⟩ := List.forall_mem_cons.mp hwords
    cases later with
    | nil => exact hw
    | cons next later =>
      have hline := ih hlater (List.cons_ne_nil next later)
      simp only [spacedWords, List.length_append] at hline ⊢
      omega

end

/-- A terminal shows a line as it is written in plain output, if no word holds an escape character.
So does a browser if there is an indent marker. Without one it shows the words as they are, and that
is no line of plain output unless there are no words. -/
theorem Target.shown_line (marker opening closing : Text) {words : List Word}
    (hwords : ∀ w ∈ words, '\x1b' ∉ w.text) :
    let written := (plain marker opening closing).line words
    Terminal.shown ((terminal marker).line words) = written ∧
    (Markup.shown? ((browser marker).line words) = some written ↔ marker ≠ [] ∨ words = []) ∧
    (marker = [] → Markup.shown? ((browser marker).line words) =
      some (spacedWords marker (fun w => w.text.dropReturns) words)) := by
  intro written
  have hwritten : written = spacedWords marker (Plain.word marker) words :=
    line_eq_spacedWords _ words
  have hterminal : (terminal marker).line words = spacedWords marker (Ansi.word marker) words :=
    line_eq_spacedWords _ words
  have hbrowser : (browser marker).line words = spacedWords marker (Html.word marker) words :=
    line_eq_spacedWords _ words
  have hbare (hmarker : marker = []) : Markup.shown? ((browser marker).line words) =
      some (spacedWords marker (fun w => w.text.dropReturns) words) := by
    subst hmarker
    rw [hbrowser]
    exact Markup.shown?_spacedWords fun w _ => Html.shown?_word_nil w
  refine ⟨?_, ⟨?_, ?_⟩, hbare⟩
  · have hline : Terminal.shown (spacedWords marker (Ansi.word marker) words ++ []) =
        spacedWords marker (Plain.word marker) words ++ Terminal.shown [] :=
      Terminal.shown_spacedWords_append
        (fun w hw rest => Ansi.shown_word_append (hwords w hw) rest) []
    rwa [Terminal.shown_nil, List.append_nil, List.append_nil, ← hterminal, ← hwritten] at hline
  · -- Without a marker every word is longer in plain output than in a browser.
    intro hshown
    by_contra hother
    obtain ⟨hmarker, hne⟩ := not_or.mp hother
    have hnil := not_not.mp hmarker
    rw [hbare hnil, Option.some.injEq, hwritten, hnil] at hshown
    have hlonger (w : Word) (_ : w ∈ words) :
        w.text.dropReturns.length < (Plain.word [] w).length :=
      Text.length_lt_replace_nil w.text
    exact Nat.ne_of_lt (length_spacedWords_lt hlonger hne) (congrArg List.length hshown)
  · rintro (hmarker | rfl)
    · rw [hbrowser, hwritten]
      exact Markup.shown?_spacedWords fun w _ => Html.shown?_word hmarker w
    · rfl

/-- An indentation and a word with a marker that overlaps itself. -/
theorem Target.shown_line_overlap :
    let words : List Word := [.unmapped "aaaa".toList, .unmapped "aaa<\r".toList]
    let written := (plain "aa".toList [] []).line words
    (∀ w ∈ words, '\x1b' ∉ w.text) ∧ written = "   a<".toList ∧
      Terminal.shown ((terminal "aa".toList).line words) = written ∧
      Markup.shown? ((browser "aa".toList).line words) = some written := by
  intro words written
  have hwords : ∀ w ∈ words, '\x1b' ∉ w.text := by decide
  obtain ⟨hterminal, hbrowser, -⟩ := shown_line "aa".toList [] [] hwords
  exact ⟨hwords, by decide +kernel, hterminal, hbrowser.mpr (.inl (by decide))⟩

/-- Without an indent marker plain output and a terminal show spaces that a browser does not. -/
theorem Target.shown_line_differs :
    let words : List Word := [.unmapped "ab".toList]
    (plain [] [] []).line words = " a b ".toList ∧
      (terminal []).line words = " a b ".toList ∧
      (browser []).line words = "<span class=\"plain\">ab</span>".toList ∧
      Markup.shown? ((browser []).line words) = some "ab".toList := by
  decide +kernel

end SpanViewer
