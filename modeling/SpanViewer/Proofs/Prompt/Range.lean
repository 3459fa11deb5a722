import SpanViewer.Proofs.Hover.Range
import SpanViewer.Proofs.Prompt.Session

/-!
# Lines and words that are not there

The prompt numbers lines from 1 and a document numbers them from 0. A command about a line fails
exactly if the line or the word that it asks for is not there. A missing line is reported by the
number that was typed. A missing word is reported by the place that was typed, but on the line
above, since that fault comes from the document.
-/

namespace SpanViewer

/-- The line that a fault names. -/
def Fault.line? : Fault → Option Nat
  | lineOutOfRange line _ => some line
  | wordOutOfRange line _ _ => some line
  | _ => none

/-- What a command asks for is not in the document, and the fault that says so. -/
inductive Command.Misses (d : Document) : Command → Fault → Prop
  /-- There is no such line to list the words of. -/
  | words {line : Nat} (hline : d.derived.length < line) :
      Misses d (.words line) (.lineOutOfRange line d.derived.length)
  /-- There is no such line to point at. -/
  | line {line index : Nat} (hline : d.derived.length < line) :
      Misses d (.hover line index) (.lineOutOfRange line d.derived.length)
  /-- The line has no such word. -/
  | word {line index : Nat} {words : List Word} (hline : d.derived[line - 1]? = some words)
      (hindex : words.length ≤ index) :
      Misses d (.hover line index) (.wordOutOfRange (line - 1) index words.length)

namespace Viewer

variable {v : Viewer} {display : Display} {files : Files} {target : Target} {line : Nat}
  {fault : Fault}

/-- Listing the words of a line fails exactly if there is no such line. -/
theorem attempt_words_eq_error_iff (hdisplay : v.display = some display) (hline : 0 < line) :
    v.attempt files target (.words line) = .error fault ↔
      (Command.words line).Misses display.document fault := by
  rw [attempt_words, requireDocument_of_display hdisplay, Except.bind]
  constructor
  · intro hfault
    split at hfault
    · next hnone =>
      rw [← Except.error.inj hfault]
      have hlength := List.getElem?_eq_none_iff.mp hnone
      exact .words (by omega)
    · contradiction
  · intro hmisses
    cases hmisses with
    | words hlength => rw [List.getElem?_eq_none (by omega)]

/-- Pointing at a word fails exactly if there is no such line or no such word. -/
theorem attempt_hover_eq_error_iff (hdisplay : v.display = some display) (hline : 0 < line)
    {index : Nat} :
    v.attempt files target (.hover line index) = .error fault ↔
      (Command.hover line index).Misses display.document fault := by
  have hhover : v.hover (line - 1) index = display.document.hover v.policy (line - 1) index := by
    rw [hover, hdisplay]
  rw [attempt_hover, requireDocument_of_display hdisplay, Except.bind, hhover]
  constructor
  · intro hfault
    split at hfault
    · next hlength =>
      rw [← Except.error.inj hfault]
      exact .line hlength
    · next hlength =>
      cases hhover : display.document.hover v.policy (line - 1) index with
      | ok h =>
        rw [hhover] at hfault
        contradiction
      | error cause =>
        rw [hhover] at hfault
        obtain rfl := Except.error.inj hfault
        cases Document.hover_eq_error_iff.mp hhover with
        | line hnone => omega
        | word hwords hindex => exact .word hwords hindex
  · intro hmisses
    cases hmisses with
    | line hlength => rw [if_pos hlength]
    | word hwords hindex =>
      have hbelow := (List.getElem?_eq_some_iff.mp hwords).1
      rw [if_neg (by omega), Document.hover_of_words_length_le hwords hindex]
      rfl

/-- A typed command about a line fails exactly if what it asks for is not there. -/
theorem carryOut_eq_error_iff (hdisplay : v.display = some display) {typed : Text}
    {command : Command} (hparse : Command.parse typed = .ok command)
    (hline : command.line? = some line) :
    v.carryOut files target typed = .error fault ↔ command.Misses display.document fault := by
  have hpositive := Command.pos_of_parse hparse hline
  have hattempt : v.carryOut files target typed = v.attempt files target command := by
    rw [carryOut, hparse]
    rfl
  rw [hattempt]
  cases command with
  | words number =>
    obtain rfl := Option.some.inj hline
    exact attempt_words_eq_error_iff hdisplay hpositive
  | hover number index =>
    obtain rfl := Option.some.inj hline
    exact attempt_hover_eq_error_iff hdisplay hpositive
  | _ => contradiction

end Viewer

/-- A fault names the line that was typed if there is no such line, and the line above it if the
line is there. -/
theorem Command.Misses.line?_eq {d : Document} {command : Command} {fault : Fault} {line : Nat}
    (hmisses : command.Misses d fault) (hline : command.line? = some line) :
    fault.line? = some (if d.derived.length < line then line else line - 1) := by
  cases hmisses with
  | words hlength | line hlength =>
    obtain rfl := Option.some.inj hline
    rw [if_pos hlength]
    rfl
  | word hwords hindex =>
    obtain rfl := Option.some.inj hline
    have hbelow := (List.getElem?_eq_some_iff.mp hwords).1
    rw [if_neg (by omega)]
    rfl

/-- **A missing line is reported by its number, a missing word on the line above.** With a document
on display a typed command about a line fails exactly if the line is not there, or the word on it.
The reply is the report of that alone, and nothing changes. It names the line that was typed exactly
if that line is not there; if only the word is missing, the reply names the line in front of it. -/
theorem Viewer.reports_missing_line {v : Viewer} {display : Display}
    (hdisplay : v.display = some display) (files : Files) (target : Target) {typed : Text}
    {command : Command} {line : Nat} (hparse : Command.parse typed = .ok command)
    (hline : command.line? = some line) :
    (∀ fault, v.carryOut files target typed = .error fault ↔
        command.Misses display.document fault) ∧
      ∀ fault, command.Misses display.document fault →
        v.reply? files target typed = some ("error: ".toList ++ fault.message ++ ['\n'], v) ∧
        (fault.line? = some line ↔ display.document.derived.length < line) ∧
        (fault.line? = some (line - 1) ↔ line ≤ display.document.derived.length) := by
  have hpositive := Command.pos_of_parse hparse hline
  refine ⟨fun fault => carryOut_eq_error_iff hdisplay hparse hline, fun fault hmisses => ?_⟩
  have hfail : v.carryOut files target typed = .error fault :=
    (carryOut_eq_error_iff hdisplay hparse hline).mpr hmisses
  have hnamed := hmisses.line?_eq hline
  refine ⟨reply?_of_carryOut_error hfail, ?_, ?_⟩
  · rw [hnamed, Option.some.injEq]
    split <;> omega
  · rw [hnamed, Option.some.injEq]
    split <;> omega

/-- A line and a word that are not in a document of one line with one word. -/
theorem Viewer.reports_missing_line_one_word :
    let v : Viewer := Viewer.loadText {} "x\n##########\nf -- ".toList
    let files : Files := fun _ => .error .missing
    let target := Style.plain.target {}
    let d : Document := ⟨[['x']], [[.unmapped ['f']]]⟩
    (v.display = some ⟨d, none⟩ ∧ Command.parse "words +2".toList = .ok (.words 2) ∧
      (Command.words 2).Misses d (.lineOutOfRange 2 1) ∧
      v.reply? files target "words +2".toList =
        some ("error: ".toList ++ (Fault.lineOutOfRange 2 1).message ++ ['\n'], v) ∧
      (Fault.lineOutOfRange 2 1).line? = some 2) ∧
    (Command.parse "h 1 05".toList = .ok (.hover 1 5) ∧
      (Command.hover 1 5).Misses d (.wordOutOfRange 0 5 1) ∧
      v.reply? files target "h 1 05".toList =
        some ("error: ".toList ++ (Fault.wordOutOfRange 0 5 1).message ++ ['\n'], v) ∧
      (Fault.wordOutOfRange 0 5 1).line? = some (1 - 1)) := by
  intro v files target d
  have hdisplay : v.display = some ⟨d, none⟩ := by decide +kernel
  have hwords : Command.parse "words +2".toList = .ok (.words 2) := by decide +kernel
  have hhover : Command.parse "h 1 05".toList = .ok (.hover 1 5) := by decide +kernel
  have hnoLine : (Command.words 2).Misses d (.lineOutOfRange 2 1) := .words Nat.one_lt_two
  have hone : d.derived[1 - 1]? = some [.unmapped ['f']] := rfl
  have hnoWord : (Command.hover 1 5).Misses d (.wordOutOfRange 0 5 1) := .word hone (by decide)
  obtain ⟨hreply, hnamed, -⟩ :=
    (reports_missing_line hdisplay files target hwords rfl).2 _ hnoLine
  obtain ⟨hreply', -, hnamed'⟩ :=
    (reports_missing_line hdisplay files target hhover rfl).2 _ hnoWord
  exact ⟨⟨hdisplay, hwords, hnoLine, hreply, hnamed.mpr Nat.one_lt_two⟩, hhover, hnoWord, hreply',
    hnamed'.mpr (Nat.le_refl 1)⟩

/-- A word that is not on the first line is reported on a line 0. -/
theorem Viewer.reports_word_on_line_above :
    let v : Viewer := Viewer.loadText {} "x\n##########\nf -- ".toList
    let files : Files := fun _ => .error .missing
    let target := Style.plain.target {}
    let reply := v.reply? files target "hover 1 5\n".toList
    Command.parse "hover 1 5\n".toList = .ok (.hover 1 5) ∧
      reply = some ("error: word 5 out of range on line 0 (1 words)\n".toList, v) ∧
      reply ≠ some ("error: word 5 out of range on line 1 (1 words)\n".toList, v) := by
  decide +kernel

end SpanViewer
