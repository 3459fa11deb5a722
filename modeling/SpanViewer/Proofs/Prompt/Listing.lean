import SpanViewer.Proofs.Document.Sections
import SpanViewer.Proofs.Document.Tokens
import SpanViewer.Proofs.Text.Pieces
import SpanViewer.Proofs.Viewer.LineEnding
import SpanViewer.Proofs.Viewer.Operation
import SpanViewer.Proofs.Word.Indentation

/-!
# Listed indentations

An indentation is told by taking the marker off its front again and again, and its width is counted
by searching for the marker from left to right. On a text that repeats the marker both searches go
the same way, so a line that starts with spaces is listed with the number of these spaces.
-/

namespace SpanViewer

/-- The line of the derived form with the given number, where blank lines are not counted. -/
def FileFormat.derivedLine? (format : FileFormat) (text : Text) (number : Nat) : Option Text :=
  ((format.derivedLines text).filter fun line => !line.all isBlank)[number]?

namespace Word

variable {marker : Text} {w : Word} {count : Nat}

/-- The number of repeats is found again in an indentation. -/
theorem pieces_of_repeat (hmarker : marker ≠ [])
    (htext : w.text = (List.replicate count marker).flatten) :
    w.text.pieces marker = List.replicate (count + 1) [] := by
  rw [htext, Text.pieces_repeat hmarker]

/-- A text repeats a marker in one way only. -/
theorem eq_of_repeat {other : Nat} (hmarker : marker ≠ [])
    (htext : w.text = (List.replicate count marker).flatten)
    (hother : w.text = (List.replicate other marker).flatten) : other = count := by
  have hpieces := (pieces_of_repeat hmarker hother).symm.trans (pieces_of_repeat hmarker htext)
  have hlength := congrArg List.length hpieces
  simpa only [List.length_replicate, Nat.add_right_cancel_iff] using hlength

/-- An indentation is listed with its number of repeats. -/
theorem listed_of_repeat (hmarker : marker ≠ []) (hpositive : 0 < count)
    (htext : w.text = (List.replicate count marker).flatten) :
    w.listed marker = "<indent ".toList ++ .ofNumber count ++ ['>'] := by
  have hindentation : w.isIndentation marker = true :=
    isIndentation_iff.mpr ⟨hmarker, count, hpositive, htext⟩
  rw [listed, if_pos hindentation, pieces_of_repeat hmarker htext, List.length_replicate,
    Nat.add_sub_cancel]

end Word

/-- The list of words starts with the number, the text and the class of the first word. -/
theorem exists_listWords_cons (marker : Text) (w : Word) (rest : List Word) :
    ∃ later, listWords marker (w :: rest) =
      "  0  ".toList ++ (w.listed marker).padRight 20 ++ ' ' :: (w.classify.name ++ later) := by
  have hnumber : "  0  ".toList = (Text.ofNumber 0).padLeft 3 ++ "  ".toList := by decide
  rw [listWords, List.mapIdx_cons, List.flatten_cons, hnumber]
  simp only [Text.padRight, List.append_assoc, List.cons_append, List.nil_append]
  exact ⟨_, rfl⟩

/-- The lines of a document are read from those lines of the file that are not blank. -/
theorem Document.exists_words_of_derivedLine? {format : FileFormat} {text line : Text}
    {number : Nat} (hline : format.derivedLine? text number = some line) :
    ∃ words, (parse format text).derived[number]? = some words ∧
      parseLine? format.indentMarker line = some words := by
  have hplace := congrArg (fun lines : List (Option (List Word)) => lines[number]?)
    (map_some_derived_parse format text)
  rw [FileFormat.derivedLine?] at hline
  simp only [List.getElem?_map, hline, Option.map_some] at hplace
  obtain ⟨words, hwords, hparse⟩ := Option.map_eq_some_iff.mp hplace
  exact ⟨words, hwords, hparse.symm⟩

/-- A line that starts with spaces and is no comment has its indentation as its first word. -/
theorem exists_indentation_cons {marker line rest : Text} {words : List Word} {width : Nat}
    (hline : line = spaces width ++ rest) (hrest : rest.head? ≠ some ' ') (hwidth : 0 < width)
    (hcomment : ∀ width note, line ≠ spaces width ++ '#' :: note)
    (hparse : parseLine? marker line = some words) :
    ∃ later, words = .indentation marker width :: later := by
  have hcount : line.indentation = width := hline ▸ indentation_of_head? width hrest
  rcases comment_or_hasTokens hparse with ⟨hsign, -⟩ | ⟨-, code, later, rfl, -⟩
  · rw [isComment_eq_false_iff.mpr hcomment] at hsign
    contradiction
  · exact ⟨later, by rw [hcount, Word.ofIndentation, if_neg (Nat.ne_of_gt hwidth)]; rfl⟩

namespace Viewer

/-- With a file on display a line that starts with spaces and is no comment is listed with the
number of these spaces first. -/
theorem reply?_words_of_indented {v loaded : Viewer} {text line rest typed : Text}
    {number width : Nat} (hload : v.Loads text loaded) (hmarker : v.settings.indentMarker ≠ [])
    (hplace : v.settings.derivedLine? text number = some line) (hline : line = spaces width ++ rest)
    (hrest : rest.head? ≠ some ' ') (hwidth : 0 < width)
    (hcomment : ∀ width note, line ≠ spaces width ++ '#' :: note)
    (hparse : Command.parse typed = .ok (.words (number + 1))) (files : Files) (target : Target) :
    ∃ later, loaded.reply? files target typed =
      some ("  0  ".toList ++
        Text.padRight 20 ("<indent ".toList ++ Text.ofNumber width ++ ['>']) ++
          ' ' :: later, loaded) := by
  obtain ⟨path, rfl⟩ := hload.exists_display
  obtain ⟨words, hwords, hread⟩ := Document.exists_words_of_derivedLine? hplace
  obtain ⟨following, rfl⟩ := exists_indentation_cons hline hrest hwidth hcomment hread
  obtain ⟨later, hlisted⟩ := exists_listWords_cons v.settings.indentMarker
    (.indentation v.settings.indentMarker width) following
  rw [Word.listed_of_repeat hmarker hwidth rfl] at hlisted
  rw [reply?_of_parse hparse nofun, attempt_words, requireDocument_of_display rfl]
  simp only [Except.bind, Nat.add_sub_cancel, hwords, hlisted]
  exact ⟨_, rfl⟩

end Viewer

/-- **An indentation is listed with its width.** The words that look like indentations are the
repetitions of a marker that is not empty. There is one number of repeats only, and the marker is
found as many times from left to right, with nothing in between. Hence, with any file on display,
each of its lines that starts with spaces and is no comment is listed with the number of these
spaces first. -/
theorem lists_indentation_width :
    (∀ (marker : Text) (w : Word), w.isIndentation marker = true ↔
      marker ≠ [] ∧ ∃ count, 0 < count ∧ w.text = (List.replicate count marker).flatten) ∧
    (∀ (marker : Text) (w : Word) (count : Nat), marker ≠ [] →
      w.text = (List.replicate count marker).flatten →
        (∀ other, w.text = (List.replicate other marker).flatten → other = count) ∧
        w.text.pieces marker = List.replicate (count + 1) [] ∧
        (0 < count → w.listed marker = "<indent ".toList ++ Text.ofNumber count ++ ['>'])) ∧
    ∀ (v loaded : Viewer) (text line rest typed : Text) (number width : Nat),
      v.Loads text loaded → v.settings.indentMarker ≠ [] →
      v.settings.derivedLine? text number = some line →
      line = spaces width ++ rest → rest.head? ≠ some ' ' → 0 < width →
      (∀ width note, line ≠ spaces width ++ '#' :: note) →
      Command.parse typed = .ok (.words (number + 1)) →
      ∀ (files : Files) (target : Target), ∃ later, loaded.reply? files target typed =
        some ("  0  ".toList ++
          Text.padRight 20 ("<indent ".toList ++ Text.ofNumber width ++ ['>']) ++
            ' ' :: later, loaded) := by
  refine ⟨fun _ _ => Word.isIndentation_iff, fun marker w count hmarker htext => ?_, ?_⟩
  · exact ⟨fun other => Word.eq_of_repeat hmarker htext, Word.pieces_of_repeat hmarker htext,
      fun hpositive => Word.listed_of_repeat hmarker hpositive htext⟩
  · intro v loaded text line rest typed number width hload hmarker hplace hline hrest hwidth
      hcomment hparse
    exact Viewer.reply?_words_of_indented hload hmarker hplace hline hrest hwidth hcomment hparse

/-- A marker that overlaps itself and looks like a comment, on a line without tokens behind a
comment and a blank line. -/
theorem lists_indentation_width_overlap :
    let marker : Text := "##".toList
    let v : Viewer := { settings := { indentMarker := marker } }
    let text : Text := "x\n##########\n # x -- \n \r\n   -- i;1:0,1:1".toList
    let files : Files := fun _ => .error .missing
    let target := Style.plain.target v.settings
    let w : Word := .unmapped "######".toList
    v.Loads text (v.loadText text) ∧
      v.settings.derivedLine? text 1 = some (spaces 3 ++ "-- i;1:0,1:1".toList) ∧
      w.isIndentation marker = true ∧ w.text.pieces marker = [[], [], [], []] ∧
      (Word.unmapped "#####".toList).isIndentation marker = false ∧
      Command.parse "words 2".toList = .ok (.words 2) ∧
      ∃ later, (v.loadText text).reply? files target "words 2".toList =
        some ("  0  <indent 3>           ".toList ++ later, v.loadText text) := by
  intro marker v text files target w
  obtain ⟨hlooks, hcounted, hlisted⟩ := lists_indentation_width
  have hmarker : marker ≠ [] := by decide
  have htext : w.text = (List.replicate 3 marker).flatten := by decide
  have hodd : (Word.unmapped "#####".toList).isIndentation marker = false := by decide +kernel
  have hplace : v.settings.derivedLine? text 1 = some (spaces 3 ++ "-- i;1:0,1:1".toList) := by
    decide +kernel
  have hcomment : ∀ width note, spaces 3 ++ "-- i;1:0,1:1".toList ≠ spaces width ++ '#' :: note :=
    isComment_eq_false_iff.mp (by decide)
  have hwords : Command.parse "words 2".toList = .ok (.words 2) := by decide +kernel
  obtain ⟨later, hreply⟩ := hlisted v (v.loadText text) text _ _ _ 1 3 .text hmarker hplace rfl
    (by decide) (by decide) hcomment hwords files target
  exact ⟨.text, hplace, (hlooks marker w).mpr ⟨hmarker, 3, by decide, htext⟩,
    (hcounted marker w 3 hmarker htext).2.1, hodd, hwords, later, hreply⟩

end SpanViewer
