import SpanViewer.Document.Basic
import SpanViewer.Proofs.Document.Line
import SpanViewer.Proofs.Text.Returns
import SpanViewer.Proofs.Text.Trim

/-!
# Line endings of a document

A file whose lines end in a carriage return and a line feed holds the same document as the file
whose lines end in a line feed alone. The delimiter of either file divides it at the same place, no
word of the derived form takes a carriage return in, and the lines of the source are the same up to
one at the end.
-/

namespace SpanViewer

/-- A carriage return at the end of a line does not belong to its indentation. -/
theorem indentation_append_return (line : Text) :
    Text.indentation (line ++ ['\r']) = Text.indentation line :=
  indentation_append_cons line (by decide) []

/-- The same lines have the same indentation. -/
theorem Text.SameLine.indentation_eq {line returned : Text} (hsame : Text.SameLine line returned) :
    returned.indentation = line.indentation := by
  rcases hsame.eq_or with rfl | rfl
  · rfl
  · exact indentation_append_return line

/-- A carriage return at the end of a line does not belong to its comment. -/
theorem commentText_append_return (line : Text) :
    commentText (line ++ ['\r']) = commentText line := by
  unfold commentText
  rw [Text.cutLast?_append_singleton (by decide) (by decide)]
  cases line.cutLast? metadataMark with
  | none => exact Text.dropEndWhile_append_of_all line (by simp)
  | some parts => rfl

/-- A carriage return at the end of a line changes none of its words. -/
theorem parseLine?_append_return (marker line : Text) :
    parseLine? marker (line ++ ['\r']) = parseLine? marker line := by
  have htrim : Text.trim (line ++ ['\r']) = Text.trim line :=
    Text.trim_append_singleton line (by decide)
  have hcomment : Text.isComment (line ++ ['\r']) = Text.isComment line :=
    isComment_append_cons line (by decide) (by decide) []
  unfold parseLine? codeAndMetadata
  rw [htrim, hcomment, commentText_append_return, indentation_append_return]

/-- The lines of the derived form are read alike from both forms of its section. -/
theorem filterMap_parseLine?_of_sameLine (marker : Text) {lines returned : List Text}
    (hsame : List.Forall₂ Text.SameLine lines returned) :
    returned.filterMap (parseLine? marker) = lines.filterMap (parseLine? marker) := by
  induction hsame with
  | nil => rfl
  | @cons line line' lines returned hline hlines ih =>
    have hfirst : parseLine? marker line' = parseLine? marker line := by
      rcases hline.eq_or with rfl | rfl
      · rfl
      · exact parseLine?_append_return marker line
    rw [List.filterMap_cons, List.filterMap_cons, hfirst, ih]

/-- The delimiter of a file whose lines end in a line feed alone is not found behind carriage
returns. -/
theorem cutFirst?_lineFeedDelimiter_withReturns (text : Text) :
    text.withReturns.cutFirst? lineFeedDelimiter = none := by
  rw [Text.cutFirst?_eq_none_iff]
  intro front back htext
  have hdelimiter : lineFeedDelimiter = "\n##########".toList ++ ['\n'] := by decide
  rw [hdelimiter, ← List.append_assoc, List.append_assoc _ ['\n'], List.singleton_append] at htext
  obtain ⟨front', hfront⟩ := Text.exists_of_withReturns_eq_append_feed htext
  have hlast := congrArg List.getLast? hfront
  simp at hlast

/-- The delimiter that both kinds of files share divides them at the same place. -/
theorem splitSections_withReturns {format : FileFormat}
    (hdelimiter : format.delimiter = ({} : FileFormat).delimiter)
    (haccept : format.acceptLineFeed = true) {text : Text} (hreturn : '\r' ∉ text) :
    format.splitSections text.withReturns =
      ((format.splitSections text).1.withReturns,
        (format.splitSections text).2.map Text.withReturns) := by
  have hmark : ({} : FileFormat).delimiter = Text.withReturns ('\n' :: "##########\n".toList) := by
    decide
  have hfeed : lineFeedDelimiter = '\n' :: "##########\n".toList := by decide
  have hnone : text.cutFirst? format.delimiter = none := by
    rw [Text.cutFirst?_eq_none_iff]
    rintro front back rfl
    simp [hdelimiter] at hreturn
  have hcut : text.withReturns.cutFirst? format.delimiter =
      (text.cutFirst? lineFeedDelimiter).map (Prod.map Text.withReturns Text.withReturns) := by
    rw [hdelimiter, hmark, hfeed]
    exact Text.cutFirst?_withReturns hreturn (by decide)
  unfold FileFormat.splitSections
  rw [hnone, hcut, haccept, cutFirst?_lineFeedDelimiter_withReturns]
  cases text.cutFirst? lineFeedDelimiter <;> rfl

/-- No section of a text has characters that the text has not. -/
theorem not_mem_splitSections (format : FileFormat) {text : Text} {c : Char} (hc : c ∉ text) :
    c ∉ (format.splitSections text).1 ∧ ∀ derived ∈ (format.splitSections text).2, c ∉ derived := by
  unfold FileFormat.splitSections
  cases hcut : text.cutFirst? format.delimiter with
  | some parts =>
    rw [Text.eq_of_cutFirst? hcut] at hc
    simp_all
  | none =>
    cases hfeed : format.acceptLineFeed with
    | false => simpa using hc
    | true =>
      cases hcut' : text.cutFirst? lineFeedDelimiter with
      | none => simpa [hcut'] using hc
      | some parts =>
        rw [Text.eq_of_cutFirst? hcut'] at hc
        simp_all

/-- A file with carriage returns holds the same derived form, and the same lines of the source. -/
theorem Document.parse_withReturns {format : FileFormat}
    (hdelimiter : format.delimiter = ({} : FileFormat).delimiter)
    (haccept : format.acceptLineFeed = true) {text : Text} (hreturn : '\r' ∉ text) :
    (Document.parse format text.withReturns).derived = (Document.parse format text).derived ∧
      List.Forall₂ Text.SameLine (Document.parse format text).source
        (Document.parse format text.withReturns).source := by
  obtain ⟨source, derived, hsections⟩ :
      ∃ source derived, format.splitSections text = (source, derived) := ⟨_, _, rfl⟩
  have hreturned := splitSections_withReturns hdelimiter haccept hreturn
  have hmembers := not_mem_splitSections format hreturn
  rw [hsections] at hreturned hmembers
  obtain ⟨hsource, hderived⟩ := hmembers
  unfold Document.parse
  rw [hreturned, hsections]
  constructor
  · cases derived with
    | none => rfl
    | some derived =>
      have hlines := Text.lines_withReturns (hderived derived rfl)
      exact filterMap_parseLine?_of_sameLine _ hlines
  · by_cases hnone : source = []
    · simp [hnone, Text.withReturns]
    · simpa [hnone, Text.withReturns_eq_nil_iff] using Text.lines_withReturns hsource

end SpanViewer
