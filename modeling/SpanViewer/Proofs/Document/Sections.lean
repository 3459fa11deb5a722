import Mathlib.Data.List.Infix
import SpanViewer.Proofs.Document.Positions
import SpanViewer.Proofs.Text.Lines

/-!
# Sections of a file

A file is divided by the first of its format's delimiters that occurs in it, at the first place
where that one occurs; a file without a delimiter is all source. The two sections with the delimiter
between them are the file. The lines of the source are the source section, and the derived form has
the words of each line of the other section that is not blank, in its place.
-/

namespace SpanViewer

namespace FileFormat

/-- The delimiters that a format accepts. The first one is preferred. -/
def delimiters (format : FileFormat) : List Text :=
  format.delimiter :: if format.acceptLineFeed then [lineFeedDelimiter] else []

/-- The delimiter that divides a text: the first one of the format that occurs in it. -/
def delimiterOf? (format : FileFormat) (text : Text) : Option Text :=
  format.delimiters.find? fun delimiter => delimiter <:+: text

/-- A text has no delimiter exactly if none that the format accepts occurs in it. -/
theorem delimiterOf?_eq_none_iff {format : FileFormat} {text : Text} :
    format.delimiterOf? text = none ↔ ∀ delimiter ∈ format.delimiters, ¬delimiter <:+: text := by
  simp [delimiterOf?, List.find?_eq_none]

/-- A text is cut at the first occurrence of its delimiter, and left alone if it has none. -/
theorem splitSections_cases (format : FileFormat) (text : Text) :
    (format.delimiterOf? text = none ∧ format.splitSections text = (text, none)) ∨
      ∃ delimiter source derived, format.delimiterOf? text = some delimiter ∧
        text.cutFirst? delimiter = some (source, derived) ∧
        format.splitSections text = (source, some derived) := by
  have hoccurs (delimiter : Text) :
      decide (delimiter <:+: text) = (text.cutFirst? delimiter).isSome := by
    rw [Bool.eq_iff_iff, decide_eq_true_iff, Text.isSome_cutFirst?_iff]
  unfold delimiterOf? delimiters splitSections
  rw [List.find?_cons, hoccurs]
  cases hcut : text.cutFirst? format.delimiter with
  | some parts => exact .inr ⟨format.delimiter, parts.1, parts.2, rfl, hcut, rfl⟩
  | none =>
    cases format.acceptLineFeed with
    | false => exact .inl ⟨rfl, rfl⟩
    | true =>
      simp only [Option.isSome_none, if_true, List.find?_cons, hoccurs]
      cases hfeed : text.cutFirst? lineFeedDelimiter with
      | none => exact .inl ⟨rfl, rfl⟩
      | some parts => exact .inr ⟨lineFeedDelimiter, parts.1, parts.2, rfl, hfeed, rfl⟩

/-- A text is all source exactly if it has no delimiter. -/
theorem splitSections_eq_iff {format : FileFormat} {text : Text} :
    format.splitSections text = (text, none) ↔ format.delimiterOf? text = none := by
  rcases format.splitSections_cases text with ⟨hdelimiter, hsections⟩ |
    ⟨delimiter, source, derived, hdelimiter, -, hsections⟩
  · exact iff_of_true hsections hdelimiter
  · refine iff_of_false ?_ ?_
    · simp [hsections]
    · simp [hdelimiter]

/-- A text with a delimiter is cut at its first occurrence. -/
theorem exists_cut_of_delimiterOf? {format : FileFormat} {text delimiter : Text}
    (hdelimiter : format.delimiterOf? text = some delimiter) :
    ∃ source derived, text.cutFirst? delimiter = some (source, derived) ∧
      format.splitSections text = (source, some derived) := by
  rcases format.splitSections_cases text with ⟨hnone, -⟩ |
    ⟨delimiter', source, derived, hsome, hcut, hsections⟩
  · rw [hdelimiter] at hnone
    contradiction
  · rw [hdelimiter] at hsome
    obtain rfl := Option.some.inj hsome
    exact ⟨source, derived, hcut, hsections⟩

end FileFormat

namespace Document

/-- The text of the source is the source section. -/
theorem sourceText_parse (format : FileFormat) (text : Text) :
    (parse format text).sourceText = (format.splitSections text).1 := by
  simp only [sourceText, parse]
  generalize (format.splitSections text).1 = source
  cases source with
  | nil => rfl
  | cons c rest => exact Text.ofLines_lines (c :: rest)

/-- No line of the source holds a line feed. -/
theorem not_mem_of_mem_source_parse (format : FileFormat) (text : Text) :
    ∀ line ∈ (parse format text).source, '\n' ∉ line := by
  simp only [parse]
  split
  · exact List.forall_mem_nil _
  · exact fun line hline => Text.not_mem_of_mem_splitOn hline

/-- Only the empty source section has no lines. -/
theorem source_parse_eq_nil_iff (format : FileFormat) (text : Text) :
    (parse format text).source = [] ↔ (format.splitSections text).1 = [] := by
  simp only [parse]
  split
  · next hempty => exact iff_of_true rfl (List.isEmpty_iff.mp hempty)
  · next hsome => exact iff_of_false (List.splitOn_ne_nil _ _) (by simpa using hsome)

/-- The derived form has the words of each line of its section that is not blank, in order. -/
theorem map_some_derived_parse (format : FileFormat) (text : Text) :
    (parse format text).derived.map some =
      ((format.derivedLines text).filter fun line => !line.all isBlank).map
        (parseLine? format.indentMarker) := by
  have hread (line : Text) :
      (parseLine? format.indentMarker line).isSome = !line.all isBlank := by
    rw [Bool.eq_iff_iff, Option.isSome_iff_ne_none, Ne, parseLine?_eq_none_iff,
      Text.trim_eq_nil_iff, Bool.not_eq_true', ← List.all_eq_true, Bool.not_eq_true]
  rw [derived_parse, List.map_filterMap_some_eq_filter_map_isSome, List.filter_map]
  simp only [Function.comp_def, hread]

/-- **Reading keeps the sections of a file apart and loses nothing.** A file without a delimiter is
all source. A file with one is cut around its first occurrence, in front of which it does not
occur. The source is the source section, line by line, and the derived form is read line by line
from the other section. -/
theorem parse_sections (format : FileFormat) (text : Text) :
    (format.splitSections text = (text, none) ↔
      ∀ delimiter ∈ format.delimiters, ¬delimiter <:+: text) ∧
    (∀ delimiter, format.delimiterOf? text = some delimiter →
      ∃ source derived, format.splitSections text = (source, some derived) ∧
        text = source ++ delimiter ++ derived ∧
        (∀ front back, text = front ++ delimiter ++ back → source.length ≤ front.length) ∧
        ∀ front back, source ++ delimiter = front ++ delimiter ++ back → back = []) ∧
    (parse format text).sourceText = (format.splitSections text).1 ∧
    (∀ line ∈ (parse format text).source, '\n' ∉ line) ∧
    ((parse format text).source = [] ↔ (format.splitSections text).1 = []) ∧
    (parse format text).derived.map some =
      ((format.derivedLines text).filter fun line => !line.all isBlank).map
        (parseLine? format.indentMarker) := by
  refine ⟨?_, ?_, sourceText_parse format text, not_mem_of_mem_source_parse format text,
    source_parse_eq_nil_iff format text, map_some_derived_parse format text⟩
  · rw [FileFormat.splitSections_eq_iff, FileFormat.delimiterOf?_eq_none_iff]
  · intro delimiter hdelimiter
    obtain ⟨source, derived, hcut, hsections⟩ := FileFormat.exists_cut_of_delimiterOf? hdelimiter
    exact ⟨source, derived, hsections, Text.eq_of_cutFirst? hcut,
      fun _ _ => Text.length_le_of_cutFirst? hcut, fun _ _ => Text.eq_nil_of_cutFirst? hcut⟩

/-- A delimiter that two places share a line ending of, behind a line that would divide a file if
that delimiter did not occur. -/
theorem parse_sections_overlap :
    let text := "x\n##########\ny\r\n##########\r\n##########\r\nin -- i;1:0,1:1\n \r\n".toList
    let source := "x\n##########\ny".toList
    let derived := "##########\r\nin -- i;1:0,1:1\n \r\n".toList
    let delimiter := "\r\n##########\r\n".toList
    ({} : FileFormat).delimiterOf? text = some delimiter ∧
      ({} : FileFormat).splitSections text = (source, some derived) ∧
      text = source ++ delimiter ++ derived ∧
      (∀ front back, text = front ++ delimiter ++ back → source.length ≤ front.length) ∧
      (parse {} text).derived.map some =
        [some [.unmapped "##########".toList], some [⟨"in".toList, ⟨1, 0, 1, 1⟩⟩]] := by
  intro text source derived delimiter
  have hdelimiter : ({} : FileFormat).delimiterOf? text = some delimiter := by decide +kernel
  have hsections : ({} : FileFormat).splitSections text = (source, some derived) := by
    decide +kernel
  obtain ⟨-, hdivided, -, -, -, hderived⟩ := parse_sections {} text
  obtain ⟨source', derived', hsections', htext, hfirst, -⟩ := hdivided delimiter hdelimiter
  rw [hsections] at hsections'
  obtain ⟨rfl, hsome⟩ := Prod.mk.inj hsections'
  obtain rfl := Option.some.inj hsome
  exact ⟨hdelimiter, hsections, htext, hfirst, hderived.trans (by decide +kernel)⟩

end Document

end SpanViewer
