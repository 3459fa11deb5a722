import Mathlib.Data.List.Forall2
import SpanViewer.Proofs.Document.Line
import SpanViewer.Proofs.Position.Written
import SpanViewer.Proofs.Viewer.Run

/-!
# The spans of words

Whatever a file holds, a word that is read from it has a span that starts on a line and does not end
before its start, or none. A comment has none, and no indentation has one.
-/

namespace SpanViewer

/-- A chunk of metadata names a readable position or none. -/
theorem readable_chunkPosition (chunk : Text) : (chunkPosition chunk).Readable := by
  unfold chunkPosition
  split
  · exact Position.readable_unmapped
  · split
    · next hparse => exact Position.readable_of_parse hparse
    · exact Position.readable_unmapped

/-- Each word has one of the positions or none. -/
theorem position_of_mem_pairPositions {texts : List Text} {positions : List Position} {w : Word}
    (hw : w ∈ pairPositions texts positions) :
    w.position ∈ positions ∨ w.position = .unmapped := by
  obtain ⟨i, hi, rfl⟩ := List.mem_mapIdx.mp hw
  cases hposition : positions[i]? with
  | none => exact Or.inr rfl
  | some position => exact Or.inl (List.mem_of_getElem? hposition)

/-- Each token has a readable position, whatever stands behind the tokens. -/
theorem readable_of_mem_pairPositions (texts : List Text) (metadata : Option Text) :
    ∀ w ∈ pairPositions texts ((metadata.map metadataPositions).getD []),
      w.position.Readable := by
  intro w hw
  rcases position_of_mem_pairPositions hw with hposition | hnone
  · cases metadata with
    | none => contradiction
    | some metadata =>
      obtain ⟨chunk, -, hchunk⟩ := List.mem_map.mp hposition
      rw [← hchunk]
      exact readable_chunkPosition chunk
  · rw [hnone]
    exact Position.readable_unmapped

/-- What a line of the derived form is read as. -/
inductive ReadsAs (marker line : Text) : List Word → Prop
  /-- A comment is one word that comes from nowhere. -/
  | comment (hcomment : line.isComment = true) :
      ReadsAs marker line [.unmapped (commentText line)]
  /-- A line without an indentation is its tokens. -/
  | flush {words : List Word} (hcode : line.isComment = false) (hwidth : line.indentation = 0)
      (hwords : ∀ w ∈ words, w.position.Readable) : ReadsAs marker line words
  /-- An indentation comes from nowhere and stands in front of the tokens. -/
  | indented {words : List Word} (hcode : line.isComment = false) (hwidth : 0 < line.indentation)
      (hwords : ∀ w ∈ words, w.position.Readable) :
      ReadsAs marker line (.indentation marker line.indentation :: words)

/-- A line that is not blank is read as one of these. -/
theorem readsAs_of_parseLine? {marker line : Text} {words : List Word}
    (hparse : parseLine? marker line = some words) : ReadsAs marker line words := by
  cases hcomment : line.isComment with
  | true =>
    rw [parseLine?_of_isComment marker hcomment] at hparse
    obtain rfl := Option.some.inj hparse
    exact .comment hcomment
  | false =>
    rw [parseLine?_of_code marker (trim_ne_nil_of_parseLine? hparse) hcomment] at hparse
    obtain rfl := Option.some.inj hparse
    have htokens := readable_of_mem_pairPositions (tokens (codeAndMetadata line).1.trim)
      (codeAndMetadata line).2
    by_cases hwidth : line.indentation = 0
    · rw [Word.ofIndentation, if_pos hwidth, List.nil_append]
      exact .flush hcomment hwidth htokens
    · rw [Word.ofIndentation, if_neg hwidth, List.singleton_append]
      exact .indented hcomment (Nat.pos_of_ne_zero hwidth) htokens

/-- Every word of a line has a readable position. -/
theorem ReadsAs.readable {marker line : Text} {words : List Word}
    (hline : ReadsAs marker line words) : ∀ w ∈ words, w.position.Readable := by
  cases hline with
  | comment => exact List.forall_mem_singleton.mpr Position.readable_unmapped
  | flush hcode hwidth hwords => exact hwords
  | indented hcode hwidth hwords =>
    exact List.forall_mem_cons.mpr ⟨Position.readable_unmapped, hwords⟩

/-- The word of a comment has no span. -/
theorem ReadsAs.of_comment {marker line : Text} {words : List Word}
    (hline : ReadsAs marker line words) (hcomment : line.isComment = true) :
    ∃ w, words = [w] ∧ w.position = .unmapped := by
  cases hline with
  | comment => exact ⟨_, rfl, rfl⟩
  | flush hcode | indented hcode =>
    rw [hcomment] at hcode
    contradiction

/-- The first word of an indented line is the indentation, which has no span. -/
theorem ReadsAs.of_indented {marker line : Text} {words : List Word}
    (hline : ReadsAs marker line words) (hcode : line.isComment = false)
    (hwidth : 0 < line.indentation) :
    ∃ w rest, words = w :: rest ∧ w = .indentation marker line.indentation ∧
      w.position = .unmapped := by
  cases hline with
  | comment hcomment =>
    rw [hcode] at hcomment
    contradiction
  | flush _ hnone => exact absurd hnone (Nat.ne_of_gt hwidth)
  | indented => exact ⟨_, _, rfl, rfl, rfl⟩

/-- The lines of the derived form. -/
def FileFormat.derivedLines (format : FileFormat) (text : Text) : List Text :=
  ((format.splitSections text).2.map Text.lines).getD []

namespace Document

/-- The derived form is read line by line. -/
theorem derived_parse (format : FileFormat) (text : Text) :
    (parse format text).derived =
      (format.derivedLines text).filterMap (parseLine? format.indentMarker) := by
  simp only [parse, FileFormat.derivedLines]
  cases (format.splitSections text).2 with
  | none => rfl
  | some derived => rfl

/-- Each line of the derived form that is not blank is read as one of its kinds. -/
theorem forall₂_derived_parse (format : FileFormat) (text : Text) :
    List.Forall₂ (ReadsAs format.indentMarker)
      ((format.derivedLines text).filter fun line => line.trim ≠ [])
      (parse format text).derived := by
  rw [derived_parse]
  induction format.derivedLines text with
  | nil => exact .nil
  | cons line lines ih =>
    cases hparse : parseLine? format.indentMarker line with
    | none =>
      have hblank := parseLine?_eq_none_iff.mp hparse
      rw [List.filterMap_cons_none hparse, List.filter_cons_of_neg (by simp [hblank])]
      exact ih
    | some words =>
      have hblank : line.trim ≠ [] := by
        rw [Ne, ← parseLine?_eq_none_iff, hparse]
        exact Option.some_ne_none _
      rw [List.filterMap_cons_some hparse, List.filter_cons_of_pos (by simp [hblank])]
      exact .cons (readsAs_of_parseLine? hparse) ih

/-- The words of a document have readable positions. -/
theorem readable_parse (format : FileFormat) (text : Text) :
    ∀ words ∈ (parse format text).derived, ∀ w ∈ words, w.position.Readable := by
  intro words hwords
  rw [derived_parse] at hwords
  obtain ⟨line, -, hparse⟩ := List.mem_filterMap.mp hwords
  exact (readsAs_of_parseLine? hparse).readable

/-- Every word that is read from a file, or that a viewer shows after any operations, has a valid
span or none. The word of a comment has none, and neither has an indentation. -/
theorem positions_parse (format : FileFormat) (text : Text) (settings : Settings)
    (operations : List Operation) :
    (∀ words ∈ (parse format text).derived, ∀ w ∈ words,
      w.position.Valid ∧ w.position.Bounded) ∧
    List.Forall₂ (fun line words =>
        (line.isComment = true → ∃ w, words = [w] ∧ w.position = .unmapped) ∧
        (line.isComment = false → 0 < line.indentation →
          ∃ w rest, words = w :: rest ∧ w = .indentation format.indentMarker line.indentation ∧
            w.position = .unmapped))
      ((format.derivedLines text).filter fun line => line.trim ≠ []) (parse format text).derived ∧
    ∀ words ∈ (Viewer.run ⟨settings, none⟩ operations).document.derived, ∀ w ∈ words,
      w.position.Valid ∧ w.position.Bounded := by
  refine ⟨readable_parse format text, ?_, ?_⟩
  · exact (forall₂_derived_parse format text).imp fun line words hline =>
      ⟨hline.of_comment, hline.of_indented⟩
  · obtain hempty | ⟨loaded, hloaded⟩ := Viewer.document_run settings operations
    · rw [hempty]
      exact List.forall_mem_nil _
    · rw [hloaded]
      exact readable_parse settings.toFileFormat loaded

/-- A span that is kept between spans that end before their start or do not start on a line. -/
theorem positions_parse_invalid :
    let text := "f(1)\n##########\n  a b c -- i;1:5,1:4|i;1:0,1:1|i;0:1,1:2\n# a -- i;1:0,1:1\n".toList
    let w : Word := ⟨['b'], ⟨1, 0, 1, 1⟩⟩
    let words : List Word := [.indentation ['\u00a0'] 2, .unmapped ['a'], w, .unmapped ['c']]
    (parse {} text).derived = [words, [.unmapped "# a ".toList]] ∧
      words ∈ (parse {} text).derived ∧ w ∈ words ∧ w.position.Valid ∧ w.position.Bounded := by
  intro text w words
  have hderived : (parse {} text).derived = [words, [.unmapped "# a ".toList]] := by
    decide +kernel
  have hwords : words ∈ (parse {} text).derived := by
    rw [hderived]
    exact List.mem_cons_self
  have hw : w ∈ words := by decide
  exact ⟨hderived, hwords, hw, (positions_parse {} text {} []).1 words hwords w hw⟩

end Document

end SpanViewer
