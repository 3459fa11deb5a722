import SpanViewer.Document.Basic
import SpanViewer.Proofs.Document.Metadata
import SpanViewer.Proofs.Position.Written

/-!
# Written documents

A file is written as the lines of the source, the delimiter and the lines of the derived form, where
each token has a chunk of metadata with its span. A document that is written so is read back, word
for word and span for span, provided that the delimiter does not show up before its place.
-/

namespace SpanViewer

/-- A word that a line can hold as a token, with the span that its chunk of metadata names. -/
structure Word.IsToken (w : Word) : Prop where
  /-- A token has at least one character. -/
  ne_nil : w.text ≠ []
  /-- A token ends where a blank stands. -/
  not_blank : ∀ c ∈ w.text, isBlank c = false
  /-- The metadata mark would end the tokens of the line. -/
  no_mark : ∀ front back, w.text ≠ front ++ metadataMark ++ back
  /-- The span is one that a chunk may name. -/
  valid : w.position.Valid
  /-- The span is written in numbers that can be read. -/
  bounded : w.position.Bounded

instance (w : Word) : Decidable w.IsToken :=
  decidable_of_iff (w.text ≠ [] ∧ w.text.any isBlank = false ∧
      w.text.cutFirst? metadataMark = none ∧ w.position.Valid ∧ w.position.Bounded)
    ⟨fun ⟨hne, hblank, hmark, hvalid, hbound⟩ =>
        ⟨hne, by simpa using hblank, Text.cutFirst?_eq_none_iff.mp hmark, hvalid, hbound⟩,
      fun htoken => ⟨htoken.ne_nil, by simpa using htoken.not_blank,
        Text.cutFirst?_eq_none_iff.mpr htoken.no_mark, htoken.valid, htoken.bounded⟩⟩

/-- What a line of the derived form is written for. -/
inductive DerivedLine where
  /-- A comment: a number sign behind an indentation, and a note. -/
  | comment (width : Nat) (note : Text)
  /-- Tokens behind an indentation. -/
  | code (width : Nat) (first : Word) (others : List Word)

namespace DerivedLine

/-- The words of a line. The indentation is a word of its own, unless there is none. -/
def words (marker : Text) : DerivedLine → List Word
  | comment width note => [.unmapped (spaces width ++ '#' :: note)]
  | code width first others =>
    (if width = 0 then [] else [.indentation marker width]) ++ first :: others

/-- The chunk of metadata for a span: empty for none, else a field in front of the span, which is
left empty, and the span. -/
def chunkText (p : Position) : Text :=
  if p = .unmapped then [] else ';' :: p.render

/-- The metadata of a line, chunk by chunk. -/
def metadataText (words : List Word) : Text :=
  ['|'].intercalate (words.map fun w => chunkText w.position)

/-- The tokens of a line, with spaces between them. -/
def codeText (words : List Word) : Text :=
  [' '].intercalate (words.map Word.text)

/-- The written form of a line. -/
def render : DerivedLine → Text
  | comment width note => spaces width ++ '#' :: note ++ metadataMark
  | code width first others =>
    spaces width ++ (codeText (first :: others) ++ ' ' :: (metadataMark ++
      ' ' :: metadataText (first :: others)))

/-- A line that can be written: a note stays on its line, and tokens are no comment. -/
def Writable : DerivedLine → Prop
  | comment _ note => '\n' ∉ note
  | code _ first others => first.text.head? ≠ some '#' ∧ ∀ w ∈ first :: others, w.IsToken

instance : (line : DerivedLine) → Decidable line.Writable
  | comment _ note => inferInstanceAs (Decidable ('\n' ∉ note))
  | code _ first others => inferInstanceAs (Decidable (_ ∧ ∀ w ∈ first :: others, w.IsToken))

end DerivedLine

/-- The text of a file. -/
def writeFile (delimiter : Text) (source : List Text) (lines : List DerivedLine) : Text :=
  .ofLines source ++ delimiter ++ .ofLines (lines.map DerivedLine.render)

/-- A chunk names the span that it was written for. -/
theorem chunkPosition_chunkText {p : Position} (hvalid : p.Valid) (hbound : p.Bounded) :
    chunkPosition (DerivedLine.chunkText p) = p := by
  by_cases hnone : p = .unmapped
  · simp [DerivedLine.chunkText, hnone, chunkPosition]
  · have hfield : ';' ∉ p.render := by
      intro hmem
      rcases Position.mem_render hmem with hdigit | hcolon | hcomma <;> simp_all
    have hfields : (';' :: p.render).splitOn ';' = [[], p.render] := by
      rw [← List.nil_append (';' :: p.render),
        List.splitOn_append_cons_self_of_not_mem (by simp), List.splitOn_eq_singleton hfield]
    rw [DerivedLine.chunkText, if_neg hnone, chunkPosition, hfields]
    simp [Position.parse_render hvalid hbound]

/-- A space in front of a chunk belongs to its first field, which is not looked at. -/
theorem chunkPosition_cons_space (chunk : Text) :
    chunkPosition (' ' :: chunk) = chunkPosition chunk := by
  obtain ⟨field, fields, hfields⟩ :=
    List.exists_cons_of_ne_nil (List.splitOn_ne_nil ';' chunk)
  simp [chunkPosition, List.splitOn_cons_eq_if_modifyHead, hfields]

/-- A space in front of the metadata belongs to the first chunk. -/
theorem metadataPositions_cons_space (metadata : Text) :
    metadataPositions (' ' :: metadata) = metadataPositions metadata := by
  obtain ⟨chunk, chunks, hchunks⟩ :=
    List.exists_cons_of_ne_nil (List.splitOn_ne_nil '|' metadata)
  simp [metadataPositions, List.splitOn_cons_eq_if_modifyHead, hchunks, chunkPosition_cons_space]

/-- The characters of a chunk are semicolons and those of a written span. -/
theorem mem_chunkText {p : Position} {c : Char} (hc : c ∈ DerivedLine.chunkText p) :
    c = ';' ∨ c ∈ p.render := by
  rw [DerivedLine.chunkText] at hc
  split at hc
  · contradiction
  · exact List.mem_cons.mp hc

/-- The metadata of a line names the spans of its words. -/
theorem metadataPositions_metadataText {words : List Word} (hne : words ≠ [])
    (hwords : ∀ w ∈ words, w.IsToken) :
    metadataPositions (DerivedLine.metadataText words) = words.map Word.position := by
  have hbar : ∀ chunk ∈ words.map fun w => DerivedLine.chunkText w.position, '|' ∉ chunk := by
    intro chunk hchunk hmem
    obtain ⟨w, -, rfl⟩ := List.mem_map.mp hchunk
    rcases mem_chunkText hmem with hsemicolon | hrender
    · simp at hsemicolon
    · rcases Position.mem_render hrender with hdigit | hcolon | hcomma <;> simp_all
  rw [metadataPositions, DerivedLine.metadataText,
    List.splitOn_intercalate '|' hbar (by simpa using hne), List.map_map]
  apply List.map_congr_left
  intro w hw
  exact chunkPosition_chunkText (hwords w hw).valid (hwords w hw).bounded

/-- Nothing in the metadata of a line is blank. -/
theorem isBlank_of_mem_metadataText {words : List Word} {c : Char}
    (hc : c ∈ DerivedLine.metadataText words) : isBlank c = false := by
  rcases Text.mem_intercalate hc with hbar | ⟨chunk, hchunk, hmem⟩
  · obtain rfl := List.mem_singleton.mp hbar
    decide
  · obtain ⟨w, -, rfl⟩ := List.mem_map.mp hchunk
    rcases mem_chunkText hmem with rfl | hrender
    · decide
    · exact Position.isBlank_of_mem_render hrender

/-- The tokens of a line start with the first character of the first token. -/
theorem exists_codeText_cons {first : Word} (hfirst : first.IsToken) (others : List Word) :
    ∃ c rest, DerivedLine.codeText (first :: others) = c :: rest ∧ first.text.head? = some c ∧
      isBlank c = false := by
  obtain ⟨c, text, htext⟩ := List.exists_cons_of_ne_nil hfirst.ne_nil
  have hblank : isBlank c = false := hfirst.not_blank c (by simp [htext])
  cases others with
  | nil => exact ⟨c, text, by simp [DerivedLine.codeText, htext], by simp [htext], hblank⟩
  | cons next others =>
    refine ⟨c, text ++ ' ' :: DerivedLine.codeText (next :: others), ?_, by simp [htext], hblank⟩
    simp [DerivedLine.codeText, List.intercalate_cons_cons, htext]

/-- The tokens of a line end with a character that is not blank. -/
theorem exists_codeText_append {words : List Word} (hne : words ≠ [])
    (hwords : ∀ w ∈ words, w.IsToken) :
    ∃ front c, DerivedLine.codeText words = front ++ [c] ∧ isBlank c = false := by
  induction words with
  | nil => contradiction
  | cons w words ih =>
    cases words with
    | nil =>
      have htoken := hwords w (by simp)
      obtain ⟨front, c, htext⟩ := w.text.eq_nil_or_concat.resolve_left htoken.ne_nil
      refine ⟨front, c, by simp [DerivedLine.codeText, htext], htoken.not_blank c ?_⟩
      simp [htext]
    | cons next words =>
      obtain ⟨front, c, hrest, hc⟩ := ih (by simp) fun v hv => hwords v (by simp [hv])
      refine ⟨w.text ++ ' ' :: front, c, ?_, hc⟩
      simp only [DerivedLine.codeText, List.map_cons] at hrest ⊢
      rw [List.intercalate_cons_cons, hrest]
      simp

/-- The tokens of a line are trimmed already. -/
theorem trim_codeText {first : Word} {others : List Word}
    (hwords : ∀ w ∈ first :: others, w.IsToken) :
    Text.trim (DerivedLine.codeText (first :: others) ++ [' ']) =
      DerivedLine.codeText (first :: others) := by
  obtain ⟨c, rest, hfront, -, hc⟩ := exists_codeText_cons (hwords first (by simp)) others
  obtain ⟨front, d, hback, hd⟩ := exists_codeText_append (List.cons_ne_nil first others) hwords
  rw [Text.trim_append_singleton _ (by decide)]
  apply Text.trim_eq_self
  · simpa [hfront] using hc
  · simpa [hback] using hd

/-- The words of a line are read back from its tokens. -/
theorem tokens_codeText {first : Word} {others : List Word}
    (hwords : ∀ w ∈ first :: others, w.IsToken) :
    tokens (DerivedLine.codeText (first :: others)) = (first :: others).map Word.text := by
  apply tokens_intercalate (by simp)
  intro text hmem
  obtain ⟨w, hw, rfl⟩ := List.mem_map.mp hmem
  refine ⟨(hwords w hw).ne_nil, fun hspace => ?_⟩
  have hblank := (hwords w hw).not_blank ' ' hspace
  contradiction

/-- A comment is read back up to the mark at its end. -/
theorem parseLine?_render_comment (marker : Text) (width : Nat) (note : Text) :
    parseLine? marker (DerivedLine.comment width note).render =
      some ((DerivedLine.comment width note).words marker) := by
  have hcomment : Text.isComment (DerivedLine.comment width note).render = true := by
    simp [DerivedLine.render, isComment_spaces_append]
  rw [parseLine?_of_isComment marker hcomment, commentText, DerivedLine.render,
    Text.cutLast?_append_self]
  rfl

/-- The tokens of a written line do not form the metadata mark. -/
theorem codeText_ne_append_metadataMark {words : List Word} (hwords : ∀ w ∈ words, w.IsToken)
    (front back : Text) : DerivedLine.codeText words ≠ front ++ metadataMark ++ back := by
  apply ne_append_metadataMark
  intro text hmem
  obtain ⟨w, hw, rfl⟩ := List.mem_map.mp hmem
  exact (hwords w hw).no_mark

/-- Tokens are read back with their spans. -/
theorem pairPositions_codeText {first : Word} {others : List Word}
    (hwords : ∀ w ∈ first :: others, w.IsToken) :
    pairPositions (tokens (DerivedLine.codeText (first :: others)))
      (metadataPositions (' ' :: DerivedLine.metadataText (first :: others))) =
        first :: others := by
  rw [tokens_codeText hwords, metadataPositions_cons_space,
    metadataPositions_metadataText (List.cons_ne_nil first others) hwords, pairPositions_map]

/-- The indentation of a written line ends where its tokens start. -/
theorem indentation_codeText (width : Nat) {first : Word} (hfirst : first.IsToken)
    (others : List Word) (tail : Text) :
    Text.indentation (spaces width ++ (DerivedLine.codeText (first :: others) ++ tail)) =
      width := by
  obtain ⟨c, rest, hfront, -, hc⟩ := exists_codeText_cons hfirst others
  have hspace : c ≠ ' ' := by
    rintro rfl
    contradiction
  rw [hfront]
  exact indentation_spaces_append width hspace (rest ++ tail)

/-- A written line is no comment if its first token does not start with a number sign. -/
theorem isComment_codeText (width : Nat) {first : Word} (hfirst : first.IsToken)
    (hsign : first.text.head? ≠ some '#') (others : List Word) (tail : Text) :
    Text.isComment (spaces width ++ (DerivedLine.codeText (first :: others) ++ tail)) = false := by
  obtain ⟨c, rest, hfront, hhead, hc⟩ := exists_codeText_cons hfirst others
  have hspace : c ≠ ' ' := by
    rintro rfl
    contradiction
  have hnumber : c ≠ '#' := by
    rintro rfl
    exact hsign hhead
  rw [hfront, List.cons_append, isComment_spaces_append width hspace]
  simpa using hnumber

/-- Tokens are read back with their indentation and their spans. -/
theorem parseLine?_render_code (marker : Text) (width : Nat) {first : Word} {others : List Word}
    (hsign : first.text.head? ≠ some '#') (hwords : ∀ w ∈ first :: others, w.IsToken) :
    parseLine? marker (DerivedLine.code width first others).render =
      some ((DerivedLine.code width first others).words marker) := by
  have hfirst := hwords first (by simp)
  let code : Text := spaces width ++ (DerivedLine.codeText (first :: others) ++ [' '])
  have hrender : (DerivedLine.code width first others).render =
      code ++ metadataMark ++ ' ' :: DerivedLine.metadataText (first :: others) := by
    simp [DerivedLine.render, code]
  have hcomment : code.isComment = false := isComment_codeText width hfirst hsign others [' ']
  have hwidth : (DerivedLine.code width first others).render.indentation = width :=
    indentation_codeText width hfirst others _
  have htrim : code.trim = DerivedLine.codeText (first :: others) :=
    (Text.trim_append_left (fun c hc => isBlank_of_mem_spaces hc) _).trans (trim_codeText hwords)
  have honly (front back : Text) (hline : code ++ metadataMark = front ++ metadataMark ++ back) :
      back = [] := by
    have hmark := spaces_append_ne_append_metadataMark width
      (codeText_ne_append_metadataMark hwords)
    exact eq_nil_of_append_metadataMark hmark (by simpa [code] using hline)
  have htokens := hasTokens_of_mark marker hcomment honly
    (' ' :: DerivedLine.metadataText (first :: others))
  rw [← hrender, metadataPositions_trimEnd, htrim, pairPositions_codeText hwords, hasTokens_iff,
    hwidth] at htokens
  exact htokens

/-- A line is read back from its written form. -/
theorem parseLine?_render (marker : Text) {line : DerivedLine} (hline : line.Writable) :
    parseLine? marker line.render = some (line.words marker) := by
  cases line with
  | comment width note => exact parseLine?_render_comment marker width note
  | code width first others => exact parseLine?_render_code marker width hline.1 hline.2

/-- A written line stays on one line. -/
theorem not_mem_render {line : DerivedLine} (hline : line.Writable) : '\n' ∉ line.render := by
  have hspaces (width : Nat) : '\n' ∉ spaces width := by
    intro hmem
    have hfeed := List.eq_of_mem_replicate hmem
    contradiction
  cases line with
  | comment width note =>
    have hnote : '\n' ∉ note := hline
    simpa [DerivedLine.render, metadataMark, hspaces width] using hnote
  | code width first others =>
    have hcode : '\n' ∉ DerivedLine.codeText (first :: others) := by
      intro hmem
      rcases Text.mem_intercalate hmem with hspace | ⟨text, htext, hmem⟩
      · contradiction
      · obtain ⟨w, hw, rfl⟩ := List.mem_map.mp htext
        have hblank := (hline.2 w hw).not_blank '\n' hmem
        contradiction
    have hmetadata : '\n' ∉ DerivedLine.metadataText (first :: others) := by
      intro hmem
      have hblank := isBlank_of_mem_metadataText hmem
      contradiction
    simp [DerivedLine.render, metadataMark, hspaces width, hcode, hmetadata]

/-- The lines of the derived form are read back one by one. -/
theorem filterMap_parseLine?_render (marker : Text) {lines : List DerivedLine}
    (hlines : ∀ line ∈ lines, line.Writable) :
    (lines.map DerivedLine.render).filterMap (parseLine? marker) =
      lines.map (DerivedLine.words marker) := by
  induction lines with
  | nil => rfl
  | cons line lines ih =>
    have hline := parseLine?_render marker (hlines line (by simp))
    have hrest := ih fun other hother => hlines other (by simp [hother])
    rw [List.map_cons, List.filterMap_cons_some hline, hrest, List.map_cons]

/-- The lines of the derived form are read back from their section. -/
theorem filterMap_parseLine?_lines (marker : Text) {lines : List DerivedLine}
    (hlines : ∀ line ∈ lines, line.Writable) :
    (Text.ofLines (lines.map DerivedLine.render)).lines.filterMap (parseLine? marker) =
      lines.map (DerivedLine.words marker) := by
  by_cases hnone : lines = []
  · subst hnone
    rfl
  · have hfeed : ∀ text ∈ lines.map DerivedLine.render, '\n' ∉ text := by
      intro text hmem
      obtain ⟨line, hline, rfl⟩ := List.mem_map.mp hmem
      exact not_mem_render (hlines line hline)
    rw [Text.lines_ofLines (by simpa using hnone) hfeed, filterMap_parseLine?_render marker hlines]

/-- A document is read back from the file that it is written to. -/
theorem Document.parse_writeFile (format : FileFormat) (d : Document) {lines : List DerivedLine}
    (hfeed : ∀ line ∈ d.source, '\n' ∉ line) (hsource : d.source ≠ [[]])
    (hlines : ∀ line ∈ lines, line.Writable)
    (hderived : d.derived = lines.map (DerivedLine.words format.indentMarker))
    (hdelimiter : ∀ front back,
      Text.ofLines d.source ++ format.delimiter = front ++ format.delimiter ++ back → back = []) :
    Document.parse format (writeFile format.delimiter d.source lines) = d := by
  have hsections : format.splitSections (writeFile format.delimiter d.source lines) =
      (.ofLines d.source, some (.ofLines (lines.map DerivedLine.render))) := by
    rw [FileFormat.splitSections, writeFile, Text.cutFirst?_append hdelimiter]
  have hread : (if (Text.ofLines d.source).isEmpty then [] else (Text.ofLines d.source).lines) =
      d.source := by
    by_cases hnone : d.source = []
    · simp [hnone]
    · have htext : Text.ofLines d.source ≠ [] := by simp [Text.ofLines_eq_nil_iff, hnone, hsource]
      rw [if_neg (by simpa using htext), Text.lines_ofLines hnone hfeed]
  simp only [Document.parse, hsections, hread, filterMap_parseLine?_lines _ hlines, ← hderived]

/-- Tokens that end in a hyphen, a mark in a comment and metadata for some words only. -/
theorem Document.parse_writeFile_decrement :
    Document.parse {} (writeFile ({} : FileFormat).delimiter ["n = é - 1".toList, []]
        [.comment 2 " n -- é".toList,
          .code 1 ⟨"n".toList, ⟨1, 0, 1, 1⟩⟩ [⟨"-".toList, ⟨1, 4, 2, 0⟩⟩, .unmapped "é-".toList],
          .code 0 (.unmapped "in".toList) []]) =
      { source := ["n = é - 1".toList, []]
        derived := [[.unmapped "  # n -- é".toList],
          [.unmapped "\u00a0".toList, ⟨"n".toList, ⟨1, 0, 1, 1⟩⟩, ⟨"-".toList, ⟨1, 4, 2, 0⟩⟩,
            .unmapped "é-".toList],
          [.unmapped "in".toList]] } := by
  apply Document.parse_writeFile {} ⟨_, _⟩
  · decide
  · decide
  · decide
  · decide
  · exact Text.only_at_end_iff.mpr (by decide)

end SpanViewer
