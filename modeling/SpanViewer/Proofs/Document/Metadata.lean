import SpanViewer.Proofs.Document.Tokens
import SpanViewer.Proofs.Position.Grammar

/-!
# Metadata of a line

The chunk at the place of a token says where the token comes from, and no other chunk does. Bad
chunks, chunks that are missing and chunks beyond the last token change nothing at other places.
-/

namespace SpanViewer

/-- The second field of a chunk: what stands between its first and its second semicolon, or behind
the first one if there is no second. -/
def IsSpanField (chunk field : Text) : Prop :=
  ∃ name rest, chunk = name ++ ';' :: (field ++ rest) ∧ ';' ∉ name ∧ ';' ∉ field ∧
    ∀ c ∈ rest.head?, c = ';'

/-- The second field is the second one of the pieces between semicolons. -/
theorem isSpanField_iff {chunk field : Text} :
    IsSpanField chunk field ↔ (chunk.splitOn ';')[1]? = some field := by
  constructor
  · rintro ⟨name, rest, rfl, hname, hfield, hend⟩
    rw [List.splitOn_append_cons_self_of_not_mem hname]
    cases rest with
    | nil =>
      rw [List.append_nil, List.splitOn_eq_singleton hfield]
      rfl
    | cons c rest =>
      obtain rfl := hend c rfl
      rw [List.splitOn_append_cons_self_of_not_mem hfield]
      rfl
  · intro hsecond
    have hchunk : [';'].intercalate (chunk.splitOn ';') = chunk := List.intercalate_splitOn ';'
    have hpieces (piece : Text) (hpiece : piece ∈ chunk.splitOn ';') : ';' ∉ piece :=
      Text.not_mem_of_mem_splitOn hpiece
    generalize chunk.splitOn ';' = pieces at hsecond hchunk hpieces
    match pieces, hsecond with
    | name :: field' :: others, hsecond =>
      obtain rfl : field' = field := Option.some.inj hsecond
      rw [List.intercalate_cons_cons, Text.intercalate_cons, List.append_assoc] at hchunk
      refine ⟨name, others.flatMap ([';'] ++ ·), hchunk.symm, hpieces name (by simp),
        hpieces field' (by simp), ?_⟩
      cases others <;> simp

/-- What the chunks of a line say about the span of the token at a place. -/
inductive NamesSpan (chunks : List Text) (i : Nat) : Position → Prop
  /-- The chunk at the place has a second field, which is a position. -/
  | named {chunk field : Text} {p : Position} (hchunk : chunks[i]? = some chunk)
      (hfield : IsSpanField chunk field) (hparse : Position.parse field = .ok p) :
      NamesSpan chunks i p
  /-- There is no chunk at the place, or it has no second field, or that is no position. -/
  | unmapped
      (hnone : ∀ chunk field p, chunks[i]? = some chunk → IsSpanField chunk field →
        Position.parse field ≠ .ok p) : NamesSpan chunks i .unmapped

/-- A chunk names the position that its second field is read as. -/
theorem chunkPosition_of_parse {chunk field : Text} {p : Position}
    (hfield : IsSpanField chunk field) (hparse : Position.parse field = .ok p) :
    chunkPosition chunk = p := by
  rw [chunkPosition, isSpanField_iff.mp hfield]
  simp only [hparse]

/-- A chunk whose second field is no position, or that has none, names no span. -/
theorem chunkPosition_of_no_parse {chunk : Text}
    (hnone : ∀ field p, IsSpanField chunk field → Position.parse field ≠ .ok p) :
    chunkPosition chunk = .unmapped := by
  unfold chunkPosition
  split
  · rfl
  · next field hfield =>
    split
    · next p hparse => exact absurd hparse (hnone field p (isSpanField_iff.mpr hfield))
    · rfl

/-- A place has the span that its chunk names, and none without a chunk. -/
theorem namesSpan_getD (chunks : List Text) (i : Nat) :
    NamesSpan chunks i ((chunks[i]?.map chunkPosition).getD .unmapped) := by
  cases hchunk : chunks[i]? with
  | none =>
    refine .unmapped fun chunk field p hsome => ?_
    rw [hchunk] at hsome
    contradiction
  | some chunk =>
    rw [Option.map_some, Option.getD_some]
    by_cases hnamed : ∃ field p, IsSpanField chunk field ∧ Position.parse field = .ok p
    · obtain ⟨field, p, hfield, hparse⟩ := hnamed
      rw [chunkPosition_of_parse hfield hparse]
      exact .named hchunk hfield hparse
    · have hnone (field : Text) (p : Position) (hfield : IsSpanField chunk field) :
          Position.parse field ≠ .ok p := fun hparse => hnamed ⟨field, p, hfield, hparse⟩
      rw [chunkPosition_of_no_parse hnone]
      refine .unmapped fun chunk' field p hsome => ?_
      rw [hchunk] at hsome
      obtain rfl := Option.some.inj hsome
      exact hnone field p

/-- Blanks behind a chunk do not change its span. -/
theorem chunkPosition_append_right (chunk : Text) {blanks : Text}
    (hblanks : ∀ c ∈ blanks, isBlank c = true) :
    chunkPosition (chunk ++ blanks) = chunkPosition chunk := by
  have hsemicolon : ';' ∉ blanks := fun hmem => absurd (hblanks ';' hmem) (by decide)
  obtain ⟨front, last, hpieces, hpieces'⟩ := Text.exists_splitOn_append hsemicolon chunk
  rw [chunkPosition, chunkPosition, hpieces, hpieces']
  match front with
  | [] => rfl
  | [name] => simp [Position.parse_append_right last hblanks]
  | name :: field :: others => rfl

/-- Blanks at the end of the metadata belong to the last chunk. -/
theorem metadataPositions_trimEnd (metadata : Text) :
    metadataPositions metadata.trimEnd = metadataPositions metadata := by
  obtain ⟨blanks, hmetadata, hblanks⟩ := metadata.exists_eq_dropEndWhile_append isBlank
  have hbar : '|' ∉ blanks := fun hmem => absurd (hblanks '|' hmem) (by decide)
  obtain ⟨front, last, hchunks, hchunks'⟩ := Text.exists_splitOn_append hbar metadata.trimEnd
  rw [Text.trimEnd, ← hmetadata] at hchunks'
  rw [metadataPositions, metadataPositions, hchunks, hchunks']
  simp [chunkPosition_append_right last hblanks]

/-- The span at a place of the metadata is that of the chunk at this place. -/
theorem getElem?_metadataPositions {chunks : List Text} (hbar : ∀ chunk ∈ chunks, '|' ∉ chunk)
    (i : Nat) :
    ((metadataPositions (['|'].intercalate chunks))[i]?).getD .unmapped =
      (chunks[i]?.map chunkPosition).getD .unmapped := by
  by_cases hnone : chunks = []
  · -- No chunks are written as one empty chunk, which names no span either.
    subst hnone
    cases i <;> rfl
  · rw [metadataPositions, List.splitOn_intercalate '|' hbar hnone, List.getElem?_map]

/-- A line that is no comment, with chunks of metadata behind its first mark. -/
structure MarkedLine where
  /-- What stands in front of the mark. -/
  code : Text
  /-- What stands behind the mark, between bars. -/
  chunks : List Text
  /-- There is no earlier mark. -/
  first : ∀ front back, code ++ metadataMark = front ++ metadataMark ++ back → back = []
  /-- A bar divides chunks. -/
  no_bar : ∀ chunk ∈ chunks, '|' ∉ chunk
  /-- No number sign stands behind the spaces of the line. -/
  no_comment : ∀ width note,
    code ++ metadataMark ++ ['|'].intercalate chunks ≠ spaces width ++ '#' :: note

namespace MarkedLine

/-- The text of a line. -/
def text (line : MarkedLine) : Text :=
  line.code ++ metadataMark ++ ['|'].intercalate line.chunks

/-- The words of the tokens of a line. -/
def words (line : MarkedLine) : List Word :=
  pairPositions (tokens line.code.trim) (metadataPositions (['|'].intercalate line.chunks))

/-- A line is read as its words behind its indentation. -/
theorem hasTokens_words (line : MarkedLine) (marker : Text) :
    HasTokens marker line.text line.words := by
  have hcomment : line.code.isComment = false := by
    rw [← isComment_append_cons line.code (c := '-') (by decide) (by decide)
      ('-' :: ['|'].intercalate line.chunks), isComment_eq_false_iff]
    simpa [metadataMark] using line.no_comment
  have htokens := hasTokens_of_mark marker hcomment line.first (['|'].intercalate line.chunks)
  rwa [metadataPositions_trimEnd] at htokens

/-- A word depends on the tokens of its line and on the chunk at its place alone. -/
theorem getElem?_words (line : MarkedLine) (i : Nat) :
    line.words[i]? = (tokens line.code.trim)[i]?.map fun text =>
      ⟨text, (line.chunks[i]?.map chunkPosition).getD .unmapped⟩ := by
  rw [words, getElem?_pairPositions, getElem?_metadataPositions line.no_bar]

/-- **Errors in the metadata of a line stay at their place.** A line is read as words whose texts
are the tokens of its code, and the span of each is the one that the chunk at its place names. On
any other line with the same code and an equal chunk at a place, whatever its other chunks are and
however it is indented, the word at this place is the same. -/
theorem spans_at_their_place (line : MarkedLine) (marker : Text) :
    ∃ words, HasTokens marker line.text words ∧
      HasRuns line.code.trim (words.map Word.text) ∧
      (∀ i w, words[i]? = some w → NamesSpan line.chunks i w.position) ∧
      ∀ (other : MarkedLine) (marker' : Text) (words' : List Word),
        other.code.trim = line.code.trim → HasTokens marker' other.text words' →
          ∀ i : Nat, other.chunks[i]? = line.chunks[i]? → words'[i]? = words[i]? := by
  refine ⟨line.words, line.hasTokens_words marker, ?_, fun i w hw => ?_, ?_⟩
  · rw [words, map_text_pairPositions, hasRuns_iff]
  · rw [getElem?_words] at hw
    obtain ⟨text, -, rfl⟩ := Option.map_eq_some_iff.mp hw
    exact namesSpan_getD line.chunks i
  · intro other marker' words' hcode hwords' i hchunk
    obtain rfl := hwords'.unique (other.hasTokens_words marker')
    rw [getElem?_words, getElem?_words, hcode, hchunk]

/-- A span that keeps its token between a backwards span and a chunk that is missing, and on a line
where it is not the last one, behind a second mark. -/
theorem spans_at_their_place_backwards :
    let line : MarkedLine :=
      { code := "  a b\tc d ".toList
        chunks := ["x;1:5,1:4".toList, "y; 1:0 ,1:1 \t".toList]
        first := Text.only_at_end_iff.mpr (by decide)
        no_bar := by decide
        no_comment := isComment_eq_false_iff.mp (by decide) }
    let other : MarkedLine :=
      { code := "a b\tc d".toList
        chunks := ["--;;1:0".toList, "y; 1:0 ,1:1 \t".toList, [], "z;9:9,9:9".toList]
        first := Text.only_at_end_iff.mpr (by decide)
        no_bar := by decide
        no_comment := isComment_eq_false_iff.mp (by decide) }
    let w : Word := ⟨"b\tc".toList, ⟨1, 0, 1, 1⟩⟩
    other.code.trim = line.code.trim ∧ other.chunks[1]? = line.chunks[1]? ∧
      HasTokens ['\u00a0'] line.text [.unmapped ['a'], w, .unmapped ['d']] ∧
      NamesSpan line.chunks 1 w.position ∧ HasTokens [] other.text other.words ∧
      other.words[1]? = some w := by
  intro line other w
  have hcode : other.code.trim = line.code.trim := by decide
  have hchunk : other.chunks[1]? = line.chunks[1]? := rfl
  obtain ⟨words, hwords, -, hspans, hothers⟩ := line.spans_at_their_place ['\u00a0']
  have heq : words = [.unmapped ['a'], w, .unmapped ['d']] := by
    rw [hwords.unique (line.hasTokens_words _)]
    decide +kernel
  have hother := hothers other [] other.words hcode (other.hasTokens_words []) 1 hchunk
  rw [heq] at hwords hspans hother
  exact ⟨hcode, hchunk, hwords, hspans 1 w rfl, other.hasTokens_words [], hother⟩

end MarkedLine

end SpanViewer
