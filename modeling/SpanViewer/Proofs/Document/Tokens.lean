import SpanViewer.Proofs.Document.Line
import SpanViewer.Proofs.Text.Lines

/-!
# Tokens of a line

The code of a line is what stands in front of its first metadata mark. Its tokens are all of its
runs of characters between spaces, each as long as it can be. A line that is neither blank nor a
comment is read as its indentation and these tokens, whatever stands behind the mark.
-/

namespace SpanViewer

/-- The maximal runs of characters other than spaces in a text, from left to right. -/
inductive HasRuns : Text → List Text → Prop
  /-- There is no run in spaces. -/
  | none (width : Nat) : HasRuns (spaces width) []
  /-- Behind spaces, a run goes on to the next space or to the end of the text. -/
  | cons (width : Nat) {run rest : Text} {runs : List Text} (hne : run ≠ []) (hrun : ' ' ∉ run)
      (hend : ∀ c ∈ rest.head?, c = ' ') (hrest : HasRuns rest runs) :
      HasRuns (spaces width ++ (run ++ rest)) (run :: runs)

namespace HasRuns

variable {text : Text} {runs : List Text}

/-- A space in front of a text belongs to none of its runs. -/
theorem cons_space (hruns : HasRuns text runs) : HasRuns (' ' :: text) runs := by
  cases hruns with
  | none width => exact .none (width + 1)
  | cons width hne hrun hend hrest => exact .cons (width + 1) hne hrun hend hrest

/-- A run has a character and no space. -/
theorem of_mem (hruns : HasRuns text runs) : ∀ run ∈ runs, run ≠ [] ∧ ' ' ∉ run := by
  induction hruns with
  | none => exact List.forall_mem_nil _
  | cons width hne hrun hend hrest ih => exact List.forall_mem_cons.mpr ⟨⟨hne, hrun⟩, ih⟩

/-- The first run of a text that does not start with a space starts with the text. -/
theorem head?_eq {run : Text} (hruns : HasRuns text (run :: runs))
    (hfirst : text.head? ≠ some ' ') : run.head? = text.head? := by
  cases hruns with
  | cons width hne hrun hend hrest =>
    cases width with
    | zero =>
      obtain ⟨c, run', rfl⟩ := List.exists_cons_of_ne_nil hne
      rfl
    | succ width => exact absurd rfl hfirst

/-- The runs of a text are all of it but the spaces. -/
theorem flatten_eq (hruns : HasRuns text runs) : runs.flatten = text.filter (· ≠ ' ') := by
  have hspaces (width : Nat) : (spaces width).filter (· ≠ ' ') = [] := by
    simp [spaces]
  induction hruns with
  | none width => rw [hspaces, List.flatten_nil]
  | @cons width run rest runs hne hrun hend hrest ih =>
    have hkept : run.filter (· ≠ ' ') = run := by
      rw [List.filter_eq_self]
      intro c hc
      have hspace : c ≠ ' ' := fun heq => hrun (heq ▸ hc)
      simpa using hspace
    rw [List.flatten_cons, List.filter_append, List.filter_append, hspaces, hkept, ih,
      List.nil_append]

end HasRuns

/-- The tokens on both sides of a space are those of a text. -/
theorem tokens_append_space (left right : Text) :
    tokens (left ++ ' ' :: right) = tokens left ++ tokens right := by
  rw [tokens, List.splitOn_append_cons_self, List.filter_append, tokens, tokens]

/-- Spaces in front of a text belong to none of its tokens. -/
theorem tokens_spaces_append (width : Nat) (text : Text) :
    tokens (spaces width ++ text) = tokens text := by
  induction width with
  | zero => rfl
  | succ width ih => exact (tokens_append_space [] _).trans ih

/-- A text without spaces is one token. -/
theorem tokens_of_no_space {run : Text} (hne : run ≠ []) (hrun : ' ' ∉ run) :
    tokens run = [run] := by
  rw [tokens, List.splitOn_eq_singleton hrun]
  simp [hne]

/-- The tokens of a text are its runs. -/
theorem HasRuns.tokens_eq {text : Text} {runs : List Text} (hruns : HasRuns text runs) :
    tokens text = runs := by
  induction hruns with
  | none width =>
    rw [← List.append_nil (spaces width), tokens_spaces_append]
    rfl
  | @cons width run rest runs hne hrun hend hrest ih =>
    rw [tokens_spaces_append]
    cases rest with
    | nil =>
      rw [List.append_nil, tokens_of_no_space hne hrun, ← ih]
      rfl
    | cons c rest =>
      obtain rfl := hend c rfl
      have hrest : tokens (' ' :: rest) = tokens rest := tokens_append_space [] rest
      rw [tokens_append_space, tokens_of_no_space hne hrun, ← ih, hrest, List.singleton_append]

/-- Pieces with spaces between them are the runs of a text, unless they are empty. -/
theorem hasRuns_intercalate {pieces : List Text} (hpieces : ∀ piece ∈ pieces, ' ' ∉ piece) :
    HasRuns ([' '].intercalate pieces) (pieces.filter (· ≠ [])) := by
  -- Between two spaces that follow one another there is an empty piece, which is no run.
  have hcons {piece rest : Text} {runs : List Text} (hpiece : ' ' ∉ piece)
      (hend : ∀ c ∈ rest.head?, c = ' ') (hrest : HasRuns rest runs) :
      HasRuns (piece ++ rest) ([piece].filter (· ≠ []) ++ runs) := by
    by_cases hempty : piece = []
    · simpa [hempty] using hrest
    · simpa [hempty, spaces] using HasRuns.cons 0 hempty hpiece hend hrest
  induction pieces with
  | nil => exact .none 0
  | cons piece pieces ih =>
    obtain ⟨hpiece, hothers⟩ := List.forall_mem_cons.mp hpieces
    cases pieces with
    | nil =>
      have hlast : HasRuns (piece ++ []) ([piece].filter (· ≠ []) ++ []) :=
        hcons hpiece (by simp) (.none 0)
      simpa using hlast
    | cons next pieces =>
      have hruns := hcons hpiece (by simp) (ih hothers).cons_space
      rw [← List.filter_append] at hruns
      rw [List.intercalate_cons_cons, List.append_assoc]
      exact hruns

/-- The tokens of a text are exactly its maximal runs of characters other than spaces. -/
theorem hasRuns_iff {text : Text} {runs : List Text} : HasRuns text runs ↔ tokens text = runs := by
  constructor
  · exact HasRuns.tokens_eq
  · rintro rfl
    have hruns := hasRuns_intercalate fun piece (hpiece : piece ∈ text.splitOn ' ') =>
      Text.not_mem_of_mem_splitOn hpiece
    rwa [List.intercalate_splitOn] at hruns

/-- What stands in front of the first metadata mark of a text; all of a text that has none. -/
inductive UpToMark (text : Text) : Text → Prop
  /-- No mark starts further in front than the one behind the code. -/
  | marked {code metadata : Text} (htext : text = code ++ metadataMark ++ metadata)
      (hfirst : ∀ front back, text = front ++ metadataMark ++ back → code.length ≤ front.length) :
      UpToMark text code
  /-- There is no mark. -/
  | unmarked (hnone : ¬metadataMark <:+: text) : UpToMark text text

/-- The code of a line is the trimmed line up to its first mark. -/
theorem upToMark_iff {line code : Text} :
    UpToMark line.trim code ↔ (codeAndMetadata line).1 = code := by
  unfold codeAndMetadata
  constructor
  · intro hcode
    cases hcode with
    | marked htext hfirst => rw [Text.cutFirst?_eq_some_iff.mpr ⟨htext, hfirst⟩]
    | unmarked hnone =>
      rw [← Text.isSome_cutFirst?_iff, Option.not_isSome_iff_eq_none] at hnone
      rw [hnone]
  · rintro rfl
    cases hcut : line.trim.cutFirst? metadataMark with
    | none =>
      refine .unmarked ?_
      rw [← Text.isSome_cutFirst?_iff, hcut]
      exact Bool.false_ne_true
    | some parts =>
      exact .marked (Text.eq_of_cutFirst? hcut) fun _ _ => Text.length_le_of_cutFirst? hcut

/-- Behind the first mark of a line, the line is trimmed at its end alone. -/
theorem codeAndMetadata_of_mark {code : Text}
    (hfirst : ∀ front back, code ++ metadataMark = front ++ metadataMark ++ back → back = [])
    (metadata : Text) :
    codeAndMetadata (code ++ metadataMark ++ metadata) =
      (code.dropWhile isBlank, some metadata.trimEnd) := by
  -- No dash is blank, so that trimming comes to an end at the mark from both sides.
  have hmark : isBlank '-' = false := by decide
  have hend : Text.trimEnd ('-' :: metadata) = '-' :: metadata.trimEnd :=
    Text.dropEndWhile_append_cons [] metadata hmark
  have htrim : Text.trim (code ++ metadataMark ++ metadata) =
      code.dropWhile isBlank ++ metadataMark ++ metadata.trimEnd := by
    have hline := Text.trim_append_cons code ('-' :: metadata) hmark
    rw [hend] at hline
    simpa [metadataMark] using hline
  have honly (front back : Text) (hcode : code.dropWhile isBlank ++ metadataMark =
      front ++ metadataMark ++ back) : back = [] := by
    apply hfirst (code.takeWhile isBlank ++ front)
    rw [List.append_assoc, List.append_assoc, ← List.append_assoc front, ← hcode,
      ← List.append_assoc, List.takeWhile_append_dropWhile]
  rw [codeAndMetadata, htrim, Text.cutFirst?_append honly]

/-- A line is read as its indentation and these words. -/
def HasTokens (marker line : Text) (words : List Word) : Prop :=
  ∃ width rest, line = spaces width ++ rest ∧ rest.head? ≠ some ' ' ∧
    parseLine? marker line = some (Word.ofIndentation marker width ++ words)

/-- The indentation of a line is its number of spaces in front. -/
theorem hasTokens_iff {marker line : Text} {words : List Word} :
    HasTokens marker line words ↔
      parseLine? marker line = some (Word.ofIndentation marker line.indentation ++ words) := by
  constructor
  · rintro ⟨width, rest, hline, hfirst, hparse⟩
    have hwidth : line.indentation = width := by
      rw [hline]
      exact indentation_of_head? width hfirst
    rw [hwidth, hparse]
  · intro hparse
    obtain ⟨rest, hline, hfirst⟩ := line.exists_eq_spaces_append
    exact ⟨line.indentation, rest, hline, hfirst, hparse⟩

/-- The tokens of a line are determined by the line. -/
theorem HasTokens.unique {marker line : Text} {words words' : List Word}
    (htokens : HasTokens marker line words) (htokens' : HasTokens marker line words') :
    words = words' := by
  rw [hasTokens_iff] at htokens htokens'
  rw [htokens] at htokens'
  exact List.append_cancel_left (Option.some.inj htokens')

/-- A line that is neither blank nor a comment has the tokens of its code, with the spans that its
metadata names. -/
theorem hasTokens_of_code (marker : Text) {line : Text} (hblank : line.trim ≠ [])
    (hcomment : line.isComment = false) :
    HasTokens marker line (pairPositions (tokens (codeAndMetadata line).1.trim)
      (((codeAndMetadata line).2.map metadataPositions).getD [])) := by
  rw [hasTokens_iff, parseLine?_of_code marker hblank hcomment]

/-- A line with a mark has the tokens in front of it, with the spans that are named behind it. -/
theorem hasTokens_of_mark (marker : Text) {code : Text} (hcomment : code.isComment = false)
    (hfirst : ∀ front back, code ++ metadataMark = front ++ metadataMark ++ back → back = [])
    (metadata : Text) :
    HasTokens marker (code ++ metadataMark ++ metadata)
      (pairPositions (tokens code.trim) (metadataPositions metadata.trimEnd)) := by
  have hblank : Text.trim (code ++ metadataMark ++ metadata) ≠ [] :=
    Text.trim_ne_nil_of_mem (c := '-') (by simp [metadataMark]) (by decide)
  have hline : Text.isComment (code ++ metadataMark ++ metadata) = false := by
    rw [List.append_assoc, ← hcomment]
    exact isComment_append_cons code (by decide) (by decide) _
  have htrim : Text.trim (code.dropWhile isBlank) = code.trim := code.trim_dropWhile
  have htokens := hasTokens_of_code marker hblank hline
  rwa [codeAndMetadata_of_mark hfirst, htrim] at htokens

/-- Every line that is neither blank nor a comment has the runs of its code as its tokens. -/
theorem exists_hasTokens (marker : Text) {line : Text} (hblank : line.trim ≠ [])
    (hcomment : line.isComment = false) :
    ∃ words code, HasTokens marker line words ∧ UpToMark line.trim code ∧
      HasRuns code.trim (words.map Word.text) := by
  refine ⟨_, _, hasTokens_of_code marker hblank hcomment, upToMark_iff.mpr rfl, ?_⟩
  rw [map_text_pairPositions, hasRuns_iff]

/-- A line that is not blank is read as one comment or as its indentation and its tokens. -/
theorem comment_or_hasTokens {marker line : Text} {words : List Word}
    (hparse : parseLine? marker line = some words) :
    (line.isComment = true ∧ words = [.unmapped (commentText line)]) ∨
      (line.isComment = false ∧ ∃ code tokenWords,
        words = Word.ofIndentation marker line.indentation ++ tokenWords ∧
        UpToMark line.trim code ∧ HasRuns code.trim (tokenWords.map Word.text)) := by
  have hblank := trim_ne_nil_of_parseLine? hparse
  cases hcomment : line.isComment with
  | true =>
    rw [parseLine?_of_isComment marker hcomment] at hparse
    exact .inl ⟨rfl, (Option.some.inj hparse).symm⟩
  | false =>
    obtain ⟨tokenWords, code, htokens, hcode, hruns⟩ := exists_hasTokens marker hblank hcomment
    rw [hasTokens_iff, hparse] at htokens
    exact .inr ⟨rfl, code, tokenWords, Option.some.inj htokens, hcode, hruns⟩

/-- What stands behind the first mark of a line changes no text of its words. -/
theorem map_text_parseLine?_of_mark (marker : Text) {code : Text}
    (hcomment : code.isComment = false)
    (hfirst : ∀ front back, code ++ metadataMark = front ++ metadataMark ++ back → back = [])
    (metadata : Text) :
    (parseLine? marker (code ++ metadataMark ++ metadata)).map (List.map Word.text) =
      some ((Word.ofIndentation marker code.indentation).map Word.text ++ tokens code.trim) := by
  have hwidth : Text.indentation (code ++ metadataMark ++ metadata) = code.indentation := by
    rw [List.append_assoc]
    exact indentation_append_cons code (by decide) _
  have htokens := hasTokens_of_mark marker hcomment hfirst metadata
  rw [hasTokens_iff, hwidth] at htokens
  rw [htokens, Option.map_some, List.map_append, map_text_pairPositions]

/-- **No token of a line is lost, doubled or merged.** A line that is neither blank nor a comment is
read as its indentation, if it starts with spaces, and words whose texts are the maximal runs of
characters other than spaces in its code. They have a character each and no space, and are all of
the code but its spaces. What stands behind the first mark changes none of the texts. -/
theorem line_keeps_tokens (marker : Text) {line : Text} (hblank : ∃ c ∈ line, isBlank c = false)
    (hcomment : ∀ width note, line ≠ spaces width ++ '#' :: note) :
    ∃ words code, HasTokens marker line words ∧ UpToMark line.trim code ∧
      HasRuns code.trim (words.map Word.text) ∧
      (∀ w ∈ words, w.text ≠ [] ∧ ' ' ∉ w.text) ∧
      (words.map Word.text).flatten = code.trim.filter (· ≠ ' ') ∧
      ∀ front metadata other, line = front ++ metadataMark ++ metadata →
        (∀ before after, front ++ metadataMark = before ++ metadataMark ++ after → after = []) →
        (parseLine? marker (front ++ metadataMark ++ other)).map (List.map Word.text) =
          (parseLine? marker line).map (List.map Word.text) := by
  have htrim : line.trim ≠ [] := by
    obtain ⟨c, hc, hcode⟩ := hblank
    exact Text.trim_ne_nil_of_mem hc hcode
  have hcode : line.isComment = false := isComment_eq_false_iff.mpr hcomment
  obtain ⟨words, code, hwords, hmark, hruns⟩ := exists_hasTokens marker htrim hcode
  refine ⟨words, code, hwords, hmark, hruns, fun w hw => ?_, hruns.flatten_eq, ?_⟩
  · exact hruns.of_mem w.text (List.mem_map_of_mem hw)
  · rintro front metadata other rfl hfirst
    have hfront : front.isComment = false := by
      rw [List.append_assoc] at hcode
      rw [← hcode]
      exact (isComment_append_cons front (by decide) (by decide) _).symm
    rw [map_text_parseLine?_of_mark marker hfront hfirst,
      map_text_parseLine?_of_mark marker hfront hfirst]

/-- A token that ends in a no-break space, a tab in front of three dashes, and a second mark. -/
theorem line_keeps_tokens_no_break_space :
    let marker : Text := ['\u00a0']
    let front : Text := "  f(\u00a0 x\t".toList
    let line : Text := front ++ metadataMark ++ "- i;1:0,1:1|-- \r".toList
    let other : Text := front ++ metadataMark ++ "||x".toList
    let code : Text := "f(\u00a0 x\t".toList
    (∃ c ∈ line, isBlank c = false) ∧ (∀ width note, line ≠ spaces width ++ '#' :: note) ∧
      (∃ words, HasTokens marker line words ∧ UpToMark line.trim code ∧
        HasRuns code.trim (words.map Word.text) ∧
        words.map Word.text = ["f(\u00a0".toList, "x".toList]) ∧
      (parseLine? marker other).map (List.map Word.text) =
        (parseLine? marker line).map (List.map Word.text) := by
  intro marker front line other code
  have hblank : ∃ c ∈ line, isBlank c = false := ⟨'f', by decide, by decide⟩
  have hcomment : ∀ width note, line ≠ spaces width ++ '#' :: note :=
    isComment_eq_false_iff.mp (by decide)
  obtain ⟨words, code', hwords, hcode, hruns, -, -, hother⟩ :=
    line_keeps_tokens marker hblank hcomment
  have hfront : (codeAndMetadata line).1 = code := by decide +kernel
  obtain rfl : code = code' := hfront.symm.trans (upToMark_iff.mp hcode)
  have htexts : words.map Word.text = ["f(\u00a0".toList, "x".toList] := by
    rw [← hruns.tokens_eq]
    decide +kernel
  exact ⟨hblank, hcomment, ⟨words, hwords, hcode, hruns, htexts⟩,
    hother front _ _ rfl (Text.only_at_end_iff.mpr (by decide))⟩

end SpanViewer
