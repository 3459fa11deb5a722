import SpanViewer.Document.Line
import SpanViewer.Proofs.Text.Occurrence
import SpanViewer.Proofs.Text.Trim

/-!
# Parts of an annotated line

What stands in front of the first character of a line that is no space decides its indentation, and
that character decides whether the line is a comment. Tokens that are written with spaces between
them are read back, and so are the spans that stand at the same places.
-/

namespace SpanViewer

/-- The text of an indentation. -/
def spaces (width : Nat) : Text :=
  List.replicate width ' '

/-- Spaces are blank. -/
theorem isBlank_of_mem_spaces {width : Nat} {c : Char} (hc : c ∈ spaces width) :
    isBlank c = true := by
  obtain rfl := List.eq_of_mem_replicate hc
  decide

/-- The indentation of a line is counted up to the first character that is no space. -/
theorem indentation_spaces_append (width : Nat) {c : Char} (hc : c ≠ ' ') (rest : Text) :
    Text.indentation (spaces width ++ c :: rest) = width := by
  simp [Text.indentation, spaces, hc]

/-- The indentation of a line is all of its spaces in front. -/
theorem indentation_of_head? (width : Nat) {rest : Text} (hfirst : rest.head? ≠ some ' ') :
    Text.indentation (spaces width ++ rest) = width := by
  cases rest with
  | nil => simp [Text.indentation, spaces]
  | cons c rest =>
    have hc : c ≠ ' ' := fun heq => hfirst (congrArg some heq)
    exact indentation_spaces_append width hc rest

/-- What follows a character that is no space does not belong to the indentation of a line. -/
theorem indentation_append_cons (left : Text) {c : Char} (hc : c ≠ ' ') (right : Text) :
    Text.indentation (left ++ c :: right) = Text.indentation left := by
  obtain ⟨rest, hleft, hfirst⟩ := left.exists_eq_spaces_append
  have hfirst' : (rest ++ c :: right).head? ≠ some ' ' := by
    cases rest with
    | nil => simpa using hc
    | cons d rest => exact hfirst
  rw [hleft, List.append_assoc]
  exact (indentation_of_head? _ hfirst').trans (indentation_of_head? _ hfirst).symm

/-- The first character that is no space decides whether a line is a comment. -/
theorem isComment_spaces_append (width : Nat) {c : Char} (hc : c ≠ ' ') (rest : Text) :
    Text.isComment (spaces width ++ c :: rest) = decide (c = '#') := by
  simp [Text.isComment, spaces, hc, List.isPrefixOf, Bool.beq_eq_decide_eq, eq_comm]

/-- A comment is a number sign behind spaces. -/
theorem isComment_iff {line : Text} :
    line.isComment = true ↔ ∃ width note, line = spaces width ++ '#' :: note := by
  constructor
  · intro hcomment
    obtain ⟨rest, hline, hfirst⟩ := line.exists_eq_spaces_append
    cases rest with
    | nil =>
      rw [hline] at hcomment
      simp [Text.isComment] at hcomment
    | cons c rest =>
      have hspace : c ≠ ' ' := fun heq => hfirst (congrArg some heq)
      rw [hline] at hcomment
      have hsign := (isComment_spaces_append _ hspace rest).symm.trans hcomment
      obtain rfl : c = '#' := of_decide_eq_true hsign
      exact ⟨_, rest, hline⟩
  · rintro ⟨width, note, rfl⟩
    exact isComment_spaces_append width (by decide) note

/-- A line is no comment exactly if it has no number sign behind spaces. -/
theorem isComment_eq_false_iff {line : Text} :
    line.isComment = false ↔ ∀ width note, line ≠ spaces width ++ '#' :: note := by
  rw [← Bool.not_eq_true, isComment_iff]
  simp

/-- What follows a character that is neither a space nor a number sign does not decide whether a
line is a comment. -/
theorem isComment_append_cons (left : Text) {c : Char} (hspace : c ≠ ' ') (hsign : c ≠ '#')
    (right : Text) : Text.isComment (left ++ c :: right) = Text.isComment left := by
  unfold Text.isComment
  rw [Text.dropWhile_append_cons left right (by simpa using hspace)]
  cases left.dropWhile (· = ' ') with
  | nil => simp [List.isPrefixOf, Ne.symm hsign]
  | cons d rest => rfl

/-- Only blank lines are read as nothing. -/
theorem parseLine?_eq_none_iff {marker line : Text} :
    parseLine? marker line = none ↔ line.trim = [] := by
  unfold parseLine?
  split
  · next hblank => exact iff_of_true rfl hblank
  · next hblank =>
    refine iff_of_false ?_ hblank
    split <;> exact Option.some_ne_none _

/-- A line that is read as words is not blank. -/
theorem trim_ne_nil_of_parseLine? {marker line : Text} {words : List Word}
    (hparse : parseLine? marker line = some words) : line.trim ≠ [] := by
  intro hblank
  rw [parseLine?_eq_none_iff.mpr hblank] at hparse
  contradiction

/-- The words of an indentation: one, unless there is none. -/
def Word.ofIndentation (marker : Text) (width : Nat) : List Word :=
  if width = 0 then [] else [.indentation marker width]

/-- A comment is read as one word without a span. -/
theorem parseLine?_of_isComment (marker : Text) {line : Text} (hcomment : line.isComment = true) :
    parseLine? marker line = some [.unmapped (commentText line)] := by
  have hblank : line.trim ≠ [] := by
    obtain ⟨width, note, rfl⟩ := isComment_iff.mp hcomment
    exact Text.trim_ne_nil_of_mem (c := '#') (by simp) (by decide)
  rw [parseLine?, if_neg hblank, if_pos hcomment]

/-- A line that is neither blank nor a comment is read as its indentation and the tokens of its
code, with the spans that its metadata names. -/
theorem parseLine?_of_code (marker : Text) {line : Text} (hblank : line.trim ≠ [])
    (hcomment : line.isComment = false) :
    parseLine? marker line = some (Word.ofIndentation marker line.indentation ++
      pairPositions (tokens (codeAndMetadata line).1.trim)
        (((codeAndMetadata line).2.map metadataPositions).getD [])) := by
  rw [parseLine?, if_neg hblank, hcomment]
  rfl

/-- Tokens are read back from a line that has spaces between them. -/
theorem tokens_intercalate {texts : List Text} (hne : texts ≠ [])
    (htexts : ∀ text ∈ texts, text ≠ [] ∧ ' ' ∉ text) :
    tokens ([' '].intercalate texts) = texts := by
  rw [tokens, List.splitOn_intercalate ' ' (fun text hmem => (htexts text hmem).2) hne]
  exact List.filter_eq_self.mpr fun text hmem => by simpa using (htexts text hmem).1

/-- The word at a place has the token and the span at this place. -/
theorem getElem?_pairPositions (texts : List Text) (positions : List Position) (i : Nat) :
    (pairPositions texts positions)[i]? =
      texts[i]?.map fun text => ⟨text, positions[i]?.getD .unmapped⟩ := by
  rw [pairPositions, List.getElem?_mapIdx]

/-- The words of tokens have their texts. -/
theorem map_text_pairPositions (texts : List Text) (positions : List Position) :
    (pairPositions texts positions).map Word.text = texts := by
  apply List.ext_getElem?
  intro i
  rw [List.getElem?_map, getElem?_pairPositions]
  cases texts[i]? <;> rfl

/-- Words are paired again from their texts and their positions. -/
theorem pairPositions_map (words : List Word) :
    pairPositions (words.map Word.text) (words.map Word.position) = words := by
  apply List.ext_getElem?
  intro i
  rw [getElem?_pairPositions, List.getElem?_map, List.getElem?_map]
  cases words[i]? <;> rfl

/-- Tokens without the mark do not form it when they are written one behind the other. -/
theorem ne_append_metadataMark {texts : List Text}
    (htexts : ∀ text ∈ texts, ∀ front back, text ≠ front ++ metadataMark ++ back)
    (front back : Text) : [' '].intercalate texts ≠ front ++ metadataMark ++ back := by
  induction texts generalizing front with
  | nil => simp [metadataMark]
  | cons text texts ih =>
    cases texts with
    | nil =>
      rw [List.intercalate_singleton]
      exact htexts text (by simp) front back
    | cons next texts =>
      rw [List.intercalate_cons_cons, List.append_assoc, List.singleton_append]
      intro hline
      rcases Text.occurrence_cases (by decide) hline with ⟨back', -, hleft⟩ | ⟨front', -, hright⟩
      · exact htexts text (by simp) front back' hleft
      · exact ih (fun text hmem => htexts text (by simp [hmem])) front' hright

/-- Spaces in front of code form no mark with it. -/
theorem spaces_append_ne_append_metadataMark (width : Nat) {code : Text}
    (hcode : ∀ front back, code ≠ front ++ metadataMark ++ back) (front back : Text) :
    spaces width ++ code ≠ front ++ metadataMark ++ back := by
  induction width generalizing front with
  | zero => exact hcode front back
  | succ width ih =>
    intro hline
    have hline' : [] ++ ' ' :: (spaces width ++ code) = front ++ metadataMark ++ back := hline
    rcases Text.occurrence_cases (by decide) hline' with ⟨back', -, hleft⟩ | ⟨front', -, hright⟩
    · exact hcode front back' (by simp [metadataMark] at hleft)
    · exact ih front' hright

/-- Behind code without the mark and a space, the mark has its first place. -/
theorem eq_nil_of_append_metadataMark {code front back : Text}
    (hcode : ∀ front back, code ≠ front ++ metadataMark ++ back)
    (hline : code ++ [' '] ++ metadataMark = front ++ metadataMark ++ back) : back = [] := by
  rw [List.append_assoc, List.singleton_append] at hline
  rcases Text.occurrence_cases (by decide) hline with ⟨back', -, hleft⟩ | ⟨front', -, hright⟩
  · exact absurd hleft (hcode front back')
  · have hlength := congrArg List.length hright
    simp only [List.length_append] at hlength
    exact List.eq_nil_of_length_eq_zero (by omega)

end SpanViewer
