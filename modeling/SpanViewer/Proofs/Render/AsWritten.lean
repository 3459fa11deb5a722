import SpanViewer.Proofs.Document.Tokens
import SpanViewer.Proofs.Text.Pieces
import SpanViewer.Proofs.Text.SameLine
import SpanViewer.Proofs.Word.Indentation
import SpanViewer.Render.Target

/-!
# Lines as they were written

Reading a line of the derived form turns its spaces in front into indent markers, and plain output
turns indent markers into spaces. Both undo each other, for a marker that overlaps itself or that
holds spaces as well: the line is shown with its indentation and its tokens, where no token holds
the marker.
-/

namespace SpanViewer

namespace Target

variable {target : Target} {w : Word} {words : List Word}

/-- No space is put behind an indentation. -/
theorem line_cons_of_isIndentation (hindentation : w.isIndentation target.marker = true)
    (rest : List Word) : target.line (w :: rest) = target.word w ++ target.line rest := by
  cases rest with
  | nil => rw [line, line, List.append_nil]
  | cons next rest => rw [line, if_pos hindentation, List.append_nil]

/-- A space is put between words that are no indentations. -/
theorem line_of_not_isIndentation (hwords : ∀ w ∈ words, w.isIndentation target.marker = false) :
    target.line words = [' '].intercalate (words.map target.word) := by
  induction words with
  | nil => rfl
  | cons w later ih =>
    obtain ⟨hw, hlater⟩ := List.forall_mem_cons.mp hwords
    cases later with
    | nil => rw [line, List.map_singleton, List.intercalate_singleton]
    | cons next later =>
      have hspace : ¬w.isIndentation target.marker = true := by simp [hw]
      rw [line, if_neg hspace, ih hlater]
      simp only [List.map_cons, List.intercalate_cons_cons]

end Target

namespace Plain

variable {marker : Text}

/-- Spaces have no carriage returns. -/
theorem dropReturns_spaces (width : Nat) : (spaces width).dropReturns = spaces width := by
  simp [Text.dropReturns, spaces]

/-- The word for an indentation is shown as its spaces. -/
theorem word_indentation (hmarker : marker ≠ []) (width : Nat) :
    word marker (.indentation marker width) = spaces width := by
  have hspaces : (List.replicate width [' ']).flatten = spaces width := by
    rw [List.flatten_replicate_singleton, spaces]
  rw [word, Word.indentation, Word.unmapped, Text.replace_repeat hmarker, hspaces,
    dropReturns_spaces]

/-- A word without the marker is shown as it is, without its carriage returns. -/
theorem word_of_not_infix {w : Word} (hnone : ¬marker <:+: w.text) :
    word marker w = w.text.dropReturns := by
  rw [word, Text.replace_of_not_infix hnone]

/-- Words without the marker are shown with a space between them. -/
theorem line_of_not_infix (opening closing : Text) {words : List Word}
    (hwords : ∀ w ∈ words, ¬marker <:+: w.text) :
    (Target.plain marker opening closing).line words =
      Text.dropReturns ([' '].intercalate (words.map Word.text)) := by
  have hspace : Text.dropReturns [' '] = [' '] := by decide
  have hno (w : Word) (hw : w ∈ words) : w.isIndentation marker = false :=
    Bool.eq_false_iff.mpr fun hindentation =>
      hwords w hw (Word.prefix_of_isIndentation hindentation).isInfix
  rw [Target.line_of_not_isIndentation hno, Text.dropReturns_intercalate, hspace, List.map_map]
  congr 1
  exact List.map_congr_left fun w hw => word_of_not_infix (hwords w hw)

/-- In front of words the spaces of an indentation are shown. -/
theorem line_ofIndentation_append (hmarker : marker ≠ []) (opening closing : Text) (width : Nat)
    (words : List Word) :
    (Target.plain marker opening closing).line (Word.ofIndentation marker width ++ words) =
      spaces width ++ (Target.plain marker opening closing).line words := by
  unfold Word.ofIndentation
  split
  · next hwidth =>
    subst hwidth
    rfl
  · next hwidth =>
    have hindentation : (Word.indentation marker width).isIndentation
        (Target.plain marker opening closing).marker = true :=
      Word.isIndentation_indentation hmarker (Nat.pos_of_ne_zero hwidth)
    rw [List.singleton_append, Target.line_cons_of_isIndentation hindentation]
    exact congrArg (· ++ _) (word_indentation hmarker width)

/-- **A line is shown as it was written.** In plain output a line that is neither blank nor a
comment has its spaces in front, and then its tokens with one space between them, all without
carriage returns. This holds for every indent marker that is not empty and stands in no token. -/
theorem line_as_written {marker line code rest : Text} {width : Nat} {runs : List Text}
    (hmarker : marker ≠ []) (hblank : ∃ c ∈ line, isBlank c = false)
    (hcomment : ∀ width note, line ≠ spaces width ++ '#' :: note)
    (hline : line = spaces width ++ rest) (hrest : rest.head? ≠ some ' ')
    (hcode : UpToMark line.trim code) (hruns : HasRuns code.trim runs)
    (hfree : ∀ run ∈ runs, ¬marker <:+: run) (opening closing : Text) :
    (parseLine? marker line).map (Target.plain marker opening closing).line =
      some (Text.dropReturns (spaces width ++ [' '].intercalate runs)) := by
  have htrim : line.trim ≠ [] := by
    obtain ⟨c, hc, hcode⟩ := hblank
    exact Text.trim_ne_nil_of_mem hc hcode
  obtain ⟨words, code', htokens, hcode', hruns'⟩ :=
    exists_hasTokens marker htrim (isComment_eq_false_iff.mpr hcomment)
  rw [upToMark_iff] at hcode hcode'
  obtain rfl := hcode.symm.trans hcode'
  rw [hasRuns_iff] at hruns hruns'
  obtain rfl := hruns.symm.trans hruns'
  have hwidth : line.indentation = width := hline ▸ indentation_of_head? width hrest
  have hwords : ∀ w ∈ words, ¬marker <:+: w.text := fun w hw =>
    hfree w.text (List.mem_map_of_mem hw)
  rw [hasTokens_iff, hwidth] at htokens
  rw [htokens, Option.map_some, line_ofIndentation_append hmarker,
    line_of_not_infix opening closing hwords, Text.dropReturns_append, dropReturns_spaces]

/-- A marker that overlaps itself and ends as a token does, around a tab and a blank token. -/
theorem line_as_written_overlap :
    let marker : Text := "a\ra".toList
    let rest : Text := "xa\r  \r f\t'\r -- i;1:0,1:1|".toList
    let line : Text := spaces 3 ++ rest
    let runs : List Text := ["xa\r".toList, ['\r'], "f\t'".toList]
    (∃ c ∈ line, isBlank c = false) ∧ (∀ width note, line ≠ spaces width ++ '#' :: note) ∧
      HasRuns (Text.trim "xa\r  \r f\t'\r ".toList) runs ∧ (∀ run ∈ runs, ¬marker <:+: run) ∧
      (parseLine? marker line).map (fun words => words.map Word.text) =
        some ("a\raa\raa\ra".toList :: runs) ∧
      (parseLine? marker line).map (Target.plain marker [] []).line =
        some "   xa  f\t'".toList := by
  intro marker rest line runs
  have hblank : ∃ c ∈ line, isBlank c = false := ⟨'x', by decide, by decide⟩
  have hcomment : ∀ width note, line ≠ spaces width ++ '#' :: note :=
    isComment_eq_false_iff.mp (by decide)
  have hcode : UpToMark line.trim "xa\r  \r f\t'\r ".toList :=
    upToMark_iff.mpr (by decide +kernel)
  have hruns : HasRuns (Text.trim "xa\r  \r f\t'\r ".toList) runs :=
    hasRuns_iff.mpr (by decide +kernel)
  have hfree : ∀ run ∈ runs, ¬marker <:+: run := by decide +kernel
  have hshown := line_as_written (by decide) hblank hcomment rfl (by decide) hcode hruns hfree [] []
  exact ⟨hblank, hcomment, hruns, hfree, by decide +kernel, hshown.trans (by decide +kernel)⟩

end Plain

end SpanViewer
