import SpanViewer.Hover
import SpanViewer.Proofs.Document.Line
import SpanViewer.Proofs.Highlight.Cut

/-!
# Comments

The mark that ends a comment is the last one of its line, and stands behind the number sign. What
is in front of it is one word, which is displayed as a comment, comes from nowhere in the source and
is what pointing at it means, whatever the indent marker is.
-/

namespace SpanViewer

/-- The part of a comment line that is its text. -/
inductive IsCommentText (line : Text) : Text → Prop
  /-- It stands in front of the last metadata mark. -/
  | marked {text metadata : Text} (hline : line = text ++ metadataMark ++ metadata)
      (hlast : ∀ front back, line = front ++ metadataMark ++ back → front.length ≤ text.length) :
      IsCommentText line text
  /-- Without a mark, it is the line without its line ending. -/
  | unmarked {text ending : Text} (hnone : ¬metadataMark <:+: line) (hline : line = text ++ ending)
      (hending : ∀ c ∈ ending, c = '\r' ∨ c = '\n')
      (hlast : ∀ c ∈ text.getLast?, c ≠ '\r' ∧ c ≠ '\n') : IsCommentText line text

/-- A comment line is read as its text. -/
theorem isCommentText_commentText (line : Text) : IsCommentText line (commentText line) := by
  unfold commentText
  cases hcut : line.cutLast? metadataMark with
  | some parts =>
    exact .marked (Text.eq_of_cutLast? hcut) fun _ _ => Text.length_le_of_cutLast? hcut
  | none =>
    obtain ⟨ending, hline, hending⟩ :=
      line.exists_eq_dropEndWhile_append fun c => c = '\r' || c = '\n'
    refine .unmarked ?_ hline (fun c hc => by simpa using hending c hc) fun c hc => ?_
    · rintro ⟨front, back, hmark⟩
      exact Text.ne_append_of_cutLast? hcut front back hmark.symm
    · simpa using Text.not_of_mem_getLast?_dropEndWhile c hc

/-- The text of a comment goes on beyond its number sign. -/
theorem exists_commentText_eq (width : Nat) (note : Text) :
    ∃ kept, commentText (spaces width ++ '#' :: note) = spaces width ++ '#' :: kept := by
  unfold commentText
  cases hcut : Text.cutLast? (spaces width ++ '#' :: note) metadataMark with
  | none => exact ⟨_, Text.dropEndWhile_append_cons _ note (by decide)⟩
  | some parts =>
    -- The mark lies on one side of the number sign, and there are only spaces in front of it.
    have hsign : '#' ∉ metadataMark := by decide
    rcases Text.occurrence_cases hsign (Text.eq_of_cutLast? hcut) with
      ⟨back, -, hspaces⟩ | ⟨kept, htext, -⟩
    · have hmem : '-' ∈ spaces width := by simp [hspaces, metadataMark]
      exact absurd (List.eq_of_mem_replicate hmem) (by decide)
    · exact ⟨kept, htext⟩

/-- What comes from nowhere is pointed at in front of the whole source. -/
theorem Document.hover_of_unmapped {d : Document} {policy : HoverPolicy} {line index : Nat}
    {words : List Word} {w : Word} (hline : d.derived[line]? = some words)
    (hword : words[policy.resolve words index]? = some w) (hunmapped : w.position = .unmapped) :
    d.hover policy line index =
      .ok ⟨line, policy.resolve words index, w, ⟨d.sourceText, [], [], 0, false⟩⟩ := by
  have hcut : Highlight.cut w.position d.source = ⟨d.sourceText, [], [], 0, false⟩ := by
    rw [hunmapped]
    exact Highlight.cut_eq_of_not_mapped (.inl rfl)
  simp only [hover, hline, hword, hcut]

/-- **Comments stay comments.** A line with a number sign behind its spaces is read as one word
without a span. Its text is the comment without what stands behind the last mark, and still starts
with the spaces and the number sign. It is displayed as a comment, pointing at it is never taken for
pointing at another word, and shows the whole source in front of no span. -/
theorem comments_stay (marker : Text) (width : Nat) (note : Text) :
    ∃ w kept, parseLine? marker (spaces width ++ '#' :: note) = some [w] ∧
      w.position = .unmapped ∧ IsCommentText (spaces width ++ '#' :: note) w.text ∧
      w.text = spaces width ++ '#' :: kept ∧ w.classify = .comment ∧
      (∀ policy : HoverPolicy, policy.resolve [w] 0 = 0) ∧
      ∀ (d : Document) (policy : HoverPolicy) (line : Nat),
        d.derived[line]? = parseLine? marker (spaces width ++ '#' :: note) →
          d.hover policy line 0 = .ok ⟨line, 0, w, ⟨d.sourceText, [], [], 0, false⟩⟩ := by
  obtain ⟨kept, hkept⟩ := exists_commentText_eq width note
  have hparse : parseLine? marker (spaces width ++ '#' :: note) =
      some [.unmapped (spaces width ++ '#' :: kept)] := by
    rw [parseLine?_of_isComment marker (isComment_iff.mpr ⟨width, note, rfl⟩), hkept]
  have hclass : (Word.unmapped (spaces width ++ '#' :: kept)).classify = .comment :=
    if_pos (isComment_iff.mpr ⟨width, kept, rfl⟩)
  refine ⟨_, kept, hparse, rfl, hkept ▸ isCommentText_commentText _, rfl, hclass, fun _ => rfl, ?_⟩
  intro d policy line hline
  exact Document.hover_of_unmapped (hline.trans hparse) rfl rfl

/-- Dashes that overlap at the end of a comment, and a marker that is a number sign. -/
theorem comments_stay_decrement :
    let marker : Text := ['#']
    let line : Text := spaces 2 ++ '#' :: " n -- é---; 1:0,1:1\r".toList
    let w : Word := .unmapped "  # n -- é-".toList
    let d : Document := ⟨["n = é - 1".toList], [[.unmapped ['x']], [w]]⟩
    parseLine? marker line = some [w] ∧ w.classify = .comment ∧
      d.derived[1]? = parseLine? marker line ∧
      d.hover ⟨true, marker⟩ 1 0 = .ok ⟨1, 0, w, ⟨"n = é - 1".toList, [], [], 0, false⟩⟩ := by
  intro marker line w d
  obtain ⟨w', -, hparse, -, -, -, hclass, -, hhover⟩ := comments_stay marker 2 _
  have hword : parseLine? marker line = some [w] := by decide +kernel
  obtain rfl : w' = w := List.singleton_inj.mp (Option.some.inj (hparse.symm.trans hword))
  have hline : d.derived[1]? = parseLine? marker line := hword.symm
  exact ⟨hword, hclass, hline, hhover d ⟨true, marker⟩ 1 hline⟩

end SpanViewer
