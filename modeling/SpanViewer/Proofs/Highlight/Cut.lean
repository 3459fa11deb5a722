import SpanViewer.Highlight
import SpanViewer.Proofs.Text.Lines
import SpanViewer.Proofs.Text.Offset

/-!
# Parts of a cut

A mapped position picks the lines of its span out of the source. Around a span of one line and
around a span of several lines the three parts of a cut are written down here, and put together
again.
-/

namespace SpanViewer.Highlight

/-- A source is cut into the lines above a span, its lines, and the lines below it. -/
theorem exists_split {source : List Text} {start stop : Nat} (hstart : 1 ≤ start)
    (horder : start ≤ stop) (hstop : stop ≤ source.length) :
    ∃ above first following below, source = above ++ first :: following ++ below ∧
      start = above.length + 1 ∧ stop = above.length + 1 + following.length := by
  have hfirst : start - 1 < source.length := by omega
  refine ⟨source.take (start - 1), source[start - 1], (source.drop start).take (stop - start),
    source.drop stop, ?_, ?_, ?_⟩
  · have hdrop : source.drop stop = (source.drop start).drop (stop - start) := by
      rw [List.drop_drop]
      congr 1
      omega
    have hspan : source.drop (start - 1) = source[start - 1] :: source.drop start := by
      rw [List.drop_eq_getElem_cons hfirst, Nat.sub_add_cancel hstart]
    rw [hdrop, List.append_assoc, List.cons_append, List.take_append_drop, ← hspan,
      List.take_append_drop]
  · simp only [List.length_take]
    omega
  · simp only [List.length_take, List.length_drop]
    omega

/-- A mapped position and a source that is not empty give the lines of a span. -/
theorem exists_span {p : Position} (hmapped : p.isMapped = true) {source : List Text}
    (hsource : source ≠ []) :
    ∃ above first following below, source = above ++ first :: following ++ below ∧
      min p.line source.length = above.length + 1 ∧
      max (above.length + 1) (min p.endLine source.length) =
        above.length + 1 + following.length := by
  have hline : p.line ≠ 0 := by simpa [Position.isMapped] using hmapped
  have hcount : 0 < source.length := List.length_pos_iff.mpr hsource
  have hfirst : 1 ≤ min p.line source.length := by omega
  have horder : min p.line source.length ≤
      max (min p.line source.length) (min p.endLine source.length) := by omega
  have hinside : max (min p.line source.length) (min p.endLine source.length) ≤ source.length := by
    omega
  obtain ⟨above, first, following, below, hsplit, hstart, hstop⟩ :=
    exists_split hfirst horder hinside
  exact ⟨above, first, following, below, hsplit, hstart, by rw [← hstart, hstop, hstart]⟩

/-- The cut around a mapped position is that of the lines of its span. -/
theorem cut_eq_cutLines {p : Position} (hmapped : p.isMapped = true) {above : List Text}
    {first : Text} {following below : List Text}
    (hstart : min p.line (above ++ first :: following ++ below).length = above.length + 1)
    (hstop : max (above.length + 1) (min p.endLine (above ++ first :: following ++ below).length) =
      above.length + 1 + following.length) :
    cut p (above ++ first :: following ++ below) =
      cutLines p.column p.endColumn above first following below := by
  have hspan : (above ++ first :: following).length = above.length + 1 + following.length := by
    simp only [List.length_append, List.length_cons]
    omega
  have htake : (above ++ first :: following ++ below).take above.length = above := by
    rw [List.append_assoc, List.take_left]
  simp only [cut, hstart, hstop, hmapped, Nat.add_sub_cancel, htake]
  rw [← hspan, List.take_left, List.drop_left, List.drop_left]

/-- Without a span the cut is the whole source. -/
theorem cut_eq_of_not_mapped {p : Position} {source : List Text}
    (hnone : p.isMapped = false ∨ source = []) : cut p source = { before := .ofLines source } := by
  rcases hnone with hmapped | rfl
  · simp [cut, hmapped]
  · simp [cut]

/-- The cut around a span of one line. -/
theorem cutLines_of_line {column endColumn : Nat} {first head rest inside tail : Text}
    (hfirst : first.splitAtByte column = (head, rest))
    (hrest : rest.splitAtByte (endColumn - head.byteSize) = (inside, tail))
    (above below : List Text) :
    cutLines column endColumn above first [] below =
      ⟨.ofLines (above ++ [head]), inside, .ofLines (tail :: below), first.indentation, true⟩ := by
  simp [cutLines, hfirst, hrest]

/-- The cut around a span of several lines. -/
theorem cutLines_of_lines {column endColumn : Nat} {first head rest last inside tail : Text}
    (hfirst : first.splitAtByte column = (head, rest))
    (hlast : last.splitAtByte endColumn = (inside, tail)) (above middle below : List Text) :
    cutLines column endColumn above first (middle ++ [last]) below =
      ⟨.ofLines (above ++ [head]), .ofLines (rest :: middle ++ [inside]), .ofLines (tail :: below),
        first.indentation, true⟩ := by
  simp [cutLines, hfirst, hlast]

/-- The three parts of a cut are together the lines that it was made from. -/
theorem reassembled_cutLines (column endColumn : Nat) (above : List Text) (first : Text)
    (following below : List Text) :
    (cutLines column endColumn above first following below).reassembled =
      .ofLines (above ++ first :: following ++ below) := by
  obtain ⟨head, rest, hfirst⟩ := first.exists_splitAtByte column
  rcases following.eq_nil_or_concat with rfl | ⟨middle, last, rfl⟩
  · obtain ⟨inside, tail, hrest⟩ := rest.exists_splitAtByte (endColumn - head.byteSize)
    rw [cutLines_of_line hfirst hrest, reassembled, Text.eq_append_of_splitAtByte hfirst,
      Text.eq_append_of_splitAtByte hrest]
    calc Text.ofLines (above ++ [head]) ++ inside ++ .ofLines (tail :: below)
        = .ofLines (above ++ [head ++ inside]) ++ .ofLines (tail :: below) := by
          rw [← Text.ofLines_append_ofLines, Text.ofLines_singleton]
      _ = .ofLines (above ++ [head ++ (inside ++ tail)] ++ below) := by
          rw [Text.ofLines_append_ofLines]
          simp
  · obtain ⟨inside, tail, hlast⟩ := last.exists_splitAtByte endColumn
    rw [List.concat_eq_append, cutLines_of_lines hfirst hlast, reassembled,
      Text.eq_append_of_splitAtByte hfirst, Text.eq_append_of_splitAtByte hlast]
    calc Text.ofLines (above ++ [head]) ++ .ofLines (rest :: middle ++ [inside]) ++
          .ofLines (tail :: below)
        = .ofLines (above ++ (head ++ rest) :: middle ++ [inside]) ++ .ofLines (tail :: below) := by
          rw [List.cons_append, Text.ofLines_append_ofLines]
          simp
      _ = .ofLines (above ++ (head ++ rest) :: (middle ++ [inside ++ tail]) ++ below) := by
          rw [Text.ofLines_append_ofLines]
          simp

end SpanViewer.Highlight
