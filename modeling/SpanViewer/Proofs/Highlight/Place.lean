import Mathlib.Data.Prod.Lex
import SpanViewer.Proofs.Highlight.Offsets
import SpanViewer.Proofs.Text.Trim

/-!
# Places of a cut

A place in the source is a line and a column, and has a number of bytes in front of it that never
shrinks in reading order. A cut around a position falls at its two places, moved into the source.
Cuts of one source therefore stand to one another as their positions do: spans that hold one
another, or follow one another, leave texts behind that do so too.
-/

namespace SpanViewer

namespace Text

/-- Of two ways to divide a text, the one with the longer front has the shorter back. -/
theorem suffix_of_prefix {text front back front' back' : Text} (htext : front ++ back = text)
    (htext' : front' ++ back' = text) (hfront : front <+: front') : back' <:+ back := by
  obtain ⟨between, rfl⟩ := hfront
  rw [← htext', List.append_assoc] at htext
  exact ⟨between, (List.append_cancel_left htext).symm⟩

/-- The bytes of the lines above another line, with their line feeds. -/
def sizeAbove : List Text → Nat
  | [] => 0
  | line :: rest => byteSize line + 1 + sizeAbove rest

/-- A line among those above has its own bytes and a line feed. -/
theorem sizeAbove_append_cons (above : List Text) (line : Text) (between : List Text) :
    sizeAbove (above ++ line :: between) =
      sizeAbove above + (byteSize line + 1) + sizeAbove between := by
  induction above with
  | nil => simp [sizeAbove]
  | cons first above ih =>
    simp only [List.cons_append, sizeAbove, ih]
    omega

/-- A text has the bytes of the lines above its last one, and of the last one. -/
theorem byteSize_ofLines_append (above : List Text) (last : Text) :
    byteSize (ofLines (above ++ [last])) = sizeAbove above + byteSize last := by
  induction above with
  | nil => simp [sizeAbove]
  | cons line above ih =>
    have hbelow : above ++ [last] ≠ [] := by simp
    have hlines := ofLines_append (List.cons_ne_nil line []) hbelow
    rw [List.singleton_append, ofLines_singleton] at hlines
    have hfeed : byteSize ('\n' :: ofLines (above ++ [last])) =
        1 + byteSize (ofLines (above ++ [last])) := rfl
    rw [List.cons_append, hlines, byteSize_append, hfeed, ih, sizeAbove]
    omega

end Text

namespace Position

/-- The place at which a span starts. Places are compared in reading order. -/
def start (p : Position) : ℕ ×ₗ ℕ :=
  toLex (p.line, p.column)

/-- The place at which a span ends. -/
def stop (p : Position) : ℕ ×ₗ ℕ :=
  toLex (p.endLine, p.endColumn)

/-- A span on lines of the source that does not end before its start. Its columns may lie behind the
ends of their lines or inside of characters. -/
structure LiesIn (p : Position) (source : List Text) : Prop where
  /-- Lines are numbered from 1. -/
  one_le_line : 1 ≤ p.line
  /-- The source has the last line of the span, and so the others. -/
  endLine_le : p.endLine ≤ source.length
  /-- The start is not behind the end. -/
  start_le_stop : p.start ≤ p.stop

/-- A span does not end on a line above the one that it starts on. -/
theorem LiesIn.line_le_endLine {p : Position} {source : List Text} (hp : p.LiesIn source) :
    p.line ≤ p.endLine := by
  rcases Prod.Lex.toLex_le_toLex.mp hp.start_le_stop with hline | ⟨hline, -⟩
  · exact Nat.le_of_lt hline
  · exact Nat.le_of_eq hline

end Position

namespace Highlight

/-- The number of bytes in front of a place of the source: those of the lines above it, and those of
its line up to the last boundary that is behind neither the column nor the end of the line. -/
def IsOffset (source : List Text) (line column offset : Nat) : Prop :=
  ∃ above text below boundary, source = above ++ text :: below ∧ line = above.length + 1 ∧
    IsGreatest {b | text.isBoundary b = true ∧ b ≤ min column text.byteSize} boundary ∧
    offset = Text.sizeAbove above + boundary

/-- A column of a line between others has an offset. -/
theorem isOffset_floorColumn (above : List Text) (text : Text) (below : List Text) (column : Nat) :
    IsOffset (above ++ text :: below) (above.length + 1) column
      (Text.sizeAbove above + text.floorColumn column) :=
  ⟨above, text, below, _, rfl, rfl, text.isGreatest_floorColumn column, rfl⟩

/-- A place that is not behind another has no more bytes in front of it. -/
theorem IsOffset.le {source : List Text} {line column offset line' column' offset' : Nat}
    (hoffset : IsOffset source line column offset)
    (hoffset' : IsOffset source line' column' offset')
    (hplace : toLex (line, column) ≤ toLex (line', column')) : offset ≤ offset' := by
  obtain ⟨above, text, below, boundary, hsource, rfl, hfloor, rfl⟩ := hoffset
  obtain ⟨above', text', below', boundary', hsource', rfl, hfloor', rfl⟩ := hoffset'
  rcases Prod.Lex.toLex_le_toLex.mp hplace with hlines | ⟨hline, hcolumn⟩
  · -- The first line stands above the second one, as a whole and with its line feed.
    have habove : above ++ [text] <+: above' := by
      refine List.prefix_of_prefix_length_le ⟨below, ?_⟩ ⟨text' :: below', hsource'.symm⟩ ?_
      · simp [hsource]
      · simp only [List.length_append, List.length_singleton]
        omega
    obtain ⟨between, rfl⟩ := habove
    have hinside := (Nat.le_min.mp hfloor.1.2).2
    rw [List.append_assoc, List.singleton_append, Text.sizeAbove_append_cons]
    omega
  · have hlength : above.length = above'.length := Nat.add_right_cancel hline
    obtain ⟨rfl, htext⟩ := List.append_inj (hsource ▸ hsource') hlength
    obtain ⟨rfl, -⟩ := List.cons.inj htext
    have hcolumns : min column text.byteSize ≤ min column' text.byteSize :=
      Nat.le_min.mpr ⟨(Nat.min_le_left ..).trans hcolumn, Nat.min_le_right ..⟩
    exact Nat.add_le_add_left (hfloor'.2 ⟨hfloor.1.1, hfloor.1.2.trans hcolumns⟩) _

/-- In front of a span stand the bytes in front of its start. -/
theorem byteSize_before_cutLines (column endColumn : Nat) (above : List Text) (first : Text)
    (following below : List Text) :
    (cutLines column endColumn above first following below).before.byteSize =
      Text.sizeAbove above + first.floorColumn column :=
  Text.byteSize_ofLines_append above (first.splitAtByte column).1

/-- A span of one line ends at its end, or at its start if that is behind. -/
theorem byteSize_inside_of_line (column endColumn : Nat) (above : List Text) (first : Text)
    (below : List Text) :
    ((cutLines column endColumn above first [] below).before ++
        (cutLines column endColumn above first [] below).inside).byteSize =
      Text.sizeAbove above + max (first.floorColumn column) (first.floorColumn endColumn) := by
  obtain ⟨head, rest, hfirst⟩ := first.exists_splitAtByte column
  obtain ⟨inside, tail, hrest⟩ := rest.exists_splitAtByte (endColumn - head.byteSize)
  have hcolumn : first.floorColumn column = head.byteSize := by rw [Text.floorColumn, hfirst]
  have hinside : rest.floorColumn (endColumn - head.byteSize) = inside.byteSize := by
    rw [Text.floorColumn, hrest]
  have hend := max_floorColumn head rest endColumn
  rw [← Text.eq_append_of_splitAtByte hfirst, hinside] at hend
  rw [Text.byteSize_append, byteSize_before_cutLines, cutLines_of_line hfirst hrest, hcolumn,
    Nat.max_comm, hend, Nat.add_assoc]

/-- A span of several lines ends at its end. -/
theorem byteSize_inside_of_lines (column endColumn : Nat) (above : List Text) (first : Text)
    (middle : List Text) (last : Text) (below : List Text) :
    ((cutLines column endColumn above first (middle ++ [last]) below).before ++
        (cutLines column endColumn above first (middle ++ [last]) below).inside).byteSize =
      Text.sizeAbove (above ++ first :: middle) + last.floorColumn endColumn := by
  obtain ⟨head, rest, hfirst⟩ := first.exists_splitAtByte column
  obtain ⟨inside, tail, hlast⟩ := last.exists_splitAtByte endColumn
  have hspan := Text.ofLines_append_ofLines above head rest (middle ++ [inside])
  rw [← Text.eq_append_of_splitAtByte hfirst, ← List.cons_append, ← List.cons_append,
    ← List.append_assoc] at hspan
  rw [cutLines_of_lines hfirst hlast, hspan, Text.byteSize_ofLines_append, Text.floorColumn, hlast]

/-- The lines of a span are cut at the offsets of its start and its end. -/
theorem exists_offsets_cutLines (column endColumn : Nat) (above : List Text) (first : Text)
    (following below : List Text) :
    ∃ start stop, IsOffset (above ++ first :: following ++ below) (above.length + 1) column start ∧
      IsOffset (above ++ first :: following ++ below) (above.length + 1 + following.length)
        endColumn stop ∧
      (cutLines column endColumn above first following below).before.byteSize = start ∧
      ((cutLines column endColumn above first following below).before ++
        (cutLines column endColumn above first following below).inside).byteSize =
          max start stop := by
  have hstart := isOffset_floorColumn above first (following ++ below) column
  rw [← List.cons_append, ← List.append_assoc] at hstart
  rcases following.eq_nil_or_concat with rfl | ⟨middle, last, rfl⟩
  · have hstop := isOffset_floorColumn above first below endColumn
    refine ⟨_, _, hstart, by simpa using hstop, byteSize_before_cutLines .., ?_⟩
    rw [byteSize_inside_of_line, Nat.add_max_add_left]
  · rw [List.concat_eq_append] at hstart ⊢
    have hstop := isOffset_floorColumn (above ++ first :: middle) last below endColumn
    refine ⟨_, _, hstart, by simpa [Nat.add_assoc, Nat.add_comm 1] using hstop,
      byteSize_before_cutLines .., ?_⟩
    have hfirst := (Nat.le_min.mp (first.isGreatest_floorColumn column).1.2).2
    rw [byteSize_inside_of_lines, Text.sizeAbove_append_cons]
    omega

/-- A cut around a mapped position falls at the offsets of its start and its end, both moved into
the source. -/
theorem exists_offsets {p : Position} (hmapped : p.isMapped = true) {source : List Text}
    (hsource : source ≠ []) :
    ∃ start stop, IsOffset source (min p.line source.length) p.column start ∧
      IsOffset source (max (min p.line source.length) (min p.endLine source.length)) p.endColumn
        stop ∧
      (cut p source).before.byteSize = start ∧
      ((cut p source).before ++ (cut p source).inside).byteSize = max start stop := by
  obtain ⟨above, first, following, below, rfl, hstart, hstop⟩ := exists_span hmapped hsource
  rw [hstart, hstop, cut_eq_cutLines hmapped hstart hstop]
  exact exists_offsets_cutLines ..

/-- A cut around a mapped position says so, and how far its first line is indented. -/
theorem exists_first {p : Position} (hmapped : p.isMapped = true) {source : List Text}
    (hsource : source ≠ []) :
    ∃ first, source[min p.line source.length - 1]? = some first ∧ (cut p source).mapped = true ∧
      (cut p source).indentation = first.indentation := by
  obtain ⟨above, first, following, below, rfl, hstart, hstop⟩ := exists_span hmapped hsource
  rw [hstart, cut_eq_cutLines hmapped hstart hstop]
  exact ⟨first, by simp, rfl, rfl⟩

/-- **A cut falls where its position says.** In a source with lines, a position that names a line
is moved into the source; the text in front of the span has the bytes in front of the start, and
with the span it has those in front of the end, unless the end is in front of the start. The cut
counts the spaces in front of the first line of the span. Every other position leaves the whole
source in front of no span. -/
theorem cut_at_offsets (p : Position) (source : List Text) :
    (1 ≤ p.line → source ≠ [] →
      ∃ first start stop, source[min p.line source.length - 1]? = some first ∧
        IsOffset source (min p.line source.length) p.column start ∧
        IsOffset source (max (min p.line source.length) (min p.endLine source.length)) p.endColumn
          stop ∧
        (cut p source).mapped = true ∧ (cut p source).before.byteSize = start ∧
        ((cut p source).before ++ (cut p source).inside).byteSize = max start stop ∧
        ∃ rest, first = List.replicate (cut p source).indentation ' ' ++ rest ∧
          rest.head? ≠ some ' ') ∧
    (p.line = 0 ∨ source = [] → cut p source = ⟨.ofLines source, [], [], 0, false⟩) := by
  constructor
  · intro hline hsource
    have hmapped : p.isMapped = true := decide_eq_true (Nat.ne_of_gt hline)
    obtain ⟨start, stop, hstart, hstop, hbefore, hinside⟩ := exists_offsets hmapped hsource
    obtain ⟨first, hfirst, hcut, hindentation⟩ := exists_first hmapped hsource
    rw [hindentation]
    exact ⟨first, start, stop, hfirst, hstart, hstop, hcut, hbefore, hinside,
      first.exists_eq_spaces_append⟩
  · intro hnone
    exact cut_eq_of_not_mapped (by simpa [Position.isMapped] using hnone)

/-- A column inside of a character, and an end behind the source. -/
theorem cut_at_offsets_inside_character :
    let source := ["é".toList, "  è = f(".toList, "x)".toList]
    let p : Position := ⟨2, 3, 9, 1⟩
    (1 ≤ p.line ∧ source ≠ [] ∧ IsOffset source 2 3 5 ∧ (cut p source).before = "é\n  ".toList ∧
      IsOffset source 3 1 14 ∧ (cut p source).inside = "è = f(\nx".toList ∧
      (cut p source).indentation = 2) ∧
    (Position.unmapped.line = 0 ∧ cut .unmapped source = ⟨.ofLines source, [], [], 0, false⟩) := by
  intro source p
  have hcut : cut p source = ⟨"é\n  ".toList, "è = f(\nx".toList, ")".toList, 2, true⟩ := by
    decide +kernel
  obtain ⟨first, start, stop, -, hstart, hstop, -, hbefore, hinside, -⟩ :=
    (cut_at_offsets p source).1 (by decide) (by decide)
  rw [hcut] at hbefore hinside
  obtain rfl : start = 5 := hbefore.symm
  obtain rfl : stop = 14 := by
    have hsize : (14 : Nat) = max 5 stop := hinside
    omega
  have hnone := (cut_at_offsets .unmapped source).2 (.inl rfl)
  exact ⟨⟨by decide, by decide, hstart, by rw [hcut], hstop, by rw [hcut], by rw [hcut]⟩, rfl,
    hnone⟩

/-- A cut around a span on lines of the source falls at the offsets of its start and its end, and
loses nothing of the source. -/
theorem exists_offsets_of_liesIn {p : Position} {source : List Text} (hp : p.LiesIn source) :
    ∃ start stop, IsOffset source p.line p.column start ∧
      IsOffset source p.endLine p.endColumn stop ∧ (cut p source).before.byteSize = start ∧
      ((cut p source).before ++ (cut p source).inside).byteSize = stop ∧
      (cut p source).reassembled = .ofLines source := by
  have hlines := hp.line_le_endLine
  have hline := hp.one_le_line
  have hcount := hp.endLine_le
  have hmapped : p.isMapped = true := decide_eq_true (Nat.ne_of_gt hline)
  have hsource : source ≠ [] := List.ne_nil_of_length_pos (by omega)
  obtain ⟨start, stop, hstart, hstop, hbefore, hinside⟩ := exists_offsets hmapped hsource
  rw [Nat.min_eq_left (hlines.trans hcount)] at hstart hstop
  rw [Nat.min_eq_left hcount, Nat.max_eq_right hlines] at hstop
  rw [Nat.max_eq_right (hstart.le hstop hp.start_le_stop)] at hinside
  obtain ⟨above, first, following, below, rfl, hspan, hspan'⟩ := exists_span hmapped hsource
  refine ⟨start, stop, hstart, hstop, hbefore, hinside, ?_⟩
  rw [cut_eq_cutLines hmapped hspan hspan', reassembled_cutLines]

/-- **Cuts keep the order of their spans.** If one span holds another, what is in front of it starts
what is in front of the other, and what is behind it ends what is behind the other. If one span ends
no later than another starts, the source up to its end starts what is in front of the other. -/
theorem cut_keeps_order {source : List Text} {p q : Position} (hp : p.LiesIn source)
    (hq : q.LiesIn source) :
    (q.start ≤ p.start → p.stop ≤ q.stop →
        (cut q source).before <+: (cut p source).before ∧
          (cut q source).after <:+ (cut p source).after) ∧
      (p.stop ≤ q.start →
        (cut p source).before ++ (cut p source).inside <+: (cut q source).before) := by
  obtain ⟨start, stop, hstart, hstop, hbefore, hinside, hsource⟩ := exists_offsets_of_liesIn hp
  obtain ⟨start', stop', hstart', hstop', hbefore', hinside', hsource'⟩ :=
    exists_offsets_of_liesIn hq
  have hprefix : (cut p source).before ++ (cut p source).inside <+: Text.ofLines source :=
    ⟨_, hsource⟩
  have hprefix' : (cut q source).before ++ (cut q source).inside <+: Text.ofLines source :=
    ⟨_, hsource'⟩
  have hfront := (List.prefix_append ..).trans hprefix
  have hfront' := (List.prefix_append ..).trans hprefix'
  refine ⟨fun hle hle' => ⟨?_, ?_⟩, fun hle => ?_⟩
  · apply Text.prefix_of_byteSize_le hfront' hfront
    rw [hbefore, hbefore']
    exact hstart'.le hstart hle
  · apply Text.suffix_of_prefix hsource hsource'
    apply Text.prefix_of_byteSize_le hprefix hprefix'
    rw [hinside, hinside']
    exact hstop.le hstop' hle'
  · apply Text.prefix_of_byteSize_le hprefix hfront'
    rw [hinside, hbefore']
    exact hstop.le hstart' hle

/-- A span inside of another one and in front of a third, with columns inside of a character and
behind the end of a line. -/
theorem cut_keeps_order_of_call :
    let source := ["é = f(".toList, "  x)".toList]
    let p : Position := ⟨1, 5, 1, 9⟩
    let q : Position := ⟨1, 1, 2, 99⟩
    let r : Position := ⟨2, 0, 2, 3⟩
    (p.LiesIn source ∧ q.LiesIn source ∧ q.start ≤ p.start ∧ p.stop ≤ q.stop ∧
      (cut q source).before <+: (cut p source).before ∧
      (cut q source).after <:+ (cut p source).after) ∧
    (p.LiesIn source ∧ r.LiesIn source ∧ p.stop ≤ r.start ∧
      (cut p source).before ++ (cut p source).inside <+: (cut r source).before) := by
  intro source p q r
  have hp : p.LiesIn source := ⟨by decide, by decide, by decide⟩
  have hq : q.LiesIn source := ⟨by decide, by decide, by decide⟩
  have hr : r.LiesIn source := ⟨by decide, by decide, by decide⟩
  have hstart : q.start ≤ p.start := by decide
  have hstop : p.stop ≤ q.stop := by decide
  have horder : p.stop ≤ r.start := by decide
  exact ⟨⟨hp, hq, hstart, hstop, (cut_keeps_order hp hq).1 hstart hstop⟩,
    hp, hr, horder, (cut_keeps_order hp hr).2 horder⟩

end Highlight

end SpanViewer
