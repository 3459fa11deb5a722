import SpanViewer.Highlight
import SpanViewer.Proofs.Document.Line
import SpanViewer.Proofs.Text.Lines
import SpanViewer.Proofs.Text.Offset

/-!
# Dedented spans

A span that is shown as a block of its own loses a prefix of fixed width on every line but the
first, whatever stands in it. The prefix is found by the byte offset of the character behind it,
which never lies inside of a character. Where the prefix is all spaces, indenting the lines again
gives the span back.
-/

namespace SpanViewer

namespace Text

/-- The byte offset of the character with the given number, if there is one. -/
def characterOffset? : Text → Nat → Option Nat
  | [], _ => none
  | _ :: _, 0 => some 0
  | c :: rest, index + 1 => (characterOffset? rest index).map (c.utf8Size + ·)

/-- What stands behind a number of characters, sliced from the byte offset behind them. A line that
is too short leaves nothing. -/
def dropByOffset? (line : Text) (width : Nat) : Option Text :=
  match line.characterOffset? width with
  | none => some []
  | some offset => line.slice? offset line.byteSize

/-- The text with a number of spaces in front of every line but the first. -/
def indentFollowing (text : Text) (width : Nat) : Text :=
  match text.lines with
  | [] => []
  | first :: following => .ofLines (first :: following.map (spaces width ++ ·))

/-- The offset of a character is the size of what is in front of it. -/
theorem characterOffset?_append_cons (front : Text) (c : Char) (back : Text) :
    (front ++ c :: back).characterOffset? front.length = some (byteSize front) := by
  induction front with
  | nil => rfl
  | cons d front ih =>
    rw [List.cons_append, List.length_cons, characterOffset?, ih, Option.map_some, byteSize]

/-- Behind the end of a text there is no character. -/
theorem characterOffset?_of_length_le {text : Text} {index : Nat} (hindex : text.length ≤ index) :
    text.characterOffset? index = none := by
  induction text generalizing index with
  | nil => rfl
  | cons c rest ih =>
    obtain ⟨index, rfl⟩ := Nat.exists_eq_succ_of_ne_zero (Nat.ne_zero_of_lt hindex)
    rw [characterOffset?, ih (Nat.le_of_succ_le_succ hindex), Option.map_none]

/-- A slice behind whole characters is never out of place. -/
theorem dropByOffset?_eq_some (line : Text) (width : Nat) :
    line.dropByOffset? width = some (line.drop width) := by
  rw [dropByOffset?]
  rcases Nat.lt_or_ge width line.length with hwidth | hwidth
  · have hline : line.take width ++ line.drop width = line := List.take_append_drop width line
    have hne : line.drop width ≠ [] := List.drop_eq_nil_iff.not.mpr (Nat.not_le_of_lt hwidth)
    obtain ⟨c, rest, hdrop⟩ := List.exists_cons_of_ne_nil hne
    have hoffset := characterOffset?_append_cons (line.take width) c rest
    rw [← hdrop, hline, List.length_take, Nat.min_eq_left (Nat.le_of_lt hwidth)] at hoffset
    have hslice := slice?_append (line.take width) (line.drop width) []
    rw [List.append_nil, hline, ← byteSize_append, hline] at hslice
    rw [hoffset]
    exact hslice
  · rw [characterOffset?_of_length_le hwidth, List.drop_eq_nil_of_le hwidth]

/-- Lines that are changed one by one are read back, if no line feed comes into them. -/
theorem lines_ofLines_map {text first : Text} {following : List Text} {change : Text → Text}
    (hlines : text.lines = first :: following)
    (hchange : ∀ line, '\n' ∉ line → '\n' ∉ change line) :
    (ofLines (first :: following.map change)).lines = first :: following.map change := by
  have hfeed : ∀ line ∈ first :: following, '\n' ∉ line := fun line hline =>
    not_mem_of_mem_splitOn (hlines ▸ hline)
  obtain ⟨hfirst, hfollowing⟩ := List.forall_mem_cons.mp hfeed
  refine lines_ofLines (List.cons_ne_nil _ _) (List.forall_mem_cons.mpr ⟨hfirst, ?_⟩)
  exact List.forall_mem_map.mpr fun line hline => hchange line (hfollowing line hline)

/-- Indented lines are read back. -/
theorem lines_indentFollowing {text first : Text} {following : List Text}
    (hlines : text.lines = first :: following) (width : Nat) :
    (text.indentFollowing width).lines = first :: following.map (spaces width ++ ·) := by
  rw [indentFollowing, hlines]
  refine lines_ofLines_map hlines fun line hline hmem => ?_
  rcases List.mem_append.mp hmem with hspace | hmem
  · exact absurd (List.eq_of_mem_replicate hspace) (by decide)
  · exact hline hmem

/-- A line is indented again exactly if spaces were cut from it. -/
theorem spaces_append_drop_eq_iff {line : Text} {width : Nat} :
    spaces width ++ line.drop width = line ↔ spaces width <+: line := by
  constructor
  · exact fun hline => ⟨line.drop width, hline⟩
  · rintro ⟨rest, rfl⟩
    have hrest : (spaces width ++ rest).drop (spaces width).length = rest := List.drop_left
    rw [spaces, List.length_replicate, ← spaces] at hrest
    rw [hrest]

end Text

namespace Highlight

/-- The span dedented by slices at byte offsets, each of which might be out of place. Without an
indentation nothing is cut. -/
def dedentedByOffsets? (h : Highlight) : Option Text :=
  if h.indentation = 0 then
    some h.inside
  else
    match h.inside.lines with
    | [] => some []
    | first :: following => do
      let kept ← following.mapM (·.dropByOffset? h.indentation)
      return .ofLines (first :: kept)

/-- A dedented span has the lines of the span, without the prefixes of those that follow the
first. -/
theorem exists_lines_dedented (h : Highlight) :
    ∃ first following, h.inside.lines = first :: following ∧
      h.dedented.lines = first :: following.map (·.drop h.indentation) := by
  obtain ⟨first, following, hlines⟩ :=
    List.exists_cons_of_ne_nil (List.splitOn_ne_nil '\n' h.inside)
  have hinside : h.inside.lines = first :: following := hlines
  refine ⟨first, following, hinside, ?_⟩
  rw [dedented, hinside]
  exact Text.lines_ofLines_map hinside fun line hline hmem => hline (List.mem_of_mem_drop hmem)

/-- Slicing at byte offsets dedents a span. -/
theorem dedentedByOffsets?_eq_some (h : Highlight) : h.dedentedByOffsets? = some h.dedented := by
  obtain ⟨first, following, hlines, hdedented⟩ := h.exists_lines_dedented
  rw [← h.dedented.ofLines_lines, hdedented, dedentedByOffsets?]
  split
  · next hindentation =>
    simp only [hindentation, List.drop_zero, List.map_id', ← hlines, Text.ofLines_lines]
  · have hkept : following.mapM (·.dropByOffset? h.indentation) =
        some (following.map (·.drop h.indentation)) := by
      simp only [Text.dropByOffset?_eq_some]
      exact List.mapM_pure
    simp only [hlines, hkept]
    rfl

/-- A span that is dedented and indented again is the same exactly if spaces were cut from it. -/
theorem indentFollowing_dedented_iff (h : Highlight) :
    h.dedented.indentFollowing h.indentation = h.inside ↔
      ∀ line ∈ h.inside.lines.tail, spaces h.indentation <+: line := by
  obtain ⟨first, following, hlines, hdedented⟩ := h.exists_lines_dedented
  have hagain := Text.lines_indentFollowing hdedented h.indentation
  have hsame := List.map_eq_map_iff (l := following) (g := id)
    (f := fun line => spaces h.indentation ++ line.drop h.indentation)
  rw [List.map_id] at hsame
  rw [List.map_map, Function.comp_def] at hagain
  rw [Text.eq_iff_lines_eq, hagain, hlines, List.tail_cons, List.cons_inj_right, hsame]
  exact forall₂_congr fun line _ => Text.spaces_append_drop_eq_iff

/-- **Dedenting cuts a prefix of fixed width.** None of the slices by which a span is dedented is
out of place. The dedented span has as many lines as the span and the same first line. Each line
that follows has lost as many characters as the span is indented, or all if it has fewer. Indenting
the lines again gives the span back exactly if what they lost were spaces. -/
theorem dedented_lines (h : Highlight) :
    h.dedentedByOffsets? = some h.dedented ∧
      h.dedented.lines.length = h.inside.lines.length ∧
      h.dedented.lines.head? = h.inside.lines.head? ∧
      (∀ i line, h.inside.lines[i + 1]? = some line →
        ∃ cut kept, line = cut ++ kept ∧ cut.length = min h.indentation line.length ∧
          h.dedented.lines[i + 1]? = some kept) ∧
      (h.dedented.indentFollowing h.indentation = h.inside ↔
        ∀ line ∈ h.inside.lines.tail, spaces h.indentation <+: line) := by
  obtain ⟨first, following, hlines, hdedented⟩ := h.exists_lines_dedented
  refine ⟨h.dedentedByOffsets?_eq_some, ?_, ?_, ?_, h.indentFollowing_dedented_iff⟩
  · rw [hlines, hdedented, List.length_cons, List.length_cons, List.length_map]
  · rw [hlines, hdedented, List.head?_cons, List.head?_cons]
  · intro i line hline
    rw [hlines, List.getElem?_cons_succ] at hline
    refine ⟨line.take h.indentation, line.drop h.indentation,
      (List.take_append_drop h.indentation line).symm, List.length_take, ?_⟩
    rw [hdedented, List.getElem?_cons_succ, List.getElem?_map, hline, Option.map_some]

/-- Lines that are empty, too short, and longer than the indentation, with characters of several
bytes. -/
theorem dedented_lines_short :
    let h : Highlight := ⟨[], "f(é,\n\n é\n  éé)".toList, [], 2, true⟩
    let spaced : Highlight := { h with inside := "f(\n  é\n   )".toList }
    h.dedented = "f(é,\n\n\néé)".toList ∧ h.dedentedByOffsets? = some h.dedented ∧
      h.inside.lines[2]? = some " é".toList ∧ h.dedented.lines[2]? = some [] ∧
      h.dedented.indentFollowing 2 ≠ h.inside ∧
      (∀ line ∈ spaced.inside.lines.tail, spaces 2 <+: line) ∧
      spaced.dedented.indentFollowing 2 = spaced.inside := by
  intro h spaced
  obtain ⟨hoffsets, -, -, hcut, hagain⟩ := dedented_lines h
  have hline : h.inside.lines[2]? = some " é".toList := by decide +kernel
  obtain ⟨cut, kept, hsplit, hlength, hkept⟩ := hcut 1 _ hline
  have hall : cut.length = " é".toList.length := hlength
  have hnone : kept = [] := by
    rw [hsplit, List.length_append] at hall
    exact List.eq_nil_of_length_eq_zero (by omega)
  have hspaces : ∀ line ∈ spaced.inside.lines.tail, spaces 2 <+: line := by decide +kernel
  have hshort : ¬ ∀ line ∈ h.inside.lines.tail, spaces 2 <+: line := by decide +kernel
  exact ⟨by decide +kernel, hoffsets, hline, hnone ▸ hkept, hagain.not.mpr hshort, hspaces,
    (dedented_lines spaced).2.2.2.2.mpr hspaces⟩

end Highlight

end SpanViewer
