import SpanViewer.Proofs.Document.LineEnding
import SpanViewer.Proofs.Highlight.Cut
import SpanViewer.Render.Target

/-!
# Line endings of a highlight

Sources that have the same lines up to a carriage return at the end are cut into parts that differ
in carriage returns alone, though a column behind the end of a line may lie in front of or behind
its carriage return. Every target leaves the carriage returns out and writes both alike.
-/

namespace SpanViewer

namespace Highlight

/-- Highlights that differ in carriage returns alone. In the span, where lines are dedented, they
stand at the ends of lines. -/
structure SameLines (h returned : Highlight) : Prop where
  /-- The texts before the spans are equal without carriage returns. -/
  before : returned.before.dropReturns = h.before.dropReturns
  /-- The spans have the same lines. -/
  inside : List.Forall₂ Text.SameLine h.inside.lines returned.inside.lines
  /-- The texts behind the spans are equal without carriage returns. -/
  after : returned.after.dropReturns = h.after.dropReturns
  /-- The spans start on lines with the same indentation. -/
  indentation : returned.indentation = h.indentation
  /-- Both are mapped or none is. -/
  mapped : returned.mapped = h.mapped

/-- Cuts are the same if the texts around the cut are. -/
theorem sameLines_of_lines {above above' inside inside' below below' : List Text}
    (habove : List.Forall₂ Text.SameLine above above')
    (hinside : List.Forall₂ Text.SameLine inside inside')
    (hbelow : List.Forall₂ Text.SameLine below below') (indentation : Nat) (mapped : Bool) :
    SameLines ⟨.ofLines above, .ofLines inside, .ofLines below, indentation, mapped⟩
      ⟨.ofLines above', .ofLines inside', .ofLines below', indentation, mapped⟩ :=
  ⟨Text.dropReturns_ofLines_eq habove, Text.lines_ofLines_sameLine hinside,
    Text.dropReturns_ofLines_eq hbelow, rfl, rfl⟩

/-- The same lines are cut alike around a span. -/
theorem cutLines_sameLines {above above' following following' below below' : List Text}
    {first first' : Text} (habove : List.Forall₂ Text.SameLine above above')
    (hfirst : Text.SameLine first first')
    (hfollowing : List.Forall₂ Text.SameLine following following')
    (hbelow : List.Forall₂ Text.SameLine below below') (column endColumn : Nat) :
    SameLines (cutLines column endColumn above first following below)
      (cutLines column endColumn above' first' following' below') := by
  obtain ⟨head, rest, hcut⟩ := first.exists_splitAtByte column
  obtain ⟨head', rest', hcut'⟩ := first'.exists_splitAtByte column
  have hparts := hfirst.splitAtByte column
  rw [hcut, hcut'] at hparts
  obtain ⟨hhead, hrest⟩ := hparts
  have hbefore := List.rel_append habove (.cons hhead .nil)
  rcases following.eq_nil_or_concat with rfl | ⟨middle, last, rfl⟩
  · cases hfollowing
    obtain ⟨inside, tail, hspan⟩ := rest.exists_splitAtByte (endColumn - head.byteSize)
    obtain ⟨inside', tail', hspan'⟩ := rest'.exists_splitAtByte (endColumn - head'.byteSize)
    have hspans := hfirst.splitAtByte_behind hcut hcut' endColumn
    rw [hspan, hspan'] at hspans
    rw [cutLines_of_line hcut hspan, cutLines_of_line hcut' hspan', hfirst.indentation_eq,
      ← Text.ofLines_singleton inside, ← Text.ofLines_singleton inside']
    exact sameLines_of_lines hbefore (.cons hspans.1 .nil) (.cons hspans.2 hbelow) _ _
  · rw [List.concat_eq_append] at hfollowing ⊢
    obtain ⟨middle', last', rfl, hmiddle, hlast⟩ := Text.exists_of_forall₂_concat hfollowing
    obtain ⟨inside, tail, hspan⟩ := last.exists_splitAtByte endColumn
    obtain ⟨inside', tail', hspan'⟩ := last'.exists_splitAtByte endColumn
    have hspans := hlast.splitAtByte endColumn
    rw [hspan, hspan'] at hspans
    have hinside := List.rel_append (.cons hrest hmiddle) (.cons hspans.1 .nil)
    rw [cutLines_of_lines hcut hspan, cutLines_of_lines hcut' hspan', hfirst.indentation_eq]
    exact sameLines_of_lines hbefore hinside (.cons hspans.2 hbelow) _ _

/-- The same sources are cut alike around a position. -/
theorem cut_sameLines {source returned : List Text}
    (hsame : List.Forall₂ Text.SameLine source returned) (p : Position) :
    SameLines (cut p source) (cut p returned) := by
  have hlength : returned.length = source.length := hsame.length_eq.symm
  have hnone : SameLines { before := .ofLines source } { before := .ofLines returned } :=
    sameLines_of_lines hsame .nil .nil 0 false
  simp only [cut, hlength]
  generalize min p.line source.length = start
  generalize max start (min p.endLine source.length) = stop
  have habove := List.forall₂_take (start - 1) hsame
  have hspan := List.forall₂_drop (start - 1) (List.forall₂_take stop hsame)
  have hbelow := List.forall₂_drop stop hsame
  cases hmapped : p.isMapped with
  | false => exact hnone
  | true =>
    generalize (source.take stop).drop (start - 1) = span at hspan ⊢
    generalize (returned.take stop).drop (start - 1) = span' at hspan ⊢
    cases hspan with
    | nil => exact hnone
    | cons hfirst hfollowing =>
      exact cutLines_sameLines habove hfirst hfollowing hbelow p.column p.endColumn

/-- Spans of the same highlights are equal without carriage returns. -/
theorem SameLines.dropReturns_inside {h returned : Highlight} (hsame : SameLines h returned) :
    returned.inside.dropReturns = h.inside.dropReturns := by
  rw [← Text.ofLines_lines returned.inside, ← Text.ofLines_lines h.inside]
  exact Text.dropReturns_ofLines_eq hsame.inside

/-- Dedented spans of the same highlights are equal without carriage returns. -/
theorem SameLines.dropReturns_dedented {h returned : Highlight} (hsame : SameLines h returned) :
    returned.dedented.dropReturns = h.dedented.dropReturns := by
  have hinside := hsame.inside
  unfold dedented
  rw [hsame.indentation]
  generalize h.inside.lines = lines at hinside ⊢
  generalize returned.inside.lines = lines' at hinside ⊢
  cases hinside with
  | nil => rfl
  | cons hfirst hfollowing =>
    refine Text.dropReturns_ofLines_eq (.cons hfirst ?_)
    rw [List.forall₂_map_left_iff, List.forall₂_map_right_iff]
    exact hfollowing.imp fun _ _ hline => hline.drop h.indentation

end Highlight

/-- Markup leaves carriage returns out. -/
theorem Html.escape_dropReturns (text : Text) :
    Html.escape text.dropReturns = Html.escape text := by
  unfold Html.escape Text.dropReturns
  induction text with
  | nil => rfl
  | cons c rest ih =>
    by_cases hc : c = '\r'
    · subst hc
      simpa [Html.escapeChar] using ih
    · rw [List.filter_cons_of_pos (by simpa using hc), List.flatMap_cons, List.flatMap_cons, ih]

/-- Every target writes highlights alike that differ in carriage returns alone. -/
theorem Target.highlight_eq_of_sameLines {h returned : Highlight} (hsame : h.SameLines returned)
    (target : Target) : target.highlight returned = target.highlight h := by
  have hescape {text text' : Text} (htext : text'.dropReturns = text.dropReturns) :
      Html.escape text' = Html.escape text := by
    rw [← Html.escape_dropReturns, htext, Html.escape_dropReturns]
  cases target with
  | terminal marker =>
    simp only [Target.highlight, Ansi.highlight, Ansi.span, hsame.mapped, hsame.before,
      hsame.dropReturns_inside, hsame.after]
  | browser marker =>
    simp only [Target.highlight, Html.highlight, hsame.mapped, hescape hsame.before,
      hescape hsame.dropReturns_dedented, hescape hsame.after]
  | plain marker opening closing =>
    simp only [Target.highlight, Plain.highlight, Text.dropReturns_append, hsame.mapped,
      hsame.before, hsame.dropReturns_inside, hsame.after]

end SpanViewer
