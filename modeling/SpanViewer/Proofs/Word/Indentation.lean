import SpanViewer.Word.Basic

/-!
# Indentation words

When a pattern is taken off the front of a text as often as it stands there, nothing is left exactly
of the texts that repeat the pattern. The words that are told to be indentations are therefore the
repetitions of the indent marker, and they start as the marker does.
-/

namespace SpanViewer

namespace Text

variable {pattern : Text}

/-- A pattern in front of a text is taken off. -/
theorem dropRepeats_append (hpattern : pattern ≠ []) (text : Text) :
    (pattern ++ text).dropRepeats pattern = text.dropRepeats pattern := by
  have hfront : pattern.isPrefixOf? (pattern ++ text) = some text :=
    isPrefixOf?_eq_some_iff.mpr rfl
  rw [dropRepeats, dif_neg hpattern]
  split
  · next hnone =>
    rw [hfront] at hnone
    contradiction
  · next rest hrest =>
    obtain rfl : text = rest := Option.some.inj (hfront.symm.trans hrest)
    rfl

/-- Nothing else is taken off. -/
theorem exists_eq_append_dropRepeats (text pattern : Text) :
    ∃ count, text = (List.replicate count pattern).flatten ++ text.dropRepeats pattern := by
  fun_induction dropRepeats text pattern with
  | case1 text => exact ⟨0, rfl⟩
  | case2 text hpattern hfront => exact ⟨0, rfl⟩
  | case3 text hpattern rest hfront hshort ih =>
    obtain ⟨count, hrest⟩ := ih
    refine ⟨count + 1, ?_⟩
    rw [List.replicate_succ, List.flatten_cons, List.append_assoc, ← hrest]
    exact isPrefixOf?_eq_some_iff.mp hfront

/-- Nothing is left of a text exactly if it repeats the pattern. -/
theorem dropRepeats_eq_nil_iff (hpattern : pattern ≠ []) {text : Text} :
    text.dropRepeats pattern = [] ↔ ∃ count, text = (List.replicate count pattern).flatten := by
  constructor
  · intro hnone
    obtain ⟨count, htext⟩ := exists_eq_append_dropRepeats text pattern
    rw [hnone, List.append_nil] at htext
    exact ⟨count, htext⟩
  · rintro ⟨count, rfl⟩
    induction count with
    | zero =>
      obtain ⟨count, hempty⟩ := exists_eq_append_dropRepeats [] pattern
      exact (List.append_eq_nil_iff.mp hempty.symm).2
    | succ count ih =>
      rw [List.replicate_succ, List.flatten_cons, dropRepeats_append hpattern]
      exact ih

end Text

namespace Word

variable {marker : Text} {w : Word}

/-- An indentation is a text that repeats the marker, once or more. -/
theorem isIndentation_iff :
    w.isIndentation marker = true ↔
      marker ≠ [] ∧ ∃ count, 0 < count ∧ w.text = (List.replicate count marker).flatten := by
  simp only [isIndentation, Bool.and_eq_true, Bool.not_eq_true', List.isEmpty_eq_false_iff,
    List.isEmpty_iff]
  constructor
  · rintro ⟨⟨hmarker, htext⟩, hdrop⟩
    obtain ⟨count, hcount⟩ := (Text.dropRepeats_eq_nil_iff hmarker).mp hdrop
    refine ⟨hmarker, count, Nat.pos_of_ne_zero ?_, hcount⟩
    rintro rfl
    exact htext hcount
  · rintro ⟨hmarker, count, hpositive, hcount⟩
    refine ⟨⟨hmarker, ?_⟩, (Text.dropRepeats_eq_nil_iff hmarker).mpr ⟨count, hcount⟩⟩
    obtain ⟨count, rfl⟩ := Nat.exists_eq_add_of_lt hpositive
    simp [hcount, List.replicate_succ, hmarker]

/-- The word of an indentation is told to be one. -/
theorem isIndentation_indentation (hmarker : marker ≠ []) {width : Nat} (hwidth : 0 < width) :
    (indentation marker width).isIndentation marker = true :=
  isIndentation_iff.mpr ⟨hmarker, width, hwidth, rfl⟩

/-- The marker stands in front of an indentation. -/
theorem prefix_of_isIndentation (hindentation : w.isIndentation marker = true) :
    marker <+: w.text := by
  obtain ⟨-, count, hpositive, htext⟩ := isIndentation_iff.mp hindentation
  obtain ⟨count, rfl⟩ := Nat.exists_eq_add_of_lt hpositive
  rw [htext, List.replicate_succ, List.flatten_cons]
  exact List.prefix_append _ _

/-- An indentation starts as the marker does. -/
theorem head?_of_isIndentation (hindentation : w.isIndentation marker = true) :
    w.text.head? = marker.head? := by
  obtain ⟨hmarker, -⟩ := isIndentation_iff.mp hindentation
  obtain ⟨c, front, rfl⟩ := List.exists_cons_of_ne_nil hmarker
  obtain ⟨rest, htext⟩ := prefix_of_isIndentation hindentation
  rw [← htext, List.cons_append, List.head?_cons, List.head?_cons]

end Word

end SpanViewer
