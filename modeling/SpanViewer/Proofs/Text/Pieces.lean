import SpanViewer.Proofs.Text.Occurrence
import SpanViewer.Proofs.Text.SameLine

/-!
# Pieces of a text

A pattern that is replaced leaves pieces of the text, with the replacement between them. The empty
pattern leaves every character as a piece of its own, so it is replaced on both sides of each. A
repetition of a pattern leaves nothing but empty pieces, even if the pattern overlaps itself: each
repeat is found where it was written.
-/

namespace SpanViewer.Text

/-- The pieces of a text hold nothing else. -/
theorem mem_of_mem_pieces {text pattern piece : Text} (hpiece : piece ∈ text.pieces pattern)
    {c : Char} (hc : c ∈ piece) : c ∈ text := by
  fun_induction pieces text pattern with
  | case1 text =>
    simp only [List.cons_append, List.mem_cons, List.mem_append, List.mem_map, List.not_mem_nil,
      or_false] at hpiece
    obtain rfl | ⟨d, hd, rfl⟩ | rfl := hpiece
    · contradiction
    · exact List.mem_singleton.mp hc ▸ hd
    · contradiction
  | case2 text hpattern hcut =>
    exact List.mem_singleton.mp hpiece ▸ hc
  | case3 text hpattern before after hcut hshort ih =>
    rw [eq_of_cutFirst? hcut]
    obtain rfl | hpiece := List.mem_cons.mp hpiece
    · simp [hc]
    · simp [ih hpiece]

/-- A replacement brings nothing else into a text. -/
theorem mem_or_mem_of_mem_replace {text pattern replacement : Text} {c : Char}
    (hc : c ∈ text.replace pattern replacement) : c ∈ text ∨ c ∈ replacement := by
  unfold replace at hc
  generalize hpieces : text.pieces pattern = pieces at hc
  have hmem {piece : Text} (hpiece : piece ∈ pieces) (hc : c ∈ piece) : c ∈ text :=
    mem_of_mem_pieces (hpieces ▸ hpiece) hc
  cases pieces with
  | nil => contradiction
  | cons first rest =>
    rw [intercalate_cons] at hc
    obtain hfirst | hrest := List.mem_append.mp hc
    · exact .inl (hmem List.mem_cons_self hfirst)
    · obtain ⟨piece, hpiece, hc⟩ := List.mem_flatMap.mp hrest
      obtain hc | hc := List.mem_append.mp hc
      · exact .inr hc
      · exact .inl (hmem (List.mem_cons_of_mem first hpiece) hc)

/-- The empty pattern is replaced in front of each character and behind the last. -/
theorem replace_nil (text replacement : Text) :
    text.replace [] replacement = text.flatMap (replacement ++ [·]) ++ replacement := by
  rw [replace, pieces, dif_pos rfl, List.cons_append, intercalate_cons, List.flatMap_append,
    List.flatMap_map]
  simp

/-- A text grows if the empty pattern is replaced by a space. -/
theorem length_lt_replace_nil (text : Text) :
    text.dropReturns.length < (text.replace [] [' ']).dropReturns.length := by
  have hle : text.dropReturns.length ≤ (dropReturns (text.flatMap ([' '] ++ [·]))).length := by
    induction text with
    | nil => exact Nat.le_refl 0
    | cons c rest ih =>
      have hsplit : dropReturns (c :: rest) = dropReturns [c] ++ dropReturns rest :=
        dropReturns_append [c] rest
      rw [hsplit, List.flatMap_cons, dropReturns_append, dropReturns_append, List.length_append,
        List.length_append, List.length_append]
      omega
  have hspace : dropReturns [' '] = [' '] := by decide
  rw [replace_nil, dropReturns_append, hspace, List.length_append, List.length_singleton]
  exact Nat.lt_succ_of_le hle

section
variable {text pattern : Text}

/-- A pattern in front of a text is found there, and the rest of the text is searched on its own. -/
theorem pieces_append (hpattern : pattern ≠ []) (text : Text) :
    (pattern ++ text).pieces pattern = [] :: text.pieces pattern := by
  have hfirst : (pattern ++ text).cutFirst? pattern = some ([], text) :=
    cutFirst?_eq_some_iff.mpr ⟨rfl, fun _ _ _ => Nat.zero_le _⟩
  rw [pieces, dif_neg hpattern]
  split
  · next hnone =>
    rw [hfirst] at hnone
    contradiction
  · next before after hcut =>
    rw [hfirst] at hcut
    obtain ⟨rfl, rfl⟩ := Prod.mk.inj (Option.some.inj hcut)
    rfl

/-- A text in which the pattern does not occur is one piece. -/
theorem pieces_of_not_infix (hnone : ¬pattern <:+: text) : text.pieces pattern = [text] := by
  have hpattern : pattern ≠ [] := by
    rintro rfl
    exact hnone List.nil_infix
  rw [pieces, dif_neg hpattern]
  split
  · rfl
  · next before after hcut => exact absurd ⟨before, after, (eq_of_cutFirst? hcut).symm⟩ hnone

/-- The pieces of a repeated pattern are empty, and they are one more than the repeats. -/
theorem pieces_repeat (hpattern : pattern ≠ []) (count : Nat) :
    pieces (List.replicate count pattern).flatten pattern = List.replicate (count + 1) [] := by
  induction count with
  | zero =>
    refine pieces_of_not_infix fun hinfix => ?_
    exact hpattern (List.infix_nil.mp hinfix)
  | succ count ih =>
    rw [List.replicate_succ, List.flatten_cons, pieces_append hpattern, ih, ← List.replicate_succ]

/-- Nothing is replaced in a text in which the pattern does not occur. -/
theorem replace_of_not_infix (hnone : ¬pattern <:+: text) (replacement : Text) :
    text.replace pattern replacement = text := by
  rw [replace, pieces_of_not_infix hnone, List.intercalate_singleton]

/-- Every repeat of a pattern is replaced. -/
theorem replace_repeat (hpattern : pattern ≠ []) (count : Nat) (replacement : Text) :
    replace (List.replicate count pattern).flatten pattern replacement =
      (List.replicate count replacement).flatten := by
  rw [replace, pieces_repeat hpattern, List.replicate_succ, intercalate_cons, List.nil_append,
    List.flatMap_replicate, List.append_nil]

end

end SpanViewer.Text
