import SpanViewer.Text.Basic

/-!
# Occurrences of a pattern

A pattern occurs in a text if the text can be written as what is in front of it, the pattern and
what is behind it. A cut at the first occurrence is the way to write the text with the shortest
front, a cut at the last occurrence the one with the longest.
-/

namespace SpanViewer.Text

/-- A cut at the first occurrence has the shortest front. -/
theorem length_le_of_cutFirst? {text pattern before after front back : Text}
    (hcut : text.cutFirst? pattern = some (before, after))
    (htext : text = front ++ pattern ++ back) :
    before.length ≤ front.length := by
  induction text generalizing before front with
  | nil =>
    have hlength := congrArg List.length (eq_of_cutFirst? hcut)
    simp only [List.length_nil, List.length_append] at hlength
    omega
  | cons c rest ih =>
    rw [cutFirst?] at hcut
    split at hcut
    · obtain ⟨rfl, rfl⟩ := Prod.mk.inj (Option.some.inj hcut)
      simp
    · next hfront =>
      obtain ⟨⟨before', after'⟩, hrest, heq⟩ := Option.map_eq_some_iff.mp hcut
      obtain ⟨rfl, rfl⟩ := Prod.mk.inj heq
      cases front with
      | nil =>
        rw [List.nil_append] at htext
        rw [isPrefixOf?_eq_some_iff.mpr htext] at hfront
        contradiction
      | cons d front =>
        obtain ⟨rfl, htail⟩ := List.cons.inj htext
        have hle := ih hrest htail
        simpa using hle

/-- A text without a first occurrence has none. -/
theorem ne_append_of_cutFirst? {text pattern : Text} (hcut : text.cutFirst? pattern = none)
    (front back : Text) : text ≠ front ++ pattern ++ back := by
  induction text generalizing front with
  | nil =>
    intro htext
    have hpattern : pattern = [] := by simp_all
    simp [cutFirst?, hpattern] at hcut
  | cons c rest ih =>
    intro htext
    rw [cutFirst?] at hcut
    split at hcut
    · contradiction
    · next hfront =>
      cases front with
      | nil =>
        rw [List.nil_append] at htext
        rw [isPrefixOf?_eq_some_iff.mpr htext] at hfront
        contradiction
      | cons d front => exact ih (by simpa using hcut) front (List.cons.inj htext).2

/-- There is no cut exactly if the pattern does not occur. -/
theorem cutFirst?_eq_none_iff {text pattern : Text} :
    text.cutFirst? pattern = none ↔ ∀ front back, text ≠ front ++ pattern ++ back := by
  constructor
  · exact ne_append_of_cutFirst?
  · intro hnone
    cases hcut : text.cutFirst? pattern with
    | none => rfl
    | some parts => exact absurd (eq_of_cutFirst? hcut) (hnone parts.1 parts.2)

/-- The cut at the first occurrence is the way to write the text with the shortest front. -/
theorem cutFirst?_eq_some_iff {text pattern before after : Text} :
    text.cutFirst? pattern = some (before, after) ↔
      text = before ++ pattern ++ after ∧
        ∀ front back, text = front ++ pattern ++ back → before.length ≤ front.length := by
  constructor
  · intro hcut
    exact ⟨eq_of_cutFirst? hcut, fun _ _ => length_le_of_cutFirst? hcut⟩
  · rintro ⟨htext, hshortest⟩
    cases hcut : text.cutFirst? pattern with
    | none => exact absurd htext (ne_append_of_cutFirst? hcut before after)
    | some parts =>
      obtain ⟨before', after'⟩ := parts
      have htext' := eq_of_cutFirst? hcut
      have hlength : before'.length = before.length :=
        Nat.le_antisymm (length_le_of_cutFirst? hcut htext) (hshortest _ _ htext')
      rw [htext', List.append_assoc, List.append_assoc] at htext
      obtain ⟨rfl, hbehind⟩ := List.append_inj htext hlength
      rw [List.append_cancel_left hbehind]

/-- A text is cut at a character that does not stand in front of the cut. -/
theorem cutFirst?_of_not_mem {c : Char} {before : Text} (hbefore : c ∉ before) (after : Text) :
    (before ++ c :: after).cutFirst? [c] = some (before, after) := by
  rw [cutFirst?_eq_some_iff]
  refine ⟨by simp, fun front back htext => ?_⟩
  apply Nat.le_of_not_lt
  intro hshort
  have hinside : front ++ [c] <+: before := by
    refine List.prefix_of_prefix_length_le ⟨back, htext.symm⟩ ⟨c :: after, rfl⟩ ?_
    simp only [List.length_append, List.length_singleton]
    omega
  exact hbefore (hinside.subset (by simp))

/-- There is a cut exactly if the pattern occurs. -/
theorem isSome_cutFirst?_iff {text pattern : Text} :
    (text.cutFirst? pattern).isSome = true ↔ pattern <:+: text := by
  constructor
  · intro hsome
    obtain ⟨parts, hcut⟩ := Option.isSome_iff_exists.mp hsome
    exact ⟨parts.1, parts.2, (eq_of_cutFirst? hcut).symm⟩
  · rintro ⟨front, back, htext⟩
    cases hcut : text.cutFirst? pattern with
    | none => exact absurd htext.symm (ne_append_of_cutFirst? hcut front back)
    | some parts => rfl

/-- The first occurrence of a pattern is the only one in what it ends. -/
theorem eq_nil_of_cutFirst? {text pattern before after front back : Text}
    (hcut : text.cutFirst? pattern = some (before, after))
    (hbefore : before ++ pattern = front ++ pattern ++ back) : back = [] := by
  have htext : text = front ++ pattern ++ (back ++ after) := by
    rw [eq_of_cutFirst? hcut, hbefore, List.append_assoc]
  have hle := length_le_of_cutFirst? hcut htext
  have hlength := congrArg List.length hbefore
  simp only [List.length_append] at hlength
  exact List.eq_nil_of_length_eq_zero (by omega)

/-- A pattern occurs behind a text but not earlier exactly if the text is cut there. -/
theorem only_at_end_iff {text pattern : Text} :
    (∀ front back, text ++ pattern = front ++ pattern ++ back → back = []) ↔
      (text ++ pattern).cutFirst? pattern = some (text, []) := by
  constructor
  · intro honly
    rw [cutFirst?_eq_some_iff, List.append_nil]
    refine ⟨rfl, fun front back htext => ?_⟩
    obtain rfl := honly front back htext
    have hlength := congrArg List.length htext
    simp only [List.length_append, List.length_nil] at hlength
    omega
  · exact fun hcut front back => eq_nil_of_cutFirst? hcut

/-- A pattern that occurs behind a text but not earlier is where the text is cut. -/
theorem cutFirst?_append {text pattern : Text}
    (honly : ∀ front back, text ++ pattern = front ++ pattern ++ back → back = []) (after : Text) :
    (text ++ pattern ++ after).cutFirst? pattern = some (text, after) := by
  rw [cutFirst?_eq_some_iff]
  refine ⟨rfl, fun front back htext => ?_⟩
  apply Nat.le_of_not_lt
  intro hshort
  have hinside : front ++ pattern <+: text ++ pattern := by
    refine List.prefix_of_prefix_length_le ⟨back, htext.symm⟩ ⟨after, rfl⟩ ?_
    simp only [List.length_append]
    omega
  obtain ⟨back', hback⟩ := hinside
  obtain rfl := honly front back' hback.symm
  have hlength := congrArg List.length hback
  simp only [List.length_append, List.length_nil] at hlength
  omega

/-- A cut at the last occurrence loses nothing. -/
theorem eq_of_cutLast? {text pattern before after : Text}
    (hcut : text.cutLast? pattern = some (before, after)) : text = before ++ pattern ++ after := by
  induction text generalizing before with
  | nil =>
    simp only [cutLast?, List.isEmpty_iff, Option.ite_none_right_eq_some, Option.some.injEq,
      Prod.mk.injEq] at hcut
    obtain ⟨rfl, rfl, rfl⟩ := hcut
    rfl
  | cons c rest ih =>
    rw [cutLast?] at hcut
    split at hcut
    · next before' after' hrest =>
      obtain ⟨rfl, rfl⟩ := Prod.mk.inj (Option.some.inj hcut)
      simp [ih hrest]
    · obtain ⟨after', hfront, heq⟩ := Option.map_eq_some_iff.mp hcut
      obtain ⟨rfl, rfl⟩ := Prod.mk.inj heq
      simpa using isPrefixOf?_eq_some_iff.mp hfront

/-- A text without a last occurrence has none. -/
theorem ne_append_of_cutLast? {text pattern : Text} (hcut : text.cutLast? pattern = none)
    (front back : Text) : text ≠ front ++ pattern ++ back := by
  induction text generalizing front with
  | nil =>
    intro htext
    have hpattern : pattern = [] := by simp_all
    simp [cutLast?, hpattern] at hcut
  | cons c rest ih =>
    intro htext
    rw [cutLast?] at hcut
    split at hcut
    · contradiction
    · next hrest =>
      cases front with
      | nil =>
        rw [List.nil_append] at htext
        rw [isPrefixOf?_eq_some_iff.mpr htext] at hcut
        contradiction
      | cons d front => exact ih hrest front (List.cons.inj htext).2

/-- A cut at the last occurrence has the longest front. -/
theorem length_le_of_cutLast? {text pattern before after front back : Text}
    (hcut : text.cutLast? pattern = some (before, after))
    (htext : text = front ++ pattern ++ back) :
    front.length ≤ before.length := by
  induction text generalizing before front with
  | nil =>
    have hlength := congrArg List.length htext
    simp only [List.length_nil, List.length_append] at hlength
    omega
  | cons c rest ih =>
    rw [cutLast?] at hcut
    cases front with
    | nil => simp
    | cons d front =>
      obtain ⟨rfl, htail⟩ := List.cons.inj htext
      split at hcut
      · next before' after' hrest =>
        obtain ⟨rfl, rfl⟩ := Prod.mk.inj (Option.some.inj hcut)
        simpa using ih hrest htail
      · next hrest => exact absurd htail (ne_append_of_cutLast? hrest front back)

/-- There is no last occurrence exactly if the pattern does not occur. -/
theorem cutLast?_eq_none_iff {text pattern : Text} :
    text.cutLast? pattern = none ↔ ∀ front back, text ≠ front ++ pattern ++ back := by
  constructor
  · exact ne_append_of_cutLast?
  · intro hnone
    cases hcut : text.cutLast? pattern with
    | none => rfl
    | some parts => exact absurd (eq_of_cutLast? hcut) (hnone parts.1 parts.2)

/-- The cut at the last occurrence is the way to write the text with the longest front. -/
theorem cutLast?_eq_some_iff {text pattern before after : Text} :
    text.cutLast? pattern = some (before, after) ↔
      text = before ++ pattern ++ after ∧
        ∀ front back, text = front ++ pattern ++ back → front.length ≤ before.length := by
  constructor
  · intro hcut
    exact ⟨eq_of_cutLast? hcut, fun _ _ => length_le_of_cutLast? hcut⟩
  · rintro ⟨htext, hlongest⟩
    cases hcut : text.cutLast? pattern with
    | none => exact absurd htext (ne_append_of_cutLast? hcut before after)
    | some parts =>
      obtain ⟨before', after'⟩ := parts
      have htext' := eq_of_cutLast? hcut
      have hlength : before'.length = before.length :=
        Nat.le_antisymm (hlongest _ _ htext') (length_le_of_cutLast? hcut htext)
      rw [htext', List.append_assoc, List.append_assoc] at htext
      obtain ⟨rfl, hbehind⟩ := List.append_inj htext hlength
      rw [List.append_cancel_left hbehind]

/-- A pattern at the end of a text is its last occurrence. -/
theorem cutLast?_append_self (text pattern : Text) :
    (text ++ pattern).cutLast? pattern = some (text, []) := by
  rw [cutLast?_eq_some_iff]
  refine ⟨by simp, fun front back htext => ?_⟩
  have hlength := congrArg List.length htext
  simp only [List.length_append] at hlength
  omega

/-- Around a character that the pattern does not hold, an occurrence lies wholly on one side. -/
theorem occurrence_cases {c : Char} {left right pattern front back : Text} (hc : c ∉ pattern)
    (htext : left ++ c :: right = front ++ pattern ++ back) :
    (∃ back', back = back' ++ c :: right ∧ left = front ++ pattern ++ back') ∨
      ∃ front', front = left ++ c :: front' ∧ right = front' ++ pattern ++ back := by
  rcases List.append_eq_append_iff.mp htext with ⟨middle, hfront, hback⟩ | ⟨back', hleft, hback⟩
  · cases middle with
    | nil => exact Or.inl ⟨[], by simpa using hback.symm, by simpa using hfront.symm⟩
    | cons d middle =>
      obtain ⟨rfl, hright⟩ := List.cons.inj hback
      right
      rcases List.append_eq_append_iff.mp hfront with
        ⟨rest, hleft, hpattern⟩ | ⟨rest, hfront, hpattern⟩
      · exact absurd (by simp [hpattern]) hc
      · cases rest with
        | nil =>
          have hmem : c ∈ pattern := by
            rw [← List.nil_append pattern, ← hpattern]
            exact List.mem_cons_self
          exact absurd hmem hc
        | cons d rest =>
          obtain ⟨rfl, hmiddle⟩ := List.cons.inj hpattern
          exact ⟨rest, hfront, by simp [hright, hmiddle]⟩
  · exact Or.inl ⟨back', hback, hleft⟩

/-- A character that the pattern does not hold changes nothing at the end of a text. -/
theorem cutLast?_append_singleton {c : Char} {pattern : Text} (hpattern : pattern ≠ [])
    (hc : c ∉ pattern) (text : Text) :
    (text ++ [c]).cutLast? pattern =
      (text.cutLast? pattern).map fun (before, after) => (before, after ++ [c]) := by
  cases hcut : text.cutLast? pattern with
  | none =>
    rw [Option.map_none, cutLast?_eq_none_iff]
    intro front back htext
    rcases occurrence_cases hc htext with ⟨back', -, hleft⟩ | ⟨front', -, hright⟩
    · exact ne_append_of_cutLast? hcut front back' hleft
    · simp_all
  | some parts =>
    rw [Option.map_some, cutLast?_eq_some_iff]
    refine ⟨by rw [eq_of_cutLast? hcut, List.append_assoc], fun front back htext => ?_⟩
    rcases occurrence_cases hc htext with ⟨back', -, hleft⟩ | ⟨front', -, hright⟩
    · exact length_le_of_cutLast? hcut hleft
    · simp_all

end SpanViewer.Text
