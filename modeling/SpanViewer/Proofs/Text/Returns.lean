import SpanViewer.Proofs.Text.Occurrence
import SpanViewer.Proofs.Text.SameLine

/-!
# Carriage returns

A text without carriage returns and the text that has one in front of every line feed have the same
lines, up to the carriage returns at their ends. A pattern that starts with a line feed occurs at
the same places in both, if it gets its carriage returns with the text.
-/

namespace SpanViewer.Text

/-- The text with a carriage return in front of every line feed. -/
def withReturns (text : Text) : Text :=
  text.flatMap fun c => if c = '\n' then ['\r', '\n'] else [c]

/-- The parts of a text get their carriage returns on their own. -/
theorem withReturns_append (front back : Text) :
    (front ++ back).withReturns = front.withReturns ++ back.withReturns :=
  List.flatMap_append

/-- A line feed gets a carriage return. -/
theorem withReturns_lineFeed (rest : Text) :
    withReturns ('\n' :: rest) = '\r' :: '\n' :: rest.withReturns := rfl

/-- No other character gets one. -/
theorem withReturns_cons_of_ne {c : Char} (hc : c ≠ '\n') (rest : Text) :
    withReturns (c :: rest) = c :: rest.withReturns := by
  simp [withReturns, hc]

/-- Only the empty text stays empty. -/
theorem withReturns_eq_nil_iff {text : Text} : text.withReturns = [] ↔ text = [] := by
  cases text with
  | nil => simp [withReturns]
  | cons c rest => by_cases hc : c = '\n' <;> simp [withReturns, hc]

/-- Every line feed stands behind a carriage return. -/
theorem exists_of_withReturns_eq_append_feed {text front back : Text}
    (htext : text.withReturns = front ++ '\n' :: back) : ∃ front', front = front' ++ ['\r'] := by
  induction text generalizing front with
  | nil => simp [withReturns] at htext
  | cons c rest ih =>
    by_cases hc : c = '\n'
    · subst hc
      rw [withReturns_lineFeed] at htext
      rcases front with _ | ⟨d, _ | ⟨e, front⟩⟩
      · simp at htext
      · obtain ⟨rfl, -⟩ := List.cons.inj htext
        exact ⟨[], rfl⟩
      · simp only [List.cons_append, List.cons.injEq] at htext
        obtain ⟨rfl, rfl, hrest⟩ := htext
        obtain ⟨front', rfl⟩ := ih hrest
        exact ⟨'\r' :: '\n' :: front', rfl⟩
    · rw [withReturns_cons_of_ne hc] at htext
      rcases front with _ | ⟨d, front⟩
      · simp [hc] at htext
      · obtain ⟨rfl, hrest⟩ := List.cons.inj htext
        obtain ⟨front', rfl⟩ := ih hrest
        exact ⟨c :: front', rfl⟩

/-- Every carriage return was put in front of a line feed. -/
theorem exists_of_withReturns_eq_append_return {text front back : Text} (hreturn : '\r' ∉ text)
    (htext : text.withReturns = front ++ '\r' :: back) :
    ∃ above below : Text, text = above ++ '\n' :: below ∧ front = above.withReturns ∧
      back = '\n' :: below.withReturns := by
  induction text generalizing front with
  | nil => simp [withReturns] at htext
  | cons c rest ih =>
    have hrest := List.not_mem_of_not_mem_cons hreturn
    by_cases hc : c = '\n'
    · subst hc
      rw [withReturns_lineFeed] at htext
      rcases front with _ | ⟨d, _ | ⟨e, front⟩⟩
      · exact ⟨[], rest, rfl, rfl, (List.cons.inj htext).2.symm⟩
      · simp at htext
      · simp only [List.cons_append, List.cons.injEq] at htext
        obtain ⟨rfl, rfl, htext⟩ := htext
        obtain ⟨above, below, rfl, rfl, rfl⟩ := ih hrest htext
        exact ⟨'\n' :: above, below, rfl, rfl, rfl⟩
    · rw [withReturns_cons_of_ne hc] at htext
      rcases front with _ | ⟨d, front⟩
      · obtain ⟨rfl, -⟩ := List.cons.inj htext
        simp at hreturn
      · rw [List.cons_append, List.cons.injEq] at htext
        obtain ⟨rfl, htext⟩ := htext
        obtain ⟨above, below, rfl, rfl, rfl⟩ := ih hrest htext
        exact ⟨c :: above, below, rfl, by rw [withReturns_cons_of_ne hc], rfl⟩

/-- A text that starts like another one when both have their carriage returns does so without
them. -/
theorem exists_of_withReturns_eq_append {text pattern back : Text} (hreturn : '\r' ∉ text)
    (hpattern : '\r' ∉ pattern) (htext : text.withReturns = pattern.withReturns ++ back) :
    ∃ below : Text, text = pattern ++ below ∧ back = below.withReturns := by
  induction pattern generalizing text with
  | nil => exact ⟨text, rfl, by simpa [withReturns] using htext.symm⟩
  | cons c pattern ih =>
    have hpattern' := List.not_mem_of_not_mem_cons hpattern
    have hc := List.ne_of_not_mem_cons hpattern
    cases text with
    | nil => by_cases hfeed : c = '\n' <;> simp [withReturns, hfeed] at htext
    | cons d rest =>
      have hrest := List.not_mem_of_not_mem_cons hreturn
      have hd := List.ne_of_not_mem_cons hreturn
      have htail : d = c ∧ withReturns rest = withReturns pattern ++ back := by
        by_cases hfeed : c = '\n' <;> by_cases hfeed' : d = '\n'
        · subst hfeed hfeed'
          simpa [withReturns_lineFeed] using htext
        · subst hfeed
          simp [withReturns_lineFeed, withReturns_cons_of_ne hfeed', hd.symm] at htext
        · subst hfeed'
          simp [withReturns_lineFeed, withReturns_cons_of_ne hfeed, hc] at htext
        · simpa [withReturns_cons_of_ne hfeed, withReturns_cons_of_ne hfeed'] using htext
      obtain ⟨rfl, hbelow⟩ := htail
      obtain ⟨below, rfl, rfl⟩ := ih hrest hpattern' hbelow
      exact ⟨below, rfl, rfl⟩

/-- A pattern that starts with a line feed occurs where it did before the carriage returns. -/
theorem exists_of_withReturns_eq {text pattern front back : Text} (hreturn : '\r' ∉ text)
    (hpattern : '\r' ∉ pattern)
    (htext : text.withReturns = front ++ withReturns ('\n' :: pattern) ++ back) :
    ∃ above below : Text, text = above ++ '\n' :: pattern ++ below ∧ front = above.withReturns ∧
      back = below.withReturns := by
  rw [withReturns_lineFeed, List.append_assoc, List.cons_append] at htext
  obtain ⟨above, rest, rfl, rfl, hback⟩ := exists_of_withReturns_eq_append_return hreturn htext
  have hrest : '\r' ∉ rest := fun hmem => hreturn (by simp [hmem])
  have hfront : rest.withReturns = pattern.withReturns ++ back := (List.cons.inj hback).2.symm
  obtain ⟨below, rfl, rfl⟩ := exists_of_withReturns_eq_append hrest hpattern hfront
  exact ⟨above, below, by simp, rfl, rfl⟩

/-- A text is cut at the same place with carriage returns as without them. -/
theorem cutFirst?_withReturns {text pattern : Text} (hreturn : '\r' ∉ text)
    (hpattern : '\r' ∉ pattern) :
    text.withReturns.cutFirst? (withReturns ('\n' :: pattern)) =
      (text.cutFirst? ('\n' :: pattern)).map (Prod.map withReturns withReturns) := by
  cases hcut : text.cutFirst? ('\n' :: pattern) with
  | none =>
    rw [Option.map_none, cutFirst?_eq_none_iff]
    intro front back htext
    obtain ⟨above, below, habove, -, -⟩ := exists_of_withReturns_eq hreturn hpattern htext
    exact ne_append_of_cutFirst? hcut above below habove
  | some parts =>
    obtain ⟨before, after⟩ := parts
    have htext := eq_of_cutFirst? hcut
    rw [Option.map_some, Prod.map_apply, cutFirst?_eq_some_iff]
    refine ⟨by rw [htext, withReturns_append, withReturns_append], fun front back hother => ?_⟩
    obtain ⟨above, below, habove, rfl, -⟩ := exists_of_withReturns_eq hreturn hpattern hother
    have hle := length_le_of_cutFirst? hcut habove
    rw [List.append_assoc] at htext habove
    have hbefore : before <+: above :=
      List.prefix_of_prefix_length_le ⟨_, htext.symm⟩ ⟨_, habove.symm⟩ hle
    obtain ⟨between, rfl⟩ := hbefore
    rw [withReturns_append, List.length_append]
    omega

/-- The lines of a text are the same with carriage returns as without them. -/
theorem lines_withReturns {text : Text} (hreturn : '\r' ∉ text) :
    List.Forall₂ SameLine text.lines text.withReturns.lines := by
  induction text with
  | nil => exact .cons ⟨by simp, by simp, Or.inl rfl⟩ .nil
  | cons c rest ih =>
    have hrest := ih (List.not_mem_of_not_mem_cons hreturn)
    have hc := List.ne_of_not_mem_cons hreturn
    unfold lines at hrest ⊢
    by_cases hfeed : c = '\n'
    · subst hfeed
      rw [withReturns_lineFeed]
      simp only [List.splitOn_cons_eq_if_modifyHead]
      exact .cons ⟨by simp, by simp, Or.inr rfl⟩ hrest
    · rw [withReturns_cons_of_ne hfeed]
      obtain ⟨first, others, hlines⟩ :=
        List.exists_cons_of_ne_nil (List.splitOn_ne_nil '\n' rest)
      obtain ⟨first', others', hlines'⟩ :=
        List.exists_cons_of_ne_nil (List.splitOn_ne_nil '\n' (withReturns rest))
      rw [hlines, hlines', List.forall₂_cons] at hrest
      obtain ⟨hfirst, hothers⟩ := hrest
      simp only [List.splitOn_cons_eq_if_modifyHead, beq_iff_eq, hfeed, if_false, hlines, hlines',
        List.modifyHead_cons]
      refine .cons ⟨?_, ?_, ?_⟩ hothers
      · simpa [eq_comm, hfeed] using hfirst.no_feed
      · simpa [hc] using hfirst.no_return
      · simpa using hfirst.eq_or

end SpanViewer.Text
