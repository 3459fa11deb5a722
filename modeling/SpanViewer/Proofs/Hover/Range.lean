import SpanViewer.Proofs.Hover.Redirect

/-!
# Hovers that miss the document

Pointing at a word fails exactly if there is no such line or no such word on the line, whatever the
policy: a redirection stays on the line and never leaves it. Otherwise a word of the line is shown,
and pointing at that word itself shows the same.
-/

namespace SpanViewer

namespace HoverPolicy

variable {policy : HoverPolicy} {words : List Word} {index : Nat}

/-- A place means itself, or it is the first one of several and means the second. -/
theorem resolve_cases (policy : HoverPolicy) (words : List Word) (index : Nat) :
    policy.resolve words index = index ∨
      (index = 0 ∧ 1 < words.length ∧ policy.resolve words index = 1) := by
  by_cases hindex : index = 0
  · subst hindex
    rcases words with _ | ⟨first, _ | ⟨next, rest⟩⟩
    · exact .inl rfl
    · exact .inl rfl
    · have hlength : 1 < (first :: next :: rest).length := by simp
      by_cases hfirst :
          (policy.redirectIndentation && first.isIndentation policy.indentMarker) = true
      · exact .inr ⟨rfl, hlength, if_pos hfirst⟩
      · exact .inl (if_neg hfirst)
  · exact .inl (resolve_of_ne_zero hindex)

/-- A place means one on the line exactly if it is one. -/
theorem resolve_lt_length_iff :
    policy.resolve words index < words.length ↔ index < words.length := by
  rcases policy.resolve_cases words index with hself | ⟨rfl, hlength, hnext⟩
  · rw [hself]
  · rw [hnext]
    omega

/-- The place that is meant means itself. -/
theorem resolve_resolve :
    policy.resolve words (policy.resolve words index) = policy.resolve words index := by
  rcases policy.resolve_cases words index with hself | ⟨-, -, hnext⟩
  · rw [hself, hself]
  · rw [hnext]
    exact resolve_of_ne_zero Nat.one_ne_zero

end HoverPolicy

namespace Document

/-- Nothing stands at a place of the derived form, and the fault that says so. -/
inductive Misses (d : Document) (line index : Nat) : Fault → Prop
  /-- There is no such line. -/
  | line (hline : d.derived.length ≤ line) :
      Misses d line index (.lineOutOfRange line d.derived.length)
  /-- The line has no such word. -/
  | word {words : List Word} (hline : d.derived[line]? = some words)
      (hindex : words.length ≤ index) :
      Misses d line index (.wordOutOfRange line index words.length)

/-- What is shown is a word of a line, at its place there, with the source cut around its span. -/
structure Shows (d : Document) (line : Nat) (h : Hover) : Prop where
  /-- It is said to be of this line. -/
  line_eq : h.line = line
  /-- It is the word at the place that is reported. -/
  word_at : ∃ words, d.derived[line]? = some words ∧ words[h.index]? = some h.word
  /-- The span is that of the word. -/
  highlight_eq : h.highlight = .cut h.word.position d.source

variable {d : Document} {policy : HoverPolicy} {line index : Nat}

/-- Pointing at a line that is not there. -/
theorem hover_of_length_le (hline : d.derived.length ≤ line) (policy : HoverPolicy) (index : Nat) :
    d.hover policy line index = .error (.lineOutOfRange line d.derived.length) := by
  rw [hover, List.getElem?_eq_none hline]

/-- Pointing at a word that is not there. -/
theorem hover_of_words_length_le {words : List Word} (hline : d.derived[line]? = some words)
    (hindex : words.length ≤ index) (policy : HoverPolicy) :
    d.hover policy line index = .error (.wordOutOfRange line index words.length) := by
  have hresolved : words.length ≤ policy.resolve words index :=
    Nat.le_of_not_lt (HoverPolicy.resolve_lt_length_iff.not.mpr (Nat.not_lt_of_le hindex))
  rw [hover, hline]
  simp only [List.getElem?_eq_none hresolved]

/-- Pointing at a word that is there shows the word that is meant. -/
theorem hover_of_lt_length {words : List Word} (hline : d.derived[line]? = some words)
    (hindex : index < words.length) (policy : HoverPolicy) :
    ∃ word, words[policy.resolve words index]? = some word ∧
      d.hover policy line index =
        .ok ⟨line, policy.resolve words index, word, .cut word.position d.source⟩ := by
  have hresolved : policy.resolve words index < words.length :=
    HoverPolicy.resolve_lt_length_iff.mpr hindex
  have hword := List.getElem?_eq_getElem hresolved
  refine ⟨_, hword, ?_⟩
  rw [hover, hline]
  simp only [hword]

/-- A place is missed, or a word stands there. -/
theorem misses_or_lt_length (d : Document) (line index : Nat) :
    (∃ fault, d.Misses line index fault) ∨
      ∃ words, d.derived[line]? = some words ∧ index < words.length := by
  cases hline : d.derived[line]? with
  | none => exact .inl ⟨_, .line (List.getElem?_eq_none_iff.mp hline)⟩
  | some words =>
    rcases Nat.lt_or_ge index words.length with hindex | hindex
    · exact .inr ⟨words, rfl, hindex⟩
    · exact .inl ⟨_, .word hline hindex⟩

/-- A missed place is reported. -/
theorem Misses.hover_eq {fault : Fault} (hmisses : d.Misses line index fault)
    (policy : HoverPolicy) : d.hover policy line index = .error fault := by
  cases hmisses with
  | line hline => exact hover_of_length_le hline policy index
  | word hline hindex => exact hover_of_words_length_le hline hindex policy

/-- Pointing at a place fails exactly if it is missed. -/
theorem hover_eq_error_iff {fault : Fault} :
    d.hover policy line index = .error fault ↔ d.Misses line index fault := by
  refine ⟨fun hfault => ?_, fun hmisses => hmisses.hover_eq policy⟩
  rcases d.misses_or_lt_length line index with ⟨other, hmisses⟩ | ⟨words, hline, hindex⟩
  · obtain rfl := Except.error.inj (hfault.symm.trans (hmisses.hover_eq policy))
    exact hmisses
  · obtain ⟨word, -, hok⟩ := hover_of_lt_length hline hindex policy
    rw [hok] at hfault
    contradiction

/-- Pointing at a place shows something exactly if a word stands there. -/
theorem exists_hover_eq_ok_iff :
    (∃ h, d.hover policy line index = .ok h) ↔
      ∃ words, d.derived[line]? = some words ∧ index < words.length := by
  constructor
  · rintro ⟨h, hok⟩
    rcases d.misses_or_lt_length line index with ⟨fault, hmisses⟩ | hword
    · rw [hmisses.hover_eq policy] at hok
      contradiction
    · exact hword
  · rintro ⟨words, hline, hindex⟩
    obtain ⟨word, -, hok⟩ := hover_of_lt_length hline hindex policy
    exact ⟨_, hok⟩

/-- What is shown is the word at its place, and pointing at that place shows it too. -/
theorem shows_of_hover {h : Hover} (hok : d.hover policy line index = .ok h) :
    d.Shows line h ∧ d.hover policy line h.index = .ok h := by
  obtain ⟨words, hline, hindex⟩ := exists_hover_eq_ok_iff.mp ⟨h, hok⟩
  obtain ⟨word, hword, hshown⟩ := hover_of_lt_length hline hindex policy
  obtain rfl := Except.ok.inj (hok.symm.trans hshown)
  have hresolved : policy.resolve words index < words.length :=
    HoverPolicy.resolve_lt_length_iff.mpr hindex
  obtain ⟨word', hword', hagain⟩ := hover_of_lt_length hline hresolved policy
  rw [HoverPolicy.resolve_resolve, hword] at hword'
  obtain rfl := Option.some.inj hword'
  rw [HoverPolicy.resolve_resolve] at hagain
  exact ⟨⟨rfl, ⟨words, hline, hword⟩, rfl⟩, hagain⟩

/-- **Pointing at a word fails exactly if it is out of range.** The fault says that there is no such
line, or else that the line has no such word, and names the place that was asked for. No other
policy makes a difference to that. What is shown otherwise is the word at the place that is
reported, and pointing at that place shows the same. -/
theorem hover_by_range (d : Document) (policy : HoverPolicy) (line index : Nat) :
    (∀ fault, d.hover policy line index = .error fault ↔ d.Misses line index fault) ∧
      ((∃ h, d.hover policy line index = .ok h) ↔
        ∃ words, d.derived[line]? = some words ∧ index < words.length) ∧
      (∀ other fault, d.hover policy line index = .error fault ↔
        d.hover other line index = .error fault) ∧
      ∀ h, d.hover policy line index = .ok h →
        d.Shows line h ∧ d.hover policy line h.index = .ok h :=
  ⟨fun _ => hover_eq_error_iff, exists_hover_eq_ok_iff,
    fun _ _ => hover_eq_error_iff.trans hover_eq_error_iff.symm, fun _ => shows_of_hover⟩

/-- A line without words, an indentation alone on its line, and one that is redirected. -/
theorem hover_by_range_redirected :
    let indent : Word := .unmapped "..".toList
    let next : Word := ⟨['x'], ⟨1, 0, 1, 1⟩⟩
    let d : Document := ⟨["x=1".toList], [[], [indent], [indent, next]]⟩
    let policy : HoverPolicy := ⟨true, ['.']⟩
    let shown : Hover := ⟨2, 1, next, .cut ⟨1, 0, 1, 1⟩ d.source⟩
    d.hover policy 0 0 = .error (.wordOutOfRange 0 0 0) ∧
      d.hover policy 1 1 = .error (.wordOutOfRange 1 1 1) ∧
      d.hover policy 3 0 = .error (.lineOutOfRange 3 3) ∧
      (∃ h, d.hover policy 1 0 = .ok h) ∧
      d.hover policy 2 0 = .ok shown ∧ d.Shows 2 shown ∧ d.hover policy 2 1 = .ok shown := by
  intro indent next d policy shown
  have hnone : d.derived[0]? = some [] := rfl
  have hone : d.derived[1]? = some [indent] := rfl
  have hempty : d.Misses 0 0 (.wordOutOfRange 0 0 0) := .word hnone (Nat.le_refl 0)
  have hsingle : d.Misses 1 1 (.wordOutOfRange 1 1 1) := .word hone (Nat.le_refl 1)
  have hline : d.Misses 3 0 (.lineOutOfRange 3 3) := .line (Nat.le_refl 3)
  have hshown : d.hover policy 2 0 = .ok shown := by decide +kernel
  obtain ⟨hplace, hagain⟩ := (hover_by_range d policy 2 0).2.2.2 shown hshown
  exact ⟨((hover_by_range d policy 0 0).1 _).mpr hempty,
    ((hover_by_range d policy 1 1).1 _).mpr hsingle, ((hover_by_range d policy 3 0).1 _).mpr hline,
    (hover_by_range d policy 1 0).2.1.mpr ⟨[indent], rfl, Nat.one_pos⟩, hshown, hplace, hagain⟩

end Document

end SpanViewer
