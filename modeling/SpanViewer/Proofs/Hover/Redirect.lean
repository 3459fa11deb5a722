import SpanViewer.Hover
import SpanViewer.Proofs.Document.Tokens
import SpanViewer.Proofs.Word.Indentation

/-!
# Pointing at an indentation

A policy that redirects takes pointing at the first word of a line for pointing at the second one
if the first word looks like an indentation. With a marker that starts in a blank no token does, so
this happens exactly on lines that are indented and have tokens.
-/

namespace SpanViewer

namespace HoverPolicy

variable {policy : HoverPolicy} {words : List Word}

/-- Only pointing at the first word is ever taken for pointing at another one. -/
theorem resolve_of_ne_zero {index : Nat} (hindex : index ≠ 0) :
    policy.resolve words index = index := by
  obtain ⟨index, rfl⟩ := Nat.exists_eq_succ_of_ne_zero hindex
  rcases words with _ | ⟨first, _ | ⟨next, rest⟩⟩ <;> rfl

/-- A policy that does not redirect takes every place for itself. -/
theorem resolve_of_not_redirect (hpolicy : policy.redirectIndentation = false) (index : Nat) :
    policy.resolve words index = index := by
  by_cases hindex : index = 0
  · subst hindex
    rcases words with _ | ⟨first, _ | ⟨next, rest⟩⟩ <;> simp [resolve, hpolicy]
  · exact resolve_of_ne_zero hindex

end HoverPolicy

/-- A line that starts with a space, is no comment and has a token. -/
structure IsIndentedCode (line : Text) : Prop where
  /-- There is an indentation. -/
  indented : line.head? = some ' '
  /-- There is no number sign behind it. -/
  no_comment : ∀ width note, line ≠ spaces width ++ '#' :: note
  /-- The code of the line is more than spaces. -/
  has_token : ∃ code runs, UpToMark line.trim code ∧ HasRuns code.trim runs ∧ runs ≠ []

/-- A line is indented exactly if it starts with a space. -/
theorem indentation_pos_iff {line : Text} : 0 < line.indentation ↔ line.head? = some ' ' := by
  cases line with
  | nil => simp [Text.indentation]
  | cons c rest => by_cases hc : c = ' ' <;> simp [Text.indentation, hc]

/-- The runs of a line's code are found in the line. -/
theorem isIndentedCode_iff {line code : Text} {runs : List Text}
    (hcomment : line.isComment = false) (hcode : UpToMark line.trim code)
    (hruns : HasRuns code.trim runs) :
    IsIndentedCode line ↔ 0 < line.indentation ∧ runs ≠ [] := by
  constructor
  · rintro ⟨hindented, -, code', runs', hcode', hruns', htoken⟩
    rw [upToMark_iff] at hcode hcode'
    obtain rfl := hcode.symm.trans hcode'
    rw [hasRuns_iff] at hruns hruns'
    exact ⟨indentation_pos_iff.mpr hindented, hruns.symm.trans hruns' ▸ htoken⟩
  · rintro ⟨hwidth, htoken⟩
    exact ⟨indentation_pos_iff.mp hwidth, isComment_eq_false_iff.mp hcomment, code, runs, hcode,
      hruns, htoken⟩

/-- The first token of a line does not look like an indentation if the marker starts in a blank. -/
theorem not_isIndentation_of_hasRuns {marker code : Text} {w : Word} {runs : List Text}
    (hmarker : ∃ c ∈ marker.head?, isBlank c = true) (hruns : HasRuns code.trim (w.text :: runs)) :
    w.isIndentation marker = false := by
  have hcode : ∀ c ∈ code.trim.head?, isBlank c = false := Text.not_blank_of_mem_head?_trim
  have hspace : code.trim.head? ≠ some ' ' := fun hfirst => absurd (hcode ' ' hfirst) (by decide)
  rw [Bool.eq_false_iff]
  intro hindentation
  obtain ⟨c, hc, hblank⟩ := hmarker
  rw [← Word.head?_of_isIndentation hindentation, hruns.head?_eq hspace] at hc
  have hnot := hcode c hc
  rw [hblank] at hnot
  contradiction

/-- Behind an indentation there is a token to point at, or there is no indentation to redirect. -/
theorem resolve_ofIndentation_append {marker code : Text} {tokenWords : List Word}
    (hmarker : ∃ c ∈ marker.head?, isBlank c = true)
    (hruns : HasRuns code.trim (tokenWords.map Word.text)) (width : Nat) :
    (⟨true, marker⟩ : HoverPolicy).resolve (Word.ofIndentation marker width ++ tokenWords) 0 =
      if 0 < width ∧ tokenWords ≠ [] then 1 else 0 := by
  have hne : marker ≠ [] := by
    rintro rfl
    simp at hmarker
  by_cases hwidth : width = 0
  · subst hwidth
    rcases tokenWords with _ | ⟨first, _ | ⟨next, rest⟩⟩
    · rfl
    · rfl
    · have hfirst := not_isIndentation_of_hasRuns hmarker hruns
      simp [Word.ofIndentation, HoverPolicy.resolve, hfirst]
  · have hpositive : 0 < width := Nat.pos_of_ne_zero hwidth
    rw [Word.ofIndentation, if_neg hwidth, List.singleton_append]
    cases tokenWords with
    | nil => simp [HoverPolicy.resolve]
    | cons next rest =>
      simp [HoverPolicy.resolve, Word.isIndentation_indentation hne hpositive, hpositive]

/-- Pointing at the first word means the second one on an indented line with a token, and itself on
any other line. -/
theorem resolve_zero_cases {marker line : Text} {words : List Word}
    (hmarker : ∃ c ∈ marker.head?, isBlank c = true)
    (hparse : parseLine? marker line = some words) :
    (IsIndentedCode line ∧ (⟨true, marker⟩ : HoverPolicy).resolve words 0 = 1) ∨
      (¬IsIndentedCode line ∧ (⟨true, marker⟩ : HoverPolicy).resolve words 0 = 0) := by
  rcases comment_or_hasTokens hparse with
    ⟨hcomment, rfl⟩ | ⟨hcomment, code, tokenWords, rfl, hcode, hruns⟩
  · obtain ⟨width, note, heq⟩ := isComment_iff.mp hcomment
    exact .inr ⟨fun hindented => hindented.no_comment width note heq, rfl⟩
  · have htoken : tokenWords.map Word.text ≠ [] ↔ tokenWords ≠ [] := List.map_eq_nil_iff.not
    rw [isIndentedCode_iff hcomment hcode hruns, htoken, resolve_ofIndentation_append hmarker hruns]
    split
    · next hindented => exact .inl ⟨hindented, rfl⟩
    · next hindented => exact .inr ⟨hindented, rfl⟩

/-- **Pointing at an indentation is redirected exactly on indented lines.** If the marker starts in
a blank, a policy that redirects takes pointing at the first word of a line for pointing at the
second one exactly if the line starts with a space, is no comment and has a token. Every other place
means itself, and so does every place if the policy does not redirect. -/
theorem redirects_indented_lines {marker line : Text} {words : List Word}
    (hmarker : ∃ c ∈ marker.head?, isBlank c = true)
    (hparse : parseLine? marker line = some words) :
    ((⟨true, marker⟩ : HoverPolicy).resolve words 0 = 1 ↔ IsIndentedCode line) ∧
      ((⟨true, marker⟩ : HoverPolicy).resolve words 0 = 0 ↔ ¬IsIndentedCode line) ∧
      (∀ (policy : HoverPolicy) (index : Nat), index ≠ 0 → policy.resolve words index = index) ∧
      ∀ (policy : HoverPolicy) (index : Nat), policy.redirectIndentation = false →
        policy.resolve words index = index := by
  refine ⟨?_, ?_, fun _ _ hindex => HoverPolicy.resolve_of_ne_zero hindex,
    fun _ index hpolicy => HoverPolicy.resolve_of_not_redirect hpolicy index⟩
  · rcases resolve_zero_cases hmarker hparse with ⟨hindented, hone⟩ | ⟨hindented, hzero⟩
    · exact iff_of_true hone hindented
    · exact iff_of_false (by simp [hzero]) hindented
  · rcases resolve_zero_cases hmarker hparse with ⟨hindented, hone⟩ | ⟨hindented, hzero⟩
    · exact iff_of_false (by simp [hone]) (not_not_intro hindented)
    · exact iff_of_true hzero hindented

/-- A no-break space behind the indentation of a line, and in front of a line without one. -/
theorem redirects_indented_lines_no_break_space :
    let marker : Text := ['\u00a0']
    let policy : HoverPolicy := ⟨true, marker⟩
    let indented : Text := " \u00a0f(x) -- i;1:0,1:1".toList
    let flush : Text := "\u00a0 f x -- i;1:0,1:1".toList
    let words : List Word := [.indentation marker 1, ⟨"f(x)".toList, ⟨1, 0, 1, 1⟩⟩]
    let words' : List Word := [⟨['f'], ⟨1, 0, 1, 1⟩⟩, .unmapped ['x']]
    (∃ c ∈ marker.head?, isBlank c = true) ∧
      (parseLine? marker indented = some words ∧ policy.resolve words 0 = 1 ∧
        IsIndentedCode indented) ∧
      (parseLine? marker flush = some words' ∧ policy.resolve words' 0 = 0 ∧
        ¬IsIndentedCode flush) := by
  intro marker policy indented flush words words'
  have hmarker : ∃ c ∈ marker.head?, isBlank c = true := ⟨'\u00a0', rfl, by decide⟩
  have hindented : parseLine? marker indented = some words := by decide +kernel
  have hflush : parseLine? marker flush = some words' := by decide +kernel
  have hone : policy.resolve words 0 = 1 := by decide +kernel
  have hzero : policy.resolve words' 0 = 0 := by decide +kernel
  exact ⟨hmarker, ⟨hindented, hone, (redirects_indented_lines hmarker hindented).1.mp hone⟩,
    hflush, hzero, (redirects_indented_lines hmarker hflush).2.1.mp hzero⟩

end SpanViewer
