import Mathlib.Data.List.TakeWhile
import SpanViewer.Text.Blank

/-!
# Trimming

Characters of a class at the end of a text do not change what is left when the class is taken off
that end, and blank characters at either end do not change the trimmed text. A text with neither
kind of end is left alone. What is taken off belongs to the class, so that the text is the blanks,
the trimmed text and blanks again.
-/

namespace SpanViewer.Text

/-- Characters of the class at the end of a text are taken off with the others. -/
theorem dropEndWhile_append_of_all {p : Char → Bool} (text : Text) {tail : Text}
    (htail : ∀ c ∈ tail, p c = true) : (text ++ tail).dropEndWhile p = text.dropEndWhile p := by
  simp only [dropEndWhile, List.reverse_append]
  rw [List.dropWhile_append_of_pos (by simpa using htail)]

/-- Characters are taken off the front of a text up to one outside of the class. -/
theorem dropWhile_append_cons {p : Char → Bool} (left right : Text) {c : Char} (hc : p c = false) :
    (left ++ c :: right).dropWhile p = left.dropWhile p ++ c :: right := by
  rw [List.dropWhile_append]
  split
  · next hnone => simp [List.isEmpty_iff.mp hnone, hc]
  · rfl

/-- Characters are taken off the end of a text up to one outside of the class. -/
theorem dropEndWhile_append_cons {p : Char → Bool} (left right : Text) {c : Char}
    (hc : p c = false) :
    (left ++ c :: right).dropEndWhile p = left ++ c :: right.dropEndWhile p := by
  simp only [dropEndWhile, List.reverse_append, List.reverse_cons, List.append_assoc,
    List.singleton_append]
  rw [dropWhile_append_cons _ _ hc]
  simp

/-- A text that does not end in a character of the class is left alone. -/
theorem dropEndWhile_append_singleton {p : Char → Bool} (text : Text) {c : Char}
    (hc : p c = false) : (text ++ [c]).dropEndWhile p = text ++ [c] :=
  dropEndWhile_append_cons text [] hc

/-- The characters that are taken off the end of a text belong to the class. -/
theorem exists_eq_dropEndWhile_append (p : Char → Bool) (text : Text) :
    ∃ tail, text = text.dropEndWhile p ++ tail ∧ ∀ c ∈ tail, p c = true := by
  refine ⟨(text.reverse.takeWhile p).reverse, ?_, fun c hc => ?_⟩
  · rw [dropEndWhile, ← List.reverse_append, List.takeWhile_append_dropWhile, List.reverse_reverse]
  · exact List.mem_takeWhile_imp (List.mem_reverse.mp hc)

/-- What is left does not end in a character of the class. -/
theorem not_of_mem_getLast?_dropEndWhile {p : Char → Bool} {text : Text} :
    ∀ c ∈ (text.dropEndWhile p).getLast?, p c = false := by
  intro c hc
  have hfirst := List.head?_dropWhile_not p text.reverse
  rw [dropEndWhile, List.getLast?_reverse, Option.mem_def] at hc
  rw [hc] at hfirst
  exact hfirst

/-- The spaces in front of a text are its indentation, and no space follows them. -/
theorem exists_eq_spaces_append (text : Text) :
    ∃ rest, text = List.replicate text.indentation ' ' ++ rest ∧ rest.head? ≠ some ' ' := by
  have hspaces : text.takeWhile (· = ' ') = List.replicate text.indentation ' ' := by
    refine List.eq_replicate_iff.mpr ⟨rfl, fun c hc => ?_⟩
    simpa using List.mem_takeWhile_imp hc
  refine ⟨text.dropWhile (· = ' '), ?_, fun hhead => ?_⟩
  · rw [← hspaces, List.takeWhile_append_dropWhile]
  · have hfirst := List.head?_dropWhile_not (· = ' ') text
    rw [hhead] at hfirst
    simp at hfirst

/-- Blanks in front of a text are trimmed. -/
theorem trim_append_left {blanks : Text} (hblanks : ∀ c ∈ blanks, isBlank c = true) (text : Text) :
    trim (blanks ++ text) = trim text := by
  rw [trim, List.dropWhile_append_of_pos hblanks, trim]

/-- Trimming takes off what is dropped from the front. -/
theorem trim_dropWhile (text : Text) : trim (text.dropWhile isBlank) = trim text := by
  have hblanks : ∀ c ∈ text.takeWhile isBlank, isBlank c = true :=
    fun _ hc => List.mem_takeWhile_imp hc
  rw [← trim_append_left hblanks, List.takeWhile_append_dropWhile]

/-- Blanks behind a text are trimmed. -/
theorem trim_append_right (text : Text) {blanks : Text} (hblanks : ∀ c ∈ blanks, isBlank c = true) :
    trim (text ++ blanks) = trim text := by
  simp only [trim, trimEnd, List.dropWhile_append]
  split
  · next hnone =>
    have hall : (blanks ++ []).dropWhile isBlank = [] := List.dropWhile_append_of_pos hblanks
    rw [List.append_nil] at hall
    rw [List.isEmpty_iff.mp hnone, hall]
  · exact dropEndWhile_append_of_all _ hblanks

/-- One blank behind a text is trimmed. -/
theorem trim_append_singleton (text : Text) {c : Char} (hc : isBlank c = true) :
    trim (text ++ [c]) = trim text :=
  trim_append_right text (List.forall_mem_singleton.mpr hc)

/-- A trimmed text does not start in a blank. -/
theorem not_blank_of_mem_head?_trim {text : Text} : ∀ c ∈ (trim text).head?, isBlank c = false := by
  intro c hc
  have hfirst := List.head?_dropWhile_not isBlank text
  rw [trim] at hc
  cases hfront : text.dropWhile isBlank with
  | nil =>
    rw [hfront] at hc
    contradiction
  | cons d rest =>
    rw [hfront] at hc hfirst
    have hd : isBlank d = false := hfirst
    rw [trimEnd, ← List.nil_append (d :: rest), dropEndWhile_append_cons [] rest hd] at hc
    obtain rfl : d = c := Option.some.inj hc
    exact hd

/-- A text that starts and ends in characters that are not blank is trimmed already. -/
theorem trim_eq_self {text : Text} (hfirst : ∀ c ∈ text.head?, isBlank c = false)
    (hlast : ∀ c ∈ text.getLast?, isBlank c = false) : trim text = text := by
  have hfront : text.dropWhile isBlank = text := by
    cases text with
    | nil => rfl
    | cons c rest => simp [hfirst c (by simp)]
  rw [trim, trimEnd, hfront]
  rcases text.eq_nil_or_concat with rfl | ⟨front, c, rfl⟩
  · rfl
  · rw [List.concat_eq_append, dropEndWhile_append_singleton _ (hlast c (by simp))]

/-- A text in which nothing is blank is trimmed already. -/
theorem trim_of_not_blank {text : Text} (htext : ∀ c ∈ text, isBlank c = false) :
    trim text = text :=
  trim_eq_self (fun c hc => htext c (List.mem_of_mem_head? hc))
    (fun c hc => htext c (List.mem_of_mem_getLast? hc))

/-- Trimming takes nothing but blanks off both ends. -/
theorem exists_eq_append_trim (text : Text) :
    ∃ front back, text = front ++ trim text ++ back ∧ (∀ c ∈ front, isBlank c = true) ∧
      ∀ c ∈ back, isBlank c = true := by
  obtain ⟨back, hback, hblank⟩ := exists_eq_dropEndWhile_append isBlank (text.dropWhile isBlank)
  refine ⟨text.takeWhile isBlank, back, ?_, fun c hc => List.mem_takeWhile_imp hc, hblank⟩
  calc text = text.takeWhile isBlank ++ text.dropWhile isBlank :=
        List.takeWhile_append_dropWhile.symm
    _ = text.takeWhile isBlank ++ trim text ++ back := by
        rw [List.append_assoc]
        exact congrArg _ hback

/-- On either side of a character that is not blank, a text is trimmed at its end alone. -/
theorem trim_append_cons (left right : Text) {c : Char} (hc : isBlank c = false) :
    trim (left ++ c :: right) = left.dropWhile isBlank ++ c :: trimEnd right := by
  rw [trim, dropWhile_append_cons left right hc, trimEnd, dropEndWhile_append_cons _ right hc,
    trimEnd]

/-- Trimming keeps the characters that are not blank. -/
theorem mem_trim {text : Text} {c : Char} (hmem : c ∈ text) (hc : isBlank c = false) :
    c ∈ trim text := by
  obtain ⟨left, right, rfl⟩ := List.append_of_mem hmem
  simp [trim_append_cons left right hc]

/-- A text with a character that is not blank is not trimmed away. -/
theorem trim_ne_nil_of_mem {text : Text} {c : Char} (hmem : c ∈ text) (hc : isBlank c = false) :
    trim text ≠ [] :=
  List.ne_nil_of_mem (mem_trim hmem hc)

/-- Trimming leaves nothing of a text exactly if all of it is blank. -/
theorem trim_eq_nil_iff {text : Text} : trim text = [] ↔ ∀ c ∈ text, isBlank c = true := by
  constructor
  · intro htrim c hmem
    by_contra hc
    have hkept := mem_trim hmem (by simpa using hc)
    simp [htrim] at hkept
  · intro hblank
    rw [← List.append_nil text, trim_append_left hblank]
    rfl

end SpanViewer.Text
