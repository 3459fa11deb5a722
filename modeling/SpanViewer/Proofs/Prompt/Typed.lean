import SpanViewer.Proofs.Position.Written
import SpanViewer.Prompt.Command

/-!
# Typed commands

Words in which every character stands for itself are read as they are typed: with one space between
them, and with any separators behind the last. A command with numbers in it is therefore read from
its name and the digits of the numbers.
-/

namespace SpanViewer

/-- A character that stands for itself wherever it is typed. -/
def isShellLiteral (c : Char) : Bool :=
  !isShellSeparator c && c ≠ '\'' && c ≠ '"' && c ≠ '\\' && c ≠ '#'

/-- A word that is typed as it is. -/
def IsShellLiteral (word : Text) : Prop :=
  word ≠ [] ∧ ∀ c ∈ word, isShellLiteral c = true

/-- What a character that stands for itself is not. -/
theorem not_special_of_isShellLiteral {c : Char} (hc : isShellLiteral c = true) :
    isShellSeparator c = false ∧ c ≠ '\'' ∧ c ≠ '"' ∧ c ≠ '\\' ∧ c ≠ '#' := by
  simpa [isShellLiteral, and_assoc] using hc

/-- Characters that stand for themselves go on with an open word. -/
theorem shellWordsFrom_bare {word : Text} (hword : ∀ c ∈ word, isShellLiteral c = true)
    (seen rest : Text) :
    shellWordsFrom .bare seen (word ++ rest) = shellWordsFrom .bare (word.reverse ++ seen) rest := by
  induction word generalizing seen with
  | nil => rfl
  | cons c word ih =>
    obtain ⟨hc, hrest⟩ := List.forall_mem_cons.mp hword
    obtain ⟨hseparator, hsingle, hdouble, hbackslash, -⟩ := not_special_of_isShellLiteral hc
    have hstep : shellWordsFrom .bare seen (c :: (word ++ rest)) =
        shellWordsFrom .bare (c :: seen) (word ++ rest) := by
      rw [shellWordsFrom]
      · simp [hseparator, hsingle, hdouble]
      · simp [hbackslash]
      · simp [hbackslash]
    rw [List.cons_append, hstep, ih hrest]
    simp

/-- A word begins with a character that stands for itself. -/
theorem shellWordsFrom_between {word : Text} (hword : IsShellLiteral word) (seen rest : Text) :
    shellWordsFrom .between seen (word ++ rest) = shellWordsFrom .bare word.reverse rest := by
  obtain ⟨hne, hliteral⟩ := hword
  obtain ⟨c, word, rfl⟩ := List.exists_cons_of_ne_nil hne
  obtain ⟨hc, hrest⟩ := List.forall_mem_cons.mp hliteral
  obtain ⟨hseparator, hsingle, hdouble, hbackslash, hcomment⟩ := not_special_of_isShellLiteral hc
  have hstep : shellWordsFrom .between seen (c :: (word ++ rest)) =
      shellWordsFrom .bare [c] (word ++ rest) := by
    rw [shellWordsFrom]
    · simp [hseparator, hcomment, hsingle, hdouble]
    · simp [hbackslash]
    · simp [hbackslash]
  rw [List.cons_append, hstep, shellWordsFrom_bare hrest, List.reverse_cons]

/-- A separator is no backslash. -/
theorem ne_backslash_of_isShellSeparator {c : Char} (hc : isShellSeparator c = true) : c ≠ '\\' := by
  rintro rfl
  contradiction

/-- A separator ends an open word. -/
theorem shellWordsFrom_separator {c : Char} (hc : isShellSeparator c = true) (seen rest : Text) :
    shellWordsFrom .bare seen (c :: rest) =
      (shellWordsFrom .between [] rest).map (seen.reverse :: ·) := by
  have hbackslash := ne_backslash_of_isShellSeparator hc
  rw [shellWordsFrom]
  · rw [if_pos hc]
  · simp [hbackslash]
  · simp [hbackslash]

/-- There are no words among separators. -/
theorem shellWordsFrom_separators {ending : Text}
    (hending : ∀ c ∈ ending, isShellSeparator c = true) (seen : Text) :
    shellWordsFrom .between seen ending = some [] := by
  induction ending generalizing seen with
  | nil => simp [shellWordsFrom]
  | cons c ending ih =>
    obtain ⟨hc, hrest⟩ := List.forall_mem_cons.mp hending
    have hbackslash := ne_backslash_of_isShellSeparator hc
    rw [shellWordsFrom]
    · rw [if_pos hc, ih hrest]
    · simp [hbackslash]
    · simp [hbackslash]

/-- Words that are typed as they are, with spaces between them, are read as they are. -/
theorem shellWords?_intercalate {words : List Text} (hwords : ∀ word ∈ words, IsShellLiteral word)
    {ending : Text} (hending : ∀ c ∈ ending, isShellSeparator c = true) :
    shellWords? ([' '].intercalate words ++ ending) = some words := by
  unfold shellWords?
  induction words with
  | nil => exact shellWordsFrom_separators hending []
  | cons word rest ih =>
    obtain ⟨hword, hrest⟩ := List.forall_mem_cons.mp hwords
    cases rest with
    | nil =>
      rw [List.intercalate_singleton, shellWordsFrom_between hword]
      cases ending with
      | nil => simp [shellWordsFrom]
      | cons c ending =>
        obtain ⟨hc, hrest⟩ := List.forall_mem_cons.mp hending
        rw [shellWordsFrom_separator hc, shellWordsFrom_separators hrest]
        simp
    | cons next rest =>
      have hspace : isShellSeparator ' ' = true := by decide
      rw [List.intercalate_cons_cons, List.append_assoc, List.append_assoc,
        shellWordsFrom_between hword, List.singleton_append, shellWordsFrom_separator hspace,
        ih hrest]
      simp

/-- A digit stands for itself. -/
theorem isShellLiteral_of_isDigit {c : Char} (hdigit : c.isDigit = true) :
    isShellLiteral c = true := by
  have hne {other : Char} (hother : other.isDigit = false) : c ≠ other := by
    rintro rfl
    rw [hdigit] at hother
    contradiction
  simp [isShellLiteral, isShellSeparator, hne]

/-- A number is typed in its digits. -/
theorem isShellLiteral_ofNumber (number : Nat) : IsShellLiteral (.ofNumber number) :=
  ⟨Nat.toDigits_ne_nil, fun _ hc => isShellLiteral_of_isDigit (Text.isDigit_of_mem_ofNumber hc)⟩

namespace Command

/-- What is typed to point at a word of a line: the name of the command and two numbers. -/
def hoverText (line index : Nat) : Text :=
  [' '].intercalate ["hover".toList, Text.ofNumber line, Text.ofNumber index]

/-- A number that is typed is read. -/
theorem number_ofNumber {number : Nat} (hbound : number < numberBound) (command what : Text) :
    Command.number command what (some (.ofNumber number)) = .ok number := by
  rw [Command.number, Text.number?_ofNumber hbound]

/-- The number of a line is read, unless it is 0. -/
theorem lineNumber_ofNumber {line : Nat} (hline : 0 < line) (hbound : line < numberBound)
    (command : Text) : lineNumber command (some (.ofNumber line)) = .ok line := by
  simp [lineNumber, number_ofNumber hbound, bind, Except.bind, Nat.ne_of_gt hline, pure, Except.pure]

/-- Pointing at a word is read from what is typed for it. -/
theorem parse_hoverText {line index : Nat} (hline : 0 < line) (hlines : line < numberBound)
    (hindex : index < numberBound) {ending : Text}
    (hending : ∀ c ∈ ending, isShellSeparator c = true) :
    parse (hoverText line index ++ ending) = .ok (.hover line index) := by
  have hletters : "hover".toList.all isShellLiteral = true := by decide
  have hname : IsShellLiteral "hover".toList := ⟨by decide, List.all_eq_true.mp hletters⟩
  have hliteral : ∀ word ∈ ["hover".toList, Text.ofNumber line, Text.ofNumber index],
      IsShellLiteral word :=
    List.forall_mem_cons.mpr ⟨hname, List.forall_mem_cons.mpr
      ⟨isShellLiteral_ofNumber line, List.forall_mem_singleton.mpr (isShellLiteral_ofNumber index)⟩⟩
  have hwords : shellWords? (hoverText line index ++ ending) =
      some ["hover".toList, Text.ofNumber line, Text.ofNumber index] :=
    shellWords?_intercalate hliteral hending
  have hlower : Text.lowercase "hover".toList = "hover".toList := by decide
  have harguments : ofName "hover".toList [Text.ofNumber line, Text.ofNumber index] = (do
      let line ← lineNumber "hover".toList (some (Text.ofNumber line))
      let index ← number "hover".toList "word".toList (some (Text.ofNumber index))
      return .hover line index) := rfl
  rw [parse, hwords]
  simp only [hlower, harguments, lineNumber_ofNumber hline hlines, number_ofNumber hindex]
  rfl

end Command

end SpanViewer
