import SpanViewer.Proofs.Position.Written
import SpanViewer.Proofs.Prompt.Typed

/-!
# A carriage return at the end of a line

Shell words are not separated by carriage returns. One that stands in front of the line feed of a
typed line is lost in a comment, or it ends the last word of the line, or it is a word of its own.
The command of the line is another one exactly if it reads this word.
-/

namespace SpanViewer

/-- The words of a line that ends in a line feed, and its words with a carriage return in front of
the line feed. -/
inductive ReturnRead : Option (List Text) → Option (List Text) → Prop
  /-- A quote is open in both. -/
  | unbalanced : ReturnRead none none
  /-- The carriage return is part of a comment. -/
  | comment (words : List Text) : ReturnRead (some words) (some words)
  /-- The carriage return ends the last word, if it is not a word of its own. -/
  | word (front : List Text) (former : Option Text) :
      ReturnRead (some (front ++ former.toList)) (some (front ++ [former.getD [] ++ ['\r']]))

/-- A word in front of the others makes no difference. -/
theorem ReturnRead.cons {words returned : Option (List Text)} (hread : ReturnRead words returned)
    (first : Text) : ReturnRead (words.map (first :: ·)) (returned.map (first :: ·)) := by
  cases hread with
  | unbalanced => exact .unbalanced
  | comment words => exact .comment (first :: words)
  | word front former => exact .word (first :: front) former

/-- A character that is followed by others in one way or another is no backslash if a backslash
would have been read before. -/
theorem ne_backslash_of_rest {c : Char} {rest : Text} (hlast : c = '\\' → rest = [] → False)
    (hnext : ∀ next later, c = '\\' → rest = next :: later → False) : c ≠ '\\' := by
  rintro rfl
  cases rest with
  | nil => exact hlast rfl rfl
  | cons next later => exact hnext next later rfl rfl

/-- A carriage return at the end of what is read of a line is read in one of three ways. -/
theorem returnRead_shellWordsFrom (context : ShellContext) (word line : Text) :
    ReturnRead (shellWordsFrom context word (line ++ ['\n']))
      (shellWordsFrom context word (line ++ ['\r', '\n'])) := by
  -- The reader takes the same step on both lines, up to the end of what they have in common.
  fun_induction shellWordsFrom context word line with
  | case1 word => exact .word [] none
  | case2 word => exact .comment []
  | case3 word =>
    have hreturned : shellWordsFrom .bare word ['\r', '\n'] = some [word.reverse ++ ['\r']] := by
      simp [shellWordsFrom, isShellSeparator]
    exact hreturned ▸ .word [] (some word.reverse)
  | case4 word | case5 word | case9 word => exact .unbalanced
  | case15 word =>
    have hreturned :
        shellWordsFrom .bare word ['\\', '\r', '\n'] = some [word.reverse ++ ['\r']] := by
      simp [shellWordsFrom, isShellSeparator]
    exact hreturned ▸ .word [] (some word.reverse)
  | case21 word => exact .word [] (some [])
  | case6 word c rest ih | case16 word c rest ih | case22 word c rest ih =>
    simpa only [List.cons_append, shellWordsFrom] using ih
  | case7 word rest ih | case13 word rest _ _ ih | case18 word rest _ _ _ ih
  | case19 word rest _ _ _ _ ih | case24 word rest _ _ _ ih | case25 word rest _ _ _ _ ih
  | case26 word rest _ _ _ _ _ ih => simpa [shellWordsFrom, isShellSeparator] using ih
  | case8 word c rest hquote ih => simpa [shellWordsFrom, hquote] using ih
  | case10 word c rest hprotected ih => simpa [shellWordsFrom, hprotected] using ih
  | case11 word rest hprotected ih => simpa [shellWordsFrom, hprotected] using ih
  | case12 word c rest hprotected hfeed ih => simpa [shellWordsFrom, hprotected, hfeed] using ih
  | case14 word c rest hlast hnext hquote ih =>
    have hbackslash := ne_backslash_of_rest hlast hnext
    simpa [shellWordsFrom, hbackslash, hquote] using ih
  | case17 word c rest hlast hnext hseparator ih =>
    rw [List.cons_append, List.cons_append, shellWordsFrom_separator hseparator,
      shellWordsFrom_separator hseparator]
    exact ih.cons word.reverse
  | case20 word c rest hlast hnext hseparator hsingle hdouble ih =>
    have hbackslash := ne_backslash_of_rest hlast hnext
    simpa [shellWordsFrom, hbackslash, hseparator, hsingle, hdouble] using ih
  | case23 word c rest hlast hnext hseparator ih =>
    have hbackslash := ne_backslash_of_rest hlast hnext
    simpa [shellWordsFrom, hbackslash, hseparator] using ih
  | case27 word c rest hlast hnext hseparator hcomment hsingle hdouble ih =>
    have hbackslash := ne_backslash_of_rest hlast hnext
    simpa [shellWordsFrom, hbackslash, hseparator, hcomment, hsingle, hdouble] using ih

/-- The words of a line hold nothing else than the line. -/
theorem mem_of_shellWordsFrom {context : ShellContext} {seen line : Text} {words : List Text}
    (hwords : shellWordsFrom context seen line = some words) {word : Text} (hword : word ∈ words)
    {c : Char} (hc : c ∈ word) : c ∈ seen ∨ c ∈ line := by
  fun_induction shellWordsFrom context seen line generalizing words word with
  | case17 seen separator rest _ _ hseparator ih =>
    obtain ⟨later, hlater, rfl⟩ := Option.map_eq_some_iff.mp hwords
    rcases List.mem_cons.mp hword with rfl | hword
    · exact .inl (List.mem_reverse.mp hc)
    · obtain hnil | hrest := ih hlater hword hc
      · contradiction
      · exact .inr (List.mem_cons_of_mem separator hrest)
  | _ => grind

namespace Text

/-- A carriage return behind a text does not change which letter comes first in it. -/
theorem meetsCased_append_return (text : Text) : meetsCased (text ++ ['\r']) = meetsCased text := by
  have hreturn : isCased '\r' = false := by decide
  have hkept : List.dropWhile isCaseIgnorable ['\r'] = ['\r'] := by decide +kernel
  unfold meetsCased
  rw [List.dropWhile_append]
  cases hrest : text.dropWhile isCaseIgnorable with
  | nil => simp [hkept, hreturn]
  | cons c rest => simp

/-- A carriage return has no case and changes none. -/
theorem lowercaseAfter_append_return (before text : Text) :
    lowercaseAfter before (text ++ ['\r']) = lowercaseAfter before text ++ ['\r'] := by
  induction text generalizing before with
  | nil =>
    have hreturn : toLowercase '\r' = '\r' := by decide
    simp [lowercaseAfter, hreturn]
  | cons c rest ih =>
    simp only [List.cons_append, lowercaseAfter, meetsCased_append_return, ih, List.append_assoc]

/-- The small form of a text with a carriage return behind it. -/
theorem lowercase_append_return (text : Text) :
    lowercase (text ++ ['\r']) = lowercase text ++ ['\r'] :=
  lowercaseAfter_append_return [] text

end Text

namespace Command

/-- The command that is read from the words of a line. -/
def ofWords : List Text → Except Fault Command
  | [] => .ok .empty
  | name :: arguments => ofName name.lowercase arguments

/-- A line is read word by word. -/
theorem parse_of_words {line : Text} {words : List Text} (hwords : shellWords? line = some words) :
    parse line = ofWords words := by
  rw [parse, hwords]
  cases words <;> rfl

/-- The names of the commands that take an argument. -/
def argumentNames : List Text :=
  ["load".toList, "open".toList, "words".toList, "hover".toList, "h".toList]

/-- The names of the commands that take a second argument. -/
def indexNames : List Text :=
  ["hover".toList, "h".toList]

/-- Words behind which their command reads another one. -/
inductive WantsWord : List Text → Prop
  /-- There is no name yet. -/
  | name : WantsWord []
  /-- The command takes an argument. -/
  | argument {name : Text} (hname : name.lowercase ∈ argumentNames) : WantsWord [name]
  /-- The command takes a second argument, and the first one is the number of a line. -/
  | index {name line : Text} {number : Nat} (hname : name.lowercase ∈ indexNames)
      (hline : lineNumber "hover".toList (some line) = .ok number) : WantsWord [name, line]

/-- Arguments behind the first two are not read. -/
theorem ofName_congr {name : Text} {arguments others : List Text}
    (hfirst : arguments[0]? = others[0]?) (hsecond : arguments[1]? = others[1]?) :
    ofName name arguments = ofName name others := by
  simp only [ofName, hfirst, hsecond]

/-- Arguments behind the first are read by one command alone. -/
theorem ofName_congr_of_not_mem {name : Text} {arguments others : List Text}
    (hname : name ∉ indexNames) (hfirst : arguments[0]? = others[0]?) :
    ofName name arguments = ofName name others := by
  have hhover : ¬(name = "hover".toList ∨ name = "h".toList) := by
    simpa only [indexNames, List.mem_cons, List.not_mem_nil, or_false] using hname
  simp only [ofName, hfirst, if_neg hhover]

/-- Other commands read no argument. -/
theorem ofName_nil_of_not_mem {name : Text} (hname : name ∉ argumentNames)
    (arguments : List Text) : ofName name arguments = ofName name [] := by
  simp only [argumentNames, List.mem_cons, List.not_mem_nil, or_false, not_or] at hname
  obtain ⟨hload, hopen, hwords, hhover, hshort⟩ := hname
  simp only [ofName, hload, hopen, hwords, hhover, hshort, or_self, if_false]

/-- A command to point at a word reads the number of a line, and then that of the word. -/
theorem ofName_of_mem_indexNames {name : Text} (hname : name ∈ indexNames)
    (arguments : List Text) :
    ofName name arguments = (do
      let line ← lineNumber "hover".toList arguments[0]?
      let index ← number "hover".toList "word".toList arguments[1]?
      return .hover line index) := by
  simp only [indexNames, List.mem_cons, List.not_mem_nil, or_false] at hname
  rcases hname with rfl | rfl <;> rfl

/-- A command that wants no more words does not read any. -/
theorem ofWords_append_of_not_wantsWord {words : List Text} (hwords : ¬WantsWord words)
    (more : List Text) : ofWords (words ++ more) = ofWords words := by
  rcases words with _ | ⟨name, _ | ⟨first, _ | ⟨second, rest⟩⟩⟩
  · exact absurd .name hwords
  · have hname : name.lowercase ∉ argumentNames := fun hname => hwords (.argument hname)
    exact ofName_nil_of_not_mem hname more
  · by_cases hname : name.lowercase ∈ indexNames
    · cases hline : lineNumber "hover".toList (some first) with
      | ok number => exact absurd (.index hname hline) hwords
      | error fault =>
        simp only [List.cons_append, ofWords, ofName_of_mem_indexNames hname,
          List.getElem?_cons_zero, hline]
        rfl
    · exact ofName_congr_of_not_mem hname rfl
  · exact ofName_congr rfl rfl


/-- Why a word is refused in the place of a number. -/
def numberReason (what word : Text) : Text :=
  what ++ " must be a number, got ".toList ++ word.quoted

/-- A word with a carriage return is no number. -/
theorem number_of_mem_return {word : Text} (hreturn : '\r' ∈ word) (command what : Text) :
    number command what (some word) = .error (.badArguments command (numberReason what word)) := by
  cases hnumber : word.number? with
  | none => simp only [number, hnumber, numberReason]
  | some value =>
    have hblank := (Text.number?_eq_some_iff.mp hnumber).not_blank '\r' hreturn
    contradiction

/-- A word with a carriage return is no number of a line. -/
theorem lineNumber_of_mem_return {word : Text} (hreturn : '\r' ∈ word) (command : Text) :
    lineNumber command (some word) =
      .error (.badArguments command (numberReason "line".toList word)) := by
  rw [lineNumber, number_of_mem_return hreturn]
  rfl

/-- A carriage return that is refused is shown behind a backslash. -/
theorem ne_numberReason_of_not_mem {reason word : Text} (hreason : '\\' ∉ reason)
    (hreturn : '\r' ∈ word) (what : Text) : reason ≠ numberReason what word := by
  rintro rfl
  have hquoted : '\\' ∈ Text.quoteChar '\r' := by decide
  have hmem : '\\' ∈ word.flatMap Text.quoteChar := List.mem_flatMap.mpr ⟨'\r', hreturn, hquoted⟩
  exact hreason (by simp [numberReason, Text.quoted, hmem])

/-- A word is refused for another reason than the word with a carriage return behind it. -/
theorem numberReason_ne_append_return (what word : Text) :
    numberReason what word ≠ numberReason what (word ++ ['\r']) := by
  intro heq
  have hquoted : (Text.quoteChar '\r').length = 2 := by decide
  have hlength := congrArg List.length heq
  simp only [numberReason, Text.quoted, List.length_append, List.flatMap_append,
    List.flatMap_singleton, hquoted] at hlength
  omega

/-- A number that is missing or refused is so for another reason than one that ends in a carriage
return. -/
theorem exists_reason_of_number {command what : Text} {former : Option Text} {fault : Fault}
    (hwhat : '\\' ∉ what) (hnumber : number command what former = .error fault) :
    ∃ reason, fault = .badArguments command reason ∧
      reason ≠ numberReason what (former.getD [] ++ ['\r']) := by
  cases former with
  | none =>
    have hmissing : '\\' ∉ "missing ".toList ++ what := by
      simp [hwhat]
    exact ⟨_, (Except.error.inj hnumber).symm, ne_numberReason_of_not_mem hmissing (by simp) what⟩
  | some word =>
    cases hvalue : word.number? with
    | some value =>
      simp only [number, hvalue] at hnumber
      contradiction
    | none =>
      simp only [number, hvalue] at hnumber
      exact ⟨_, (Except.error.inj hnumber).symm, numberReason_ne_append_return what word⟩

/-- The number of a line that is missing or refused is so for another reason than one that ends in a
carriage return. -/
theorem exists_reason_of_lineNumber {command : Text} {former : Option Text} {fault : Fault}
    (hline : lineNumber command former = .error fault) :
    ∃ reason, fault = .badArguments command reason ∧
      reason ≠ numberReason "line".toList (former.getD [] ++ ['\r']) := by
  rcases of_bind_eq_error hline with hnumber | ⟨value, -, hzero⟩
  · exact exists_reason_of_number (by decide) hnumber
  · split at hzero
    · exact ⟨_, (Except.error.inj hzero).symm,
        ne_numberReason_of_not_mem (by decide) (by simp) "line".toList⟩
    · contradiction

/-- A name with a carriage return is no name of a command. -/
theorem ofName_of_mem_return {name : Text} (hreturn : '\r' ∈ name) (arguments : List Text) :
    ofName name arguments =
      .error (.badArguments name "unknown command, try `help`".toList) := by
  have hne {other : Text} (hother : '\r' ∉ other) : name ≠ other := by
    rintro rfl
    exact hother hreturn
  unfold ofName
  simp [hne]

/-- A name alone is refused because it is unknown, or for a reason without a carriage return. -/
theorem ofName_nil_error {name : Text} {fault : Fault} (hname : ofName name [] = .error fault) :
    fault = .badArguments name "unknown command, try `help`".toList ∨ '\r' ∉ fault.message := by
  unfold ofName at hname
  split at hname
  · obtain rfl := Except.error.inj hname
    exact .inr (by decide)
  split at hname
  · cases hname
  split at hname
  · cases hname
  split at hname
  · obtain rfl := Except.error.inj hname
    exact .inr (by decide)
  split at hname
  · obtain rfl := Except.error.inj hname
    exact .inr (by decide)
  split at hname
  · cases hname
  split at hname
  · cases hname
  split at hname
  · cases hname
  · exact .inl (Except.error.inj hname).symm

/-- Two faults of one command with different reasons are reported in different words. -/
theorem message_badArguments_ne {command reason other : Text} (hne : reason ≠ other) :
    (Fault.badArguments command reason).message ≠ (Fault.badArguments command other).message :=
  fun heq => hne (List.append_cancel_left heq)

/-- What is read of a line, and what is read of it if a carriage return changes the command. -/
inductive ReadOtherwise : Except Fault Command → Except Fault Command → Prop
  /-- A command becomes one that is refused. -/
  | refused {command : Command} {name reason : Text} :
      ReadOtherwise (.ok command) (.error (.badArguments name reason))
  /-- A command is refused in other words. -/
  | reworded {fault other : Fault} (hne : fault.message ≠ other.message) :
      ReadOtherwise (.error fault) (.error other)
  /-- The carriage return is taken for the name of a file. -/
  | file {name reason path : Text} :
      ReadOtherwise (.error (.badArguments name reason)) (.ok (.load path))
  /-- The carriage return is taken for a part of the name of a file. -/
  | path {path : Text} : ReadOtherwise (.ok (.load path)) (.ok (.load (path ++ ['\r'])))

/-- How bad arguments are reported. -/
theorem message_badArguments (command reason : Text) :
    (Fault.badArguments command reason).message =
      "bad arguments for `".toList ++ command ++ "`: ".toList ++ reason := rfl

/-- A name with a carriage return behind it is reported in other words than the name. -/
theorem message_append_return_ne (name reason : Text) :
    (Fault.badArguments name reason).message ≠
      (Fault.badArguments (name ++ ['\r']) reason).message := by
  intro heq
  have hlength := congrArg List.length heq
  simp only [message_badArguments, List.length_append, List.length_singleton] at hlength
  omega

/-- A name is reported with the carriage returns in it. -/
theorem mem_message_of_mem {name : Text} {c : Char} (hc : c ∈ name) (reason : Text) :
    c ∈ (Fault.badArguments name reason).message := by
  simp [message_badArguments, hc]

/-- A name that ends in a carriage return changes the command. -/
theorem readOtherwise_name (former : Option Text) :
    ReadOtherwise (ofWords former.toList) (ofWords [former.getD [] ++ ['\r']]) := by
  have hreturned : ofWords [former.getD [] ++ ['\r']] = .error (.badArguments
      ((former.getD []).lowercase ++ ['\r']) "unknown command, try `help`".toList) := by
    rw [ofWords, Text.lowercase_append_return]
    exact ofName_of_mem_return (by simp) []
  rw [hreturned]
  cases former with
  | none => exact .refused
  | some name =>
    cases hname : ofName name.lowercase [] with
    | ok command =>
      rw [Option.toList_some, ofWords, hname]
      exact .refused
    | error fault =>
      rw [Option.toList_some, ofWords, hname]
      refine .reworded ?_
      rcases ofName_nil_error hname with rfl | hmessage
      · exact message_append_return_ne _ _
      · exact fun heq => hmessage (heq ▸ mem_message_of_mem (by simp) _)


/-- A command to load wants a path. -/
theorem ofName_of_load {name : Text} (hname : name = "load".toList ∨ name = "open".toList)
    (arguments : List Text) :
    ofName name arguments =
      match arguments[0]? with
      | none => .error (.badArguments "load".toList "missing path".toList)
      | some path => .ok (.load path) := by
  rcases hname with rfl | rfl <;> rfl

/-- The first of no word or one is that word. -/
theorem getElem?_toList (former : Option Text) : former.toList[0]? = former := by
  cases former <;> rfl

/-- The number of a line that ends in a carriage return is refused. -/
theorem readOtherwise_lineNumber {command : Text} {former : Option Text}
    {next : Nat → Except Fault Command}
    (hnext : ∀ value, ReadOtherwise (next value)
      (.error (.badArguments command (numberReason "line".toList (former.getD [] ++ ['\r']))))) :
    ReadOtherwise (lineNumber command former >>= next)
      (.error (.badArguments command (numberReason "line".toList (former.getD [] ++ ['\r'])))) := by
  cases hline : lineNumber command former with
  | ok value => exact hnext value
  | error fault =>
    obtain ⟨reason, rfl, hne⟩ := exists_reason_of_lineNumber hline
    exact .reworded (message_badArguments_ne hne)

/-- A first argument that ends in a carriage return changes the command. -/
theorem readOtherwise_argument {name : Text} (hname : name.lowercase ∈ argumentNames)
    (former : Option Text) :
    ReadOtherwise (ofWords (name :: former.toList)) (ofWords [name, former.getD [] ++ ['\r']]) := by
  have hreturn : '\r' ∈ former.getD [] ++ ['\r'] := by simp
  have hfirst : [former.getD [] ++ ['\r']][0]? = some (former.getD [] ++ ['\r']) := rfl
  by_cases hindex : name.lowercase ∈ indexNames
  · rw [ofWords, ofWords, ofName_of_mem_indexNames hindex, ofName_of_mem_indexNames hindex,
      getElem?_toList, hfirst, lineNumber_of_mem_return hreturn]
    refine readOtherwise_lineNumber fun value => ?_
    have hsecond : former.toList[1]? = none := by cases former <;> rfl
    rw [hsecond]
    exact .reworded (message_badArguments_ne
      (ne_numberReason_of_not_mem (by decide) hreturn "line".toList))
  by_cases hload : name.lowercase = "load".toList ∨ name.lowercase = "open".toList
  · rw [ofWords, ofWords, ofName_of_load hload, ofName_of_load hload, getElem?_toList, hfirst]
    cases former with
    | none => exact .file
    | some path => exact .path
  · have hwords : name.lowercase = "words".toList := by
      simp only [argumentNames, indexNames, List.mem_cons, List.not_mem_nil, or_false]
        at hname hindex
      rcases hname with hname | hname | hname | hname | hname
      · exact absurd (.inl hname) hload
      · exact absurd (.inr hname) hload
      · exact hname
      · exact absurd (.inl hname) hindex
      · exact absurd (.inr hname) hindex
    have hread (arguments : List Text) : ofName "words".toList arguments = (do
        return .words (← lineNumber "words".toList arguments[0]?)) := rfl
    rw [ofWords, ofWords, hwords, hread, hread, getElem?_toList, hfirst,
      lineNumber_of_mem_return hreturn]
    exact readOtherwise_lineNumber fun value => .refused

/-- A second argument that ends in a carriage return changes the command. -/
theorem readOtherwise_index {name line : Text} {value : Nat} (hname : name.lowercase ∈ indexNames)
    (hline : lineNumber "hover".toList (some line) = .ok value) (former : Option Text) :
    ReadOtherwise (ofWords (name :: line :: former.toList))
      (ofWords [name, line, former.getD [] ++ ['\r']]) := by
  have hreturn : '\r' ∈ former.getD [] ++ ['\r'] := by simp
  have hreturned : ofWords [name, line, former.getD [] ++ ['\r']] = .error (.badArguments
      "hover".toList (numberReason "word".toList (former.getD [] ++ ['\r']))) := by
    have hfirst : [line, former.getD [] ++ ['\r']][0]? = some line := rfl
    have hsecond : [line, former.getD [] ++ ['\r']][1]? = some (former.getD [] ++ ['\r']) := rfl
    rw [ofWords, ofName_of_mem_indexNames hname, hfirst, hsecond, hline,
      number_of_mem_return hreturn]
    rfl
  have hfirst : (line :: former.toList)[0]? = some line := rfl
  have hsecond : (line :: former.toList)[1]? = former := by cases former <;> rfl
  rw [hreturned, ofWords, ofName_of_mem_indexNames hname, hfirst, hsecond, hline]
  cases hnumber : number "hover".toList "word".toList former with
  | ok index => exact .refused
  | error fault =>
    obtain ⟨reason, rfl, hne⟩ := exists_reason_of_number (by decide) hnumber
    exact .reworded (message_badArguments_ne hne)

/-- A carriage return in a word that a command reads changes the command. -/
theorem readOtherwise_of_wantsWord {front : List Text} (hfront : WantsWord front)
    (former : Option Text) :
    ReadOtherwise (ofWords (front ++ former.toList))
      (ofWords (front ++ [former.getD [] ++ ['\r']])) := by
  cases hfront with
  | name => exact readOtherwise_name former
  | argument hname => exact readOtherwise_argument hname former
  | index hname hline => exact readOtherwise_index hname hline former

end Command
end SpanViewer
