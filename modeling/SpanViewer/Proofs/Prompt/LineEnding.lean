import SpanViewer.Proofs.Prompt.Reply
import SpanViewer.Proofs.Prompt.Return
import SpanViewer.Proofs.Prompt.Session
import SpanViewer.Proofs.Text.Returns

/-!
# Line endings at the prompt

A script whose lines end in a carriage return and a line feed does not lead to the same session as
one whose lines end in a line feed alone. The two sessions write the same exactly if in every line
up to the first `quit` the carriage return is in a comment, or behind a quote that stays open, or in
a word that the command of the line does not read.
-/

namespace SpanViewer

namespace Text

/-- A text without line feeds gets no carriage returns. -/
theorem withReturns_of_no_feed {text : Text} (hfeed : '\n' ∉ text) : text.withReturns = text := by
  induction text with
  | nil => rfl
  | cons c rest ih =>
    have hc := List.ne_of_not_mem_cons hfeed
    rw [withReturns_cons_of_ne (Ne.symm hc), ih (List.not_mem_of_not_mem_cons hfeed)]

/-- A line gets its carriage return in front of its line feed. -/
theorem withReturns_append_feed {line : Text} (hfeed : '\n' ∉ line) :
    (line ++ ['\n']).withReturns = line ++ ['\r', '\n'] := by
  rw [withReturns_append, withReturns_of_no_feed hfeed]
  rfl

/-- The lines of a text get their carriage returns one by one. -/
theorem typedLines_withReturns (text : Text) :
    text.withReturns.typedLines = text.typedLines.map withReturns := by
  induction text with
  | nil => rfl
  | cons c rest ih =>
    by_cases hc : c = '\n'
    · subst hc
      have hreturn : '\r' ≠ '\n' := by decide
      rw [withReturns_lineFeed, typedLines, if_neg hreturn, typedLines, if_pos rfl, typedLines,
        if_pos rfl, ih]
      rfl
    · rw [withReturns_cons_of_ne hc, typedLines, if_neg hc, typedLines, if_neg hc, ih]
      cases typedLines rest with
      | nil => simp [withReturns, hc]
      | cons line lines => simp [withReturns_cons_of_ne hc]

end Text

namespace Viewer

variable {v : Viewer} {files : Files} {target : Target} {line returned : Text}

/-- The reply to a load begins with the path and a colon. -/
theorem prefix_loadedReply (path : Text) (loaded : Viewer) :
    "loaded ".toList ++ path ++ ": ".toList <+: loadedReply path loaded :=
  (List.prefix_append _ _).trans <| (List.prefix_append _ _).trans <|
    (List.prefix_append _ _).trans (List.prefix_append _ _)

/-- So does the report of a load that fails. -/
theorem prefix_message_unreadable (path : Text) (cause : FileError) :
    "failed to read ".toList ++ path ++ ": ".toList <+: (Fault.unreadable path cause).message :=
  List.prefix_append _ _

/-- A path is followed by a colon or by a carriage return, not by both. -/
theorem not_prefix_append_return {front path text : Text}
    (hpath : front ++ path ++ ": ".toList <+: text) :
    ¬front ++ (path ++ ['\r']) ++ ": ".toList <+: text := by
  have hcolon : ": ".toList = [':', ' '] := by decide
  obtain ⟨back, rfl⟩ := hpath
  rintro ⟨other, heq⟩
  simp [hcolon] at heq

/-- A load is not replied to like that of a path with a carriage return behind it. -/
theorem reply?_load_ne {path : Text} (hline : Command.parse line = .ok (.load path))
    (hreturned : Command.parse returned = .ok (.load (path ++ ['\r'])))
    {answer other : Text × Viewer} (hanswer : v.reply? files target returned = some answer)
    (hother : v.reply? files target line = some other) : other.1 ≠ answer.1 := by
  rw [reply?_of_parse hreturned nofun, attempt_load] at hanswer
  rw [reply?_of_parse hline nofun, attempt_load] at hother
  obtain rfl := Option.some.inj hanswer
  obtain rfl := Option.some.inj hother
  cases hload : v.loadFile files path with
  | ok loaded =>
    cases v.loadFile files (path ++ ['\r']) with
    | ok shown =>
      intro (heq : loadedReply path loaded = loadedReply (path ++ ['\r']) shown)
      exact not_prefix_append_return (prefix_loadedReply path loaded)
        (heq ▸ prefix_loadedReply (path ++ ['\r']) shown)
    | error cause => exact ne_reply_of_head? rfl (by decide) cause
  | error fault =>
    cases hreload : v.loadFile files (path ++ ['\r']) with
    | ok shown => exact fun heq => ne_reply_of_head? rfl (by decide) fault heq.symm
    | error cause =>
      obtain ⟨cause, rfl⟩ := exists_of_loadFile_eq_error hload
      obtain ⟨reason, rfl⟩ := exists_of_loadFile_eq_error hreload
      intro heq
      have hmessage := Fault.message_eq_of_reply_eq heq
      exact not_prefix_append_return (prefix_message_unreadable path cause)
        (hmessage ▸ prefix_message_unreadable (path ++ ['\r']) reason)

/-- A line that reads as another with its carriage return has another reply with it. -/
theorem exists_reply?_of_readOtherwise
    (hread : Command.ReadOtherwise (Command.parse line) (Command.parse returned))
    (v : Viewer) (files : Files) (target : Target) :
    ∃ answer, v.reply? files target returned = some answer ∧
      ∀ other, v.reply? files target line = some other → other.1 ≠ answer.1 := by
  generalize hline : Command.parse line = words at hread
  generalize hreturned : Command.parse returned = reread at hread
  cases hread with
  | refused =>
    exact ⟨_, reply?_of_parse_error hreturned v files target,
      fun other hother => ne_reply_badArguments hline hother _ _⟩
  | reworded hne =>
    refine ⟨_, reply?_of_parse_error hreturned v files target, fun other hother heq => ?_⟩
    rw [reply?_of_parse_error hline] at hother
    obtain rfl := Option.some.inj hother
    exact hne (Fault.message_eq_of_reply_eq heq)
  | file =>
    have hanswer := reply?_of_parse hreturned nofun v files target
    refine ⟨_, hanswer, fun other hother heq => ?_⟩
    rw [reply?_of_parse_error hline] at hother
    obtain rfl := Option.some.inj hother
    exact ne_reply_badArguments hreturned hanswer _ _ heq.symm
  | path =>
    have hanswer := reply?_of_parse hreturned nofun v files target
    exact ⟨_, hanswer, fun other hother => reply?_load_ne hline hreturned hanswer hother⟩

end Viewer

namespace Command

/-- The command of a line reads the word that ends in the carriage return of the line. -/
def ReadsReturn (line : Text) : Prop :=
  ∃ front last, shellWords? line.withReturns = some (front ++ [last]) ∧ '\r' ∈ last ∧
    WantsWord front

/-- A line that has the same words with its carriage return is read alike. -/
theorem parse_withReturns_of_words_eq {line : Text} (hreturn : '\r' ∉ line)
    (hwords : shellWords? line.withReturns = shellWords? line) :
    ¬ReadsReturn line ∧ parse line.withReturns = parse line := by
  refine ⟨?_, by simp only [parse, hwords]⟩
  rintro ⟨front, last, hlast, hmem, -⟩
  have hword : last ∈ front ++ [last] := List.mem_append_right front (List.mem_singleton.mpr rfl)
  obtain hnil | hline := mem_of_shellWordsFrom (hwords.symm.trans hlast) hword hmem
  · contradiction
  · exact hreturn hline

/-- A line with its carriage return is read as the line, unless its command reads the carriage
return. -/
theorem parse_withReturns {line : Text} (hline : Text.AreTyped [line]) (hreturn : '\r' ∉ line) :
    (¬ReadsReturn line ∧ parse line.withReturns = parse line) ∨
      (ReadsReturn line ∧ ReadOtherwise (parse line) (parse line.withReturns)) := by
  cases hline with
  | last hne hfeed =>
    have hreturned := congrArg shellWords? (Text.withReturns_of_no_feed hfeed)
    exact .inl (parse_withReturns_of_words_eq hreturn hreturned)
  | @cons text _ hfeed hnil =>
    have hread := returnRead_shellWordsFrom .between [] text
    rw [← Text.withReturns_append_feed hfeed] at hread
    generalize hwords : shellWordsFrom .between [] (text ++ ['\n']) = words at hread
    generalize hreturned :
      shellWordsFrom .between [] (Text.withReturns (text ++ ['\n'])) = returned at hread
    cases hread with
    | unbalanced | comment =>
      exact .inl (parse_withReturns_of_words_eq hreturn (hreturned.trans hwords.symm))
    | word front former =>
      rw [parse_of_words hwords, parse_of_words hreturned]
      by_cases hfront : WantsWord front
      · have hreads : ReadsReturn (text ++ ['\n']) := ⟨front, _, hreturned, by simp, hfront⟩
        exact .inr ⟨hreads, readOtherwise_of_wantsWord hfront former⟩
      · refine .inl ⟨?_, ?_⟩
        · rintro ⟨front', last, hlast, -, hwants⟩
          obtain ⟨rfl, -⟩ := List.append_inj' (Option.some.inj (hreturned.symm.trans hlast)) rfl
          exact hfront hwants
        · rw [ofWords_append_of_not_wantsWord hfront, ofWords_append_of_not_wantsWord hfront]

end Command

/-- No line up to the first `quit` has a command that reads the carriage return of the line. -/
def IgnoreReturns (lines : List Text) : Prop :=
  ∀ front line rest, lines = front ++ line :: rest → NoneQuits front → ¬Command.ReadsReturn line

/-- Lines ignore their carriage returns if the first does and, if it is no `quit`, the others do. -/
theorem ignoreReturns_cons_iff {line : Text} {lines : List Text} :
    IgnoreReturns (line :: lines) ↔
      ¬Command.ReadsReturn line ∧ (Command.parse line ≠ .ok .quit → IgnoreReturns lines) := by
  constructor
  · intro hignore
    refine ⟨hignore [] line lines rfl (List.forall_mem_nil _), fun hquit => ?_⟩
    rintro front later rest rfl hfront
    exact hignore (line :: front) later rest rfl (List.forall_mem_cons.mpr ⟨hquit, hfront⟩)
  · rintro ⟨hfirst, hrest⟩ front later rest hlines hfront
    rcases List.cons_eq_append_iff.mp hlines with ⟨rfl, hsame⟩ | ⟨front, rfl, rfl⟩
    · rwa [(List.cons.inj hsame).1]
    · obtain ⟨hquit, hfront⟩ := List.forall_mem_cons.mp hfront
      exact hrest hquit front later rest rfl hfront

namespace Dialogue

variable {files : Files} {target : Target} {v : Viewer} {line : Text} {lines : List Text}

/-- A session that goes on after a reply writes the reply and what the rest writes. -/
theorem output_followedBy_singleton (reply : Text) (ending : Ending) (v : Viewer) (d : Dialogue) :
    (followedBy ⟨[reply], ending, v⟩ d).output [] =
      invitation :: (reply ++ invitation) :: (d.output []).tail := by
  simp [output, followedBy]

/-- What is written begins with an invitation. -/
theorem output_eq_cons (d : Dialogue) : d.output [] = invitation :: (d.output []).tail := rfl

/-- A first line with another reply makes another output. -/
theorem output_ofLines_cons_ne {returned reply : Text} {next : Viewer}
    (hreturned : v.reply? files target returned = some (reply, next))
    (hline : ∀ other, v.reply? files target line = some other → other.1 ≠ reply)
    (lines others : List Text) :
    (ofLines files target v (returned :: others)).output [] ≠
      (ofLines files target v (line :: lines)).output [] := by
  rw [ofLines_cons_of_reply? hreturned, output_followedBy_singleton]
  intro heq
  cases hreply : v.reply? files target line with
  | none =>
    rw [ofLines_cons_of_quit ((v.reply?_eq_none_iff files target line).mp hreply)] at heq
    exact List.cons_ne_nil _ _ (List.cons.inj heq).2
  | some answer =>
    rw [ofLines_cons_of_reply? hreply, output_followedBy_singleton] at heq
    have hreplies := (List.cons.inj (List.cons.inj heq).2).1
    exact hline answer hreply (List.append_cancel_right hreplies).symm

/-- Sessions over lines with and without carriage returns are the same if their outputs are, and
that is so exactly if no line that is reached has a command that reads its carriage return. -/
theorem ofLines_withReturns (hlines : Text.AreTyped lines) (hreturn : ∀ line ∈ lines, '\r' ∉ line)
    (files : Files) (target : Target) (v : Viewer) :
    (IgnoreReturns lines →
        ofLines files target v (lines.map Text.withReturns) = ofLines files target v lines) ∧
      ((ofLines files target v (lines.map Text.withReturns)).output [] =
        (ofLines files target v lines).output [] → IgnoreReturns lines) := by
  induction lines generalizing v with
  | nil => exact ⟨fun _ => rfl, fun _ => by rintro front line rest hlines; simp at hlines⟩
  | cons line lines ih =>
    obtain ⟨hline, hothers⟩ := List.forall_mem_cons.mp hreturn
    have hfirst := hlines.sublist (List.singleton_sublist.mpr List.mem_cons_self)
    have hrest := hlines.sublist (List.sublist_cons_self line lines)
    rw [ignoreReturns_cons_iff, List.map_cons]
    -- Either the first line is read alike and the lines behind it decide, or its reply is another
    -- one and so is the output, whatever stands behind it.
    rcases Command.parse_withReturns hfirst hline with ⟨hkept, hparse⟩ | ⟨hreads, hother⟩
    · have hreply : v.reply? files target line.withReturns = v.reply? files target line := by
        simp only [Viewer.reply?, Viewer.turnOfLine, hparse]
      cases hanswer : v.reply? files target line with
      | none =>
        have hquit := (v.reply?_eq_none_iff files target line).mp hanswer
        rw [ofLines_cons_of_quit hquit, ofLines_cons_of_quit (hparse.trans hquit)]
        exact ⟨fun _ => rfl, fun _ => ⟨hkept, absurd hquit⟩⟩
      | some answer =>
        have hquit : Command.parse line ≠ .ok .quit := by
          intro hquit
          rw [(v.reply?_eq_none_iff files target line).mpr hquit] at hanswer
          contradiction
        obtain ⟨hsame, hignore⟩ := ih hrest hothers answer.2
        rw [ofLines_cons_of_reply? hanswer, ofLines_cons_of_reply? (hreply.trans hanswer)]
        refine ⟨fun h => congrArg _ (hsame (h.2 hquit)), fun houtput => ⟨hkept, fun _ => ?_⟩⟩
        rw [output_followedBy_singleton, output_followedBy_singleton] at houtput
        refine hignore ?_
        rw [output_eq_cons, (List.cons.inj (List.cons.inj houtput).2).2, ← output_eq_cons]
    · obtain ⟨answer, hanswer, hne⟩ := Viewer.exists_reply?_of_readOtherwise hother v files target
      exact ⟨fun h => absurd hreads h.1,
        fun houtput => absurd houtput (output_ofLines_cons_ne hanswer hne _ _)⟩

end Dialogue

namespace Transcript

open Dialogue

/-- **Carriage returns make no difference exactly where no command reads them.** A script whose
lines end in a line feed alone and the script with a carriage return in front of every line feed
lead to the same session if no line up to the first `quit` has a command that reads the word with
the carriage return. If there is such a line, the two sessions do not write the same. -/
theorem ofInput_withReturns (files : Files) (target : Target) (v : Viewer) {script : Text}
    (hreturn : '\r' ∉ script) :
    let session := ofInput files target v script.toBytes
    let returned := ofInput files target v script.withReturns.toBytes
    (returned.output = session.output ↔ IgnoreReturns script.typedLines) ∧
      (returned.output = session.output → returned = session) := by
  intro session returned
  have htyped := Text.areTyped_typedLines script
  have hsession : session = (ofLines files target v script.typedLines).transcript [] :=
    ofInput_toBytes files target v script
  have hreturned :
      returned = (ofLines files target v (script.typedLines.map Text.withReturns)).transcript [] := by
    rw [← Text.typedLines_withReturns]
    exact ofInput_toBytes files target v script.withReturns
  have hlines : ∀ line ∈ script.typedLines, '\r' ∉ line := by
    intro line hline hmem
    rw [← Text.flatten_typedLines script] at hreturn
    exact hreturn (List.mem_flatten.mpr ⟨line, hline, hmem⟩)
  obtain ⟨hsame, hignore⟩ := ofLines_withReturns htyped hlines files target v
  rw [hsession, hreturned]
  exact ⟨⟨hignore, fun h => congrArg (Dialogue.output []) (hsame h)⟩,
    fun houtput => congrArg (Dialogue.transcript []) (hsame (hignore houtput))⟩

/-- A carriage return in a comment or behind `quit` is not read. One behind the name of a command
is. -/
theorem ofInput_withReturns_comment :
    let files : Files := fun _ => .error .missing
    let target := Style.plain.target {}
    let script : Text := "words 1 # of the pane\n\tquit now\nhelp\n".toList
    let other : Text := "help\n".toList
    '\r' ∉ script ∧ '\r' ∉ other ∧
      ofInput files target {} script.withReturns.toBytes = ofInput files target {} script.toBytes ∧
      IgnoreReturns script.typedLines ∧ ¬IgnoreReturns other.typedLines := by
  intro files target script other
  have hscript : '\r' ∉ script := by decide
  have hother : '\r' ∉ other := by decide
  have houtput : (ofInput files target {} script.withReturns.toBytes).output =
      (ofInput files target {} script.toBytes).output := by
    rw [ofInput_toBytes, ofInput_toBytes]
    decide +kernel
  have hdiffers : (ofInput files target {} other.withReturns.toBytes).output ≠
      (ofInput files target {} other.toBytes).output := by
    rw [ofInput_toBytes, ofInput_toBytes]
    decide +kernel
  obtain ⟨hignore, hsame⟩ := ofInput_withReturns files target {} hscript
  have hreads := (ofInput_withReturns files target {} hother).1
  exact ⟨hscript, hother, hsame houtput, hignore.mp houtput, fun h => hdiffers (hreads.mpr h)⟩

/-- A file that is loaded by a line with a line feed is not found by the line with a carriage
return. -/
theorem ofInput_withReturns_load :
    let files : Files := fun path => if path = ['a'] then .ok [120] else .error .missing
    let target := Style.plain.target {}
    let script : Text := "load a\n".toList
    let session := ofInput files target {} script.toBytes
    let returned := ofInput files target {} script.withReturns.toBytes
    '\r' ∉ script ∧ script.withReturns = "load a\r\n".toList ∧
      session.output.flatten =
        "> loaded a: 1 source lines, 0 annotated lines\n> \n".toList ∧
      returned.output.flatten =
        "> error: failed to read a\r: No such file or directory (os error 2)\n> \n".toList ∧
      returned.output.flatten ≠ session.output.flatten ∧
      session.viewer.isLoaded = true ∧ returned.viewer.isLoaded = false := by
  intro files target script session returned
  have hsession : session = (ofLines files target {} script.typedLines).transcript [] :=
    ofInput_toBytes files target {} script
  have hreturned :
      returned = (ofLines files target {} script.withReturns.typedLines).transcript [] :=
    ofInput_toBytes files target {} script.withReturns
  rw [hsession, hreturned]
  decide +kernel

end Transcript

end SpanViewer
