import SpanViewer.Proofs.Stream.Script
import SpanViewer.Proofs.Viewer.Run

/-!
# Sessions over a script

A session over a text goes through its lines up to the first `quit`. What it does with some lines
depends on the lines before them through the viewer alone, so a line that fails, which leaves the
viewer as it was, has no effect but its own reply.
-/

namespace SpanViewer

namespace Command

/-- The line of the derived form that a command is about, numbered from 1. -/
def line? : Command → Option Nat
  | words line => some line
  | hover line _ => some line
  | _ => none

/-- A line number that is read is not 0. -/
theorem pos_of_lineNumber {command : Text} {argument : Option Text} {line : Nat}
    (hread : lineNumber command argument = .ok line) : 0 < line := by
  obtain ⟨number, -, hnumber⟩ := exists_of_bind_eq_ok hread
  split at hnumber
  · contradiction
  · next hne =>
    obtain rfl := Except.ok.inj hnumber
    exact Nat.pos_of_ne_zero hne

/-- A command with a line number is one of two, and reads the number from its first argument. -/
theorem exists_lineNumber_of_ofName {name : Text} {arguments : List Text} {command : Command}
    {line : Nat} (hname : ofName name arguments = .ok command) (hline : command.line? = some line) :
    ∃ reader argument, lineNumber reader argument = .ok line := by
  have hother {other : Command} (hnone : other.line? = none)
      (hok : (.ok other : Except Fault Command) = .ok command) :
      ∃ reader argument, lineNumber reader argument = .ok line := by
    rw [← Except.ok.inj hok, hnone] at hline
    contradiction
  unfold ofName at hname
  split at hname
  · split at hname
    · contradiction
    · exact hother rfl hname
  split at hname
  · exact hother rfl hname
  split at hname
  · exact hother rfl hname
  split at hname
  · obtain ⟨number, hread, hcommand⟩ := exists_of_bind_eq_ok hname
    obtain rfl := Except.ok.inj hcommand
    obtain rfl := Option.some.inj hline
    exact ⟨_, _, hread⟩
  split at hname
  · obtain ⟨number, hread, hindex⟩ := exists_of_bind_eq_ok hname
    obtain ⟨index, -, hcommand⟩ := exists_of_bind_eq_ok hindex
    obtain rfl := Except.ok.inj hcommand
    obtain rfl := Option.some.inj hline
    exact ⟨_, _, hread⟩
  split at hname
  · exact hother rfl hname
  split at hname
  · exact hother rfl hname
  split at hname
  · exact hother rfl hname
  · contradiction

/-- No command is about a line 0. -/
theorem pos_of_parse {typed : Text} {command : Command} {line : Nat}
    (hparse : parse typed = .ok command) (hline : command.line? = some line) : 0 < line := by
  unfold parse at hparse
  split at hparse
  · contradiction
  · obtain rfl := Except.ok.inj hparse
    contradiction
  · obtain ⟨reader, argument, hread⟩ := exists_lineNumber_of_ofName hparse hline
    exact pos_of_lineNumber hread

end Command

namespace Viewer

variable {v : Viewer} {files : Files} {target : Target} {line : Text}

/-- Carries out a typed line: the reply, and the viewer after it. -/
def carryOut (v : Viewer) (files : Files) (target : Target) (line : Text) :
    Except Fault (Text × Viewer) := do
  let command ← Command.parse line
  v.attempt files target command

/-- A line that fails is replied to with its fault and changes nothing. -/
theorem reply?_of_carryOut_error {fault : Fault}
    (hfail : v.carryOut files target line = .error fault) :
    v.reply? files target line = some (fault.reply, v) := by
  cases hparse : Command.parse line with
  | error cause =>
    rw [carryOut, hparse] at hfail
    obtain rfl := Except.error.inj hfail
    exact reply?_of_parse_error hparse v files target
  | ok command =>
    have hattempt : v.attempt files target command = .error fault := by
      rw [carryOut, hparse] at hfail
      exact hfail
    have hquit : command ≠ .quit := by
      rintro rfl
      rw [attempt_quit] at hattempt
      contradiction
    rw [reply?_of_parse hparse hquit, hattempt]

end Viewer

/-- None of the lines is `quit`. -/
def NoneQuits (lines : List Text) : Prop :=
  ∀ line ∈ lines, Command.parse line ≠ .ok .quit

/-- The replies of a session, without the prompts between them. -/
structure Dialogue where
  /-- The replies. -/
  replies : List Text
  /-- How the session ends. -/
  ending : Ending
  /-- The viewer at the end. -/
  viewer : Viewer

namespace Dialogue

/-- What is written, if some text is not shown before the first prompt: each reply stands in front
of the next prompt, and a line feed behind the last one at the end of the input. -/
def output (pending : Text) (d : Dialogue) : List Text :=
  (pending :: d.replies).map (· ++ invitation) ++
    match d.ending with
    | .endOfInput => [['\n']]
    | _ => []

/-- The session with these replies. -/
def transcript (pending : Text) (d : Dialogue) : Transcript :=
  ⟨d.replies, d.output pending, d.ending, d.viewer⟩

variable {files : Files} {target : Target} {v : Viewer} {line : Text} {lines front rest : List Text}

/-- The replies to lines of text. -/
def ofLines (files : Files) (target : Target) (v : Viewer) : List Text → Dialogue
  | [] => ⟨[], .endOfInput, v⟩
  | line :: lines =>
    match v.reply? files target line with
    | none => ⟨[], .quit, v⟩
    | some (reply, next) =>
      let later := ofLines files target next lines
      { later with replies := reply :: later.replies }

/-- Replies that go on with others. -/
def followedBy (d next : Dialogue) : Dialogue :=
  { next with replies := d.replies ++ next.replies }

/-- A line with a reply is replied to, and the session goes on. -/
theorem ofLines_cons_of_reply? {reply : Text} {next : Viewer}
    (hreply : v.reply? files target line = some (reply, next)) (lines : List Text) :
    ofLines files target v (line :: lines) =
      followedBy ⟨[reply], .endOfInput, next⟩ (ofLines files target next lines) := by
  rw [ofLines, hreply]
  rfl

/-- At `quit` the session ends, whatever is typed behind it. -/
theorem ofLines_cons_of_quit (hquit : Command.parse line = .ok .quit) (files : Files)
    (target : Target) (v : Viewer) (lines : List Text) :
    ofLines files target v (line :: lines) = ⟨[], .quit, v⟩ := by
  rw [ofLines, (v.reply?_eq_none_iff files target line).mpr hquit]

/-- Without a `quit` each line has its reply, and the session ends with the lines. -/
theorem ofLines_of_noneQuits (hlines : NoneQuits lines) (files : Files) (target : Target)
    (v : Viewer) :
    (ofLines files target v lines).ending = .endOfInput ∧
      (ofLines files target v lines).replies.length = lines.length := by
  induction lines generalizing v with
  | nil => exact ⟨rfl, rfl⟩
  | cons line lines ih =>
    obtain ⟨hline, hrest⟩ := List.forall_mem_cons.mp hlines
    cases hreply : v.reply? files target line with
    | none => exact absurd ((v.reply?_eq_none_iff files target line).mp hreply) hline
    | some answer =>
      obtain ⟨hending, hlength⟩ := ih hrest answer.2
      rw [ofLines_cons_of_reply? hreply]
      exact ⟨hending, congrArg (· + 1) hlength⟩

/-- Lines without a `quit` are followed by what is typed behind them. -/
theorem ofLines_append (hfront : NoneQuits front) (files : Files) (target : Target) (v : Viewer)
    (rest : List Text) :
    ofLines files target v (front ++ rest) =
      (ofLines files target v front).followedBy
        (ofLines files target (ofLines files target v front).viewer rest) := by
  induction front generalizing v with
  | nil => rfl
  | cons line front ih =>
    obtain ⟨hline, hfront⟩ := List.forall_mem_cons.mp hfront
    cases hreply : v.reply? files target line with
    | none => exact absurd ((v.reply?_eq_none_iff files target line).mp hreply) hline
    | some answer =>
      rw [List.cons_append, ofLines_cons_of_reply? hreply, ofLines_cons_of_reply? hreply, ih hfront]
      rfl

/-- Up to the first `quit` each line has its reply, and there the session ends. -/
theorem ofLines_append_of_quit (hfront : NoneQuits front)
    (hquit : Command.parse line = .ok .quit) (files : Files) (target : Target) (v : Viewer)
    (rest : List Text) :
    ofLines files target v (front ++ line :: rest) =
      { ofLines files target v front with ending := .quit } := by
  rw [ofLines_append hfront, ofLines_cons_of_quit hquit, followedBy, List.append_nil]

/-- The lines have a first `quit`, or none. -/
theorem noneQuits_or_exists_quit (lines : List Text) :
    NoneQuits lines ∨ ∃ front last rest, lines = front ++ last :: rest ∧ NoneQuits front ∧
      Command.parse last = .ok .quit := by
  induction lines with
  | nil => exact Or.inl (List.forall_mem_nil _)
  | cons line lines ih =>
    by_cases hquit : Command.parse line = .ok .quit
    · exact Or.inr ⟨[], line, lines, rfl, List.forall_mem_nil _, hquit⟩
    · obtain hnone | ⟨front, last, rest, rfl, hfront, hlast⟩ := ih
      · exact Or.inl (List.forall_mem_cons.mpr ⟨hquit, hnone⟩)
      · exact Or.inr ⟨line :: front, last, rest, rfl, List.forall_mem_cons.mpr ⟨hquit, hfront⟩,
          hlast⟩

/-- The whole output: each reply has an invitation in front, and there is one more behind the
last. -/
theorem flatten_output (d : Dialogue) :
    (d.output []).flatten =
      d.replies.flatMap (invitation ++ ·) ++ invitation ++
        (if d.ending = .endOfInput then ['\n'] else []) := by
  have hreplies (replies : List Text) :
      (invitation :: replies.map (· ++ invitation)).flatten =
        replies.flatMap (invitation ++ ·) ++ invitation := by
    induction replies with
    | nil => simp
    | cons reply replies ih => simp_all
  rw [output, List.flatten_append, List.map_cons, List.nil_append, hreplies]
  cases d.ending <;> simp

/-- A line that fails is written one reply of its own, and the lines around it are replied to as if
it were not there. -/
theorem output_ofLines_of_error {fault : Fault} (hfront : NoneQuits front)
    (hfail : (ofLines files target v front).viewer.carryOut files target line = .error fault) :
    ∃ above below, above.length = front.length + 1 ∧
      (ofLines files target v (front ++ line :: rest)).output [] =
        above ++ (fault.reply ++ invitation) :: below ∧
      (ofLines files target v (front ++ rest)).output [] = above ++ below ∧
      (ofLines files target v (front ++ line :: rest)).ending =
        (ofLines files target v (front ++ rest)).ending ∧
      (ofLines files target v (front ++ line :: rest)).viewer =
        (ofLines files target v (front ++ rest)).viewer := by
  have hlength := (ofLines_of_noneQuits hfront files target v).2
  rw [ofLines_append hfront, ofLines_append hfront,
    ofLines_cons_of_reply? (Viewer.reply?_of_carryOut_error hfail)]
  generalize ofLines files target v front = before at hlength ⊢
  generalize ofLines files target before.viewer rest = behind
  refine ⟨([] :: before.replies).map (· ++ invitation),
    (behind.output []).tail, by simp [hlength], ?_, ?_, rfl, rfl⟩
  · simp [output, followedBy]
  · simp [output, followedBy]

end Dialogue

namespace Transcript

open Dialogue

variable {lines : List Text}

/-- A session over an input of text writes a prompt behind each reply to its lines. -/
theorem onward_flatten (hlines : Text.AreTyped lines) (files : Files) (target : Target)
    (pending : Text) (v : Viewer) :
    onward files target pending v (Text.toBytes lines.flatten) =
      (Dialogue.ofLines files target v lines).transcript pending := by
  induction lines generalizing pending v with
  | nil =>
    have hline : nextLine? (Text.toBytes [].flatten) = none := rfl
    rw [onward_of_none hline]
    rfl
  | cons line lines ih =>
    have hrest : Text.AreTyped lines := hlines.sublist (List.sublist_cons_self line lines)
    rw [onward_of_some (nextLine?_flatten hlines), Text.ofBytes?_toBytes, ofLines]
    cases hreply : v.reply? files target line with
    | none =>
      simp only [hreply]
      rfl
    | some answer =>
      simp only [hreply, ih hrest]
      rfl

/-- A session over an input of text goes through its lines. -/
theorem ofInput_flatten (hlines : Text.AreTyped lines) (files : Files) (target : Target)
    (v : Viewer) :
    ofInput files target v (Text.toBytes lines.flatten) =
      (Dialogue.ofLines files target v lines).transcript [] :=
  onward_flatten hlines files target [] v

/-- A session over a text goes through its lines. -/
theorem ofInput_toBytes (files : Files) (target : Target) (v : Viewer) (text : Text) :
    ofInput files target v text.toBytes =
      (Dialogue.ofLines files target v text.typedLines).transcript [] := by
  rw [← ofInput_flatten (Text.areTyped_typedLines text), Text.flatten_typedLines]

/-- A session over a script of text ends without a fault. It writes an invitation for each line that
is read and one at the end of the input; it ends at the first `quit`, as if nothing were typed behind
it, or else with the input, and only then with a line feed. No command that is read is about a line
0. A line that fails has its reply and no other effect: without it, all that is written for the other
lines and the viewer at the end are the same. -/
theorem ofInput_script (files : Files) (target : Target) (v : Viewer) (script : Text) :
    let session := ofInput files target v script.toBytes
    let prompt : Text := "> ".toList
    let replies := session.replies.flatMap (prompt ++ ·)
    ((NoneQuits script.typedLines ∧ session.ending = .endOfInput ∧
        session.replies.length = script.typedLines.length ∧
        session.output.flatten = replies ++ prompt ++ ['\n']) ∨
      ∃ front last rest, script.typedLines = front ++ last :: rest ∧ NoneQuits front ∧
        Command.parse last = .ok .quit ∧ session.ending = .quit ∧
        session.replies.length = front.length ∧
        session.output.flatten = replies ++ prompt ∧
        session = ofInput files target v (Text.toBytes (front ++ [last]).flatten)) ∧
    (∀ typed ∈ script.typedLines, ∀ command line, Command.parse typed = .ok command →
      command.line? = some line → 0 < line) ∧
    ∀ front line rest fault, script.typedLines = front ++ line :: rest → NoneQuits front →
      (ofInput files target v (Text.toBytes front.flatten)).viewer.carryOut files target line =
        .error fault →
      let shorter := ofInput files target v (Text.toBytes (front ++ rest).flatten)
      ∃ above below, above.length = front.length + 1 ∧
        session.output =
          above ++ ("error: ".toList ++ fault.message ++ ['\n'] ++ prompt) :: below ∧
        shorter.output = above ++ below ∧ session.ending = shorter.ending ∧
        session.viewer = shorter.viewer := by
  intro session prompt replies
  have htyped := Text.areTyped_typedLines script
  have hsession : session = (ofLines files target v script.typedLines).transcript [] :=
    ofInput_toBytes files target v script
  refine ⟨?_, fun typed _ command line => Command.pos_of_parse, ?_⟩
  · obtain hnone | ⟨front, last, rest, hlines, hfront, hlast⟩ :=
      noneQuits_or_exists_quit script.typedLines
    · obtain ⟨hending, hlength⟩ := ofLines_of_noneQuits hnone files target v
      have hwritten := flatten_output (ofLines files target v script.typedLines)
      rw [if_pos hending] at hwritten
      refine Or.inl ⟨hnone, ?_⟩
      simp only [replies, hsession]
      exact ⟨hending, hlength, hwritten⟩
    · have hcut : (front ++ [last]).Sublist script.typedLines := by
        rw [hlines]
        exact (List.singleton_sublist.mpr List.mem_cons_self).append_left front
      have hquit := ofLines_append_of_quit hfront hlast files target v
      have hlength := (ofLines_of_noneQuits hfront files target v).2
      have hwritten := flatten_output { ofLines files target v front with ending := .quit }
      rw [if_neg nofun, List.append_nil] at hwritten
      rw [hlines, hquit] at hsession
      refine Or.inr ⟨front, last, rest, hlines, hfront, hlast, ?_⟩
      simp only [replies, hsession, ofInput_flatten (htyped.sublist hcut), hquit]
      exact ⟨rfl, hlength, hwritten, trivial⟩
  · intro front line rest fault hlines hfront hfail shorter
    have hbefore : front.Sublist script.typedLines := by
      rw [hlines]
      exact List.sublist_append_left front _
    have hothers : (front ++ rest).Sublist script.typedLines := by
      rw [hlines]
      exact (List.sublist_cons_self line rest).append_left front
    have hshorter : shorter = (ofLines files target v (front ++ rest)).transcript [] :=
      ofInput_flatten (htyped.sublist hothers) files target v
    rw [ofInput_flatten (htyped.sublist hbefore)] at hfail
    rw [hsession, hlines, hshorter]
    exact output_ofLines_of_error hfront hfail

/-- Lines are numbered from 1, and a line 0 that is asked for is reported and passed over. -/
theorem ofInput_script_zero :
    let files : Files := fun _ => .error .missing
    let target := Style.plain.target {}
    let script : Text := "words 1\nwords 0\nquit\nhelp".toList
    let fault : Fault := .badArguments "words".toList "lines are numbered from 1".toList
    let session := ofInput files target {} script.toBytes
    let shorter := ofInput files target {} (Text.toBytes "words 1\nquit\nhelp".toList)
    (∃ typed ∈ script.typedLines, Command.parse typed = .ok (.words 1) ∧ 0 < 1) ∧
    script.typedLines =
      ["words 1\n".toList] ++ "words 0\n".toList :: ["quit\n".toList, "help".toList] ∧
    NoneQuits ["words 1\n".toList] ∧
    (ofInput files target {} (Text.toBytes "words 1\n".toList)).viewer.carryOut files target
      "words 0\n".toList = .error fault ∧
    session.output =
      ["> ".toList, "error: no document loaded\n> ".toList,
        "error: bad arguments for `words`: lines are numbered from 1\n> ".toList] ∧
    ∃ above below, above.length = 2 ∧
      session.output =
        above ++ ("error: ".toList ++ fault.message ++ ['\n'] ++ "> ".toList) :: below ∧
      shorter.output = above ++ below ∧ session.ending = shorter.ending ∧
      session.viewer = shorter.viewer := by
  intro files target script fault session shorter
  have hlines : script.typedLines =
      ["words 1\n".toList] ++ "words 0\n".toList :: ["quit\n".toList, "help".toList] := by decide
  have hparse : Command.parse "words 1\n".toList = .ok (.words 1) := by decide
  have hfront : NoneQuits ["words 1\n".toList] :=
    List.forall_mem_singleton.mpr (by rw [hparse]; nofun)
  have hfail (v : Viewer) : v.carryOut files target "words 0\n".toList = .error fault := by
    have hzero : Command.parse "words 0\n".toList = .error fault := by decide
    rw [Viewer.carryOut, hzero]
    rfl
  have houtput : session.output =
      ["> ".toList, "error: no document loaded\n> ".toList,
        "error: bad arguments for `words`: lines are numbered from 1\n> ".toList] := by
    have hsession : session = (ofLines files target {} script.typedLines).transcript [] :=
      ofInput_toBytes files target {} script
    rw [hsession]
    decide +kernel
  obtain ⟨-, hpositive, hdelete⟩ := ofInput_script files target {} script
  have hmem : "words 1\n".toList ∈ script.typedLines := by
    rw [hlines]
    exact List.mem_cons_self
  exact ⟨⟨_, hmem, hparse, hpositive _ hmem _ 1 hparse rfl⟩, hlines, hfront, hfail _, houtput,
    hdelete _ _ _ _ hlines hfront (hfail _)⟩

end Transcript

end SpanViewer
