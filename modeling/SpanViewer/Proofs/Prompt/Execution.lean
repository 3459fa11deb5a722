import SpanViewer.Prompt.Session
import SpanViewer.Proofs.Hover.Range
import SpanViewer.Proofs.Outcome
import SpanViewer.Proofs.Stream.Line

/-!
# What a command leaves behind

A command writes and may change the viewer, and what it did before it fails is not undone. But no
command does anything before it fails, so one that fails leaves everything as it was. Hence a typed
line has a reply and a viewer behind it, unless it ends the session, and no line breaks it off. A
turn takes one line and reads one file at most.
-/

namespace SpanViewer

namespace Steps

variable {α β : Type} (console : Console)

@[simp] theorem on_pure (a : α) : on (pure a) console = (.ok a, console) := rfl

@[simp] theorem on_throw (fault : Fault) :
    on (throw fault : Steps α) console = (.error fault, console) := rfl

@[simp] theorem on_lift (result : Except Fault α) :
    on (liftM result) console = (result, console) := rfl

@[simp] theorem on_viewer : on viewer console = (.ok console.viewer, console) := rfl

@[simp] theorem on_setViewer (v : Viewer) :
    on (setViewer v) console = (.ok (), { console with viewer := v }) := rfl

@[simp] theorem on_write (text : Text) :
    on (write text) console = (.ok (), { console with written := console.written ++ text }) := rfl

/-- Steps are taken one behind the other, up to one that fails. -/
@[simp] theorem on_bind (steps : Steps α) (next : α → Steps β) :
    on (steps >>= next) console =
      match on steps console with
      | (.ok a, left) => on (next a) left
      | (.error fault, left) => (.error fault, left) := by
  have hrun : on (steps >>= next) console =
      ExceptT.bindCont next (on steps console).1 (on steps console).2 := rfl
  rw [hrun]
  obtain ⟨result, left⟩ := on steps console
  cases result <;> rfl

/-- What steps leave behind does not depend on what is made of their result. -/
@[simp] theorem on_map (f : α → β) (steps : Steps α) :
    on (f <$> steps) console = ((on steps console).1.map f, (on steps console).2) := by
  have hmap : f <$> steps = steps >>= fun a => pure (f a) := by simp
  rw [hmap, on_bind]
  obtain ⟨result, left⟩ := on steps console
  cases result <;> rfl

@[simp] theorem on_document :
    on document console = (console.viewer.requireDocument, console) := by
  simp [document]

end Steps

variable {v : Viewer} {files : Files} {target : Target} {fault : Fault}

namespace Viewer

/-- The document on display is there for a command. -/
theorem requireDocument_of_display {display : Display} (hdisplay : v.display = some display) :
    v.requireDocument = .ok display.document := by
  rw [requireDocument, hdisplay]

/-- Carries out a command on a clean console: what it writes and the viewer behind it, unless it
fails. -/
def attempt (v : Viewer) (files : Files) (target : Target) (command : Command) :
    Except Fault (Text × Viewer) :=
  let (result, left) := (command.execute files target).on { viewer := v }
  result.map fun _ => (left.written, left.viewer)

theorem attempt_clear : v.attempt files target .clear = .ok ("cleared\n".toList, v.clear) := rfl

theorem attempt_quit : v.attempt files target .quit = .ok ([], v) := rfl

/-- A command to load loads the file it names. -/
theorem attempt_load (v : Viewer) (files : Files) (target : Target) (path : Text) :
    v.attempt files target (.load path) =
      (v.loadFile files path).map fun loaded => (loadedReply path loaded, loaded) := by
  cases hload : v.loadFile files path <;> simp [attempt, Command.execute, hload, Except.map]

/-- The source of the document on display is shown without its carriage returns. -/
theorem attempt_source (v : Viewer) (files : Files) (target : Target) :
    v.attempt files target .source =
      v.requireDocument.map fun document =>
        (.numberedLines (document.source.map (·.dropEndWhile (· = '\r'))), v) := by
  cases hdocument : v.requireDocument <;> simp [attempt, Command.execute, hdocument, Except.map]

/-- The derived form of the document on display is shown. -/
theorem attempt_derived (v : Viewer) (files : Files) (target : Target) :
    v.attempt files target .derived =
      v.requireDocument.map fun document =>
        (.numberedLines (document.derived.map target.line), v) := by
  cases hdocument : v.requireDocument <;> simp [attempt, Command.execute, hdocument, Except.map]

/-- The words of a line of the document on display are listed. -/
theorem attempt_words (v : Viewer) (files : Files) (target : Target) (line : Nat) :
    v.attempt files target (.words line) =
      v.requireDocument.bind fun document =>
        match document.derived[line - 1]? with
        | none => .error (.lineOutOfRange line document.derived.length)
        | some words => .ok (listWords v.settings.indentMarker words, v) := by
  cases hdocument : v.requireDocument with
  | error fault => simp [attempt, Command.execute, hdocument, Except.map, Except.bind]
  | ok document =>
    cases hwords : document.derived[line - 1]? <;>
      simp [attempt, Command.execute, hdocument, hwords, Except.map, Except.bind]

/-- A word of the document on display is pointed at. -/
theorem attempt_hover (v : Viewer) (files : Files) (target : Target) (line index : Nat) :
    v.attempt files target (.hover line index) =
      v.requireDocument.bind fun document =>
        if document.derived.length < line then
          .error (.lineOutOfRange line document.derived.length)
        else
          (v.hover (line - 1) index).map fun h => (h.report target line, v) := by
  cases hdocument : v.requireDocument with
  | error fault => simp [attempt, Command.execute, hdocument, Except.map, Except.bind]
  | ok document =>
    by_cases hline : document.derived.length < line
    · simp [attempt, Command.execute, hdocument, hline, Except.map, Except.bind]
    · cases hhover : v.hover (line - 1) index <;>
        simp [attempt, Command.execute, hdocument, hline, hhover, Except.map, Except.bind]

end Viewer

namespace Command

/-- **A command writes all that it comes to, or nothing.** If it fails, it leaves everything as it
was, whatever was written before. Only `quit` ends the session. -/
theorem on_execute (command : Command) (files : Files) (target : Target) (console : Console) :
    (command.execute files target).on console =
      match console.viewer.attempt files target command with
      | .ok (reply, next) => (.ok (decide (command ≠ .quit)), ⟨console.written ++ reply, next⟩)
      | .error fault => (.error fault, console) := by
  obtain ⟨written, v⟩ := console
  cases command with
  | empty | quit | clear | help => simp [execute, Viewer.attempt, Except.map]
  | load path =>
    cases hload : v.loadFile files path <;> simp [execute, Viewer.attempt, hload, Except.map]
  | source | derived =>
    cases hdocument : v.requireDocument <;>
      simp [execute, Viewer.attempt, hdocument, Except.map]
  | words line =>
    cases hdocument : v.requireDocument with
    | error fault => simp [execute, Viewer.attempt, hdocument, Except.map]
    | ok document =>
      cases hwords : document.derived[line - 1]? <;>
        simp [execute, Viewer.attempt, hdocument, hwords, Except.map]
  | hover line index =>
    cases hdocument : v.requireDocument with
    | error fault => simp [execute, Viewer.attempt, hdocument, Except.map]
    | ok document =>
      by_cases hline : document.derived.length < line
      · simp [execute, Viewer.attempt, hdocument, hline, Except.map]
      · cases hhover : v.hover (line - 1) index <;>
          simp [execute, Viewer.attempt, hdocument, hline, hhover, Except.map]

end Command

/-- The faults that a command fails with. -/
inductive Fault.OfCommand : Fault → Prop
  /-- A file cannot be loaded. -/
  | unreadable (path : Text) (cause : FileError) : OfCommand (.unreadable path cause)
  /-- Nothing is loaded. -/
  | noDocument : OfCommand .noDocument
  /-- There is no such line. -/
  | line (line count : Nat) : OfCommand (.lineOutOfRange line count)
  /-- There is no such word. -/
  | word (line index count : Nat) : OfCommand (.wordOutOfRange line index count)

namespace Viewer

/-- A file that cannot be loaded is reported by its name. -/
theorem exists_of_loadFile_eq_error {path : Text} (hload : v.loadFile files path = .error fault) :
    ∃ cause, fault = .unreadable path cause := by
  unfold loadFile at hload
  split at hload
  · contradiction
  · next cause _ => exact ⟨cause, (Except.error.inj hload).symm⟩

/-- Without a document on display a command that needs one fails. -/
theorem eq_noDocument_of_requireDocument (hdocument : v.requireDocument = .error fault) :
    fault = .noDocument := by
  unfold requireDocument at hdocument
  split at hdocument
  · exact (Except.error.inj hdocument).symm
  · contradiction

/-- A word is not shown if nothing is loaded or it is not there. -/
theorem ofCommand_of_hover {line index : Nat} (hhover : v.hover line index = .error fault) :
    fault.OfCommand := by
  unfold hover at hhover
  split at hhover
  · obtain rfl := Except.error.inj hhover
    exact .noDocument
  · cases Document.hover_eq_error_iff.mp hhover with
    | line => exact .line _ _
    | word => exact .word _ _ _

/-- A command fails because of a file, a line or a word, or because nothing is loaded. -/
theorem ofCommand_of_attempt {command : Command}
    (hattempt : v.attempt files target command = .error fault) : fault.OfCommand := by
  have hneeds (hdocument : v.requireDocument = .error fault) : fault.OfCommand := by
    rw [eq_noDocument_of_requireDocument hdocument]
    exact .noDocument
  cases command with
  | empty | clear | help | quit => contradiction
  | load path =>
    rw [attempt_load] at hattempt
    obtain ⟨cause, rfl⟩ := exists_of_loadFile_eq_error (eq_error_of_map_eq_error hattempt)
    exact .unreadable path cause
  | source =>
    rw [attempt_source] at hattempt
    exact hneeds (eq_error_of_map_eq_error hattempt)
  | derived =>
    rw [attempt_derived] at hattempt
    exact hneeds (eq_error_of_map_eq_error hattempt)
  | words line =>
    rw [attempt_words] at hattempt
    rcases of_bind_eq_error hattempt with hdocument | ⟨document, -, hanswer⟩
    · exact hneeds hdocument
    · split at hanswer
      · obtain rfl := Except.error.inj hanswer
        exact .line _ _
      · contradiction
  | hover line index =>
    rw [attempt_hover] at hattempt
    rcases of_bind_eq_error hattempt with hdocument | ⟨document, -, hanswer⟩
    · exact hneeds hdocument
    · split at hanswer
      · obtain rfl := Except.error.inj hanswer
        exact .line _ _
      · exact ofCommand_of_hover (eq_error_of_map_eq_error hanswer)

/-- A command reads no file but the one that it names. -/
theorem attempt_congr {command : Command} {others : Files}
    (hpath : ∀ path, command.path? = some path → files path = others path) (v : Viewer)
    (target : Target) : v.attempt files target command = v.attempt others target command := by
  cases command with
  | load path =>
    have hread : files.readText path = others.readText path := by
      rw [Files.readText, Files.readText, hpath path rfl]
    rw [attempt_load, attempt_load, loadFile, loadFile, hread]
  | _ => rfl

/-- The reply to a typed line and the viewer behind it; nothing for a line that ends the
session. -/
def reply? (v : Viewer) (files : Files) (target : Target) (line : Text) : Option (Text × Viewer) :=
  match v.turnOfLine files target line [] with
  | .reply reply next _ => some (reply, next)
  | .stop _ _ _ => none

/-- A line that cannot be read is reported. -/
theorem turnOfLine_of_parse_error {line : Text} (hline : Command.parse line = .error fault)
    (v : Viewer) (files : Files) (target : Target) (rest : Bytes) :
    v.turnOfLine files target line rest = .reply fault.reply v rest := by
  rw [turnOfLine, hline]

/-- At `quit` the session ends. -/
theorem turnOfLine_of_quit {line : Text} (hline : Command.parse line = .ok .quit)
    (v : Viewer) (files : Files) (target : Target) (rest : Bytes) :
    v.turnOfLine files target line rest = .stop [] .quit v := by
  rw [turnOfLine, hline]
  rfl

/-- A line with any other command is replied to. A command that fails is reported, and it has done
nothing else. -/
theorem turnOfLine_of_parse {line : Text} {command : Command}
    (hline : Command.parse line = .ok command) (hquit : command ≠ .quit) (v : Viewer)
    (files : Files) (target : Target) (rest : Bytes) :
    v.turnOfLine files target line rest =
      match v.attempt files target command with
      | .ok (reply, next) => .reply reply next rest
      | .error fault => .reply fault.reply v rest := by
  rw [turnOfLine, hline]
  simp only [Command.on_execute]
  cases hattempt : v.attempt files target command with
  | ok answer => simp [hquit]
  | error fault => cases ofCommand_of_attempt hattempt <;> rfl

/-- A typed line is replied to, or it ends the session as `quit` does. No line breaks it off. -/
theorem turnOfLine_eq (v : Viewer) (files : Files) (target : Target) (line : Text)
    (rest : Bytes) :
    v.turnOfLine files target line rest =
      match v.reply? files target line with
      | some (reply, next) => .reply reply next rest
      | none => .stop [] .quit v := by
  rw [reply?]
  cases hline : Command.parse line with
  | error fault => simp only [turnOfLine_of_parse_error hline]
  | ok command =>
    by_cases hquit : command = .quit
    · subst hquit
      simp only [turnOfLine_of_quit hline]
    · simp only [turnOfLine_of_parse hline hquit]
      cases v.attempt files target command <;> rfl

/-- A line that cannot be read is replied to with its fault. -/
theorem reply?_of_parse_error {line : Text} (hline : Command.parse line = .error fault)
    (v : Viewer) (files : Files) (target : Target) :
    v.reply? files target line = some (fault.reply, v) := by
  rw [reply?, turnOfLine_of_parse_error hline]

/-- The reply to a line with a command. -/
theorem reply?_of_parse {line : Text} {command : Command} (hline : Command.parse line = .ok command)
    (hquit : command ≠ .quit) (v : Viewer) (files : Files) (target : Target) :
    v.reply? files target line =
      some (match v.attempt files target command with
        | .ok answer => answer
        | .error fault => (fault.reply, v)) := by
  rw [reply?, turnOfLine_of_parse hline hquit]
  cases v.attempt files target command <;> rfl

/-- Only `quit` has no reply. -/
theorem reply?_eq_none_iff (v : Viewer) (files : Files) (target : Target) (line : Text) :
    v.reply? files target line = none ↔ Command.parse line = .ok .quit := by
  cases hline : Command.parse line with
  | error fault => simp [reply?_of_parse_error hline]
  | ok command =>
    by_cases hquit : command = .quit
    · simp [reply?, turnOfLine_of_quit, hline, hquit]
    · simp [reply?_of_parse hline hquit, hquit]

/-- A turn takes one line off the input, whatever stands behind that line. -/
theorem turn_of_nextLine? {input line rest : Bytes} (hline : nextLine? input = some (line, rest))
    (v : Viewer) (files : Files) (target : Target) :
    v.turn files target input =
      match v.turn files target line with
      | .reply reply next _ => .reply reply next rest
      | .stop written ending last => .stop written ending last := by
  rw [turn, turn, hline, nextLine?_of_nextLine? hline]
  cases htext : Text.ofBytes? line with
  | none => simp only [htext]
  | some text =>
    simp only [htext, turnOfLine_eq]
    cases v.reply? files target text <;> rfl

/-- A turn reads no file but the one that is typed. -/
theorem turn_congr {others : Files} {input : Bytes}
    (hpath : ∀ path, typedPath? input = some path → files path = others path) (v : Viewer)
    (target : Target) : v.turn files target input = v.turn others target input := by
  rw [turn, turn]
  cases hline : nextLine? input with
  | none => rfl
  | some typed =>
    obtain ⟨line, rest⟩ := typed
    cases htext : Text.ofBytes? line with
    | none => simp only [htext]
    | some text =>
      simp only [htext]
      cases hparse : Command.parse text with
      | error fault => rw [turnOfLine_of_parse_error hparse, turnOfLine_of_parse_error hparse]
      | ok command =>
        have htyped : typedPath? input = command.path? := by
          simp [typedPath?, hline, htext, hparse, Except.toOption]
        rw [htyped] at hpath
        by_cases hquit : command = .quit
        · subst hquit
          rw [turnOfLine_of_quit hparse, turnOfLine_of_quit hparse]
        · rw [turnOfLine_of_parse hparse hquit, turnOfLine_of_parse hparse hquit,
            attempt_congr hpath]

end Viewer

namespace Transcript

variable {input typed rest : Bytes} {reply : Text} {next : Viewer}

/-- The session goes on, behind what is shown up to a prompt and a reply. -/
def after (shown reply : Text) (session : Transcript) : Transcript :=
  { session with replies := reply :: session.replies, output := shown :: session.output }

/-- A session ends with the turn that ends it. -/
theorem onward_of_stop {v last : Viewer} {written : Text} {ending : Ending}
    (hturn : v.turn files target input = .stop written ending last) (pending : Text) :
    onward files target pending v input =
      ⟨[], (pending ++ invitation) :: if written = [] then [] else [written], ending, last⟩ := by
  rw [onward]
  split
  · next hstop =>
    obtain ⟨rfl, rfl, rfl⟩ := Turn.stop.inj (hstop.symm.trans hturn)
    split <;> rfl
  · next hreply =>
    rw [hturn] at hreply
    contradiction

/-- A session goes on behind any other turn. -/
theorem onward_of_reply {v : Viewer} (hturn : v.turn files target input = .reply reply next rest)
    (pending : Text) :
    onward files target pending v input =
      (onward files target reply next rest).after (pending ++ invitation) reply := by
  rw [onward]
  split
  · next hstop =>
    rw [hturn] at hstop
    contradiction
  · next hreply =>
    obtain ⟨rfl, rfl, rfl⟩ := Turn.reply.inj (hreply.symm.trans hturn)
    rfl

/-- A session ends where its input does. -/
theorem onward_of_none (hline : nextLine? input = none) (files : Files) (target : Target)
    (pending : Text) (v : Viewer) :
    onward files target pending v input =
      ⟨[], [pending ++ invitation, ['\n']], .endOfInput, v⟩ := by
  have hturn : v.turn files target input = .stop ['\n'] .endOfInput v := by
    rw [Viewer.turn, hline]
  rw [onward_of_stop hturn]
  rfl

/-- A session goes on behind a line with a reply, and ends at one that is no text or has none. -/
theorem onward_of_some (hline : nextLine? input = some (typed, rest)) (files : Files)
    (target : Target) (pending : Text) (v : Viewer) :
    onward files target pending v input =
      match Text.ofBytes? typed with
      | none => ⟨[], [pending ++ invitation], .broken .notText, v⟩
      | some text =>
        match v.reply? files target text with
        | none => ⟨[], [pending ++ invitation], .quit, v⟩
        | some (reply, next) =>
          (onward files target reply next rest).after (pending ++ invitation) reply := by
  cases htext : Text.ofBytes? typed with
  | none =>
    have hturn : v.turn files target input = .stop [] (.broken .notText) v := by
      simp only [Viewer.turn, hline, htext]
    rw [onward_of_stop hturn]
    rfl
  | some text =>
    have hturn : v.turn files target input = v.turnOfLine files target text rest := by
      simp only [Viewer.turn, hline, htext]
    rw [Viewer.turnOfLine_eq] at hturn
    cases hreply : v.reply? files target text with
    | none =>
      rw [hreply] at hturn
      rw [onward_of_stop hturn]
      simp only [hreply, if_true]
    | some answer =>
      rw [hreply] at hturn
      rw [onward_of_reply hturn]
      simp only [hreply]

end Transcript

end SpanViewer
