import SpanViewer.Prompt.Command
import SpanViewer.Render.Target
import SpanViewer.Stream
import SpanViewer.Viewer

/-!
# Prompt sessions

A session reads commands line by line and replies to each. A command that fails is reported and
changes nothing. The session ends with the input, at `quit`, or at a line that is no text.
-/

namespace SpanViewer

/-- The reply to `help`. -/
def helpText : Text :=
  .ofLines [
    "commands:".toList,
    "  load <path>          load an annotated file".toList,
    "  source               show the source pane".toList,
    "  anf                  show the annotated pane".toList,
    "  words <line>         list the words of an annotated line".toList,
    "  hover <line> <word>  highlight the source span of a word (word 0 is the indentation)".toList,
    "  clear                forget the loaded document".toList,
    "  help                 show this text".toList,
    "  quit                 leave".toList]

namespace Text

/-- Fills a text up with spaces on its left. -/
def padLeft (width : Nat) (text : Text) : Text :=
  List.replicate (width - text.length) ' ' ++ text

/-- Fills a text up with spaces on its right. -/
def padRight (width : Nat) (text : Text) : Text :=
  text ++ List.replicate (width - text.length) ' '

/-- The lines of a pane, numbered from 1. -/
def numberedLines (lines : List Text) : Text :=
  (lines.mapIdx fun i line =>
    (ofNumber (i + 1)).padLeft 4 ++ " | ".toList ++ line ++ ['\n']).flatten

end Text

/-- How the span of a word is listed. -/
def Position.listed (p : Position) : Text :=
  if p.isMapped then
    renderBound p.line p.column ++ ['-'] ++ renderBound p.endLine p.endColumn
  else
    ['-']

/-- How the text of a word is listed. An indentation shows its width. -/
def Word.listed (marker : Text) (w : Word) : Text :=
  if w.isIndentation marker then
    "<indent ".toList ++ .ofNumber ((w.text.pieces marker).length - 1) ++ ['>']
  else
    w.text

/-- The words of a line, numbered from 0, with their classes and spans. -/
def listWords (marker : Text) (words : List Word) : Text :=
  (words.mapIdx fun i w =>
    (Text.ofNumber i).padLeft 3 ++ "  ".toList ++ (w.listed marker).padRight 20 ++ [' '] ++
      w.classify.name.padRight 16 ++ [' '] ++ w.position.listed ++ ['\n']).flatten

/-- What is shown for a word of a line, where lines are numbered from 1. -/
def Hover.report (target : Target) (line : Nat) (h : Hover) : Text :=
  "-- line ".toList ++ .ofNumber line ++ " word ".toList ++ .ofNumber h.index ++ " `".toList ++
    h.word.text.trimEnd ++ "` (".toList ++ h.word.classify.name ++ ")\n".toList ++
    (if h.highlight.mapped then [] else "(no source mapping)\n".toList) ++
    target.highlight h.highlight ++ ['\n']

/-- The document on display, which a command needs. -/
def Viewer.requireDocument (v : Viewer) : Except Fault Document :=
  match v.display with
  | none => .error .noDocument
  | some display => .ok display.document

/-- What a command leaves behind. -/
structure Console where
  /-- What was written. -/
  written : Text := []
  /-- The viewer. -/
  viewer : Viewer

/-- The steps of a command. What is done in front of a step that fails is not undone. -/
abbrev Steps (α : Type) := ExceptT Fault (StateM Console) α

namespace Steps

/-- Takes the steps: the result or the fault, and what they leave behind. -/
def on {α : Type} (steps : Steps α) (console : Console) : Except Fault α × Console :=
  steps.run.run console

/-- The viewer as it is now. -/
def viewer : Steps Viewer := do
  return (← get).viewer

/-- Replaces the viewer. -/
def setViewer (v : Viewer) : Steps Unit :=
  modify fun console => { console with viewer := v }

/-- Writes a text behind what was written. -/
def write (text : Text) : Steps Unit :=
  modify fun console => { console with written := console.written ++ text }

/-- The document on display; a fault if nothing is loaded. -/
def document : Steps Document := do
  (← viewer).requireDocument

end Steps

/-- The reply to a command that loaded a file. -/
def loadedReply (path : Text) (loaded : Viewer) : Text :=
  "loaded ".toList ++ path ++ ": ".toList ++ .ofNumber loaded.document.source.length ++
    " source lines, ".toList ++ .ofNumber loaded.document.derived.length ++
    " annotated lines\n".toList

/-- Carries out a command: whether the session goes on. -/
def Command.execute (files : Files) (target : Target) : Command → Steps Bool
  | .empty => return true
  | .load path => do
    let loaded ← (← Steps.viewer).loadFile files path
    Steps.setViewer loaded
    Steps.write (loadedReply path loaded)
    return true
  | .source => do
    let document ← Steps.document
    Steps.write (.numberedLines (document.source.map (·.dropEndWhile (· = '\r'))))
    return true
  | .derived => do
    let document ← Steps.document
    Steps.write (.numberedLines (document.derived.map target.line))
    return true
  | .words line => do
    let document ← Steps.document
    match document.derived[line - 1]? with
    | none => throw (.lineOutOfRange line document.derived.length)
    | some found =>
      Steps.write (listWords (← Steps.viewer).settings.indentMarker found)
      return true
  | .hover line index => do
    let document ← Steps.document
    if document.derived.length < line then
      throw (.lineOutOfRange line document.derived.length)
    let hover ← (← Steps.viewer).hover (line - 1) index
    Steps.write (hover.report target line)
    return true
  | .clear => do
    Steps.setViewer (← Steps.viewer).clear
    Steps.write "cleared\n".toList
    return true
  | .help => do
    Steps.write (helpText ++ ['\n'])
    return true
  | .quit => return false

/-- The reply to a command that fails. -/
def Fault.reply (fault : Fault) : Text :=
  "error: ".toList ++ fault.message ++ ['\n']

/-- How a session ends. -/
inductive Ending where
  /-- The input is at its end. -/
  | endOfInput
  /-- The user leaves. -/
  | quit
  /-- The input cannot be read on. -/
  | broken (cause : StreamError)
  deriving DecidableEq, Repr

/-- Why the input could not be read on; nothing if it ended or the user left. -/
def Ending.cause? : Ending → Option StreamError
  | broken cause => some cause
  | _ => none

/-- What happens once at the prompt. -/
inductive Turn where
  /-- A line is replied to, and the session goes on with the rest of the input. -/
  | reply (reply : Text) (next : Viewer) (rest : Bytes)
  /-- The session ends behind what is still written. -/
  | stop (written : Text) (ending : Ending) (last : Viewer)

/-- The file that the next line of the input reads. -/
def typedPath? (input : Bytes) : Option Text := do
  let (line, _) ← nextLine? input
  let command ← (Command.parse (← Text.ofBytes? line)).toOption
  command.path?

namespace Viewer

/-- What a typed line leads to. Any fault but one of the stream is reported. -/
def turnOfLine (v : Viewer) (files : Files) (target : Target) (line : Text) (rest : Bytes) : Turn :=
  match Command.parse line with
  | .error fault => .reply fault.reply v rest
  | .ok command =>
    match (command.execute files target).on { viewer := v } with
    | (.ok true, console) => .reply console.written console.viewer rest
    | (.ok false, console) => .stop console.written .quit console.viewer
    | (.error (.stream cause), console) => .stop console.written (.broken cause) console.viewer
    | (.error fault, console) => .reply (console.written ++ fault.reply) console.viewer rest

/-- What the next line of the input leads to, or the end of the input. -/
def turn (v : Viewer) (files : Files) (target : Target) (input : Bytes) : Turn :=
  match nextLine? input with
  | none => .stop ['\n'] .endOfInput v
  | some (line, rest) =>
    match Text.ofBytes? line with
    | none => .stop [] (.broken .notText) v
    | some text => v.turnOfLine files target text rest

end Viewer

section
variable {v next : Viewer} {files : Files} {target : Target} {reply : Text} {input rest : Bytes}

/-- A line is taken off the input and nothing else. -/
theorem rest_eq_of_turnOfLine {line : Text} {left : Bytes}
    (hturn : v.turnOfLine files target line left = .reply reply next rest) : rest = left := by
  unfold Viewer.turnOfLine at hturn
  split at hturn
  · exact (Turn.reply.inj hturn).2.2.symm
  · split at hturn
    · exact (Turn.reply.inj hturn).2.2.symm
    · contradiction
    · contradiction
    · exact (Turn.reply.inj hturn).2.2.symm

/-- A session goes on with less input than it had. -/
theorem length_lt_of_turn (hturn : v.turn files target input = .reply reply next rest) :
    rest.length < input.length := by
  unfold Viewer.turn at hturn
  split at hturn
  · contradiction
  · next line left hline =>
    split at hturn
    · contradiction
    · rw [rest_eq_of_turnOfLine hturn]
      exact length_lt_of_nextLine? hline

end

/-- A session from its start to its end. -/
structure Transcript where
  /-- The replies, one for each line after which the session goes on. -/
  replies : List Text
  /-- What is written, up to each prompt and behind the last one. -/
  output : List Text
  /-- How the session ends. -/
  ending : Ending
  /-- The viewer at the end. -/
  viewer : Viewer
  deriving DecidableEq, Repr

/-- What invites the user to type a command. -/
def invitation : Text := "> ".toList

namespace Transcript

/-- The session over an input, where some text is not shown before the next prompt. -/
def onward (files : Files) (target : Target) (pending : Text) (v : Viewer) (input : Bytes) :
    Transcript :=
  let shown := pending ++ invitation
  match hturn : v.turn files target input with
  | .stop written ending last =>
    ⟨[], if written = [] then [shown] else [shown, written], ending, last⟩
  | .reply reply next rest =>
    have : rest.length < input.length := length_lt_of_turn hturn
    let session := onward files target reply next rest
    { session with replies := reply :: session.replies, output := shown :: session.output }
termination_by input.length

/-- The session over an input. -/
def ofInput (files : Files) (target : Target) (v : Viewer) (input : Bytes) : Transcript :=
  onward files target [] v input

end Transcript

end SpanViewer
