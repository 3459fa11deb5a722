import SpanViewer.Protocol.Frame
import SpanViewer.Render.Target
import SpanViewer.Viewer

/-!
# The server

A frontend asks by messages, and the server answers each request with one response. A successful
`initialize` or `load` is announced by an event as well. Messages that are no requests are passed
over, and bad frames do not end the session.
-/

namespace SpanViewer

/-- The longest body that is read, unless another limit is set. -/
def defaultLimit : Nat := 64 * 1024 * 1024

/-- A text as a value; null for none. -/
def Json.ofText? (text : Option Text) : Json :=
  (text.map .string).getD .null

/-- A span as a value. -/
def Position.toJson (p : Position) : Json :=
  if p.isMapped then
    .object [
      ("col_offset".toList, .natural p.column),
      ("end_col_offset".toList, .natural p.endColumn),
      ("end_lineno".toList, .natural p.endLine),
      ("lineno".toList, .natural p.line)]
  else
    .null

/-- A word as a value. -/
def Word.toJson (w : Word) : Json :=
  .object [
    ("class".toList, .string w.classify.name),
    ("pos".toList, w.position.toJson),
    ("text".toList, .string w.text)]

/-- A document as a value. -/
def Document.toJson (d : Document) : Json :=
  .object [
    ("annotated".toList, .array (d.derived.map fun words => .array (words.map Word.toJson))),
    ("source".toList, .array (d.source.map .string))]

/-- What is shown for a word as a value. -/
def Hover.toJson (target : Target) (h : Hover) : Json :=
  .object [
    ("after".toList, .string h.highlight.after),
    ("before".toList, .string h.highlight.before),
    ("class".toList, .string h.word.classify.name),
    ("dedented".toList, .string h.highlight.dedented),
    ("highlighted".toList, .string h.highlight.inside),
    ("line".toList, .natural h.line),
    ("mapped".toList, .bool h.highlight.mapped),
    ("rendered".toList, .string (target.highlight h.highlight)),
    ("text".toList, .string h.word.text),
    ("word".toList, .natural h.index)]

/-- The value of an argument. -/
def argument? (name : String) (arguments : Option Json) : Option Json :=
  arguments.bind (Json.field? name.toList)

/-- The text that is the value of an argument. -/
def textArgument? (name : String) (arguments : Option Json) : Option Text :=
  (argument? name arguments).bind Json.string?

/-- The number that a request wants as an argument. -/
def numberArgument (command name : String) (arguments : Option Json) : Except Fault Nat :=
  match (argument? name arguments).bind Json.natural? with
  | some number => .ok number
  | none =>
    .error (.badArguments command.toList ("missing integer `".toList ++ name.toList ++ ['\x60']))

/-- The style that a value names, as a text or as an object with a null under the name. -/
def Style.ofJson? : Json → Option Style
  | .string name => Style.ofName? name
  | .object [(name, .null)] => Style.ofName? name
  | _ => none

/-- The style that a request wants. -/
def styleArgument (arguments : Option Json) : Except Fault Style :=
  match argument? "format" arguments with
  | none => .ok .html
  | some value =>
    match Style.ofJson? value with
    | some style => .ok style
    | none =>
      .error (.badArguments "hover".toList "`format` must be ansi, html or plain".toList)

/-- The abilities of the server. -/
def abilities (settings : Settings) : Json :=
  .object [
    ("formats".toList,
      .array [.string "ansi".toList, .string "html".toList, .string "plain".toList]),
    ("redirectsIndentationHover".toList, .bool settings.redirectIndentation),
    ("supportsTextLoad".toList, .bool true)]

/-- The class of a text that a request wants. -/
def classifyText (arguments : Option Json) : Except Fault Json :=
  match textArgument? "text" arguments with
  | some text =>
    .ok (.object [("class".toList, .string (Word.unmapped text).classify.name)])
  | none => .error (.badArguments "classify".toList "missing string `text`".toList)

namespace Viewer

/-- What is told of a document that was put on display. -/
def loadedJson (v : Viewer) (path : Option Text) : Json :=
  .object [
    ("annotatedLines".toList, .natural v.document.derived.length),
    ("path".toList, .ofText? path),
    ("sourceLines".toList, .natural v.document.source.length)]

/-- Carries out `load`. A path counts more than a text. -/
def answerLoad (v : Viewer) (files : Files) (arguments : Option Json) :
    Except Fault (Json × Viewer) :=
  match textArgument? "path" arguments, textArgument? "text" arguments with
  | some path, _ => do
    let loaded ← v.loadFile files path
    return (loaded.loadedJson (some path), loaded)
  | none, some text => .ok ((v.loadText text).loadedJson none, v.loadText text)
  | none, none => .error (.badArguments "load".toList "expected `path` or `text`".toList)

/-- Carries out `hover`. Lines and words are counted from 0. -/
def answerHover (v : Viewer) (arguments : Option Json) : Except Fault Json := do
  let line ← numberArgument "hover" "line" arguments
  let index ← numberArgument "hover" "word" arguments
  let style ← styleArgument arguments
  let hover ← v.hover line index
  return hover.toJson (style.target v.settings)

/-- Carries out a request: the body of the response, and the viewer after it. -/
def answer (v : Viewer) (files : Files) (command : Text) (arguments : Option Json) :
    Except Fault (Option Json × Viewer) :=
  if command = "initialize".toList then
    .ok (some (abilities v.settings), v)
  else if command = "load".toList then
    (v.answerLoad files arguments).map fun (body, loaded) => (some body, loaded)
  else if command = "document".toList then
    .ok (some v.document.toJson, v)
  else if command = "hover".toList then
    (v.answerHover arguments).map fun body => (some body, v)
  else if command = "classify".toList then
    (classifyText arguments).map fun body => (some body, v)
  else if command = "disconnect".toList then
    .ok (none, v)
  else
    .error (.badArguments command "unknown command".toList)

end Viewer

/-- The event that announces the success of a command. -/
def announcement (command : Text) (body : Option Json) : List Content :=
  if command = "initialize".toList then [.event "initialized".toList none]
  else if command = "load".toList then [.event "loaded".toList body]
  else []

/-- What is sent in return for a request, and the viewer after it. -/
def Viewer.respond (v : Viewer) (files : Files) (seq : Nat) (command : Text)
    (arguments : Option Json) : List Content × Viewer :=
  match v.answer files command arguments with
  | .ok (body, next) => (.response seq true command none body :: announcement command body, next)
  | .error fault => ([.response seq false command (some fault.message) none], v)

/-- Why a body is not read. -/
def oversizedFault (limit length : Nat) : Fault :=
  .badArguments "message".toList
    ("Content-Length ".toList ++ .ofNumber length ++ " exceeds the limit of ".toList ++
      .ofNumber limit ++ " bytes".toList)

/-- What is sent in return for a body that is not read. -/
def oversizedResponse (limit length : Nat) : Content :=
  .response 0 false "message".toList (some (oversizedFault limit length).message) none

namespace Reading

/-- The file that is read to answer a reading. -/
def requestedPath? : Reading → Option Text
  | message m _ =>
    match m.content with
    | .request command arguments =>
      if command = "load".toList then textArgument? "path" arguments else none
    | _ => none
  | _ => none

/-- Why the input cannot be read on behind a reading. -/
def cause? : Reading → Option StreamError
  | broken cause => some cause
  | _ => none

/-- No session goes on behind a request to disconnect, nor where the input ends or breaks off. -/
def endsSession : Reading → Bool
  | message m _ =>
    match m.content with
    | .request command _ => command = "disconnect".toList
    | _ => false
  | endOfInput => true
  | broken _ => true
  | _ => false

/-- The input with which a session goes on behind a reading; nothing if it ends there. -/
def onward? (reading : Reading) : Option Bytes :=
  if reading.endsSession then none else reading.rest?

end Reading

/-- A session goes on with less input than it had. -/
theorem length_lt_of_onward? {limit : Nat} {input rest : Bytes}
    (honward : (readMessage limit input).onward? = some rest) : rest.length < input.length := by
  unfold Reading.onward? at honward
  split at honward
  · contradiction
  · exact length_lt_of_readMessage honward

/-- What is sent in return for a reading, and the viewer after it. -/
def Viewer.react (v : Viewer) (files : Files) (limit : Nat) : Reading → List Content × Viewer
  | .message m _ =>
    match m.content with
    | .request command arguments => v.respond files m.seq command arguments
    | _ => ([], v)
  | .oversized length _ => ([oversizedResponse limit length], v)
  | _ => ([], v)

/-- A server at work. -/
structure Server where
  /-- The number of the message that was sent last. -/
  seq : Nat := 0
  /-- The viewer that is served. -/
  viewer : Viewer

namespace Server

/-- Takes the number of the next message. -/
def nextSeq (s : Server) : Nat × Server :=
  (s.seq + 1, { s with seq := s.seq + 1 })

/-- Sends content under the next number. -/
def send (s : Server) (content : Content) : Message × Server :=
  let (seq, next) := s.nextSeq
  (⟨seq, content.type, content⟩, next)

/-- Sends contents one behind the other. -/
def sendAll (s : Server) : List Content → List Message × Server
  | [] => ([], s)
  | content :: later =>
    let (message, next) := s.send content
    let (messages, last) := next.sendAll later
    (message :: messages, last)

/-- The messages that are sent in return for a reading, and the server after it. -/
def step (s : Server) (files : Files) (limit : Nat) (reading : Reading) :
    List Message × Server :=
  let (contents, viewer) := s.viewer.react files limit reading
  sendAll { s with viewer := viewer } contents

end Server

/-- A session of the server from its start to its end. -/
structure Service where
  /-- The messages that were sent, in their order. -/
  messages : List Message
  /-- Why the input could not be read on; nothing if it ended or the frontend left. -/
  cause : Option StreamError
  /-- The server at the end. -/
  server : Server

namespace Service

/-- The viewer at the end. -/
def viewer (service : Service) : Viewer :=
  service.server.viewer

/-- What was written: the frames of the messages. -/
def frames (service : Service) : List Text :=
  service.messages.map Message.frame

/-- A session that begins with what is sent now. -/
def prepend (messages : List Message) (service : Service) : Service :=
  { service with messages := messages ++ service.messages }

/-- The session of a server over an input. -/
def ofServer (files : Files) (limit : Nat) (s : Server) (input : Bytes) : Service :=
  let reading := readMessage limit input
  let (messages, next) := s.step files limit reading
  match honward : reading.onward? with
  | none => ⟨messages, reading.cause?, next⟩
  | some rest =>
    have : rest.length < input.length := length_lt_of_onward? honward
    prepend messages (ofServer files limit next rest)
termination_by input.length

/-- The session of a new server over an input. -/
def ofInput (files : Files) (limit : Nat) (v : Viewer) (input : Bytes) : Service :=
  ofServer files limit { viewer := v } input

end Service

end SpanViewer
