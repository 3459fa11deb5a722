import SpanViewer.CommandLine.Arguments
import SpanViewer.CommandLine.Failure
import SpanViewer.FileTree
import SpanViewer.Prompt.Session
import SpanViewer.Protocol.Server

/-!
# The program

A run of the program over a file tree and an input: settings are loaded, the log file is opened,
and the mode is carried out. What was written before a failure stays written.
-/

namespace SpanViewer

/-- What a run leaves behind. -/
structure Outcome where
  /-- What was written. -/
  output : Text
  /-- How the run ended. -/
  exit : Except Failure Unit

/-- How a session ends the run: only an input that breaks off is a failure. -/
def exitOf (cause : Option StreamError) : Except Failure Unit :=
  match cause with
  | some cause => .error (.ofFault (.stream cause))
  | none => .ok ()

namespace Invocation

/-- The settings of a run. The command line counts more than the settings file. -/
def settings (invocation : Invocation) (files : Files) (isFile : Text → Bool) :
    Except Failure Settings :=
  match Settings.load files isFile invocation.settingsPath with
  | .error error => .error (.ofSettingsError error)
  | .ok loaded =>
    .ok { loaded with
      logFile := invocation.logFile <|> loaded.logFile
      color := loaded.color && !invocation.noColor }

end Invocation

namespace Mode

/-- The viewer at the start of a prompt session. -/
def startView (files : Files) (settings : Settings) (path : Option Text) :
    Except Failure Viewer :=
  let v : Viewer := { settings := settings }
  match path with
  | none => .ok v
  | some path => (v.loadFile files path).mapError .ofFault

/-- What is written for one word of a file. -/
def showWord (files : Files) (settings : Settings) (path : Text) (line index : Nat)
    (style : Style) : Except Failure Text := do
  if line = 0 then
    throw ⟨"lines are numbered from 1".toList, []⟩
  let v : Viewer := { settings := settings }
  let loaded ← (v.loadFile files path).mapError .ofFault
  let hover ← (loaded.hover (line - 1) index).mapError (.ofHover line index)
  return (style.target settings).highlight hover.highlight ++ ['\n']

/-- Carries out a mode. -/
def run (files : Files) (settings : Settings) (mode : Mode) (input : Bytes) : Outcome :=
  match mode with
  | view path =>
    match startView files settings path with
    | .error failure => ⟨[], .error failure⟩
    | .ok v =>
      let session := Transcript.ofInput files (Style.ansi.target settings) v input
      ⟨session.output.flatten, exitOf session.ending.cause?⟩
  | hover path line index style =>
    match showWord files settings path line index style with
    | .error failure => ⟨[], .error failure⟩
    | .ok text => ⟨text, .ok ()⟩
  | serve =>
    let service := Service.ofInput files defaultLimit { settings := settings } input
    ⟨service.frames.flatten, exitOf service.cause⟩

end Mode

/-- The file tree after the log file is opened. -/
def FileTree.openLog (tree : FileTree) (path : Option Text) : Except Failure FileTree :=
  match path with
  | none => .ok tree
  | some path => (tree.openForAppend path).mapError (.ofLogFile path)

/-- Carries out what a command line asks for. -/
def Invocation.run (invocation : Invocation) (tree : FileTree) (input : Bytes) : Outcome :=
  match invocation.settings tree.read tree.isFile with
  | .error failure => ⟨[], .error failure⟩
  | .ok settings =>
    match tree.openLog settings.logFile with
    | .error failure => ⟨[], .error failure⟩
    | .ok tree => invocation.mode.run tree.read settings input

end SpanViewer
