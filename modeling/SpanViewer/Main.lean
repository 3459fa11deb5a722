import SpanViewer.CommandLine.Run

/-!
# The program on a system

Files, the input and the output of a running system. Each step reads what a pure step needs and
writes what it answers.
-/

namespace SpanViewer

/-- The reason that a number of the system stands for. A system may count down from 0. -/
def FileError.ofCode (code : UInt32) (details : String) : FileError :=
  match code.toInt32.toInt.natAbs with
  | 2 => .missing
  | 13 => .system 13 "Permission denied".toList
  | 20 => .notDirectory
  | 21 => .isDirectory
  | number => .system number details.toList

/-- The reason why the system refuses an operation on a file. -/
def FileError.ofSystem : IO.Error → FileError
  | .alreadyExists _ code details | .otherError code details | .resourceBusy code details
  | .resourceVanished code details | .unsupportedOperation code details
  | .hardwareFault code details | .unsatisfiedConstraints code details
  | .illegalOperation code details | .protocolError code details | .timeExpired code details
  | .interrupted _ code details | .noFileOrDirectory _ code details
  | .invalidArgument _ code details | .permissionDenied _ code details
  | .resourceExhausted _ code details | .inappropriateType _ code details
  | .noSuchThing _ code details => .ofCode code details
  | .unexpectedEof => .ofCode 0 "unexpected end of file"
  | .userError reason => .ofCode 0 reason

/-- The contents of one file of the system, by its path. No other file is there. -/
def systemFile (path : Text) : IO Files := do
  if '\x00' ∈ path then
    return fun name => .error (if name = path then .nulInName else .missing)
  let contents ← (IO.FS.readBinFile (String.ofList path)).toBaseIO
  let contents := match contents with
    | .ok contents => .ok contents.toList
    | .error error => .error (.ofSystem error)
  return fun name => if name = path then contents else .error .missing

/-- The contents of a file of the system, if a path is given. -/
def systemFile? : Option Text → IO Files
  | some path => systemFile path
  | none => return fun _ => .error .missing

/-- A file can be read, or is there all the same. -/
def Files.isFile (files : Files) (path : Text) : Bool :=
  match files path with
  | .ok _ => true
  | .error cause => cause ∉ [.missing, .notDirectory, .isDirectory, .nulInName]

/-- Writes a text to the output. -/
def writeText (text : Text) : IO Unit := do
  let output ← IO.getStdout
  output.putStr (String.ofList text)
  output.flush

/-- Reads up to a number of bytes. -/
partial def readBlock (input : IO.FS.Stream) (length : Nat) : IO Bytes := do
  if length = 0 then return []
  let block ← input.read (min length 65536).toUSize
  if block.isEmpty then return []
  return block.toList ++ (← readBlock input (length - block.size))

/-- Passes over up to a number of bytes. -/
partial def skipBlock (input : IO.FS.Stream) (length : Nat) : IO Unit := do
  if length = 0 then return
  let block ← input.read (min length 65536).toUSize
  if block.isEmpty then return
  skipBlock input (length - block.size)

/-- Reads a line with its line feed. -/
partial def readLine (input : IO.FS.Stream) : IO Bytes := do
  match (← input.read 1).toList with
  | [] => return []
  | byte :: _ => if byte = 10 then return [byte] else return byte :: (← readLine input)

/-- Reads as much of the input as the next message takes, behind what was read of it before. A body
that is longer than the limit is passed over. -/
partial def readFrame (input : IO.FS.Stream) (before : Bytes) : IO Bytes := do
  let line ← readLine input
  if line.isEmpty then return before
  let seen := before ++ line
  match readHeader 0 seen with
  | .endOfInput => readFrame input seen
  | .broken => return seen
  | .body length _ =>
    if defaultLimit < length then
      skipBlock input length
      return seen
    else
      return seen ++ (← readBlock input length)

/-- Takes turns at the prompt until a session ends, where some text is not shown before the next
prompt. -/
partial def converse (input : IO.FS.Stream) (target : Target) (pending : Text) (v : Viewer) :
    IO (Except Failure Unit) := do
  writeText (pending ++ invitation)
  let line ← readLine input
  match v.turn (← systemFile? (typedPath? line)) target line with
  | .stop written ending _ =>
    writeText written
    return exitOf ending.cause?
  | .reply reply next _ => converse input target reply next

/-- Takes the steps of a server until a session ends. -/
partial def serveFrom (input : IO.FS.Stream) (s : Server) : IO (Except Failure Unit) := do
  let reading := readMessage defaultLimit (← readFrame input [])
  let (messages, next) := s.step (← systemFile? reading.requestedPath?) defaultLimit reading
  for message in messages do
    writeText message.frame
  match reading.onward? with
  | none => return exitOf reading.cause?
  | some _ => serveFrom input next

/-- Opens the log file, which is made if it does not exist. -/
def openLog (path : Option Text) : IO (Except Failure Unit) := do
  match path with
  | none => return .ok ()
  | some path =>
    if '\x00' ∈ path then
      return .error (.ofLogFile path .nulInName)
    match ← (IO.FS.Handle.mk (String.ofList path) IO.FS.Mode.append).toBaseIO with
    | .ok _ => return .ok ()
    | .error error => return .error (.ofLogFile path (.ofSystem error))

/-- Carries out a mode. -/
def Mode.carryOut (settings : Settings) (mode : Mode) : IO (Except Failure Unit) := do
  match mode with
  | view path =>
    match startView (← systemFile? path) settings path with
    | .error failure => return .error failure
    | .ok v => converse (← IO.getStdin) (Style.ansi.target settings) [] v
  | hover path line index style =>
    match showWord (← systemFile path) settings path line index style with
    | .error failure => return .error failure
    | .ok text => writeText text; return .ok ()
  | serve => serveFrom (← IO.getStdin) { viewer := { settings := settings } }

/-- Carries out what a command line asks for. -/
def Invocation.carryOut (invocation : Invocation) : IO (Except Failure Unit) := do
  let files ← systemFile (invocation.settingsPath.getD Settings.standardPath)
  match invocation.settings files files.isFile with
  | .error failure => return .error failure
  | .ok settings =>
    match ← openLog settings.logFile with
    | .error failure => return .error failure
    | .ok () => invocation.mode.carryOut settings

end SpanViewer

/-- Runs the program on the words of a command line. It exits with 2 if they are not understood,
and with 1 and a report if it fails. -/
def main (words : List String) : IO UInt32 := do
  match SpanViewer.Invocation.parse? (words.map String.toList) with
  | none =>
    (← IO.getStderr).putStr "error: the command line is not understood\n"
    return 2
  | some invocation =>
    match ← invocation.carryOut with
    | .ok () => return 0
    | .error failure =>
      (← IO.getStderr).putStr (String.ofList failure.report)
      return 1
