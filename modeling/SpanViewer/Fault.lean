import SpanViewer.Text.Bytes
import SpanViewer.Text.Number

/-!
# Faults

What can go wrong at the edges of the viewer: files that cannot be read, hovers that miss the
document, commands with bad arguments, and streams that break off.
-/

namespace SpanViewer

/-- Why a file cannot be read. -/
inductive FileError where
  /-- The system refuses, for a reason with a number. -/
  | system (number : Nat) (reason : Text)
  /-- The system is not even asked, for a reason without a number. -/
  | refused (reason : Text)
  /-- The file is no text. -/
  | notText
  deriving DecidableEq, Repr

namespace FileError

/-- There is no file of that name. -/
def missing : FileError := .system 2 "No such file or directory".toList

/-- A file stands where the name has a directory. -/
def notDirectory : FileError := .system 20 "Not a directory".toList

/-- A directory has that name. -/
def isDirectory : FileError := .system 21 "Is a directory".toList

/-- No file has a name with a NUL in it. -/
def nulInName : FileError := .refused "file name contained an unexpected NUL byte".toList

/-- What a user is told about the error. -/
def message : FileError → Text
  | system number reason => reason ++ " (os error ".toList ++ .ofNumber number ++ [')']
  | refused reason => reason
  | notText => "stream did not contain valid UTF-8".toList

end FileError

/-- Files by name. -/
abbrev Files := Text → Except FileError Bytes

/-- The text of a file. -/
def Files.readText (files : Files) (path : Text) : Except FileError Text := do
  match Text.ofBytes? (← files path) with
  | some text => return text
  | none => throw .notText

/-- Why an input stream cannot be read on. -/
inductive StreamError where
  /-- A line is no text. -/
  | notText
  /-- The stream ends before a body does. -/
  | truncated
  deriving DecidableEq, Repr

/-- What a user is told about the error. -/
def StreamError.message : StreamError → Text
  | notText => "stream did not contain valid UTF-8".toList
  | truncated => "failed to fill whole buffer".toList

/-- What can go wrong at the edges of the viewer. -/
inductive Fault where
  /-- A file cannot be read. -/
  | unreadable (path : Text) (cause : FileError)
  /-- Nothing is loaded. -/
  | noDocument
  /-- A document of `count` lines has no such line. -/
  | lineOutOfRange (line count : Nat)
  /-- A line of `count` words has no such word. -/
  | wordOutOfRange (line word count : Nat)
  /-- A command cannot be carried out as it is given. -/
  | badArguments (command reason : Text)
  /-- The input breaks off. -/
  | stream (cause : StreamError)
  deriving DecidableEq, Repr

/-- What a user is told about the fault. -/
def Fault.message : Fault → Text
  | unreadable path cause => "failed to read ".toList ++ path ++ ": ".toList ++ cause.message
  | noDocument => "no document loaded".toList
  | lineOutOfRange line count =>
    "annotated line ".toList ++ .ofNumber line ++ " out of range (document has ".toList ++
      .ofNumber count ++ [')']
  | wordOutOfRange line word count =>
    "word ".toList ++ .ofNumber word ++ " out of range on line ".toList ++ .ofNumber line ++
      " (".toList ++ .ofNumber count ++ " words)".toList
  | badArguments command reason =>
    "bad arguments for `".toList ++ command ++ "`: ".toList ++ reason
  | stream cause => "I/O error: ".toList ++ cause.message

end SpanViewer
