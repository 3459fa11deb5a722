import SpanViewer.Fault
import SpanViewer.Prompt.ShellWords
import SpanViewer.Text.Lowercase
import SpanViewer.Text.Quoted

/-!
# Prompt commands

What can be typed at the prompt. Names are read without regard to case, and lines of the derived
form are numbered from 1.
-/

namespace SpanViewer

/-- A command typed at the prompt. -/
inductive Command where
  /-- A line without a command. -/
  | empty
  /-- Puts a file on display. -/
  | load (path : Text)
  /-- Shows the source. -/
  | source
  /-- Shows the derived form. -/
  | derived
  /-- Lists the words of a line, numbered from 1. -/
  | words (line : Nat)
  /-- Points at a word, numbered from 0, of a line, numbered from 1. -/
  | hover (line index : Nat)
  /-- Forgets the document on display. -/
  | clear
  /-- Shows the commands. -/
  | help
  /-- Ends the session. -/
  | quit
  deriving DecidableEq, Repr

namespace Command

/-- Reads the number that a command wants at a place. -/
def number (command what : Text) : Option Text → Except Fault Nat
  | none => .error (.badArguments command ("missing ".toList ++ what))
  | some argument =>
    match argument.number? with
    | some number => .ok number
    | none =>
      .error (.badArguments command (what ++ " must be a number, got ".toList ++ argument.quoted))

/-- Reads a line number, which is never 0. -/
def lineNumber (command : Text) (argument : Option Text) : Except Fault Nat := do
  let line ← number command "line".toList argument
  if line = 0 then
    throw (.badArguments command "lines are numbered from 1".toList)
  else
    return line

/-- The command of a name in lower case, with the words behind it. -/
def ofName (name : Text) (arguments : List Text) : Except Fault Command :=
  if name = "load".toList ∨ name = "open".toList then
    match arguments[0]? with
    | none => .error (.badArguments "load".toList "missing path".toList)
    | some path => .ok (.load path)
  else if name = "source".toList ∨ name = "src".toList then .ok .source
  else if name = "anf".toList then .ok .derived
  else if name = "words".toList then do
    return .words (← lineNumber "words".toList arguments[0]?)
  else if name = "hover".toList ∨ name = "h".toList then do
    let line ← lineNumber "hover".toList arguments[0]?
    let index ← number "hover".toList "word".toList arguments[1]?
    return .hover line index
  else if name = "clear".toList then .ok .clear
  else if name = "help".toList ∨ name = "?".toList then .ok .help
  else if name = "quit".toList ∨ name = "exit".toList ∨ name = "q".toList then .ok .quit
  else .error (.badArguments name "unknown command, try `help`".toList)

/-- Reads a line typed at the prompt. -/
def parse (line : Text) : Except Fault Command :=
  match shellWords? line with
  | none => .error (.badArguments "input".toList "unbalanced quotes".toList)
  | some [] => .ok .empty
  | some (name :: arguments) => ofName name.lowercase arguments

/-- The file that a command reads. -/
def path? : Command → Option Text
  | load path => some path
  | _ => none

end Command

end SpanViewer
