import SpanViewer.SettingsFile

/-!
# Failures

Why the program gives up, as a chain of causes, and the report of it on the error output.
-/

namespace SpanViewer

/-- Why the program gives up. -/
structure Failure where
  /-- What failed. -/
  what : Text
  /-- The causes, each that of the one before it. -/
  causes : List Text := []
  deriving DecidableEq, Repr

/-- The causes of a fault. -/
def Fault.causes : Fault → List Text
  | unreadable _ cause => [cause.message]
  | stream cause => [cause.message]
  | _ => []

namespace Failure

/-- A fault is the failure. -/
def ofFault (fault : Fault) : Failure :=
  ⟨fault.message, fault.causes⟩

/-- The settings cannot be loaded. -/
def ofSettingsError (error : SettingsError) : Failure :=
  { what := "failed to load config".toList
    causes := match error with
      | .unreadable path cause => [(Fault.unreadable path cause).message, cause.message]
      | .invalid path => ["invalid config ".toList ++ path] }

/-- The log file cannot be opened. -/
def ofLogFile (path : Text) (cause : FileError) : Failure :=
  ⟨"failed to open log file ".toList ++ path, [cause.message]⟩

/-- A word cannot be pointed at. -/
def ofHover (line index : Nat) (fault : Fault) : Failure :=
  { what := "cannot hover line ".toList ++ .ofNumber line ++ " word ".toList ++ .ofNumber index
    causes := fault.message :: fault.causes }

/-- A cause in a report. Its lines are indented alike, behind the number of the cause if it has
one. -/
def reportCause (number : Option Nat) (cause : Text) : Text :=
  let width := if number.isSome then 7 else 4
  let front := match number with
    | some n => List.replicate (5 - (Text.ofNumber n).length) ' ' ++ .ofNumber n ++ ": ".toList
    | none => List.replicate width ' '
  front ++ cause.replace ['\n'] ('\n' :: List.replicate width ' ') ++ ['\n']

/-- The report of a failure. Causes are numbered if there are several. -/
def report (failure : Failure) : Text :=
  "Error: ".toList ++ failure.what ++ ['\n'] ++
    match failure.causes with
    | [] => []
    | [cause] => "\nCaused by:\n".toList ++ reportCause none cause
    | causes =>
      "\nCaused by:\n".toList ++ (causes.mapIdx fun i cause => reportCause (some i) cause).flatten

end Failure

end SpanViewer
