import SpanViewer.Render.Target
import SpanViewer.Text.Number

/-!
# Arguments

What the words of a command line ask for. The name of a mode comes first, options may stand on
either side of it, and each is given at most once on a side; the side behind the name counts more.
-/

namespace SpanViewer

/-- An option that has a value. -/
inductive ValueOption where
  /-- The file that settings are read from. -/
  | settings
  /-- The file that a log is written to. -/
  | log
  /-- The style of output. -/
  | style
  deriving DecidableEq, Repr

/-- One word of a command line. -/
inductive Argument where
  /-- A word that is no option. -/
  | value (text : Text)
  /-- The mark behind which no word is an option. -/
  | endOfOptions
  /-- The option that turns colors off. -/
  | noColor
  /-- An option that has a value, with the value if it stands in the same word. -/
  | option (name : ValueOption) (attached : Option Text)
  /-- An option that does not exist. -/
  | unknown
  deriving DecidableEq, Repr

namespace Argument

/-- Reads an option with a long name. -/
def ofLong (body : Text) : Argument :=
  let (name, attached) := match body.cutFirst? ['='] with
    | some (name, given) => (name, some given)
    | none => (body, none)
  if name = "config".toList then .option .settings attached
  else if name = "log-file".toList then .option .log attached
  else if name = "format".toList then .option .style attached
  else if name = "no-color".toList ∧ attached = none then .noColor
  else .unknown

/-- Reads an option with a name of one letter. An equals sign may stand in front of its value. -/
def ofShort (name : Char) (body : Text) : Argument :=
  let attached := match body with
    | [] => none
    | '=' :: given => some given
    | given => some given
  if name = 'c' then .option .settings attached
  else if name = 'f' then .option .style attached
  else .unknown

/-- Reads a word. A lone dash is no option. -/
def ofText : Text → Argument
  | ['-', '-'] => .endOfOptions
  | '-' :: '-' :: body => ofLong body
  | '-' :: name :: body => ofShort name body
  | text => .value text

end Argument

/-- What is given on one side of the name of the mode. -/
structure ArgumentSide where
  /-- The file that settings are read from. -/
  settings : Option Text := none
  /-- The file that a log is written to. -/
  log : Option Text := none
  /-- The style of output. -/
  style : Option Text := none
  /-- Colors are turned off. -/
  noColor : Bool := false
  /-- The words that are no options. -/
  values : List Text := []
  deriving DecidableEq, Repr

namespace ArgumentSide

/-- Gives a value to an option that has none yet. -/
def set? (side : ArgumentSide) (name : ValueOption) (value : Text) : Option ArgumentSide :=
  match name with
  | .settings => if side.settings.isNone then some { side with settings := value } else none
  | .log => if side.log.isNone then some { side with log := value } else none
  | .style => if side.style.isNone then some { side with style := value } else none

/-- Adds words to a side: up to the name of the mode and with the words from there on, or to the end
behind it. -/
def read? (behindName : Bool) (side : ArgumentSide) (words : List Text) :
    Option (ArgumentSide × List Text) :=
  match words with
  | [] => some (side, [])
  | word :: rest =>
    match Argument.ofText word with
    | .unknown => none
    | .value text =>
      if behindName then read? behindName { side with values := side.values ++ [text] } rest
      else some (side, word :: rest)
    | .endOfOptions =>
      if behindName then some ({ side with values := side.values ++ rest }, []) else none
    | .noColor => if side.noColor then none else read? behindName { side with noColor := true } rest
    | .option name (some value) => do read? behindName (← side.set? name value) rest
    | .option name none =>
      match rest with
      | [] => none
      | next :: rest =>
        match Argument.ofText next with
        | .value value => do read? behindName (← side.set? name value) rest
        | _ => none

end ArgumentSide

/-- What the program is asked to do. -/
inductive Mode where
  /-- Commands are read from a prompt; a file may be put on display first. -/
  | view (path : Option Text)
  /-- The span of one word is shown. Lines are numbered from 1 and words from 0. -/
  | hover (path : Text) (line index : Nat) (style : Style)
  /-- A frontend is served. -/
  | serve
  deriving DecidableEq, Repr

/-- What a command line asks for. -/
structure Invocation where
  /-- The file that settings are read from. -/
  settingsPath : Option Text
  /-- The file that a log is written to. -/
  logFile : Option Text
  /-- Colors are turned off. -/
  noColor : Bool
  /-- What the program is asked to do. -/
  mode : Mode
  deriving DecidableEq, Repr

/-- A path, which is not empty. -/
def path? (text : Text) : Option Text :=
  if text.isEmpty then none else some text

/-- The mode of a name with what stands behind it. -/
def Mode.ofSide? (name : Text) (side : ArgumentSide) : Option Mode :=
  if name = "hover".toList then
    match side.values with
    | [path, line, index] => do
      let style ← match side.style with
        | some style => Style.ofName? style
        | none => some .ansi
      return .hover (← path? path) (← line.number?) (← index.number?) style
    | _ => none
  else if side.style.isSome then
    none
  else if name = "view".toList then
    match side.values with
    | [] => some (.view none)
    | [path] => do return .view (some (← path? path))
    | _ => none
  else if name = "serve".toList ∧ side.values = [] then
    some .serve
  else
    none

/-- Reads a command line; nothing if it is not understood. -/
def Invocation.parse? (words : List Text) : Option Invocation := do
  let (front, rest) ← ArgumentSide.read? false {} words
  if front.style.isSome then none
  match rest with
  | [] => none
  | name :: rest =>
    let (back, _) ← ArgumentSide.read? true {} rest
    let mode ← Mode.ofSide? name back
    if (front.settings.any List.isEmpty) || (front.log.any List.isEmpty) ||
        (back.settings.any List.isEmpty) || (back.log.any List.isEmpty) then none
    return {
      settingsPath := back.settings <|> front.settings
      logFile := back.log <|> front.log
      noColor := front.noColor || back.noColor
      mode := mode }

end SpanViewer
