import SpanViewer.Fault
import SpanViewer.Settings
import SpanViewer.Text.Blank
import SpanViewer.Yaml.Tree

/-!
# Settings files

Settings are written as the fields of a YAML mapping, each at most once. What is not written keeps
its default, and fields of other names do not count.
-/

namespace SpanViewer

/-- Why there are no settings. -/
inductive SettingsError where
  /-- The file cannot be read. -/
  | unreadable (path : Text) (cause : FileError)
  /-- The file holds no settings. -/
  | invalid (path : Text)
  deriving DecidableEq, Repr

namespace Settings

/-- The tag of truth values. -/
def boolTag : Text := Yaml.commonStem ++ "bool".toList

/-- The tag of nulls. -/
def nullTag : Text := Yaml.commonStem ++ "null".toList

/-- The truth value of a setting. It is written plainly, or as a literal block with the tag of truth
values. -/
def boolOf? (value : YamlScalar) : Option Bool :=
  let text := value.text
  if value.style ≠ .plain ∧ ¬(value.style = .literal ∧ value.tag = some boolTag) then none
  else if text = "true".toList ∨ text = "True".toList ∨ text = "TRUE".toList then some true
  else if text = "false".toList ∨ text = "False".toList ∨ text = "FALSE".toList then some false
  else none

/-- The word is one for a null. -/
def isNull (text : Text) : Bool :=
  text = ['~'] || text = "null".toList || text = "Null".toList || text = "NULL".toList

/-- The text of a setting that may be left out. A plain null is no text, and neither is nothing at
all; a tag decides for a text or, if it is that of nulls, for a null. -/
def optionalTextOf? (value : YamlScalar) : Option (Option Text) :=
  if value.style ≠ .plain then some (some value.text)
  else
    match value.tag with
    | none => some (if value.text.isEmpty || isNull value.text then none else some value.text)
    | some tag =>
      if tag ≠ nullTag then some (some value.text)
      else if isNull value.text then some none
      else none

/-- The setting of a name among named fields, whose values are scalars if they count. It stands
there at most once. -/
def setting? {α : Type} (name : String) (read? : YamlScalar → Option α) (default : α)
    (fields : List (Text × Option YamlScalar)) : Option α :=
  match fields.filter fun field => field.1 = name.toList with
  | [] => some default
  | [(_, value)] => value >>= read?
  | _ => none

/-- The settings of named fields. -/
def ofFields? (fields : List (Text × Option YamlScalar)) : Option Settings := do
  let standard : Settings := {}
  let textOf? (value : YamlScalar) := some value.text
  let delimiter ← setting? "delimiter" textOf? standard.delimiter fields
  let acceptLineFeed ← setting? "accept_lf_delimiter" boolOf? standard.acceptLineFeed fields
  let indentMarker ← setting? "indent_marker" textOf? standard.indentMarker fields
  let redirectIndentation ←
    setting? "redirect_indentation_hover" boolOf? standard.redirectIndentation fields
  let highlightOpen ← setting? "highlight_open" textOf? standard.highlightOpen fields
  let highlightClose ← setting? "highlight_close" textOf? standard.highlightClose fields
  let color ← setting? "color" boolOf? standard.color fields
  let logFile ← setting? "log_file" optionalTextOf? standard.logFile fields
  return { delimiter, acceptLineFeed, indentMarker, redirectIndentation, highlightOpen,
           highlightClose, color, logFile }

/-- The settings of a document. An empty one has none but the defaults. -/
def ofYaml? (document : Yaml) : Option Settings :=
  match document.withoutAnchor with
  | .scalar content => if content.text = [] ∧ content.style = .plain then some {} else none
  | .mapping fields => do
    let named ← fields.mapM fun (key, value) => do
      return ((← document.scalarIn? key).text, document.scalarIn? value)
    ofFields? named
  | _ => none

/-- The settings that a text holds. -/
def parse? (text : Text) : Option Settings :=
  if text.trim = [] then some {} else Yaml.parse? text >>= ofYaml?

/-- The settings file that is read if none is named. -/
def standardPath : Text := "anf-comparator.yaml".toList

/-- The settings in a file. -/
def readFile (files : Files) (path : Text) : Except SettingsError Settings :=
  match files.readText path with
  | .error cause => .error (.unreadable path cause)
  | .ok text =>
    match parse? text with
    | some settings => .ok settings
    | none => .error (.invalid path)

/-- The settings in the file that is named, in the standard file if there is one, or the
defaults. -/
def load (files : Files) (isFile : Text → Bool) (path : Option Text) :
    Except SettingsError Settings :=
  match path with
  | some path => readFile files path
  | none => if isFile standardPath then readFile files standardPath else .ok {}

end Settings

end SpanViewer
