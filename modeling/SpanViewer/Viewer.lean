import SpanViewer.Hover
import SpanViewer.Settings

/-!
# The viewer

The document on display. A load replaces it as a whole, and a load that fails leaves it alone.
-/

namespace SpanViewer

/-- A document on display. -/
structure Display where
  /-- The document. -/
  document : Document
  /-- The file that it was read from, if it was read from one. -/
  path : Option Text
  deriving DecidableEq, Repr

/-- The settings of a user and the document on display, if one is loaded. -/
structure Viewer where
  /-- The settings, which never change. -/
  settings : Settings := {}
  /-- What is on display. -/
  display : Option Display := none
  deriving DecidableEq, Repr

namespace Viewer

/-- A document is loaded, though it may be empty. -/
def isLoaded (v : Viewer) : Bool :=
  v.display.isSome

/-- The document on display; an empty one if none is loaded. -/
def document (v : Viewer) : Document :=
  (v.display.map Display.document).getD {}

/-- The file on display. -/
def path (v : Viewer) : Option Text :=
  v.display.bind Display.path

/-- What pointing at an indentation means. -/
def policy (v : Viewer) : HoverPolicy :=
  ⟨v.settings.redirectIndentation, v.settings.indentMarker⟩

/-- Puts a text on display. -/
def loadText (v : Viewer) (text : Text) : Viewer :=
  { v with display := some ⟨.parse v.settings.toFileFormat text, none⟩ }

/-- Puts a file on display. -/
def loadFile (v : Viewer) (files : Files) (path : Text) : Except Fault Viewer :=
  match files.readText path with
  | .ok text =>
    .ok { v with display := some ⟨.parse v.settings.toFileFormat text, some path⟩ }
  | .error cause => .error (.unreadable path cause)

/-- Forgets the document on display. -/
def clear (v : Viewer) : Viewer :=
  { v with display := none }

/-- Points at a word of the document on display. -/
def hover (v : Viewer) (line index : Nat) : Except Fault Hover :=
  match v.display with
  | none => .error .noDocument
  | some display => display.document.hover v.policy line index

end Viewer

end SpanViewer
