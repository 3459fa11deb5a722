import SpanViewer.Json.Binary64

/-!
# JSON values

Values as messages carry them. The fields of an object are kept in the order of their names, each
name once, so that equal values are written alike.
-/

namespace SpanViewer

/-- A number in a message. -/
inductive JsonNumber where
  /-- A whole number that is not negative. -/
  | natural (value : Nat)
  /-- A whole number below zero, by its absolute value. -/
  | negative (size : Nat)
  /-- A number with a fraction or an exponent, or one that is too large to be whole. -/
  | real (value : Binary64)
  deriving DecidableEq, Repr

/-- A value in a message. -/
inductive Json where
  | null
  | bool (value : Bool)
  | number (value : JsonNumber)
  | string (value : Text)
  | array (items : List Json)
  | object (fields : List (Text × Json))
  deriving BEq, Repr

namespace Json

/-- A natural number as a value. -/
def natural (value : Nat) : Json :=
  .number (.natural value)

/-- Puts a field into an object, in the order of names. A field of the same name is replaced. -/
def insertField (name : Text) (value : Json) : List (Text × Json) → List (Text × Json)
  | [] => [(name, value)]
  | (other, old) :: rest =>
    if name = other then (name, value) :: rest
    else if name < other then (name, value) :: (other, old) :: rest
    else (other, old) :: insertField name value rest

/-- The object of some fields. Of fields with one name the last counts. -/
def ofFields (fields : List (Text × Json)) : Json :=
  .object (fields.foldl (fun sorted (name, value) => insertField name value sorted) [])

/-- The field of a name. -/
def field? (name : Text) : Json → Option Json
  | object fields => fields.lookup name
  | _ => none

/-- The natural number that a value is. -/
def natural? : Json → Option Nat
  | number (.natural value) => some value
  | _ => none

/-- The text that a value is. -/
def string? : Json → Option Text
  | string value => some value
  | _ => none

/-- The truth value that a value is. -/
def bool? : Json → Option Bool
  | bool value => some value
  | _ => none

end Json

end SpanViewer
