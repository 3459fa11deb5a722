import SpanViewer.Json.Printer
import SpanViewer.Json.Reader

/-!
# Messages

What a frontend and the server tell each other: requests, responses to them, and events. A message
is an object with a sequence number and a type; its other fields show which of the three it is.
-/

namespace SpanViewer

/-- What a message says. -/
inductive Content where
  /-- The answer to the request with a sequence number. -/
  | response (requestSeq : Nat) (success : Bool) (command : Text) (message : Option Text)
      (body : Option Json)
  /-- News that nobody asked for. -/
  | event (name : Text) (body : Option Json)
  /-- A demand for an answer. -/
  | request (command : Text) (arguments : Option Json)
  deriving BEq, Repr

/-- A message with its place in the sequence of its sender. -/
structure Message where
  /-- The place in the sequence, from 1. -/
  seq : Nat
  /-- The type that the sender names. -/
  type : Text
  /-- What the message says. -/
  content : Content
  deriving BEq, Repr

/-- The type of a message that says this. -/
def Content.type : Content → Text
  | response .. => "response".toList
  | event .. => "event".toList
  | request .. => "request".toList

/-- A field that is left out if it has no value. -/
def optionalField (name : String) (value : Option Json) : List (Text × Json) :=
  match value with
  | some value => [(name.toList, value)]
  | none => []

/-- The fields that say what a message says. -/
def Content.fields : Content → List (Text × Json)
  | response requestSeq success command message body =>
    [("request_seq".toList, .natural requestSeq), ("success".toList, .bool success),
      ("command".toList, .string command)] ++
      optionalField "message" (message.map .string) ++ optionalField "body" body
  | event name body => [("event".toList, .string name)] ++ optionalField "body" body
  | request command arguments =>
    [("command".toList, .string command)] ++ optionalField "arguments" arguments

/-- The fields of a message, in the order in which they are written. -/
def Message.fields (m : Message) : List (Text × Json) :=
  [("seq".toList, .natural m.seq), ("type".toList, .string m.type)] ++ m.content.fields

/-- The written form of a message. -/
def Message.render (m : Message) : Text :=
  ['\x7b'] ++ Json.renderFields m.fields ++ ['\x7d']

/-- The value of a field that stands there exactly once. -/
def requiredField? (name : String) (fields : List (Text × Json)) : Option Json :=
  match fields.filter fun field => field.1 = name.toList with
  | [field] => some field.2
  | _ => none

/-- The value of a field that stands there at most once. A null is no value. -/
def optionalField? (name : String) (fields : List (Text × Json)) : Option (Option Json) :=
  match fields.filter fun field => field.1 = name.toList with
  | [] => some none
  | [(_, .null)] => some none
  | [field] => some (some field.2)
  | _ => none

namespace Content

/-- The response that some fields describe. -/
def responseOfFields? (fields : List (Text × Json)) : Option Content := do
  let requestSeq ← (← requiredField? "request_seq" fields).natural?
  let success ← (← requiredField? "success" fields).bool?
  let command ← (← requiredField? "command" fields).string?
  let message ← match ← optionalField? "message" fields with
    | none => some none
    | some value => value.string?.map some
  let body ← optionalField? "body" fields
  return .response requestSeq success command message body

/-- The event that some fields describe. -/
def eventOfFields? (fields : List (Text × Json)) : Option Content := do
  let name ← (← requiredField? "event" fields).string?
  let body ← optionalField? "body" fields
  return .event name body

/-- The request that some fields describe. -/
def requestOfFields? (fields : List (Text × Json)) : Option Content := do
  let command ← (← requiredField? "command" fields).string?
  let arguments ← optionalField? "arguments" fields
  return .request command arguments

/-- What some fields say: the first of a response, an event and a request that they describe. Other
fields do not count. -/
def ofFields? (fields : List (Text × Json)) : Option Content :=
  responseOfFields? fields <|> eventOfFields? fields <|> requestOfFields? fields

end Content

/-- Reads a message. -/
def Message.parse? (text : Text) : Option Message := do
  let fields ← Json.parseFields? text
  let seq ← (← requiredField? "seq" fields).natural?
  let type ← (← requiredField? "type" fields).string?
  let content ← Content.ofFields? fields
  return ⟨seq, type, content⟩

end SpanViewer
