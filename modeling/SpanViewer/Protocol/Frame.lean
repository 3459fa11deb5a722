import SpanViewer.Protocol.Message
import SpanViewer.Stream
import SpanViewer.Text.Blank

/-!
# Frames

A message travels behind header lines, of which one declares the number of its bytes, and a blank
line. The reader counts bytes and never looks for the end of a body, so a body may hold anything.
-/

namespace SpanViewer

/-- The header that declares the length of a body. -/
def lengthHeader : Text := "Content-Length:".toList

/-- A message with its header. -/
def Message.frame (m : Message) : Text :=
  let body := m.render
  lengthHeader ++ [' '] ++ .ofNumber body.byteSize ++ "\r\n\r\n".toList ++ body

/-- The length that a header line declares: 0 if it declares one badly, nothing if it declares
none. -/
def declaredLength? (line : Text) : Option Nat :=
  (lengthHeader.isPrefixOf? line).map fun value => (Text.trim value).number?.getD 0

/-- What the lines in front of a body say. -/
inductive Header where
  /-- The input ends before a body begins. -/
  | endOfInput
  /-- A line is no text. -/
  | broken
  /-- A body of a length, and the input from its first byte on. -/
  | body (length : Nat) (input : Bytes)
  deriving DecidableEq, Repr

/-- Reads header lines, where `declared` is the last length that was declared. A blank line ends
them once a length is declared; until then it is passed over. -/
def readHeader (declared : Nat) (input : Bytes) : Header :=
  match hline : nextLine? input with
  | none => .endOfInput
  | some (bytes, rest) =>
    have : rest.length < input.length := length_lt_of_nextLine? hline
    match Text.ofBytes? bytes with
    | none => .broken
    | some text =>
      let line := text.dropEndWhile fun c => c = '\r' || c = '\n'
      if line = [] then
        if 0 < declared then .body declared rest else readHeader declared rest
      else
        readHeader ((declaredLength? line).getD declared) rest
termination_by input.length

/-- What is read from the input in one step. -/
inductive Reading where
  /-- Nothing: the input is at its end. -/
  | endOfInput
  /-- A message. -/
  | message (message : Message) (rest : Bytes)
  /-- A body that is no message. -/
  | malformed (rest : Bytes)
  /-- A body that is longer than the limit. It is passed over. -/
  | oversized (length : Nat) (rest : Bytes)
  /-- The input cannot be read on. -/
  | broken (cause : StreamError)
  deriving BEq, Repr

/-- Reads the next message of at most `limit` bytes. -/
def readMessage (limit : Nat) (input : Bytes) : Reading :=
  match readHeader 0 input with
  | .endOfInput => .endOfInput
  | .broken => .broken .notText
  | .body length rest =>
    if limit < length then
      .oversized length (rest.drop length)
    else if rest.length < length then
      .broken .truncated
    else
      match Text.ofBytes? (rest.take length) >>= Message.parse? with
      | some message => .message message (rest.drop length)
      | none => .malformed (rest.drop length)

/-- A body begins behind at least one byte of header. -/
theorem length_lt_of_readHeader {declared length : Nat} {input rest : Bytes}
    (hheader : readHeader declared input = .body length rest) : rest.length < input.length := by
  fun_induction readHeader declared input with
  | case1 => simp at hheader
  | case2 => simp at hheader
  | case3 =>
    obtain ⟨-, rfl⟩ := Header.body.inj hheader
    assumption
  | case4 =>
    rename_i hshort _ _ _ _ _ ih
    exact Nat.lt_trans (ih hheader) hshort
  | case5 =>
    rename_i hshort _ _ _ _ ih
    exact Nat.lt_trans (ih hheader) hshort

/-- The input that a step leaves to be read; nothing if the input ends or breaks off. -/
def Reading.rest? : Reading → Option Bytes
  | endOfInput => none
  | message _ rest => some rest
  | malformed rest => some rest
  | oversized _ rest => some rest
  | broken _ => none

/-- A step that does not end the input makes it shorter. -/
theorem length_lt_of_readMessage {limit : Nat} {input rest : Bytes}
    (hrest : (readMessage limit input).rest? = some rest) : rest.length < input.length := by
  simp only [readMessage] at hrest
  split at hrest
  · simp [Reading.rest?] at hrest
  · simp [Reading.rest?] at hrest
  · next length body hheader =>
    have hbody := length_lt_of_readHeader hheader
    have hdrop : (body.drop length).length ≤ body.length := by simp
    split at hrest
    · obtain rfl := Option.some.inj hrest
      omega
    · split at hrest
      · simp [Reading.rest?] at hrest
      · split at hrest <;>
        · obtain rfl := Option.some.inj hrest
          omega

/-- Everything that is read from the input, step by step, to its end or to where it breaks off. -/
def readMessages (limit : Nat) (input : Bytes) : List Reading :=
  match hrest : (readMessage limit input).rest? with
  | none =>
    match readMessage limit input with
    | .endOfInput => []
    | reading => [reading]
  | some rest =>
    have : rest.length < input.length := length_lt_of_readMessage hrest
    readMessage limit input :: readMessages limit rest
termination_by input.length

end SpanViewer
