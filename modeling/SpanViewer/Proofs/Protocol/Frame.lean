import SpanViewer.Proofs.Protocol.Header
import SpanViewer.Proofs.Protocol.Written

/-!
# Whole frames

A frame is whole if as many bytes follow its header as the last of its lines declares, which may be
none. The reader takes a whole frame off any input. What a session makes of it depends on the frame
alone, so a session over frames goes on behind them with the viewer that they lead to.
-/

namespace SpanViewer

/-- A header line that is not blank. -/
structure HeaderLine where
  /-- What the line says. -/
  text : Text
  /-- How the line ends. -/
  ending : LineEnding
  /-- It is one line. -/
  no_feed : '\n' ∉ text
  /-- It is not blank. -/
  not_blank : withoutEnding text ≠ []

namespace HeaderLine

/-- The bytes of a header line. -/
def bytes (line : HeaderLine) : Bytes :=
  Text.toBytes (line.text ++ line.ending.text)

/-- The length that is declared behind a line: its own, or else the one before it. -/
def declare (declared : Nat) (line : HeaderLine) : Nat :=
  (declaredLength? (withoutEnding line.text)).getD declared

end HeaderLine

/-- A frame with all bytes of its body. -/
structure Frame where
  /-- The header lines, of which the last declaration counts. -/
  lines : List HeaderLine
  /-- The blank line that ends the header. -/
  closing : LineEnding
  /-- Any bytes, or none. -/
  body : Bytes
  /-- The length that is declared is that of the body. -/
  declare_eq : lines.foldl HeaderLine.declare 0 = body.length

namespace Frame

/-- The frame as it stands in the input. -/
def bytes (f : Frame) : Bytes :=
  f.lines.flatMap HeaderLine.bytes ++ Text.toBytes f.closing.text ++ f.body

/-- The message of a frame, if its body is within the limit and is one. -/
def message? (limit : Nat) (f : Frame) : Option Message :=
  if limit < f.body.length then none else Text.ofBytes? f.body >>= Message.parse?

/-- The message of a frame is a request to disconnect. -/
def Disconnects (limit : Nat) (f : Frame) : Prop :=
  ∃ m arguments, f.message? limit = some m ∧ m.content = .request "disconnect".toList arguments

/-- A frame with a message has a body within the limit. -/
theorem message?_eq_some_iff {limit : Nat} {f : Frame} {m : Message} :
    f.message? limit = some m ↔
      f.body.length ≤ limit ∧ Text.ofBytes? f.body >>= Message.parse? = some m := by
  unfold message?
  split
  · next hlong => simp [Nat.not_le_of_lt hlong]
  · next hlong => simp [Nat.le_of_not_lt hlong]

/-- A frame with a written message in it has this message. -/
theorem message?_of_render {limit : Nat} {f : Frame} {m : Message}
    (hbody : f.body = Text.toBytes m.render) (hm : m.IsExact) (hlimit : f.body.length ≤ limit) :
    f.message? limit = some m := by
  refine message?_eq_some_iff.mpr ⟨hlimit, ?_⟩
  rw [hbody, Text.ofBytes?_toBytes, Option.bind_eq_bind, Option.bind_some,
    Message.parse?_render hm]

/-- Header lines are read up to what follows them. -/
theorem readHeader_lines (declared : Nat) (lines : List HeaderLine) (rest : Bytes) :
    readHeader declared (lines.flatMap HeaderLine.bytes ++ rest) =
      readHeader (lines.foldl HeaderLine.declare declared) rest := by
  induction lines generalizing declared with
  | nil => rfl
  | cons line lines ih =>
    rw [List.flatMap_cons, List.append_assoc, HeaderLine.bytes,
      readHeader_line declared line.no_feed, if_neg line.not_blank, ih]
    rfl

/-- The header of a frame ends where its body starts. -/
theorem readHeader_bytes {f : Frame} (hbody : 0 < f.body.length) (rest : Bytes) :
    readHeader 0 (f.bytes ++ rest) = .body f.body.length (f.body ++ rest) := by
  simp only [bytes, List.append_assoc]
  rw [readHeader_lines, f.declare_eq, readHeader_closing hbody]

/-- The header of a frame without a body is passed over. -/
theorem readHeader_bytes_of_nil {f : Frame} (hbody : f.body = []) (rest : Bytes) :
    readHeader 0 (f.bytes ++ rest) = readHeader 0 rest := by
  have hdeclared : f.lines.foldl HeaderLine.declare 0 = 0 := by rw [f.declare_eq, hbody]; rfl
  have hblank := readHeader_blanks [f.closing] rest
  rw [List.flatMap_singleton] at hblank
  rw [bytes, hbody, List.append_nil, List.append_assoc, readHeader_lines, hdeclared, hblank]

/-- A frame without a body is not seen. -/
theorem readMessage_bytes_of_nil {f : Frame} (hbody : f.body = []) (limit : Nat) (rest : Bytes) :
    readMessage limit (f.bytes ++ rest) = readMessage limit rest := by
  rw [readMessage, readMessage, readHeader_bytes_of_nil hbody]

/-- A body within the limit is read whole. -/
theorem readMessage_bytes {limit : Nat} {f : Frame} (hbody : 0 < f.body.length)
    (hlimit : f.body.length ≤ limit) (rest : Bytes) :
    readMessage limit (f.bytes ++ rest) = .ofBody f.body rest :=
  readMessage_eq_iff.mpr (.body (readHeader_eq_iff.mp (readHeader_bytes hbody rest)) hlimit)

/-- A body above the limit is passed over whole. -/
theorem readMessage_bytes_of_oversized {limit : Nat} {f : Frame} (hlimit : limit < f.body.length)
    (rest : Bytes) :
    readMessage limit (f.bytes ++ rest) = .oversized f.body.length rest := by
  have hheader := readHeader_bytes (Nat.lt_of_le_of_lt (Nat.zero_le limit) hlimit) rest
  have hreading : ReadsMessage limit (f.bytes ++ rest) _ :=
    .oversized (readHeader_eq_iff.mp hheader) hlimit
  rw [List.drop_left] at hreading
  exact readMessage_eq_iff.mpr hreading

/-- The message of a frame is read. -/
theorem readMessage_bytes_of_message? {limit : Nat} {f : Frame} {m : Message}
    (hmessage : f.message? limit = some m) (rest : Bytes) :
    readMessage limit (f.bytes ++ rest) = .message m rest := by
  obtain ⟨hlimit, hparse⟩ := message?_eq_some_iff.mp hmessage
  have hbody : 0 < f.body.length := by
    apply List.length_pos_iff.mpr
    intro hnil
    rw [hnil] at hparse
    contradiction
  rw [readMessage_bytes hbody hlimit, Reading.ofBody, hparse]

end Frame

/-- What is read first decides what is read. -/
theorem readMessages_eq_of_readMessage_eq {limit : Nat} {input other : Bytes}
    (hreading : readMessage limit input = readMessage limit other) :
    readMessages limit input = readMessages limit other := by
  cases hother : readMessage limit other with
  | endOfInput =>
    rw [hother] at hreading
    rw [readMessages_of_endOfInput hreading, readMessages_of_endOfInput hother]
  | broken cause =>
    rw [hother] at hreading
    rw [readMessages_of_broken hreading, readMessages_of_broken hother]
  | message m rest | malformed rest | oversized length rest =>
    rw [hother] at hreading
    rw [readMessages_of_rest hreading rfl, readMessages_of_rest hother rfl]

namespace Service

variable {limit : Nat} {f : Frame}

/-- There is nothing to do where there is no input. -/
theorem ofServer_nil (files : Files) (limit : Nat) (s : Server) :
    ofServer files limit s [] = ⟨[], none, s⟩ := by
  rw [ofServer_eq_ofReadings, readMessages_nil, ofReadings]

/-- What is read first decides the session. -/
theorem ofServer_eq_of_readMessage_eq {input other : Bytes}
    (hreading : readMessage limit input = readMessage limit other) (files : Files) (s : Server) :
    ofServer files limit s input = ofServer files limit s other := by
  rw [ofServer_eq_ofReadings, ofServer_eq_ofReadings, readMessages_eq_of_readMessage_eq hreading]

/-- A reading that is not answered and ends nothing is passed over. -/
theorem ofServer_of_not_answered {input rest : Bytes} {reading : Reading} {files : Files}
    {s : Server} (hreading : readMessage limit input = reading)
    (hstay : reading.endsSession = false) (hrest : reading.rest? = some rest)
    (hanswer : s.viewer.react files limit reading = ([], s.viewer)) :
    ofServer files limit s input = ofServer files limit s rest := by
  rw [ofServer_of_rest hreading hstay hrest, Server.step_eq, hanswer]
  rfl

/-- A frame that is no message and has no body above the limit is passed over. -/
theorem ofServer_malformed (hlimit : f.body.length ≤ limit) (hnone : f.message? limit = none)
    (files : Files) (s : Server) (rest : Bytes) :
    ofServer files limit s (f.bytes ++ rest) = ofServer files limit s rest := by
  by_cases hbody : f.body = []
  · exact ofServer_eq_of_readMessage_eq (Frame.readMessage_bytes_of_nil hbody limit rest) files s
  · rw [Frame.message?, if_neg (Nat.not_lt_of_le hlimit)] at hnone
    have hreading : readMessage limit (f.bytes ++ rest) = .malformed rest := by
      rw [Frame.readMessage_bytes (List.length_pos_iff.mpr hbody) hlimit, Reading.ofBody, hnone]
    exact ofServer_of_not_answered hreading rfl rfl rfl

/-- A frame with a body above the limit is answered, and its body is passed over. -/
theorem ofServer_oversized (hlimit : limit < f.body.length) (files : Files) (s : Server)
    (rest : Bytes) :
    ofServer files limit s (f.bytes ++ rest) =
      prepend [⟨s.seq + 1, "response".toList, oversizedResponse limit f.body.length⟩]
        (ofServer files limit { s with seq := s.seq + 1 } rest) :=
  ofServer_of_rest (Frame.readMessage_bytes_of_oversized hlimit rest) rfl rfl

/-- A request is responded to under the next numbers, and ends the session if it is one to
disconnect. -/
theorem ofServer_request {m : Message} {command : Text} {arguments : Option Json}
    (hmessage : f.message? limit = some m) (hcontent : m.content = .request command arguments)
    (files : Files) (s : Server) (rest : Bytes) :
    let outcome := s.viewer.respond files m.seq command arguments
    let messages := numbered s.seq outcome.1
    let next : Server := ⟨s.seq + outcome.1.length, outcome.2⟩
    ofServer files limit s (f.bytes ++ rest) =
      if command = "disconnect".toList then ⟨messages, none, next⟩
      else prepend messages (ofServer files limit next rest) := by
  intro outcome messages next
  have hreading := Frame.readMessage_bytes_of_message? hmessage rest
  have hends := Reading.endsSession_of_request hcontent rest
  have hstep : s.step files limit (.message m rest) = (messages, next) := by
    rw [Server.step_eq, Viewer.react_of_request hcontent]
  split
  · next hcommand =>
    rw [decide_eq_true hcommand] at hends
    rw [ofServer_of_ends hreading hends, hstep, Reading.cause?]
    exact nofun
  · next hcommand =>
    rw [decide_eq_false hcommand] at hends
    rw [ofServer_of_rest hreading hends rfl, hstep]

/-- A message that is no request is passed over. -/
theorem ofServer_not_request {m : Message} (hmessage : f.message? limit = some m)
    (hcontent : ∀ command arguments, m.content ≠ .request command arguments) (files : Files)
    (s : Server) (rest : Bytes) :
    ofServer files limit s (f.bytes ++ rest) = ofServer files limit s rest :=
  ofServer_of_not_answered (Frame.readMessage_bytes_of_message? hmessage rest)
    (Reading.endsSession_of_not_request hcontent rest) rfl
    (Viewer.react_of_not_request hcontent s.viewer files limit rest)

/-- A session goes on behind a frame unless this is a request to disconnect. What it has sent by
then and its server do not depend on what follows. -/
theorem exists_step_of_frame (hstay : ¬ f.Disconnects limit) (files : Files) (s : Server) :
    ∃ messages next, ∀ rest, ofServer files limit s (f.bytes ++ rest) =
      prepend messages (ofServer files limit next rest) := by
  cases hmessage : f.message? limit with
  | none =>
    by_cases hlimit : f.body.length ≤ limit
    · exact ⟨[], s, fun rest => ofServer_malformed hlimit hmessage files s rest⟩
    · exact ⟨_, _, fun rest => ofServer_oversized (Nat.lt_of_not_le hlimit) files s rest⟩
  | some m =>
    cases hcontent : m.content with
    | request command arguments =>
      have hother : command ≠ "disconnect".toList := by
        rintro rfl
        exact hstay ⟨m, arguments, hmessage, hcontent⟩
      exact ⟨_, _, fun rest =>
        (ofServer_request hmessage hcontent files s rest).trans (if_neg hother)⟩
    | response requestSeq success command message body =>
      exact ⟨[], s, ofServer_not_request hmessage (by simp [hcontent]) files s⟩
    | event name body =>
      exact ⟨[], s, ofServer_not_request hmessage (by simp [hcontent]) files s⟩

/-- A session goes on behind frames where a session over these alone ends. -/
theorem ofServer_append {frames : List Frame} (hstay : ∀ f ∈ frames, ¬ f.Disconnects limit)
    (files : Files) (s : Server) (rest : Bytes) :
    let front := ofServer files limit s (frames.flatMap Frame.bytes)
    ofServer files limit s (frames.flatMap Frame.bytes ++ rest) =
      prepend front.messages (ofServer files limit front.server rest) := by
  induction frames generalizing s with
  | nil =>
    rw [List.flatMap_nil, List.nil_append, ofServer_nil]
    rfl
  | cons f later ih =>
    obtain ⟨hfirst, hlater⟩ := List.forall_mem_cons.mp hstay
    obtain ⟨messages, next, hstep⟩ := exists_step_of_frame hfirst files s
    rw [List.flatMap_cons, List.append_assoc, hstep, hstep, ih hlater]
    simp only [prepend, List.append_assoc]

end Service

end SpanViewer
