import SpanViewer.Proofs.Json.Written
import SpanViewer.Proofs.Protocol.Envelope

/-!
# Written messages

What one side writes the other side reads. The fields of a message tell the three kinds of content
apart, a written message has nothing in front of it but its length, and so a run of messages is read
back one by one, to the end of the input.
-/

namespace SpanViewer

/-- A payload that is read back: none, or a value other than null that is not nested too deeply
inside of a message. -/
def IsPayload (payload : Option Json) : Prop :=
  ∀ value ∈ payload, value ≠ .null ∧ Json.Exact (Json.depthLimit - 1) value

/-- Content that is read back: its number has 64 bits, and so does its payload. -/
def Content.IsExact : Content → Prop
  | response requestSeq _ _ _ body => requestSeq < numberBound ∧ IsPayload body
  | event _ body => IsPayload body
  | request _ arguments => IsPayload arguments

/-- A message that is read back. -/
structure Message.IsExact (m : Message) : Prop where
  /-- The place in the sequence has 64 bits. -/
  seq_lt : m.seq < numberBound
  /-- What the message says is read back. -/
  content : m.content.IsExact

/-- A payload that is read back is not null. -/
theorem IsPayload.ne_null {payload : Option Json} (hpayload : IsPayload payload) :
    payload ≠ some .null := by
  rintro rfl
  exact (hpayload .null rfl).1 rfl

/-- The value of the field of a payload is read back. -/
theorem IsPayload.exact {name : String} {payload : Option Json} (hpayload : IsPayload payload) :
    ∀ field ∈ optionalField name payload, Json.Exact (Json.depthLimit - 1) field.2 := by
  cases payload with
  | none => simp [optionalField]
  | some value => simpa [optionalField] using (hpayload value rfl).2

/-- The values of all fields of a message are read back. -/
theorem Message.exact_of_mem_fields {m : Message} (hm : m.IsExact) :
    ∀ field ∈ m.fields, Json.Exact (Json.depthLimit - 1) field.2 := by
  obtain ⟨seq, type, content⟩ := m
  obtain ⟨hseq, hcontent⟩ := hm
  have hfront : ∀ field ∈ [("seq".toList, Json.natural seq), ("type".toList, .string type)],
      Json.Exact (Json.depthLimit - 1) field.2 := by
    simp only [List.forall_mem_cons, List.not_mem_nil, false_implies, implies_true, and_true]
    exact ⟨.number hseq, .string type⟩
  refine List.forall_mem_append.mpr ⟨hfront, ?_⟩
  cases content with
  | response requestSeq success command text body =>
    have htext : ∀ field ∈ optionalField "message" (text.map .string),
        Json.Exact (Json.depthLimit - 1) field.2 := by
      cases text with
      | none => simp [optionalField]
      | some text => simpa [optionalField] using .string text
    simp only [Content.fields, List.forall_mem_append, List.forall_mem_cons, List.not_mem_nil,
      false_implies, implies_true, and_true]
    exact ⟨⟨⟨.number hcontent.1, .bool success, .string command⟩, htext⟩, hcontent.2.exact⟩
  | event name body =>
    simp only [Content.fields, List.forall_mem_append, List.forall_mem_singleton]
    exact ⟨.string name, hcontent.exact⟩
  | request command arguments =>
    simp only [Content.fields, List.forall_mem_append, List.forall_mem_singleton]
    exact ⟨.string command, hcontent.exact⟩

/-- A field that is left out if it has no value is read back, unless its value is null. -/
theorem optionalField?_eq_some {name : String} {fields : List (Text × Json)}
    {payload : Option Json} (hnull : payload ≠ some .null)
    (hfields : fields.filter (fun field => field.1 = name.toList) = optionalField name payload) :
    optionalField? name fields = some payload := by
  rw [optionalField?, hfields]
  cases payload with
  | none => rfl
  | some value =>
    cases value with
    | null => contradiction
    | _ => rfl

namespace Message

/-- A request to load a text is read back. -/
theorem isExact_load {seq : Nat} (hseq : seq < numberBound) (type text : Text) :
    IsExact ⟨seq, type,
      .request "load".toList (some (.object [("text".toList, .string text)]))⟩ := by
  refine ⟨hseq, fun value hvalue => ?_⟩
  obtain rfl := Option.some.inj hvalue
  have hvalue : Json.Exact (125 + 1) (.object [("text".toList, .string text)]) :=
    Json.exact_object_of_names ["text".toList] (by decide) rfl
      (List.forall_mem_singleton.mpr (.string text))
  exact ⟨nofun, hvalue⟩

/-- The place in the sequence and the type stand in front of any content. -/
theorem requiredField?_fields (m : Message) :
    requiredField? "seq" m.fields = some (.natural m.seq) ∧
      requiredField? "type" m.fields = some (.string m.type) := by
  obtain ⟨seq, type, content⟩ := m
  cases content with
  | response requestSeq success command text body => cases text <;> cases body <;> exact ⟨rfl, rfl⟩
  | event name body => cases body <;> exact ⟨rfl, rfl⟩
  | request command arguments => cases arguments <;> exact ⟨rfl, rfl⟩

/-- A response is read back from its fields. -/
theorem responseOfFields?_fields (seq : Nat) (type : Text) (requestSeq : Nat) (success : Bool)
    (command : Text) (text : Option Text) {body : Option Json} (hbody : body ≠ some .null) :
    Content.responseOfFields? (fields ⟨seq, type, .response requestSeq success command text body⟩) =
      some (.response requestSeq success command text body) := by
  generalize hfields :
    fields ⟨seq, type, .response requestSeq success command text body⟩ = written
  have hrequired : requiredField? "request_seq" written = some (.natural requestSeq) ∧
      requiredField? "success" written = some (.bool success) ∧
      requiredField? "command" written = some (.string command) := by
    subst hfields
    cases text <;> cases body <;> exact ⟨rfl, rfl, rfl⟩
  have htext : optionalField? "message" written = some (text.map .string) := by
    subst hfields
    apply optionalField?_eq_some (by simp)
    cases text <;> cases body <;> rfl
  have hpayload : optionalField? "body" written = some body := by
    subst hfields
    apply optionalField?_eq_some hbody
    cases text <;> cases body <;> rfl
  obtain ⟨hseq, hsuccess, hcommand⟩ := hrequired
  simp only [Content.responseOfFields?, hseq, hsuccess, hcommand, htext, hpayload, bind,
    Option.bind]
  cases text <;> rfl

/-- An event is read back from its fields, which do not describe a response. -/
theorem eventOfFields?_fields (seq : Nat) (type name : Text) {body : Option Json}
    (hbody : body ≠ some .null) :
    Content.responseOfFields? (fields ⟨seq, type, .event name body⟩) = none ∧
      Content.eventOfFields? (fields ⟨seq, type, .event name body⟩) = some (.event name body) := by
  generalize hfields : fields ⟨seq, type, .event name body⟩ = written
  have hrequired : requiredField? "request_seq" written = none ∧
      requiredField? "event" written = some (.string name) := by
    subst hfields
    cases body <;> exact ⟨rfl, rfl⟩
  have hpayload : optionalField? "body" written = some body := by
    subst hfields
    apply optionalField?_eq_some hbody
    cases body <;> rfl
  obtain ⟨hseq, hname⟩ := hrequired
  constructor
  · simp [Content.responseOfFields?, hseq]
  · simp [Content.eventOfFields?, hname, hpayload, Json.string?]

/-- A request is read back from its fields, which describe neither a response nor an event. -/
theorem requestOfFields?_fields (seq : Nat) (type command : Text) {arguments : Option Json}
    (harguments : arguments ≠ some .null) :
    Content.responseOfFields? (fields ⟨seq, type, .request command arguments⟩) = none ∧
      Content.eventOfFields? (fields ⟨seq, type, .request command arguments⟩) = none ∧
      Content.requestOfFields? (fields ⟨seq, type, .request command arguments⟩) =
        some (.request command arguments) := by
  generalize hfields : fields ⟨seq, type, .request command arguments⟩ = written
  have hrequired : requiredField? "request_seq" written = none ∧
      requiredField? "event" written = none ∧
      requiredField? "command" written = some (.string command) := by
    subst hfields
    cases arguments <;> exact ⟨rfl, rfl, rfl⟩
  have hpayload : optionalField? "arguments" written = some arguments := by
    subst hfields
    apply optionalField?_eq_some harguments
    cases arguments <;> rfl
  obtain ⟨hseq, hname, hcommand⟩ := hrequired
  refine ⟨?_, ?_, ?_⟩
  · simp [Content.responseOfFields?, hseq]
  · simp [Content.eventOfFields?, hname]
  · simp [Content.requestOfFields?, hcommand, hpayload, Json.string?]

/-- Content is read back from the fields of a message: they fit no kind that is tried before its
own. -/
theorem ofFields?_fields {m : Message} (hcontent : m.content.IsExact) :
    Content.ofFields? m.fields = some m.content := by
  obtain ⟨seq, type, content⟩ := m
  cases content with
  | response requestSeq success command text body =>
    have hresponse := responseOfFields?_fields seq type requestSeq success command text
      hcontent.2.ne_null
    rw [Content.ofFields?, hresponse]
    rfl
  | event name body =>
    obtain ⟨hresponse, hevent⟩ := eventOfFields?_fields seq type name hcontent.ne_null
    rw [Content.ofFields?, hresponse, hevent]
    rfl
  | request command arguments =>
    obtain ⟨hresponse, hevent, hrequest⟩ :=
      requestOfFields?_fields seq type command hcontent.ne_null
    rw [Content.ofFields?, hresponse, hevent, hrequest]
    rfl

/-- A message is read back from its written form. -/
theorem parse?_render {m : Message} (hm : m.IsExact) : parse? m.render = some m := by
  obtain ⟨hseq, htype⟩ := m.requiredField?_fields
  have hfields := Json.parseFields?_renderFields (exact_of_mem_fields hm)
  have hcontent := ofFields?_fields hm.content
  simp only [parse?, render, hfields, hseq, htype, hcontent, bind, Option.bind]
  rfl

/-- A message is sent in an envelope that declares its length and says nothing else. -/
def envelope (m : Message) : Envelope where
  blanks := []
  above := []
  declaration := .returnFeed
  below := []
  closing := .returnFeed
  body := Text.toBytes m.render
  body_pos := by
    rw [Text.length_toBytes]
    exact Nat.add_pos_left (Char.utf8Size_pos '\x7b') _

/-- A frame is the envelope of its message. -/
theorem bytes_envelope (m : Message) : m.envelope.bytes = Text.toBytes m.frame := by
  have hdeclaration : m.envelope.declarationText =
      lengthHeader ++ [' '] ++ .ofNumber m.render.byteSize := by
    rw [Envelope.declarationText, envelope, Text.length_toBytes]
  have hending : "\r\n\r\n".toList = LineEnding.returnFeed.text ++ LineEnding.returnFeed.text := rfl
  simp only [Envelope.bytes, hdeclaration, frame, hending, Text.toBytes_append, List.append_assoc]
  simp [envelope]

/-- Messages that are written one behind the other stand in their envelopes. -/
theorem flatMap_bytes_envelope (messages : List Message) :
    (messages.map envelope).flatMap Envelope.bytes = Text.toBytes (messages.flatMap frame) := by
  induction messages with
  | nil => rfl
  | cons m later ih =>
    rw [List.map_cons, List.flatMap_cons, ih, bytes_envelope, List.flatMap_cons,
      Text.toBytes_append]

/-- The body of a written message is read as the message. -/
theorem ofBody_render {m : Message} (hm : m.IsExact) (rest : Bytes) :
    Reading.ofBody (Text.toBytes m.render) rest = .message m rest := by
  rw [Reading.ofBody, Text.ofBytes?_toBytes, Option.bind_eq_bind, Option.bind_some,
    parse?_render hm]

/-- The readings of messages that are written one behind the other: each takes its own frame away
and leaves those behind it. -/
def readings : List Message → List Reading
  | [] => []
  | m :: later => .message m (Text.toBytes (later.flatMap frame)) :: readings later

/-- The envelopes of messages are read as the messages. -/
theorem readings_envelopes {messages : List Message} (hmessages : ∀ m ∈ messages, m.IsExact) :
    Envelope.readings (messages.map envelope) [] = readings messages := by
  induction messages with
  | nil => rfl
  | cons m later ih =>
    have hlater := ih fun other hother => hmessages other (List.mem_cons_of_mem m hother)
    rw [List.map_cons, Envelope.readings, hlater, List.append_nil, flatMap_bytes_envelope,
      readings]
    rw [envelope, ofBody_render (hmessages m List.mem_cons_self)]

end Message

/-- Messages that are written one behind the other are read back one by one, to the end of the
input. -/
theorem readMessages_frames {limit : Nat} (hlimit : limit < numberBound) {messages : List Message}
    (hmessages : ∀ m ∈ messages, m.IsExact)
    (hshort : ∀ m ∈ messages, m.render.byteSize ≤ limit) :
    readMessages limit (Text.toBytes (messages.flatMap Message.frame)) =
      Message.readings messages := by
  have hbodies : ∀ e ∈ messages.map Message.envelope, e.body.length ≤ limit := by
    intro e he
    obtain ⟨m, hm, rfl⟩ := List.mem_map.mp he
    rw [Message.envelope, Text.length_toBytes]
    exact hshort m hm
  have hend : readMessages limit [] = [] := by
    apply readMessages_of_endOfInput
    rw [readMessage, readHeader]
    rfl
  have hread := readMessages_envelopes hlimit hbodies []
  rwa [List.append_nil, Message.flatMap_bytes_envelope, Message.readings_envelopes hmessages, hend,
    List.append_nil] at hread

/-- All kinds of content, with escapes, characters of several bytes and the least and the greatest
number. -/
theorem readMessages_frames_kinds :
    let payload : Json := .object [
      ("a".toList, .array [.number (.negative 9223372036854775808), .null]),
      ("é\"".toList, .string "\n\\\x00".toList)]
    let messages : List Message := [
      ⟨18446744073709551615, "event".toList, .response 0 false "é".toList (some []) (some payload)⟩,
      ⟨2, "event".toList, .event "loaded".toList none⟩,
      ⟨3, [], .request "load".toList (some payload)⟩]
    200 < numberBound ∧ (∀ m ∈ messages, m.IsExact) ∧
      (∀ m ∈ messages, m.render.byteSize ≤ 200) ∧
      readMessages 200 (Text.toBytes (messages.flatMap Message.frame)) =
        Message.readings messages := by
  intro payload messages
  have hlimit : 200 < numberBound := by decide
  have hitems : ∀ item ∈ [.number (.negative 9223372036854775808), .null], Json.Exact 124 item :=
    List.forall_mem_cons.mpr ⟨.number (by decide), List.forall_mem_singleton.mpr .null⟩
  have hpayload : IsPayload (some payload) := by
    intro value hvalue
    obtain rfl := Option.some.inj hvalue
    have hfields : Json.Exact (125 + 1) payload :=
      .object (by decide) (List.forall_mem_cons.mpr
        ⟨.array hitems, List.forall_mem_singleton.mpr (.string _)⟩)
    exact ⟨nofun, hfields⟩
  have hexact : ∀ m ∈ messages, m.IsExact :=
    List.forall_mem_cons.mpr ⟨⟨by decide, by decide, hpayload⟩,
      List.forall_mem_cons.mpr ⟨⟨by decide, nofun⟩,
        List.forall_mem_singleton.mpr ⟨by decide, hpayload⟩⟩⟩
  have hshort : ∀ m ∈ messages, m.render.byteSize ≤ 200 := by decide +kernel
  exact ⟨hlimit, hexact, hshort, readMessages_frames hlimit hexact hshort⟩

end SpanViewer
