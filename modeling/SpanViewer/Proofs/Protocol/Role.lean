import Mathlib.Data.Option.Basic
import SpanViewer.Proofs.Protocol.Frame
import SpanViewer.Proofs.Protocol.Written

/-!
# The role of a message

A message is an object, and its fields decide what it is: a response if it has those of a response,
else an event if it has those of an event, else a request if it has those of a request. The type
that its sender names has no part in this.
-/

namespace SpanViewer

/-- The values of all fields of a name. -/
def fieldValues (name : String) (fields : List (Text × Json)) : List Json :=
  (fields.filter fun field => field.1 = name.toList).map Prod.snd

/-- What the values of a field mean that may be left out. -/
inductive OptionalValue : List Json → Option Json → Prop
  /-- The field is left out. -/
  | absent : OptionalValue [] none
  /-- A null is no value. -/
  | null : OptionalValue [.null] none
  /-- The field has a value. -/
  | value {value : Json} (hvalue : value ≠ .null) : OptionalValue [value] (some value)

/-- The fields of a response. -/
structure IsResponse (fields : List (Text × Json)) : Prop where
  /-- One number of a request. -/
  requestSeq : ∃ requestSeq, fieldValues "request_seq" fields = [.natural requestSeq]
  /-- One truth value. -/
  success : ∃ success, fieldValues "success" fields = [.bool success]
  /-- One command. -/
  command : ∃ command, fieldValues "command" fields = [.string command]
  /-- At most one text for the user. -/
  message : ∃ message : Option Text,
    OptionalValue (fieldValues "message" fields) (message.map .string)
  /-- At most one body. -/
  body : (fieldValues "body" fields).length ≤ 1

/-- The fields of an event. -/
structure IsEvent (fields : List (Text × Json)) : Prop where
  /-- One name. -/
  name : ∃ name, fieldValues "event" fields = [.string name]
  /-- At most one body. -/
  body : (fieldValues "body" fields).length ≤ 1

/-- The fields of a request. -/
structure IsRequest (fields : List (Text × Json)) (command : Text) (arguments : Option Json) :
    Prop where
  /-- One command. -/
  command : fieldValues "command" fields = [.string command]
  /-- At most one field of arguments. -/
  arguments : OptionalValue (fieldValues "arguments" fields) arguments

/-- A field that may be left out has some meaning unless it stands there twice. -/
theorem exists_optionalValue_iff {values : List Json} :
    (∃ value, OptionalValue values value) ↔ values.length ≤ 1 := by
  constructor
  · rintro ⟨value, hvalue⟩
    cases hvalue <;> simp
  · intro hlength
    rcases values with _ | ⟨value, _ | ⟨next, rest⟩⟩
    · exact ⟨none, .absent⟩
    · by_cases hvalue : value = .null
      · exact ⟨none, hvalue ▸ .null⟩
      · exact ⟨some value, .value hvalue⟩
    · simp at hlength

/-- A required field has one value. -/
theorem requiredField?_eq_some_iff {name : String} {fields : List (Text × Json)} {value : Json} :
    requiredField? name fields = some value ↔ fieldValues name fields = [value] := by
  unfold requiredField? fieldValues
  cases fields.filter fun field => field.1 = name.toList with
  | nil => simp
  | cons field others => cases others <;> simp

/-- An optional field has at most one value. -/
theorem optionalField?_eq_some_iff {name : String} {fields : List (Text × Json)}
    {value : Option Json} :
    optionalField? name fields = some value ↔ OptionalValue (fieldValues name fields) value := by
  unfold optionalField? fieldValues
  generalize fields.filter (fun field => field.1 = name.toList) = found
  constructor
  · intro hvalue
    split at hvalue
    · obtain rfl := Option.some.inj hvalue
      exact .absent
    · obtain rfl := Option.some.inj hvalue
      exact .null
    · next field hnull =>
      obtain rfl := Option.some.inj hvalue
      exact .value fun heq => hnull field.1 (heq ▸ rfl)
    · contradiction
  · intro hvalue
    generalize hvalues : found.map Prod.snd = values at hvalue
    cases hvalue with
    | absent =>
      obtain rfl := List.map_eq_nil_iff.mp hvalues
      rfl
    | null =>
      obtain ⟨⟨found, _⟩, rfl, rfl⟩ := List.map_eq_singleton_iff.mp hvalues
      rfl
    | value hvalue =>
      obtain ⟨⟨found, value⟩, rfl, rfl⟩ := List.map_eq_singleton_iff.mp hvalues
      cases value with
      | null => contradiction
      | _ => rfl

namespace Json

/-- A value is a natural number. -/
theorem natural?_eq_some_iff {value : Json} {n : Nat} :
    value.natural? = some n ↔ value = .natural n := by
  unfold natural? natural
  split <;> simp_all

/-- A value is a text. -/
theorem string?_eq_some_iff {value : Json} {text : Text} :
    value.string? = some text ↔ value = .string text := by
  cases value <;> simp [string?]

/-- A value is a truth value. -/
theorem bool?_eq_some_iff {value : Json} {b : Bool} :
    value.bool? = some b ↔ value = .bool b := by
  cases value <;> simp [bool?]

end Json

namespace Content

variable {fields : List (Text × Json)}

/-- Only the fields of a response are read as one, and then not as a request. -/
theorem isResponse_of_responseOfFields? {content : Content}
    (hcontent : responseOfFields? fields = some content) :
    IsResponse fields ∧ ∀ command arguments, content ≠ .request command arguments := by
  simp only [responseOfFields?, Option.bind_eq_bind, Option.bind_eq_some_iff,
    requiredField?_eq_some_iff, optionalField?_eq_some_iff, Json.natural?_eq_some_iff,
    Json.bool?_eq_some_iff, Json.string?_eq_some_iff] at hcontent
  obtain ⟨_, hseq, seq, rfl, _, hsuccess, success, rfl, _, hcommand, command, rfl, value,
    hmessage, hrest⟩ := hcontent
  -- The body is read in the same way behind a text for the user as without one.
  have htext : ∃ text : Option Text, value = text.map .string ∧ ∃ body,
      optionalField? "body" fields = some body ∧
        content = .response seq success command text body := by
    cases value with
    | none =>
      obtain ⟨body, hbody, hrest⟩ := Option.bind_eq_some_iff.mp (Option.bind_some .. ▸ hrest)
      exact ⟨none, rfl, body, hbody, (Option.some.inj hrest).symm⟩
    | some value =>
      obtain ⟨text, htext, hrest⟩ := Option.bind_eq_some_iff.mp hrest
      obtain ⟨body, hbody, hrest⟩ := Option.bind_eq_some_iff.mp hrest
      obtain ⟨text, hvalue, rfl⟩ := Option.map_eq_some_iff.mp htext
      exact ⟨some text, congrArg some (Json.string?_eq_some_iff.mp hvalue), body, hbody,
        (Option.some.inj hrest).symm⟩
  obtain ⟨text, rfl, body, hbody, rfl⟩ := htext
  have hlength := exists_optionalValue_iff.mp ⟨body, optionalField?_eq_some_iff.mp hbody⟩
  exact ⟨⟨⟨seq, hseq⟩, ⟨success, hsuccess⟩, ⟨command, hcommand⟩, ⟨text, hmessage⟩, hlength⟩,
    by simp⟩

/-- The fields of a response are read as one. -/
theorem exists_responseOfFields? (hfields : IsResponse fields) :
    ∃ content, responseOfFields? fields = some content := by
  obtain ⟨⟨seq, hseq⟩, ⟨success, hsuccess⟩, ⟨command, hcommand⟩, ⟨text, hmessage⟩, hlength⟩ :=
    hfields
  obtain ⟨body, hbody⟩ := exists_optionalValue_iff.mpr hlength
  refine ⟨.response seq success command text body, ?_⟩
  simp only [responseOfFields?, requiredField?_eq_some_iff.mpr hseq,
    requiredField?_eq_some_iff.mpr hsuccess, requiredField?_eq_some_iff.mpr hcommand,
    optionalField?_eq_some_iff.mpr hmessage, optionalField?_eq_some_iff.mpr hbody, bind,
    Option.bind]
  cases text <;> rfl

/-- Without the fields of a response no response is read. -/
theorem responseOfFields?_eq_none_iff : responseOfFields? fields = none ↔ ¬ IsResponse fields := by
  rw [← Option.not_isSome_iff_eq_none, Option.isSome_iff_exists]
  exact not_congr ⟨fun ⟨_, hcontent⟩ => (isResponse_of_responseOfFields? hcontent).1,
    exists_responseOfFields?⟩

/-- Only the fields of an event are read as one, and then not as a request. -/
theorem isEvent_of_eventOfFields? {content : Content}
    (hcontent : eventOfFields? fields = some content) :
    IsEvent fields ∧ ∀ command arguments, content ≠ .request command arguments := by
  simp only [eventOfFields?, Option.bind_eq_bind, Option.bind_eq_some_iff,
    requiredField?_eq_some_iff, optionalField?_eq_some_iff, Json.string?_eq_some_iff] at hcontent
  obtain ⟨_, hname, name, rfl, body, hbody, hrest⟩ := hcontent
  obtain rfl := Option.some.inj hrest
  exact ⟨⟨⟨name, hname⟩, exists_optionalValue_iff.mp ⟨body, hbody⟩⟩, by simp⟩

/-- The fields of an event are read as one. -/
theorem exists_eventOfFields? (hfields : IsEvent fields) :
    ∃ content, eventOfFields? fields = some content := by
  obtain ⟨⟨name, hname⟩, hlength⟩ := hfields
  obtain ⟨body, hbody⟩ := exists_optionalValue_iff.mpr hlength
  refine ⟨.event name body, ?_⟩
  simp only [eventOfFields?, requiredField?_eq_some_iff.mpr hname,
    optionalField?_eq_some_iff.mpr hbody, bind, Option.bind]
  rfl

/-- Without the fields of an event no event is read. -/
theorem eventOfFields?_eq_none_iff : eventOfFields? fields = none ↔ ¬ IsEvent fields := by
  rw [← Option.not_isSome_iff_eq_none, Option.isSome_iff_exists]
  exact not_congr ⟨fun ⟨_, hcontent⟩ => (isEvent_of_eventOfFields? hcontent).1,
    exists_eventOfFields?⟩

/-- The fields of a request are read as one. -/
theorem requestOfFields?_eq_some_iff {command : Text} {arguments : Option Json} :
    requestOfFields? fields = some (.request command arguments) ↔
      IsRequest fields command arguments := by
  simp only [requestOfFields?, Option.bind_eq_bind, Option.bind_eq_some_iff,
    requiredField?_eq_some_iff, optionalField?_eq_some_iff, Json.string?_eq_some_iff]
  constructor
  · rintro ⟨_, hcommand, command, rfl, arguments, harguments, hrest⟩
    obtain ⟨rfl, rfl⟩ := Content.request.inj (Option.some.inj hrest)
    exact ⟨hcommand, harguments⟩
  · rintro ⟨hcommand, harguments⟩
    exact ⟨_, hcommand, command, rfl, arguments, harguments, rfl⟩

/-- Fields are those of a request if they are neither those of a response nor those of an event. -/
theorem ofFields?_eq_request_iff {command : Text} {arguments : Option Json} :
    ofFields? fields = some (.request command arguments) ↔
      IsRequest fields command arguments ∧ ¬ IsResponse fields ∧ ¬ IsEvent fields := by
  rw [ofFields?, Option.orElse_eq_some, Option.orElse_eq_some, requestOfFields?_eq_some_iff,
    responseOfFields?_eq_none_iff, eventOfFields?_eq_none_iff]
  constructor
  · rintro (hresponse | ⟨hresponse, hevent | ⟨hevent, hrequest⟩⟩)
    · exact absurd rfl ((isResponse_of_responseOfFields? hresponse).2 command arguments)
    · exact absurd rfl ((isEvent_of_eventOfFields? hevent).2 command arguments)
    · exact ⟨hrequest, hresponse, hevent⟩
  · rintro ⟨hrequest, hresponse, hevent⟩
    exact .inr ⟨hresponse, .inr ⟨hevent, hrequest⟩⟩

end Content

namespace Frame

/-- The body of a frame is an object of some fields, one number and one type among them. -/
structure Holds (f : Frame) (fields : List (Text × Json)) (seq : Nat) (type : Text) : Prop where
  /-- The body is the text of an object. -/
  object : ∃ text, Text.ofBytes? f.body = some text ∧ Json.parseFields? text = some fields
  /-- One number. -/
  seq : fieldValues "seq" fields = [.natural seq]
  /-- One type. -/
  type : fieldValues "type" fields = [.string type]

variable {f : Frame} {fields : List (Text × Json)} {seq : Nat} {type : Text}

/-- A written object is held by its frame. -/
theorem holds_of_body_eq
    (hbody : f.body = Text.toBytes (['\x7b'] ++ Json.renderFields fields ++ ['\x7d']))
    (hfields : ∀ field ∈ fields, Json.Exact (Json.depthLimit - 1) field.2)
    (hseq : fieldValues "seq" fields = [.natural seq])
    (htype : fieldValues "type" fields = [.string type]) : f.Holds fields seq type where
  object := ⟨_, by rw [hbody, Text.ofBytes?_toBytes], Json.parseFields?_renderFields hfields⟩
  seq := hseq
  type := htype

/-- What a frame says is what its fields say. -/
theorem message?_of_holds {limit : Nat} (hholds : f.Holds fields seq type)
    (hlimit : f.body.length ≤ limit) :
    f.message? limit = (Content.ofFields? fields).map fun content => ⟨seq, type, content⟩ := by
  obtain ⟨⟨text, htext, hobject⟩, hseq, htype⟩ := hholds
  have hparse : Message.parse? text =
      (Content.ofFields? fields).map fun content => ⟨seq, type, content⟩ := by
    simp only [Message.parse?, hobject, requiredField?_eq_some_iff.mpr hseq,
      requiredField?_eq_some_iff.mpr htype, bind, Option.bind]
    cases Content.ofFields? fields <;> rfl
  rw [message?, if_neg (Nat.not_lt_of_le hlimit), htext]
  exact hparse

end Frame

/-- A request is answered with one response, and all that is sent behind it are events. -/
theorem Viewer.exists_respond_eq (v : Viewer) (files : Files) (seq : Nat) (command : Text)
    (arguments : Option Json) :
    ∃ success text body events,
      (v.respond files seq command arguments).1 =
        .response seq success command text body :: events ∧
      ∀ content ∈ events, ∃ name news, content = .event name news := by
  unfold respond
  cases v.answer files command arguments with
  | error fault => exact ⟨false, some fault.message, none, [], rfl, by simp⟩
  | ok outcome =>
    refine ⟨true, none, outcome.1, announcement command outcome.1, rfl, fun content hcontent => ?_⟩
    unfold announcement at hcontent
    split at hcontent
    · exact ⟨_, _, List.mem_singleton.mp hcontent⟩
    · split at hcontent
      · exact ⟨_, _, List.mem_singleton.mp hcontent⟩
      · contradiction

namespace Service

/-- A frame holds an object with one number and one type, whatever its other fields are. If its body
is within the limit and it has the fields of a request, but neither those of a response nor those of
an event, then it is carried out and answered with one response, which only events follow, and the
session ends with it if it asks to disconnect. If it has not, then the session is the one without
the frame. The type does not count. -/
theorem ofServer_holds (files : Files) (limit : Nat) (s : Server) {f : Frame}
    {fields : List (Text × Json)} {seq : Nat} {type : Text} (hholds : f.Holds fields seq type)
    (rest : Bytes) :
    let session := ofServer files limit s (f.bytes ++ rest)
    (limit < f.body.length →
      session = prepend [⟨s.seq + 1, "response".toList, oversizedResponse limit f.body.length⟩]
        (ofServer files limit ⟨s.seq + 1, s.viewer⟩ rest)) ∧
    (f.body.length ≤ limit →
      (∀ command arguments, IsRequest fields command arguments →
        ¬ IsResponse fields → ¬ IsEvent fields →
        ∃ success text body events,
          let contents := .response seq success command text body :: events
          let messages := numbered s.seq contents
          let next : Server :=
            ⟨s.seq + contents.length, (s.viewer.respond files seq command arguments).2⟩
          (s.viewer.respond files seq command arguments).1 = contents ∧
          (∀ content ∈ events, ∃ name news, content = .event name news) ∧
          session =
            if command = "disconnect".toList then ⟨messages, none, next⟩
            else prepend messages (ofServer files limit next rest)) ∧
      ((∀ command arguments, IsRequest fields command arguments →
          IsResponse fields ∨ IsEvent fields) →
        session = ofServer files limit s rest)) := by
  intro session
  refine ⟨fun hlong => ofServer_oversized hlong files s rest, fun hlimit => ⟨?_, ?_⟩⟩
  · intro command arguments hrequest hresponse hevent
    have hmessage := Frame.message?_of_holds hholds hlimit
    rw [Content.ofFields?_eq_request_iff.mpr ⟨hrequest, hresponse, hevent⟩, Option.map_some]
      at hmessage
    obtain ⟨success, text, body, events, hcontents, hevents⟩ :=
      s.viewer.exists_respond_eq files seq command arguments
    refine ⟨success, text, body, events, hcontents, hevents, ?_⟩
    rw [← hcontents]
    exact ofServer_request hmessage rfl files s rest
  · intro hother
    have hmessage := Frame.message?_of_holds hholds hlimit
    cases hcontent : Content.ofFields? fields with
    | none =>
      rw [hcontent, Option.map_none] at hmessage
      exact ofServer_malformed hlimit hmessage files s rest
    | some content =>
      rw [hcontent, Option.map_some] at hmessage
      refine ofServer_not_request hmessage (fun command arguments hrequest => ?_) files s rest
      obtain rfl : content = .request command arguments := hrequest
      obtain ⟨hfields, hresponse, hevent⟩ := Content.ofFields?_eq_request_iff.mp hcontent
      exact (hother command arguments hfields).elim hresponse hevent

/-- A request is carried out that calls itself an event. -/
theorem ofServer_holds_load :
    let files : Files := fun _ => .error .missing
    let arguments : Json := .object [("text".toList, .string ['x'])]
    let request : Message := ⟨1, "event".toList, .request "load".toList (some arguments)⟩
    let load : Frame := ⟨[⟨"Content-Length: 66".toList, .returnFeed, by decide, by decide⟩],
      .returnFeed, Text.toBytes request.render, by decide +kernel⟩
    load.Holds request.fields 1 "event".toList ∧
      ∃ success text body events,
        let contents := .response 1 success "load".toList text body :: events
        (∀ content ∈ events, ∃ name news, content = .event name news) ∧
        ofServer files 66 ⟨7, {}⟩ (load.bytes ++ []) =
          prepend (numbered 7 contents)
            (ofServer files 66 ⟨7 + contents.length, Viewer.loadText {} ['x']⟩ []) := by
  intro files arguments request load
  have hrequest : request.IsExact := Message.isExact_load (by decide) _ _
  have hholds : load.Holds request.fields 1 "event".toList :=
    Frame.holds_of_body_eq rfl (Message.exact_of_mem_fields hrequest) rfl rfl
  have hfields : IsRequest request.fields "load".toList (some arguments) := ⟨rfl, .value nofun⟩
  have hresponse : ¬ IsResponse request.fields := fun ⟨⟨_, hseq⟩, _, _, _, _⟩ => nomatch hseq
  have hevent : ¬ IsEvent request.fields := fun ⟨⟨_, hname⟩, _⟩ => nomatch hname
  obtain ⟨-, hwithin⟩ := ofServer_holds files 66 ⟨7, {}⟩ hholds []
  obtain ⟨hcarried, -⟩ := hwithin (by decide +kernel)
  obtain ⟨success, text, body, events, -, hevents, hsession⟩ :=
    hcarried "load".toList (some arguments) hfields hresponse hevent
  exact ⟨hholds, success, text, body, events, hevents, hsession⟩

/-- What calls itself an event is carried out, and what calls itself a request is passed over for a
field that a request lacks. -/
theorem role_against_type :
    let files : Files := fun _ => .error .missing
    let arguments : Json := .object [("text".toList, .string ['x'])]
    let load : Message := ⟨1, "event".toList, .request "load".toList (some arguments)⟩
    let start : List (Text × Json) := [("seq".toList, .natural 2),
      ("type".toList, .string "request".toList), ("command".toList, .string "initialize".toList),
      ("event".toList, .string [])]
    let first : Frame := ⟨[⟨"Content-Length: 66".toList, .returnFeed, by decide, by decide⟩],
      .returnFeed, Text.toBytes load.render, by decide +kernel⟩
    let second : Frame := ⟨[⟨"Content-Length: 60".toList, .returnFeed, by decide, by decide⟩],
      .returnFeed, Text.toBytes (['\x7b'] ++ Json.renderFields start ++ ['\x7d']),
      by decide +kernel⟩
    first.Holds load.fields 1 "event".toList ∧
      (ofInput files 66 {} (first.bytes ++ [])).viewer = Viewer.loadText {} ['x'] ∧
      (ofInput files 66 {} (first.bytes ++ [])).messages ≠ [] ∧
      second.Holds start 2 "request".toList ∧ IsRequest start "initialize".toList none ∧
      (ofInput files 66 {} (second.bytes ++ [])).messages = [] := by
  intro files arguments load start first second
  have hload : load.IsExact := Message.isExact_load (by decide) _ _
  have hfirst : first.Holds load.fields 1 "event".toList :=
    Frame.holds_of_body_eq rfl (Message.exact_of_mem_fields hload) rfl rfl
  have hstart : ∀ field ∈ start, Json.Exact (Json.depthLimit - 1) field.2 :=
    List.forall_mem_cons.mpr ⟨.number (by decide), List.forall_mem_cons.mpr ⟨.string _,
      List.forall_mem_cons.mpr ⟨.string _, List.forall_mem_singleton.mpr (.string _)⟩⟩⟩
  have hsecond : second.Holds start 2 "request".toList :=
    Frame.holds_of_body_eq rfl hstart rfl rfl
  have hcarried : ofInput files 66 {} (first.bytes ++ []) =
      prepend (numbered 0 (Viewer.respond {} files 1 "load".toList (some arguments)).1)
        (ofServer files 66 ⟨2, Viewer.loadText {} ['x']⟩ []) :=
    ofServer_request (Frame.message?_of_holds hfirst (by decide +kernel)) rfl files _ []
  have hpassed : ofInput files 66 {} (second.bytes ++ []) = ofInput files 66 {} [] :=
    ofServer_not_request (Frame.message?_of_holds hsecond (by decide +kernel)) nofun files _ []
  refine ⟨hfirst, ?_, ?_, hsecond, ⟨rfl, .absent⟩, ?_⟩
  · rw [hcarried, ofServer_nil]
    rfl
  · rw [hcarried]
    exact List.cons_ne_nil _ _
  · rw [hpassed, ofInput, ofServer_nil]

end Service

end SpanViewer
