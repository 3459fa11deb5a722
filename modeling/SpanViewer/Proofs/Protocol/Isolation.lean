import SpanViewer.Proofs.Protocol.Ending
import SpanViewer.Proofs.Protocol.Frame

/-!
# Bad frames

A frame that is no message, or that is too long, does not touch the requests around it: the session
with it is the session without it, but for one response that says that a body is too long. What
such a body holds does not count.
-/

namespace SpanViewer

/-- The message one place later in the sequence. -/
def Message.moveOn (m : Message) : Message :=
  { m with seq := m.seq + 1 }

/-- One message more in front moves all others on. -/
theorem numbered_succ (last : Nat) (contents : List Content) :
    numbered (last + 1) contents = (numbered last contents).map Message.moveOn := by
  induction contents generalizing last with
  | nil => rfl
  | cons content contents ih =>
    rw [numbered_cons, numbered_cons, ih, List.map_cons, Message.moveOn]

/-- The server with one message more behind it. -/
def Server.moveOn (s : Server) : Server :=
  { s with seq := s.seq + 1 }

/-- A step with one message more behind it sends the same, one place later. -/
theorem Server.step_moveOn (s : Server) (files : Files) (limit : Nat) (reading : Reading) :
    s.moveOn.step files limit reading =
      ((s.step files limit reading).1.map Message.moveOn,
        (s.step files limit reading).2.moveOn) := by
  have hseq (count : Nat) : s.seq + 1 + count = s.seq + count + 1 := Nat.add_right_comm _ _ _
  rw [step_eq, step_eq, moveOn, moveOn, numbered_succ, hseq]

namespace Service

/-- The session with one message more in front of it. -/
def moveOn (service : Service) : Service :=
  ⟨service.messages.map Message.moveOn, service.cause, service.server.moveOn⟩

/-- A session with one message more behind its server sends the same, one place later, and remembers
nothing else of that message. -/
theorem ofReadings_moveOn (files : Files) (limit : Nat) (s : Server) (readings : List Reading) :
    ofReadings files limit s.moveOn readings = (ofReadings files limit s readings).moveOn := by
  induction readings generalizing s with
  | nil => rfl
  | cons reading readings ih =>
    rw [ofReadings, ofReadings, Server.step_moveOn]
    dsimp only
    split
    · rfl
    · rw [ih, prepend, prepend, moveOn, moveOn, List.map_append]

/-- So does a session over an input. -/
theorem ofServer_moveOn (files : Files) (limit : Nat) (s : Server) (input : Bytes) :
    ofServer files limit s.moveOn input = (ofServer files limit s input).moveOn := by
  rw [ofServer_eq_ofReadings, ofServer_eq_ofReadings, ofReadings_moveOn]

/-- **A bad frame does not touch what stands around it.** Behind frames none of which is a request to
disconnect stands a bad frame, and behind it whatever else is in the input. The session ends as it
does without the bad frame. It sends the same messages, unless the body of the bad frame is above the
limit: then there is one response more, behind what the frames in front are answered, and all that
follows moves on by one. Any other frame with a body of this length would lead to the same session.
What these sessions write is read as the messages that they send. -/
theorem ofInput_badFrame (files : Files) (limit : Nat) (v : Viewer) {above : List Frame}
    (habove : ∀ f ∈ above, ¬ f.Disconnects limit) {bad : Frame} (hbad : bad.message? limit = none)
    (rest : Bytes) :
    let session (input : Bytes) := ofInput files limit v input
    let front := above.flatMap Frame.bytes
    let plain := session (front ++ rest)
    let disturbed := session (front ++ bad.bytes ++ rest)
    disturbed.result = plain.result ∧ disturbed.viewer = plain.viewer ∧
    (bad.body.length ≤ limit → disturbed = plain) ∧
    (limit < bad.body.length →
      (∃ later : List Message,
        let response : Message := ⟨(session front).messages.length + 1, "response".toList,
          .response 0 false "message".toList
            (some (oversizedFault limit bad.body.length).message) none⟩
        plain.messages = (session front).messages ++ later ∧
        disturbed.messages = (session front).messages ++ response :: later.map Message.moveOn ∧
        plain.frames = (session front).frames ++ later.map Message.frame ∧
        disturbed.frames =
          (session front).frames ++ response.frame :: (later.map Message.moveOn).map Message.frame) ∧
      disturbed.server = { plain.server with seq := plain.server.seq + 1 } ∧
      ∀ other : Frame, other.body.length = bad.body.length →
        session (front ++ other.bytes ++ rest) = disturbed) ∧
    ∀ input, IsCounted files limit v input → ∀ bound < numberBound,
      (∀ m ∈ (session input).messages, m.render.byteSize ≤ bound) →
      readMessages bound (Text.toBytes (session input).frames.flatten) =
        Message.readings (session input).messages := by
  intro session front plain disturbed
  have happend (input : Bytes) : session (front ++ input) =
      prepend (session front).messages (ofServer files limit (session front).server input) :=
    ofServer_append habove files { viewer := v } input
  have hplain : plain = _ := happend rest
  have hdisturbed : disturbed = session (front ++ (bad.bytes ++ rest)) := by
    rw [← List.append_assoc]
  have hread (input : Bytes) (hcounted : IsCounted files limit v input) (bound : Nat)
      (hbound : bound < numberBound) := hcounted.readMessages_eq hbound
  rw [happend] at hdisturbed
  by_cases hlimit : bad.body.length ≤ limit
  · rw [ofServer_malformed hlimit hbad, ← hplain] at hdisturbed
    rw [hdisturbed]
    exact ⟨rfl, rfl, fun _ => rfl, fun hlong => absurd hlimit (Nat.not_le_of_lt hlong), hread⟩
  · have hlong := Nat.lt_of_not_le hlimit
    have hother (other : Frame) (hlength : other.body.length = bad.body.length) :
        session (front ++ other.bytes ++ rest) = disturbed := by
      rw [List.append_assoc, happend, ofServer_oversized (by rwa [hlength]), hlength, hdisturbed,
        ofServer_oversized hlong]
    have hseq : (session front).server.seq = (session front).messages.length := by
      have hnumber := seq_ofReadings files limit { viewer := v } (readMessages limit front)
      rwa [← ofServer_eq_ofReadings, Nat.zero_add] at hnumber
    have hmoveOn := ofServer_moveOn files limit (session front).server rest
    rw [Server.moveOn] at hmoveOn
    rw [ofServer_oversized hlong, hmoveOn, hseq] at hdisturbed
    generalize ofServer files limit (session front).server rest = later at hplain hdisturbed
    have hfront : (session front).frames = (session front).messages.map Message.frame := rfl
    refine ⟨by rw [hdisturbed, hplain]; rfl, by rw [hdisturbed, hplain]; rfl,
      fun hshort => absurd hshort hlimit, fun _ => ⟨⟨later.messages, ?_⟩, ?_, hother⟩, hread⟩
    · intro response
      have hsame : plain.messages = (session front).messages ++ later.messages := by rw [hplain]; rfl
      have hmoved : disturbed.messages =
          (session front).messages ++ response :: later.messages.map Message.moveOn := by
        rw [hdisturbed]
        rfl
      refine ⟨hsame, hmoved, ?_, ?_⟩
      · rw [frames, hsame, List.map_append, hfront]
      · rw [frames, hmoved, List.map_append, List.map_cons, hfront]
    · rw [hdisturbed, hplain]
      rfl

/-- A body without a message and one that is too long, behind a text that is loaded. -/
theorem ofInput_badFrame_behind_load :
    let files : Files := fun _ => .error .missing
    let request : Message := ⟨1, "request".toList,
      .request "load".toList (some (.object [("text".toList, .string ['x'])]))⟩
    let load : Frame := ⟨[⟨"Content-Length: 68".toList, .returnFeed, by decide, by decide⟩],
      .returnFeed, Text.toBytes request.render, by decide +kernel⟩
    let empty : Frame := ⟨[⟨"Content-Length: 0".toList, .feed, by decide, by decide⟩], .feed, [],
      by decide⟩
    let long : Frame := ⟨[⟨"Content-Length: 69".toList, .feed, by decide, by decide⟩], .feed,
      List.replicate 69 0, by decide⟩
    let session (input : Bytes) := ofInput files 68 {} input
    let plain := session (load.bytes ++ load.bytes)
    let disturbed := session (load.bytes ++ long.bytes ++ load.bytes)
    let told : Json := .object [("annotatedLines".toList, .natural 0), ("path".toList, .null),
      ("sourceLines".toList, .natural 1)]
    let success : Content := .response 1 true "load".toList none (some told)
    let news : Content := .event "loaded".toList (some told)
    let sent : List Message := [⟨1, "response".toList, success⟩, ⟨2, "event".toList, news⟩,
      ⟨3, "response".toList,
        .response 0 false "message".toList (some (oversizedFault 68 69).message) none⟩,
      ⟨4, "response".toList, success⟩, ⟨5, "event".toList, news⟩]
    (∀ f ∈ [load], ¬ f.Disconnects 68) ∧ empty.message? 68 = none ∧ long.message? 68 = none ∧
      session (load.bytes ++ empty.bytes ++ load.bytes) = plain ∧
      disturbed.viewer = plain.viewer ∧
      disturbed.server = { plain.server with seq := plain.server.seq + 1 } ∧
      disturbed.messages = sent ∧
      IsCounted files 68 {} (load.bytes ++ long.bytes ++ load.bytes) ∧ 256 < numberBound ∧
      (∀ m ∈ sent, m.render.byteSize ≤ 256) ∧
      readMessages 256 (Text.toBytes disturbed.frames.flatten) = Message.readings sent := by
  intro files request load empty long session plain disturbed told success news sent
  have hmessage : load.message? 68 = some request :=
    Frame.message?_of_render rfl (Message.isExact_load (by decide) _ _) (by decide +kernel)
  have hstay : ∀ f ∈ [load], ¬ f.Disconnects 68 := by
    refine List.forall_mem_singleton.mpr ?_
    rintro ⟨m, arguments, hm, hcontent⟩
    obtain rfl := Option.some.inj (hmessage.symm.trans hm)
    exact absurd (Content.request.inj hcontent).1 (by decide)
  have hempty : empty.message? 68 = none := by decide
  have hlong : long.message? 68 = none := by decide
  have hlength : 68 < long.body.length := by decide
  have hfront : [load].flatMap Frame.bytes = load.bytes := List.append_nil _
  obtain ⟨-, -, hsame, -⟩ := ofInput_badFrame files 68 {} hstay hempty load.bytes
  obtain ⟨-, hviewer, -, hmore, hread⟩ := ofInput_badFrame files 68 {} hstay hlong load.bytes
  obtain ⟨-, hserver, -⟩ := hmore hlength
  rw [hfront] at hsame hviewer hserver
  have hinput : load.bytes ++ long.bytes ++ load.bytes =
      load.bytes ++ (long.bytes ++ (load.bytes ++ [])) := by
    rw [List.append_nil, List.append_assoc]
  have hanswer (display : Option Display) : Viewer.respond ⟨{}, display⟩ files 1 "load".toList
      (some (.object [("text".toList, .string ['x'])])) = ([success, news], .loadText {} ['x']) :=
    rfl
  have hsent : disturbed.messages = sent := by
    have hdisturbed : disturbed = ofServer files 68 { viewer := {} } _ := congrArg session hinput
    rw [hdisturbed, ofServer_request hmessage rfl, hanswer, ofServer_oversized hlength,
      ofServer_request hmessage rfl, ofServer_nil]
    rfl
  have hreadings : upToEnd (readMessages 68 (load.bytes ++ long.bytes ++ load.bytes)) =
      [.message request (long.bytes ++ (load.bytes ++ [])), .oversized 69 (load.bytes ++ []),
        .message request []] := by
    rw [hinput, readMessages_of_rest (Frame.readMessage_bytes_of_message? hmessage _) rfl,
      readMessages_of_rest (Frame.readMessage_bytes_of_oversized hlength _) rfl,
      readMessages_of_rest (Frame.readMessage_bytes_of_message? hmessage _) rfl, readMessages_nil]
    rfl
  have hcounted : IsCounted files 68 {} (load.bytes ++ long.bytes ++ load.bytes) := by
    have hloaded {rest : Bytes} {text : Text} {path : Option Text}
        (hload : (Operation.reading files 68 (.message request rest)).Loads text path) :
        (Document.parse (Settings.toFileFormat {}) text).IsCounted := by
      obtain rfl : text = ['x'] := hload.eq_of_textArgument? rfl rfl rfl
      exact ⟨by decide, by decide, by decide⟩
    refine ⟨Document.fits_empty, ?_, ?_⟩
    · rw [Operation.ofService, hreadings]
      exact List.forall_mem_cons.mpr ⟨fun _ _ => hloaded, List.forall_mem_cons.mpr ⟨nofun,
        List.forall_mem_singleton.mpr fun _ _ => hloaded⟩⟩
    · change disturbed.messages.length < numberBound
      rw [hsent]
      decide
  have hshort : ∀ m ∈ sent, m.render.byteSize ≤ 256 := by decide +kernel
  have hbound : 256 < numberBound := by decide
  have hsize : ∀ m ∈ disturbed.messages, m.render.byteSize ≤ 256 := by rwa [hsent]
  have hwritten : readMessages 256 (Text.toBytes disturbed.frames.flatten) =
      Message.readings disturbed.messages := hread _ hcounted 256 hbound hsize
  rw [hsent] at hwritten
  exact ⟨hstay, hempty, hlong, hsame (by decide), hviewer, hserver, hsent, hcounted, hbound, hshort,
    hwritten⟩

end Service

end SpanViewer
