import Mathlib.Data.List.Forall2
import SpanViewer.Proofs.Protocol.Frame
import SpanViewer.Proofs.Protocol.Readback

/-!
# Discipline of a session

Every request is answered once, in the order of the requests, and a success that is announced is
announced directly behind its response. A body that is too long is answered without a request, and
nothing else is. Each message takes the number that follows the one before it, and whoever reads
what is written finds these messages and no others.
-/

namespace SpanViewer

/-- What may be sent in return for a reading. -/
inductive Answers : Reading → List Content → Prop
  /-- A request fails. -/
  | failed {seq : Nat} {type command : Text} {arguments : Option Json} {rest : Bytes}
      (reason : Text) : Answers (.message ⟨seq, type, .request command arguments⟩ rest)
        [.response seq false command (some reason) none]
  /-- The server is initialized, and says so. -/
  | initialized {seq : Nat} {type : Text} {arguments : Option Json} {rest : Bytes}
      (body : Option Json) :
      Answers (.message ⟨seq, type, .request "initialize".toList arguments⟩ rest)
        [.response seq true "initialize".toList none body, .event "initialized".toList none]
  /-- A document is loaded, and the event tells of it what the response does. -/
  | loaded {seq : Nat} {type : Text} {arguments : Option Json} {rest : Bytes}
      (body : Option Json) :
      Answers (.message ⟨seq, type, .request "load".toList arguments⟩ rest)
        [.response seq true "load".toList none body, .event "loaded".toList body]
  /-- Another request succeeds. -/
  | succeeded {seq : Nat} {type command : Text} {arguments : Option Json} {rest : Bytes}
      (body : Option Json) (hfirst : command ≠ "initialize".toList)
      (hload : command ≠ "load".toList) :
      Answers (.message ⟨seq, type, .request command arguments⟩ rest)
        [.response seq true command none body]
  /-- A body is too long to be read. -/
  | oversized {length : Nat} {rest : Bytes} (reason : Text) :
      Answers (.oversized length rest)
        [.response 0 false "message".toList (some reason) none]
  /-- A message asks for nothing. -/
  | passedOver {m : Message} {rest : Bytes}
      (hcontent : ∀ command arguments, m.content ≠ .request command arguments) :
      Answers (.message m rest) []
  /-- A body is no message. -/
  | malformed {rest : Bytes} : Answers (.malformed rest) []
  /-- The input ends. -/
  | endOfInput : Answers .endOfInput []
  /-- The input breaks off. -/
  | broken {cause : StreamError} : Answers (.broken cause) []

/-- A response to a request answers it. -/
theorem answers_respond (v : Viewer) (files : Files) (seq : Nat) (type command : Text)
    (arguments : Option Json) (rest : Bytes) :
    Answers (.message ⟨seq, type, .request command arguments⟩ rest)
      (v.respond files seq command arguments).1 := by
  unfold Viewer.respond
  cases v.answer files command arguments with
  | error fault => exact .failed fault.message
  | ok outcome =>
    obtain ⟨body, next⟩ := outcome
    by_cases hfirst : command = "initialize".toList
    · subst hfirst
      exact .initialized body
    · by_cases hload : command = "load".toList
      · subst hload
        exact .loaded body
      · simp only [announcement, if_neg hfirst, if_neg hload]
        exact .succeeded body hfirst hload

/-- Every reading is answered. -/
theorem answers_react (v : Viewer) (files : Files) (limit : Nat) (reading : Reading) :
    Answers reading (v.react files limit reading).1 := by
  cases reading with
  | endOfInput => exact .endOfInput
  | broken cause => exact .broken
  | malformed rest => exact .malformed
  | oversized length rest => exact .oversized _
  | message m rest =>
    obtain ⟨seq, type, content⟩ := m
    cases content with
    | request command arguments => exact answers_respond v files seq type command arguments rest
    | response => exact .passedOver (by simp)
    | event => exact .passedOver (by simp)

namespace Service

/-- A session over readings says the answers to those up to its end, one behind the other. -/
theorem exists_answers_ofReadings (files : Files) (limit : Nat) (s : Server)
    (readings : List Reading) :
    ∃ answers : List (List Content), List.Forall₂ Answers (upToEnd readings) answers ∧
      (ofReadings files limit s readings).messages.map Message.content = answers.flatten := by
  induction readings generalizing s with
  | nil => exact ⟨[], .nil, rfl⟩
  | cons reading readings ih =>
    have hanswer := answers_react s.viewer files limit reading
    rw [upToEnd, ofReadings, Server.step_eq]
    generalize s.viewer.react files limit reading = outcome at hanswer ⊢
    dsimp only
    split
    · exact ⟨[outcome.1], .cons hanswer .nil, by simp⟩
    · obtain ⟨answers, hanswers, hsent⟩ := ih ⟨s.seq + outcome.1.length, outcome.2⟩
      refine ⟨outcome.1 :: answers, .cons hanswer hanswers, ?_⟩
      rw [messages_prepend, List.map_append, map_content_numbered, hsent, List.flatten_cons]

/-- **Every request is answered once, in the order of the requests.** A session sends the answers to
its readings up to the one that ends it, and its messages are numbered from 1. They are written one
behind the other, each behind the number of its bytes. If what the session is about is counted with
64 bits, then a reader finds the very messages in what is written: what they answer, whether they
tell of a success, their commands and their numbers. -/
theorem frames_ofInput (files : Files) (limit : Nat) (v : Viewer) (input : Bytes) :
    let service := ofInput files limit v input
    let written := Text.toBytes service.frames.flatten
    ∃ answers : List (List Content),
      List.Forall₂ Answers (upToEnd (readMessages limit input)) answers ∧
      let sent : List Message :=
        answers.flatten.mapIdx fun i content => ⟨i + 1, content.type, content⟩
      service.messages = sent ∧ service.frames = sent.map Message.frame ∧
      (written = sent.flatMap fun m =>
        Text.toBytes ("Content-Length: ".toList ++
          .ofNumber (Text.toBytes m.render).length ++ "\r\n\r\n".toList) ++
          Text.toBytes m.render) ∧
      (IsCounted files limit v input →
        ∀ bound < numberBound, (∀ m ∈ sent, m.render.byteSize ≤ bound) →
          readMessages bound written = Message.readings sent) := by
  intro service written
  obtain ⟨answers, hanswers, hcontents⟩ :=
    exists_answers_ofReadings files limit { viewer := v } (readMessages limit input)
  have hnumbered := messages_ofReadings files limit { viewer := v } (readMessages limit input)
  rw [hcontents, ← ofServer_eq_ofReadings] at hnumbered
  have hsent : (ofInput files limit v input).messages =
      answers.flatten.mapIdx fun i content => ⟨i + 1, content.type, content⟩ := by
    rw [ofInput, hnumbered]
    simp only [numbered, Nat.zero_add]
  refine ⟨answers, hanswers, hsent, ?_, ?_, fun hcounted bound hbound hshort => ?_⟩
  · rw [← hsent]
    rfl
  · rw [← hsent]
    exact toBytes_frames service
  · rw [← hsent] at hshort ⊢
    exact hcounted.readMessages_eq hbound hshort

/-- A text is loaded, a body is too long, and the frontend leaves. -/
theorem frames_ofInput_load :
    let files : Files := fun _ => .error .missing
    let request : Message := ⟨7, "request".toList,
      .request "load".toList (some (.object [("text".toList, .string ['x'])]))⟩
    let farewell : Message := ⟨9, "request".toList, .request "disconnect".toList none⟩
    let load : Frame := ⟨[⟨"Content-Length: 68".toList, .returnFeed, by decide, by decide⟩],
      .returnFeed, Text.toBytes request.render, by decide +kernel⟩
    let long : Frame := ⟨[⟨"Content-Length: 69".toList, .feed, by decide, by decide⟩], .feed,
      List.replicate 69 0, by decide⟩
    let leave : Frame := ⟨[⟨"Content-Length: 49".toList, .feed, by decide, by decide⟩], .feed,
      Text.toBytes farewell.render, by decide +kernel⟩
    let input := load.bytes ++ (long.bytes ++ (leave.bytes ++ load.bytes))
    let service := ofInput files 68 {} input
    let told : Json := .object [("annotatedLines".toList, .natural 0), ("path".toList, .null),
      ("sourceLines".toList, .natural 1)]
    let sent : List Message :=
      [⟨1, "response".toList, .response 7 true "load".toList none (some told)⟩,
        ⟨2, "event".toList, .event "loaded".toList (some told)⟩,
        ⟨3, "response".toList, oversizedResponse 68 69⟩,
        ⟨4, "response".toList, .response 9 true "disconnect".toList none none⟩]
    IsCounted files 68 {} input ∧ 256 < numberBound ∧ (∀ m ∈ sent, m.render.byteSize ≤ 256) ∧
      service.messages = sent ∧
      readMessages 256 (Text.toBytes service.frames.flatten) = Message.readings sent := by
  intro files request farewell load long leave input service told sent
  have hfarewellExact : farewell.IsExact := ⟨by decide, nofun⟩
  have hrequest : load.message? 68 = some request :=
    Frame.message?_of_render rfl (Message.isExact_load (by decide) _ _) (by decide +kernel)
  have hfarewell : leave.message? 68 = some farewell :=
    Frame.message?_of_render rfl hfarewellExact (by decide +kernel)
  have hsent : service.messages = sent := by
    have hlong : 68 < long.body.length := by decide
    have hloaded : Viewer.respond {} files 7 "load".toList
        (some (.object [("text".toList, .string ['x'])])) =
          ([.response 7 true "load".toList none (some told), .event "loaded".toList (some told)],
            Viewer.loadText {} ['x']) := rfl
    have hservice : service =
        prepend (numbered 0 (Viewer.respond {} files 7 "load".toList _).1) _ :=
      ofServer_request hrequest rfl files { viewer := {} } _
    rw [hservice, hloaded, ofServer_oversized hlong, ofServer_request hfarewell rfl]
    rfl
  have hreadings : upToEnd (readMessages 68 input) =
      [.message request (long.bytes ++ (leave.bytes ++ load.bytes)),
        .oversized 69 (leave.bytes ++ load.bytes), .message farewell load.bytes] := by
    rw [readMessages_of_rest (Frame.readMessage_bytes_of_message? hrequest _) rfl,
      readMessages_of_rest (Frame.readMessage_bytes_of_oversized (by decide) _) rfl,
      readMessages_of_rest (Frame.readMessage_bytes_of_message? hfarewell _) rfl]
    rfl
  have hcounted : IsCounted files 68 {} input := by
    refine ⟨Document.fits_empty, ?_, ?_⟩
    · rw [Operation.ofService, hreadings]
      refine List.forall_mem_cons.mpr ⟨fun text path hload => ?_, List.forall_mem_cons.mpr ⟨nofun,
        List.forall_mem_singleton.mpr fun text path hload => ?_⟩⟩
      · obtain rfl : text = ['x'] := hload.eq_of_textArgument? rfl rfl rfl
        exact ⟨by decide, by decide, by decide⟩
      · obtain ⟨_, hcontent⟩ := hload.exists_content_eq
        exact absurd (Content.request.inj hcontent).1 (by decide)
    · change service.messages.length < numberBound
      rw [hsent]
      decide
  have hshort : ∀ m ∈ sent, m.render.byteSize ≤ 256 := by decide +kernel
  have hbound : 256 < numberBound := by decide
  obtain ⟨answers, -, hmessages, -, -, hread⟩ := frames_ofInput files 68 {} input
  have hanswers : sent = _ := hsent.symm.trans hmessages
  rw [← hanswers] at hread
  exact ⟨hcounted, hbound, hshort, hsent, hread hcounted 256 hbound hshort⟩

end Service

end SpanViewer
