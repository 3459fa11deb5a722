import SpanViewer.Protocol.Server

/-!
# Sessions reading by reading

What the server reads from its input does not depend on what it answers. A session over an input is
therefore a run over the list of its readings, and what can be said of every reading is said of a
session by induction on that list: so its messages take one number after the other, and the server
remembers the last.
-/

namespace SpanViewer

/-- At the end of the input there is no reading. -/
theorem readMessages_of_endOfInput {limit : Nat} {input : Bytes}
    (hreading : readMessage limit input = .endOfInput) : readMessages limit input = [] := by
  rw [readMessages]
  split
  · rw [hreading]
  · next hrest =>
    rw [hreading] at hrest
    contradiction

/-- An input that breaks off has no reading behind it. -/
theorem readMessages_of_broken {limit : Nat} {input : Bytes} {cause : StreamError}
    (hreading : readMessage limit input = .broken cause) :
    readMessages limit input = [.broken cause] := by
  rw [readMessages]
  split
  · rw [hreading]
  · next hrest =>
    rw [hreading] at hrest
    contradiction

/-- Any other reading is followed by those of the rest. -/
theorem readMessages_of_rest {limit : Nat} {input rest : Bytes} {reading : Reading}
    (hreading : readMessage limit input = reading) (hrest : reading.rest? = some rest) :
    readMessages limit input = reading :: readMessages limit rest := by
  subst hreading
  rw [readMessages]
  split
  · next hnone =>
    rw [hrest] at hnone
    contradiction
  · next rest' hrest' =>
    rw [hrest, Option.some.injEq] at hrest'
    rw [hrest']

namespace Reading

/-- Among requests only the one to disconnect ends the session. -/
theorem endsSession_of_request {m : Message} {command : Text} {arguments : Option Json}
    (hcontent : m.content = .request command arguments) (rest : Bytes) :
    (message m rest).endsSession = decide (command = "disconnect".toList) := by
  simp only [endsSession, hcontent]

/-- No other message ends the session. -/
theorem endsSession_of_not_request {m : Message}
    (hcontent : ∀ command arguments, m.content ≠ .request command arguments) (rest : Bytes) :
    (message m rest).endsSession = false := by
  cases hkind : m.content with
  | request command arguments => exact absurd hkind (hcontent command arguments)
  | response => simp only [endsSession, hkind]
  | event => simp only [endsSession, hkind]

end Reading

/-- The readings up to the first one that ends the session, which is one of them. -/
def upToEnd : List Reading → List Reading
  | [] => []
  | reading :: rest => if reading.endsSession then [reading] else reading :: upToEnd rest

/-- A request is responded to. -/
theorem Viewer.react_of_request {m : Message} {command : Text} {arguments : Option Json}
    (hcontent : m.content = .request command arguments) (v : Viewer) (files : Files) (limit : Nat)
    (rest : Bytes) :
    v.react files limit (.message m rest) = v.respond files m.seq command arguments := by
  simp only [react, hcontent]

/-- Any other message is passed over. -/
theorem Viewer.react_of_not_request {m : Message}
    (hcontent : ∀ command arguments, m.content ≠ .request command arguments) (v : Viewer)
    (files : Files) (limit : Nat) (rest : Bytes) :
    v.react files limit (.message m rest) = ([], v) := by
  cases hkind : m.content with
  | request command arguments => exact absurd hkind (hcontent command arguments)
  | response => simp only [react, hkind]
  | event => simp only [react, hkind]

/-- A request reads no file but the one that its arguments name. -/
theorem Viewer.answer_congr {files others : Files} {command : Text} {arguments : Option Json}
    (hpath : ∀ path, command = "load".toList → textArgument? "path" arguments = some path →
      files path = others path) (v : Viewer) :
    v.answer files command arguments = v.answer others command arguments := by
  by_cases hload : command = "load".toList
  · have hanswer : v.answerLoad files arguments = v.answerLoad others arguments := by
      rw [answerLoad, answerLoad]
      cases hnamed : textArgument? "path" arguments with
      | none => cases textArgument? "text" arguments <;> rfl
      | some path =>
        have hread : files.readText path = others.readText path := by
          rw [Files.readText, Files.readText, hpath path hload hnamed]
        simp only [loadFile, hread]
    rw [answer, answer, hanswer]
  · rw [answer, answer, if_neg hload, if_neg hload]

/-- A step reads no file but the one that is requested. -/
theorem Viewer.react_congr {files others : Files} {reading : Reading}
    (hpath : ∀ path, reading.requestedPath? = some path → files path = others path) (v : Viewer)
    (limit : Nat) : v.react files limit reading = v.react others limit reading := by
  cases reading with
  | message m rest =>
    cases hcontent : m.content with
    | request command arguments =>
      have hanswer : v.answer files command arguments = v.answer others command arguments := by
        refine v.answer_congr fun path hload hnamed => hpath path ?_
        simp only [Reading.requestedPath?, hcontent, if_pos hload, hnamed]
      rw [react_of_request hcontent, react_of_request hcontent, respond, respond, hanswer]
    | response | event => simp only [react, hcontent]
  | _ => rfl

/-- Messages that say these things, numbered on from the number of the last one. -/
def numbered (last : Nat) (contents : List Content) : List Message :=
  contents.mapIdx fun i content => ⟨last + i + 1, content.type, content⟩

/-- Messages are numbered one by one. -/
theorem numbered_cons (last : Nat) (content : Content) (contents : List Content) :
    numbered last (content :: contents) =
      ⟨last + 1, content.type, content⟩ :: numbered (last + 1) contents := by
  simp only [numbered, List.mapIdx_cons, Nat.add_assoc, Nat.add_comm 1]

/-- Messages are numbered on behind others. -/
theorem numbered_append (last : Nat) (contents others : List Content) :
    numbered last (contents ++ others) =
      numbered last contents ++ numbered (last + contents.length) others := by
  induction contents generalizing last with
  | nil => rfl
  | cons content contents ih =>
    rw [List.cons_append, numbered_cons, numbered_cons, ih, List.cons_append, List.length_cons,
      Nat.add_right_comm, Nat.add_assoc]

/-- There are as many messages as things to say. -/
@[simp] theorem length_numbered (last : Nat) (contents : List Content) :
    (numbered last contents).length = contents.length :=
  List.length_mapIdx

/-- Numbered messages say what they are made of. -/
@[simp] theorem map_content_numbered (last : Nat) (contents : List Content) :
    (numbered last contents).map Message.content = contents := by
  induction contents generalizing last with
  | nil => rfl
  | cons content contents ih => rw [numbered_cons, List.map_cons, ih]

/-- A numbered message says one of the things that are sent, and its number is not above theirs. -/
theorem mem_of_mem_numbered {last : Nat} {contents : List Content} {m : Message}
    (hm : m ∈ numbered last contents) : m.content ∈ contents ∧ m.seq ≤ last + contents.length := by
  obtain ⟨i, hi, rfl⟩ := List.mem_mapIdx.mp hm
  exact ⟨List.getElem_mem hi, by dsimp only; omega⟩

namespace Server

/-- Content that is sent takes the next number, and the server remembers it. -/
theorem sendAll_cons (s : Server) (content : Content) (later : List Content) :
    s.sendAll (content :: later) =
      (⟨s.seq + 1, content.type, content⟩ :: (sendAll { s with seq := s.seq + 1 } later).1,
        (sendAll { s with seq := s.seq + 1 } later).2) := rfl

/-- What is sent takes one number after the other, and the server remembers the last. -/
theorem sendAll_eq (s : Server) (contents : List Content) :
    s.sendAll contents =
      (numbered s.seq contents, { s with seq := s.seq + contents.length }) := by
  induction contents generalizing s with
  | nil => rfl
  | cons content contents ih =>
    rw [sendAll_cons, ih, numbered_cons, List.length_cons, Nat.add_assoc, Nat.add_comm 1]

/-- A step sends what the viewer answers, under the next numbers. -/
theorem step_eq (s : Server) (files : Files) (limit : Nat) (reading : Reading) :
    s.step files limit reading =
      (numbered s.seq (s.viewer.react files limit reading).1,
        ⟨s.seq + (s.viewer.react files limit reading).1.length,
          (s.viewer.react files limit reading).2⟩) :=
  sendAll_eq { s with viewer := (s.viewer.react files limit reading).2 } _

end Server

namespace Service

variable {files : Files} {limit : Nat} {s : Server} {input rest : Bytes} {reading : Reading}

/-- What is sent first stands first. -/
@[simp] theorem messages_prepend (messages : List Message) (service : Service) :
    (prepend messages service).messages = messages ++ service.messages := rfl

/-- A session takes a step and goes on with the input behind it, if there is one. -/
theorem ofServer_eq (files : Files) (limit : Nat) (s : Server) (input : Bytes) :
    ofServer files limit s input =
      let reading := readMessage limit input
      let outcome := s.step files limit reading
      match reading.onward? with
      | none => ⟨outcome.1, reading.cause?, outcome.2⟩
      | some rest => prepend outcome.1 (ofServer files limit outcome.2 rest) := by
  rw [ofServer]
  dsimp only
  obtain ⟨messages, next⟩ := s.step files limit (readMessage limit input)
  split
  · next hnone => simp only [hnone]
  · next rest hrest => simp only [hrest]

/-- A session ends with the step that ends it. -/
theorem ofServer_of_ends (hreading : readMessage limit input = reading)
    (hends : reading.endsSession = true) :
    ofServer files limit s input =
      ⟨(s.step files limit reading).1, reading.cause?, (s.step files limit reading).2⟩ := by
  rw [ofServer_eq, hreading]
  simp only [Reading.onward?, if_pos hends]

/-- Behind any other step it goes on over the rest of the input. -/
theorem ofServer_of_rest (hreading : readMessage limit input = reading)
    (hstay : reading.endsSession = false) (hrest : reading.rest? = some rest) :
    ofServer files limit s input =
      prepend (s.step files limit reading).1
        (ofServer files limit (s.step files limit reading).2 rest) := by
  rw [ofServer_eq, hreading]
  simp only [Reading.onward?, hstay, hrest, Bool.false_eq_true, if_false]

/-- The session over a list of readings. -/
def ofReadings (files : Files) (limit : Nat) (s : Server) : List Reading → Service
  | [] => ⟨[], none, s⟩
  | reading :: rest =>
    let outcome := s.step files limit reading
    if reading.endsSession then
      ⟨outcome.1, reading.cause?, outcome.2⟩
    else
      prepend outcome.1 (ofReadings files limit outcome.2 rest)

/-- The session over an input is the session over its readings. -/
theorem ofServer_eq_ofReadings (files : Files) (limit : Nat) (s : Server) (input : Bytes) :
    ofServer files limit s input = ofReadings files limit s (readMessages limit input) := by
  induction hlength : input.length using Nat.strongRecOn generalizing input s with
  | ind length ih =>
    subst hlength
    cases hreading : readMessage limit input with
    | endOfInput =>
      rw [ofServer_of_ends hreading rfl, readMessages_of_endOfInput hreading]
      rfl
    | broken cause =>
      rw [ofServer_of_ends hreading rfl, readMessages_of_broken hreading]
      rfl
    | message m rest | malformed rest | oversized length rest =>
      have hshort : rest.length < input.length :=
        length_lt_of_readMessage (by rw [hreading]; rfl)
      rw [readMessages_of_rest hreading rfl, ofReadings]
      split
      · next hends => exact ofServer_of_ends hreading hends
      · next hstay =>
        rw [ofServer_of_rest hreading (eq_false_of_ne_true hstay) rfl,
          ih rest.length hshort _ rest rfl]

/-- The messages of a session are numbered on from the last one that was sent before it. -/
theorem messages_ofReadings (files : Files) (limit : Nat) (s : Server) (readings : List Reading) :
    (ofReadings files limit s readings).messages =
      numbered s.seq ((ofReadings files limit s readings).messages.map Message.content) := by
  induction readings generalizing s with
  | nil => rfl
  | cons reading readings ih =>
    have hstep := s.step_eq files limit reading
    rw [ofReadings, hstep]
    dsimp only
    split
    · rw [map_content_numbered]
    · rw [messages_prepend, List.map_append, map_content_numbered, numbered_append]
      exact congrArg _ (ih _)

/-- The server at the end remembers the number of the last message. -/
theorem seq_ofReadings (files : Files) (limit : Nat) (s : Server) (readings : List Reading) :
    (ofReadings files limit s readings).server.seq =
      s.seq + (ofReadings files limit s readings).messages.length := by
  induction readings generalizing s with
  | nil => rfl
  | cons reading readings ih =>
    rw [ofReadings, Server.step_eq]
    dsimp only
    split
    · rw [length_numbered]
    · rw [messages_prepend, List.length_append, length_numbered, ← Nat.add_assoc]
      exact ih _

end Service

end SpanViewer
