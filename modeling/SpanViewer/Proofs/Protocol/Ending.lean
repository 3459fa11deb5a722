import SpanViewer.CommandLine.Run
import SpanViewer.Proofs.Protocol.Header
import SpanViewer.Proofs.Protocol.Readback

/-!
# The end of a session

A server reads step by step, and every step makes the rest of the input shorter, so a session ends.
Among all faults only one of the stream ends it, at a header line that is no text or at a body that
is cut short. All others are told to the frontend, in frames that a reader takes off one by one.
-/

namespace SpanViewer

/-- The input of a session cannot be read on. -/
inductive BreaksOff (limit : Nat) : Bytes → StreamError → Prop
  /-- A header line is no text. -/
  | notText {input : Bytes} (hheader : ReadsHeader input .broken) : BreaksOff limit input .notText
  /-- A body within the limit is shorter than its header says. -/
  | truncated {input left : Bytes} {length : Nat} (hheader : ReadsHeader input (.body length left))
      (hlimit : length ≤ limit) (hshort : left.length < length) : BreaksOff limit input .truncated
  /-- It cannot be read on behind a step that does not end the session, as a request to disconnect
  does. -/
  | behind {input rest : Bytes} {reading : Reading} {cause : StreamError}
      (hreading : ReadsMessage limit input reading) (hstay : reading.endsSession = false)
      (hrest : reading.rest? = some rest) (hbreak : BreaksOff limit rest cause) :
      BreaksOff limit input cause

/-- A step that breaks off does so at a header line or at a body. -/
theorem BreaksOff.of_broken {limit : Nat} {input : Bytes} {cause : StreamError}
    (hreading : ReadsMessage limit input (.broken cause)) : BreaksOff limit input cause := by
  generalize hbroken : Reading.broken cause = reading at hreading
  cases hreading with
  | endOfInput | oversized => contradiction
  | notText hheader =>
    obtain rfl := Reading.broken.inj hbroken
    exact .notText hheader
  | truncated hheader hlimit hshort =>
    obtain rfl := Reading.broken.inj hbroken
    exact .truncated hheader hlimit hshort
  | @body body rest hheader hlimit =>
    have hrest := Reading.rest?_ofBody body rest
    rw [← hbroken] at hrest
    contradiction

/-- There are no more steps than bytes. -/
theorem length_readMessages_le (limit : Nat) (input : Bytes) :
    (readMessages limit input).length ≤ input.length := by
  induction hlength : input.length using Nat.strongRecOn generalizing input with
  | ind length ih =>
    subst hlength
    obtain ⟨hend, -⟩ | ⟨cause, hbroken, hne⟩ | ⟨taken, rest, hrest, -, -⟩ :=
      readMessage_progress limit input
    · rw [readMessages_of_endOfInput hend]
      exact Nat.zero_le _
    · rw [readMessages_of_broken hbroken]
      exact List.length_pos_iff.mpr hne
    · have hshort := length_lt_of_readMessage hrest
      have hlater := ih rest.length hshort rest rfl
      rw [readMessages_of_rest rfl hrest, List.length_cons]
      exact Nat.succ_le_of_lt (Nat.lt_of_le_of_lt hlater hshort)

/-- A step behind which the session goes on leaves an input. -/
theorem Reading.exists_rest_of_not_endsSession {reading : Reading}
    (hstay : reading.endsSession = false) : ∃ rest, reading.rest? = some rest := by
  cases reading with
  | endOfInput | broken cause => contradiction
  | message m rest | malformed rest | oversized length rest => exact ⟨rest, rfl⟩

namespace Service

/-- A session breaks off where its input does. -/
theorem cause_ofServer_iff {files : Files} {limit : Nat} {s : Server} {input : Bytes}
    {cause : StreamError} :
    (ofServer files limit s input).cause = some cause ↔ BreaksOff limit input cause := by
  constructor
  · intro hcause
    induction hlength : input.length using Nat.strongRecOn generalizing input s with
    | ind length ih =>
      subst hlength
      have hstep : ReadsMessage limit input (readMessage limit input) := readMessage_eq_iff.mp rfl
      generalize hreading : readMessage limit input = reading at hstep
      cases hstay : reading.endsSession with
      | true =>
        rw [ofServer_of_ends hreading hstay] at hcause
        cases reading with
        | broken other =>
          obtain rfl := Option.some.inj hcause
          exact .of_broken hstep
        | endOfInput | message m rest | malformed rest | oversized length rest => contradiction
      | false =>
        obtain ⟨rest, hrest⟩ := Reading.exists_rest_of_not_endsSession hstay
        rw [ofServer_of_rest hreading hstay hrest] at hcause
        have hshort : rest.length < input.length :=
          length_lt_of_readMessage (by rw [hreading, hrest])
        exact .behind hstep hstay hrest (ih rest.length hshort hcause rfl)
  · intro hbreak
    induction hbreak generalizing s with
    | notText hheader =>
      rw [ofServer_of_ends (readMessage_eq_iff.mpr (.notText hheader)) rfl, Reading.cause?]
    | truncated hheader hlimit hshort =>
      have hstep := ReadsMessage.truncated hheader hlimit hshort
      rw [ofServer_of_ends (readMessage_eq_iff.mpr hstep) rfl, Reading.cause?]
    | behind hstep hstay hrest hbreak ih =>
      rw [ofServer_of_rest (readMessage_eq_iff.mpr hstep) hstay hrest]
      exact ih

/-- How a session ends. -/
def result (service : Service) : Except Fault Unit :=
  match service.cause with
  | some cause => .error (.stream cause)
  | none => .ok ()

/-- The program that serves ends as its session does. -/
theorem exit_run_serve (files : Files) (settings : Settings) (input : Bytes) :
    (Mode.run files settings .serve input).exit =
      (ofInput files defaultLimit { settings := settings } input).result.mapError .ofFault := by
  rw [Mode.run, result]
  cases (ofInput files defaultLimit { settings := settings } input).cause <;> rfl

/-- What a session writes is read as its messages, and nothing is left of it. -/
theorem readMessages_toBytes_frames {limit : Nat} (hlimit : limit < numberBound) (service : Service)
    (hshort : ∀ m ∈ service.messages, (Text.toBytes m.render).length ≤ limit) :
    readMessages limit (Text.toBytes service.frames.flatten) =
      Envelope.readings (service.messages.map Message.envelope) [] := by
  have hbodies : ∀ e ∈ service.messages.map Message.envelope, e.body.length ≤ limit := by
    intro e he
    obtain ⟨m, hm, rfl⟩ := List.mem_map.mp he
    exact hshort m hm
  have hread := readMessages_envelopes hlimit hbodies []
  rwa [List.append_nil, Message.flatMap_bytes_envelope, readMessages_nil, List.append_nil,
    List.flatMap_def] at hread

/-- A session over any input ends. Each step of the reader finds the input at its end, or breaks off
at something that stands there, or takes at least one byte from it. What is written are frames, each
with the number of bytes of its message in front of it, and a reader takes them off one by one. The
session fails only if its input breaks off before it is asked to disconnect. -/
theorem ofInput_ends (files : Files) (limit : Nat) (v : Viewer) (input : Bytes) :
    let service := ofInput files limit v input
    let written := Text.toBytes service.frames.flatten
    (∀ input, (readMessage limit input = .endOfInput ∧ ∃ declared, HeaderLines input declared []) ∨
      (∃ cause, readMessage limit input = .broken cause ∧ input ≠ []) ∨
      ∃ taken rest, (readMessage limit input).rest? = some rest ∧ taken ≠ [] ∧
        taken ++ rest = input) ∧
    (readMessages limit input).length ≤ input.length ∧
    (written = service.messages.flatMap fun m =>
      Text.toBytes ("Content-Length: ".toList ++
        .ofNumber (Text.toBytes m.render).length ++ "\r\n\r\n".toList) ++
        Text.toBytes m.render) ∧
    (∀ bound < numberBound, (∀ m ∈ service.messages, (Text.toBytes m.render).length ≤ bound) →
      readMessages bound written =
        Envelope.readings (service.messages.map Message.envelope) []) ∧
    ∀ fault, service.result = .error fault ↔
      ∃ cause, fault = .stream cause ∧ BreaksOff limit input cause := by
  intro service written
  refine ⟨readMessage_progress limit, length_readMessages_le limit input, toBytes_frames service,
    fun bound hbound hshort => readMessages_toBytes_frames hbound service hshort, ?_⟩
  intro fault
  have hcause (cause : StreamError) :
      service.cause = some cause ↔ BreaksOff limit input cause := cause_ofServer_iff
  simp only [← hcause, result]
  cases service.cause with
  | none => simp
  | some cause => simp [eq_comm]

/-- A body that is too long is answered and passed over, and the next is cut short. -/
theorem ofInput_ends_truncated :
    let files : Files := fun _ => .error .missing
    let cut : Bytes := Text.toBytes "Content-Length: 3\r\n\r\nab".toList
    let service := ofInput files 4 {} (Text.toBytes "Content-Length: 5\n\nabcde".toList ++ cut)
    let written := Text.toBytes service.frames.flatten
    256 < numberBound ∧ (∀ m ∈ service.messages, (Text.toBytes m.render).length ≤ 256) ∧
      readMessages 256 written = Envelope.readings (service.messages.map Message.envelope) [] ∧
      service.result = .error (.stream .truncated) := by
  intro files cut service written
  let long : Bytes := Text.toBytes "Content-Length: 5\n\nabcde".toList ++ cut
  have hlong : ReadsHeader long (.body 5 (Text.toBytes "abcde".toList ++ cut)) := by
    have hdeclaration : ReadsLine long "Content-Length: 5".toList
        (Text.toBytes "\nabcde".toList ++ cut) :=
      ⟨_, "Content-Length: 5\n".toList, rfl, by decide, by decide⟩
    have hblank : ReadsLine (Text.toBytes "\nabcde".toList ++ cut) []
        (Text.toBytes "abcde".toList ++ cut) := ⟨_, ['\n'], rfl, by decide, by decide⟩
    exact .body (.line .start hdeclaration (by decide)) (by decide) hblank
  have hcut : ReadsHeader cut (.body 3 (Text.toBytes "ab".toList)) := by
    have hdeclaration : ReadsLine cut "Content-Length: 3".toList
        (Text.toBytes "\r\nab".toList) :=
      ⟨_, "Content-Length: 3\r\n".toList, rfl, by decide, by decide⟩
    have hblank : ReadsLine (Text.toBytes "\r\nab".toList) [] (Text.toBytes "ab".toList) :=
      ⟨_, ['\r', '\n'], rfl, by decide, by decide⟩
    exact .body (.line .start hdeclaration (by decide)) (by decide) hblank
  have hfirst : readMessage 4 long = .oversized 5 cut :=
    readMessage_eq_iff.mpr (.oversized hlong (by decide))
  have hsecond : readMessage 4 cut = .broken .truncated :=
    readMessage_eq_iff.mpr (.truncated hcut (by decide) (by decide))
  have hservice : service.messages = [⟨1, "response".toList, oversizedResponse 4 5⟩] := by
    have hreadings : readMessages 4 long = [.oversized 5 cut, .broken .truncated] := by
      rw [readMessages_of_rest hfirst rfl, readMessages_of_broken hsecond]
    have hsession : service =
        ofReadings files 4 { viewer := {} } [.oversized 5 cut, .broken .truncated] := by
      rw [← hreadings, ← ofServer_eq_ofReadings]
      rfl
    rw [hsession]
    rfl
  have hbound : 256 < numberBound := by decide
  have hshort : ∀ m ∈ service.messages, (Text.toBytes m.render).length ≤ 256 := by
    rw [hservice]
    decide +kernel
  have hbreak : BreaksOff 4 long .truncated :=
    .behind (.oversized hlong (by decide)) rfl rfl (.truncated hcut (by decide) (by decide))
  obtain ⟨-, -, -, hread, hresult⟩ := ofInput_ends files 4 {} long
  exact ⟨hbound, hshort, hread 256 hbound hshort, (hresult _).mpr ⟨.truncated, rfl, hbreak⟩⟩

end Service

end SpanViewer
