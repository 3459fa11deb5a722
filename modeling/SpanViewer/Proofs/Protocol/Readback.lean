import SpanViewer.Proofs.Hover.Range
import SpanViewer.Proofs.Json.Number
import SpanViewer.Proofs.Viewer.Run
import SpanViewer.Proofs.Viewer.Transfer

/-!
# Sessions that are read back

What a server writes is read as the messages that it sent. A server repeats the numbers of requests,
which have 64 bits because they were read, and tells of documents, whose lines and words are counted
with 64 bits. All else that it sends is text.
-/

namespace SpanViewer

/-- A field that stands there once is one of the fields. -/
theorem exists_mem_of_requiredField? {name : String} {fields : List (Text × Json)} {value : Json}
    (hfield : requiredField? name fields = some value) : ∃ field ∈ fields, field.2 = value := by
  unfold requiredField? at hfield
  split at hfield
  · next field hfound =>
    have hmem : field ∈ fields.filter fun field => field.1 = name.toList := by
      rw [hfound]
      exact List.mem_singleton.mpr rfl
    exact ⟨field, (List.mem_filter.mp hmem).1, Option.some.inj hfield⟩
  · contradiction

/-- The number of a message that is read has 64 bits. -/
theorem Message.seq_lt_of_parse? {text : Text} {m : Message} (hparse : parse? text = some m) :
    m.seq < numberBound := by
  obtain ⟨fields, hfields, hparse⟩ := Option.bind_eq_some_iff.mp hparse
  obtain ⟨value, hvalue, hparse⟩ := Option.bind_eq_some_iff.mp hparse
  obtain ⟨seq, hseq, hparse⟩ := Option.bind_eq_some_iff.mp hparse
  obtain ⟨_, -, hparse⟩ := Option.bind_eq_some_iff.mp hparse
  obtain ⟨_, -, hparse⟩ := Option.bind_eq_some_iff.mp hparse
  obtain ⟨_, -, hparse⟩ := Option.bind_eq_some_iff.mp hparse
  obtain rfl := Option.some.inj hparse
  obtain ⟨field, hmem, rfl⟩ := exists_mem_of_requiredField? hvalue
  exact Json.fitsNatural_of_parseFields? hfields field hmem seq hseq

/-- A message that a step reads has a number of 64 bits. -/
theorem seq_lt_of_readMessage {limit : Nat} {input rest : Bytes} {m : Message}
    (hreading : readMessage limit input = .message m rest) : m.seq < numberBound := by
  unfold readMessage at hreading
  split at hreading
  · contradiction
  · contradiction
  split at hreading
  · contradiction
  split at hreading
  · contradiction
  split at hreading
  · next parsed hparsed =>
    obtain ⟨rfl, -⟩ := Reading.message.inj hreading
    obtain ⟨text, -, hparse⟩ := Option.bind_eq_some_iff.mp hparsed
    exact Message.seq_lt_of_parse? hparse
  · contradiction

/-- Every reading is read by some step. -/
theorem exists_readMessage_of_mem {limit : Nat} {input : Bytes} {reading : Reading}
    (hmem : reading ∈ readMessages limit input) : ∃ left, readMessage limit left = reading := by
  induction hlength : input.length using Nat.strongRecOn generalizing input with
  | ind length ih =>
    subst hlength
    cases hreading : readMessage limit input with
    | endOfInput =>
      rw [readMessages_of_endOfInput hreading] at hmem
      contradiction
    | broken cause =>
      rw [readMessages_of_broken hreading, List.mem_singleton] at hmem
      exact ⟨input, hreading.trans hmem.symm⟩
    | message m rest | malformed rest | oversized length rest =>
      rw [readMessages_of_rest hreading rfl, List.mem_cons] at hmem
      obtain rfl | hmem := hmem
      · exact ⟨input, hreading⟩
      · have hshort : rest.length < input.length :=
          length_lt_of_readMessage (by rw [hreading]; rfl)
        exact ih rest.length hshort hmem rfl

/-- The messages that are read from an input have numbers of 64 bits. -/
theorem seq_lt_of_mem_readMessages {limit : Nat} {input rest : Bytes} {m : Message}
    (hmem : .message m rest ∈ readMessages limit input) : m.seq < numberBound := by
  obtain ⟨left, hreading⟩ := exists_readMessage_of_mem hmem
  exact seq_lt_of_readMessage hreading

/-- The lines of a document, and the words of each line, are counted with 64 bits. -/
structure Document.IsCounted (d : Document) : Prop where
  /-- The lines of the source. -/
  source : d.source.length < numberBound
  /-- The lines of the derived form. -/
  derived : d.derived.length < numberBound
  /-- The words of a line. -/
  words : ∀ words ∈ d.derived, words.length < numberBound

/-- All numbers of a document have 64 bits. -/
structure Document.Fits (d : Document) : Prop where
  /-- Those of its lines and words. -/
  counted : d.IsCounted
  /-- Those in its spans. -/
  bounded : ∀ words ∈ d.derived, ∀ w ∈ words, w.position.Bounded

/-- An empty document has no numbers. -/
theorem Document.fits_empty : Fits {} :=
  ⟨⟨by decide, by decide, List.forall_mem_nil _⟩, List.forall_mem_nil _⟩

/-- A document that is read has spans of 64 bits. -/
theorem Document.IsCounted.fits {format : FileFormat} {text : Text}
    (hcounted : (parse format text).IsCounted) : (parse format text).Fits :=
  ⟨hcounted, fun words hwords w hw => (readable_parse format text words hwords w hw).2⟩

/-- A value that is written exactly is a payload, unless it is null. -/
theorem isPayload_some {value : Json} (hne : value ≠ .null) (hvalue : Json.Exact 126 value) :
    IsPayload (some value) := by
  intro other hother
  obtain rfl := Option.some.inj hother
  exact ⟨hne, hvalue⟩

/-- What is said of the abilities is written exactly. -/
theorem exact_abilities (settings : Settings) : Json.Exact 126 (abilities settings) := by
  refine Json.exact_object_of_names
    ["formats".toList, "redirectsIndentationHover".toList, "supportsTextLoad".toList]
    (by decide) rfl ?_
  simp only [List.forall_mem_cons, List.not_mem_nil, false_implies, implies_true, and_true]
  refine ⟨.array ?_, .bool _, .bool _⟩
  simp only [List.forall_mem_cons, List.not_mem_nil, false_implies, implies_true, and_true]
  exact ⟨.string _, .string _, .string _⟩

/-- What is shown for a word is written exactly. -/
theorem Hover.exact_toJson (target : Target) {h : Hover} (hline : h.line < numberBound)
    (hindex : h.index < numberBound) : Json.Exact 126 (h.toJson target) := by
  refine Json.exact_object_of_names ["after".toList, "before".toList, "class".toList,
    "dedented".toList, "highlighted".toList, "line".toList, "mapped".toList, "rendered".toList,
    "text".toList, "word".toList] (by decide) rfl ?_
  simp only [List.forall_mem_cons, List.not_mem_nil, false_implies, implies_true, and_true]
  exact ⟨.string _, .string _, .string _, .string _, .string _, .number hline, .bool _,
    .string _, .string _, .number hindex⟩

namespace Viewer

variable {v next : Viewer} {files : Files}

/-- What is told of a document that was put on display is written exactly. -/
theorem exact_loadedJson (hdocument : v.document.Fits) (path : Option Text) :
    Json.Exact 126 (v.loadedJson path) := by
  refine Json.exact_object_of_names
    ["annotatedLines".toList, "path".toList, "sourceLines".toList] (by decide) rfl ?_
  have hpath : Json.Exact 125 (.ofText? path) := by
    cases path with
    | none => exact .null
    | some path => exact .string path
  simp only [List.forall_mem_cons, List.not_mem_nil, false_implies, implies_true, and_true]
  exact ⟨.number hdocument.counted.derived, hpath, .number hdocument.counted.source⟩

/-- A word that is shown has a place of 64 bits. -/
theorem place_lt_of_hover (hdocument : v.document.Fits) {line index : Nat} {h : Hover}
    (hhover : v.hover line index = .ok h) : h.line < numberBound ∧ h.index < numberBound := by
  unfold hover at hhover
  split at hhover
  · contradiction
  · next display hdisplay =>
    have hshown : v.document = display.document := by rw [document, hdisplay]; rfl
    rw [hshown] at hdocument
    obtain ⟨hline, ⟨words, hwords, hword⟩, -⟩ := (Document.shows_of_hover hhover).1
    obtain ⟨hlength, -⟩ := List.getElem?_eq_some_iff.mp hwords
    obtain ⟨hindex, -⟩ := List.getElem?_eq_some_iff.mp hword
    have hcounted := hdocument.counted.words words (List.mem_of_getElem? hwords)
    rw [hline]
    exact ⟨Nat.lt_trans hlength hdocument.counted.derived, Nat.lt_trans hindex hcounted⟩

/-- The answer to a request to load is written exactly. -/
theorem isPayload_of_answerLoad (hnext : next.document.Fits) {arguments : Option Json} {body : Json}
    (hanswer : v.answerLoad files arguments = .ok (body, next)) : IsPayload (some body) := by
  have htold (path : Option Text) : IsPayload (some (next.loadedJson path)) :=
    isPayload_some nofun (exact_loadedJson hnext path)
  unfold answerLoad at hanswer
  split at hanswer
  · obtain ⟨loaded, -, hanswer⟩ := exists_of_bind_eq_ok hanswer
    obtain ⟨rfl, rfl⟩ := Prod.mk.inj (Except.ok.inj hanswer)
    exact htold _
  · obtain ⟨rfl, rfl⟩ := Prod.mk.inj (Except.ok.inj hanswer)
    exact htold _
  · contradiction

/-- The answer to a request to point at a word is written exactly. -/
theorem isPayload_of_answerHover (hdocument : v.document.Fits) {arguments : Option Json}
    {body : Json} (hanswer : v.answerHover arguments = .ok body) : IsPayload (some body) := by
  obtain ⟨_, -, hanswer⟩ := exists_of_bind_eq_ok hanswer
  obtain ⟨_, -, hanswer⟩ := exists_of_bind_eq_ok hanswer
  obtain ⟨_, -, hanswer⟩ := exists_of_bind_eq_ok hanswer
  obtain ⟨h, hhover, hanswer⟩ := exists_of_bind_eq_ok hanswer
  obtain rfl := Except.ok.inj hanswer
  obtain ⟨hline, hindex⟩ := place_lt_of_hover hdocument hhover
  exact isPayload_some nofun (Hover.exact_toJson _ hline hindex)

/-- The class of a text is written exactly. -/
theorem isPayload_of_classifyText {arguments : Option Json} {body : Json}
    (hanswer : classifyText arguments = .ok body) : IsPayload (some body) := by
  unfold classifyText at hanswer
  split at hanswer
  · obtain rfl := Except.ok.inj hanswer
    exact isPayload_some nofun (Json.exact_object_of_names ["class".toList] (by decide) rfl
      (List.forall_mem_singleton.mpr (.string _)))
  · contradiction

/-- The answer to a request is written exactly. -/
theorem isPayload_of_answer (hdocument : v.document.Fits) (hnext : next.document.Fits)
    {command : Text} {arguments body : Option Json}
    (hanswer : v.answer files command arguments = .ok (body, next)) : IsPayload body := by
  unfold answer at hanswer
  split at hanswer
  · obtain ⟨rfl, -⟩ := Prod.mk.inj (Except.ok.inj hanswer)
    exact isPayload_some nofun (exact_abilities v.settings)
  split at hanswer
  · obtain ⟨⟨told, loaded⟩, hload, hanswer⟩ := exists_of_map_eq_ok hanswer
    obtain ⟨rfl, rfl⟩ := Prod.mk.inj hanswer
    exact isPayload_of_answerLoad hnext hload
  split at hanswer
  · obtain ⟨rfl, -⟩ := Prod.mk.inj (Except.ok.inj hanswer)
    exact isPayload_some nofun (Document.exact_toJson hdocument.bounded)
  split at hanswer
  · obtain ⟨told, hhover, hanswer⟩ := exists_of_map_eq_ok hanswer
    obtain ⟨rfl, -⟩ := Prod.mk.inj hanswer
    exact isPayload_of_answerHover hdocument hhover
  split at hanswer
  · obtain ⟨told, hclass, hanswer⟩ := exists_of_map_eq_ok hanswer
    obtain ⟨rfl, -⟩ := Prod.mk.inj hanswer
    exact isPayload_of_classifyText hclass
  split at hanswer
  · obtain ⟨rfl, -⟩ := Prod.mk.inj (Except.ok.inj hanswer)
    exact nofun
  · contradiction

/-- What is sent in return for a request is written exactly. -/
theorem isExact_respond {seq : Nat} (hseq : seq < numberBound) (hdocument : v.document.Fits)
    {command : Text} {arguments : Option Json}
    (hnext : (v.respond files seq command arguments).2.document.Fits) :
    ∀ content ∈ (v.respond files seq command arguments).1, content.IsExact := by
  cases hanswer : v.answer files command arguments with
  | error fault =>
    rw [respond_of_error hanswer]
    exact List.forall_mem_singleton.mpr ⟨hseq, nofun⟩
  | ok outcome =>
    obtain ⟨body, next⟩ := outcome
    rw [respond_of_answer hanswer] at hnext ⊢
    have hbody := isPayload_of_answer hdocument hnext hanswer
    refine List.forall_mem_cons.mpr ⟨⟨hseq, hbody⟩, ?_⟩
    unfold announcement
    split
    · exact List.forall_mem_singleton.mpr nofun
    split
    · exact List.forall_mem_singleton.mpr hbody
    · exact List.forall_mem_nil _

/-- What is sent in return for a reading is written exactly. -/
theorem isExact_react {limit : Nat} {reading : Reading}
    (hseq : ∀ m rest, reading = .message m rest → m.seq < numberBound)
    (hdocument : v.document.Fits) (hnext : (v.react files limit reading).2.document.Fits) :
    ∀ content ∈ (v.react files limit reading).1, content.IsExact := by
  cases reading with
  | endOfInput | broken | malformed => exact List.forall_mem_nil _
  | oversized length rest => exact List.forall_mem_singleton.mpr ⟨by decide, nofun⟩
  | message m rest =>
    cases hcontent : m.content with
    | request command arguments =>
      rw [react_of_request hcontent] at hnext ⊢
      exact isExact_respond (hseq m rest rfl) hdocument hnext
    | response | event =>
      rw [react_of_not_request (by simp [hcontent])]
      exact List.forall_mem_nil _

/-- After an operation the numbers of the document on display have 64 bits, if those of texts that
it loads have. -/
theorem fits_after (hdocument : v.document.Fits) {operation : Operation}
    (hloaded : ∀ text path, operation.Loads text path →
      (Document.parse v.settings.toFileFormat text).IsCounted) :
    (v.after operation).document.Fits := by
  obtain ⟨text, path, hload, hafter⟩ | ⟨-, hafter⟩ | ⟨-, hafter⟩ := v.after_cases operation
  · rw [hafter]
    exact (hloaded text path hload).fits
  · rw [hafter]
    exact Document.fits_empty
  · rw [hafter]
    exact hdocument

end Viewer

/-- Only a request to load puts something on display. -/
theorem Operation.Loads.exists_content_eq {files : Files} {limit : Nat} {m : Message} {rest : Bytes}
    {text : Text} {path : Option Text}
    (hload : (Operation.reading files limit (.message m rest)).Loads text path) :
    ∃ arguments, m.content = .request "load".toList arguments := by
  cases hload with
  | requestFile hcontent => exact ⟨_, hcontent⟩
  | requestText hcontent => exact ⟨_, hcontent⟩

/-- A request to load that gives a text and names no file puts this text on display. -/
theorem Operation.Loads.eq_of_textArgument? {files : Files} {limit : Nat} {m : Message}
    {rest : Bytes} {arguments : Option Json} {text given : Text} {path : Option Text}
    (hload : (Operation.reading files limit (.message m rest)).Loads text path)
    (hcontent : m.content = .request "load".toList arguments)
    (hpath : textArgument? "path" arguments = none)
    (htext : textArgument? "text" arguments = some given) : text = given := by
  cases hload with
  | requestFile hother hfile =>
    obtain ⟨-, rfl⟩ := Content.request.inj (hcontent.symm.trans hother)
    rw [hpath] at hfile
    contradiction
  | requestText hother _ hgiven =>
    obtain ⟨-, rfl⟩ := Content.request.inj (hcontent.symm.trans hother)
    exact Option.some.inj (hgiven.symm.trans htext)

namespace Service

/-- What a session is about is counted with 64 bits. -/
structure IsCounted (files : Files) (limit : Nat) (v : Viewer) (input : Bytes) : Prop where
  /-- The document on display at the start. -/
  document : v.document.Fits
  /-- The documents that are loaded. -/
  loaded : ∀ operation ∈ Operation.ofService files limit input, ∀ text path,
    operation.Loads text path → (Document.parse v.settings.toFileFormat text).IsCounted
  /-- The messages that are sent. -/
  messages : (ofInput files limit v input).messages.length < numberBound

/-- What a session over readings sends is written exactly. -/
theorem isExact_ofReadings {files : Files} {limit : Nat} {s : Server} {readings : List Reading}
    (hseq : ∀ m rest, .message m rest ∈ readings → m.seq < numberBound)
    (hdocument : s.viewer.document.Fits)
    (hloaded : ∀ reading ∈ upToEnd readings, ∀ text path,
      (Operation.reading files limit reading).Loads text path →
        (Document.parse s.viewer.settings.toFileFormat text).IsCounted) :
    ∀ m ∈ (ofReadings files limit s readings).messages, m.content.IsExact := by
  induction readings generalizing s with
  | nil => exact List.forall_mem_nil _
  | cons reading readings ih =>
    have hfirst : reading ∈ upToEnd (reading :: readings) := by
      unfold upToEnd
      split <;> exact List.mem_cons_self
    have hnext := Viewer.fits_after hdocument (hloaded reading hfirst)
    have hsent : ∀ m ∈ (s.step files limit reading).1, m.content.IsExact := by
      rw [Server.step_eq]
      intro m hm
      have hnumber (m : Message) (rest : Bytes) (heq : reading = .message m rest) :=
        hseq m rest (heq ▸ List.mem_cons_self)
      exact Viewer.isExact_react hnumber hdocument hnext _ (mem_of_mem_numbered hm).1
    rw [ofReadings]
    split
    · exact hsent
    · next hstay =>
      refine List.forall_mem_append.mpr ⟨hsent, ih ?_ ?_ ?_⟩
      · exact fun m rest hmem => hseq m rest (List.mem_cons_of_mem reading hmem)
      · rw [Server.step_eq]
        exact hnext
      · intro later hlater text path hload
        have hmem : later ∈ upToEnd (reading :: readings) := by
          rw [upToEnd, if_neg hstay]
          exact List.mem_cons_of_mem reading hlater
        have hsettings : (s.viewer.react files limit reading).2.settings = s.viewer.settings :=
          Viewer.settings_after s.viewer (.reading files limit reading)
        rw [Server.step_eq]
        simp only [hsettings]
        exact hloaded later hmem text path hload

/-- The messages of a session are written exactly. -/
theorem IsCounted.isExact {files : Files} {limit : Nat} {v : Viewer} {input : Bytes}
    (hcounted : IsCounted files limit v input) :
    ∀ m ∈ (ofInput files limit v input).messages, m.IsExact := by
  obtain ⟨hdocument, hloaded, hmessages⟩ := hcounted
  have hoperation (reading : Reading) (hreading : reading ∈ upToEnd (readMessages limit input)) :=
    hloaded (.reading files limit reading) (List.mem_map_of_mem hreading)
  have hnumbered := messages_ofReadings files limit { viewer := v } (readMessages limit input)
  have hcontent := isExact_ofReadings (s := { viewer := v })
    (fun m rest => seq_lt_of_mem_readMessages) hdocument hoperation
  rw [← ofServer_eq_ofReadings] at hnumbered hcontent
  intro m hm
  refine ⟨?_, hcontent m hm⟩
  rw [ofInput, hnumbered] at hm
  have hseq := (mem_of_mem_numbered hm).2
  rw [List.length_map, Nat.zero_add] at hseq
  exact Nat.lt_of_le_of_lt hseq hmessages

/-- What a session writes: in front of each message the number of its bytes. -/
theorem toBytes_frames (service : Service) :
    Text.toBytes service.frames.flatten =
      service.messages.flatMap fun m =>
        Text.toBytes ("Content-Length: ".toList ++
          .ofNumber (Text.toBytes m.render).length ++ "\r\n\r\n".toList) ++
          Text.toBytes m.render := by
  have hheader : lengthHeader ++ [' '] = "Content-Length: ".toList := by decide
  rw [frames, ← List.flatMap_def]
  induction service.messages with
  | nil => rfl
  | cons m later ih =>
    rw [List.flatMap_cons, List.flatMap_cons, Text.toBytes_append, ih, Message.frame, hheader,
      ← Text.length_toBytes, Text.toBytes_append]

/-- What a session writes is read as the messages that it sent. -/
theorem IsCounted.readMessages_eq {files : Files} {limit : Nat} {v : Viewer} {input : Bytes}
    (hcounted : IsCounted files limit v input) {bound : Nat} (hbound : bound < numberBound)
    (hshort : ∀ m ∈ (ofInput files limit v input).messages, m.render.byteSize ≤ bound) :
    readMessages bound (Text.toBytes (ofInput files limit v input).frames.flatten) =
      Message.readings (ofInput files limit v input).messages := by
  rw [frames, ← List.flatMap_def]
  exact readMessages_frames hbound hcounted.isExact hshort

end Service

end SpanViewer
