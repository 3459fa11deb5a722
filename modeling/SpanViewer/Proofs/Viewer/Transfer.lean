import SpanViewer.Proofs.Document.Positions
import SpanViewer.Proofs.Protocol.Written

/-!
# Documents that are sent

A server sends the document on display with a null for every word that comes from nowhere. Since the
span of such a word has four zeros, nothing is lost: a frontend reads back the very document, and so
it knows all that pointing at a word can show.
-/

namespace SpanViewer

/-- The items that a value lists. -/
def Json.items? : Json → Option (List Json)
  | array items => some items
  | _ => none

/-- The span that a value is. A null is no span. -/
def Position.ofJson? : Json → Option Position
  | .null => some .unmapped
  | value => do
    let line ← (← value.field? "lineno".toList).natural?
    let column ← (← value.field? "col_offset".toList).natural?
    let endLine ← (← value.field? "end_lineno".toList).natural?
    let endColumn ← (← value.field? "end_col_offset".toList).natural?
    return ⟨line, column, endLine, endColumn⟩

/-- The word that a value is. -/
def Word.ofJson? (value : Json) : Option Word := do
  let text ← (← value.field? "text".toList).string?
  let position ← Position.ofJson? (← value.field? "pos".toList)
  return ⟨text, position⟩

/-- The words that a value lists. -/
def Word.listOfJson? (value : Json) : Option (List Word) := do
  (← value.items?).mapM Word.ofJson?

/-- The document that a value is. -/
def Document.ofJson? (value : Json) : Option Document := do
  let source ← (← (← value.field? "source".toList).items?).mapM Json.string?
  let derived ← (← (← value.field? "annotated".toList).items?).mapM Word.listOfJson?
  return ⟨source, derived⟩

/-- Items that are read back one by one are read back as a list. -/
theorem mapM_map_eq_some {α β : Type} {write : α → β} {read? : β → Option α} {items : List α}
    (hitems : ∀ item ∈ items, read? (write item) = some item) :
    (items.map write).mapM read? = some items := by
  induction items with
  | nil => rfl
  | cons item items ih =>
    obtain ⟨hitem, hrest⟩ := List.forall_mem_cons.mp hitems
    rw [List.map_cons, List.mapM_cons, hitem, ih hrest]
    rfl

/-- A valid span is read back: one without a line has four zeros. -/
theorem Position.ofJson?_toJson {p : Position} (hvalid : p.Valid) : ofJson? p.toJson = some p := by
  obtain rfl | ⟨hline, -⟩ := hvalid
  · rfl
  · have hmapped : p.isMapped = true := decide_eq_true (Nat.ne_of_gt hline)
    rw [toJson, if_pos hmapped]
    rfl

/-- A word with a valid span is read back. -/
theorem Word.ofJson?_toJson {w : Word} (hvalid : w.position.Valid) : ofJson? w.toJson = some w := by
  have htext : w.toJson.field? "text".toList = some (.string w.text) := rfl
  have hposition : w.toJson.field? "pos".toList = some w.position.toJson := rfl
  rw [ofJson?, htext, hposition]
  simp only [Option.bind_eq_bind, Option.bind_some, Json.string?, Position.ofJson?_toJson hvalid]
  rfl

/-- A document whose words have valid spans is read back. -/
theorem Document.ofJson?_toJson {d : Document}
    (hvalid : ∀ words ∈ d.derived, ∀ w ∈ words, w.position.Valid) :
    ofJson? d.toJson = some d := by
  have hsource : (d.source.map Json.string).mapM Json.string? = some d.source :=
    mapM_map_eq_some fun _ _ => rfl
  have hlines : (d.derived.map fun words => Json.array (words.map Word.toJson)).mapM
      Word.listOfJson? = some d.derived :=
    mapM_map_eq_some fun words hwords =>
      mapM_map_eq_some fun w hw => Word.ofJson?_toJson (hvalid words hwords w hw)
  have hsourceField : d.toJson.field? "source".toList =
      some (.array (d.source.map .string)) := rfl
  have hlinesField : d.toJson.field? "annotated".toList =
      some (.array (d.derived.map fun words => .array (words.map Word.toJson))) := rfl
  rw [ofJson?, hsourceField, hlinesField]
  simp only [Option.bind_eq_bind, Option.bind_some, Json.items?, hsource, hlines]
  rfl

section
variable {depth : Nat}

/-- A span is written exactly. -/
theorem Position.exact_toJson {p : Position} (hbounded : p.Bounded) :
    Json.Exact (depth + 1) p.toJson := by
  obtain ⟨hline, hcolumn, hendLine, hendColumn⟩ := hbounded
  unfold toJson
  split
  · refine Json.exact_object_of_names ["col_offset".toList, "end_col_offset".toList,
      "end_lineno".toList, "lineno".toList] (by decide) rfl ?_
    simp only [List.forall_mem_cons, List.not_mem_nil, false_implies, implies_true, and_true]
    exact ⟨.number hcolumn, .number hendColumn, .number hendLine, .number hline⟩
  · exact .null

/-- A word is written exactly. -/
theorem Word.exact_toJson {w : Word} (hbounded : w.position.Bounded) :
    Json.Exact (depth + 2) w.toJson := by
  refine Json.exact_object_of_names ["class".toList, "pos".toList, "text".toList] (by decide) rfl ?_
  simp only [List.forall_mem_cons, List.not_mem_nil, false_implies, implies_true, and_true]
  exact ⟨.string _, Position.exact_toJson hbounded, .string _⟩

/-- A document is written exactly. -/
theorem Document.exact_toJson {d : Document}
    (hbounded : ∀ words ∈ d.derived, ∀ w ∈ words, w.position.Bounded) :
    Json.Exact (depth + 5) d.toJson := by
  have hlines : Json.Exact (depth + 4)
      (.array (d.derived.map fun words => .array (words.map Word.toJson))) := by
    refine .array (List.forall_mem_map.mpr fun words hwords => .array ?_)
    exact List.forall_mem_map.mpr fun w hw => Word.exact_toJson (hbounded words hwords w hw)
  have hsource : Json.Exact (depth + 4) (.array (d.source.map .string)) :=
    .array (List.forall_mem_map.mpr fun line _ => .string line)
  refine Json.exact_object_of_names ["annotated".toList, "source".toList] (by decide) rfl ?_
  simp only [List.forall_mem_cons, List.not_mem_nil, false_implies, implies_true, and_true]
  exact ⟨hlines, hsource⟩

end

namespace Viewer

/-- Operations on a viewer that showed nothing lead to a document whose words have readable
positions. -/
theorem readable_run (settings : Settings) (operations : List Operation) :
    ∀ words ∈ (run ⟨settings, none⟩ operations).document.derived, ∀ w ∈ words,
      w.position.Readable := by
  obtain hempty | ⟨text, htext⟩ := document_run settings operations
  · rw [hempty]
    exact List.forall_mem_nil _
  · rw [htext]
    exact Document.readable_parse settings.toFileFormat text

/-- Pointing at a word shows the same where the same document is on display. -/
theorem hover_eq_of_document_eq {v w : Viewer} (hsettings : v.settings = w.settings)
    (hloaded : v.isLoaded = w.isLoaded) (hdocument : v.document = w.document) :
    v.hover = w.hover := by
  obtain ⟨settings, _ | ⟨d, path⟩⟩ := v <;> obtain ⟨others, _ | ⟨e, other⟩⟩ := w
  · rfl
  · contradiction
  · contradiction
  · obtain rfl : settings = others := hsettings
    obtain rfl : d = e := hdocument
    rfl

/-- A server answers requests to point at a word alike where pointing at it shows the same. -/
theorem respond_hover_eq {v w : Viewer} (hsettings : v.settings = w.settings)
    (hhover : v.hover = w.hover) (files : Files) (seq : Nat) (arguments : Option Json) :
    (v.respond files seq "hover".toList arguments).1 =
      (w.respond files seq "hover".toList arguments).1 := by
  have hanswer (u : Viewer) : u.answer files "hover".toList arguments =
      (u.answerHover arguments).map fun body => (some body, u) := rfl
  have hbody : v.answerHover arguments = w.answerHover arguments := by
    simp only [answerHover, hsettings, hhover]
  cases hw : w.answerHover arguments with
  | error fault =>
    rw [hw] at hbody
    rw [respond_of_error (by rw [hanswer, hbody]; rfl), respond_of_error (by rw [hanswer, hw]; rfl)]
  | ok body =>
    rw [hw] at hbody
    rw [respond_of_answer (by rw [hanswer, hbody]; rfl),
      respond_of_answer (by rw [hanswer, hw]; rfl)]

/-- The answer to a request for the document on display is read back as this document, whatever
operations lead to it. Viewers that are answered alike show the same document, and if they have the
same settings, then pointing at a word shows the same in both. -/
theorem document_sent (settings others : Settings) (operations later : List Operation) :
    let v := run ⟨settings, none⟩ operations
    let w := run ⟨others, none⟩ later
    (∀ files seq arguments, v.respond files seq "document".toList arguments =
      ([.response seq true "document".toList none (some v.document.toJson)], v)) ∧
    (∀ number < numberBound, ∀ seq < numberBound,
      let response : Message := ⟨number, "response".toList,
        .response seq true "document".toList none (some v.document.toJson)⟩
      Message.parse? response.render = some response) ∧
    Document.ofJson? v.document.toJson = some v.document ∧
    (v.document.toJson = w.document.toJson →
      v.document = w.document ∧
      (settings = others → v.isLoaded = w.isLoaded →
        v.hover = w.hover ∧
        ∀ files seq arguments, (v.respond files seq "hover".toList arguments).1 =
          (w.respond files seq "hover".toList arguments).1)) := by
  intro v w
  have hv : Document.ofJson? v.document.toJson = some v.document :=
    Document.ofJson?_toJson fun words hwords word hword =>
      (readable_run settings operations words hwords word hword).1
  have hw : Document.ofJson? w.document.toJson = some w.document :=
    Document.ofJson?_toJson fun words hwords word hword =>
      (readable_run others later words hwords word hword).1
  refine ⟨fun files seq arguments => rfl, fun number hnumber seq hseq => ?_, hv, fun hsame => ?_⟩
  · have hexact : Json.Exact (121 + 5) v.document.toJson :=
      Document.exact_toJson fun words hwords word hword =>
        (readable_run settings operations words hwords word hword).2
    refine Message.parse?_render ⟨hnumber, hseq, fun value hvalue => ?_⟩
    obtain rfl := Option.some.inj hvalue
    exact ⟨nofun, hexact⟩
  · have hdocument : v.document = w.document := by
      apply Option.some.inj
      rw [← hv, ← hw, hsame]
    refine ⟨hdocument, fun hsettings hloaded => ?_⟩
    have hequal : v.settings = w.settings := by rw [settings_run, settings_run, hsettings]
    have hhover := hover_eq_of_document_eq hequal hloaded hdocument
    exact ⟨hhover, respond_hover_eq hequal hhover⟩

/-- A blank line of the derived form more, behind a span and a word that comes from nowhere. -/
theorem document_sent_blank :
    let text := "f(1)\n##########\n  a b -- i;1:0,1:1\n".toList
    let operations : List Operation := [.loadText text]
    let later : List Operation := [.loadText text, .clear, .loadText (text ++ ['\n'])]
    let v := run ⟨{}, none⟩ operations
    let w := run ⟨{}, none⟩ later
    (1 < numberBound ∧ 2 < numberBound ∧
      let response : Message := ⟨1, "response".toList,
        .response 2 true "document".toList none (some v.document.toJson)⟩
      Message.parse? response.render = some response) ∧
    Document.ofJson? v.document.toJson = some v.document ∧
    v.document.toJson = w.document.toJson ∧ v.isLoaded = w.isLoaded ∧ v.document = w.document ∧
    v.hover = w.hover := by
  intro text operations later v w
  obtain ⟨-, hparse, hread, hsame⟩ := document_sent {} {} operations later
  have hjson : v.document.toJson = w.document.toJson :=
    congrArg Document.toJson (by decide +kernel : v.document = w.document)
  obtain ⟨hdocument, hhover⟩ := hsame hjson
  exact ⟨⟨by decide, by decide, hparse 1 (by decide) 2 (by decide)⟩, hread, hjson, rfl, hdocument,
    (hhover rfl rfl).1⟩

end Viewer

end SpanViewer
