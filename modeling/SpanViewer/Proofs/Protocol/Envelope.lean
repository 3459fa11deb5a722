import SpanViewer.Proofs.Position.Written
import SpanViewer.Proofs.Protocol.Readings
import SpanViewer.Proofs.Stream.Line

/-!
# Envelopes

An envelope is a body behind header lines that declare its length. Whatever the body holds, and
whatever the other header lines say, the reader takes the envelope off the input and no byte more,
so the next envelope is read where it starts.
-/

namespace SpanViewer

/-- How a header line ends. -/
inductive LineEnding where
  /-- With a line feed alone. -/
  | feed
  /-- With a carriage return and a line feed. -/
  | returnFeed
  deriving DecidableEq, Repr

namespace LineEnding

/-- What stands in front of the line feed. -/
def returns : LineEnding → Text
  | feed => []
  | returnFeed => ['\r']

/-- The characters that end the line. -/
def text (ending : LineEnding) : Text :=
  ending.returns ++ ['\n']

end LineEnding

/-- A header line without the characters that end it. -/
def withoutEnding (line : Text) : Text :=
  line.dropEndWhile fun c => c = '\r' || c = '\n'

/-- A header line that is neither blank nor declares a length. -/
structure OtherHeader where
  /-- What the line says. -/
  text : Text
  /-- How the line ends. -/
  ending : LineEnding
  /-- It is one line. -/
  no_feed : '\n' ∉ text
  /-- It is not blank. -/
  not_blank : withoutEnding text ≠ []
  /-- It does not start as a declaration. -/
  no_length : ¬ lengthHeader <+: text

/-- The bytes of a header line. -/
def OtherHeader.bytes (line : OtherHeader) : Bytes :=
  Text.toBytes (line.text ++ line.ending.text)

/-- A body behind header lines, of which one declares its length. -/
structure Envelope where
  /-- Blank lines in front of the header. -/
  blanks : List LineEnding
  /-- The header lines above the declaration. -/
  above : List OtherHeader
  /-- How the declaration ends. -/
  declaration : LineEnding
  /-- The header lines below the declaration. -/
  below : List OtherHeader
  /-- The blank line that ends the header. -/
  closing : LineEnding
  /-- Any bytes. -/
  body : Bytes
  /-- A body has at least one byte. -/
  body_pos : 0 < body.length

namespace Envelope

/-- The line that declares the length of the body. -/
def declarationText (e : Envelope) : Text :=
  lengthHeader ++ [' '] ++ .ofNumber e.body.length

/-- The envelope as it stands in the input. -/
def bytes (e : Envelope) : Bytes :=
  e.blanks.flatMap (fun ending => Text.toBytes ending.text) ++ e.above.flatMap OtherHeader.bytes ++
    Text.toBytes (e.declarationText ++ e.declaration.text) ++ e.below.flatMap OtherHeader.bytes ++
    Text.toBytes e.closing.text ++ e.body

end Envelope

/-- A body that is read whole: a message, or none if its bytes are not the JSON of one. -/
def Reading.ofBody (body rest : Bytes) : Reading :=
  match Text.ofBytes? body >>= Message.parse? with
  | some m => .message m rest
  | none => .malformed rest

/-- The readings of envelopes with an input behind them: each takes its own envelope away and
leaves those behind it. -/
def Envelope.readings : List Envelope → Bytes → List Reading
  | [], _ => []
  | e :: later, tail =>
    Reading.ofBody e.body (later.flatMap Envelope.bytes ++ tail) :: readings later tail

/-- A line of text is read: what it says without its ending, and the input behind it. -/
def ReadsLine (input : Bytes) (line : Text) (rest : Bytes) : Prop :=
  ∃ bytes text, nextLine? input = some (bytes, rest) ∧ Text.ofBytes? bytes = some text ∧
    withoutEnding text = line

/-- A line is read, and its ending does not count. -/
theorem readsLine_toBytes {line : Text} (hfeed : '\n' ∉ line) (ending : LineEnding)
    (rest : Bytes) :
    ReadsLine (Text.toBytes (line ++ ending.text) ++ rest) (withoutEnding line) rest := by
  have hreturns : '\n' ∉ line ++ ending.returns := by
    cases ending <;> simp [LineEnding.returns, hfeed]
  have hnext := nextLine?_toBytes hreturns rest
  rw [List.append_assoc] at hnext
  refine ⟨_, line ++ ending.text, hnext, Text.ofBytes?_toBytes _, ?_⟩
  apply Text.dropEndWhile_append_of_all
  cases ending <;> simp [LineEnding.text, LineEnding.returns]

/-- The header goes on with the next line, if this is text. -/
theorem readHeader_of_nextLine? {input bytes rest : Bytes}
    (hnext : nextLine? input = some (bytes, rest)) (declared : Nat) :
    readHeader declared input =
      match Text.ofBytes? bytes with
      | none => .broken
      | some text =>
        if withoutEnding text = [] then
          if 0 < declared then .body declared rest else readHeader declared rest
        else
          readHeader ((declaredLength? (withoutEnding text)).getD declared) rest := by
  rw [readHeader]
  split
  · next hnone =>
    rw [hnext] at hnone
    contradiction
  · next bytes' rest' hsome =>
    rw [hnext] at hsome
    obtain ⟨rfl, rfl⟩ := Prod.mk.inj (Option.some.inj hsome)
    rfl

/-- A line of text goes into the header, or ends it. -/
theorem readHeader_of_readsLine {input rest : Bytes} {line : Text}
    (hline : ReadsLine input line rest) (declared : Nat) :
    readHeader declared input =
      if line = [] then
        if 0 < declared then .body declared rest else readHeader declared rest
      else
        readHeader ((declaredLength? line).getD declared) rest := by
  obtain ⟨bytes, text, hnext, htext, rfl⟩ := hline
  simp only [readHeader_of_nextLine? hnext, htext]

/-- A header line is read up to its line feed, and its ending does not count. -/
theorem readHeader_line (declared : Nat) {line : Text} (hfeed : '\n' ∉ line) (ending : LineEnding)
    (rest : Bytes) :
    readHeader declared (Text.toBytes (line ++ ending.text) ++ rest) =
      if withoutEnding line = [] then
        if 0 < declared then .body declared rest else readHeader declared rest
      else
        readHeader ((declaredLength? (withoutEnding line)).getD declared) rest :=
  readHeader_of_readsLine (readsLine_toBytes hfeed ending rest) declared

/-- Before a length is declared blank lines are passed over. -/
theorem readHeader_blanks (blanks : List LineEnding) (rest : Bytes) :
    readHeader 0 (blanks.flatMap (fun ending => Text.toBytes ending.text) ++ rest) =
      readHeader 0 rest := by
  induction blanks with
  | nil => rfl
  | cons ending blanks ih =>
    have hblank := readHeader_line 0 List.not_mem_nil ending
      (blanks.flatMap (fun ending => Text.toBytes ending.text) ++ rest)
    rw [List.nil_append] at hblank
    rw [List.flatMap_cons, List.append_assoc, hblank, ih]
    rfl

/-- Once a length is declared a blank line ends the header. -/
theorem readHeader_closing {declared : Nat} (hdeclared : 0 < declared) (ending : LineEnding)
    (rest : Bytes) :
    readHeader declared (Text.toBytes ending.text ++ rest) = .body declared rest := by
  have hblank := readHeader_line declared List.not_mem_nil ending rest
  rw [List.nil_append] at hblank
  rw [hblank, if_pos hdeclared]
  rfl

/-- A line that does not start as a declaration declares nothing. -/
theorem declaredLength?_withoutEnding {line : Text} (hline : ¬ lengthHeader <+: line) :
    declaredLength? (withoutEnding line) = none := by
  have hfront : withoutEnding line <+: line := by
    rw [withoutEnding, Text.dropEndWhile, ← List.reverse_suffix, List.reverse_reverse]
    exact List.dropWhile_suffix _
  rw [declaredLength?, Option.map_eq_none_iff, Option.eq_none_iff_forall_ne_some]
  intro value hvalue
  have hheader : lengthHeader <+: withoutEnding line :=
    ⟨value, (Text.isPrefixOf?_eq_some_iff.mp hvalue).symm⟩
  exact hline (hheader.trans hfront)

/-- Other header lines change nothing. -/
theorem readHeader_others (declared : Nat) (lines : List OtherHeader) (rest : Bytes) :
    readHeader declared (lines.flatMap OtherHeader.bytes ++ rest) = readHeader declared rest := by
  induction lines with
  | nil => rfl
  | cons line lines ih =>
    rw [List.flatMap_cons, List.append_assoc, OtherHeader.bytes,
      readHeader_line declared line.no_feed, if_neg line.not_blank,
      declaredLength?_withoutEnding line.no_length, Option.getD_none, ih]

namespace Envelope

/-- A declaration stands on one line. -/
theorem feed_not_mem_declarationText (e : Envelope) : '\n' ∉ e.declarationText := by
  have hheader : '\n' ∉ lengthHeader ++ [' '] := by decide
  have hnumber : '\n' ∉ Text.ofNumber e.body.length := Text.not_mem_ofNumber (by decide)
  rw [declarationText, List.mem_append]
  exact not_or.mpr ⟨hheader, hnumber⟩

/-- A declaration ends in a digit, so nothing is taken off its end. -/
theorem withoutEnding_declarationText (e : Envelope) :
    withoutEnding e.declarationText = e.declarationText := by
  obtain ⟨front, c, hdigits⟩ :=
    (Text.ofNumber e.body.length).eq_nil_or_concat.resolve_left Nat.toDigits_ne_nil
  have hdigit : c.isDigit = true := Text.isDigit_of_mem_ofNumber (by rw [hdigits]; simp)
  have hending : (c = '\r' || c = '\n') = false := by
    obtain ⟨hlow, -⟩ := toNat_of_isDigit hdigit
    have hreturn : c ≠ '\r' := by rintro rfl; contradiction
    have hfeed : c ≠ '\n' := by rintro rfl; contradiction
    simp [hreturn, hfeed]
  rw [declarationText, hdigits, List.concat_eq_append, ← List.append_assoc]
  exact Text.dropEndWhile_append_singleton _ hending

/-- A declaration is read as the length of the body. -/
theorem declaredLength?_declarationText {e : Envelope} (hlength : e.body.length < numberBound) :
    declaredLength? e.declarationText = some e.body.length := by
  have hfront : lengthHeader.isPrefixOf? e.declarationText =
      some ([' '] ++ Text.ofNumber e.body.length) :=
    Text.isPrefixOf?_eq_some_iff.mpr (List.append_assoc _ _ _)
  have htrim : Text.trim ([' '] ++ Text.ofNumber e.body.length) = .ofNumber e.body.length := by
    rw [Text.trim_append_left (List.forall_mem_singleton.mpr (by decide))]
    exact Text.trim_of_not_blank fun c hc => isBlank_of_isDigit (Text.isDigit_of_mem_ofNumber hc)
  rw [declaredLength?, hfront, Option.map_some, htrim, Text.number?_ofNumber hlength,
    Option.getD_some]

/-- A declaration replaces what was declared before. -/
theorem readHeader_declaration {e : Envelope} (hlength : e.body.length < numberBound)
    (declared : Nat) (rest : Bytes) :
    readHeader declared (Text.toBytes (e.declarationText ++ e.declaration.text) ++ rest) =
      readHeader e.body.length rest := by
  have hne : e.declarationText ≠ [] := by simp [declarationText]
  rw [readHeader_line declared e.feed_not_mem_declarationText, e.withoutEnding_declarationText,
    if_neg hne, declaredLength?_declarationText hlength, Option.getD_some]

/-- The header of an envelope ends where its body starts. -/
theorem readHeader_bytes {e : Envelope} (hlength : e.body.length < numberBound) (rest : Bytes) :
    readHeader 0 (e.bytes ++ rest) = .body e.body.length (e.body ++ rest) := by
  simp only [bytes, List.append_assoc]
  rw [readHeader_blanks, readHeader_others, readHeader_declaration hlength, readHeader_others,
    readHeader_closing e.body_pos]

/-- One step of the reader takes an envelope off the input. -/
theorem readMessage_bytes {limit : Nat} (hlimit : limit < numberBound) {e : Envelope}
    (hbody : e.body.length ≤ limit) (rest : Bytes) :
    readMessage limit (e.bytes ++ rest) = Reading.ofBody e.body rest := by
  have hshort : ¬ (e.body ++ rest).length < e.body.length := by simp
  rw [readMessage, readHeader_bytes (Nat.lt_of_le_of_lt hbody hlimit)]
  simp only [if_neg (Nat.not_lt_of_le hbody), if_neg hshort, List.take_left, List.drop_left]
  rfl

end Envelope

/-- The reading of a body leaves what stands behind it. -/
theorem Reading.rest?_ofBody (body rest : Bytes) : (ofBody body rest).rest? = some rest := by
  unfold ofBody
  cases Text.ofBytes? body >>= Message.parse? <;> rfl

/-- Envelopes are read one by one, each up to its own end, and what stands behind them is left. -/
theorem readMessages_envelopes {limit : Nat} (hlimit : limit < numberBound)
    {envelopes : List Envelope} (hbodies : ∀ e ∈ envelopes, e.body.length ≤ limit) (tail : Bytes) :
    readMessages limit (envelopes.flatMap Envelope.bytes ++ tail) =
      Envelope.readings envelopes tail ++ readMessages limit tail := by
  induction envelopes with
  | nil => rfl
  | cons e later ih =>
    have hlater := ih fun other hother => hbodies other (List.mem_cons_of_mem e hother)
    have hreading := Envelope.readMessage_bytes hlimit (hbodies e List.mem_cons_self)
      (later.flatMap Envelope.bytes ++ tail)
    rw [List.flatMap_cons, List.append_assoc,
      readMessages_of_rest hreading (Reading.rest?_ofBody _ _), hlater]
    rfl

/-- A request, a body that looks like a header, and one that is no text. -/
theorem readMessages_envelopes_imitation :
    let header : OtherHeader :=
      ⟨"Content-Type: a\r".toList, .returnFeed, by decide, by decide, by decide⟩
    let request : Bytes :=
      Text.toBytes "\x7b \"seq\":3, \"type\":\"request\",\n\"command\":\"quit\" \x7d".toList
    let imitation : Bytes := Text.toBytes "Content-Length: 1\r\n\r\n".toList
    let later : List Envelope :=
      [⟨[.returnFeed, .feed], [header], .feed, [], .returnFeed, imitation, by decide⟩,
        ⟨[], [], .returnFeed, [header, header], .feed, [0xff, 10], by decide⟩]
    let envelopes : List Envelope :=
      ⟨[.feed], [], .returnFeed, [header], .returnFeed, request, by decide +kernel⟩ :: later
    64 < numberBound ∧ (∀ e ∈ envelopes, e.body.length ≤ 64) ∧
      readMessages 64 (envelopes.flatMap Envelope.bytes ++ imitation) =
        Envelope.readings envelopes imitation ++ readMessages 64 imitation ∧
      ∃ m : Message, m.seq = 3 ∧ m.type = "request".toList ∧
        Envelope.readings envelopes imitation =
          .message m (later.flatMap Envelope.bytes ++ imitation) ::
            .malformed ((later.drop 1).flatMap Envelope.bytes ++ imitation) ::
            [.malformed imitation] := by
  intro header request imitation later envelopes
  have hlimit : 64 < numberBound := by decide
  have hbodies : ∀ e ∈ envelopes, e.body.length ≤ 64 := by decide +kernel
  have hparse : (Text.ofBytes? request >>= Message.parse?).map (fun m => (m.seq, m.type)) =
      some (3, "request".toList) := by decide +kernel
  have hheader : Text.ofBytes? imitation >>= Message.parse? = none :=
    Option.isNone_iff_eq_none.mp (by decide +kernel)
  have hnoText : Text.ofBytes? [0xff, 10] >>= Message.parse? = none :=
    Option.isNone_iff_eq_none.mp (by decide +kernel)
  obtain ⟨m, hm, hfields⟩ := Option.map_eq_some_iff.mp hparse
  refine ⟨hlimit, hbodies, readMessages_envelopes hlimit hbodies imitation, m,
    (Prod.mk.inj hfields).1, (Prod.mk.inj hfields).2, ?_⟩
  simp only [envelopes, later, Envelope.readings, Reading.ofBody, hm, hheader, hnoText]
  rfl

end SpanViewer
