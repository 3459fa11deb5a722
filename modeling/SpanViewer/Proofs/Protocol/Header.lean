import SpanViewer.Proofs.Protocol.Envelope

/-!
# Headers and bodies

What the reader makes of an input, line by line: header lines are passed over up to the blank line
behind a declared length, and the body is taken by this length. These relations say it without the
recursion of the reader, and the reader computes them.
-/

namespace SpanViewer

/-- Header lines take an input up to a place. The number is the length that was declared last. A
blank line is a header line only where no length is declared, or a bad one. -/
inductive HeaderLines (input : Bytes) : Nat → Bytes → Prop
  /-- No line is read yet. -/
  | start : HeaderLines input 0 input
  /-- A blank line is passed over. -/
  | blank {left rest : Bytes} (hlines : HeaderLines input 0 left) (hline : ReadsLine left [] rest) :
      HeaderLines input 0 rest
  /-- Any other line may declare a length. -/
  | line {declared : Nat} {left rest : Bytes} {line : Text}
      (hlines : HeaderLines input declared left) (hline : ReadsLine left line rest)
      (hne : line ≠ []) : HeaderLines input ((declaredLength? line).getD declared) rest

/-- What stands at the beginning of an input. -/
inductive ReadsHeader (input : Bytes) : Header → Prop
  /-- There is nothing behind the header lines. -/
  | endOfInput {declared : Nat} (hlines : HeaderLines input declared []) :
      ReadsHeader input .endOfInput
  /-- The line behind the header lines is no text. -/
  | broken {declared : Nat} {left line rest : Bytes} (hlines : HeaderLines input declared left)
      (hnext : nextLine? left = some (line, rest)) (htext : Text.ofBytes? line = none) :
      ReadsHeader input .broken
  /-- A blank line ends the header lines, and a length is declared. -/
  | body {length : Nat} {left rest : Bytes} (hlines : HeaderLines input length left)
      (hlength : 0 < length) (hline : ReadsLine left [] rest) :
      ReadsHeader input (.body length rest)

/-- What one step reads from an input. -/
inductive ReadsMessage (limit : Nat) (input : Bytes) : Reading → Prop
  /-- The input ends before a body begins. -/
  | endOfInput (hheader : ReadsHeader input .endOfInput) : ReadsMessage limit input .endOfInput
  /-- A header line is no text. -/
  | notText (hheader : ReadsHeader input .broken) : ReadsMessage limit input (.broken .notText)
  /-- A body within the limit is shorter than its header says. -/
  | truncated {length : Nat} {left : Bytes} (hheader : ReadsHeader input (.body length left))
      (hlimit : length ≤ limit) (hshort : left.length < length) :
      ReadsMessage limit input (.broken .truncated)
  /-- A body is longer than the limit. It is passed over, or what there is of it. -/
  | oversized {length : Nat} {left : Bytes} (hheader : ReadsHeader input (.body length left))
      (hlimit : limit < length) : ReadsMessage limit input (.oversized length (left.drop length))
  /-- A body is read whole. -/
  | body {body rest : Bytes} (hheader : ReadsHeader input (.body body.length (body ++ rest)))
      (hlimit : body.length ≤ limit) : ReadsMessage limit input (.ofBody body rest)

/-- There is no header at the end of the input. -/
theorem readHeader_nil (declared : Nat) : readHeader declared [] = .endOfInput := by
  rw [readHeader]
  rfl

/-- Nothing is read at the end of the input. -/
theorem readMessages_nil (limit : Nat) : readMessages limit [] = [] := by
  apply readMessages_of_endOfInput
  rw [readMessage, readHeader_nil]

/-- Only at its end has an input no next line. -/
theorem eq_nil_of_nextLine?_eq_none {input : Bytes} (hnext : nextLine? input = none) :
    input = [] := by
  cases input with
  | nil => rfl
  | cons byte input =>
    simp only [nextLine?] at hnext
    split at hnext
    · contradiction
    · split at hnext <;> contradiction

/-- The reader goes on behind header lines with the length they declare. -/
theorem HeaderLines.readHeader_eq {input left : Bytes} {declared : Nat}
    (hlines : HeaderLines input declared left) :
    readHeader 0 input = readHeader declared left := by
  induction hlines with
  | start => rfl
  | blank hlines hline ih =>
    rw [ih, readHeader_of_readsLine hline]
    rfl
  | line hlines hline hne ih => rw [ih, readHeader_of_readsLine hline, if_neg hne]

/-- From any place behind header lines the reader finds what stands at the beginning. -/
theorem HeaderLines.readsHeader {input left : Bytes} {declared : Nat}
    (hlines : HeaderLines input declared left) :
    ReadsHeader input (readHeader declared left) := by
  fun_induction readHeader declared left with
  | case1 declared left hnext =>
    obtain rfl := eq_nil_of_nextLine?_eq_none hnext
    exact .endOfInput hlines
  | case2 declared left bytes rest hnext hshort htext => exact .broken hlines hnext htext
  | case3 declared left bytes rest hnext hshort text htext line hblank hlength =>
    exact .body hlines hlength ⟨bytes, text, hnext, htext, hblank⟩
  | case4 declared left bytes rest hnext hshort text htext line hblank hlength ih =>
    obtain rfl := Nat.eq_zero_of_not_pos hlength
    exact ih (.blank hlines ⟨bytes, text, hnext, htext, hblank⟩)
  | case5 declared left bytes rest hnext hshort text htext line hne ih =>
    exact ih (.line hlines ⟨bytes, text, hnext, htext, rfl⟩ hne)

/-- The reader finds what stands at the beginning of an input, and nothing else stands there. -/
theorem readHeader_eq_iff {input : Bytes} {header : Header} :
    readHeader 0 input = header ↔ ReadsHeader input header := by
  constructor
  · rintro rfl
    exact HeaderLines.start.readsHeader
  · intro hheader
    cases hheader with
    | endOfInput hlines => rw [hlines.readHeader_eq, readHeader_nil]
    | broken hlines hnext htext =>
      simp only [hlines.readHeader_eq, readHeader_of_nextLine? hnext, htext]
    | body hlines hlength hline =>
      rw [hlines.readHeader_eq, readHeader_of_readsLine hline, if_pos rfl, if_pos hlength]

/-- The reader reads what one step reads, and nothing else. -/
theorem readMessage_eq_iff {limit : Nat} {input : Bytes} {reading : Reading} :
    readMessage limit input = reading ↔ ReadsMessage limit input reading := by
  constructor
  · rintro rfl
    rw [readMessage]
    split
    · next hend => exact .endOfInput (readHeader_eq_iff.mp hend)
    · next hbroken => exact .notText (readHeader_eq_iff.mp hbroken)
    · next length left hbody =>
      have hheader := readHeader_eq_iff.mp hbody
      split
      · next hlong => exact .oversized hheader hlong
      · next hlong =>
        have hlimit := Nat.le_of_not_lt hlong
        split
        · next hshort => exact .truncated hheader hlimit hshort
        · next hshort =>
          have hlength : (left.take length).length = length :=
            List.length_take_of_le (Nat.le_of_not_lt hshort)
          have hwhole : ReadsHeader input
              (.body (left.take length).length (left.take length ++ left.drop length)) := by
            rwa [hlength, List.take_append_drop]
          exact .body hwhole (Nat.le_trans (Nat.le_of_eq hlength) hlimit)
  · intro hreading
    cases hreading with
    | endOfInput hheader => rw [readMessage, readHeader_eq_iff.mpr hheader]
    | notText hheader => rw [readMessage, readHeader_eq_iff.mpr hheader]
    | truncated hheader hlimit hshort =>
      rw [readMessage, readHeader_eq_iff.mpr hheader]
      simp only [if_neg (Nat.not_lt_of_le hlimit), if_pos hshort]
    | oversized hheader hlimit =>
      rw [readMessage, readHeader_eq_iff.mpr hheader]
      simp only [if_pos hlimit]
    | @body body rest hheader hlimit =>
      have hwhole : ¬ (body ++ rest).length < body.length := by simp
      rw [readMessage, readHeader_eq_iff.mpr hheader]
      simp only [if_neg (Nat.not_lt_of_le hlimit), if_neg hwhole, List.take_left, List.drop_left]
      rfl

/-- A line that is read is the beginning of the input. -/
theorem ReadsLine.suffix {input rest : Bytes} {line : Text} (hline : ReadsLine input line rest) :
    rest <:+ input := by
  obtain ⟨bytes, text, hnext, -, -⟩ := hline
  exact ⟨bytes, append_of_nextLine? hnext⟩

/-- Header lines are the beginning of the input. -/
theorem HeaderLines.suffix {input left : Bytes} {declared : Nat}
    (hlines : HeaderLines input declared left) : left <:+ input := by
  induction hlines with
  | start => exact List.suffix_rfl
  | blank hlines hline ih => exact hline.suffix.trans ih
  | line hlines hline hne ih => exact hline.suffix.trans ih

/-- A body stands behind the beginning of the input. -/
theorem ReadsHeader.suffix {input left : Bytes} {length : Nat}
    (hheader : ReadsHeader input (.body length left)) : left <:+ input := by
  cases hheader with
  | body hlines hlength hline => exact hline.suffix.trans hlines.suffix

/-- A step takes the beginning of the input away. -/
theorem ReadsMessage.suffix {limit : Nat} {input rest : Bytes} {reading : Reading}
    (hreading : ReadsMessage limit input reading) (hrest : reading.rest? = some rest) :
    rest <:+ input := by
  cases hreading with
  | endOfInput | notText | truncated => contradiction
  | oversized hheader hlimit =>
    obtain rfl := Option.some.inj hrest
    exact (List.drop_suffix _ _).trans hheader.suffix
  | body hheader hlimit =>
    rw [Reading.rest?_ofBody] at hrest
    obtain rfl := Option.some.inj hrest
    exact (List.suffix_append _ _).trans hheader.suffix

/-- Only at its end has an input nothing at its beginning. -/
theorem ReadsHeader.ne_nil {input : Bytes} {header : Header} (hheader : ReadsHeader input header)
    (hend : header ≠ .endOfInput) : input ≠ [] := by
  rintro rfl
  rw [← readHeader_eq_iff, readHeader_nil] at hheader
  exact hend hheader.symm

/-- A step that leaves an input takes at least one byte from it. -/
theorem exists_taken_of_rest {limit : Nat} {input rest : Bytes}
    (hrest : (readMessage limit input).rest? = some rest) :
    ∃ taken, taken ≠ [] ∧ taken ++ rest = input := by
  obtain ⟨taken, htaken⟩ := (readMessage_eq_iff.mp rfl).suffix hrest
  have hshort := length_lt_of_readMessage hrest
  refine ⟨taken, ?_, htaken⟩
  rintro rfl
  rw [← htaken, List.nil_append] at hshort
  exact Nat.lt_irrefl _ hshort

/-- Each step finds the input at its end, or breaks off at something that stands there, or takes at
least one byte from it. -/
theorem readMessage_progress (limit : Nat) (input : Bytes) :
    (readMessage limit input = .endOfInput ∧ ∃ declared, HeaderLines input declared []) ∨
      (∃ cause, readMessage limit input = .broken cause ∧ input ≠ []) ∨
      ∃ taken rest, (readMessage limit input).rest? = some rest ∧ taken ≠ [] ∧
        taken ++ rest = input := by
  have htaken (rest : Bytes) (hrest : (readMessage limit input).rest? = some rest) :
      ∃ taken rest, (readMessage limit input).rest? = some rest ∧ taken ≠ [] ∧
        taken ++ rest = input := by
    obtain ⟨taken, hne, hinput⟩ := exists_taken_of_rest hrest
    exact ⟨taken, rest, hrest, hne, hinput⟩
  have hstep : ReadsMessage limit input (readMessage limit input) := readMessage_eq_iff.mp rfl
  generalize readMessage limit input = reading at hstep htaken ⊢
  cases hstep with
  | endOfInput hheader =>
    cases hheader with
    | endOfInput hlines => exact Or.inl ⟨rfl, _, hlines⟩
  | notText hheader => exact Or.inr (Or.inl ⟨_, rfl, hheader.ne_nil nofun⟩)
  | truncated hheader hlimit hshort => exact Or.inr (Or.inl ⟨_, rfl, hheader.ne_nil nofun⟩)
  | oversized hheader hlimit => exact Or.inr (Or.inr (htaken _ rfl))
  | body hheader hlimit => exact Or.inr (Or.inr (htaken _ (Reading.rest?_ofBody _ _)))

end SpanViewer
