import Mathlib.Data.Nat.Basic
import Mathlib.Order.Monotone.Defs
import SpanViewer.Proofs.Text.Offset

/-!
# Indices into the bytes of a text

An index is a machine word that counts bytes. It is moved to a place between characters by steps
down, each after a look at one byte: a character begins with a byte that continues no character and
goes on with at most three that do. The steps therefore end at the last place between characters
that is not behind the index, no more than three bytes in front of it, and none leads below zero.
-/

namespace SpanViewer

namespace Bytes

/-- A byte continues a character if its two highest bits are one and zero. -/
def continuesCharacter (byte : UInt8) : Bool :=
  128 ≤ byte && byte < 192

/-- An index into bytes is a boundary at their start, at their end, and in front of every byte that
continues no character. -/
def isBoundary (bytes : Bytes) (index : UInt64) : Bool :=
  index = 0 ||
    match bytes[index.toNat]? with
    | some byte => !continuesCharacter byte
    | none => index.toNat = bytes.length

/-- An index that is not zero is one more than the index below it. -/
theorem toNat_pred {index : UInt64} (hindex : index ≠ 0) :
    index.toNat = (index - 1).toNat + 1 := by
  have hne : index.toNat ≠ 0 := fun hzero => hindex (UInt64.toNat_inj.mp hzero)
  have hone : (1 : UInt64) ≤ index := by
    rw [UInt64.le_iff_toNat_le, UInt64.toNat_one]
    omega
  rw [UInt64.toNat_sub_of_le _ _ hone, UInt64.toNat_one]
  omega

/-- Steps down from an index to the first boundary. Nothing is found if a step would lead below
zero. -/
def stepDown? (bytes : Bytes) (index : UInt64) : Option UInt64 :=
  if isBoundary bytes index then
    some index
  else if hindex : index = 0 then
    none
  else
    have : (index - 1).toNat < index.toNat := by
      have := toNat_pred hindex
      omega
    stepDown? bytes (index - 1)
termination_by index.toNat

/-- The last boundary that is not behind an index, found by steps from the index, or the end of the
bytes if the index lies behind it. -/
def floorIndex? (bytes : Bytes) (index : UInt64) : Option UInt64 :=
  if bytes.length ≤ index.toNat then some (.ofNat bytes.length) else bytes.stepDown? index

/-- The bytes that continue a character are those from 128 to 191. -/
theorem continuesCharacter_iff {byte : UInt8} :
    continuesCharacter byte = true ↔ 128 ≤ byte.toNat ∧ byte.toNat < 192 := by
  simp [continuesCharacter, UInt8.le_iff_toNat_le, UInt8.lt_iff_toNat_lt]

/-- A character begins with a byte that continues no character, and goes on with bytes that do. -/
theorem exists_utf8EncodeChar_eq_cons (c : Char) :
    ∃ first rest, String.utf8EncodeChar c = first :: rest ∧ continuesCharacter first = false ∧
      ∀ byte ∈ rest, continuesCharacter byte = true := by
  fun_cases String.utf8EncodeChar c with
  | case1 value hvalue =>
    refine ⟨_, _, rfl, ?_, by simp⟩
    rw [← Bool.not_eq_true, continuesCharacter_iff, UInt8.toNat_ofNat']
    omega
  | case2 | case3 | case4 =>
    refine ⟨_, _, rfl, ?_, ?_⟩
    · rw [← Bool.not_eq_true, continuesCharacter_iff, UInt8.toNat_ofNat']
      omega
    · simp only [List.forall_mem_cons, continuesCharacter_iff, UInt8.toNat_ofNat',
        List.not_mem_nil, false_implies, implies_true, and_true]
      omega

/-- The bytes that continue a character are all of its bytes but the first. -/
theorem continuesCharacter_getElem {c : Char} {i : Nat}
    (hi : i < (String.utf8EncodeChar c).length) :
    continuesCharacter (String.utf8EncodeChar c)[i] = true ↔ i ≠ 0 := by
  obtain ⟨first, rest, hbytes, hfirst, hrest⟩ := exists_utf8EncodeChar_eq_cons c
  simp only [hbytes]
  cases i with
  | zero => simp [hfirst]
  | succ i => simp [hrest]

end Bytes

namespace Text

/-- The offsets between characters: the sizes of the parts that a text starts with. -/
def boundaries (text : Text) : Set Nat :=
  {offset | ∃ front, front <+: text ∧ byteSize front = offset}

/-- The offsets between characters are those in front of a first byte and that of the end. -/
theorem mem_boundaries_iff {text : Text} {offset : Nat} :
    offset ∈ text.boundaries ↔ text.isBoundary offset = true := by
  rw [isBoundary_iff]
  constructor
  · rintro ⟨front, ⟨back, htext⟩, hsize⟩
    exact ⟨front, back, htext.symm, hsize⟩
  · rintro ⟨front, back, htext, hsize⟩
    exact ⟨front, ⟨back, htext.symm⟩, hsize⟩

/-- In the bytes of a text those that continue no character are the first bytes of characters. -/
theorem not_continuesCharacter_iff {text : Text} {byte : UInt8} (hmem : byte ∈ text.toBytes) :
    Bytes.continuesCharacter byte = false ↔ byte.IsUTF8FirstByte := by
  obtain ⟨c, -, hbyte⟩ := List.mem_flatMap.mp hmem
  obtain ⟨i, hi, rfl⟩ := List.mem_iff_getElem.mp hbyte
  rw [UInt8.isUTF8FirstByte_getElem_utf8EncodeChar, ← Bool.not_eq_true,
    Bytes.continuesCharacter_getElem hi, not_not]

/-- A look at one byte tells whether an index lies between characters. -/
theorem isBoundary_toBytes (text : Text) (index : UInt64) :
    text.toBytes.isBoundary index = text.isBoundary index.toNat := by
  by_cases hindex : index = 0
  · have hstart : text.isBoundary 0 = true := isBoundary_append [] text
    simp [Bytes.isBoundary, hindex, hstart]
  · rw [Bytes.isBoundary, isBoundary, decide_eq_false hindex, Bool.false_or]
    cases hbyte : text.toBytes[index.toNat]? with
    | none => rfl
    | some byte =>
      have hmem := List.mem_of_getElem? hbyte
      rw [Bool.eq_iff_iff, Bool.not_eq_true', decide_eq_true_eq]
      exact not_continuesCharacter_iff hmem

/-- Steps of an index reach what steps of an offset reach. -/
theorem stepDown?_toBytes (text : Text) (index : UInt64) :
    (text.toBytes.stepDown? index).map UInt64.toNat = text.stepDown? index.toNat := by
  fun_induction Bytes.stepDown? text.toBytes index with
  | case1 index hhere =>
    rw [isBoundary_toBytes] at hhere
    exact (stepDown?_eq_some (Nat.le_refl _) hhere fun _ _ hle => hle).symm
  | case2 hhere =>
    rw [isBoundary_toBytes, UInt64.toNat_zero] at hhere
    rw [UInt64.toNat_zero, stepDown?, if_neg hhere, Option.map_none]
  | case3 index hhere hindex hless ih =>
    rw [isBoundary_toBytes, Bytes.toNat_pred hindex] at hhere
    rw [ih, Bytes.toNat_pred hindex, stepDown?, if_neg hhere]

/-- An index falls back to the column at which a cut falls. -/
theorem exists_floorIndex? (text : Text) (index : UInt64) :
    ∃ boundary, text.toBytes.floorIndex? index = some boundary ∧
      boundary.toNat = text.floorColumn index.toNat := by
  have hoffset := text.floorOffset?_eq_some index.toNat
  rw [floorOffset?] at hoffset
  rw [Bytes.floorIndex?, length_toBytes]
  split at hoffset
  · next hend =>
    have hword : (UInt64.ofNat text.byteSize).toNat = text.byteSize :=
      UInt64.toNat_ofNat_of_lt' (hend.trans_lt index.toNat_lt)
    exact ⟨_, if_pos hend, hword.trans (Option.some.inj hoffset)⟩
  · next hinside =>
    rw [← stepDown?_toBytes] at hoffset
    rw [if_neg hinside]
    exact Option.map_eq_some_iff.mp hoffset

/-- A larger column does not fall back further. -/
theorem monotone_floorColumn (text : Text) : Monotone text.floorColumn := by
  intro column column' hle
  exact le_floorColumn (isBoundary_floorColumn text column) ((floorColumn_le text column).trans hle)

/-- A column between characters stays where it is. -/
theorem floorColumn_of_isBoundary {text : Text} {column : Nat}
    (hboundary : text.isBoundary column = true) : text.floorColumn column = column :=
  Nat.le_antisymm (floorColumn_le text column) (le_floorColumn hboundary (Nat.le_refl column))

/-- A column inside of a text falls back by at most three bytes: the character behind the place
where it falls has at most four, and does not fit in front of it. -/
theorem le_floorColumn_add_three {text : Text} {column : Nat} (hcolumn : column ≤ text.byteSize) :
    column ≤ text.floorColumn column + 3 := by
  obtain ⟨front, back, hsplit⟩ := text.exists_splitAtByte column
  have hfloor : text.floorColumn column = front.byteSize := by rw [floorColumn, hsplit]
  obtain rfl := eq_append_of_splitAtByte hsplit
  cases back with
  | nil =>
    rw [List.append_nil] at hcolumn
    omega
  | cons c back =>
    have hsize : byteSize (front ++ [c]) = front.byteSize + c.utf8Size := by
      simp [byteSize]
    have hnext : (front ++ c :: back).isBoundary (byteSize (front ++ [c])) = true := by
      simpa using isBoundary_append (front ++ [c]) back
    have hbehind : column < byteSize (front ++ [c]) := by
      by_contra hfits
      have hle := le_floorColumn hnext (Nat.le_of_not_lt hfits)
      have hpositive := c.utf8Size_pos
      omega
    have hfour := c.utf8Size_le_four
    omega

/-- **An index falls back to the last boundary.** Steps down from an index never lead below zero,
and find the column at which a cut falls. This is the last offset between characters that is behind
neither the index nor the end of the text. It never shrinks as the index grows, it is the index
itself between characters, and at most three bytes in front of an index inside of the text. -/
theorem index_falls_to_last_boundary (text : Text) :
    (∀ index : UInt64, ∃ boundary, text.toBytes.floorIndex? index = some boundary ∧
      boundary.toNat = text.floorColumn index.toNat) ∧
    (∀ column, IsGreatest {b | b ∈ text.boundaries ∧ b ≤ min column text.byteSize}
      (text.floorColumn column)) ∧
    Monotone text.floorColumn ∧
    (∀ b ∈ text.boundaries, text.floorColumn b = b) ∧
    ∀ column ≤ text.byteSize, column ≤ text.floorColumn column + 3 := by
  refine ⟨text.exists_floorIndex?, fun column => ?_, text.monotone_floorColumn, fun b hb => ?_,
    fun column hcolumn => le_floorColumn_add_three hcolumn⟩
  · simp only [mem_boundaries_iff]
    exact isGreatest_floorColumn text column
  · exact floorColumn_of_isBoundary (mem_boundaries_iff.mp hb)

/-- An index at the last byte of a character of four bytes, and an index in front of it. -/
theorem index_falls_to_last_boundary_four_bytes :
    let text : Text := "é€😀".toList
    text.toBytes.floorIndex? 8 = some 5 ∧ (5 ∈ text.boundaries ∧ text.floorColumn 5 = 5) ∧
      8 ≤ text.byteSize ∧ text.floorColumn 8 = 5 ∧ 8 ≤ text.floorColumn 8 + 3 := by
  intro text
  obtain ⟨hindex, -, -, hboundary, hinside⟩ := index_falls_to_last_boundary text
  have hfront : 5 ∈ text.boundaries := ⟨"é€".toList, ⟨"😀".toList, by decide⟩, by decide⟩
  have hcolumn : text.floorColumn 8 = 5 := by decide
  have hsize : 8 ≤ text.byteSize := by decide
  obtain ⟨boundary, hfound, hword⟩ := hindex 8
  obtain rfl : boundary = 5 := UInt64.toNat_inj.mp (hword.trans hcolumn)
  exact ⟨hfound, ⟨hfront, hboundary 5 hfront⟩, hsize, hcolumn, hinside 8 hsize⟩

end Text

end SpanViewer
