import Mathlib.Order.Bounds.Defs
import SpanViewer.Text.Bytes

/-!
# Byte offsets

A place in a text may be named by the number of bytes in front of it. Only some offsets are places
between characters, and only those may bound a slice. Stepping down from any offset reaches such a
place before it passes the start of the text, and finds the same one as a cut at that column.
-/

namespace SpanViewer.Text

/-- The bytes of a text are those of its characters, one after the other. -/
@[simp] theorem toBytes_append (front back : Text) :
    toBytes (front ++ back) = toBytes front ++ toBytes back :=
  List.flatMap_append

/-- The bytes of two texts are counted together. -/
@[simp] theorem byteSize_append (front back : Text) :
    byteSize (front ++ back) = byteSize front + byteSize back := by
  simp only [← length_toBytes, toBytes_append, List.length_append]

/-- An offset is a boundary if a character starts there or the text ends there. -/
def isBoundary (text : Text) (offset : Nat) : Bool :=
  match text.toBytes[offset]? with
  | some byte => decide byte.IsUTF8FirstByte
  | none => offset = text.toBytes.length

/-- Behind a character the boundaries are those of the rest of the text. -/
theorem isBoundary_cons_of_le {c : Char} {rest : Text} {offset : Nat}
    (hoffset : c.utf8Size ≤ offset) :
    isBoundary (c :: rest) offset = isBoundary rest (offset - c.utf8Size) := by
  have hbytes : toBytes (c :: rest) = String.utf8EncodeChar c ++ toBytes rest := rfl
  have hget : (toBytes (c :: rest))[offset]? = (toBytes rest)[offset - c.utf8Size]? := by
    rw [hbytes, List.getElem?_append_right (by simpa using hoffset), String.length_utf8EncodeChar]
  have hlength : (toBytes (c :: rest)).length = c.utf8Size + (toBytes rest).length := by
    simp [hbytes]
  have hend : (offset = c.utf8Size + (toBytes rest).length) =
      (offset - c.utf8Size = (toBytes rest).length) := by
    rw [eq_iff_iff]
    omega
  simp only [isBoundary, hget, hlength, hend]

/-- Inside of a character the only boundary is the one in front of it. -/
theorem isBoundary_cons_of_lt {c : Char} {rest : Text} {offset : Nat}
    (hoffset : offset < c.utf8Size) : isBoundary (c :: rest) offset = true ↔ offset = 0 := by
  have hbytes : toBytes (c :: rest) = String.utf8EncodeChar c ++ toBytes rest := rfl
  have hlength : offset < (String.utf8EncodeChar c).length := by simpa using hoffset
  rw [isBoundary, hbytes, List.getElem?_append_left hlength, List.getElem?_eq_getElem hlength]
  simp

/-- The boundaries of a text are the sizes of the parts that it can be cut off behind. -/
theorem isBoundary_iff {text : Text} {offset : Nat} :
    text.isBoundary offset = true ↔
      ∃ front back, text = front ++ back ∧ byteSize front = offset := by
  induction text generalizing offset with
  | nil =>
    constructor
    · intro hboundary
      refine ⟨[], [], rfl, ?_⟩
      simpa [isBoundary, toBytes, byteSize, eq_comm] using hboundary
    · rintro ⟨front, back, htext, rfl⟩
      obtain ⟨rfl, rfl⟩ := List.append_eq_nil_iff.mp htext.symm
      rfl
  | cons c rest ih =>
    by_cases hoffset : c.utf8Size ≤ offset
    · rw [isBoundary_cons_of_le hoffset, ih]
      constructor
      · rintro ⟨front, back, rfl, hsize⟩
        refine ⟨c :: front, back, rfl, ?_⟩
        simp only [byteSize]
        omega
      · rintro ⟨front, back, htext, hsize⟩
        cases front with
        | nil =>
          have hpositive := c.utf8Size_pos
          simp only [byteSize] at hsize
          omega
        | cons d front =>
          obtain ⟨rfl, rfl⟩ := List.cons.inj htext
          refine ⟨front, back, rfl, ?_⟩
          simp only [byteSize] at hsize
          omega
    · rw [isBoundary_cons_of_lt (by omega)]
      constructor
      · rintro rfl
        exact ⟨[], c :: rest, rfl, rfl⟩
      · rintro ⟨front, back, htext, hsize⟩
        cases front with
        | nil => simpa [byteSize] using hsize.symm
        | cons d front =>
          obtain ⟨rfl, rfl⟩ := List.cons.inj htext
          simp only [byteSize] at hsize
          omega

/-- A cut of a text has a boundary in the middle. -/
theorem isBoundary_append (front back : Text) :
    (front ++ back).isBoundary (byteSize front) = true :=
  isBoundary_iff.mpr ⟨front, back, rfl, rfl⟩

/-- The part of a text between two byte offsets. There is none if the offsets are out of order,
outside of the text or inside of a character. -/
def slice? (text : Text) (start stop : Nat) : Option Text :=
  if start ≤ stop ∧ text.isBoundary start ∧ text.isBoundary stop then
    ofBytes? ((text.toBytes.take stop).drop start)
  else
    none

/-- The middle of three parts is the slice between the sizes of what is in front of its ends. -/
theorem slice?_append (front middle back : Text) :
    (front ++ middle ++ back).slice? (byteSize front) (byteSize front + byteSize middle) =
      some middle := by
  have hstart : (front ++ middle ++ back).isBoundary (byteSize front) = true := by
    rw [List.append_assoc]
    exact isBoundary_append front (middle ++ back)
  have hstop : (front ++ middle ++ back).isBoundary (byteSize front + byteSize middle) = true := by
    rw [← byteSize_append]
    exact isBoundary_append (front ++ middle) back
  have hbytes : ((toBytes (front ++ middle ++ back)).take (byteSize front + byteSize middle)).drop
      (byteSize front) = toBytes middle := by
    simp only [toBytes_append, ← length_toBytes, ← List.length_append, List.take_left,
      List.drop_left]
  rw [slice?, if_pos ⟨by omega, hstart, hstop⟩, hbytes, ofBytes?_toBytes]

/-- Steps down from an offset to the first boundary. Nothing is found if a step would lead below
the start of the text. -/
def stepDown? (text : Text) : Nat → Option Nat
  | 0 => if text.isBoundary 0 then some 0 else none
  | offset + 1 => if text.isBoundary (offset + 1) then some (offset + 1) else stepDown? text offset

/-- The last boundary that is not behind an offset, found by steps from the offset, or from the end
of the text if the offset lies behind it. -/
def floorOffset? (text : Text) (offset : Nat) : Option Nat :=
  if byteSize text ≤ offset then some (byteSize text) else text.stepDown? offset

/-- A cut at a column has two parts. -/
theorem exists_splitAtByte (text : Text) (column : Nat) :
    ∃ front back, text.splitAtByte column = (front, back) :=
  ⟨_, _, rfl⟩

/-- The two parts of a cut at a column give the text back. -/
theorem eq_append_of_splitAtByte {text front back : Text} {column : Nat}
    (hsplit : text.splitAtByte column = (front, back)) : text = front ++ back := by
  simpa [hsplit] using (splitAtByte_append text column).symm

/-- The end of the first part of a cut is a boundary. -/
theorem isBoundary_floorColumn (text : Text) (column : Nat) :
    text.isBoundary (text.floorColumn column) = true :=
  isBoundary_iff.mpr ⟨_, _, (splitAtByte_append text column).symm, rfl⟩

/-- The first part of a cut has at most as many bytes as asked for. -/
theorem floorColumn_le (text : Text) (column : Nat) : text.floorColumn column ≤ column := by
  induction text generalizing column with
  | nil => simp [floorColumn, splitAtByte, byteSize]
  | cons c rest ih =>
    have hrest := ih (column - c.utf8Size)
    simp only [floorColumn, splitAtByte] at hrest ⊢
    split
    · simp only [byteSize]
      omega
    · simp [byteSize]

/-- A cut behind a part that is small enough is a cut of what follows that part. -/
theorem splitAtByte_append_of_le {front : Text} {column : Nat} (hfront : byteSize front ≤ column)
    (back : Text) :
    (front ++ back).splitAtByte column =
      (front ++ (back.splitAtByte (column - byteSize front)).1,
        (back.splitAtByte (column - byteSize front)).2) := by
  induction front generalizing column with
  | nil => simp [byteSize]
  | cons c front ih =>
    simp only [byteSize] at hfront
    have hremains : byteSize front ≤ column - c.utf8Size := by omega
    have hrest := ih hremains
    rw [List.cons_append, splitAtByte, if_pos (by omega), hrest]
    simp only [byteSize, List.cons_append, Nat.sub_sub]

/-- A cut inside of the first part leaves what follows that part alone. -/
theorem splitAtByte_append_of_lt {front : Text} {column : Nat} (hfront : column < byteSize front)
    (back : Text) :
    (front ++ back).splitAtByte column =
      ((front.splitAtByte column).1, (front.splitAtByte column).2 ++ back) := by
  induction front generalizing column with
  | nil => contradiction
  | cons c front ih =>
    simp only [byteSize] at hfront
    simp only [List.cons_append, splitAtByte]
    split
    · have hremains : column - c.utf8Size < byteSize front := by omega
      simp [ih hremains]
    · simp

/-- A text that is small enough is the first part of a cut as a whole. -/
theorem splitAtByte_of_le {text : Text} {column : Nat} (htext : byteSize text ≤ column) :
    text.splitAtByte column = (text, []) := by
  simpa [splitAtByte] using splitAtByte_append_of_le htext []

/-- No part that is small enough is longer than the first part of a cut. -/
theorem le_floorColumn {text : Text} {column boundary : Nat}
    (hboundary : text.isBoundary boundary = true) (hle : boundary ≤ column) :
    boundary ≤ text.floorColumn column := by
  obtain ⟨front, back, rfl, rfl⟩ := isBoundary_iff.mp hboundary
  rw [floorColumn, splitAtByte_append_of_le hle, byteSize_append]
  omega

/-- A cut at a column falls at the last boundary that is behind neither the column nor the end of
the text. -/
theorem isGreatest_floorColumn (text : Text) (column : Nat) :
    IsGreatest {b | text.isBoundary b = true ∧ b ≤ min column (byteSize text)}
      (text.floorColumn column) := by
  constructor
  · refine ⟨isBoundary_floorColumn text column, Nat.le_min.mpr ⟨floorColumn_le text column, ?_⟩⟩
    have hsize := congrArg byteSize (splitAtByte_append text column)
    rw [byteSize_append] at hsize
    simp only [floorColumn]
    omega
  · rintro b ⟨hboundary, hle⟩
    exact le_floorColumn hboundary (Nat.le_min.mp hle).1

/-- Only the empty text has no bytes. -/
theorem eq_nil_of_byteSize_eq_zero {text : Text} (hsize : byteSize text = 0) : text = [] := by
  cases text with
  | nil => rfl
  | cons c rest =>
    have hpositive := c.utf8Size_pos
    simp only [byteSize] at hsize
    omega

/-- Of two parts that a text starts with, the one of fewer bytes starts the other. -/
theorem prefix_of_byteSize_le {text front front' : Text} (hfront : front <+: text)
    (hfront' : front' <+: text) (hsize : byteSize front ≤ byteSize front') : front <+: front' := by
  rcases List.prefix_or_prefix_of_prefix hfront hfront' with hshort | ⟨rest, rfl⟩
  · exact hshort
  · rw [byteSize_append] at hsize
    have hrest : rest = [] := eq_nil_of_byteSize_eq_zero (by omega)
    simp [hrest]

/-- Steps from an offset end at the last boundary that is not behind it. -/
theorem stepDown?_eq_some {text : Text} {offset boundary : Nat} (hle : boundary ≤ offset)
    (hboundary : text.isBoundary boundary = true)
    (hlast : ∀ b, text.isBoundary b = true → b ≤ offset → b ≤ boundary) :
    text.stepDown? offset = some boundary := by
  induction offset with
  | zero =>
    obtain rfl : boundary = 0 := by omega
    simp [stepDown?, hboundary]
  | succ offset ih =>
    rw [stepDown?]
    split
    · next hhere =>
      have hbehind := hlast (offset + 1) hhere (Nat.le_refl _)
      congr 1
      omega
    · next hhere =>
      have hne : boundary ≠ offset + 1 := by
        rintro rfl
        exact hhere hboundary
      exact ih (by omega) fun b hb hbound => hlast b hb (by omega)

/-- Stepping down never passes the start of the text, and finds the column at which a cut falls. -/
theorem floorOffset?_eq_some (text : Text) (offset : Nat) :
    text.floorOffset? offset = some (text.floorColumn offset) := by
  rw [floorOffset?]
  split
  · next hend => rw [floorColumn, splitAtByte_of_le hend]
  · exact stepDown?_eq_some (floorColumn_le text offset) (isBoundary_floorColumn text offset)
      fun _ hboundary hle => le_floorColumn hboundary hle

end SpanViewer.Text
