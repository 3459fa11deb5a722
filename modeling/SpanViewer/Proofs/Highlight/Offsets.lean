import SpanViewer.Proofs.Highlight.Cut

/-!
# Cuts by offsets

A cut can be computed from numbers alone: lines are found by their numbers and parts of lines by
byte offsets, where every subtraction, look-up and slice may fail. None of these steps fails,
whatever the position, and the outcome is the cut around it, which loses nothing of the source.
-/

namespace SpanViewer.Highlight

/-- A difference that must not lie below zero. -/
def subtract? (a b : Nat) : Option Nat :=
  if b ≤ a then some (a - b) else none

/-- A number moved into a range that must not be empty. -/
def clamp? (value low high : Nat) : Option Nat :=
  if low ≤ high then some (max low (min value high)) else none

/-- The lines between two places, which must be in order and inside of the list. -/
def linesBetween? (source : List Text) (start stop : Nat) : Option (List Text) :=
  if start ≤ stop ∧ stop ≤ source.length then some ((source.take stop).drop start) else none

/-- The text in front of a span that starts on line `start`, in `first`. -/
def textBefore? (source : List Text) (start column : Nat) (first : Text) : Option Text := do
  let head ← first.slice? 0 column
  if 1 < start then
    let above ← linesBetween? source 0 (← subtract? start 1)
    return .ofLines above ++ ['\n'] ++ head
  else
    return head

/-- The text of a span from line `start`, in `first`, to line `stop`, in `last`. -/
def textInside? (source : List Text) (start stop column endColumn : Nat) (first last : Text) :
    Option Text :=
  if start = stop then
    first.slice? column endColumn
  else do
    let rest ← first.slice? column first.byteSize
    let middle ← linesBetween? source start (← subtract? stop 1)
    let head ← last.slice? 0 endColumn
    return rest ++ ['\n'] ++ middle.flatMap (· ++ ['\n']) ++ head

/-- What is left of a line behind a column. At the end of the line nothing is cut. -/
def restOfLine? (line : Text) (column : Nat) : Option Text :=
  if column < line.byteSize then line.slice? column line.byteSize else some []

/-- The text behind a span that ends on line `stop`, in `last`. -/
def textAfter? (source : List Text) (stop endColumn : Nat) (last : Text) : Option Text := do
  let tail ← restOfLine? last endColumn
  if stop < source.length then
    return tail ++ ['\n'] ++ .ofLines (← linesBetween? source stop source.length)
  else
    return tail

/-- Cuts the source around a position by numbers of lines and byte offsets. Every step that could
leave the source or go below zero is checked. -/
def cutByOffsets? (p : Position) (source : List Text) : Option Highlight :=
  if !p.isMapped || source.isEmpty then
    some { before := .ofLines source }
  else do
    let start := min p.line source.length
    let stop ← clamp? p.endLine start source.length
    let first ← source[← subtract? start 1]?
    let last ← source[← subtract? stop 1]?
    let column ← first.floorOffset? p.column
    let floored ← last.floorOffset? p.endColumn
    let endColumn := if start = stop then max floored column else floored
    let indentation ← subtract? first.byteSize (Text.byteSize (first.dropWhile (· = ' ')))
    let before ← textBefore? source start column first
    let inside ← textInside? source start stop column endColumn first last
    let after ← textAfter? source stop endColumn last
    return ⟨before, inside, after, indentation, true⟩

/-- The middle of three runs of lines is found between the lengths of what is above its ends. -/
theorem linesBetween?_append (above middle below : List Text) :
    linesBetween? (above ++ middle ++ below) above.length (above.length + middle.length) =
      some middle := by
  have hinside : above.length + middle.length ≤ (above ++ middle ++ below).length := by simp
  rw [linesBetween?, if_pos ⟨by omega, hinside⟩, ← List.length_append, List.take_left,
    List.drop_left]

/-- The text in front of a span is the lines above it and the head of its first line. -/
theorem textBefore?_eq_some (above : List Text) (head rest : Text) (below : List Text) :
    textBefore? (above ++ (head ++ rest) :: below) (above.length + 1) head.byteSize (head ++ rest) =
      some (.ofLines (above ++ [head])) := by
  have hslice := Text.slice?_append [] head rest
  simp only [List.nil_append, Text.byteSize, Nat.zero_add] at hslice
  by_cases habove : above = []
  · simp [textBefore?, hslice, habove]
  · have hlines := linesBetween?_append [] above ((head ++ rest) :: below)
    simp only [List.nil_append, List.length_nil, Nat.zero_add] at hlines
    have hstart : 0 < above.length := List.length_pos_iff.mpr habove
    simp [textBefore?, hslice, hstart, subtract?, hlines,
      Text.ofLines_append habove (List.cons_ne_nil head [])]

/-- On one line a span is the slice between the two offsets. -/
theorem textInside?_eq_some (source : List Text) (start : Nat) (head inside tail last : Text) :
    textInside? source start start head.byteSize (head.byteSize + inside.byteSize)
      (head ++ inside ++ tail) last = some inside := by
  rw [textInside?, if_pos rfl, Text.slice?_append]

/-- A line feed stands behind every line of a span but the last. -/
theorem ofLines_eq_flatMap (rest : Text) (middle : List Text) (head : Text) :
    Text.ofLines (rest :: middle ++ [head]) =
      rest ++ ['\n'] ++ middle.flatMap (· ++ ['\n']) ++ head := by
  have hmiddle : middle.flatMap ('\n' :: ·) ++ ['\n'] =
      ['\n'] ++ middle.flatMap (· ++ ['\n']) := by
    induction middle with
    | nil => rfl
    | cons line middle ih => simp [ih]
  rw [List.cons_append, Text.ofLines_cons, List.flatMap_append, List.append_assoc rest, ← hmiddle]
  simp

/-- On several lines a span is the rest of its first line, the lines between, and the head of its
last line. -/
theorem textInside?_eq_some_of_lines (above : List Text) (head rest : Text) (middle : List Text)
    (inside tail : Text) (below : List Text) :
    textInside? (above ++ (head ++ rest) :: (middle ++ [inside ++ tail]) ++ below)
        (above.length + 1) (above.length + 1 + (middle.length + 1)) head.byteSize inside.byteSize
        (head ++ rest) (inside ++ tail) =
      some (.ofLines (rest :: middle ++ [inside])) := by
  have hrest := Text.slice?_append head rest []
  have hinside := Text.slice?_append [] inside tail
  simp only [List.nil_append, List.append_nil, Text.byteSize, Nat.zero_add] at hrest hinside
  have hmiddle := linesBetween?_append (above ++ [head ++ rest]) middle ((inside ++ tail) :: below)
  simp only [List.append_assoc, List.cons_append, List.nil_append, List.length_append,
    List.length_singleton] at hmiddle
  have hstop : subtract? (above.length + 1 + (middle.length + 1)) 1 =
      some (above.length + 1 + middle.length) := by
    simp [subtract?, ← Nat.add_assoc]
  rw [textInside?, if_neg (by omega), ofLines_eq_flatMap, Text.byteSize_append, hrest, hinside]
  simp [hstop, hmiddle]

/-- Behind the head of a line its tail is left. -/
theorem restOfLine?_append (head tail : Text) :
    restOfLine? (head ++ tail) head.byteSize = some tail := by
  have hslice := Text.slice?_append head tail []
  rw [List.append_nil, ← Text.byteSize_append] at hslice
  rw [restOfLine?]
  split
  · exact hslice
  · next hnone =>
    cases tail with
    | nil => rfl
    | cons c tail =>
      have hpositive := c.utf8Size_pos
      simp only [Text.byteSize_append, Text.byteSize] at hnone
      omega

/-- The text behind a span is the tail of its last line and the lines below it. -/
theorem textAfter?_eq_some (above : List Text) (head tail : Text) (below : List Text) :
    textAfter? (above ++ below) above.length head.byteSize (head ++ tail) =
      some (.ofLines (tail :: below)) := by
  have hbelow := linesBetween?_append above below []
  rw [List.append_nil, ← List.length_append] at hbelow
  by_cases hnone : below = []
  · simp [textAfter?, restOfLine?_append, hnone]
  · have hstop : above.length < (above ++ below).length := by
      simpa using List.length_pos_iff.mpr hnone
    have htext : Text.ofLines (tail :: below) = tail ++ ['\n'] ++ .ofLines below := by
      simpa using Text.ofLines_append (List.cons_ne_nil tail []) hnone
    simp only [textAfter?, restOfLine?_append, Option.bind_eq_bind, Option.bind_some, if_pos hstop,
      hbelow, Option.pure_def, htext]

/-- The spaces in front of a line are the bytes that it loses with them. -/
theorem subtract?_indentation (line : Text) :
    subtract? line.byteSize (Text.byteSize (line.dropWhile (· = ' '))) = some line.indentation := by
  have hspaces : Text.byteSize (line.takeWhile (· = ' ')) = line.indentation := by
    unfold Text.indentation
    induction line with
    | nil => rfl
    | cons c line ih =>
      by_cases hspace : c = ' '
      · have hsize : ' '.utf8Size = 1 := rfl
        simp [hspace, Text.byteSize, hsize, ih, Nat.add_comm 1]
      · simp [hspace, Text.byteSize]
  have hline := congrArg Text.byteSize
    (List.takeWhile_append_dropWhile (p := (· = ' ')) (l := line))
  rw [Text.byteSize_append, hspaces] at hline
  rw [subtract?, if_pos (by omega)]
  congr 1
  omega

/-- The part of a line behind a column, cut again, is cut where the whole line is cut, but not in
front of the column. -/
theorem max_floorColumn (head rest : Text) (column : Nat) :
    max (Text.floorColumn (head ++ rest) column) head.byteSize =
      head.byteSize + rest.floorColumn (column - head.byteSize) := by
  by_cases hcolumn : head.byteSize ≤ column
  · rw [Text.floorColumn, Text.splitAtByte_append_of_le hcolumn, Text.byteSize_append]
    simp only [Text.floorColumn]
    omega
  · have hhead := Text.floorColumn_le (head ++ rest) column
    have hrest := Text.floorColumn_le rest (column - head.byteSize)
    omega

/-- A cut by offsets is put together from the text in front of the span, in it and behind it, once
the first and the last line of the span are found. -/
theorem cutByOffsets?_eq_some {p : Position} {source : List Text} {start stop : Nat}
    {first last before inside after : Text} (hmapped : p.isMapped = true) (hsource : source ≠ [])
    (hstart : min p.line source.length = start)
    (hstop : max start (min p.endLine source.length) = stop)
    (hfirst : source[start - 1]? = some first) (hlast : source[stop - 1]? = some last)
    (hbefore : textBefore? source start (first.floorColumn p.column) first = some before)
    (hinside : textInside? source start stop (first.floorColumn p.column)
      (if start = stop then max (last.floorColumn p.endColumn) (first.floorColumn p.column)
        else last.floorColumn p.endColumn) first last = some inside)
    (hafter : textAfter? source stop
      (if start = stop then max (last.floorColumn p.endColumn) (first.floorColumn p.column)
        else last.floorColumn p.endColumn) last = some after) :
    cutByOffsets? p source = some ⟨before, inside, after, first.indentation, true⟩ := by
  have hcount : 0 < source.length := List.length_pos_iff.mpr hsource
  have hline : 1 ≤ p.line := by
    have hne : p.line ≠ 0 := by simpa [Position.isMapped] using hmapped
    omega
  have hclamp : clamp? p.endLine start source.length = some stop := by
    rw [clamp?, if_pos (by omega), hstop]
  have hstartLine : subtract? start 1 = some (start - 1) := if_pos (by omega)
  have hstopLine : subtract? stop 1 = some (stop - 1) := if_pos (by omega)
  rw [cutByOffsets?, if_neg (by simp [hmapped, hsource])]
  simp only [hstart, hclamp, hstartLine, hstopLine, hfirst, hlast, Text.floorOffset?_eq_some,
    subtract?_indentation, hbefore, hinside, hafter, Option.bind_eq_bind, Option.bind_some,
    Option.pure_def]

/-- Computed by offsets, the cut around a span of one line is the cut of that line. -/
theorem cutByOffsets?_of_line {p : Position} (hmapped : p.isMapped = true) {above : List Text}
    {first : Text} {below : List Text}
    (hstart : min p.line (above ++ [first] ++ below).length = above.length + 1)
    (hstop : max (above.length + 1) (min p.endLine (above ++ [first] ++ below).length) =
      above.length + 1) :
    cutByOffsets? p (above ++ [first] ++ below) =
      some (cutLines p.column p.endColumn above first [] below) := by
  obtain ⟨head, rest, hfirst⟩ := first.exists_splitAtByte p.column
  obtain ⟨inside, tail, hrest⟩ := rest.exists_splitAtByte (p.endColumn - head.byteSize)
  have hcolumn : first.floorColumn p.column = head.byteSize := by rw [Text.floorColumn, hfirst]
  obtain rfl := Text.eq_append_of_splitAtByte hfirst
  have hend : max (Text.floorColumn (head ++ rest) p.endColumn) head.byteSize =
      head.byteSize + inside.byteSize := by
    rw [max_floorColumn, Text.floorColumn, hrest]
  obtain rfl := Text.eq_append_of_splitAtByte hrest
  have hbefore := textBefore?_eq_some above head (inside ++ tail) below
  have hinside := textInside?_eq_some (above ++ (head ++ (inside ++ tail)) :: below)
    (above.length + 1) head inside tail (head ++ (inside ++ tail))
  have hafter := textAfter?_eq_some (above ++ [head ++ (inside ++ tail)]) (head ++ inside) tail
    below
  have hline : (above ++ [head ++ (inside ++ tail)] ++ below)[above.length + 1 - 1]? =
      some (head ++ (inside ++ tail)) := by simp
  simp only [List.length_append, List.length_singleton, Text.byteSize_append,
    List.append_assoc, List.singleton_append] at hinside hafter
  rw [cutLines_of_line hfirst hrest]
  apply cutByOffsets?_eq_some hmapped (by simp) hstart hstop hline hline
  · rw [hcolumn]
    simpa using hbefore
  · rw [hcolumn, if_pos rfl, hend]
    simpa using hinside
  · rw [hcolumn, if_pos rfl, hend]
    simpa using hafter

/-- Computed by offsets, the cut around a span of several lines is the cut of those lines. -/
theorem cutByOffsets?_of_lines {p : Position} (hmapped : p.isMapped = true) {above : List Text}
    {first last : Text} {middle below : List Text}
    (hstart : min p.line (above ++ first :: (middle ++ [last]) ++ below).length =
      above.length + 1)
    (hstop : max (above.length + 1)
        (min p.endLine (above ++ first :: (middle ++ [last]) ++ below).length) =
      above.length + 1 + (middle.length + 1)) :
    cutByOffsets? p (above ++ first :: (middle ++ [last]) ++ below) =
      some (cutLines p.column p.endColumn above first (middle ++ [last]) below) := by
  obtain ⟨head, rest, hfirst⟩ := first.exists_splitAtByte p.column
  obtain ⟨inside, tail, hlast⟩ := last.exists_splitAtByte p.endColumn
  have hcolumn : first.floorColumn p.column = head.byteSize := by rw [Text.floorColumn, hfirst]
  have hend : last.floorColumn p.endColumn = inside.byteSize := by rw [Text.floorColumn, hlast]
  obtain rfl := Text.eq_append_of_splitAtByte hfirst
  obtain rfl := Text.eq_append_of_splitAtByte hlast
  have hbefore := textBefore?_eq_some above head rest (middle ++ [inside ++ tail] ++ below)
  have hinside := textInside?_eq_some_of_lines above head rest middle inside tail below
  have hafter := textAfter?_eq_some (above ++ (head ++ rest) :: (middle ++ [inside ++ tail]))
    inside tail below
  have hlastLine : (above ++ (head ++ rest) :: (middle ++ [inside ++ tail]) ++ below)[
      above.length + 1 + (middle.length + 1) - 1]? = some (inside ++ tail) := by
    have hindex : above.length + 1 + (middle.length + 1) - 1 =
        (above ++ (head ++ rest) :: middle).length := by
      simp
      omega
    have hsplit : above ++ (head ++ rest) :: (middle ++ [inside ++ tail]) ++ below =
        (above ++ (head ++ rest) :: middle) ++ (inside ++ tail) :: below := by simp
    rw [hindex, hsplit, List.getElem?_append_right (by simp)]
    simp
  have hspan : ¬above.length + 1 = above.length + 1 + (middle.length + 1) := by omega
  rw [cutLines_of_lines hfirst hlast]
  apply cutByOffsets?_eq_some hmapped (by simp) hstart hstop (by simp) hlastLine
  · rw [hcolumn]
    simpa using hbefore
  · rw [hcolumn, if_neg hspan, hend]
    simpa using hinside
  · rw [if_neg hspan, hend]
    simpa [Nat.add_assoc, Nat.add_comm 1] using hafter

/-- Computed by offsets, a cut around a mapped position is the cut of the lines of its span. -/
theorem cutByOffsets?_eq_cutLines {p : Position} (hmapped : p.isMapped = true) {above : List Text}
    {first : Text} {following below : List Text}
    (hstart : min p.line (above ++ first :: following ++ below).length = above.length + 1)
    (hstop : max (above.length + 1) (min p.endLine (above ++ first :: following ++ below).length) =
      above.length + 1 + following.length) :
    cutByOffsets? p (above ++ first :: following ++ below) =
      some (cutLines p.column p.endColumn above first following below) := by
  rcases following.eq_nil_or_concat with rfl | ⟨middle, last, rfl⟩
  · exact cutByOffsets?_of_line hmapped hstart hstop
  · rw [List.concat_eq_append] at hstart hstop ⊢
    exact cutByOffsets?_of_lines hmapped hstart (by simpa using hstop)

/-- **Cuts are total and lossless.** For every position, valid or not, and every source, no step of
the computation by offsets fails, its outcome is the cut, and the parts of the cut are together the
source. -/
theorem cut_total_lossless (p : Position) (source : List Text) :
    cutByOffsets? p source = some (cut p source) ∧
      (cut p source).reassembled = .ofLines source := by
  by_cases hspan : p.isMapped = true ∧ source ≠ []
  · obtain ⟨above, first, following, below, rfl, hstart, hstop⟩ := exists_span hspan.1 hspan.2
    rw [cut_eq_cutLines hspan.1 hstart hstop]
    exact ⟨cutByOffsets?_eq_cutLines hspan.1 hstart hstop, reassembled_cutLines ..⟩
  · have hnone : p.isMapped = false ∨ source = [] := by
      by_cases hmapped : p.isMapped = true
      · exact Or.inr (by simpa [hmapped] using hspan)
      · exact Or.inl (by simpa using hmapped)
    rw [cut_eq_of_not_mapped hnone, cutByOffsets?, if_pos (by simpa using hnone)]
    exact ⟨rfl, by simp [reassembled]⟩

end SpanViewer.Highlight
