import SpanViewer.Proofs.Text.Offset
import SpanViewer.Stream

/-!
# Lines of an input

A line feed has a byte of its own in the UTF-8 form of a text. An input that is written as a line,
with its line feed, and whatever follows is therefore read as this line and the rest.
-/

namespace SpanViewer

namespace Text

/-- A byte below 128 is a character of its own. -/
theorem toNat_eq_of_mem_utf8EncodeChar {c : Char} {byte : UInt8}
    (hmem : byte ∈ String.utf8EncodeChar c) (hascii : byte.toNat < 128) :
    byte.toNat = c.toNat := by
  revert hmem
  fun_cases String.utf8EncodeChar c with
  | case1 value hvalue =>
    intro hmem
    obtain rfl := List.mem_singleton.mp hmem
    exact UInt8.toNat_ofNat_of_lt' (by simp [UInt8.size]; omega)
  | case2 | case3 | case4 =>
    simp only [List.mem_cons, List.not_mem_nil, or_false]
    rintro (rfl | rfl | rfl | rfl) <;>
    · simp only [UInt8.toNat_ofNat'] at hascii
      omega

/-- A text without a line feed has no byte of a line feed. -/
theorem feed_not_mem_toBytes {line : Text} (hfeed : '\n' ∉ line) : 10 ∉ toBytes line := by
  intro hmem
  obtain ⟨c, hc, hbyte⟩ := List.mem_flatMap.mp hmem
  have hcode : 10 = c.toNat := toNat_eq_of_mem_utf8EncodeChar hbyte (by decide)
  have hchar : c = '\n' := Char.toNat_inj.mp hcode.symm
  exact hfeed (hchar ▸ hc)

end Text

/-- A line that was read is one line and no more. -/
theorem nextLine?_of_nextLine? {input line rest : Bytes}
    (hline : nextLine? input = some (line, rest)) : nextLine? line = some (line, []) := by
  induction input generalizing line rest with
  | nil => contradiction
  | cons byte input ih =>
    rw [nextLine?] at hline
    split at hline
    · next hfeed =>
      obtain ⟨rfl, -⟩ := Prod.mk.inj (Option.some.inj hline)
      rw [nextLine?, if_pos hfeed]
    · next hfeed =>
      split at hline
      · obtain ⟨rfl, -⟩ := Prod.mk.inj (Option.some.inj hline)
        rw [nextLine?, if_neg hfeed, nextLine?]
      · next later after hlater =>
        obtain ⟨rfl, -⟩ := Prod.mk.inj (Option.some.inj hline)
        rw [nextLine?, if_neg hfeed, ih hlater]

/-- A line ends behind the first byte of a line feed. -/
theorem nextLine?_append {line : Bytes} (hfeed : 10 ∉ line) (rest : Bytes) :
    nextLine? (line ++ 10 :: rest) = some (line ++ [10], rest) := by
  induction line with
  | nil => simp [nextLine?]
  | cons byte line ih =>
    obtain ⟨hbyte, hline⟩ := not_or.mp (mt List.mem_cons.mpr hfeed)
    simp [nextLine?, Ne.symm hbyte, ih hline]

/-- A line of text is read with its line feed. -/
theorem nextLine?_toBytes {line : Text} (hfeed : '\n' ∉ line) (rest : Bytes) :
    nextLine? (Text.toBytes (line ++ ['\n']) ++ rest) =
      some (Text.toBytes (line ++ ['\n']), rest) := by
  have hbyte : Text.toBytes ['\n'] = [10] := by decide
  rw [Text.toBytes_append, hbyte, List.append_assoc, List.singleton_append]
  exact nextLine?_append (Text.feed_not_mem_toBytes hfeed) rest

end SpanViewer
