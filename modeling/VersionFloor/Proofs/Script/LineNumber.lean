import Mathlib.Data.Nat.Basic
import Mathlib.Order.Monotone.Defs
import Mathlib.Tactic.SplitIfs
import VersionFloor.Script.Read

set_option autoImplicit false

namespace VersionFloor.Script

def lineFeed : UInt8 := 10

def bytes (text : String) : List UInt8 :=
  text.toUTF8.data.toList

theorem bytes_eq (text : String) : bytes text = text.toList.flatMap String.utf8EncodeChar := by
  have encoded : text.toByteArray = text.toList.utf8Encode := by
    rw [← String.toByteArray_ofList, String.ofList_toList]
  rw [bytes, String.toUTF8_eq_toByteArray, encoded]
  exact List.toList_data_toByteArray

theorem length_bytes (text : String) : (bytes text).length = text.utf8ByteSize := by
  rw [bytes, String.toUTF8_eq_toByteArray]
  exact Array.length_toList

theorem utf8EncodeChar_lineFeed : String.utf8EncodeChar '\n' = [lineFeed] := by
  decide

theorem lineFeed_eq_ofNat_iff (n : Nat) : lineFeed = UInt8.ofNat n ↔ n % 256 = 10 := by
  rw [← UInt8.toNat_inj, UInt8.toNat_ofNat']
  exact eq_comm

/-- The bytes of a character that has several are all above 127. -/
theorem lineFeed_not_mem {c : Char} (other : c ≠ '\n') : lineFeed ∉ String.utf8EncodeChar c := by
  have apart : c.val.toNat ≠ 10 := fun same => other (Char.ext (UInt32.toNat_inj.1 same))
  intro held
  simp only [String.utf8EncodeChar] at held
  split_ifs at held <;>
    simp only [List.mem_cons, List.not_mem_nil, or_false, lineFeed_eq_ofNat_iff] at held <;> omega

/--
The first byte tells whether a character is a line feed, so it is counted as soon as one of its
bytes is.
-/
theorem count_take_utf8EncodeChar (c : Char) {taken : Nat} (positive : 0 < taken) :
    ((String.utf8EncodeChar c).take taken).count lineFeed = if c = '\n' then 1 else 0 := by
  split
  · next same =>
    rw [same, utf8EncodeChar_lineFeed, List.take_of_length_le positive, List.count_singleton_self]
  · next other =>
    exact List.count_eq_zero.2 fun held => lineFeed_not_mem other (List.mem_of_mem_take held)

theorem lineFeedsBefore_eq (offset count start : Nat) (cs : List Char) :
    lineFeedsBefore offset count start cs =
      count + ((cs.flatMap String.utf8EncodeChar).take (offset - start)).count lineFeed := by
  -- The bytes that are left start where the next character does.
  induction cs generalizing count start with
  | nil =>
    simp only [lineFeedsBefore, List.flatMap_nil, List.take_nil, List.count_nil, Nat.add_zero]
  | cons c rest ih =>
    rw [lineFeedsBefore]
    split
    · next reached =>
      rw [Nat.sub_eq_zero_of_le reached, List.take_zero, List.count_nil, Nat.add_zero]
    · next before =>
      have inside : 0 < offset - start := by omega
      rw [ih, List.flatMap_cons, List.take_append, List.count_append,
        count_take_utf8EncodeChar c inside, String.length_utf8EncodeChar, Nat.sub_sub]
      split <;> omega

theorem lineOfOffset_eq (text : String) (offset : Nat) :
    lineOfOffset text offset = 1 + ((bytes text).take offset).count lineFeed := by
  rw [lineOfOffset, lineFeedsBefore_eq, Nat.zero_add, Nat.sub_zero, bytes_eq]

-- Inside of the first character, at the line feed, behind it and behind the end.
example : [1, 2, 3, 9].map (lineOfOffset "é\nb") = [1, 1, 2, 2] := by
  decide

/-- The bytes of a text hold as many line feeds as its characters. -/
theorem count_bytes (text : String) : (bytes text).count lineFeed = text.toList.count '\n' := by
  rw [bytes_eq]
  induction text.toList with
  | nil => rfl
  | cons c rest ih =>
    have whole := count_take_utf8EncodeChar c c.utf8Size_pos
    rw [← String.length_utf8EncodeChar, List.take_length] at whole
    rw [List.flatMap_cons, List.count_append, whole, ih, List.count_cons, Nat.add_comm]
    simp only [beq_iff_eq]

/--
The line of an offset is one more than the number of line feeds among the bytes before it, all bytes
if the offset is behind them. It does not fall as the offset grows, and it is at most one more than
the number of line feeds there are.
-/
theorem line_counts_line_feeds (text : String) :
    (∀ offset, lineOfOffset text offset =
      1 + ((bytes text).take (min offset text.utf8ByteSize)).count lineFeed) ∧
    Monotone (lineOfOffset text) ∧
    ∀ offset, lineOfOffset text offset ≤ 1 + text.toList.count '\n' := by
  refine ⟨fun offset => ?_, fun earlier later ordered => ?_, fun offset => ?_⟩
  · rw [lineOfOffset_eq, ← length_bytes, ← List.take_eq_take_min]
  · rw [lineOfOffset_eq, lineOfOffset_eq]
    exact Nat.add_le_add_left ((List.take_sublist_take_left ordered).count_le lineFeed) 1
  · rw [lineOfOffset_eq, ← count_bytes]
    exact Nat.add_le_add_left ((List.take_sublist offset (bytes text)).count_le lineFeed) 1

end VersionFloor.Script
