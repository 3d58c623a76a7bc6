import Osvbng.Lib.Slice

/-!
# A tagged wire format

Messages as a sequence of fields, each with a tag of its number and kind: numbers
in groups of seven bits, and byte strings with their length before them. A field
with its default value is left out.

`mem_length_bytesField`: the length of a short byte string stands in the message
as a byte.
-/

namespace Osvbng.Lib.Wire
open List Lib.Slice

def groups : Nat → Nat → Bytes
  | 0, _ => []
  | fuel + 1, n =>
    if n < 128 then [.ofNat n]
    else .ofNat (n % 128 + 128) :: groups fuel (n / 128)

def varint (n : Nat) : Bytes := groups 10 n

def uintField (number n : Nat) : Bytes :=
  if n = 0 then [] else varint (number * 8) ++ varint n

variable (number : Nat)

def bytesField (b : Bytes) : Bytes :=
  if b = [] then [] else varint (number * 8 + 2) ++ (varint b.length ++ b)

def stringField (s : String) : Bytes := bytesField number s.toUTF8.data.toList

example : uintField 6 1024 ++ stringField 1 "ab" = [0x30, 0x80, 0x08, 0x0A, 0x02, 0x61, 0x62] := by
  decide

theorem varint_of_lt {n : Nat} (h : n < 128) : varint n = [.ofNat n] := by
  unfold varint groups
  rw [if_pos h]

theorem mem_length_bytesField {b : Bytes} (hne : b ≠ []) (h : b.length < 128) :
    .ofNat b.length ∈ bytesField number b := by
  unfold bytesField
  rw [if_neg hne, varint_of_lt h]
  apply mem_append_right
  exact mem_append_left _ (mem_singleton_self _)

end Osvbng.Lib.Wire
