import Mathlib.Data.Nat.Bitwise
import Mathlib.Data.List.Basic

namespace Cyberjack.Foundation

/-! # Bits of byte strings

The bits of a byte string are counted from the lowest one of the first byte on.  A driver that hands them
out one by one shifts each byte down.
-/

/-- A bit of a byte string, where it has one. -/
def bitAt (bytes : List UInt8) (index : Nat) : Option Bool :=
  bytes[index / 8]?.map fun byte => byte.toNat.testBit (index % 8)

/-- A bit as a byte of its own. -/
def bitByte (bit : Bool) : UInt8 := if bit then 0x01 else 0x00

/-- The low bits of a byte, which is shifted down behind each of them. -/
def unpackByte : Nat → UInt8 → List UInt8
  | 0, _ => []
  | count + 1, byte => bitByte (byte &&& 1 != 0) :: unpackByte count (byte >>> 1)

/-- The first bits of a byte string. -/
def unpack : Nat → List UInt8 → List UInt8
  | _, [] => []
  | count, byte :: rest => unpackByte (min count 8) byte ++ unpack (count - 8) rest

variable {bytes : List UInt8} {byte : UInt8} {count index : Nat}

theorem bitAt_isSome : (bitAt bytes index).isSome ↔ index < 8 * bytes.length := by
  have place : index / 8 < bytes.length ↔ index < 8 * bytes.length := by omega
  simp [bitAt, place]

@[simp] theorem length_unpackByte : (unpackByte count byte).length = count := by
  induction count generalizing byte with
  | zero => rfl
  | succ count ih => rw [unpackByte, List.length_cons, ih]

theorem lowest_bit (byte : UInt8) : (byte &&& 1 != 0) = byte.toNat.testBit 0 := by
  rw [Nat.testBit_zero]
  have value : (byte &&& 1).toNat = byte.toNat % 2 := by
    rw [UInt8.toNat_and]
    exact Nat.and_one_is_mod _
  by_cases odd : byte.toNat % 2 = 1
  · have some : byte &&& 1 ≠ 0 := by
      intro zero
      rw [zero] at value
      rw [odd] at value
      contradiction
    rw [bne_iff_ne.mpr some, odd]
    rfl
  · have zero : byte &&& 1 = 0 := by
      apply UInt8.toNat_inj.mp
      rw [value, UInt8.toNat_zero]
      omega
    rw [zero, decide_eq_false odd]
    rfl

theorem unpackByte_getElem? (inside : index < count) :
    (unpackByte count byte)[index]? = some (bitByte (byte.toNat.testBit index)) := by
  induction count generalizing byte index with
  | zero => contradiction
  | succ count ih =>
      cases index with
      | zero => rw [unpackByte, List.getElem?_cons_zero, lowest_bit]
      | succ index =>
          have shifted : (byte >>> 1).toNat = byte.toNat >>> 1 := UInt8.toNat_shiftRight _ _
          rw [unpackByte, List.getElem?_cons_succ, ih (by omega), shifted, Nat.testBit_shiftRight, Nat.add_comm]

/-- What is handed out are the bits in their order. -/
theorem unpack_getElem? (inside : index < count) : (unpack count bytes)[index]? = (bitAt bytes index).map bitByte := by
  induction bytes generalizing count index with
  | nil => rfl
  | cons byte rest ih =>
      rw [unpack]
      by_cases here : index < 8
      · have place : index / 8 = 0 := by omega
        have bit : index % 8 = index := Nat.mod_eq_of_lt here
        rw [List.getElem?_append_left (by rw [length_unpackByte]; omega), unpackByte_getElem? (by omega), bitAt, place, bit]
        rfl
      · have whole : min count 8 = 8 := by omega
        have place : index / 8 = (index - 8) / 8 + 1 := by omega
        have bit : index % 8 = (index - 8) % 8 := by omega
        rw [whole, List.getElem?_append_right (by rw [length_unpackByte]; omega), length_unpackByte, ih (by omega),
          bitAt, bitAt, place, bit, List.getElem?_cons_succ]

theorem length_unpack (enough : count ≤ 8 * bytes.length) : (unpack count bytes).length = count := by
  induction bytes generalizing count with
  | nil =>
      simp only [List.length_nil] at enough
      rw [unpack, List.length_nil]
      omega
  | cons byte rest ih =>
      simp only [List.length_cons] at enough
      rw [unpack, List.length_append, length_unpackByte, ih (by omega)]
      omega

end Cyberjack.Foundation
