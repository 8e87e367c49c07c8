import Mathlib.Data.List.Basic

namespace Cyberjack.Foundation

/-! # Command APDUs

The seven encodings of a command APDU by ISO 7816-4: a header of four bytes,
then Lc with the command data and Le, each as far as the case has it.
-/

/-- Command data that a length field can announce. -/
structure DataField (limit : Nat) where
  bytes : List UInt8
  nonempty : 0 < bytes.length
  bounded : bytes.length < limit

inductive CommandBody where
  | case1
  | case2Short (le : UInt8)
  | case3Short (data : DataField 256)
  | case4Short (data : DataField 256) (le : UInt8)
  | case2Extended (high low : UInt8)
  | case3Extended (data : DataField 65536)
  | case4Extended (data : DataField 65536) (high low : UInt8)

structure CommandApdu where
  cla : UInt8
  ins : UInt8
  p1 : UInt8
  p2 : UInt8
  body : CommandBody

/-- The two bytes of an extended length field. -/
def extendedLength (high low : UInt8) : Nat := high.toNat * 256 + low.toNat

namespace CommandBody

/-- Lc, where the case has one. -/
def lc : CommandBody → Option Nat
  | case1 => none
  | case2Short _ => none
  | case3Short data => some data.bytes.length
  | case4Short data _ => some data.bytes.length
  | case2Extended _ _ => none
  | case3Extended data => some data.bytes.length
  | case4Extended data _ _ => some data.bytes.length

/-- The Le field as it stands, where the case has one. -/
def le : CommandBody → Option Nat
  | case1 => none
  | case2Short le => some le.toNat
  | case3Short _ => none
  | case4Short _ le => some le.toNat
  | case2Extended high low => some (extendedLength high low)
  | case3Extended _ => none
  | case4Extended _ high low => some (extendedLength high low)

/-- Where the command data begins, in front of which stand header and Lc. -/
def dataOffset : CommandBody → Option Nat
  | case1 => none
  | case2Short _ => none
  | case3Short _ => some 5
  | case4Short _ _ => some 5
  | case2Extended _ _ => none
  | case3Extended _ => some 7
  | case4Extended _ _ _ => some 7

def data : CommandBody → List UInt8
  | case1 => []
  | case2Short _ => []
  | case3Short data => data.bytes
  | case4Short data _ => data.bytes
  | case2Extended _ _ => []
  | case3Extended data => data.bytes
  | case4Extended data _ _ => data.bytes

def encode : CommandBody → List UInt8
  | case1 => []
  | case2Short le => [le]
  | case3Short data => UInt8.ofNat data.bytes.length :: data.bytes
  | case4Short data le => UInt8.ofNat data.bytes.length :: data.bytes ++ [le]
  | case2Extended high low => [0x00, high, low]
  | case3Extended data =>
      [0x00, UInt8.ofNat (data.bytes.length / 256), UInt8.ofNat data.bytes.length] ++ data.bytes
  | case4Extended data high low =>
      [0x00, UInt8.ofNat (data.bytes.length / 256), UInt8.ofNat data.bytes.length] ++ data.bytes ++
        [high, low]

theorem lc_of_dataOffset {body : CommandBody} {offset : Nat} (begins : body.dataOffset = some offset) :
    body.lc = some body.data.length := by
  cases body with
  | case1 => contradiction
  | case2Short le => contradiction
  | case2Extended high low => contradiction
  | case3Short data => rfl
  | case4Short data le => rfl
  | case3Extended data => rfl
  | case4Extended data high low => rfl

end CommandBody

def CommandApdu.encode (apdu : CommandApdu) : List UInt8 :=
  [apdu.cla, apdu.ins, apdu.p1, apdu.p2] ++ apdu.body.encode

theorem CommandApdu.data_inside (apdu : CommandApdu) {offset : Nat}
    (begins : apdu.body.dataOffset = some offset) :
    offset + apdu.body.data.length ≤ apdu.encode.length ∧
      (apdu.encode.drop offset).take apdu.body.data.length = apdu.body.data := by
  obtain ⟨cla, ins, p1, p2, body⟩ := apdu
  cases body with
  | case1 => contradiction
  | case2Short le => contradiction
  | case2Extended high low => contradiction
  | case3Short data =>
      cases begins
      simp [encode, CommandBody.encode, CommandBody.data]
      omega
  | case4Short data le =>
      cases begins
      simp [encode, CommandBody.encode, CommandBody.data]
      omega
  | case3Extended data =>
      cases begins
      simp [encode, CommandBody.encode, CommandBody.data]
      omega
  | case4Extended data high low =>
      cases begins
      simp [encode, CommandBody.encode, CommandBody.data]
      omega

theorem extendedLength_ofNat {count : Nat} (bounded : count < 65536) :
    extendedLength (UInt8.ofNat (count / 256)) (UInt8.ofNat count) = count := by
  rw [extendedLength, UInt8.toNat_ofNat', UInt8.toNat_ofNat']
  omega

theorem extendedLength_lt (high low : UInt8) : extendedLength high low < 65536 := by
  have highByte := high.toNat_lt
  have lowByte := low.toNat_lt
  rw [extendedLength]
  omega

theorem ofNat_extendedLength (high low : UInt8) :
    UInt8.ofNat (extendedLength high low / 256) = high ∧
      UInt8.ofNat (extendedLength high low) = low := by
  have highByte := high.toNat_lt
  have lowByte := low.toNat_lt
  rw [← UInt8.toNat_inj, ← UInt8.toNat_inj, UInt8.toNat_ofNat', UInt8.toNat_ofNat', extendedLength]
  omega

end Cyberjack.Foundation
