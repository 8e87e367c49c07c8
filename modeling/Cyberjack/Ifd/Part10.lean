import Cyberjack.Foundation.Tlv
import Cyberjack.Foundation.Word

namespace Cyberjack.Ifd

open Cyberjack.Foundation

/-! # PIN structures as CT-API commands

`verifyStructToCtapi` and `modifyStructToCtapi` of `part10.c`, and the two functions
that call them.
-/

structure PIN_VERIFY_STRUCTURE where
  bTimerOut : UInt8
  bmFormatString : UInt8
  bmPINBlockString : UInt8
  bmPINLengthFormat : UInt8
  wPINMaxExtraDigit : UInt16
  bEntryValidationCondition : UInt8
  bNumberMessage : UInt8
  wLangId : UInt16
  bMsgIndex : UInt8
  bTeoPrologue : List UInt8
  ulDataLength : UInt32
  abData : Nat → UInt8

structure PIN_MODIFY_STRUCTURE where
  bTimerOut : UInt8
  bmFormatString : UInt8
  bmPINLengthFormat : UInt8
  bInsertionOffsetOld : UInt8
  bInsertionOffsetNew : UInt8
  wPINMaxExtraDigit : UInt16
  bConfirmPIN : UInt8
  bEntryValidationCondition : UInt8
  bNumberMessage : UInt8
  bMsgIndex1 : UInt8
  bMsgIndex2 : UInt8
  bMsgIndex3 : UInt8
  ulDataLength : UInt32
  abData : Nat → UInt8

def wordAt (memory : Nat → UInt8) (offset : Nat) : UInt16 :=
  UInt16.ofNat ((memory offset).toNat + 256 * (memory (offset + 1)).toNat)

def longAt (memory : Nat → UInt8) (offset : Nat) : UInt32 :=
  UInt32.ofNat ((memory offset).toNat + 256 * (memory (offset + 1)).toNat +
    65536 * (memory (offset + 2)).toNat + 16777216 * (memory (offset + 3)).toNat)

/-- The packed structure as it stands in memory. -/
def PIN_VERIFY_STRUCTURE.ofMemory (memory : Nat → UInt8) : PIN_VERIFY_STRUCTURE where
  bTimerOut := memory 0
  bmFormatString := memory 2
  bmPINBlockString := memory 3
  bmPINLengthFormat := memory 4
  wPINMaxExtraDigit := wordAt memory 5
  bEntryValidationCondition := memory 7
  bNumberMessage := memory 8
  wLangId := wordAt memory 9
  bMsgIndex := memory 11
  bTeoPrologue := [memory 12, memory 13, memory 14]
  ulDataLength := longAt memory 15
  abData index := memory (19 + index)

def PIN_MODIFY_STRUCTURE.ofMemory (memory : Nat → UInt8) : PIN_MODIFY_STRUCTURE where
  bTimerOut := memory 0
  bmFormatString := memory 2
  bmPINLengthFormat := memory 4
  bInsertionOffsetOld := memory 5
  bInsertionOffsetNew := memory 6
  wPINMaxExtraDigit := wordAt memory 7
  bConfirmPIN := memory 9
  bEntryValidationCondition := memory 10
  bNumberMessage := memory 11
  bMsgIndex1 := memory 14
  bMsgIndex2 := memory 15
  bMsgIndex3 := memory 16
  ulDataLength := longAt memory 20
  abData index := memory (24 + index)

/-- `ntohl` of a little endian machine. -/
def ntohl (value : UInt32) : UInt32 :=
  ((value &&& 0x000000ff) <<< 24) ||| ((value &&& 0x0000ff00) <<< 8) |||
    ((value &&& 0x00ff0000) >>> 8) ||| ((value &&& 0xff000000) >>> 24)

/-- `apduLength`, an `int`, which is compared as an unsigned value. -/
def apduLength (ulDataLength : UInt32) : Int :=
  int32 (if ntohl ulDataLength > ulDataLength then ulDataLength else ntohl ulDataLength).toNat

def nPinLenMin (wPINMaxExtraDigit : UInt16) : UInt8 := (wPINMaxExtraDigit >>> 8).toUInt8

def nPinLenMax (wPINMaxExtraDigit : UInt16) : UInt8 := wPINMaxExtraDigit.toUInt8

/-- A translation is refused with IFD_COMMUNICATION_ERROR, or it makes a command for
which it has read the first bytes of `abData`; a `memmove` of a negative length, or of
about 2 GiB, does not come to an end. -/
inductive Translation where
  | refused
  | runaway
  | made (apdu : List UInt8) (dataRead : Nat)
deriving Repr, DecidableEq

/-- `for (i=6; i<apduLength && bIsFormat2; i++)`: whether all bytes are FF, and the
index behind the last one looked at. -/
def fillers (abData : Nat → UInt8) : Nat → Nat → Bool × Nat
  | 0, index => (true, index)
  | count + 1, index =>
      if abData index = 0xff then fillers abData count (index + 1) else (false, index + 1)

/-- `bIsFormat2`, and how much of `abData` has been read for it. -/
def verifyFormat2 (ps : PIN_VERIFY_STRUCTURE) : Bool × Nat :=
  if ps.bmPINLengthFormat &&& 0x10 = 0x00 ∧ ps.bmPINLengthFormat &&& 0x0F = 0x04 ∧
      ps.bmFormatString &&& 0x83 = 0x81 ∧ apduLength ps.ulDataLength = 13 then
    if ps.abData 5 &&& 0xf0 = 0x20 then fillers ps.abData 7 6 else (false, 6)
  else (false, 0)

/-- The pin length is to be inserted where the command cannot say it. -/
def badLengthInsertion (bmPINBlockString : UInt8) (bIsFormat2 : Bool) : Prop :=
  let nMktPinLengthSizeInBits := (bmPINBlockString &&& 0xF0) >>> 4
  let nMktPinBlockSizeInBytes := bmPINBlockString &&& 0x0F
  nMktPinLengthSizeInBits ≠ 0 ∧
    (bIsFormat2 = false ∨
      (nMktPinBlockSizeInBytes ≠ 0 ∧ nMktPinBlockSizeInBytes ≠ 6 ∧ nMktPinBlockSizeInBytes ≠ 7) ∨
      nMktPinLengthSizeInBits ≠ 4 ∨ bmPINBlockString &&& 0x10 ≠ 0)

instance (bmPINBlockString : UInt8) (bIsFormat2 : Bool) :
    Decidable (badLengthInsertion bmPINBlockString bIsFormat2) :=
  inferInstanceAs (Decidable (_ ∧ _))

/-- `nMktControlByte` and `nMktPinPositionStart`, unless the format is not supported. -/
def verifyControl (ps : PIN_VERIFY_STRUCTURE) (bIsFormat2 : Bool) : Option (UInt8 × UInt8) :=
  let nMktPinPositionStart := (ps.bmFormatString &&& 0x78) >>> 3
  if ps.bmFormatString &&& 0x04 ≠ 0 then none
  else if ps.bmFormatString &&& 0x03 = 0x00 ∨ ps.bmFormatString &&& 0x03 = 0x03 then none
  else if ps.bmFormatString &&& 0x80 = 0 ∧ nMktPinPositionStart ≠ 0 ∧ bIsFormat2 = false then none
  else if badLengthInsertion ps.bmPINBlockString bIsFormat2 then none
  else
    let format : UInt8 :=
      if ps.bmFormatString &&& 0x03 = 0x02 then 0x01 else if bIsFormat2 = true then 0x02 else 0x00
    let position :=
      if bIsFormat2 = true then
        if nMktPinPositionStart = 0 ∨ nMktPinPositionStart = 1 then 6 else nMktPinPositionStart + 5
      else nMktPinPositionStart + 6
    let Min := nPinLenMin ps.wPINMaxExtraDigit
    let Max := nPinLenMax ps.wPINMaxExtraDigit
    some (if ps.bEntryValidationCondition &&& 0x01 ≠ 0 ∧ Min = Max then format ||| (Max <<< 4) else format,
      position)

/-- Tag 80. -/
def timer (bTimerOut : UInt8) : List UInt8 := if bTimerOut ≠ 0 then [0x80, 0x01, bTimerOut] else []

/-- `buffer[4]=idx-5` -/
def setSize (buffer : List UInt8) : List UInt8 := buffer.set 4 (UInt8.ofNat (buffer.length - 5))

/-- The part of both functions that writes: the header, tag 80, tag 52 with `lead` in
front of the embedded APDU, and `tags` if the reader supports tag 51. -/
def writeCommand (ins bTimerOut : UInt8) (lead : List UInt8) (apduLength : Int) (abData : Nat → UInt8)
    (looked : Nat) (supportTag51 : Bool) (tags : List UInt8) (pLen : Int) : Translation :=
  if bTimerOut ≠ 0 ∧ (5 + 3 : Int) ≥ pLen then .refused
  else
    let front := [0x20, ins, 0x01, 0x00, 0xff] ++ timer bTimerOut
    let behind := front.length + apduLength + lead.length
    if int32 behind ≥ pLen then .refused
    else if apduLength < 0 ∨ int32 behind ≠ behind then .runaway
    else
      let data := (List.range apduLength.toNat).map abData
      let buffer := front ++ [0x52, UInt8.ofNat (apduLength.toNat + lead.length)] ++ lead ++ data
      let dataRead := max looked apduLength.toNat
      if supportTag51 = false then .made (setSize buffer) dataRead
      else if (buffer.length + 4 : Int) ≥ pLen then .refused
      else .made (setSize (buffer ++ tags)) dataRead

def verifyStructToCtapi (supportTag51 : Bool) (ps : PIN_VERIFY_STRUCTURE) (pLen : Int) : Translation :=
  if 5 ≥ pLen then .refused
  else
    let format2 := verifyFormat2 ps
    match verifyControl ps format2.1 with
    | none => .refused
    | some (nMktControlByte, nMktPinPositionStart) =>
        writeCommand 0x18 ps.bTimerOut [nMktControlByte, nMktPinPositionStart]
          (apduLength ps.ulDataLength) ps.abData format2.2 supportTag51
          [0x51, 0x02, nPinLenMin ps.wPINMaxExtraDigit, nPinLenMax ps.wPINMaxExtraDigit] pLen

/-- `bIsFormat2` of the other function, which does not look at the bytes behind. -/
def modifyFormat2 (ps : PIN_MODIFY_STRUCTURE) : Bool × Nat :=
  if ps.bmPINLengthFormat &&& 0x10 = 0x00 ∧ ps.bmPINLengthFormat &&& 0x0F = 0x04 ∧
      ps.bmFormatString &&& 0x83 = 0x81 ∧
      (apduLength ps.ulDataLength = 13 ∨ apduLength ps.ulDataLength = 21) then
    (ps.abData 5 &&& 0xf0 = 0x20, 6)
  else (false, 0)

/-- The system units of the pin length, where they are bits. -/
def badSystemUnits (bmPINLengthFormat : UInt8) (bIsFormat2 : Bool) : Prop :=
  bmPINLengthFormat ≠ 0 ∧ bmPINLengthFormat &&& 0x10 = 0 ∧
    ¬ (bmPINLengthFormat &&& 0x0F = 4 ∧ bIsFormat2 = true) ∧ bmPINLengthFormat &&& 0x0F ≠ 8

instance (bmPINLengthFormat : UInt8) (bIsFormat2 : Bool) :
    Decidable (badSystemUnits bmPINLengthFormat bIsFormat2) :=
  inferInstanceAs (Decidable (_ ∧ _))

/-- `nMktControlByte`, `nMktOldPinLengthBytePosition` and `nMktNewPinLengthBytePosition`. -/
def modifyControl (ps : PIN_MODIFY_STRUCTURE) (bIsFormat2 : Bool) : Option (List UInt8) :=
  if ps.bmFormatString &&& 0x04 ≠ 0 then none
  else if ps.bmFormatString &&& 0x03 = 0x00 ∨ ps.bmFormatString &&& 0x03 = 0x03 then none
  else if badSystemUnits ps.bmPINLengthFormat bIsFormat2 then none
  else
    let format : UInt8 :=
      if ps.bmFormatString &&& 0x03 = 0x02 then 0x01 else if bIsFormat2 = true then 0x02 else 0x00
    let nMktPinLength := nPinLenMax ps.wPINMaxExtraDigit
    let newPosition :=
      if ps.bInsertionOffsetNew ≠ 0 ∨ ps.bConfirmPIN &&& 2 = 0 then ps.bInsertionOffsetNew + 6
      else ps.bInsertionOffsetNew
    let oldPosition := if ps.bConfirmPIN &&& 2 = 0 then newPosition else ps.bInsertionOffsetOld + 6
    some [if ps.bEntryValidationCondition &&& 0x01 ≠ 0 then format ||| (nMktPinLength <<< 4) else format,
      oldPosition, newPosition]

def modifyStructToCtapi (supportTag51 : Bool) (ps : PIN_MODIFY_STRUCTURE) (pLen : Int) : Translation :=
  if 5 ≥ pLen then .refused
  else
    let format2 := modifyFormat2 ps
    match modifyControl ps format2.1 with
    | none => .refused
    | some lead =>
        writeCommand 0x19 ps.bTimerOut lead (apduLength ps.ulDataLength) ps.abData format2.2 supportTag51
          [0x51, 0x02, nPinLenMin ps.wPINMaxExtraDigit, nPinLenMax ps.wPINMaxExtraDigit,
            0x53, 0x03, ps.bMsgIndex1, ps.bMsgIndex2, ps.bMsgIndex3, 0x54, 0x01, ps.bNumberMessage] pLen

/-- What is sent by `Part10VerifyPinDirect`, whose buffer has 256 bytes. -/
def Part10VerifyPinDirect (supportTag51 : Bool) (TxBuffer : Nat → UInt8) (TxLength : Nat) : Translation :=
  if TxLength < 20 then .refused
  else verifyStructToCtapi supportTag51 (.ofMemory TxBuffer) 256

def Part10ModifyPinDirect (supportTag51 : Bool) (TxBuffer : Nat → UInt8) (TxLength : Nat) : Translation :=
  if TxLength < 25 then .refused
  else modifyStructToCtapi supportTag51 (.ofMemory TxBuffer) 256

/-- Class, instruction and parameters, Lc and as many bytes, which are data objects. -/
def WellFormedCommand (ins : UInt8) (apdu : List UInt8) : Prop :=
  ∃ objects : List DataObject, (DataObject.encodeAll objects).length < 256 ∧
    apdu = [0x20, ins, 0x01, 0x00, UInt8.ofNat (DataObject.encodeAll objects).length] ++
      DataObject.encodeAll objects

/-- A command that is made is well formed and lies in the buffer of 256 bytes, and only
what has been transmitted of the structure is read for it. -/
def Sound (ins : UInt8) (dataOffset TxLength : Nat) : Translation → Prop
  | .refused => True
  | .runaway => False
  | .made apdu dataRead =>
      apdu.length ≤ 256 ∧ WellFormedCommand ins apdu ∧ dataOffset + dataRead ≤ TxLength

/-- The index behind header and tag 80. -/
def front (bTimerOut : UInt8) : Int := if bTimerOut ≠ 0 then 8 else 5

/-- The checks of room are passed; `lead` bytes stand in front of the embedded APDU.  The sums wrap
around for lengths next to 2^31. -/
def Admitted (supportTag51 : Bool) (bTimerOut : UInt8) (lead : Nat) (length : Int) : Prop :=
  int32 (front bTimerOut + length + lead) < 256 ∧
    (supportTag51 = true → int32 (front bTimerOut + length + lead + 6) < 256)

/-- What the checks of room ask for. -/
def Room (supportTag51 : Bool) (bTimerOut : UInt8) (lead : Nat) (length : Int) : Prop :=
  front bTimerOut + length + lead < 256 ∧
    (supportTag51 = true → front bTimerOut + length + lead + 6 < 256)

/-- The embedded APDU has been transmitted, and the command fits into 256 bytes. -/
def Fits (supportTag51 : Bool) (bTimerOut : UInt8) (lead tags dataOffset TxLength : Nat) (length : Int) :
    Prop :=
  0 ≤ length ∧ dataOffset + length ≤ TxLength ∧
    front bTimerOut + 2 + lead + length + (if supportTag51 = true then tags else 0) ≤ 256

variable {supportTag51 : Bool} {ins bTimerOut : UInt8} {lead tags data : List UInt8} {length : Int}
  {abData : Nat → UInt8} {looked dataOffset TxLength : Nat}

/-- Tag 80 as data objects. -/
def timerObjects (bTimerOut : UInt8) : List DataObject :=
  if bTimerOut ≠ 0 then [⟨0x80, [bTimerOut], by simp⟩] else []

theorem encodeAll_timerObjects (bTimerOut : UInt8) :
    DataObject.encodeAll (timerObjects bTimerOut) = timer bTimerOut := by
  rw [timerObjects, timer]
  split <;> rfl

theorem length_timer (bTimerOut : UInt8) : ((timer bTimerOut).length : Int) + 5 = front bTimerOut := by
  rw [timer, front]
  split <;> rfl

theorem setSize_header (a b c d e : UInt8) (rest : List UInt8) :
    setSize ([a, b, c, d, e] ++ rest) = [a, b, c, d, UInt8.ofNat rest.length] ++ rest := rfl

/-- All that is written. -/
def command (ins bTimerOut : UInt8) (lead data tags : List UInt8) : List UInt8 :=
  setSize ([0x20, ins, 0x01, 0x00, 0xff] ++ timer bTimerOut ++
    [0x52, UInt8.ofNat (data.length + lead.length)] ++ lead ++ data ++ tags)

theorem length_command (ins bTimerOut : UInt8) (lead data tags : List UInt8) :
    ((command ins bTimerOut lead data tags).length : Int) =
      front bTimerOut + 2 + lead.length + data.length + tags.length := by
  have offset := length_timer bTimerOut
  simp only [command, setSize, List.length_set, List.length_append, List.length_cons,
    List.length_nil]
  omega

/-- The objects of a command; `following` are those behind tag 52. -/
def commandObjects (bTimerOut : UInt8) (lead data : List UInt8) (short : (lead ++ data).length < 256)
    (following : List DataObject) : List DataObject :=
  timerObjects bTimerOut ++ [⟨0x52, lead ++ data, short⟩] ++ following

/-- What is written behind the header is data objects. -/
theorem command_eq (short : (lead ++ data).length < 256) (following : List DataObject) :
    command ins bTimerOut lead data (DataObject.encodeAll following) =
      [0x20, ins, 0x01, 0x00,
        UInt8.ofNat (DataObject.encodeAll (commandObjects bTimerOut lead data short following)).length] ++
      DataObject.encodeAll (commandObjects bTimerOut lead data short following) := by
  have encoded : DataObject.encodeAll (commandObjects bTimerOut lead data short following) =
      timer bTimerOut ++ ([0x52, UInt8.ofNat (data.length + lead.length)] ++ lead ++ data) ++
        DataObject.encodeAll following := by
    simp [commandObjects, encodeAll_timerObjects, DataObject.encode, Nat.add_comm]
  rw [encoded, ← setSize_header _ _ _ _ 0xff]
  simp only [command, List.append_assoc]

theorem wellFormed_command {objects : List DataObject} (following : DataObject.encodeAll objects = tags)
    (bounded : (command ins bTimerOut lead data tags).length ≤ 256) :
    WellFormedCommand ins (command ins bTimerOut lead data tags) := by
  have offset := length_timer bTimerOut
  have length := length_command ins bTimerOut lead data tags
  have short : (lead ++ data).length < 256 := by
    rw [List.length_append]
    omega
  subst following
  have whole := @command_eq ins bTimerOut lead data short objects
  refine ⟨commandObjects bTimerOut lead data short objects, ?_, whole⟩
  rw [whole, List.length_append] at bounded
  exact Nat.lt_of_lt_of_le (Nat.lt_add_of_pos_left (Nat.succ_pos 4)) bounded

/-- Whether a command is sound is a matter of lengths. -/
theorem sound_made {objects : List DataObject} (following : DataObject.encodeAll objects = tags)
    (seen : looked ≤ data.length) :
    Sound ins dataOffset TxLength
        (.made (command ins bTimerOut lead data tags) (max looked data.length)) ↔
      front bTimerOut + 2 + lead.length + data.length + tags.length ≤ (256 : Int) ∧
        dataOffset + data.length ≤ TxLength := by
  have length := length_command ins bTimerOut lead data tags
  rw [Sound, Nat.max_eq_right seen]
  constructor
  · rintro ⟨bounded, -, inside⟩
    exact ⟨by omega, inside⟩
  · rintro ⟨bounded, inside⟩
    have fits : (command ins bTimerOut lead data tags).length ≤ 256 := by omega
    exact ⟨fits, wellFormed_command following fits, inside⟩

theorem front_le (bTimerOut : UInt8) : front bTimerOut ≤ 8 := by
  rw [front]
  split <;> decide

theorem le_front (bTimerOut : UInt8) : 5 ≤ front bTimerOut := by
  rw [front]
  split <;> decide

theorem length_header (ins bTimerOut : UInt8) :
    ((([0x20, ins, 0x01, 0x00, 0xff] ++ timer bTimerOut).length : Nat) : Int) = front bTimerOut := by
  rw [← length_timer, List.length_append]
  push_cast
  exact Int.add_comm _ _

theorem length_buffer (ins bTimerOut : UInt8) (lead : List UInt8) (abData : Nat → UInt8) (count : Nat) :
    (([0x20, ins, 0x01, 0x00, 0xff] ++ timer bTimerOut ++ [0x52, UInt8.ofNat (count + lead.length)] ++
      lead ++ (List.range count).map abData).length : Int) =
      front bTimerOut + 2 + lead.length + count := by
  have offset := length_timer bTimerOut
  simp only [List.length_append, List.length_cons, List.length_nil, List.length_map, List.length_range]
  omega

/-- The tags behind tag 52. -/
def tagsFor (supportTag51 : Bool) (tags : List UInt8) : List UInt8 :=
  if supportTag51 = true then tags else []

/-- Without a wrap the checks find what they ask for. -/
theorem admitted_iff (low : -2147483648 ≤ length) (high : front bTimerOut + length + lead.length < 2147483648) :
    Admitted supportTag51 bTimerOut lead.length length ↔ Room supportTag51 bTimerOut lead.length length := by
  have start := le_front bTimerOut
  rw [Admitted, Room, int32_of_range (by omega) high]
  refine and_congr_right fun room => ?_
  rw [int32_of_range (by omega) (by omega)]

/-- A negative length passes the checks, and so does one whose sum wraps around. -/
theorem admitted_of_far (small : lead.length ≤ 3) (low : -2147483648 ≤ length) (high : length < 2147483648)
    (far : length < 0 ∨ 2147483648 ≤ front bTimerOut + length + lead.length) :
    Admitted supportTag51 bTimerOut lead.length length := by
  have bounded := front_le bTimerOut
  have start := le_front bTimerOut
  rcases far with negative | wrapped
  · rw [Admitted, int32_of_range (by omega) (by omega), int32_of_range (by omega) (by omega)]
    exact ⟨by omega, fun _ => by omega⟩
  · simp only [Admitted, int32, Int.bmod_def]
    exact ⟨by split <;> omega, fun _ => by split <;> omega⟩

/-- Nothing is made of what does not pass the checks. -/
theorem writeCommand_refused (small : lead.length ≤ 3) (low : -2147483648 ≤ length) (high : length < 2147483648)
    (rejected : ¬ Admitted supportTag51 bTimerOut lead.length length) :
    writeCommand ins bTimerOut lead length abData looked supportTag51 tags 256 = .refused := by
  have bounded := front_le bTimerOut
  have start := le_front bTimerOut
  rw [writeCommand, if_neg (by omega)]
  simp only [length_header]
  by_cases room : int32 (front bTimerOut + length + lead.length) ≥ 256
  · rw [if_pos room]
  · rw [if_neg room]
    -- The first check is passed, so that of the tags is not.
    have tagRoom : supportTag51 = true ∧ ¬ int32 (front bTimerOut + length + lead.length + 6) < 256 := by
      refine ⟨?_, fun enough => rejected ⟨by omega, fun _ => enough⟩⟩
      cases supportTag51 with
      | false => exact absurd ⟨by omega, nofun⟩ rejected
      | true => rfl
    have exact32 : int32 (front bTimerOut + length + lead.length) = front bTimerOut + length + lead.length := by
      have low32 := int32_bounds (front bTimerOut + length + lead.length)
      have far := tagRoom.2
      rw [int32, Int.bmod_def] at far room ⊢
      split at far <;> split at room <;> split <;> omega
    rw [exact32] at room ⊢
    have wide := tagRoom.2
    rw [int32_of_range (by omega) (by omega)] at wide
    obtain ⟨count, rfl⟩ := Int.eq_ofNat_of_zero_le (by omega : 0 ≤ length)
    rw [if_neg (by omega), if_neg (by rw [tagRoom.1]; decide), Int.toNat_natCast, if_pos]
    rw [length_buffer]
    omega

theorem writeCommand_runaway (small : lead.length ≤ 3) (low : -2147483648 ≤ length) (high : length < 2147483648)
    (far : length < 0 ∨ 2147483648 ≤ front bTimerOut + length + lead.length) :
    writeCommand ins bTimerOut lead length abData looked supportTag51 tags 256 = .runaway := by
  have bounded := front_le bTimerOut
  have start := le_front bTimerOut
  rw [writeCommand, if_neg (by omega)]
  simp only [length_header]
  rcases far with negative | wrapped
  · rw [int32_of_range (by omega) (by omega), if_neg (by omega), if_pos (.inl negative)]
  · have bounds := int32_bounds (front bTimerOut + length + lead.length)
    have below : int32 (front bTimerOut + length + lead.length) < 0 := by
      rw [int32, Int.bmod_def]
      split <;> omega
    rw [if_neg (by omega), if_pos (.inr (by omega))]

theorem writeCommand_made {count : Nat} (small : lead.length ≤ 3)
    (admitted : Room supportTag51 bTimerOut lead.length (count : Int)) :
    writeCommand ins bTimerOut lead count abData looked supportTag51 tags 256 =
      .made (command ins bTimerOut lead ((List.range count).map abData) (tagsFor supportTag51 tags))
        (max looked count) := by
  obtain ⟨room, tagRoom⟩ := admitted
  have start := le_front bTimerOut
  have exact32 : int32 (front bTimerOut + count + lead.length) = front bTimerOut + count + lead.length :=
    int32_of_range (by omega) (by omega)
  rw [writeCommand, if_neg (by have bounded := front_le bTimerOut; omega)]
  simp only [length_header]
  rw [exact32, if_neg (by omega), if_neg (by omega), Int.toNat_natCast, command, List.length_map, List.length_range]
  cases supportTag51 with
  | false => rw [if_pos rfl, tagsFor, if_neg Bool.false_ne_true, List.append_nil]
  | true =>
      have enough := tagRoom rfl
      rw [if_neg (by decide), if_neg, tagsFor, if_pos rfl]
      rw [length_buffer]
      omega

/-- What `writeCommand` makes is sound exactly when what passes its checks fits. -/
theorem sound_writeCommand {objects : List DataObject} (small : lead.length ≤ 3)
    (low : -2147483648 ≤ length) (high : length < 2147483648) (following : DataObject.encodeAll objects = tags)
    (seen : 0 ≤ length → looked ≤ length.toNat) :
    Sound ins dataOffset TxLength
        (writeCommand ins bTimerOut lead length abData looked supportTag51 tags 256) ↔
      (Admitted supportTag51 bTimerOut lead.length length →
        Fits supportTag51 bTimerOut lead.length tags.length dataOffset TxLength length) := by
  have start := le_front bTimerOut
  by_cases far : length < 0 ∨ 2147483648 ≤ front bTimerOut + length + lead.length
  · rw [writeCommand_runaway small low high far]
    refine iff_of_false id fun fits => ?_
    obtain ⟨positive, _, bounded⟩ := fits (admitted_of_far small low high far)
    split at bounded <;> omega
  by_cases admitted : Admitted supportTag51 bTimerOut lead.length length
  · simp only [admitted, forall_const]
    obtain ⟨count, rfl⟩ := Int.eq_ofNat_of_zero_le (by omega : 0 ≤ length)
    have dataLength : ((List.range count).map abData).length = count := by simp
    have read : looked ≤ ((List.range count).map abData).length := by
      rw [dataLength]
      exact seen (Int.natCast_nonneg count)
    have behind : ∃ others, DataObject.encodeAll others = tagsFor supportTag51 tags := by
      cases supportTag51 with
      | false => exact ⟨[], rfl⟩
      | true => exact ⟨objects, following⟩
    obtain ⟨others, encoded⟩ := behind
    have sound := @sound_made ins bTimerOut lead _ _ looked dataOffset TxLength others encoded read
    rw [dataLength] at sound
    rw [writeCommand_made small ((admitted_iff low (by omega)).mp admitted), sound, Fits, tagsFor]
    cases supportTag51 with
    | false =>
        simp only [if_neg Bool.false_ne_true, List.length_nil]
        omega
    | true =>
        simp only [if_pos]
        omega
  · rw [writeCommand_refused small low high admitted]
    exact iff_of_true trivial fun passed => absurd passed admitted

/-! ## What is supported -/

/-- FPIN2: the units are nibbles and the embedded APDU holds an empty PIN block. -/
def PIN_VERIFY_STRUCTURE.Format2 (ps : PIN_VERIFY_STRUCTURE) : Prop :=
  ps.bmPINLengthFormat &&& 0x1F = 0x04 ∧ ps.bmFormatString &&& 0x83 = 0x81 ∧
    apduLength ps.ulDataLength = 13 ∧ ps.abData 5 &&& 0xf0 = 0x20 ∧
    ∀ index, 6 ≤ index → index < 13 → ps.abData index = 0xff

def PIN_MODIFY_STRUCTURE.Format2 (ps : PIN_MODIFY_STRUCTURE) : Prop :=
  ps.bmPINLengthFormat &&& 0x1F = 0x04 ∧ ps.bmFormatString &&& 0x83 = 0x81 ∧
    (apduLength ps.ulDataLength = 13 ∨ apduLength ps.ulDataLength = 21) ∧
    ps.abData 5 &&& 0xf0 = 0x20

/-- BCD or ASCII, left justified. -/
def SupportedFormat (bmFormatString : UInt8) : Prop :=
  bmFormatString &&& 0x07 = 0x01 ∨ bmFormatString &&& 0x07 = 0x02

/-- A position in bytes, and no length to be inserted, except for FPIN2. -/
def PIN_VERIFY_STRUCTURE.Supported (ps : PIN_VERIFY_STRUCTURE) : Prop :=
  SupportedFormat ps.bmFormatString ∧
    (ps.bmFormatString &&& 0x80 ≠ 0 ∨ ps.bmFormatString &&& 0x78 = 0 ∨ ps.Format2) ∧
    (ps.bmPINBlockString &&& 0xF0 = 0 ∨
      (ps.Format2 ∧ (ps.bmPINBlockString = 0x40 ∨ ps.bmPINBlockString = 0x46 ∨
        ps.bmPINBlockString = 0x47)))

/-- The pin length in bytes, or in bits where they make a byte or it is FPIN2. -/
def PIN_MODIFY_STRUCTURE.Supported (ps : PIN_MODIFY_STRUCTURE) : Prop :=
  SupportedFormat ps.bmFormatString ∧
    (ps.bmPINLengthFormat = 0 ∨ ps.bmPINLengthFormat &&& 0x10 ≠ 0 ∨
      ps.bmPINLengthFormat &&& 0x0F = 8 ∨ ps.Format2)

theorem supportedFormat_iff : ∀ format : UInt8, SupportedFormat format ↔
    ¬ format &&& 0x04 ≠ 0 ∧ ¬ (format &&& 0x03 = 0x00 ∨ format &&& 0x03 = 0x03) := by
  simp only [SupportedFormat]
  decide

theorem units_iff : ∀ format : UInt8, format &&& 0x1F = 0x04 ↔
    format &&& 0x10 = 0x00 ∧ format &&& 0x0F = 0x04 := by
  decide

theorem fillers_fst (abData : Nat → UInt8) (count index : Nat) :
    (fillers abData count index).1 = true ↔
      ∀ other, index ≤ other → other < index + count → abData other = 0xff := by
  induction count generalizing index with
  | zero => exact ⟨fun _ other low high => by omega, fun _ => rfl⟩
  | succ count ih =>
      rw [fillers]
      by_cases filler : abData index = 0xff
      · rw [if_pos filler, ih]
        constructor
        · intro every other low high
          by_cases first : other = index
          · rwa [first]
          · exact every other (by omega) (by omega)
        · exact fun every other low high => every other (by omega) (by omega)
      · rw [if_neg filler]
        exact iff_of_false Bool.false_ne_true fun every => filler (every index (by omega) (by omega))

theorem fillers_snd (abData : Nat → UInt8) (count index : Nat) :
    (fillers abData count index).2 ≤ index + count := by
  induction count generalizing index with
  | zero => exact Nat.le_refl _
  | succ count ih =>
      rw [fillers]
      split
      · have later := ih (index + 1)
        omega
      · show index + 1 ≤ index + (count + 1)
        omega

theorem verifyFormat2_fst (ps : PIN_VERIFY_STRUCTURE) : (verifyFormat2 ps).1 = true ↔ ps.Format2 := by
  rw [verifyFormat2, PIN_VERIFY_STRUCTURE.Format2, units_iff]
  have filled := fillers_fst ps.abData 7 6
  split
  · split <;> simp_all
  · simp_all

/-- Only an embedded APDU of 13 bytes is looked at. -/
theorem verifyFormat2_snd (ps : PIN_VERIFY_STRUCTURE) :
    (verifyFormat2 ps).2 ≤ (apduLength ps.ulDataLength).toNat := by
  have filled := fillers_snd ps.abData 7 6
  rw [verifyFormat2]
  split
  · rename_i fpin2
    split
    · omega
    · show 6 ≤ _
      omega
  · exact Nat.zero_le _

theorem modifyFormat2_fst (ps : PIN_MODIFY_STRUCTURE) : (modifyFormat2 ps).1 = true ↔ ps.Format2 := by
  rw [modifyFormat2, PIN_MODIFY_STRUCTURE.Format2, units_iff]
  split <;> simp_all

theorem modifyFormat2_snd (ps : PIN_MODIFY_STRUCTURE) :
    (modifyFormat2 ps).2 ≤ (apduLength ps.ulDataLength).toNat := by
  rw [modifyFormat2]
  split
  · show 6 ≤ _
    omega
  · exact Nat.zero_le _

theorem badLengthInsertion_iff : ∀ (block : UInt8) (bIsFormat2 : Bool),
    ¬ badLengthInsertion block bIsFormat2 ↔
      (block &&& 0xF0 = 0 ∨ (bIsFormat2 = true ∧ (block = 0x40 ∨ block = 0x46 ∨ block = 0x47))) := by
  decide

theorem badSystemUnits_iff : ∀ (units : UInt8) (bIsFormat2 : Bool),
    ¬ badSystemUnits units bIsFormat2 ↔
      (units = 0 ∨ units &&& 0x10 ≠ 0 ∨ units &&& 0x0F = 8 ∨
        (units &&& 0x1F = 0x04 ∧ bIsFormat2 = true)) := by
  decide

theorem position_iff : ∀ format : UInt8, (format &&& 0x78) >>> 3 = 0 ↔ format &&& 0x78 = 0 := by
  decide

theorem verifyControl_isSome (ps : PIN_VERIFY_STRUCTURE) :
    (verifyControl ps (verifyFormat2 ps).1).isSome = true ↔ ps.Supported := by
  rw [PIN_VERIFY_STRUCTURE.Supported, supportedFormat_iff, ← verifyFormat2_fst, ← badLengthInsertion_iff,
    ← position_iff]
  simp only [verifyControl]
  generalize (verifyFormat2 ps).1 = bIsFormat2
  by_cases justified : ps.bmFormatString &&& 0x04 ≠ 0
  · simp [justified]
  · by_cases coded : ps.bmFormatString &&& 0x03 = 0x00 ∨ ps.bmFormatString &&& 0x03 = 0x03
    · simp [justified, coded]
    · rw [if_neg justified, if_neg coded]
      by_cases units : ps.bmFormatString &&& 0x80 = 0 ∧ (ps.bmFormatString &&& 0x78) >>> 3 ≠ 0 ∧
          bIsFormat2 = false
      · simp [units]
      · rw [if_neg units]
        by_cases insertion : badLengthInsertion ps.bmPINBlockString bIsFormat2
        · simp [insertion]
        · rw [if_neg insertion]
          refine iff_of_true rfl ⟨⟨justified, coded⟩, ?_, insertion⟩
          by_contra wrong
          simp_all

theorem modifyControl_isSome (ps : PIN_MODIFY_STRUCTURE) :
    (modifyControl ps (modifyFormat2 ps).1).isSome = true ↔ ps.Supported := by
  have units : ps.bmPINLengthFormat &&& 0x1F = 0x04 ∧ (modifyFormat2 ps).1 = true ↔ ps.Format2 := by
    rw [modifyFormat2_fst]
    exact ⟨fun both => both.2, fun format2 => ⟨format2.1, format2⟩⟩
  rw [PIN_MODIFY_STRUCTURE.Supported, supportedFormat_iff, ← units, ← badSystemUnits_iff, modifyControl]
  by_cases justified : ps.bmFormatString &&& 0x04 ≠ 0
  · simp [justified]
  · by_cases coded : ps.bmFormatString &&& 0x03 = 0x00 ∨ ps.bmFormatString &&& 0x03 = 0x03
    · simp [justified, coded]
    · by_cases unit : badSystemUnits ps.bmPINLengthFormat (modifyFormat2 ps).1
      · simp [unit]
      · simp [justified, coded, unit]

theorem length_modifyControl {ps : PIN_MODIFY_STRUCTURE} {bIsFormat2 : Bool}
    (supported : modifyControl ps bIsFormat2 = some lead) : lead.length = 3 := by
  simp only [modifyControl, Option.ite_none_left_eq_some, Option.some.injEq] at supported
  rw [← supported.2.2.2]
  rfl

/-- Tag 51. -/
def limitsObject (wPINMaxExtraDigit : UInt16) : DataObject :=
  ⟨0x51, [nPinLenMin wPINMaxExtraDigit, nPinLenMax wPINMaxExtraDigit], by simp⟩

def limitsObjects (supportTag51 : Bool) (wPINMaxExtraDigit : UInt16) : List DataObject :=
  if supportTag51 = true then [limitsObject wPINMaxExtraDigit] else []

theorem apduLength_bounds (ulDataLength : UInt32) :
    -2147483648 ≤ apduLength ulDataLength ∧ apduLength ulDataLength < 2147483648 := int32_bounds _

theorem verify_made {ps : PIN_VERIFY_STRUCTURE} {apdu : List UInt8} {dataRead : Nat}
    (made : verifyStructToCtapi supportTag51 ps 256 = .made apdu dataRead) :
    ∃ control position, ∃ count : Nat,
      verifyControl ps (verifyFormat2 ps).1 = some (control, position) ∧
      Room supportTag51 ps.bTimerOut 2 (count : Int) ∧
      apdu = command 0x18 ps.bTimerOut [control, position] ((List.range count).map ps.abData)
        (DataObject.encodeAll (limitsObjects supportTag51 ps.wPINMaxExtraDigit)) := by
  rw [verifyStructToCtapi, if_neg (by decide)] at made
  cases control : verifyControl ps (verifyFormat2 ps).1 with
  | none =>
      simp only [control] at made
      contradiction
  | some bytes =>
      obtain ⟨byte, position⟩ := bytes
      simp only [control] at made
      have two : [byte, position].length ≤ 3 := Nat.le_succ 2
      obtain ⟨low, high⟩ := apduLength_bounds ps.ulDataLength
      by_cases far : apduLength ps.ulDataLength < 0 ∨
          2147483648 ≤ front ps.bTimerOut + apduLength ps.ulDataLength + ([byte, position].length : Nat)
      · rw [writeCommand_runaway two low high far] at made
        contradiction
      · by_cases admitted : Admitted supportTag51 ps.bTimerOut [byte, position].length (apduLength ps.ulDataLength)
        · have room := (admitted_iff low (by omega)).mp admitted
          obtain ⟨count, length⟩ := Int.eq_ofNat_of_zero_le (by omega : 0 ≤ apduLength ps.ulDataLength)
          rw [length] at made room
          rw [writeCommand_made two room, Translation.made.injEq] at made
          refine ⟨byte, position, count, rfl, room, made.1.symm.trans (congrArg _ ?_)⟩
          cases supportTag51 with
          | false => rfl
          | true => rfl
        · rw [writeCommand_refused two low high admitted] at made
          contradiction

/-- What a PIN_VERIFY_STRUCTURE of `TxLength` bytes is translated without harm for. -/
def VerifyFits (supportTag51 : Bool) (TxBuffer : Nat → UInt8) (TxLength : Nat) : Prop :=
  let ps := PIN_VERIFY_STRUCTURE.ofMemory TxBuffer
  20 ≤ TxLength → ps.Supported → Admitted supportTag51 ps.bTimerOut 2 (apduLength ps.ulDataLength) →
    Fits supportTag51 ps.bTimerOut 2 4 19 TxLength (apduLength ps.ulDataLength)

def ModifyFits (supportTag51 : Bool) (TxBuffer : Nat → UInt8) (TxLength : Nat) : Prop :=
  let ps := PIN_MODIFY_STRUCTURE.ofMemory TxBuffer
  25 ≤ TxLength → ps.Supported → Admitted supportTag51 ps.bTimerOut 3 (apduLength ps.ulDataLength) →
    Fits supportTag51 ps.bTimerOut 3 12 24 TxLength (apduLength ps.ulDataLength)

/-- Both translations are sound exactly for the structures whose embedded APDU has been
transmitted and whose command fits into the buffer. -/
theorem translations_sound_iff (supportTag51 : Bool) (TxBuffer : Nat → UInt8) (TxLength : Nat) :
    (Sound 0x18 19 TxLength (Part10VerifyPinDirect supportTag51 TxBuffer TxLength) ↔
        VerifyFits supportTag51 TxBuffer TxLength) ∧
      (Sound 0x19 24 TxLength (Part10ModifyPinDirect supportTag51 TxBuffer TxLength) ↔
        ModifyFits supportTag51 TxBuffer TxLength) := by
  constructor
  · rw [Part10VerifyPinDirect, VerifyFits]
    generalize PIN_VERIFY_STRUCTURE.ofMemory TxBuffer = ps
    by_cases short : TxLength < 20
    · rw [if_pos short]
      exact iff_of_true trivial fun enough => by omega
    · rw [if_neg short, verifyStructToCtapi, if_neg (by decide)]
      have supported := verifyControl_isSome ps
      cases control : verifyControl ps (verifyFormat2 ps).1 with
      | none =>
          rw [control] at supported
          simp only [control]
          exact iff_of_true trivial fun _ support => absurd (supported.mpr support) Bool.false_ne_true
      | some bytes =>
          rw [control] at supported
          have following : DataObject.encodeAll [limitsObject ps.wPINMaxExtraDigit] =
            [0x51, 0x02, nPinLenMin ps.wPINMaxExtraDigit, nPinLenMax ps.wPINMaxExtraDigit] := rfl
          have two : [bytes.1, bytes.2].length ≤ 3 := Nat.le_succ 2
          simp only [control, supported.mp rfl, Nat.le_of_not_lt short, forall_const]
          obtain ⟨low, high⟩ := apduLength_bounds ps.ulDataLength
          exact sound_writeCommand two low high following fun _ => verifyFormat2_snd ps
  · rw [Part10ModifyPinDirect, ModifyFits]
    generalize PIN_MODIFY_STRUCTURE.ofMemory TxBuffer = ps
    by_cases short : TxLength < 25
    · rw [if_pos short]
      exact iff_of_true trivial fun enough => by omega
    · rw [if_neg short, modifyStructToCtapi, if_neg (by decide)]
      have supported := modifyControl_isSome ps
      cases control : modifyControl ps (modifyFormat2 ps).1 with
      | none =>
          rw [control] at supported
          simp only [control]
          exact iff_of_true trivial fun _ support => absurd (supported.mpr support) Bool.false_ne_true
      | some lead =>
          rw [control] at supported
          have three := length_modifyControl control
          have following : DataObject.encodeAll [limitsObject ps.wPINMaxExtraDigit,
              ⟨0x53, [ps.bMsgIndex1, ps.bMsgIndex2, ps.bMsgIndex3], by simp⟩,
              ⟨0x54, [ps.bNumberMessage], by simp⟩] =
            [0x51, 0x02, nPinLenMin ps.wPINMaxExtraDigit, nPinLenMax ps.wPINMaxExtraDigit,
              0x53, 0x03, ps.bMsgIndex1, ps.bMsgIndex2, ps.bMsgIndex3, 0x54, 0x01,
              ps.bNumberMessage] := rfl
          simp only [control, supported.mp rfl, Nat.le_of_not_lt short, forall_const]
          obtain ⟨low, high⟩ := apduLength_bounds ps.ulDataLength
          refine (sound_writeCommand (Nat.le_of_eq three) low high following fun _ =>
            modifyFormat2_snd ps).trans ?_
          rw [three]
          rfl

/-- ASCII, and an embedded APDU of 5 bytes of which one has been transmitted. -/
def shortStructure (index : Nat) : UInt8 :=
  [0x00, 0x00, 0x82, 0x00, 0x00, 0x08, 0x04, 0x02, 0x00, 0x07, 0x04, 0x00, 0x00, 0x00, 0x00,
    0x05, 0x00, 0x00, 0x00, 0x00].getD index 0xff

theorem shortStructure_not_sound : ¬ Sound 0x18 19 20 (Part10VerifyPinDirect false shortStructure 20) := by
  rintro ⟨-, -, inside⟩
  exact absurd inside (by decide)

end Cyberjack.Ifd
