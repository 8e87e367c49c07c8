import Cyberjack.Eca.ModifyBuffer
import Cyberjack.Ppa.I2c

namespace Cyberjack.Ppa

open Cyberjack.Foundation Cyberjack.Eca

/-! # PIN commands of the ppa driver

The commands 20 18 and 20 19 of `ctapiData_inner` up to the calls of
`cjccid_SecurePV` and `cjccid_SecureMV`.
-/

/-- The arguments of both functions; `parameters` holds what the `switch` over the pin format sets. -/
structure SecureArguments where
  Timeout : UInt8
  parameters : PinParameters
  Prologue : List UInt8

inductive PinCommand where
  | answered (sw1 sw2 : UInt8)
  | securePV (arguments : SecureArguments)
  | secureMV (arguments : SecureArguments) (bConfirmPIN OffsetOld OffsetNew : UInt8)

/-- As many bytes as two digits each take. -/
def packed (PinLength : UInt8) : UInt8 := PinLength / 2 + (PinLength &&& 1)

def blank (count : Nat) : List UInt8 := List.replicate count 0xff

/-! ## VERIFY -/

/-- `case 0`, BCD -/
def verifyBcd (PinLength PinPosition : UInt8) (buffer : Nat → UInt8) (taglen : Nat) : Option PinParameters :=
  let behind := taglen - 7 - PinPosition.toNat
  let parameters : PinParameters := {
    PinType := 1
    PinPosition := PinPosition
    PinLengthSize := 0
    PinLengthPosition := 0
    PinLength := PinLength
    Min := if PinLength = 0 then 1 else PinLength
    Max := PinLength
    Condition := if PinLength = 0 then 2 else 1
    buffer := buffer
    outlen := taglen - 2 }
  if taglen = 7 then
    if PinLength = 0 then
      some { parameters with
        PinLength := 8, Max := 15, buffer := stored (stored buffer 5 (blank 8)) 4 [0], outlen := 13 }
    else
      some { parameters with
        PinLength := packed PinLength
        buffer := stored buffer 5 (blank (packed PinLength).toNat)
        outlen := 5 + (packed PinLength).toNat }
  else if PinLength = 0 then
    some { parameters with PinLength := UInt8.ofNat behind, Max := UInt8.ofNat (behind * 2) }
  else if (packed PinLength).toNat + PinPosition.toNat > (buffer 4).toNat then none
  else some parameters

/-- `case 1`, ASCII -/
def verifyAscii (PinLength PinPosition : UInt8) (buffer : Nat → UInt8) (taglen : Nat) : Option PinParameters :=
  let behind := taglen - 7 - PinPosition.toNat
  let parameters : PinParameters := {
    PinType := 2
    PinPosition := PinPosition
    PinLengthSize := 0
    PinLengthPosition := 0
    PinLength := PinLength
    Min := if PinLength = 0 then 1 else PinLength
    Max := PinLength
    Condition := if PinLength = 0 then 2 else 1
    buffer := buffer
    outlen := taglen - 2 }
  if taglen = 7 then
    if PinLength = 0 then some { parameters with PinLength := 15, Max := 15, outlen := 5 }
    else some { parameters with outlen := 5 }
  else if PinLength = 0 then
    some { parameters with PinLength := UInt8.ofNat behind, Max := UInt8.ofNat behind }
  else if PinLength.toNat + PinPosition.toNat > (buffer 4).toNat then none
  else some parameters

/-- `buffer[4]` raised to hold a block at the position. -/
def raised (lc PinPosition : UInt8) : UInt8 :=
  if lc.toNat < PinPosition.toNat + 7 then PinPosition + 7 else lc

/-- The control byte of an FPIN2 block and its filler. -/
def emptyBlock : List UInt8 := 0x2f :: blank 7

/-- What `case 2`, FPIN2, sets in both commands. -/
def format2Parameters (PinLength PinPosition lc : UInt8) (buffer : Nat → UInt8) : Option PinParameters :=
  if PinLength ≠ 0 ∧ (PinLength < 4 ∨ PinLength > 12) then none
  else
    some {
      PinType := 1
      PinPosition := PinPosition
      PinLengthSize := 4
      PinLengthPosition := 4
      PinLength := 7
      Min := if PinLength = 0 then 4 else PinLength
      Max := if PinLength = 0 then 12 else PinLength
      Condition := if PinLength = 0 then 2 else 1
      buffer := buffer
      outlen := lc.toNat + 5 }

/-- `case 2` -/
def verifyFormat2 (PinLength PinPosition : UInt8) (buffer : Nat → UInt8) : Option PinParameters :=
  let PinPosition := PinPosition + 1
  if PinPosition > 240 then none
  else
    let lc := raised (buffer 4) PinPosition
    format2Parameters PinLength PinPosition lc
      (stored (stored buffer 4 [lc]) (4 + PinPosition.toNat) emptyBlock)

/-- The part behind the `switch`. -/
def secureArguments (PCB_seq timeout : UInt8) (parameters : PinParameters) : SecureArguments where
  Timeout := timeout
  parameters := parameters
  Prologue := [0, if PCB_seq &&& 0x01 ≠ 0 then 0x40 else 0, UInt8.ofNat parameters.outlen]

/-- Tag 52: control byte, position, and the template. -/
def verifyTemplate (PCB_seq : UInt8) (stack : Nat → UInt8) (timeout control position : UInt8)
    (apdu : List UInt8) : PinCommand :=
  let PinLength := control >>> 4
  let format := control &&& 3
  if apdu.length < 4 ∨ position ≤ 5 then .answered 0x67 0x00
  else
    let PinPosition := position - 6
    let taglen := if apdu.length = 4 then 7 else apdu.length + 2
    let buffer := stored stack 0 (if apdu.length = 4 then apdu ++ [0] else apdu)
    let go (set : Option PinParameters) : PinCommand :=
      match set with
      | none => .answered 0x67 0x00
      | some parameters => .securePV (secureArguments PCB_seq timeout parameters)
    if apdu.length ≠ 4 ∧ (taglen ≠ (buffer 4).toNat + 7 ∨ PinPosition > buffer 4) then .answered 0x67 0x00
    else if format = 0 then go (verifyBcd PinLength PinPosition buffer taglen)
    else if format = 1 then go (verifyAscii PinLength PinPosition buffer taglen)
    else if format = 2 then go (verifyFormat2 PinLength PinPosition buffer)
    else .answered 0x6A 0x00

/-! ## MODIFY -/

/-- The bytes between the old and the new PIN, or behind the new one. -/
def modifySpan (PinPositionOld PinPositionNew : UInt8) (taglen : Nat) : UInt8 :=
  if PinPositionOld ≠ 0 then
    UInt8.ofNat (taglen - 8) -
      if PinPositionOld < PinPositionNew then PinPositionNew - PinPositionOld
      else PinPositionOld - PinPositionNew
  else UInt8.ofNat (taglen - 8 - PinPositionNew.toNat)

/-- `case 0`, BCD; a fixed length passes one byte more. -/
def ppaModifyBcd (PinLength PinPositionOld PinPositionNew : UInt8) (buffer : Nat → UInt8) (taglen : Nat) :
    Option PinParameters :=
  let span := modifySpan PinPositionOld PinPositionNew taglen
  let parameters : PinParameters := {
    PinType := 1
    PinPosition := 0
    PinLengthSize := 0
    PinLengthPosition := 0
    PinLength := PinLength
    Min := if PinLength = 0 then 1 else PinLength
    Max := PinLength
    Condition := if PinLength = 0 then 2 else 1
    buffer := buffer
    outlen := taglen - 3 }
  if taglen = 8 then
    if PinLength = 0 then
      some { parameters with PinLength := 8, Max := 15, buffer := stored buffer 5 (blank 16), outlen := 21 }
    else
      some { parameters with
        PinLength := packed PinLength
        buffer := stored buffer 5 (blank ((packed PinLength).toNat * 2))
        outlen := 5 + (packed PinLength).toNat * 2 }
  else if PinLength = 0 then some { parameters with PinLength := span, Max := span <<< 1 }
  else if (packed PinLength).toNat + PinPositionOld.toNat > (buffer 4).toNat ∨
      (packed PinLength).toNat + PinPositionNew.toNat > (buffer 4).toNat then none
  else some { parameters with outlen := taglen - 2 }

/-- `case 1`, ASCII -/
def ppaModifyAscii (PinLength PinPositionOld PinPositionNew : UInt8) (buffer : Nat → UInt8) (taglen : Nat) :
    Option PinParameters :=
  let span := modifySpan PinPositionOld PinPositionNew taglen
  let parameters : PinParameters := {
    PinType := 2
    PinPosition := 0
    PinLengthSize := 0
    PinLengthPosition := 0
    PinLength := PinLength
    Min := if PinLength = 0 then 1 else PinLength
    Max := PinLength
    Condition := if PinLength = 0 then 2 else 1
    buffer := buffer
    outlen := taglen - 3 }
  if taglen = 8 then
    if PinLength = 0 then some { parameters with PinLength := 15, Max := 15, outlen := 5 }
    else some { parameters with outlen := 5 }
  else if PinLength = 0 then some { parameters with PinLength := span, Max := span }
  else if PinLength.toNat + PinPositionOld.toNat > (buffer 4).toNat ∨
      PinLength.toNat + PinPositionNew.toNat > (buffer 4).toNat then none
  else some parameters

/-- `case 2`: both positions count from 1, and both blocks are written. -/
def ppaModifyFormat2 (PinLength PinPositionOld PinPositionNew : UInt8) (buffer : Nat → UInt8) :
    Option PinParameters :=
  if PinPositionNew > 240 ∨ PinPositionOld > 240 then none
  else
    let lc := raised (raised (buffer 4) PinPositionOld) PinPositionNew
    format2Parameters PinLength 0 lc
      (stored (stored (stored buffer 4 [lc]) (4 + PinPositionOld.toNat) emptyBlock)
        (4 + PinPositionNew.toNat) emptyBlock)

/-- The position of the old PIN and `bConfirmPIN`. -/
def ppaOldPosition (first second : UInt8) : Option (UInt8 × UInt8) :=
  if first > 5 ∧ first ≠ second then some (first - 6, 3)
  else if second > 5 ∧ first = second then some (0, 0)
  else none

def ppaNewPosition (second : UInt8) : Option UInt8 :=
  if second > 5 then some (second - 6) else if second = 0 then some 0 else none

/-- Tag 52: control byte, the two positions, and the template. -/
def modifyTemplate (PCB_seq : UInt8) (stack : Nat → UInt8) (timeout control first second : UInt8)
    (apdu : List UInt8) : PinCommand :=
  let PinLength := control >>> 4
  let format := control &&& 3
  if apdu.length < 4 then .answered 0x67 0x00
  else
    match ppaOldPosition first second, ppaNewPosition second with
    | some (PinPositionOld, bConfirmPIN), some PinPositionNew =>
        let taglen := if apdu.length = 4 then 8 else apdu.length + 3
        let buffer := stored stack 0 (if apdu.length = 4 then apdu ++ [0] else apdu)
        let go (set : Option PinParameters) (OffsetOld OffsetNew : UInt8) : PinCommand :=
          match set with
          | none => .answered 0x67 0x00
          | some parameters =>
              .secureMV (secureArguments PCB_seq timeout parameters) bConfirmPIN OffsetOld OffsetNew
        if apdu.length ≠ 4 ∧ (taglen ≠ (buffer 4).toNat + 8 ∨ PinPositionOld > buffer 4 ∨
            PinPositionNew > buffer 4) then .answered 0x67 0x00
        else if format = 0 then
          go (ppaModifyBcd PinLength PinPositionOld PinPositionNew buffer taglen) PinPositionOld PinPositionNew
        else if format = 1 then
          go (ppaModifyAscii PinLength PinPositionOld PinPositionNew buffer taglen) PinPositionOld PinPositionNew
        else if format = 2 then
          go (ppaModifyFormat2 PinLength (PinPositionOld + 1) (PinPositionNew + 1) buffer)
            (PinPositionOld + 1) (PinPositionNew + 1)
        else .answered 0x6A 0x00
    | _, _ => .answered 0x67 0x00

/-! ## The commands -/

/-- The value of an object of the command. -/
def tagValue (cmd : Nat → UInt8) (tagvalue : UInt8) : Option (List UInt8) :=
  (GetTag cmd 5 (cmd 4).toNat tagvalue).map fun object => bytesAt cmd object.1 object.2

def shortest : PinInstruction → Nat
  | .verify => 13
  | .modify => 14

/-- `cmd[1]==0x18` and `cmd[1]==0x19`; `stack` is what stands in `buffer`. -/
def ppaPinCommand (instruction : PinInstruction) (PCB_seq : UInt8) (stack cmd : Nat → UInt8) (lenc : Nat) :
    PinCommand :=
  if cmd 2 ≠ 1 ∨ cmd 3 ≠ 0 then .answered 0x6A 0x00
  else if lenc < shortest instruction ∨ lenc ≠ (cmd 4).toNat + 5 then .answered 0x67 0x00
  else
    let tag80 := tagValue cmd 0x80
    if tag80.isSome ∧ onlyByte tag80 = none then .answered 0x67 0x00
    else
      let timeout := (onlyByte tag80).getD 15
      match instruction, tagValue cmd 0x52 with
      | .verify, some (control :: position :: apdu) => verifyTemplate PCB_seq stack timeout control position apdu
      | .modify, some (control :: first :: second :: apdu) =>
          modifyTemplate PCB_seq stack timeout control first second apdu
      | _, _ => .answered 0x67 0x00

/-! ## What is passed on -/

def PinCommand.passed : PinCommand → Option SecureArguments
  | .answered _ _ => none
  | .securePV arguments => some arguments
  | .secureMV arguments _ _ _ => some arguments

/-- The writes of VERIFY. -/
def verifyWrites (control position : UInt8) (apdu : List UInt8) : List BufferWrite :=
  templateWrites apdu ++
    if control &&& 3 = 0 then
      if apdu.length ≤ 5 then
        if control >>> 4 = 0 then [(5, blank 8), (4, [0])] else [(5, blank (packed (control >>> 4)).toNat)]
      else []
    else if control &&& 3 = 1 then []
    else
      (raisedLc (templateLc apdu) (position.toNat + 2)).map (fun length => (4, [UInt8.ofNat length])) ++
        pinBlock (position.toNat - 1)

/-- The writes of MODIFY. -/
def modifyWrites (control Old New : UInt8) (apdu : List UInt8) : List BufferWrite :=
  templateWrites apdu ++
    if control &&& 3 = 0 then
      if apdu.length ≤ 5 then
        [(5, blank (if control >>> 4 = 0 then 16 else (packed (control >>> 4)).toNat * 2))]
      else []
    else if control &&& 3 = 1 then []
    else
      (modificationLengths control Old New apdu).map (fun length => (4, [UInt8.ofNat length])) ++
        (pinBlock (5 + Old.toNat) ++ pinBlock (5 + New.toNat))

/-- Where the PIN that is asked for stands. -/
def verifyPlace (control position : UInt8) (apdu : List UInt8) (index : Nat) : Prop :=
  if control &&& 3 = 2 then position.toNat - 1 ≤ index ∧ index < position.toNat + 7
  else apdu.length ≤ 5 ∧ 5 ≤ index

/-- The old PIN is asked for where the positions differ. -/
def modifyPlace (control first second Old New : UInt8) (apdu : List UInt8) (index : Nat) : Prop :=
  if control &&& 3 = 2 then
    (5 + New.toNat ≤ index ∧ index < 13 + New.toNat) ∨
      (first ≠ second ∧ 5 + Old.toNat ≤ index ∧ index < 13 + Old.toNat)
  else apdu.length ≤ 5 ∧ 5 ≤ index

/-- The template of the command, which is the first `known` bytes of the tag's, is passed on, but for
Lc and the places of the PINs; it is as long as its Lc says, and block size and position fit in four
bits. -/
structure TemplatePassed (known : Nat) (memory : Nat → UInt8) (writes : List BufferWrite) (lengths : List Nat)
    (apdu : List UInt8) (place : Nat → Prop) (parameters : PinParameters) : Prop where
  buffer : BufferPassed 260 known memory writes lengths parameters.buffer parameters.outlen
  template : ∀ index < parameters.outlen, index ≠ 4 → ¬ place index →
    (apdu.take known)[index]? = some (parameters.buffer index)
  length : parameters.outlen = 5 + (parameters.buffer 4).toNat
  blockSize : parameters.PinLength.toNat < 16
  position : parameters.PinPosition.toNat < 16

def VerifyPassed (known : Nat) (memory : Nat → UInt8) (control position : UInt8) (apdu : List UInt8)
    (arguments : SecureArguments) : Prop :=
  TemplatePassed known memory (verifyWrites control position apdu)
    (if control &&& 3 = 2 then raisedLc (templateLc apdu) (position.toNat + 2) else []) apdu
    (verifyPlace control position apdu) arguments.parameters

def ModifyPassed (known : Nat) (memory : Nat → UInt8) (control first second : UInt8) (apdu : List UInt8)
    (arguments : SecureArguments) : Prop :=
  ∃ Old bConfirmPIN New, ppaOldPosition first second = some (Old, bConfirmPIN) ∧
    ppaNewPosition second = some New ∧
    TemplatePassed known memory (modifyWrites control Old New apdu) (modificationLengths control Old New apdu) apdu
      (modifyPlace control first second Old New apdu) arguments.parameters

def VerifyFits (known : Nat) (control position : UInt8) (apdu : List UInt8) : Prop :=
  if control &&& 3 = 2 then
    position.toNat ≤ 20 ∧
      ∀ index < max (templateLc apdu) (position.toNat + 2) + 5,
        index < min apdu.length known ∨ (index = 4 ∧ templateLc apdu < position.toNat + 2) ∨
          (position.toNat - 1 ≤ index ∧ index < position.toNat + 7)
  else
    position.toNat ≤ 21 ∧ (control &&& 3 = 0 → 5 < apdu.length) ∧
      (5 < apdu.length → control >>> 4 = 0 → templateLc apdu - (position.toNat - 6) ≤ 15) ∧ apdu.length ≤ known

/-- What MODIFY leaves for a PIN of any length. -/
def spanOf (Old New : UInt8) (lc : Nat) : Nat :=
  if Old ≠ 0 then lc - (max Old.toNat New.toNat - min Old.toNat New.toNat) else lc - New.toNat

/-- With format 2 every byte up to Lc stands in the template of the command or in the block of a PIN
that is asked for, or is the Lc that was raised. -/
def BlocksFit (known : Nat) (first second Old New : UInt8) (apdu : List UInt8) : Prop :=
  ∀ index < max (templateLc apdu) (max (Old.toNat + 8) (New.toNat + 8)) + 5,
    index < min apdu.length known ∨ (index = 4 ∧ templateLc apdu < max (Old.toNat + 8) (New.toNat + 8)) ∨
      (5 + New.toNat ≤ index ∧ index < 13 + New.toNat) ∨
      (first ≠ second ∧ 5 + Old.toNat ≤ index ∧ index < 13 + Old.toNat)

def ModifyFits (known : Nat) (control first second : UInt8) (apdu : List UInt8) : Prop :=
  ∀ Old bConfirmPIN New, ppaOldPosition first second = some (Old, bConfirmPIN) → ppaNewPosition second = some New →
    if control &&& 3 = 2 then
      BlocksFit known first second Old New apdu ∧
        (first = second → ∀ index, 5 ≤ index → index < 13 → index < 5 + New.toNat →
          apdu[index]? = some (emptyBlock.getD (index - 5) 0))
    else if control &&& 3 = 0 then
      5 < apdu.length ∧ control >>> 4 = 0 ∧ spanOf Old New (templateLc apdu) ≤ 15 ∧ apdu.length ≤ known
    else (5 < apdu.length → control >>> 4 = 0 → spanOf Old New (templateLc apdu) ≤ 15) ∧ apdu.length ≤ known

/-! ## Templates that are passed on as they are -/

variable {known : Nat} {PCB_seq timeout control position first second Old New : UInt8} {apdu : List UInt8}
  {memory : Nat → UInt8} {parameters : PinParameters} {arguments : SecureArguments}

/-- The template in the buffer. -/
def templateBuffer (memory : Nat → UInt8) (apdu : List UInt8) : Nat → UInt8 :=
  stored memory 0 (if apdu.length = 4 then apdu ++ [0] else apdu)

/-- A template that the handlers accept: a header, or as long as its Lc says. -/
structure TemplateAccepted (apdu : List UInt8) : Prop where
  long : 4 ≤ apdu.length
  short : apdu.length ≤ 253
  counted : apdu.length ≠ 4 → apdu.length = templateLc apdu + 5

theorem TemplateAccepted.length_le (accepted : TemplateAccepted apdu) : 5 + templateLc apdu ≤ max apdu.length 5 := by
  by_cases four : apdu.length = 4
  · have empty := templateLc_four four
    omega
  · have counted := accepted.counted four
    omega

theorem template_eq {index : Nat} (inside : index < min apdu.length known) :
    (apdu.take known)[index]? = some (templateBuffer memory apdu index) := by
  have within : index < apdu.length := by omega
  rw [List.getElem?_take_of_lt (by omega), templateBuffer, stored, if_pos (Nat.zero_le _), Nat.sub_zero]
  split
  · rw [List.getD_append _ _ _ _ within, List.getD_eq_getElem _ _ within, List.getElem?_eq_getElem within]
  · rw [List.getD_eq_getElem _ _ within, List.getElem?_eq_getElem within]

theorem initialisedAt_plain {index : Nat} : InitialisedAt (knownWrites known (templateWrites apdu)) index ↔
    index < min apdu.length known ∨ (apdu.length = 4 ∧ index = 4) := by
  have filled := @initialisedAt_known known apdu index []
  rw [List.append_nil] at filled
  simpa using filled

/-- Of a template that is passed on as it is, its place in the command, block size and position
decide. -/
theorem plain_passed_iff (accepted : TemplateAccepted apdu) {place : Nat → Prop}
    (out : parameters.buffer = templateBuffer memory apdu) (outlen : parameters.outlen = 5 + templateLc apdu) :
    TemplatePassed known memory (templateWrites apdu) [] apdu place parameters ↔
      parameters.PinLength.toNat < 16 ∧ parameters.PinPosition.toNat < 16 ∧ apdu.length ≤ known := by
  have long := accepted.long
  have short := accepted.short
  have length := accepted.length_le
  have counted := accepted.counted
  constructor
  · intro passed
    have filled := passed.buffer.initialised
    simp only [outlen, initialisedAt_plain] at filled
    have third := filled 3 (by omega)
    have last := filled (apdu.length - 1)
    exact ⟨passed.blockSize, passed.position, by omega⟩
  · intro fits
    refine ⟨⟨?_, ?_, by omega, ?_, fun length member => by contradiction⟩, ?_, ?_, fits.1, fits.2.1⟩
    · rw [out]
      exact (applied_template memory apdu).symm
    · intro write member
      exact inside_template long (by omega) member
    · intro index below
      rw [initialisedAt_plain]
      omega
    · intro index below behind _
      rw [out]
      exact template_eq (by omega)
    · rw [out, outlen]
      exact congrArg (5 + ·) (lc_template memory long).symm

theorem not_passed_of_length {writes : List BufferWrite} {lengths : List Nat} {place : Nat → Prop}
    (length : parameters.outlen ≠ 5 + (parameters.buffer 4).toNat) :
    ¬ TemplatePassed known memory writes lengths apdu place parameters :=
  fun passed => length passed.length

theorem nibble_lt : ∀ control : UInt8, (control >>> 4).toNat < 16 := by
  decide

theorem packed_nibble : ∀ control : UInt8, control >>> 4 ≠ 0 →
    0 < (packed (control >>> 4)).toNat ∧ (packed (control >>> 4)).toNat ≤ 8 := by
  decide

theorem toNat_behind {behind : Nat} (small : behind < 256) : (UInt8.ofNat behind).toNat = behind := by
  rw [UInt8.toNat_ofNat', Nat.mod_eq_of_lt small]

/-- VERIFY behind its checks of the template. -/
structure VerifyAccepted (position : UInt8) (apdu : List UInt8) : Prop where
  template : TemplateAccepted apdu
  low : 6 ≤ position.toNat
  high : apdu.length ≠ 4 → position.toNat ≤ templateLc apdu + 6

theorem taglen_verify (accepted : TemplateAccepted apdu) (some : 5 < apdu.length) :
    (if apdu.length = 4 then 7 else apdu.length + 2) = templateLc apdu + 7 := by
  have counted := accepted.counted (by omega)
  rw [if_neg (by omega)]
  omega

theorem templateLc_header (accepted : TemplateAccepted apdu) (header : apdu.length ≤ 5) : templateLc apdu = 0 := by
  by_cases four : apdu.length = 4
  · exact templateLc_four four
  · have counted := accepted.counted four
    omega

theorem lc_blank (memory : Nat → UInt8) (accepted : TemplateAccepted apdu) (header : apdu.length ≤ 5) (count : Nat) :
    (stored (templateBuffer memory apdu) 5 (blank count) 4).toNat = 0 :=
  (lc_template memory accepted.long).trans (templateLc_header accepted header)

/-- The two ways a template with data is passed on. -/
theorem set_cases {free far : Prop} [Decidable free] [Decidable far] {whole fixed : PinParameters}
    (set : (if free then some whole else if far then none else some fixed) = some parameters) :
    (free ∧ whole = parameters) ∨ (¬ free ∧ fixed = parameters) := by
  split at set
  · case isTrue any => exact .inl ⟨any, Option.some.inj set⟩
  · case isFalse given =>
      split at set
      · contradiction
      · exact .inr ⟨given, Option.some.inj set⟩

theorem verifyPlain_iff (accepted : VerifyAccepted position apdu) (data : 5 < apdu.length) {place : Nat → Prop}
    (out : parameters.buffer = templateBuffer memory apdu) (outlen : parameters.outlen = templateLc apdu + 7 - 2)
    (placed : parameters.PinPosition = position - 6)
    (size : parameters.PinLength = if control >>> 4 = 0 then
      UInt8.ofNat (templateLc apdu + 7 - 7 - (position - 6).toNat) else control >>> 4) :
    TemplatePassed known memory (templateWrites apdu) [] apdu place parameters ↔
      position.toNat ≤ 21 ∧ (control >>> 4 = 0 → templateLc apdu - (position.toNat - 6) ≤ 15) ∧
        apdu.length ≤ known := by
  have low := accepted.low
  have high := accepted.high (by omega)
  have byte := templateLc_lt apdu
  have behind := @toNat_behind (templateLc apdu + 7 - 7 - (position - 6).toNat) (by omega)
  rw [toNat_position low] at behind
  rw [plain_passed_iff accepted.template out (by omega), placed, size, toNat_position low]
  by_cases free : control >>> 4 = 0
  · rw [if_pos free, behind]
    constructor
    · intro fits
      exact ⟨by omega, fun _ => by omega, fits.2.2⟩
    · intro fits
      have span := fits.2.1 free
      omega
  · have nibble := nibble_lt control
    rw [if_neg free]
    constructor
    · intro fits
      exact ⟨by omega, fun zero => absurd zero free, fits.2.2⟩
    · intro fits
      exact ⟨nibble, by omega, fits.2.2⟩

theorem verifyBcd_passed_iff (accepted : VerifyAccepted position apdu) (format : control &&& 3 = 0)
    (set : verifyBcd (control >>> 4) (position - 6) (templateBuffer memory apdu)
      (if apdu.length = 4 then 7 else apdu.length + 2) = some parameters) :
    TemplatePassed known memory (verifyWrites control position apdu)
        (if control &&& 3 = 2 then raisedLc (templateLc apdu) (position.toNat + 2) else []) apdu
        (verifyPlace control position apdu) parameters ↔ VerifyFits known control position apdu := by
  have other : control &&& 3 ≠ 2 := by
    rw [format]
    decide
  have long := accepted.template.long
  have place := toNat_position accepted.low
  have byte := position.toNat_lt
  rw [if_neg other, VerifyFits, if_neg other]
  by_cases header : apdu.length ≤ 5
  · refine iff_of_false ?_ fun fits => by
      have data := fits.2.1 format
      omega
    rw [verifyBcd, if_pos ((taglen_short long).mpr header)] at set
    apply not_passed_of_length
    by_cases free : control >>> 4 = 0
    · rw [if_pos free, Option.some.injEq] at set
      rw [← set]
      exact (by decide : 13 ≠ 5 + (0 : UInt8).toNat)
    · rw [if_neg free, Option.some.injEq] at set
      have size := (packed_nibble control free).1
      have lc := lc_blank memory accepted.template header (packed (control >>> 4)).toNat
      rw [← set]
      change 5 + _ ≠ 5 + (stored (templateBuffer memory apdu) 5 (blank (packed (control >>> 4)).toNat) 4).toNat
      omega
  · have data : 5 < apdu.length := Nat.not_le.mp header
    have high := accepted.high (by omega)
    have writes : verifyWrites control position apdu = templateWrites apdu := by
      rw [verifyWrites, if_pos format, if_neg header, List.append_nil]
    rw [verifyBcd, if_neg (fun same => header ((taglen_short long).mp same))] at set
    simp only [taglen_verify accepted.template data] at set
    have plain : TemplatePassed known memory (templateWrites apdu) [] apdu (verifyPlace control position apdu)
          parameters ↔
        position.toNat ≤ 21 ∧ (control >>> 4 = 0 → templateLc apdu - (position.toNat - 6) ≤ 15) ∧
          apdu.length ≤ known := by
      rcases set_cases set with ⟨free, rfl⟩ | ⟨fixed, rfl⟩
      · exact verifyPlain_iff accepted data rfl rfl rfl (if_pos free).symm
      · exact verifyPlain_iff accepted data rfl rfl rfl (if_neg fixed).symm
    rw [writes, plain]
    constructor
    · intro fits
      exact ⟨fits.1, fun _ => data, fun _ => fits.2.1, fits.2.2⟩
    · intro fits
      exact ⟨fits.1, fits.2.2.1 data, fits.2.2.2⟩

theorem verifyAscii_passed_iff (accepted : VerifyAccepted position apdu) (format : control &&& 3 = 1)
    (set : verifyAscii (control >>> 4) (position - 6) (templateBuffer memory apdu)
      (if apdu.length = 4 then 7 else apdu.length + 2) = some parameters) :
    TemplatePassed known memory (verifyWrites control position apdu)
        (if control &&& 3 = 2 then raisedLc (templateLc apdu) (position.toNat + 2) else []) apdu
        (verifyPlace control position apdu) parameters ↔ VerifyFits known control position apdu := by
  have other : control &&& 3 ≠ 2 := by
    rw [format]
    decide
  have notBcd : control &&& 3 ≠ 0 := by
    rw [format]
    decide
  have long := accepted.template.long
  have place := toNat_position accepted.low
  have byte := position.toNat_lt
  have size := nibble_lt control
  have writes : verifyWrites control position apdu = templateWrites apdu := by
    rw [verifyWrites, if_neg notBcd, if_pos format, List.append_nil]
  rw [if_neg other, VerifyFits, if_neg other, writes]
  by_cases header : apdu.length ≤ 5
  · have empty := templateLc_header accepted.template header
    have outlen : 5 = 5 + templateLc apdu := by omega
    rw [verifyAscii, if_pos ((taglen_short long).mpr header)] at set
    have noData : (5 < apdu.length → control >>> 4 = 0 → templateLc apdu - (position.toNat - 6) ≤ 15) :=
      fun data => absurd header (by omega)
    obtain ⟨out, length, placed, small⟩ : parameters.buffer = templateBuffer memory apdu ∧ parameters.outlen = 5 ∧
        parameters.PinPosition = position - 6 ∧ parameters.PinLength.toNat < 16 := by
      split at set
      · cases set
        exact ⟨rfl, rfl, rfl, (by decide : (15 : UInt8).toNat < 16)⟩
      · cases set
        exact ⟨rfl, rfl, rfl, size⟩
    rw [plain_passed_iff accepted.template out (length.trans outlen), placed, place]
    constructor
    · intro fits
      exact ⟨by omega, fun bcd => absurd bcd notBcd, noData, fits.2.2⟩
    · intro fits
      exact ⟨small, by omega, fits.2.2.2⟩
  · have data : 5 < apdu.length := Nat.not_le.mp header
    rw [verifyAscii, if_neg (fun same => header ((taglen_short long).mp same))] at set
    simp only [taglen_verify accepted.template data] at set
    have plain : TemplatePassed known memory (templateWrites apdu) [] apdu (verifyPlace control position apdu)
          parameters ↔
        position.toNat ≤ 21 ∧ (control >>> 4 = 0 → templateLc apdu - (position.toNat - 6) ≤ 15) ∧
          apdu.length ≤ known := by
      rcases set_cases set with ⟨free, rfl⟩ | ⟨fixed, rfl⟩
      · exact verifyPlain_iff accepted data rfl rfl rfl (if_pos free).symm
      · exact verifyPlain_iff accepted data rfl rfl rfl (if_neg fixed).symm
    rw [plain]
    constructor
    · intro fits
      exact ⟨fits.1, fun bcd => absurd bcd notBcd, fun _ => fits.2.1, fits.2.2⟩
    · intro fits
      exact ⟨fits.1, fits.2.2.1 data, fits.2.2.2⟩

/-! ## FPIN2 blocks -/

theorem format2Parameters_fields {PinLength PinPosition lc : UInt8} {buffer : Nat → UInt8}
    (set : format2Parameters PinLength PinPosition lc buffer = some parameters) :
    parameters.PinPosition = PinPosition ∧ parameters.PinLength = 7 ∧ parameters.buffer = buffer ∧
      parameters.outlen = lc.toNat + 5 := by
  rw [format2Parameters] at set
  split at set
  · contradiction
  · rw [Option.some.injEq] at set
    rw [← set]
    exact ⟨rfl, rfl, rfl, rfl⟩

theorem verifyFormat2_fields {PinLength PinPosition : UInt8} {buffer : Nat → UInt8}
    (set : verifyFormat2 PinLength PinPosition buffer = some parameters) :
    (PinPosition + 1).toNat ≤ 240 ∧ parameters.PinPosition = PinPosition + 1 ∧ parameters.PinLength = 7 ∧
      parameters.buffer = stored (stored buffer 4
        [UInt8.ofNat (keptLc (buffer 4).toNat ((PinPosition + 1).toNat + 7))]) (4 + (PinPosition + 1).toNat)
          emptyBlock ∧
      parameters.outlen = keptLc (buffer 4).toNat ((PinPosition + 1).toNat + 7) + 5 := by
  have lc : raised (buffer 4) (PinPosition + 1) = _ := ofNat_keptLc (buffer 4) (PinPosition + 1) 7
  simp only [verifyFormat2] at set
  split at set
  · contradiction
  · rename_i near
    obtain ⟨place, length, out, outlen⟩ := format2Parameters_fields set
    refine ⟨UInt8.le_iff_toNat_le.mp (UInt8.not_lt.mp near), place, length, ?_, ?_⟩
    · rw [out, lc]
    · rw [outlen, lc, UInt8.toNat_ofNat', Nat.mod_eq_of_lt (keptLc_lt (UInt8.toNat_lt _))]

theorem verifyFormat2_passed_iff (accepted : VerifyAccepted position apdu) (format : control &&& 3 = 2)
    (set : verifyFormat2 (control >>> 4) (position - 6) (templateBuffer memory apdu) = some parameters) :
    TemplatePassed known memory (verifyWrites control position apdu)
        (if control &&& 3 = 2 then raisedLc (templateLc apdu) (position.toNat + 2) else []) apdu
        (verifyPlace control position apdu) parameters ↔ VerifyFits known control position apdu := by
  have long := accepted.template.long
  have short := accepted.template.short
  have low := accepted.low
  have place := toNat_position low
  obtain ⟨near, placed, blockSize, out, outlen⟩ := verifyFormat2_fields set
  have block : (position - 6 + 1).toNat = position.toNat - 5 := by
    have byte := position.toNat_lt
    rw [UInt8.toNat_add, place]
    change (position.toNat - 6 + 1) % 256 = position.toNat - 5
    omega
  have raise : (position - 6 + 1).toNat + 7 = position.toNat + 2 := by omega
  have start : 4 + (position - 6 + 1).toNat = position.toNat - 1 := by omega
  have lc : (templateBuffer memory apdu 4).toNat = templateLc apdu := lc_template memory long
  have small : keptLc (templateLc apdu) (position.toNat + 2) < 256 := keptLc_lt (templateLc_lt apdu)
  rw [raise, start, lc] at out
  rw [raise, lc] at outlen
  rw [block] at near
  have writes : verifyWrites control position apdu = templateWrites apdu ++
      ((raisedLc (templateLc apdu) (position.toNat + 2)).map (fun length => (4, [UInt8.ofNat length])) ++
        pinBlock (position.toNat - 1)) := by
    rw [verifyWrites, format]
    rfl
  have kept : keptLc (templateLc apdu) (position.toNat + 2) = max (templateLc apdu) (position.toNat + 2) :=
    keptLc_eq_max (by omega)
  have isPlace (index : Nat) : verifyPlace control position apdu index ↔
      position.toNat - 1 ≤ index ∧ index < position.toNat + 7 := by
    rw [verifyPlace, if_pos format]
  have initialised (index : Nat) : InitialisedAt (knownWrites known (verifyWrites control position apdu)) index ↔
      index < min apdu.length known ∨ (index = 4 ∧ templateLc apdu < position.toNat + 2) ∨
        (position.toNat - 1 ≤ index ∧ index < position.toNat + 7) := by
    have empty := @templateLc_four apdu
    rw [writes, initialisedAt_known, initialisedAt_append, initialisedAt_raised, initialisedAt_pinBlock]
    omega
  rw [if_pos format, VerifyFits, if_pos format]
  constructor
  · intro passed
    have nibble := passed.position
    rw [placed, block] at nibble
    refine ⟨by omega, fun index below => ?_⟩
    rw [← initialised]
    exact passed.buffer.initialised index (by omega)
  · intro fits
    refine ⟨⟨?_, ?_, by omega, ?_, ?_⟩, ?_, ?_, ?_, ?_⟩
    · rw [out, writes, applied_append, applied_append, applied_template, applied_pinBlock,
        applied_raised _ (lc_template _ long)]
      rfl
    · intro write member
      rw [writes] at member
      rcases List.mem_append.mp member with template | later
      · exact inside_template long (by omega) template
      · rcases List.mem_append.mp later with raised | written
        · exact inside_raised raised
        · exact inside_pinBlock.mpr (by omega) write written
    · intro index below
      rw [initialised]
      exact fits.2 index (by omega)
    · intro length member
      rw [raisedLc] at member
      split at member
      · rw [List.mem_singleton.mp member]
        omega
      · contradiction
    · intro index below behind outside
      rw [isPlace] at outside
      have stands := fits.2 index (by omega)
      rw [out, stored_outside _ (by change _ ∨ _ + 8 ≤ _; omega), stored_outside _ (by change _ ∨ 4 + 1 ≤ _; omega)]
      exact template_eq (by omega)
    · rw [out, stored_outside _ (by omega), stored_lc _ small]
      omega
    · rw [blockSize]
      decide
    · rw [placed, block]
      omega

/-! ## MODIFY behind its checks -/

structure ModifyAccepted (first second Old bConfirmPIN New : UInt8) (apdu : List UInt8) : Prop where
  template : TemplateAccepted apdu
  old : ppaOldPosition first second = some (Old, bConfirmPIN)
  new : ppaNewPosition second = some New
  near : apdu.length ≠ 4 → Old.toNat ≤ templateLc apdu ∧ New.toNat ≤ templateLc apdu

theorem modifyFits_iff {bConfirmPIN : UInt8} (accepted : ModifyAccepted first second Old bConfirmPIN New apdu) :
    ModifyFits known control first second apdu ↔
      if control &&& 3 = 2 then
        BlocksFit known first second Old New apdu ∧
          (first = second → ∀ index, 5 ≤ index → index < 13 → index < 5 + New.toNat →
            apdu[index]? = some (emptyBlock.getD (index - 5) 0))
      else if control &&& 3 = 0 then
        5 < apdu.length ∧ control >>> 4 = 0 ∧ spanOf Old New (templateLc apdu) ≤ 15 ∧ apdu.length ≤ known
      else (5 < apdu.length → control >>> 4 = 0 → spanOf Old New (templateLc apdu) ≤ 15) ∧ apdu.length ≤ known := by
  constructor
  · intro fits
    exact fits Old bConfirmPIN New accepted.old accepted.new
  · intro fits Old' bConfirmPIN' New' old new
    have same := accepted.old.symm.trans old
    rw [Option.some.injEq, Prod.mk.injEq] at same
    have sameNew := accepted.new.symm.trans new
    rw [Option.some.injEq] at sameNew
    rw [← same.1, ← sameNew]
    exact fits

theorem modifyPassed_iff {bConfirmPIN : UInt8} (accepted : ModifyAccepted first second Old bConfirmPIN New apdu) :
    ModifyPassed known memory control first second apdu arguments ↔
      TemplatePassed known memory (modifyWrites control Old New apdu) (modificationLengths control Old New apdu) apdu
        (modifyPlace control first second Old New apdu) arguments.parameters := by
  constructor
  · intro passed
    obtain ⟨Old', bConfirmPIN', New', old, new, passed⟩ := passed
    have same := accepted.old.symm.trans old
    rw [Option.some.injEq, Prod.mk.injEq] at same
    have sameNew := accepted.new.symm.trans new
    rw [Option.some.injEq] at sameNew
    rw [same.1, sameNew]
    exact passed
  · intro passed
    exact ⟨Old, bConfirmPIN, New, accepted.old, accepted.new, passed⟩

theorem taglen_modify_short (long : 4 ≤ apdu.length) :
    (if apdu.length = 4 then 8 else apdu.length + 3) = 8 ↔ apdu.length ≤ 5 := by
  split <;> omega

theorem taglen_modify (accepted : TemplateAccepted apdu) (some : 5 < apdu.length) :
    (if apdu.length = 4 then 8 else apdu.length + 3) = templateLc apdu + 8 := by
  have counted := accepted.counted (by omega)
  rw [if_neg (by omega)]
  omega

theorem toNat_modifySpan {lc : Nat} (small : lc < 256) (old : Old.toNat ≤ lc) (new : New.toNat ≤ lc) :
    (modifySpan Old New (lc + 8)).toNat = spanOf Old New lc := by
  rw [modifySpan, spanOf]
  have all : (UInt8.ofNat (lc + 8 - 8)).toNat = lc := toNat_behind (by omega)
  by_cases given : Old ≠ 0
  · rw [if_pos given, if_pos given]
    by_cases before : Old < New
    · have less := UInt8.lt_iff_toNat_lt.mp before
      have distance : (New - Old).toNat = New.toNat - Old.toNat :=
        UInt8.toNat_sub_of_le _ _ (UInt8.le_of_lt before)
      rw [if_pos before, UInt8.toNat_sub_of_le, all, distance]
      · omega
      · rw [UInt8.le_iff_toNat_le, all, distance]
        omega
    · have more := UInt8.le_iff_toNat_le.mp (UInt8.not_lt.mp before)
      have distance : (Old - New).toNat = Old.toNat - New.toNat :=
        UInt8.toNat_sub_of_le _ _ (UInt8.not_lt.mp before)
      rw [if_neg before, UInt8.toNat_sub_of_le, all, distance]
      · omega
      · rw [UInt8.le_iff_toNat_le, all, distance]
        omega
  · rw [if_neg given, if_neg given, toNat_behind (by omega)]
    omega

theorem modifyBcd_passed_iff {bConfirmPIN : UInt8}
    (accepted : ModifyAccepted first second Old bConfirmPIN New apdu) (format : control &&& 3 = 0)
    (set : ppaModifyBcd (control >>> 4) Old New (templateBuffer memory apdu)
      (if apdu.length = 4 then 8 else apdu.length + 3) = some parameters) :
    TemplatePassed known memory (modifyWrites control Old New apdu) (modificationLengths control Old New apdu) apdu
        (modifyPlace control first second Old New apdu) parameters ↔ ModifyFits known control first second apdu := by
  have other : control &&& 3 ≠ 2 := by
    rw [format]
    decide
  have long := accepted.template.long
  rw [modifyFits_iff accepted, if_neg other, if_pos format]
  by_cases header : apdu.length ≤ 5
  · refine iff_of_false ?_ fun fits => by omega
    rw [ppaModifyBcd, if_pos ((taglen_modify_short long).mpr header)] at set
    apply not_passed_of_length
    by_cases free : control >>> 4 = 0
    · rw [if_pos free, Option.some.injEq] at set
      have lc := lc_blank memory accepted.template header 16
      rw [← set]
      change 21 ≠ 5 + (stored (templateBuffer memory apdu) 5 (blank 16) 4).toNat
      omega
    · rw [if_neg free, Option.some.injEq] at set
      have size := (packed_nibble control free).1
      have lc := lc_blank memory accepted.template header ((packed (control >>> 4)).toNat * 2)
      rw [← set]
      change 5 + _ ≠ 5 + (stored (templateBuffer memory apdu) 5 (blank ((packed (control >>> 4)).toNat * 2)) 4).toNat
      omega
  · have data : 5 < apdu.length := Nat.not_le.mp header
    have near := accepted.near (by omega)
    have counted := accepted.template.counted (by omega)
    have short := accepted.template.short
    rw [ppaModifyBcd, if_neg (fun same => header ((taglen_modify_short long).mp same))] at set
    simp only [taglen_modify accepted.template data] at set
    rcases set_cases set with ⟨free, rfl⟩ | ⟨fixed, rfl⟩
    · have writes : modifyWrites control Old New apdu = templateWrites apdu := by
        rw [modifyWrites, if_pos format, if_neg header, List.append_nil]
      have lengths : modificationLengths control Old New apdu = [] := if_neg other
      have outlen : templateLc apdu + 8 - 3 = 5 + templateLc apdu := by omega
      have span := toNat_modifySpan (templateLc_lt apdu) near.1 near.2
      rw [writes, lengths, plain_passed_iff accepted.template rfl outlen]
      change (modifySpan Old New (templateLc apdu + 8)).toNat < 16 ∧ (0 : UInt8).toNat < 16 ∧ _ ↔ _
      rw [span]
      constructor
      · intro fits
        exact ⟨data, free, by omega, fits.2.2⟩
      · intro fits
        exact ⟨by omega, by decide, fits.2.2.2⟩
    · refine iff_of_false ?_ fun fits => fixed fits.2.1
      have lc : (templateBuffer memory apdu 4).toNat = templateLc apdu := lc_template memory long
      apply not_passed_of_length
      change templateLc apdu + 8 - 2 ≠ 5 + (templateBuffer memory apdu 4).toNat
      omega

theorem modifyAscii_passed_iff {bConfirmPIN : UInt8}
    (accepted : ModifyAccepted first second Old bConfirmPIN New apdu) (format : control &&& 3 = 1)
    (set : ppaModifyAscii (control >>> 4) Old New (templateBuffer memory apdu)
      (if apdu.length = 4 then 8 else apdu.length + 3) = some parameters) :
    TemplatePassed known memory (modifyWrites control Old New apdu) (modificationLengths control Old New apdu) apdu
        (modifyPlace control first second Old New apdu) parameters ↔ ModifyFits known control first second apdu := by
  have other : control &&& 3 ≠ 2 := by
    rw [format]
    decide
  have notBcd : control &&& 3 ≠ 0 := by
    rw [format]
    decide
  have long := accepted.template.long
  have size := nibble_lt control
  have writes : modifyWrites control Old New apdu = templateWrites apdu := by
    rw [modifyWrites, if_neg notBcd, if_pos format, List.append_nil]
  have lengths : modificationLengths control Old New apdu = [] := if_neg other
  rw [modifyFits_iff accepted, if_neg other, if_neg notBcd, writes, lengths]
  by_cases header : apdu.length ≤ 5
  · have empty := templateLc_header accepted.template header
    have outlen : 5 = 5 + templateLc apdu := by omega
    rw [ppaModifyAscii, if_pos ((taglen_modify_short long).mpr header)] at set
    obtain ⟨out, length, placed, small⟩ : parameters.buffer = templateBuffer memory apdu ∧ parameters.outlen = 5 ∧
        parameters.PinPosition = 0 ∧ parameters.PinLength.toNat < 16 := by
      split at set
      · cases set
        exact ⟨rfl, rfl, rfl, (by decide : (15 : UInt8).toNat < 16)⟩
      · cases set
        exact ⟨rfl, rfl, rfl, size⟩
    rw [plain_passed_iff accepted.template out (length.trans outlen), placed]
    constructor
    · intro fits
      exact ⟨fun data => absurd header (by omega), fits.2.2⟩
    · intro fits
      exact ⟨small, by decide, fits.2⟩
  · have data : 5 < apdu.length := Nat.not_le.mp header
    have near := accepted.near (by omega)
    have outlen : templateLc apdu + 8 - 3 = 5 + templateLc apdu := by omega
    rw [ppaModifyAscii, if_neg (fun same => header ((taglen_modify_short long).mp same))] at set
    simp only [taglen_modify accepted.template data] at set
    have span := toNat_modifySpan (templateLc_lt apdu) near.1 near.2
    rcases set_cases set with ⟨free, rfl⟩ | ⟨fixed, rfl⟩
    · rw [plain_passed_iff accepted.template rfl outlen]
      change (modifySpan Old New (templateLc apdu + 8)).toNat < 16 ∧ (0 : UInt8).toNat < 16 ∧ _ ↔ _
      rw [span]
      constructor
      · intro fits
        exact ⟨fun _ _ => by omega, fits.2.2⟩
      · intro fits
        have short := fits.1 data free
        exact ⟨by omega, by decide, fits.2⟩
    · rw [plain_passed_iff accepted.template rfl outlen]
      constructor
      · intro fits
        exact ⟨fun _ zero => absurd zero fixed, fits.2.2⟩
      · intro fits
        exact ⟨size, (by decide : (0 : UInt8).toNat < 16), fits.2⟩

theorem succ_toNat {place : UInt8} (small : place.toNat ≤ 249) : (place + 1).toNat = place.toNat + 1 := by
  rw [UInt8.toNat_add]
  change (place.toNat + 1) % 256 = place.toNat + 1
  omega

theorem position_le {position : UInt8} (above : position > 5) : (position - 6).toNat ≤ 249 := by
  have byte := position.toNat_lt
  rw [toNat_position (UInt8.lt_iff_toNat_lt.mp above)]
  omega

theorem ModifyAccepted.old_le {bConfirmPIN : UInt8}
    (accepted : ModifyAccepted first second Old bConfirmPIN New apdu) : Old.toNat ≤ 249 := by
  have old := accepted.old
  rw [ppaOldPosition] at old
  split at old
  · rename_i given
    rw [Option.some.injEq, Prod.mk.injEq] at old
    rw [← old.1]
    exact position_le given.1
  · split at old
    · rw [Option.some.injEq, Prod.mk.injEq] at old
      rw [← old.1]
      decide
    · contradiction

theorem ModifyAccepted.new_le {bConfirmPIN : UInt8}
    (accepted : ModifyAccepted first second Old bConfirmPIN New apdu) : New.toNat ≤ 249 := by
  have new := accepted.new
  rw [ppaNewPosition] at new
  split at new
  · rename_i above
    rw [Option.some.injEq] at new
    rw [← new]
    exact position_le above
  · split at new
    · rw [Option.some.injEq] at new
      rw [← new]
      decide
    · contradiction

theorem modifyFormat2_fields {PinLength PinPositionOld PinPositionNew : UInt8} {buffer : Nat → UInt8}
    (set : ppaModifyFormat2 PinLength PinPositionOld PinPositionNew buffer = some parameters) :
    PinPositionOld.toNat ≤ 240 ∧ PinPositionNew.toNat ≤ 240 ∧
      parameters.PinPosition = 0 ∧ parameters.PinLength = 7 ∧
      parameters.buffer = stored (stored (stored buffer 4
        [UInt8.ofNat (keptLc (keptLc (buffer 4).toNat (PinPositionOld.toNat + 7)) (PinPositionNew.toNat + 7))])
          (4 + PinPositionOld.toNat) emptyBlock) (4 + PinPositionNew.toNat) emptyBlock ∧
      parameters.outlen = keptLc (keptLc (buffer 4).toNat (PinPositionOld.toNat + 7)) (PinPositionNew.toNat + 7) + 5 := by
  have old : raised (buffer 4) PinPositionOld = _ := ofNat_keptLc (buffer 4) PinPositionOld 7
  have small : keptLc (buffer 4).toNat (PinPositionOld.toNat + 7) < 256 := keptLc_lt (UInt8.toNat_lt _)
  have number := congrArg UInt8.toNat old
  rw [UInt8.toNat_ofNat', Nat.mod_eq_of_lt small] at number
  have new : raised (raised (buffer 4) PinPositionOld) PinPositionNew = _ :=
    ofNat_keptLc (raised (buffer 4) PinPositionOld) PinPositionNew 7
  rw [number] at new
  simp only [ppaModifyFormat2] at set
  split at set
  · contradiction
  · rename_i near
    have fine := not_or.mp near
    obtain ⟨place, length, out, outlen⟩ := format2Parameters_fields set
    refine ⟨UInt8.le_iff_toNat_le.mp (UInt8.not_lt.mp fine.2), UInt8.le_iff_toNat_le.mp (UInt8.not_lt.mp fine.1),
      place, length, ?_, ?_⟩
    · rw [out, new]
    · rw [outlen, new, UInt8.toNat_ofNat', Nat.mod_eq_of_lt (keptLc_lt small)]

theorem stored_block {start index : Nat} (behind : start ≤ index) (inside : index < start + 8) :
    stored memory start emptyBlock index = emptyBlock.getD (index - start) 0 := by
  have length : emptyBlock.length = 8 := rfl
  rw [stored, if_pos behind, List.getD_eq_getElem _ _ (by omega), List.getD_eq_getElem _ _ (by omega)]

theorem modifyFormat2_passed_iff {bConfirmPIN : UInt8}
    (accepted : ModifyAccepted first second Old bConfirmPIN New apdu) (format : control &&& 3 = 2)
    (set : ppaModifyFormat2 (control >>> 4) (Old + 1) (New + 1) (templateBuffer memory apdu) = some parameters) :
    TemplatePassed known memory (modifyWrites control Old New apdu) (modificationLengths control Old New apdu) apdu
        (modifyPlace control first second Old New apdu) parameters ↔ ModifyFits known control first second apdu := by
  have long := accepted.template.long
  have short := accepted.template.short
  obtain ⟨nearOld, nearNew, placed, blockSize, out, outlen⟩ := modifyFormat2_fields set
  have lc : (templateBuffer memory apdu 4).toNat = templateLc apdu := lc_template memory long
  have old := succ_toNat accepted.old_le
  have new := succ_toNat accepted.new_le
  have raiseOld : (Old + 1).toNat + 7 = Old.toNat + 8 := by omega
  have raiseNew : (New + 1).toNat + 7 = New.toNat + 8 := by omega
  have startOld : 4 + (Old + 1).toNat = 5 + Old.toNat := by omega
  have startNew : 4 + (New + 1).toNat = 5 + New.toNat := by omega
  rw [raiseOld, raiseNew, startOld, startNew, lc] at out
  rw [raiseOld, raiseNew, lc] at outlen
  have byte := templateLc_lt apdu
  have keptByte : keptLc (keptLc (templateLc apdu) (Old.toNat + 8)) (New.toNat + 8) < 256 := keptLc_lt (keptLc_lt byte)
  have kept : keptLc (keptLc (templateLc apdu) (Old.toNat + 8)) (New.toNat + 8) =
      max (templateLc apdu) (max (Old.toNat + 8) (New.toNat + 8)) := by
    rw [keptLc_eq_max (by omega), keptLc_eq_max (by omega), Nat.max_assoc]
  have lengthsAre : modificationLengths control Old New apdu = raisedLc (templateLc apdu) (Old.toNat + 8) ++
      raisedLc (keptLc (templateLc apdu) (Old.toNat + 8)) (New.toNat + 8) := if_pos format
  have writes : modifyWrites control Old New apdu = templateWrites apdu ++
      ((raisedLc (templateLc apdu) (Old.toNat + 8)).map (fun length => (4, [UInt8.ofNat length])) ++
        ((raisedLc (keptLc (templateLc apdu) (Old.toNat + 8)) (New.toNat + 8)).map
            (fun length => (4, [UInt8.ofNat length])) ++
          (pinBlock (5 + Old.toNat) ++ pinBlock (5 + New.toNat)))) := by
    rw [modifyWrites, lengthsAre, List.map_append, List.append_assoc, format]
    rfl
  have initialised (index : Nat) : InitialisedAt (knownWrites known (modifyWrites control Old New apdu)) index ↔
      index < min apdu.length known ∨ (index = 4 ∧ templateLc apdu < max (Old.toNat + 8) (New.toNat + 8)) ∨
        (5 + Old.toNat ≤ index ∧ index < 13 + Old.toNat) ∨ (5 + New.toNat ≤ index ∧ index < 13 + New.toNat) := by
    have empty := @templateLc_four apdu
    rw [writes, initialisedAt_known, initialisedAt_append, initialisedAt_append, initialisedAt_append,
      initialisedAt_raised, initialisedAt_raised, initialisedAt_pinBlock, initialisedAt_pinBlock,
      keptLc_eq_max (by omega)]
    omega
  have isPlace (index : Nat) : modifyPlace control first second Old New apdu index ↔
      (5 + New.toNat ≤ index ∧ index < 13 + New.toNat) ∨
        (first ≠ second ∧ 5 + Old.toNat ≤ index ∧ index < 13 + Old.toNat) := by
    rw [modifyPlace, if_pos format]
  -- Without a place of its own the old PIN's block stands in front.
  have front : first = second → Old.toNat = 0 := by
    intro same
    have old := accepted.old
    rw [ppaOldPosition, if_neg (fun both => both.2 same)] at old
    split at old
    · rw [Option.some.injEq, Prod.mk.injEq] at old
      rw [← old.1]
      rfl
    · contradiction
  rw [modifyFits_iff accepted, if_pos format]
  constructor
  · intro passed
    have stands (index : Nat) (below : index < parameters.outlen) :
        index = 4 ∨ modifyPlace control first second Old New apdu index ∨
          (apdu.take known)[index]? = some (parameters.buffer index) := by
      by_cases lc : index = 4
      · exact .inl lc
      by_cases place : modifyPlace control first second Old New apdu index
      · exact .inr (.inl place)
      · exact .inr (.inr (passed.template index below lc place))
    refine ⟨fun index below => ?_, fun same index low high before => ?_⟩
    · have filled := passed.buffer.initialised index (by omega)
      rw [initialised] at filled
      rcases stands index (by omega) with lc | place | template
      · omega
      · rw [isPlace] at place
        exact .inr (.inr place)
      · have inside := (List.getElem?_eq_some_iff.mp template).1
        rw [List.length_take] at inside
        exact .inl (by omega)
    · have zero := front same
      have kept := passed.template index (by omega) (by omega) (by
        rw [isPlace]
        intro inside
        rcases inside with new | old
        · omega
        · exact old.1 same)
      have inside := (List.getElem?_eq_some_iff.mp kept).1
      rw [List.length_take] at inside
      rw [List.getElem?_take_of_lt (by omega)] at kept
      rw [kept, out, stored_before _ _ (by omega), stored_block (by omega) (by omega), zero]
  · intro fits
    have filled := fits.1
    rw [BlocksFit] at filled
    refine ⟨⟨?_, ?_, by omega, ?_, ?_⟩, ?_, ?_, ?_, ?_⟩
    · rw [out, writes, applied_append, applied_append, applied_append, applied_append, applied_template,
        applied_pinBlock, applied_pinBlock, applied_raised _ (lc_template memory long),
        applied_raised _ (stored_lc _ (keptLc_lt byte)), stored_again]
      rfl
    · intro write member
      rw [writes] at member
      rcases List.mem_append.mp member with template | later
      · exact inside_template long (by omega) template
      · rcases List.mem_append.mp later with raised | later
        · exact inside_raised raised
        · rcases List.mem_append.mp later with raised | later
          · exact inside_raised raised
          · rcases List.mem_append.mp later with old | new
            · exact inside_pinBlock.mpr (by omega) write old
            · exact inside_pinBlock.mpr (by omega) write new
    · intro index below
      have stands := filled index (by omega)
      rw [initialised]
      omega
    · intro length member
      rw [lengthsAre, raisedLc, raisedLc] at member
      rcases List.mem_append.mp member with old | new
      · split at old
        · rw [List.mem_singleton.mp old]
          omega
        · contradiction
      · split at new
        · rw [List.mem_singleton.mp new]
          omega
        · contradiction
    · intro index below behind outside
      rw [isPlace] at outside
      have length : emptyBlock.length = 8 := rfl
      have notNew : ¬ (5 + New.toNat ≤ index ∧ index < 13 + New.toNat) := fun inside => outside (.inl inside)
      have stands := filled index (by omega)
      have inside : index < min apdu.length known := by
        rcases stands with template | lc | new | old
        · exact template
        · exact absurd lc.1 behind
        · exact absurd new notNew
        · exact absurd (.inr old) outside
      rw [out, stored_outside _ (by omega)]
      by_cases inOld : 5 + Old.toNat ≤ index ∧ index < 13 + Old.toNat
      · have same : first = second := by
          by_contra differs
          exact outside (.inr ⟨differs, inOld⟩)
        have zero := front same
        rw [stored_block (by omega) (by omega), zero, List.getElem?_take_of_lt (by omega)]
        exact fits.2 same index (by omega) (by omega) (by omega)
      · rw [stored_outside _ (by omega), stored_outside _ (by change _ ∨ 4 + 1 ≤ _; omega)]
        exact template_eq (by omega)
    · rw [out, stored_before _ _ (by omega), stored_before _ _ (by omega), stored_lc _ keptByte]
      omega
    · rw [blockSize]
      decide
    · rw [placed]
      decide

/-! ## Accepted commands -/

variable {stack cmd : Nat → UInt8} {lenc : Nat} {instruction : PinInstruction}

/-- The value of tag 52, of which the first `inside` bytes belong to the command. -/
def TagPassed (memory : Nat → UInt8) (tag52 : List UInt8) (inside : Nat) (arguments : SecureArguments) :
    PinInstruction → Prop
  | .verify => VerifyPassed (inside - 2) memory (tag52.getD 0 0) (tag52.getD 1 0) (tag52.drop 2) arguments
  | .modify =>
      ModifyPassed (inside - 3) memory (tag52.getD 0 0) (tag52.getD 1 0) (tag52.getD 2 0) (tag52.drop 3) arguments

def TagFits (tag52 : List UInt8) (inside : Nat) : PinInstruction → Prop
  | .verify => VerifyFits (inside - 2) (tag52.getD 0 0) (tag52.getD 1 0) (tag52.drop 2)
  | .modify => ModifyFits (inside - 3) (tag52.getD 0 0) (tag52.getD 1 0) (tag52.getD 2 0) (tag52.drop 3)

/-- How many bytes behind the place where the value of an object begins belong to a command of `lenc`
bytes; the search compares no length with that of the command. -/
def tagInside (cmd : Nat → UInt8) (lenc : Nat) (tagvalue : UInt8) : Nat :=
  (GetTag cmd 5 (cmd 4).toNat tagvalue).elim 0 fun object => lenc - object.1

theorem length_tagValue {tagvalue : UInt8} {value : List UInt8} (found : tagValue cmd tagvalue = some value) :
    value.length ≤ 255 := by
  rw [tagValue, GetTag, ← getTag_eq] at found
  exact length_getTag found

theorem passed_of_format {format : UInt8} {bcd ascii format2 other : PinCommand} (refused : other.passed = none)
    (called : (if format = 0 then bcd else if format = 1 then ascii else if format = 2 then format2 else other).passed =
      some arguments) :
    (format = 0 ∧ bcd.passed = some arguments) ∨ (format = 1 ∧ ascii.passed = some arguments) ∨
      (format = 2 ∧ format2.passed = some arguments) := by
  split at called
  · case isTrue zero => exact .inl ⟨zero, called⟩
  · split at called
    · case isTrue one => exact .inr (.inl ⟨one, called⟩)
    · split at called
      · case isTrue two => exact .inr (.inr ⟨two, called⟩)
      · rw [refused] at called
        contradiction

theorem set_of_called {set : Option PinParameters} {call : PinParameters → PinCommand}
    (passes : ∀ parameters, (call parameters).passed = some (secureArguments PCB_seq timeout parameters))
    (called : PinCommand.passed (match set with
      | none => .answered 0x67 0x00
      | some parameters => call parameters) = some arguments) :
    set = some arguments.parameters := by
  cases set with
  | none => contradiction
  | some parameters =>
      have made := (passes parameters).symm.trans called
      cases made
      rfl

/-- What the checks of VERIFY let pass, and where its parameters come from. -/
theorem verifyTemplate_accepted (short : apdu.length ≤ 253)
    (called : (verifyTemplate PCB_seq memory timeout control position apdu).passed = some arguments) :
    VerifyAccepted position apdu ∧
      ((control &&& 3 = 0 ∧ verifyBcd (control >>> 4) (position - 6) (templateBuffer memory apdu)
          (if apdu.length = 4 then 7 else apdu.length + 2) = some arguments.parameters) ∨
        (control &&& 3 = 1 ∧ verifyAscii (control >>> 4) (position - 6) (templateBuffer memory apdu)
          (if apdu.length = 4 then 7 else apdu.length + 2) = some arguments.parameters) ∨
        (control &&& 3 = 2 ∧ verifyFormat2 (control >>> 4) (position - 6) (templateBuffer memory apdu) =
          some arguments.parameters)) := by
  simp only [verifyTemplate] at called
  generalize counted : (if apdu.length = 4 then 7 else apdu.length + 2) = taglen at called
  generalize filled : stored memory 0 (if apdu.length = 4 then apdu ++ [0] else apdu) = buffer at called
  change templateBuffer memory apdu = buffer at filled
  rw [filled]
  split at called
  · contradiction
  · rename_i fine
    have fine := not_or.mp fine
    have long : 4 ≤ apdu.length := Nat.not_lt.mp fine.1
    have low : 6 ≤ position.toNat := UInt8.lt_iff_toNat_lt.mp (UInt8.not_le.mp fine.2)
    have lc : (buffer 4).toNat = templateLc apdu := filled ▸ lc_template memory long
    split at called
    · contradiction
    · rename_i passes
      have accepted : VerifyAccepted position apdu := by
        have inside (more : apdu.length ≠ 4) := not_or.mp (not_and.mp passes more)
        refine ⟨⟨long, short, fun more => ?_⟩, low, fun more => ?_⟩
        · have same := Decidable.not_not.mp (inside more).1
          rw [if_neg more] at counted
          omega
        · have near := UInt8.le_iff_toNat_le.mp (UInt8.not_lt.mp (inside more).2)
          rw [toNat_position low, lc] at near
          omega
      refine ⟨accepted, ?_⟩
      obtain bcd | ascii | format2 := passed_of_format rfl called
      · exact .inl ⟨bcd.1, set_of_called (fun _ => rfl) bcd.2⟩
      · exact .inr (.inl ⟨ascii.1, set_of_called (fun _ => rfl) ascii.2⟩)
      · exact .inr (.inr ⟨format2.1, set_of_called (fun _ => rfl) format2.2⟩)

theorem verifyTemplate_passed_iff (short : apdu.length ≤ 253)
    (called : (verifyTemplate PCB_seq memory timeout control position apdu).passed = some arguments) :
    VerifyPassed known memory control position apdu arguments ↔ VerifyFits known control position apdu := by
  obtain ⟨accepted, bcd | ascii | format2⟩ := verifyTemplate_accepted short called
  · exact verifyBcd_passed_iff accepted bcd.1 bcd.2
  · exact verifyAscii_passed_iff accepted ascii.1 ascii.2
  · exact verifyFormat2_passed_iff accepted format2.1 format2.2

theorem modifyTemplate_accepted (short : apdu.length ≤ 253)
    (called : (modifyTemplate PCB_seq memory timeout control first second apdu).passed = some arguments) :
    ∃ Old bConfirmPIN New, ModifyAccepted first second Old bConfirmPIN New apdu ∧
      ((control &&& 3 = 0 ∧ ppaModifyBcd (control >>> 4) Old New (templateBuffer memory apdu)
          (if apdu.length = 4 then 8 else apdu.length + 3) = some arguments.parameters) ∨
        (control &&& 3 = 1 ∧ ppaModifyAscii (control >>> 4) Old New (templateBuffer memory apdu)
          (if apdu.length = 4 then 8 else apdu.length + 3) = some arguments.parameters) ∨
        (control &&& 3 = 2 ∧ ppaModifyFormat2 (control >>> 4) (Old + 1) (New + 1) (templateBuffer memory apdu) =
          some arguments.parameters)) := by
  simp only [modifyTemplate] at called
  generalize counted : (if apdu.length = 4 then 8 else apdu.length + 3) = taglen at called
  generalize filled : stored memory 0 (if apdu.length = 4 then apdu ++ [0] else apdu) = buffer at called
  change templateBuffer memory apdu = buffer at filled
  rw [filled]
  split at called
  · contradiction
  · rename_i fine
    have long : 4 ≤ apdu.length := Nat.not_lt.mp fine
    have lc : (buffer 4).toNat = templateLc apdu := filled ▸ lc_template memory long
    split at called
    · rename_i Old bConfirmPIN New old new
      split at called
      · contradiction
      · rename_i passes
        have accepted : ModifyAccepted first second Old bConfirmPIN New apdu := by
          have inside (more : apdu.length ≠ 4) := not_or.mp (not_and.mp passes more)
          have near (more : apdu.length ≠ 4) := not_or.mp (inside more).2
          refine ⟨⟨long, short, fun more => ?_⟩, old, new, fun more => ⟨?_, ?_⟩⟩
          · have same := Decidable.not_not.mp (inside more).1
            rw [if_neg more] at counted
            omega
          · rw [← lc]
            exact UInt8.le_iff_toNat_le.mp (UInt8.not_lt.mp (near more).1)
          · rw [← lc]
            exact UInt8.le_iff_toNat_le.mp (UInt8.not_lt.mp (near more).2)
        refine ⟨Old, bConfirmPIN, New, accepted, ?_⟩
        obtain bcd | ascii | format2 := passed_of_format rfl called
        · exact .inl ⟨bcd.1, set_of_called (fun _ => rfl) bcd.2⟩
        · exact .inr (.inl ⟨ascii.1, set_of_called (fun _ => rfl) ascii.2⟩)
        · exact .inr (.inr ⟨format2.1, set_of_called (fun _ => rfl) format2.2⟩)
    · contradiction

theorem modifyTemplate_passed_iff (short : apdu.length ≤ 253)
    (called : (modifyTemplate PCB_seq memory timeout control first second apdu).passed = some arguments) :
    ModifyPassed known memory control first second apdu arguments ↔ ModifyFits known control first second apdu := by
  obtain ⟨Old, bConfirmPIN, New, accepted, bcd | ascii | format2⟩ := modifyTemplate_accepted short called
  · exact (modifyPassed_iff accepted).trans (modifyBcd_passed_iff accepted bcd.1 bcd.2)
  · exact (modifyPassed_iff accepted).trans (modifyAscii_passed_iff accepted ascii.1 ascii.2)
  · exact (modifyPassed_iff accepted).trans (modifyFormat2_passed_iff accepted format2.1 format2.2)

/-- Of an accepted PIN command the template is passed on, with the PIN places filled in, exactly
when tag 52 fits. -/
theorem template_passed_iff (instruction : PinInstruction) (PCB_seq : UInt8) (stack cmd : Nat → UInt8) (lenc : Nat)
    {arguments : SecureArguments}
    (accepted : (ppaPinCommand instruction PCB_seq stack cmd lenc).passed = some arguments) :
    TagPassed stack ((tagValue cmd 0x52).getD []) (tagInside cmd lenc 0x52) arguments instruction ↔
      TagFits ((tagValue cmd 0x52).getD []) (tagInside cmd lenc 0x52) instruction := by
  simp only [ppaPinCommand] at accepted
  split at accepted
  · contradiction
  · split at accepted
    · contradiction
    · split at accepted
      · contradiction
      · cases instruction with
        | verify =>
            split at accepted
            · rename_i control position apdu _ found
              have length := length_tagValue found
              rw [List.length_cons, List.length_cons] at length
              have short : apdu.length ≤ 253 := by omega
              rw [found]
              exact verifyTemplate_passed_iff short accepted
            · contradiction
            · contradiction
        | modify =>
            split at accepted
            · contradiction
            · rename_i control first second apdu _ found
              have length := length_tagValue found
              rw [List.length_cons, List.length_cons, List.length_cons] at length
              have short : apdu.length ≤ 253 := by omega
              rw [found]
              exact modifyTemplate_passed_iff short accepted
            · contradiction

def staleStack : Nat → UInt8 := fun _ => 0xA5

/-- What a command is accepted with. -/
def ppaPassed (command : List UInt8) (instruction : PinInstruction) : Option SecureArguments :=
  (ppaPinCommand instruction 0 staleStack (inMemory command) command.length).passed

/-- The template of a command is passed on. -/
def CommandPassed (command : List UInt8) (instruction : PinInstruction) (arguments : SecureArguments) : Prop :=
  TagPassed staleStack ((tagValue (inMemory command) 0x52).getD []) (tagInside (inMemory command) command.length 0x52)
    arguments instruction

/-- A PIN of four ASCII digits that fills the data. -/
def asciiTemplate : List UInt8 :=
  tag52Command 0x18 11 [0x41, 0x06, 0x00, 0x20, 0x00, 0x81, 0x04, 0x30, 0x30, 0x30, 0x30]

theorem asciiTemplate_passed :
    ∃ arguments, ppaPassed asciiTemplate .verify = some arguments ∧ CommandPassed asciiTemplate .verify arguments := by
  refine ⟨_, rfl, (template_passed_iff .verify 0 staleStack (inMemory asciiTemplate) asciiTemplate.length rfl).mpr ?_⟩
  change VerifyFits 9 0x41 0x06 [0x00, 0x20, 0x00, 0x81, 0x04, 0x30, 0x30, 0x30, 0x30]
  rw [VerifyFits, if_neg (by decide)]
  exact ⟨by decide, fun bcd => absurd bcd (by decide), fun _ zero => absurd zero (by decide), by decide⟩

/-- Two BCD PINs of four digits in a template of four bytes. -/
def bcdModify : List UInt8 :=
  tag52Command 0x19 12 [0x40, 0x06, 0x08, 0x00, 0x24, 0x00, 0x81, 0x04, 0xFF, 0xFF, 0xFF, 0xFF]

/-- A BCD PIN of any length without a template. -/
def bcdHeader : List UInt8 := tag52Command 0x18 6 [0x00, 0x06, 0x00, 0x20, 0x00, 0x81]

/-- Sixteen bytes for an ASCII PIN of any length. -/
def wideTemplate : List UInt8 :=
  tag52Command 0x18 23 ([0x01, 0x06, 0x00, 0x20, 0x00, 0x81, 0x10] ++ List.replicate 16 0x30)

/-- A tag 52 of sixteen bytes, of which the command holds seven. -/
def cutTemplate : List UInt8 := tag52Command 0x18 16 [0x41, 0x06, 0x00, 0x20, 0x00, 0x81, 0x09]

/-- The command is accepted, and its template is not passed on. -/
def NotPassed (command : List UInt8) (instruction : PinInstruction) : Prop :=
  ∃ arguments, ppaPassed command instruction = some arguments ∧ ¬ CommandPassed command instruction arguments

theorem templates_not_passed :
    NotPassed bcdModify .modify ∧ NotPassed bcdHeader .verify ∧ NotPassed wideTemplate .verify ∧
      NotPassed cutTemplate .verify := by
  refine ⟨⟨_, rfl, ?_⟩, ⟨_, rfl, ?_⟩, ⟨_, rfl, ?_⟩, ⟨_, rfl, ?_⟩⟩
  · intro passed
    obtain ⟨Old, bConfirmPIN, New, old, new, passed⟩ := passed
    have length := passed.length
    exact absurd length (by decide)
  · intro passed
    have length := TemplatePassed.length passed
    exact absurd length (by decide)
  · intro passed
    have blockSize := TemplatePassed.blockSize passed
    exact absurd blockSize (by decide)
  · intro passed
    have fifth := (TemplatePassed.buffer passed).initialised 5 (by decide)
    exact absurd fifth (by decide)

end Cyberjack.Ppa
