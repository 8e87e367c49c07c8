import Cyberjack.Eca.CtData
import Cyberjack.Ifd.Part10

namespace Cyberjack.Eca

open Cyberjack.Foundation Cyberjack.Ifd

/-! # PERFORM VERIFICATION

The command 20 18 of `_CtData` of `CCIDReader.cpp` up to the call of
`cjccid_SecurePV` or `cjccid_SecureMV`, what these two send, and what
`IfdVerifyPinDirect` sends for a structure without a command in between.
-/

/-- `GetTag`: the bytes the pointer found points to, as many as `taglen` says.  Every pass
of the loop takes two bytes at least, so `len` passes are enough. -/
def GetTag (memory : Nat → UInt8) (tagvalue : UInt8) : Nat → Nat → Int → Option (List UInt8)
  | 0, _, _ => none
  | passes + 1, start, len =>
      if len > 2 then
        let tlen := (memory (start + 1)).toNat
        if memory start = tagvalue then some (bytesAt memory (start + 2) tlen)
        else GetTag memory tagvalue passes (start + 2 + tlen) (len - (tlen + 2))
      else none

/-- `GetTag(data_ptr,Lc,...)` -/
def commandTag (cmd : Nat → UInt8) (lengths : Lengths) (tagvalue : UInt8) : Option (List UInt8) :=
  match lengths.data_ptr with
  | none => none
  | some offset => GetTag cmd tagvalue lengths.Lc.toNat offset lengths.Lc

/-- What stands on the stack where the handler does not write. -/
structure Stack where
  buffer : Nat → UInt8
  Prologue : UInt8 × UInt8

def stored (memory : Nat → UInt8) (offset : Nat) (data : List UInt8) (index : Nat) : UInt8 :=
  if offset ≤ index then data.getD (index - offset) (memory index) else memory index

/-- The arguments of `cjccid_SecurePV`; of those of `cjccid_SecureMV` the ones that are
not constants. -/
structure SecureArguments where
  Timeout : UInt8
  PinPosition : UInt8
  PinType : UInt8
  PinLengthSize : UInt8
  PinLength : UInt8
  PinLengthPosition : UInt8
  Min : UInt8
  Max : UInt8
  Condition : UInt8
  Prologue : List UInt8
  out : Nat → UInt8
  out_len : Nat
  Text : Option (List UInt8)
  bMessageIndex : UInt8
  bNumberMessage : UInt8

/-- How the command goes on: with an answer, or with a call. -/
inductive Verification where
  | answered (sw1 sw2 : UInt8)
  | securePV (arguments : SecureArguments)
  | secureMV (arguments : SecureArguments) (OffsetNew : UInt8)

/-- What the `switch` over the pin format sets. -/
structure PinParameters where
  PinType : UInt8
  PinPosition : UInt8
  PinLengthSize : UInt8
  PinLengthPosition : UInt8
  PinLength : UInt8
  Min : UInt8
  Max : UInt8
  Condition : UInt8
  buffer : Nat → UInt8
  outlen : Nat

/-- `case 0`, BCD -/
def pinBcd (PinLength PinPosition : UInt8) (buffer : Nat → UInt8) (taglen : Nat) : PinParameters where
  PinType := 1
  PinPosition := PinPosition
  PinLengthSize := 0
  PinLengthPosition := 0
  PinLength := if PinLength = 0 then 15 else PinLength / 2 + (PinLength &&& 1)
  Min := if PinLength = 0 then 1 else PinLength
  Max := if PinLength = 0 then 30 else PinLength
  Condition := if PinLength = 0 then 2 else 1
  buffer := stored buffer 4 [0]
  outlen := if taglen = 7 then 5 else taglen - 2

/-- `case 1`, ASCII; Lc of a short command is left alone. -/
def pinAscii (PinLength PinPosition : UInt8) (buffer : Nat → UInt8) (taglen : Nat) : PinParameters where
  PinType := 2
  PinPosition := PinPosition
  PinLengthSize := 0
  PinLengthPosition := 0
  PinLength := if PinLength = 0 then 15 else PinLength
  Min := if PinLength = 0 then 1 else PinLength
  Max := if PinLength = 0 then 15 else PinLength
  Condition := if PinLength = 0 then 2 else 1
  buffer := if taglen = 7 then buffer else stored buffer 4 [0]
  outlen := if taglen = 7 then 5 else taglen - 2

/-- `case 2`, FPIN2: an empty PIN block is put behind the position. -/
def pinFormat2 (PinLength PinPosition : UInt8) (buffer : Nat → UInt8) : Option PinParameters :=
  let PinPosition := PinPosition + 1
  let lc := if (buffer 4).toNat < PinPosition.toNat + 7 then PinPosition + 7 else buffer 4
  if PinLength ≠ 0 ∧ (PinLength < 4 ∨ PinLength > 12) then none
  else
    some {
      PinType := 1
      PinPosition := PinPosition
      PinLengthSize := 4
      PinLengthPosition := 4
      PinLength := 7
      Min := if PinLength = 0 then 4 else PinLength
      Max := if PinLength = 0 then 12 else PinLength
      Condition := if PinLength = 0 then 2 else 1
      buffer := stored (stored buffer 4 [lc]) (4 + PinPosition.toNat) (0x2f :: List.replicate 7 0xff)
      outlen := lc.toNat + 5 }

/-- `Min` and `Max` behind tag 51. -/
def pinLimits (format Min Max : UInt8) (tag51 : Option (List UInt8)) : UInt8 × UInt8 :=
  match tag51 with
  | some [first, second] =>
      let Min := if first ≥ 4 ∨ format ≠ 2 then first else Min
      let Max := if second ≥ Min then second else Max
      (Min, if Max > 12 ∧ format = 2 then 12 else Max)
  | _ => (Min, Max)

/-- `TransformText` -/
def TransformText (text : List UInt8) : List UInt8 :=
  text.map fun byte => if byte = 0x0d then 0x0a else byte

/-- The value of an object of one byte. -/
def onlyByte (tag : Option (List UInt8)) : Option UInt8 :=
  match tag with
  | some [byte] => some byte
  | _ => none

/-- The part behind the `switch`. -/
def callSecure (tags : UInt8 → Option (List UInt8)) (stack : Stack) (timeout format : UInt8)
    (parameters : PinParameters) : Verification :=
  let limits := pinLimits format parameters.Min parameters.Max (tags 0x51)
  let use_MV := format = 2 ∧ parameters.PinPosition > 1
  let arguments : SecureArguments := {
    Timeout := timeout
    PinPosition := if use_MV then 1 else parameters.PinPosition
    PinType := parameters.PinType
    PinLengthSize := parameters.PinLengthSize
    PinLength := parameters.PinLength
    PinLengthPosition := parameters.PinLengthPosition
    Min := limits.1
    Max := limits.2
    Condition := parameters.Condition
    Prologue := [0, stack.Prologue.1, stack.Prologue.2]
    out := parameters.buffer
    out_len := parameters.outlen
    Text := (tags 0x50).map TransformText
    bMessageIndex := (onlyByte (tags 0x53)).getD 0
    bNumberMessage := (onlyByte (tags 0x54)).getD (if use_MV then 0xff else 0x01) }
  if use_MV then .secureMV arguments (parameters.PinPosition - 1) else .securePV arguments

/-- Tag 52: control byte, position, and the embedded APDU. -/
def pinCommand (tags : UInt8 → Option (List UInt8)) (stack : Stack) (timeout control position : UInt8)
    (apdu : List UInt8) : Verification :=
  let PinLength := control >>> 4
  let format := control &&& 3
  if apdu.length < 4 ∨ position ≤ 5 then .answered 0x67 0x00
  else
    let PinPosition := position - 6
    let taglen := if apdu.length = 4 then 7 else apdu.length + 2
    let buffer := stored stack.buffer 0 (if apdu.length = 4 then apdu ++ [0] else apdu)
    if apdu.length ≠ 4 ∧ (PinPosition.toNat : Int) > taglen - 7 then .answered 0x67 0x00
    else if format = 0 then
      callSecure tags stack timeout format (pinBcd PinLength PinPosition buffer taglen)
    else if format = 1 then
      callSecure tags stack timeout format (pinAscii PinLength PinPosition buffer taglen)
    else if format = 2 then
      match pinFormat2 PinLength PinPosition buffer with
      | none => .answered 0x67 0x00
      | some parameters => callSecure tags stack timeout format parameters
    else .answered 0x6A 0x00

/-- `cmd[1]==0x18` -/
def performVerification (CheckUpdate : Bool) (stack : Stack) (cmd : Nat → UInt8) (lengths : Lengths) :
    Verification :=
  if CheckUpdate = true then .answered 0x6A 0x03
  else if lengths.Lc < 8 ∨ lengths.Le ≠ -1 then .answered 0x67 0x00
  else
    let tags := commandTag cmd lengths
    let tag80 := tags 0x80
    if tag80.isSome ∧ onlyByte tag80 = none then .answered 0x67 0x00
    else
      match tags 0x52 with
      | some (control :: position :: apdu) =>
          pinCommand tags stack ((onlyByte tag80).getD 15) control position apdu
      | _ => .answered 0x67 0x00

/-- A PC_TO_RDR_SECURE message; the insertion offsets and `bConfirmPIN` are those of
`Modify`. -/
structure SecureMessage where
  dwLength : Nat
  bPINOperation : UInt8
  bTimeOut : UInt8
  bmFormatString : UInt8
  bmPINBlockString : UInt8
  bmPINLengthFormat : UInt8
  bInsertionOffsetOld : UInt8
  bInsertionOffsetNew : UInt8
  bConfirmPIN : UInt8
  wPINMaxExtraDigit : UInt16
  bEntryValidationCondition : UInt8
  bNumberMessage : UInt8
  wLangId : UInt16
  bMsgIndex : List UInt8
  bTeoPrologue : List UInt8
  abData : Nat → UInt8

/-- What both functions put into their message. -/
def SecureArguments.message (arguments : SecureArguments) (operation OffsetNew : UInt8) (length : Nat)
    (messages : List UInt8) : SecureMessage where
  dwLength := arguments.out_len + length
  bPINOperation := operation
  bTimeOut := arguments.Timeout
  bmFormatString := (0x80 : UInt8) ||| (arguments.PinPosition <<< (3 : UInt8)) ||| arguments.PinType
  bmPINBlockString := (arguments.PinLengthSize <<< (4 : UInt8)) ||| arguments.PinLength
  bmPINLengthFormat := arguments.PinLengthPosition
  bInsertionOffsetOld := 0
  bInsertionOffsetNew := OffsetNew
  bConfirmPIN := 0
  wPINMaxExtraDigit := (arguments.Min.toUInt16 <<< (8 : UInt16)) + arguments.Max.toUInt16
  bEntryValidationCondition := arguments.Condition
  bNumberMessage := arguments.bNumberMessage
  wLangId := 0x0409
  bMsgIndex := messages
  bTeoPrologue := arguments.Prologue
  abData := arguments.out

def cjccid_SecurePV (arguments : SecureArguments) : SecureMessage :=
  arguments.message 0 0 15 [arguments.bMessageIndex]

/-- The message index goes to the second message. -/
def cjccid_SecureMV (arguments : SecureArguments) (OffsetNew : UInt8) : SecureMessage :=
  arguments.message 1 OffsetNew 20 [0, arguments.bMessageIndex, 0]

/-- The message of `IfdVerifyPinDirect`, behind its checks. -/
def IfdVerifyPinDirect (Input : PIN_VERIFY_STRUCTURE) : SecureMessage where
  dwLength := Input.ulDataLength.toNat + 15
  bPINOperation := 0
  bTimeOut := Input.bTimerOut
  bmFormatString := Input.bmFormatString
  bmPINBlockString := Input.bmPINBlockString
  bmPINLengthFormat := Input.bmPINLengthFormat
  bInsertionOffsetOld := 0
  bInsertionOffsetNew := 0
  bConfirmPIN := 0
  wPINMaxExtraDigit := Input.wPINMaxExtraDigit
  bEntryValidationCondition := Input.bEntryValidationCondition
  bNumberMessage := Input.bNumberMessage
  wLangId := Input.wLangId
  bMsgIndex := [Input.bMsgIndex]
  bTeoPrologue := Input.bTeoPrologue
  abData := Input.abData

variable {memory cmd : Nat → UInt8} {lengths : Lengths} {ps : PIN_VERIFY_STRUCTURE}
  {supportTag51 : Bool} {apdu : List UInt8} {dataRead : Nat}

theorem length_bytesAt (memory : Nat → UInt8) (offset count : Nat) :
    (bytesAt memory offset count).length = count := by
  simp [bytesAt]

theorem bytesAt_same {other : Nat → UInt8} {offset count : Nat} (same : ∀ index, offset ≤ index →
    index < offset + count → memory index = other index) : bytesAt memory offset count = bytesAt other offset count := by
  apply List.map_congr_left
  intro index member
  have below := List.mem_range.mp member
  exact same _ (Nat.le_add_right _ _) (Nat.add_lt_add_left below _)

theorem bytesAt_getElem? {offset index count : Nat} (inside : index < count) :
    (bytesAt memory offset count)[index]? = some (memory (offset + index)) := by
  simp [bytesAt, inside]

theorem bytesAt_add (memory : Nat → UInt8) (offset first second : Nat) :
    bytesAt memory offset (first + second) =
      bytesAt memory offset first ++ bytesAt memory (offset + first) second := by
  simp only [bytesAt, List.range_add, List.map_append, List.map_map, Function.comp_def,
    Nat.add_assoc]

theorem bytesAt_eq_append {offset : Nat} {first second : List UInt8} :
    bytesAt memory offset (first ++ second).length = first ++ second ↔
      bytesAt memory offset first.length = first ∧
        bytesAt memory (offset + first.length) second.length = second := by
  rw [List.length_append, bytesAt_add]
  constructor
  · intro both
    exact List.append_inj both (length_bytesAt _ _ _)
  · rintro ⟨front, back⟩
    rw [front, back]

/-- In a string of objects that are not empty `GetTag` finds the first one with the tag. -/
theorem getTag_encodeAll {objects : List DataObject} (filled : ∀ object ∈ objects, object.value ≠ [])
    (tagvalue : UInt8) {passes start : Nat} (enough : objects.length ≤ passes)
    (stands : bytesAt memory start (DataObject.encodeAll objects).length = DataObject.encodeAll objects) :
    GetTag memory tagvalue passes start (DataObject.encodeAll objects).length =
      (objects.find? fun object => object.tag = tagvalue).map DataObject.value := by
  induction objects generalizing passes start with
  | nil =>
      cases passes with
      | zero => rfl
      | succ passes => rfl
  | cons object rest ih =>
      cases passes with
      | zero => contradiction
      | succ passes =>
          have nonempty := List.length_pos_iff.mpr (filled object List.mem_cons_self)
          rw [DataObject.encodeAll_cons, bytesAt_eq_append] at stands
          obtain ⟨first, later⟩ := stands
          obtain ⟨header, value⟩ :=
            (bytesAt_eq_append.mp first : bytesAt memory start [object.tag,
              UInt8.ofNat object.value.length].length = _ ∧ _)
          have tag : memory start = object.tag := (List.cons.inj header).1
          have tlen : (memory (start + 1)).toNat = object.value.length := by
            have length : memory (start + 1) = UInt8.ofNat object.value.length :=
              (List.cons.inj (List.cons.inj header).2).1
            rw [length, UInt8.toNat_ofNat', Nat.mod_eq_of_lt object.bounded]
          have more : (((DataObject.encodeAll (object :: rest)).length : Nat) : Int) > 2 := by
            rw [DataObject.encodeAll_cons, List.length_append, DataObject.length_encode]
            omega
          rw [GetTag, if_pos more]
          simp only [tag, tlen, List.find?_cons]
          by_cases found : object.tag = tagvalue
          · rw [if_pos found, decide_eq_true found, Option.map_some]
            exact congrArg some value
          · rw [if_neg found, decide_eq_false found]
            have remaining : (((DataObject.encodeAll (object :: rest)).length : Nat) : Int) -
                (object.value.length + 2) = (DataObject.encodeAll rest).length := by
              rw [DataObject.encodeAll_cons, List.length_append, DataObject.length_encode]
              omega
            rw [remaining]
            refine ih (fun other member => filled other (List.mem_cons_of_mem _ member))
              (Nat.le_of_succ_le_succ enough) ?_
            rwa [DataObject.length_encode, Nat.add_comm object.value.length 2, ← Nat.add_assoc] at later

/-- The insertion position a message stands for. -/
def SecureMessage.position (message : SecureMessage) : UInt8 :=
  ((message.bmFormatString &&& 0x78) >>> 3) + message.bInsertionOffsetNew

/-- The message of the call, if there is one. -/
def Verification.message : Verification → Option SecureMessage
  | .answered _ _ => none
  | .securePV arguments => some (cjccid_SecurePV arguments)
  | .secureMV arguments OffsetNew => some (cjccid_SecureMV arguments OffsetNew)

/-- The message for the command 20 18, unless it is rejected. -/
def verificationMessage (linux CheckUpdate : Bool) (stack : Stack) (cmd : Nat → UInt8) (lenc : Nat) :
    Option SecureMessage :=
  (parseLengths linux cmd lenc).bind fun lengths =>
    (performVerification CheckUpdate stack cmd lengths).message

/-- A message says of a structure what `IfdVerifyPinDirect` says. -/
structure Agrees (ps : PIN_VERIFY_STRUCTURE) (message : SecureMessage) : Prop where
  format : message.bmFormatString &&& 0x03 = (IfdVerifyPinDirect ps).bmFormatString &&& 0x03
  position : ¬ ps.Format2 → message.position = (IfdVerifyPinDirect ps).position
  format2Position : ps.Format2 → message.position = max 1 (IfdVerifyPinDirect ps).position
  timeout : ps.bTimerOut ≠ 0 → message.bTimeOut = (IfdVerifyPinDirect ps).bTimeOut
  header : ∀ index < 4, message.abData index = (IfdVerifyPinDirect ps).abData index
  limits : ps.bEntryValidationCondition &&& 0x01 ≠ 0 →
    nPinLenMin ps.wPINMaxExtraDigit = nPinLenMax ps.wPINMaxExtraDigit →
    message.wPINMaxExtraDigit = (IfdVerifyPinDirect ps).wPINMaxExtraDigit

/-- A fixed length that a nibble can hold, or that tag 51 says again. -/
def LengthSurvives (supportTag51 : Bool) (ps : PIN_VERIFY_STRUCTURE) : Prop :=
  ps.bEntryValidationCondition &&& 0x01 ≠ 0 →
    nPinLenMin ps.wPINMaxExtraDigit = nPinLenMax ps.wPINMaxExtraDigit →
      (1 ≤ nPinLenMax ps.wPINMaxExtraDigit ∧ nPinLenMax ps.wPINMaxExtraDigit ≤ 15) ∨
        (supportTag51 = true ∧ ¬ ps.Format2)

theorem limits_word (Min Max : UInt8) (word : UInt16) :
    (Min.toUInt16 <<< (8 : UInt16)) + Max.toUInt16 = word ↔
      Min = nPinLenMin word ∧ Max = nPinLenMax word := by
  have low := Min.toNat_lt
  have high := Max.toNat_lt
  have bound := word.toNat_lt
  rw [nPinLenMin, nPinLenMax, ← UInt16.toNat_inj, ← UInt8.toNat_inj, ← UInt8.toNat_inj,
    UInt16.toNat_add, UInt16.toNat_shiftLeft, UInt16.toNat_toUInt8, UInt16.toNat_toUInt8,
    UInt16.toNat_shiftRight, UInt8.toNat_toUInt16, UInt8.toNat_toUInt16]
  simp [Nat.shiftLeft_eq, Nat.shiftRight_eq_div_pow]
  omega

/-- Tag 51 of a fixed length. -/
def fixedTag (supportTag51 : Bool) (length : UInt8) : Option (List UInt8) :=
  if supportTag51 = true then some [length, length] else none

/-- A length as control nibble and tag 51 give it back. -/
theorem pinLimits_bcd : ∀ (length : UInt8) (supportTag51 : Bool),
    (let PinLength := (length <<< 4) >>> 4
    pinLimits 0 (if PinLength = 0 then 1 else PinLength) (if PinLength = 0 then 30 else PinLength)
      (fixedTag supportTag51 length) = (length, length)) ↔
      (1 ≤ length ∧ length ≤ 15) ∨ supportTag51 = true := by
  decide

theorem pinLimits_ascii : ∀ (length : UInt8) (supportTag51 : Bool),
    (let PinLength := (length <<< 4) >>> 4
    pinLimits 1 (if PinLength = 0 then 1 else PinLength) (if PinLength = 0 then 15 else PinLength)
      (fixedTag supportTag51 length) = (length, length)) ↔
      (1 ≤ length ∧ length ≤ 15) ∨ supportTag51 = true := by
  decide

/-- Tag 51 does not help where Max is held down to 12. -/
theorem pinLimits_format2 : ∀ (length : UInt8) (supportTag51 : Bool),
    let PinLength := (length <<< 4) >>> 4
    ¬ (PinLength ≠ 0 ∧ (PinLength < 4 ∨ PinLength > 12)) →
      (pinLimits 2 (if PinLength = 0 then 4 else PinLength) (if PinLength = 0 then 12 else PinLength)
        (fixedTag supportTag51 length) = (length, length) ↔ 1 ≤ length ∧ length ≤ 15) := by
  decide

theorem format_bits : ∀ position : UInt8, position < 16 →
    (((0x80 : UInt8) ||| (position <<< 3) ||| 1) &&& 0x03 = 1 ∧
      ((((0x80 : UInt8) ||| (position <<< 3) ||| 1) &&& 0x78) >>> 3) = position) ∧
    (((0x80 : UInt8) ||| (position <<< 3) ||| 2) &&& 0x03 = 2 ∧
      ((((0x80 : UInt8) ||| (position <<< 3) ||| 2) &&& 0x78) >>> 3) = position) := by
  decide

/-- What a message says of the parameters it was made from. -/
structure Carries (tags : UInt8 → Option (List UInt8)) (timeout format : UInt8)
    (parameters : PinParameters) (message : SecureMessage) : Prop where
  timeOut : message.bTimeOut = timeout
  pinType : message.bmFormatString &&& 0x03 = parameters.PinType
  position : message.position = parameters.PinPosition
  data : message.abData = parameters.buffer
  limits : ∀ word, message.wPINMaxExtraDigit = word ↔
    pinLimits format parameters.Min parameters.Max (tags 0x51) = (nPinLenMin word, nPinLenMax word)

variable {tags : UInt8 → Option (List UInt8)} {stack : Stack} {timeout format : UInt8}
  {parameters : PinParameters} {message : SecureMessage}

theorem carries_callSecure (typed : parameters.PinType = 1 ∨ parameters.PinType = 2)
    (placed : parameters.PinPosition < 16)
    (sent : (callSecure tags stack timeout format parameters).message = some message) :
    Carries tags timeout format parameters message := by
  have limits : ∀ pair : UInt8 × UInt8, ∀ word,
      (pair.1.toUInt16 <<< (8 : UInt16)) + pair.2.toUInt16 = word ↔
        pair = (nPinLenMin word, nPinLenMax word) := by
    intro pair word
    rw [limits_word, Prod.ext_iff]
  simp only [callSecure] at sent
  by_cases use_MV : format = 2 ∧ parameters.PinPosition > 1
  · rw [if_pos use_MV, Verification.message, Option.some.injEq] at sent
    have bits := format_bits 1 (by decide)
    subst sent
    constructor
    · rfl
    · simp only [cjccid_SecureMV, SecureArguments.message, if_pos use_MV]
      rcases typed with typed | typed <;> rw [typed]
      · exact bits.1.1
      · exact bits.2.1
    · simp only [SecureMessage.position, cjccid_SecureMV, SecureArguments.message, if_pos use_MV]
      have sum : (1 : UInt8) + (parameters.PinPosition - 1) = parameters.PinPosition := by
        rw [UInt8.add_comm, UInt8.sub_add_cancel]
      rcases typed with typed | typed <;> rw [typed]
      · rw [bits.1.2, sum]
      · rw [bits.2.2, sum]
    · rfl
    · exact limits _
  · rw [if_neg use_MV, Verification.message, Option.some.injEq] at sent
    have bits := format_bits parameters.PinPosition placed
    subst sent
    constructor
    · rfl
    · simp only [cjccid_SecurePV, SecureArguments.message, if_neg use_MV]
      rcases typed with typed | typed <;> rw [typed]
      · exact bits.1.1
      · exact bits.2.1
    · simp only [SecureMessage.position, cjccid_SecurePV, SecureArguments.message, if_neg use_MV]
      rcases typed with typed | typed <;> rw [typed]
      · rw [bits.1.2, UInt8.add_zero]
      · rw [bits.2.2, UInt8.add_zero]
    · rfl
    · exact limits _

/-- What the control byte says of the format. -/
def formatCode (ps : PIN_VERIFY_STRUCTURE) (bIsFormat2 : Bool) : UInt8 :=
  if ps.bmFormatString &&& 0x03 = 0x02 then 1 else if bIsFormat2 = true then 2 else 0

/-- And of the length. -/
def lengthNibble (ps : PIN_VERIFY_STRUCTURE) : UInt8 :=
  if ps.bEntryValidationCondition &&& 0x01 ≠ 0 ∧
      nPinLenMin ps.wPINMaxExtraDigit = nPinLenMax ps.wPINMaxExtraDigit then
    (nPinLenMax ps.wPINMaxExtraDigit <<< 4) >>> 4
  else 0

/-- The position behind the header of the embedded APDU. -/
def codedPosition (ps : PIN_VERIFY_STRUCTURE) (bIsFormat2 : Bool) : UInt8 :=
  let position := (ps.bmFormatString &&& 0x78) >>> 3
  if bIsFormat2 = true then max 1 position - 1 else position

theorem control_bits : ∀ code ∈ ([0, 1, 2] : List UInt8), ∀ length : UInt8,
    (code ||| (length <<< 4)) >>> 4 = (length <<< 4) >>> 4 ∧
      (code ||| (length <<< 4)) &&& 3 = code := by
  decide

theorem code_bits : ∀ code ∈ ([0, 1, 2] : List UInt8), code >>> 4 = 0 ∧ code &&& 3 = code := by
  decide

theorem formatCode_mem (ps : PIN_VERIFY_STRUCTURE) (bIsFormat2 : Bool) :
    formatCode ps bIsFormat2 ∈ ([0, 1, 2] : List UInt8) := by
  rw [formatCode]
  split
  · decide
  · split <;> decide

theorem position_lt : ∀ bmFormatString : UInt8, (bmFormatString &&& 0x78) >>> 3 < 16 := by
  decide

theorem block_position : ∀ position : UInt8, position < 16 →
    (if position = 0 ∨ position = 1 then 6 else position + 5) = (max 1 position - 1) + 6 ∧
      (max 1 position - 1) + 1 = max 1 position ∧ max 1 position < 16 := by
  decide

/-- The two bytes in front of the embedded APDU, taken apart. -/
theorem control_eq {bIsFormat2 : Bool} {control position : UInt8}
    (supported : verifyControl ps bIsFormat2 = some (control, position)) :
    control &&& 3 = formatCode ps bIsFormat2 ∧ control >>> 4 = lengthNibble ps ∧
      position = codedPosition ps bIsFormat2 + 6 := by
  simp only [verifyControl, Option.ite_none_left_eq_some, Option.some.injEq, Prod.mk.injEq] at supported
  obtain ⟨-, -, -, -, byte, place⟩ := supported
  have code := formatCode_mem ps bIsFormat2
  obtain ⟨high, low⟩ := control_bits _ code (nPinLenMax ps.wPINMaxExtraDigit)
  obtain ⟨noHigh, whole⟩ := code_bits _ code
  have coded : (if ps.bmFormatString &&& 0x03 = 0x02 then (0x01 : UInt8)
      else if bIsFormat2 = true then 0x02 else 0x00) = formatCode ps bIsFormat2 := rfl
  rw [coded] at byte
  refine ⟨?_, ?_, ?_⟩
  · rw [← byte]
    split
    · exact low
    · exact whole
  · rw [← byte, lengthNibble]
    split
    · exact high
    · exact noHigh
  · rw [← place, codedPosition]
    cases bIsFormat2 with
    | false => rfl
    | true => exact (block_position _ (position_lt ps.bmFormatString)).1

/-- Parameters that say of a structure what it says. -/
structure Denotes (ps : PIN_VERIFY_STRUCTURE) (supportTag51 : Bool) (timeout format : UInt8)
    (parameters : PinParameters) : Prop where
  timeOut : ps.bTimerOut ≠ 0 → timeout = ps.bTimerOut
  pinType : parameters.PinType = ps.bmFormatString &&& 0x03
  position : ¬ ps.Format2 → parameters.PinPosition = (ps.bmFormatString &&& 0x78) >>> 3
  format2Position : ps.Format2 →
    parameters.PinPosition = (max 1 ((ps.bmFormatString &&& 0x78) >>> 3) : UInt8)
  header : ∀ index < 4, parameters.buffer index = ps.abData index
  limits : ps.bEntryValidationCondition &&& 0x01 ≠ 0 →
    nPinLenMin ps.wPINMaxExtraDigit = nPinLenMax ps.wPINMaxExtraDigit →
      (pinLimits format parameters.Min parameters.Max
          (fixedTag supportTag51 (nPinLenMax ps.wPINMaxExtraDigit)) =
          (nPinLenMax ps.wPINMaxExtraDigit, nPinLenMax ps.wPINMaxExtraDigit) ↔
        (1 ≤ nPinLenMax ps.wPINMaxExtraDigit ∧ nPinLenMax ps.wPINMaxExtraDigit ≤ 15) ∨
          (supportTag51 = true ∧ ¬ ps.Format2))

/-- The message made from them agrees with the structure as far as the length does. -/
theorem agrees_iff (denotes : Denotes ps supportTag51 timeout format parameters)
    (tag51 : tags 0x51 = if supportTag51 = true then
      some [nPinLenMin ps.wPINMaxExtraDigit, nPinLenMax ps.wPINMaxExtraDigit] else none)
    (carries : Carries tags timeout format parameters message) :
    Agrees ps message ↔ LengthSurvives supportTag51 ps := by
  have direct : (IfdVerifyPinDirect ps).position = (ps.bmFormatString &&& 0x78) >>> 3 :=
    UInt8.add_zero _
  have limits : ps.bEntryValidationCondition &&& 0x01 ≠ 0 →
      nPinLenMin ps.wPINMaxExtraDigit = nPinLenMax ps.wPINMaxExtraDigit →
      (message.wPINMaxExtraDigit = ps.wPINMaxExtraDigit ↔
        (1 ≤ nPinLenMax ps.wPINMaxExtraDigit ∧ nPinLenMax ps.wPINMaxExtraDigit ≤ 15) ∨
          (supportTag51 = true ∧ ¬ ps.Format2)) := by
    intro condition fixed
    rw [carries.limits, tag51, fixed]
    exact denotes.limits condition fixed
  constructor
  · intro agrees condition fixed
    exact (limits condition fixed).mp (agrees.limits condition fixed)
  · intro survives
    exact {
      format := carries.pinType.trans denotes.pinType
      position := fun other => by rw [carries.position, denotes.position other, direct]
      format2Position := fun format2 => by
        rw [carries.position, denotes.format2Position format2, direct]
      timeout := fun some => carries.timeOut.trans (denotes.timeOut some)
      header := fun index inside => by rw [carries.data, denotes.header index inside]; rfl
      limits := fun condition fixed => (limits condition fixed).mpr (survives condition fixed) }

theorem stored_before (memory : Nat → UInt8) {offset index : Nat} (data : List UInt8)
    (before : index < offset) : stored memory offset data index = memory index :=
  if_neg (Nat.not_le.mpr before)

theorem stored_at (memory : Nat → UInt8) {offset index : Nat} {data : List UInt8} (inside : index < data.length) :
    stored memory offset data (offset + index) = data[index] := by
  rw [stored, if_pos (Nat.le_add_right _ _), Nat.add_sub_cancel_left]
  simp [inside]

theorem stored_zero (memory : Nat → UInt8) {index : Nat} {data : List UInt8}
    (inside : index < data.length) : stored memory 0 data index = data[index] := by
  have placed := @stored_at memory 0 index data inside
  rwa [Nat.zero_add] at placed

theorem stored_one (memory : Nat → UInt8) (offset : Nat) (byte : UInt8) : stored memory offset [byte] offset = byte :=
  @stored_at memory offset 0 [byte] Nat.one_pos

theorem stored_outside (memory : Nat → UInt8) {offset index : Nat} {data : List UInt8}
    (outside : index < offset ∨ offset + data.length ≤ index) : stored memory offset data index = memory index := by
  rw [stored]
  split
  · rw [List.getD_eq_getElem?_getD, List.getElem?_eq_none (by omega)]
    rfl
  · rfl

theorem stored_twice (memory : Nat → UInt8) (offset : Nat) (first second : UInt8) :
    stored (stored memory offset [first]) offset [second] = stored memory offset [second] := by
  funext index
  by_cases here : index = offset
  · rw [here, stored_one, stored_one]
  · have outside : index < offset ∨ offset + [second].length ≤ index := by
      simp only [List.length_singleton]
      omega
    rw [stored_outside _ outside, stored_outside _ outside]
    exact stored_outside _ outside

theorem bytesAt_stored (bytes : Nat → UInt8) (packet : List UInt8) :
    bytesAt (stored bytes 0 packet) 0 packet.length = packet := by
  apply List.ext_getElem
  · rw [length_bytesAt]
  · intro index inside withinPacket
    simp only [bytesAt, List.getElem_map, List.getElem_range, Nat.zero_add]
    exact stored_zero bytes withinPacket

theorem stored_header (memory : Nat → UInt8) {data : List UInt8} (long : 4 ≤ data.length) {index : Nat}
    (inside : index < 4) :
    stored memory 0 (if data.length = 4 then data ++ [0] else data) index = data[index] := by
  split
  · rw [stored_zero memory (by rw [List.length_append]; omega), List.getElem_append_left]
  · exact stored_zero memory (by omega)

theorem lengthNibble_fixed (condition : ps.bEntryValidationCondition &&& 0x01 ≠ 0)
    (fixed : nPinLenMin ps.wPINMaxExtraDigit = nPinLenMax ps.wPINMaxExtraDigit) :
    lengthNibble ps = (nPinLenMax ps.wPINMaxExtraDigit <<< 4) >>> 4 :=
  if_pos ⟨condition, fixed⟩

theorem format_mask : ∀ bmFormatString : UInt8,
    (bmFormatString &&& 0x07 = 0x01 → bmFormatString &&& 0x03 = 1) ∧
      (bmFormatString &&& 0x07 = 0x02 → bmFormatString &&& 0x03 = 2) ∧
      (bmFormatString &&& 0x83 = 0x81 → bmFormatString &&& 0x03 = 1) := by
  decide

theorem formatCode_cases {control position : UInt8}
    (supported : verifyControl ps (verifyFormat2 ps).1 = some (control, position)) :
    (formatCode ps (verifyFormat2 ps).1 = 0 ∧ ps.bmFormatString &&& 0x03 = 1 ∧ ¬ ps.Format2) ∨
      (formatCode ps (verifyFormat2 ps).1 = 1 ∧ ps.bmFormatString &&& 0x03 = 2 ∧ ¬ ps.Format2) ∨
      (formatCode ps (verifyFormat2 ps).1 = 2 ∧ ps.bmFormatString &&& 0x03 = 1 ∧ ps.Format2) := by
  obtain ⟨bcd, ascii, fpin2⟩ := format_mask ps.bmFormatString
  have known : ps.Supported := (verifyControl_isSome ps).mp (by rw [supported]; rfl)
  have other : ps.bmFormatString &&& 0x03 = 2 → ¬ ps.Format2 := by
    intro two format2
    rw [fpin2 format2.2.1] at two
    exact absurd two (by decide)
  rw [formatCode]
  rcases known.1 with coded | coded
  · have one := bcd coded
    rw [one, if_neg (by decide)]
    by_cases format2 : ps.Format2
    · exact .inr (.inr ⟨if_pos ((verifyFormat2_fst ps).mpr format2), rfl, format2⟩)
    · exact .inl ⟨if_neg (mt (verifyFormat2_fst ps).mp format2), rfl, format2⟩
  · have two := ascii coded
    exact .inr (.inl ⟨if_pos two, two, other two⟩)

section Formats

variable {buffer : Nat → UInt8} {taglen : Nat}

theorem denotes_bcd (format : ps.bmFormatString &&& 0x03 = 1) (plain : ¬ ps.Format2)
    (timeOut : ps.bTimerOut ≠ 0 → timeout = ps.bTimerOut)
    (header : ∀ index < 4, buffer index = ps.abData index) :
    Denotes ps supportTag51 timeout 0
      (pinBcd (lengthNibble ps) ((ps.bmFormatString &&& 0x78) >>> 3) buffer taglen) where
  timeOut := timeOut
  pinType := format.symm
  position := fun _ => rfl
  format2Position := fun format2 => absurd format2 plain
  header := fun index inside => (stored_before _ _ inside).trans (header index inside)
  limits := fun condition fixed => by
    rw [lengthNibble_fixed condition fixed]
    rw [and_iff_left plain]
    exact pinLimits_bcd _ supportTag51

theorem denotes_ascii (format : ps.bmFormatString &&& 0x03 = 2) (plain : ¬ ps.Format2)
    (timeOut : ps.bTimerOut ≠ 0 → timeout = ps.bTimerOut)
    (header : ∀ index < 4, buffer index = ps.abData index) :
    Denotes ps supportTag51 timeout 1
      (pinAscii (lengthNibble ps) ((ps.bmFormatString &&& 0x78) >>> 3) buffer taglen) where
  timeOut := timeOut
  pinType := format.symm
  position := fun _ => rfl
  format2Position := fun format2 => absurd format2 plain
  header := fun index inside => by
    rw [← header index inside]
    show (if taglen = 7 then buffer else stored buffer 4 [0]) index = buffer index
    split
    · rfl
    · exact stored_before _ _ inside
  limits := fun condition fixed => by
    rw [lengthNibble_fixed condition fixed]
    rw [and_iff_left plain]
    exact pinLimits_ascii _ supportTag51

/-- The position of the block goes down by one in the command and up again. -/
theorem denotes_format2 (format : ps.bmFormatString &&& 0x03 = 1) (format2 : ps.Format2)
    (timeOut : ps.bTimerOut ≠ 0 → timeout = ps.bTimerOut)
    (header : ∀ index < 4, buffer index = ps.abData index)
    (chosen : pinFormat2 (lengthNibble ps) (codedPosition ps true) buffer = some parameters) :
    Denotes ps supportTag51 timeout 2 parameters := by
  obtain ⟨-, offset, -⟩ := block_position _ (position_lt ps.bmFormatString)
  simp only [pinFormat2, Option.ite_none_left_eq_some, Option.some.injEq] at chosen
  obtain ⟨accepted, rfl⟩ := chosen
  exact {
    timeOut := timeOut
    pinType := format.symm
    position := fun plain => absurd format2 plain
    format2Position := fun _ => offset
    header := fun index inside => by
      have before : index < 4 + (codedPosition ps true + 1).toNat := by omega
      exact (stored_before _ _ before).trans ((stored_before _ _ inside).trans (header index inside))
    limits := fun condition fixed => by
      rw [lengthNibble_fixed condition fixed] at accepted ⊢
      have unhelpful : ¬ (supportTag51 = true ∧ ¬ ps.Format2) := fun both => both.2 format2
      rw [or_iff_left unhelpful]
      exact pinLimits_format2 _ supportTag51 accepted }

end Formats

/-- The command reaches the call with parameters that denote the structure. -/
theorem agrees_of_pinCommand {control position : UInt8} {data : List UInt8}
    (supported : verifyControl ps (verifyFormat2 ps).1 = some (control, position))
    (tag51 : tags 0x51 = if supportTag51 = true then
      some [nPinLenMin ps.wPINMaxExtraDigit, nPinLenMax ps.wPINMaxExtraDigit] else none)
    (timeOut : ps.bTimerOut ≠ 0 → timeout = ps.bTimerOut)
    (embedded : ∀ index (inside : index < data.length), data[index] = ps.abData index)
    (sent : (pinCommand tags stack timeout control position data).message = some message) :
    Agrees ps message ↔ LengthSurvives supportTag51 ps := by
  obtain ⟨code, nibble, place⟩ := control_eq supported
  have bits := position_lt ps.bmFormatString
  obtain ⟨-, -, within⟩ := block_position _ bits
  have position6 : position - 6 = codedPosition ps (verifyFormat2 ps).1 := by
    rw [place, UInt8.add_sub_cancel]
  simp only [pinCommand, code, nibble, position6] at sent
  by_cases short : data.length < 4 ∨ position ≤ 5
  · rw [if_pos short] at sent
    contradiction
  · rw [if_neg short] at sent
    have header : ∀ index < 4, stored stack.buffer 0
        (if data.length = 4 then data ++ [0] else data) index = ps.abData index := by
      intro index inside
      rw [stored_header _ (by omega) inside, embedded]
    generalize stored stack.buffer 0 (if data.length = 4 then data ++ [0] else data) = buffer
      at sent header
    generalize (if data.length = 4 then 7 else data.length + 2) = taglen at sent
    by_cases outside : data.length ≠ 4 ∧
        ((codedPosition ps (verifyFormat2 ps).1).toNat : Int) > taglen - 7
    · rw [if_pos outside] at sent
      contradiction
    · rw [if_neg outside] at sent
      have plainPosition : ¬ ps.Format2 → codedPosition ps (verifyFormat2 ps).1 =
          (ps.bmFormatString &&& 0x78) >>> 3 := by
        intro plain
        exact if_neg fun format2 => plain ((verifyFormat2_fst ps).mp format2)
      rcases formatCode_cases supported with ⟨kind, format, plain⟩ | ⟨kind, format, plain⟩ |
        ⟨kind, format, format2⟩
      · rw [kind, if_pos rfl, plainPosition plain] at sent
        exact agrees_iff (denotes_bcd format plain timeOut header) tag51
          (carries_callSecure (.inl rfl) bits sent)
      · rw [kind, if_neg (by decide), if_pos rfl, plainPosition plain] at sent
        exact agrees_iff (denotes_ascii format plain timeOut header) tag51
          (carries_callSecure (.inr rfl) bits sent)
      · rw [kind, if_neg (by decide), if_neg (by decide), if_pos rfl,
          (verifyFormat2_fst ps).mpr format2] at sent
        cases chosen : pinFormat2 (lengthNibble ps) (codedPosition ps true) buffer with
        | none =>
            rw [chosen] at sent
            contradiction
        | some parameters =>
            rw [chosen] at sent
            have denotes : Denotes ps supportTag51 timeout 2 parameters :=
              denotes_format2 format format2 timeOut header chosen
            have placed : parameters.PinPosition < 16 := by
              rw [denotes.format2Position format2]
              exact within
            exact agrees_iff denotes tag51
              (carries_callSecure (.inl (denotes.pinType.trans format)) placed sent)

theorem commandBytes_eq_bytesAt (memory : Nat → UInt8) (count : Nat) :
    commandBytes memory count = bytesAt memory 0 count := by
  simp [commandBytes, bytesAt]

section Command

variable {linux CheckUpdate : Bool} {objects : List DataObject}

/-- A command of data objects is taken apart into them. -/
theorem parse_objects (present : 0 < (DataObject.encodeAll objects).length)
    (bounded : (DataObject.encodeAll objects).length < 256)
    (stands : commandBytes cmd (5 + (DataObject.encodeAll objects).length) =
      [0x20, 0x18, 0x01, 0x00, UInt8.ofNat (DataObject.encodeAll objects).length] ++
        DataObject.encodeAll objects) :
    parseLengths linux cmd (5 + (DataObject.encodeAll objects).length) =
      some ⟨(DataObject.encodeAll objects).length, some 5, -1⟩ := by
  let apdu : CommandApdu :=
    ⟨0x20, 0x18, 0x01, 0x00, .case3Short ⟨DataObject.encodeAll objects, present, bounded⟩⟩
  have encoded : apdu.encode = commandBytes cmd (5 + (DataObject.encodeAll objects).length) := stands.symm
  rw [parseLengths_of_encode encoded]
  cases linux with
  | false => rfl
  | true => rfl

/-- And the handler finds them in the memory the command stands in. -/
theorem commandTag_objects (filled : ∀ object ∈ objects, object.value ≠ [])
    (stands : commandBytes cmd (5 + (DataObject.encodeAll objects).length) =
      [0x20, 0x18, 0x01, 0x00, UInt8.ofNat (DataObject.encodeAll objects).length] ++
        DataObject.encodeAll objects)
    (tagvalue : UInt8) :
    commandTag cmd ⟨(DataObject.encodeAll objects).length, some 5, -1⟩ tagvalue =
      (objects.find? fun object => object.tag = tagvalue).map DataObject.value := by
  have data : bytesAt cmd 5 (DataObject.encodeAll objects).length = DataObject.encodeAll objects := by
    have whole : bytesAt cmd 0 ([0x20, 0x18, 0x01, 0x00,
        UInt8.ofNat (DataObject.encodeAll objects).length] ++ DataObject.encodeAll objects).length =
        [0x20, 0x18, 0x01, 0x00, UInt8.ofNat (DataObject.encodeAll objects).length] ++
          DataObject.encodeAll objects := by
      rw [List.length_append, ← commandBytes_eq_bytesAt]
      exact stands
    exact (bytesAt_eq_append.mp whole).2
  exact getTag_encodeAll filled tagvalue (DataObject.length_le_encodeAll objects) data

/-- So a call is made with what the objects say. -/
theorem pinCommand_of_objects (filled : ∀ object ∈ objects, object.value ≠ [])
    (present : 0 < (DataObject.encodeAll objects).length)
    (bounded : (DataObject.encodeAll objects).length < 256)
    (stands : commandBytes cmd (5 + (DataObject.encodeAll objects).length) =
      [0x20, 0x18, 0x01, 0x00, UInt8.ofNat (DataObject.encodeAll objects).length] ++
        DataObject.encodeAll objects)
    {control position : UInt8} {data : List UInt8}
    (pin : (objects.find? fun object => object.tag = 0x52).map DataObject.value =
      some (control :: position :: data))
    (sent : verificationMessage linux CheckUpdate stack cmd
      (5 + (DataObject.encodeAll objects).length) = some message) :
    ∃ tags : UInt8 → Option (List UInt8),
      (∀ tagvalue, tags tagvalue =
        (objects.find? fun object => object.tag = tagvalue).map DataObject.value) ∧
      (pinCommand tags stack ((onlyByte (tags 0x80)).getD 15) control position data).message =
        some message := by
  have found := commandTag_objects filled stands
  rw [verificationMessage, parse_objects present bounded stands, Option.bind_some] at sent
  refine ⟨_, found, ?_⟩
  simp only [performVerification, (found 0x52).trans pin] at sent
  split at sent
  · contradiction
  · split at sent
    · contradiction
    · split at sent
      · contradiction
      · exact sent

end Command

section Structure

variable {lead data : List UInt8} (short : (lead ++ data).length < 256)

/-- What the handler finds in the command of a structure. -/
def findIn (ps : PIN_VERIFY_STRUCTURE) (supportTag51 : Bool) (tagvalue : UInt8) : Option (List UInt8) :=
  ((commandObjects ps.bTimerOut lead data short
    (limitsObjects supportTag51 ps.wPINMaxExtraDigit)).find? fun object =>
      object.tag = tagvalue).map DataObject.value

theorem findIn_timer (ps : PIN_VERIFY_STRUCTURE) (supportTag51 : Bool) :
    findIn short ps supportTag51 0x80 = if ps.bTimerOut ≠ 0 then some [ps.bTimerOut] else none := by
  rw [findIn, commandObjects, timerObjects, limitsObjects]
  split
  · rfl
  · cases supportTag51 <;> rfl

theorem findIn_pin (ps : PIN_VERIFY_STRUCTURE) (supportTag51 : Bool) :
    findIn short ps supportTag51 0x52 = some (lead ++ data) := by
  rw [findIn, commandObjects, timerObjects]
  split <;> rfl

theorem findIn_limits (ps : PIN_VERIFY_STRUCTURE) (supportTag51 : Bool) :
    findIn short ps supportTag51 0x51 = if supportTag51 = true then
      some [nPinLenMin ps.wPINMaxExtraDigit, nPinLenMax ps.wPINMaxExtraDigit] else none := by
  rw [findIn, commandObjects, timerObjects, limitsObjects]
  cases supportTag51 <;> split <;> rfl

theorem filled_commandObjects (nonempty : lead ≠ []) (ps : PIN_VERIFY_STRUCTURE) (supportTag51 : Bool) :
    ∀ object ∈ commandObjects ps.bTimerOut lead data short
      (limitsObjects supportTag51 ps.wPINMaxExtraDigit), object.value ≠ [] := by
  intro object member
  rw [commandObjects, List.append_assoc, List.mem_append, List.mem_append, List.mem_singleton] at member
  rcases member with timer | rfl | limits
  · rw [timerObjects] at timer
    split at timer
    · rw [List.mem_singleton.mp timer]
      exact List.cons_ne_nil _ _
    · contradiction
  · simp [nonempty]
  · rw [limitsObjects] at limits
    split at limits
    · rw [List.mem_singleton.mp limits]
      exact List.cons_ne_nil _ _
    · contradiction

end Structure

/-- A message for the command made of a structure agrees with what `IfdVerifyPinDirect`
sends for it exactly when the length survives the command. -/
theorem verification_agrees_iff {linux CheckUpdate : Bool}
    (made : verifyStructToCtapi supportTag51 ps 256 = .made apdu dataRead)
    (stands : commandBytes cmd apdu.length = apdu)
    (sent : verificationMessage linux CheckUpdate stack cmd apdu.length = some message) :
    Agrees ps message ↔ LengthSurvives supportTag51 ps := by
  obtain ⟨control, position, count, supported, admitted, rfl⟩ := verify_made made
  have size := length_command 0x18 ps.bTimerOut [control, position] ((List.range count).map ps.abData)
    (DataObject.encodeAll (limitsObjects supportTag51 ps.wPINMaxExtraDigit))
  have offset := front_le ps.bTimerOut
  have start := le_front ps.bTimerOut
  have short : ([control, position] ++ (List.range count).map ps.abData).length < 256 := by
    have room := admitted.1
    simp only [List.length_append, List.length_cons, List.length_nil, List.length_map, List.length_range]
    omega
  have whole := @command_eq 0x18 ps.bTimerOut [control, position] _ short
    (limitsObjects supportTag51 ps.wPINMaxExtraDigit)
  rw [whole] at stands sent size
  rw [List.length_append] at stands sent size
  have tail : (DataObject.encodeAll (limitsObjects supportTag51 ps.wPINMaxExtraDigit)).length =
      if supportTag51 = true then 4 else 0 := by
    rw [limitsObjects]
    split <;> rfl
  simp only [List.length_cons, List.length_nil, List.length_map, List.length_range, tail] at size
  have limit : supportTag51 = true → front ps.bTimerOut + count + 2 + 6 < 256 := admitted.2
  have room : front ps.bTimerOut + count + 2 < 256 := admitted.1
  have bounded : (DataObject.encodeAll (commandObjects ps.bTimerOut [control, position]
      ((List.range count).map ps.abData) short
      (limitsObjects supportTag51 ps.wPINMaxExtraDigit))).length < 256 := by
    split at size
    · rename_i supported51
      have enough := limit supported51
      omega
    · omega
  have present : 0 < (DataObject.encodeAll (commandObjects ps.bTimerOut [control, position]
      ((List.range count).map ps.abData) short
      (limitsObjects supportTag51 ps.wPINMaxExtraDigit))).length := by
    omega
  obtain ⟨tags, found, call⟩ := pinCommand_of_objects
    (filled_commandObjects short (List.cons_ne_nil control [position]) ps supportTag51) present bounded
    stands (findIn_pin short ps supportTag51) sent
  have timer := (found 0x80).trans (findIn_timer short ps supportTag51)
  have limits := (found 0x51).trans (findIn_limits short ps supportTag51)
  refine agrees_of_pinCommand supported limits ?_ ?_ call
  · intro some
    rw [timer, if_pos some]
    rfl
  · intro index inside
    simp

/-- A BCD pin of a fixed length from the second byte behind the header on. -/
def fixedPin (length : UInt8) : PIN_VERIFY_STRUCTURE where
  bTimerOut := 0x1e
  bmFormatString := 0x89
  bmPINBlockString := 0x08
  bmPINLengthFormat := 0x00
  wPINMaxExtraDigit := (length.toUInt16 <<< (8 : UInt16)) + length.toUInt16
  bEntryValidationCondition := 0x01
  bNumberMessage := 0x01
  wLangId := 0x0409
  bMsgIndex := 0x00
  bTeoPrologue := [0x00, 0x00, 0x00]
  ulDataLength := 0x0d
  abData index := [0x00, 0x20, 0x00, 0x81, 0x08, 0xff, 0xff, 0xff, 0xff, 0xff, 0xff, 0xff, 0xff].getD index 0

/-- The command for it, as far as the length nibble is free. -/
def fixedPinCommand (nibble : UInt8) : List UInt8 :=
  [0x20, 0x18, 0x01, 0x00, 0x14, 0x80, 0x01, 0x1e, 0x52, 0x0f, nibble, 0x07,
    0x00, 0x20, 0x00, 0x81, 0x08, 0xff, 0xff, 0xff, 0xff, 0xff, 0xff, 0xff, 0xff]

def emptyStack : Stack := ⟨fun _ => 0, (0, 0)⟩

theorem sixDigits_agree_iff :
    ∃ message, verificationMessage false false emptyStack (inMemory (fixedPinCommand 0x60))
        (fixedPinCommand 0x60).length = some message ∧
      (Agrees (fixedPin 6) message ↔ LengthSurvives false (fixedPin 6)) := by
  have made : verifyStructToCtapi false (fixedPin 6) 256 = .made (fixedPinCommand 0x60) 13 := by
    decide +kernel
  have stands : commandBytes (inMemory (fixedPinCommand 0x60)) (fixedPinCommand 0x60).length =
      fixedPinCommand 0x60 := by
    decide +kernel
  obtain ⟨message, sent⟩ : ∃ message, verificationMessage false false emptyStack
      (inMemory (fixedPinCommand 0x60)) (fixedPinCommand 0x60).length = some message := ⟨_, rfl⟩
  exact ⟨message, sent, verification_agrees_iff made stands sent⟩

/-- A pin of 16 digits becomes one of 1 to 30. -/
theorem sixteenDigits_not_agree :
    verifyStructToCtapi false (fixedPin 16) 256 = .made (fixedPinCommand 0x00) 13 ∧
      ∃ message, verificationMessage false false emptyStack (inMemory (fixedPinCommand 0x00))
          (fixedPinCommand 0x00).length = some message ∧ ¬ Agrees (fixedPin 16) message := by
  refine ⟨by decide +kernel, _, rfl, fun agrees => ?_⟩
  have limits := agrees.limits (by decide) (by decide)
  exact absurd limits (by decide)

end Cyberjack.Eca
