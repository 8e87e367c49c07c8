import Cyberjack.Eca.Handlers

namespace Cyberjack.Eca

open Cyberjack.Foundation

/-! # The handlers of the keypad commands

INPUT, OUTPUT, PERFORM VERIFICATION and MODIFY VERIFICATION of `_CtData` of
`CCIDReader.cpp`.
-/

/-! ## INPUT and OUTPUT -/

/-- What is shown while a key is awaited; `buffer` holds the keys so far. -/
def inputText (P2 : UInt8) (tag50 buffer : List UInt8) : List UInt8 :=
  if P2 &&& 0x0f = 0 then tag50
  else if P2 &&& 0x0f = 1 then tag50 ++ buffer
  else tag50 ++ List.replicate buffer.length 0x2a

/-- The loop of INPUT: an answer, or the keys.  A key that does not count is taken
back by `i--`, so the passes are bounded from outside. -/
def inputKeys (call : CtCall) (P2 : UInt8) (tag50 : List UInt8) (charlen : Nat) :
    Nat → List UInt8 → UInt8 → Handler (CtReturn ⊕ List UInt8)
  | 0, _, _ => StateT.lift .stuck
  | passes + 1, buffer, timeout => do
      if buffer.length ≥ charlen then return .inr buffer
      else
        let input : CJ_RESULT × UInt8 ← ask (.cjInput timeout (inputText P2 tag50 buffer))
        let key := input.2
        if input.1 ≠ .success then return .inl (call.cleared (-128))
        else if key = 0xff then return .inl (call.status 0x64 0x00)
        else if P2 &&& 0xf0 = 0x10 then
          if (key ≠ 10 ∧ key ≠ 11) ∨ charlen = 1 then
            inputKeys call P2 tag50 charlen passes (buffer ++ [key]) 5
          else if key = 10 then return .inl (call.status 0x64 0x01)
          else return .inr buffer
        else if key < 10 then
          inputKeys call P2 tag50 charlen passes (buffer ++ [key + 0x30]) 5
        else if key = 10 then return .inl (call.status 0x64 0x01)
        else if key = 11 then return .inr buffer
        else inputKeys call P2 tag50 charlen passes buffer 5

/-- The keys as the answer, where they fit. -/
def keyAnswer (call : CtCall) (buffer : List UInt8) : CtReturn :=
  if call.lenr < buffer.length + 2 then call.cleared (-11)
  else call.answers (buffer ++ [0x90, 0x00]) (buffer.length + 2)

/-- INPUT while the callback is set aside. -/
def inputCharacters (passes : Nat) (call : CtCall) (lengths : Lengths) : Handler CtReturn := do
  match waitingTime call lengths with
  | none => return call.status 0x67 0x00
  | some time =>
      let charlen := if lengths.Le = 0 then 256 else lengths.Le.toNat
      let tag50 := ((commandTag call.cmd lengths 0x50).map TransformText).getD []
      let keys ← inputKeys call (call.cmd 3) tag50 charlen passes [] (time.getD 15)
      match keys with
      | .inl answer => return answer
      | .inr buffer => return keyAnswer call buffer

/-- `cmd[1]==0x16` -/
def performInput (passes : Nat) (call : CtCall) (lengths : Lengths) : Handler CtReturn := do
  if lengths.Le = -1 then return call.status 0x67 0x00
  else if call.cmd 2 ≠ 0x50 ∨ call.cmd 3 &&& 0x0f > 0x02 ∨ call.cmd 3 &&& 0xf0 > 0x10 ∨
      (call.cmd 3 &&& 0xf0 = 0x10 ∧ lengths.Le ≠ 1) then
    return call.status 0x6A 0x00
  else
    let _ ← ask (.SetKeyInterruptCallback false)
    let answer ← inputCharacters passes call lengths
    let _ ← ask (.SetKeyInterruptCallback true)
    return answer

/-- OUTPUT behind the search for its objects. -/
def outputText (call : CtCall) (timeout : UInt8) (tag50 : List UInt8) : Handler CtReturn := do
  if tag50 = [] then return call.status 0x6A 0x82
  else
    let Res : CJ_RESULT ← ask (.cjOutput timeout (TransformText tag50))
    if Res = .success then return call.status 0x90 0x00 else return call.status 0x69 0x85

/-- `cmd[1]==0x17` -/
def performOutput (call : CtCall) (lengths : Lengths) : Handler CtReturn := do
  if lengths.Lc = -1 ∨ lengths.Le ≠ -1 then return call.status 0x67 0x00
  else if call.cmd 2 ≠ 0x40 ∨ call.cmd 3 ≠ 0 then return call.status 0x6A 0x00
  else
    let tag80 := commandTag call.cmd lengths 0x80
    if tag80.isSome ∧ onlyByte tag80 = none then return call.status 0x6A 0x82
    else outputText call ((onlyByte tag80).getD 0) ((commandTag call.cmd lengths 0x50).getD [])

/-! ## The answers of the PIN commands -/

/-- The `switch` over the result; `modify` for that of MODIFY VERIFICATION, which names one
result more and misses a `return`. -/
def secureAnswer (modify : Bool) (call : CtCall) (result : SecureResult) : CtReturn :=
  match result.Res with
  | .success | .errPinExtended =>
      if call.lenr < result.rbuffer.length then call.cleared (-11)
      else
        ⟨0, if result.Res = .success then 0 else 1, 2, written call.response result.rbuffer,
          result.rbuffer.length⟩
  | .errPinCanceled => call.status 0x64 0x01
  | .errPinTimeout => call.status 0x64 0x00
  | .errPinDifferent => if modify then call.status 0x64 0x02 else call.status 0x6B 0x80
  | .errNoIcc => call.status 0x64 0xA1
  | .errNoActiveIcc => call.status 0x64 0xA2
  | .errWrongParameter => call.status 0x6B 0x80
  | .errConditionOfUse => call.status 0x69 0x85
  | .errWriteDevice | .errDeviceLost => call.cleared (-128)
  | .errRbufferToSmall => call.cleared (-11)
  | .errParity | .errTimeout => if modify then call.status 0x6B 0x80 else call.status 0x6F 0x00
  | _ => call.status 0x6B 0x80

/-- `cmd[1]==0x18` -/
def performVerify (reader : CtReader) (stack : Stack) (call : CtCall) (lengths : Lengths) :
    Handler CtReturn := do
  match performVerification reader.CheckUpdate stack call.cmd lengths with
  | .answered sw1 sw2 => return call.status sw1 sw2
  | .securePV arguments =>
      let result : SecureResult ← ask (.cjccid_SecurePV arguments)
      return secureAnswer false call result
  | .secureMV arguments OffsetNew =>
      let result : SecureResult ← ask (.cjccid_SecureMV arguments OffsetNew)
      return secureAnswer false call result

/-! ## MODIFY VERIFICATION -/

/-- `GetTag`: the pointer it returns, and `taglen`. -/
def tagAt (memory : Nat → UInt8) (tagvalue : UInt8) : Nat → Nat → Int → Option (Nat × Nat)
  | 0, _, _ => none
  | passes + 1, start, len =>
      if len > 2 then
        let tlen := (memory (start + 1)).toNat
        if memory start = tagvalue then some (start + 2, tlen)
        else tagAt memory tagvalue passes (start + 2 + tlen) (len - (tlen + 2))
      else none

/-- `TransformText` in place. -/
def transformAt (memory : Nat → UInt8) (tag len index : Nat) : UInt8 :=
  if tag ≤ index ∧ index < tag + len ∧ memory index = 0x0d then 0x0a else memory index

/-- The loop over the texts: the memory behind it, and the texts it counts. -/
def searchTexts (memory : Nat → UInt8) (cmd_ptr : Nat) (cmd_len : Int) :
    List Nat → (Nat → UInt8) × List (Nat × Nat)
  | [] => (memory, [])
  | i :: rest =>
      match tagAt memory 0x50 cmd_len.toNat cmd_ptr cmd_len with
      | none => (memory, [])
      | some (tag50, taglen50) =>
          if cmd_len < 2 + taglen50 then (memory, [])
          else
            let counts : Bool := i = 0 ∨ i = 3 ∨ i = 4
            let memory := if counts then transformAt memory tag50 taglen50 else memory
            let later := searchTexts memory (cmd_ptr + 2 + taglen50) (cmd_len - (2 + taglen50)) rest
            (later.1, if counts then (tag50, taglen50) :: later.2 else later.2)

/-- `Max` for a PIN without a fixed length: twice or once the distance of the two PINs,
or what is left of the template behind the later one. -/
def distanceMax (differs : Bool) (factor : Nat) (limit PinPositionOld PinPositionNew : UInt8)
    (taglen : Nat) : UInt8 :=
  if differs then
    let distance := UInt8.ofNat (factor * ((PinPositionNew.toNat : Int) - PinPositionOld.toNat).natAbs)
    let behind : Int := ((taglen : Int) - 8 - max PinPositionNew.toNat PinPositionOld.toNat) * factor
    let Max := if taglen ≠ 8 ∧ behind > distance.toNat then UInt8.ofInt behind else distance
    let Max := if Max > limit then limit else Max
    if Max = 0 then limit else Max
  else limit

/-- What the `switch` over the pin format sets. -/
def modifyBcd (PinLength Max : UInt8) (buffer : Nat → UInt8) (taglen : Nat) : PinParameters where
  PinType := 1
  PinPosition := 0
  PinLengthSize := 0
  PinLengthPosition := 0
  PinLength :=
    if PinLength = 0 then (Max >>> 1) + (Max &&& 1) else PinLength / 2 + (PinLength &&& 1)
  Min := if PinLength = 0 then 1 else PinLength
  Max := if PinLength = 0 then Max else PinLength
  Condition := if PinLength = 0 then 2 else 1
  buffer := stored buffer 4 [0]
  outlen := if taglen = 8 then 5 else taglen - 3

def modifyAscii (PinLength Max : UInt8) (buffer : Nat → UInt8) (taglen : Nat) : PinParameters where
  PinType := 2
  PinPosition := 0
  PinLengthSize := 0
  PinLengthPosition := 0
  PinLength := if PinLength = 0 then Max else PinLength
  Min := if PinLength = 0 then 1 else PinLength
  Max := if PinLength = 0 then Max else PinLength
  Condition := if PinLength = 0 then 2 else 1
  buffer := stored buffer 4 [0]
  outlen := if taglen = 8 then 5 else taglen - 3

/-- Empty PIN blocks are put behind the positions, that of the old PIN only where it is asked for. -/
def modifyFormat2 (PinLength bConfirmPIN PinPositionOld PinPositionNew : UInt8)
    (buffer : Nat → UInt8) : Option PinParameters :=
  if PinPositionNew > 240 ∨ PinPositionOld > 240 then none
  else if PinLength ≠ 0 ∧ (PinLength < 4 ∨ PinLength > 12) then none
  else
    let lc := if (buffer 4).toNat < PinPositionOld.toNat + 8 then PinPositionOld + 8 else buffer 4
    let lc := if lc.toNat < PinPositionNew.toNat + 8 then PinPositionNew + 8 else lc
    let block := 0x2f :: List.replicate 7 0xff
    let buffer := stored buffer 4 [lc]
    let buffer :=
      if bConfirmPIN &&& 2 ≠ 0 then stored buffer (5 + PinPositionOld.toNat) block else buffer
    some {
      PinType := 1
      PinPosition := 1
      PinLengthSize := 4
      PinLengthPosition := 4
      PinLength := 7
      Min := if PinLength = 0 then 4 else PinLength
      Max := if PinLength = 0 then 12 else PinLength
      Condition := if PinLength = 0 then 2 else 1
      buffer := stored buffer (5 + PinPositionNew.toNat) block
      outlen := lc.toNat + 5 }

/-- How the command goes on. -/
inductive Modification where
  | answered (sw1 sw2 : UInt8)
  | secureMV (arguments : ModifyArguments)

/-- `bMessageIndex` behind tag 53. -/
def messageIndices (tag53 : Option (List UInt8)) : List UInt8 :=
  match tag53 with
  | some [first, second, third] => [first, if second = 0 then 1 else second, third]
  | _ => [0, 1, 0]

/-- The part behind the `switch` over the pin format. -/
def callModify (stack : Stack) (cmd : Nat → UInt8) (lengths : Lengths)
    (timeout format bConfirmPIN PinPositionOld PinPositionNew : UInt8) (parameters : PinParameters) :
    ModifyArguments :=
  let limits := pinLimits format parameters.Min parameters.Max (commandTag cmd lengths 0x51)
  let searched := searchTexts cmd (lengths.data_ptr.getD 0) lengths.Lc [0, 1, 2, 3, 4]
  { Timeout := timeout
    PinPosition := parameters.PinPosition
    PinType := parameters.PinType
    PinLengthSize := parameters.PinLengthSize
    PinLength := parameters.PinLength
    PinLengthPosition := parameters.PinLengthPosition
    Min := limits.1
    Max := limits.2
    bConfirmPIN := bConfirmPIN ||| 1
    Condition := parameters.Condition
    Prologue := [0, stack.Prologue.1, stack.Prologue.2]
    OffsetOld := PinPositionOld
    OffsetNew := PinPositionNew
    out := parameters.buffer
    out_len := parameters.outlen
    Text := searched.2.map fun text => bytesAt searched.1 text.1 text.2
    bMessageIndex := messageIndices (commandTag searched.1 lengths 0x53)
    bNumberMessage := (onlyByte (commandTag searched.1 lengths 0x54)).getD 0xff }

/-- The position of the old PIN and `bConfirmPIN`. -/
def oldPosition (first second : UInt8) : Option (UInt8 × UInt8) :=
  if first > 5 ∧ first ≠ second then some (first - 6, 2)
  else if second > 5 ∧ first = second then some (0, 0)
  else none

def newPosition (format first second PinPositionOld : UInt8) : Option UInt8 :=
  if second > 5 then some (second - 6)
  else if second = 0 then some (if format = 2 ∧ first ≠ 0 then PinPositionOld + 8 else 0)
  else none

/-- Tag 52: control byte, the two positions, and the embedded APDU. -/
def modifyCommand (stack : Stack) (cmd : Nat → UInt8) (lengths : Lengths)
    (timeout control first second : UInt8) (apdu : List UInt8) : Modification :=
  let PinLength := control >>> 4
  let format := control &&& 3
  if apdu.length < 4 then .answered 0x67 0x00
  else
    match oldPosition first second with
    | none => .answered 0x67 0x00
    | some (PinPositionOld, bConfirmPIN) =>
        match newPosition format first second PinPositionOld with
        | none => .answered 0x67 0x00
        | some PinPositionNew =>
            let taglen := if apdu.length = 4 then 8 else apdu.length + 3
            let buffer := stored stack.buffer 0 (if apdu.length = 4 then apdu ++ [0] else apdu)
            let differs : Bool := first > 5 ∧ first ≠ second
            let go (parameters : PinParameters) : Modification :=
              .secureMV (callModify stack cmd lengths timeout format bConfirmPIN PinPositionOld
                PinPositionNew parameters)
            if format = 0 then
              go (modifyBcd PinLength (distanceMax differs 2 30 PinPositionOld PinPositionNew taglen)
                buffer taglen)
            else if format = 1 then
              go (modifyAscii PinLength (distanceMax differs 1 15 PinPositionOld PinPositionNew taglen)
                buffer taglen)
            else if format = 2 then
              match modifyFormat2 PinLength bConfirmPIN PinPositionOld PinPositionNew buffer with
              | none => .answered 0x67 0x00
              | some parameters => go parameters
            else .answered 0x6A 0x00

/-- `cmd[1]==0x19` up to the call of `cjccid_SecureMV`. -/
def modifyVerification (CheckUpdate : Bool) (stack : Stack) (cmd : Nat → UInt8) (lengths : Lengths) :
    Modification :=
  if cmd 2 ≠ 1 ∨ cmd 3 ≠ 0 then .answered 0x6A 0x00
  else if CheckUpdate = true then .answered 0x6A 0x03
  else if lengths.Lc < 9 ∨ lengths.Le ≠ -1 then .answered 0x67 0x00
  else
    let tag80 := commandTag cmd lengths 0x80
    if tag80.isSome ∧ onlyByte tag80 = none then .answered 0x67 0x00
    else
      match commandTag cmd lengths 0x52 with
      | some (control :: first :: second :: apdu) =>
          modifyCommand stack cmd lengths ((onlyByte tag80).getD 15) control first second apdu
      | _ => .answered 0x67 0x00

/-- `cmd[1]==0x19` -/
def performModify (reader : CtReader) (stack : Stack) (call : CtCall) (lengths : Lengths) :
    Handler CtReturn := do
  match modifyVerification reader.CheckUpdate stack call.cmd lengths with
  | .answered sw1 sw2 => return call.status sw1 sw2
  | .secureMV arguments =>
      let result : SecureResult ← ask (.cjccid_SecureMV_modify arguments)
      return secureAnswer true call result

end Cyberjack.Eca
