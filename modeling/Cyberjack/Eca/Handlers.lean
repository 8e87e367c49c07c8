import Cyberjack.Foundation.Dialog
import Cyberjack.Eca.CardState
import Cyberjack.Eca.ReaderFiles
import Cyberjack.Eca.SecurePin
import Cyberjack.Eca.T0Case4

namespace Cyberjack.Eca

open Cyberjack.Foundation

/-! # The handlers of the reader commands

The commands of class 20 of `_CtData` of `CCIDReader.cpp` that do without a PIN.
A handler asks the virtual functions of the reader object; each of them may
change the two members that tell of the card.
-/

/-- The results that the handlers tell apart. -/
inductive CJ_RESULT where
  | success
  | errWriteDevice
  | errDeviceLost
  | errNoIcc
  | errParity
  | errTimeout
  | errRbufferToSmall
  | errProt
  | errNoActiveIcc
  | errPinTimeout
  | errPinCanceled
  | errPinDifferent
  | errWrongParameter
  | errCheckResult
  | errConditionOfUse
  | errPinExtended
  | other
deriving Repr, DecidableEq

/-- The arguments of `cjccid_SecureMV` for MODIFY VERIFICATION; `Text` holds the texts that
`TextCount` counts. -/
structure ModifyArguments where
  Timeout : UInt8
  PinPosition : UInt8
  PinType : UInt8
  PinLengthSize : UInt8
  PinLength : UInt8
  PinLengthPosition : UInt8
  Min : UInt8
  Max : UInt8
  bConfirmPIN : UInt8
  Condition : UInt8
  Prologue : List UInt8
  OffsetOld : UInt8
  OffsetNew : UInt8
  out : Nat → UInt8
  out_len : Nat
  Text : List (List UInt8)
  bMessageIndex : List UInt8
  bNumberMessage : UInt8

/-- The functions of the reader object that a handler calls; `Transfer` sends a
PC_TO_RDR_XFRBLOCK message with the bytes named. -/
inductive VirtualCall where
  | IfdPower (Mode : PowerMode) (Timeout : Nat)
  | IfdGetState
  | ctBcsReset (prevered : UInt8) (Timeout : Nat)
  | SetSyncParameters (AddrByteCount PageSize : UInt8)
  | SetKeyInterruptCallback (restored : Bool)
  | cjInput (timeout : UInt8) (tag50 : List UInt8)
  | cjOutput (timeout : UInt8) (tag50 : List UInt8)
  | cjccid_SecurePV (arguments : SecureArguments)
  | cjccid_SecureMV (arguments : SecureArguments) (OffsetNew : UInt8)
  | cjccid_SecureMV_modify (arguments : ModifyArguments)
  | CtApplicationData (lightGC : Bool) (Function : UInt8) (InputData : List UInt8)
      (ResponseLength : UInt32)
  | Transfer (abData : List UInt8)

/-- What `ctBcsReset` leaves in its arguments. -/
structure BcsReset where
  Res : CJ_RESULT
  atr : Nat → UInt8
  atr_len : UInt8
  historical : Nat → UInt8
  hist_len : UInt8

/-- `rbuffer` and `inlen` behind a PIN function. -/
structure SecureResult where
  Res : CJ_RESULT
  rbuffer : List UInt8

/-- What `CtApplicationData` leaves in its arguments. -/
structure ApplicationResult where
  Res : CJ_RESULT
  response : List UInt8
  ApplicationError : List UInt8

def VirtualCall.Result : VirtualCall → Type
  | IfdPower _ _ => RSCT_IFD_RESULT
  | IfdGetState => RSCT_IFD_RESULT × ReaderState
  | ctBcsReset _ _ => BcsReset
  | SetSyncParameters _ _ => Unit
  | SetKeyInterruptCallback _ => Unit
  | cjInput _ _ => CJ_RESULT × UInt8
  | cjOutput _ _ => CJ_RESULT
  | cjccid_SecurePV _ => SecureResult
  | cjccid_SecureMV _ _ => SecureResult
  | cjccid_SecureMV_modify _ => SecureResult
  | CtApplicationData _ _ _ _ => ApplicationResult
  | Transfer _ => CcidReply

/-- The members that tell of the card. -/
structure CardMembers where
  m_ReaderState : ReaderState
  m_ActiveProtocol : UInt32
deriving DecidableEq

def VirtualCall.Reply (called : VirtualCall) : Type := called.Result × CardMembers

/-- The members of the reader object that `_CtData` uses. -/
structure CtMembers where
  files : ReaderFiles
  m_iic_offset_bytes : UInt8
  m_iic_pagesize : UInt8
  m_iic_deviceaddr : UInt8
  card : CardMembers
deriving DecidableEq

/-- What does not change during a command: the class of the reader, its module
table and what it says of itself. -/
structure CtReader where
  linux : Bool
  IsClass2 : Bool
  IsClass3 : Bool
  CheckUpdate : Bool
  /-- `FindModule(MODULE_ID_MKT_COMP)` -/
  mktComp : Bool
  /-- `FindModule(MODULE_ID_KT_LIGHT)` -/
  ktLight : Bool
  /-- `FindModule(MODULE_ID_KT_LIGHT_GC)` -/
  ktLightGC : Bool
  /-- The `Revision` of `FindModule(MODULE_ID_KERNEL)`. -/
  kernelRevision : Option UInt32
  HardwareMask : UInt32
  Version : UInt32
  productString : List UInt8
  ecom_a_ident : Bool
  PID : UInt32
  /-- `m_ReaderInfo.ProductString` up to its end. -/
  ProductString : List UInt8
  packageVersion : List UInt8
  inputBufferSize : Nat
  m_ApduNorm : ApduNorm
  m_bIsRF : Bool
  /-- Whether `_IfdTransmit` is that of `CECRReader`. -/
  ecr : Bool
  /-- The PID that the `_IfdTransmit` of a derived class names. -/
  derivedPID : Option UInt32
  m_SerialNumber : Nat → UInt8
  m_SerialNumberLength : Int
  m_ATR : Nat → UInt8
  m_ATR_Length : Nat

abbrev Handler := StateT CtMembers (Dialog VirtualCall VirtualCall.Reply)

def ask (called : VirtualCall) : Handler called.Result := do
  let told ← (Dialog.request called : Dialog VirtualCall VirtualCall.Reply called.Reply)
  modify fun members => { members with card := told.2 }
  return told.1

namespace CtCall

/-- A return with `*lenr=0`. -/
def cleared (call : CtCall) (ret : Int) : CtReturn := ⟨ret, 1, 2, call.response, 0⟩

/-- A return that leaves `*lenr` as it is. -/
def untouched (call : CtCall) (ret : Int) : CtReturn := ⟨ret, 1, 2, call.response, call.lenr⟩

end CtCall

/-! ## RESET and REQUEST ICC -/

/-- Where the three commands that activate a card differ. -/
structure ResetAnswers where
  clearsAtr : Bool
  clearsHistorical : Bool
  noIcc : UInt8 × UInt8
  canceled : Bool
  clearsOther : Bool

/-- The part behind the checks of 20 10, 20 11 and 20 12. -/
def resetCard (call : CtCall) (answers : ResetAnswers) (P2 : UInt8) (Timeout : Nat) :
    Handler CtReturn := do
  let reset : BcsReset ← ask (.ctBcsReset 0 Timeout)
  let sw2 : UInt8 := if reset.atr 0 = 0x3b ∨ reset.atr 0 = 0x3f then 0x01 else 0x00
  match reset.Res with
  | .success =>
      if P2 = 0 then return call.status 0x90 sw2
      else
        let clears := if P2 = 1 then answers.clearsAtr else answers.clearsHistorical
        let length := if P2 = 1 then reset.atr_len.toNat else reset.hist_len.toNat
        let copied := bytesAt (if P2 = 1 then reset.atr else reset.historical) 0 length
        if length + 2 > call.lenr then
          let _ ← ask (.IfdPower .powerDown 0)
          return if clears then call.cleared (-11) else call.untouched (-11)
        else return call.answers (copied ++ [0x90, sw2]) (length + 2)
  | .errParity | .errTimeout | .errProt => return call.status 0x64 0x00
  | .errNoIcc => return call.status answers.noIcc.1 answers.noIcc.2
  | .errPinCanceled =>
      if answers.canceled then return call.status 0x64 0x01
      else
        let _ ← ask (.IfdPower .powerDown 0)
        return if answers.clearsOther then call.cleared (-128) else call.untouched (-128)
  | _ =>
      let _ ← ask (.IfdPower .powerDown 0)
      return if answers.clearsOther then call.cleared (-128) else call.untouched (-128)

/-- `cmd[1]==0x10` and `cmd[1]==0x11`; they differ in what is left in `*lenr`. -/
def resetCT (clearsAtr : Bool) (call : CtCall) (lengths : Lengths) : Handler CtReturn := do
  if call.cmd 2 > 1 ∨ (call.cmd 2 = 0 ∧ call.cmd 3 ≠ 0) ∨ (call.cmd 2 = 1 ∧ call.cmd 3 > 2) then
    return call.status 0x6A 0x00
  else if call.cmd 2 = 1 ∧ call.cmd 3 > 0 ∧ (lengths.Lc ≠ -1 ∨ lengths.Le ≠ 0) then
    return call.status 0x67 0x00
  else
    let _ ← ask (.IfdPower .powerDown 0)
    if call.cmd 2 = 0x01 then resetCard call ⟨clearsAtr, true, (0x64, 0xA1), false, false⟩ (call.cmd 3) 0
    else return call.status 0x90 0x00

/-- The time in tag 80, or as the only byte of the data: `none` for a tag of another
length, `some none` where there is no time. -/
def waitingTime (call : CtCall) (lengths : Lengths) : Option (Option UInt8) :=
  if lengths.Lc = 1 then some (call.data lengths).head?
  else
    match commandTag call.cmd lengths 0x80 with
    | none => some none
    | some [time] => some (some time)
    | some _ => none

/-- `cmd[1]==0x12` -/
def requestIcc (call : CtCall) (lengths : Lengths) : Handler CtReturn := do
  let P2 := call.cmd 3 &&& 0x0f
  if call.cmd 2 ≠ 1 ∨ P2 > 2 then return call.status 0x6A 0x00
  else if P2 > 0 ∧ lengths.Le ≠ 0 then return call.status 0x67 0x00
  else
    let state : RSCT_IFD_RESULT × ReaderState ← ask .IfdGetState
    if state.1 = .deviceNotConnected then return call.cleared (-128)
    else if state.2 = .specific then return call.status 0x62 0x01
    else
      match waitingTime call lengths with
      | none => return call.status 0x67 0x00
      | some time =>
          resetCard call ⟨false, false, (0x62, 0x00), true, true⟩ P2 ((time.getD 0).toNat * 1000)

/-! ## GET STATUS -/

/-- `cmd[3]==0x80` -/
def iccStatus (call : CtCall) : Handler CtReturn := do
  if call.lenr < 5 then return call.cleared (-11)
  else
    let begun := written call.response [0x80, 1]
    let state : RSCT_IFD_RESULT × ReaderState ← ask .IfdGetState
    if state.1 = .deviceNotConnected then return ⟨-128, 1, 2, begun, 0⟩
    else
      match state.2 with
      | .specific | .negotiable => return call.answers [0x80, 1, 0x05, 0x90, 0x00] 5
      | .swallowed => return call.answers [0x80, 1, 0x03, 0x90, 0x00] 5
      | .absent => return call.answers [0x80, 1, 0x00, 0x90, 0x00] 5
      | _ => return ⟨-128, 1, 2, begun, 0⟩

/-- The functional units with their bits in `HardwareMask`, in the order of the source. -/
def functionalUnits : List (UInt32 × UInt8) :=
  [(0x01, 1), (0x02, 2), (0x04, 3), (0x08, 4), (0x10, 5), (0x20, 6), (0x40, 7), (0x80, 8),
    (0x100, 0x40), (0x100, 0x50), (0x400, 0x70)]

/-- `cmd[3]==0x81` -/
def unitStatus (reader : CtReader) (call : CtCall) : CtReturn :=
  let units := (functionalUnits.filter fun unit => reader.HardwareMask &&& unit.1 ≠ 0).map Prod.snd
  if call.lenr < units.length + 4 then call.cleared (-11)
  else call.answers ([0x81, UInt8.ofNat units.length] ++ units ++ [0x90, 0x00]) (units.length + 4)

/-- `%d` -/
def decimal (number : Int) : List UInt8 := (toString number).toList.map fun digit => digit.val.toUInt8

/-- An `int` made of a `uint32_t`. -/
def asInt (word : UInt32) : Int := word.toBitVec.toInt

/-- `%3d` -/
def decimal3 (number : Int) : List UInt8 :=
  List.replicate (3 - (decimal number).length) 0x20 ++ decimal number

/-- `" V%1d.%1d"` with its terminating zero. -/
def versionText (reader : CtReader) : List UInt8 :=
  let high := if reader.ecom_a_ident then 2 else asInt (reader.Version >>> 4)
  let low := if reader.ecom_a_ident then 0 else asInt (reader.Version &&& 0x0f)
  [0x20, 0x56] ++ decimal high ++ [0x2e] ++ decimal low ++ [0x00]

/-- `cmd[3]==0x46`: each copy is made in the memory of the caller, the end of a text
is overwritten by the next one. -/
def manufacturerStatus (reader : CtReader) (call : CtCall) : CtReturn :=
  if call.lenr < 19 then call.cleared (-11)
  else
    let response := stored call.response 0 [0x46]
    let response := stored response 2 [0x44, 0x45, 0x53, 0x43, 0x54]
    let response := stored response 7 reader.productString
    match reader.kernelRevision with
    | none => ⟨-128, 1, 2, response, 0⟩
    | some Revision =>
        let response := stored response 12 (versionText reader)
        if call.lenr ≥ 29 then
          let response := stored response 17 [0x3b, 0x20, 0x52, 0x65, 0x76, 0x2e, 0x20]
          let response := stored response 24 (decimal3 (asInt Revision) ++ [0x00])
          let response := stored response 1 [25]
          ⟨0, 1, 2, stored response 27 [0x90, 0x00], 29⟩
        else
          let response := stored response 1 [15]
          ⟨0, 1, 2, stored response 17 [0x90, 0x00], 19⟩

/-- `cmd[1]==0x13` -/
def getStatus (reader : CtReader) (call : CtCall) (lengths : Lengths) : Handler CtReturn := do
  let members ← get
  if call.lenc = 4 ∧ call.cmd 2 = 0x01 ∧ call.cmd 3 = 0x00 then
    if call.lenr < 8 then return call.cleared (-11)
    else
      let protocol : UInt8 := if members.card.m_ActiveProtocol = SCARD_PROTOCOL_T1 then 1 else 0
      return call.answers [0x71, 0x01, 0x00, 0x72, 0x01, protocol, 0x90, 0x00] 8
  else if lengths.Lc ≠ -1 ∨ lengths.Le ≠ 0 then return call.status 0x67 0x00
  else if call.cmd 2 > 1 ∨
      (call.cmd 2 = 0 ∧ call.cmd 3 ≠ 0x46 ∧ call.cmd 3 ≠ 0x80 ∧ call.cmd 3 ≠ 0x81) ∨
      (call.cmd 2 = 1 ∧ call.cmd 3 ≠ 0x80) then
    return call.status 0x6A 0x00
  else if call.cmd 3 = 0x80 then iccStatus call
  else if call.cmd 3 = 0x81 then return unitStatus reader call
  else return manufacturerStatus reader call

/-! ## DEACTIVATE and EJECT ICC -/

/-- `cmd[1]==0x14` -/
def deactivateIcc (call : CtCall) (lengths : Lengths) : Handler CtReturn := do
  if lengths.Lc ≠ -1 ∨ lengths.Le ≠ 0 then return call.status 0x6A 0x00
  else if call.cmd 2 ≠ 1 ∨ call.cmd 3 ≠ 0 then return call.status 0x6A 0x00
  else
    let power : RSCT_IFD_RESULT ← ask (.IfdPower .powerDown 0)
    let members ← get
    if power ≠ .success then return call.untouched (-10)
    else if members.card.m_ReaderState ≠ .absent then return call.status 0x90 0x00
    else return call.status 0x64 0xA1

/-- The part of EJECT ICC behind the second power-down. -/
def ejected (call : CtCall) (power : RSCT_IFD_RESULT) : Handler CtReturn := do
  if power ≠ .success then return call.untouched (-10)
  else
    let state : RSCT_IFD_RESULT × ReaderState ← ask .IfdGetState
    if state.1 = .deviceNotConnected then return call.untouched (-10)
    else if state.2 = .absent then return call.status 0x90 0x01
    else return call.status 0x62 0x00

/-- `cmd[1]==0x15` -/
def ejectIcc (call : CtCall) (lengths : Lengths) : Handler CtReturn := do
  if call.cmd 2 ≠ 1 then return call.status 0x6A 0x00
  else if call.lenc ≠ 4 ∧ (lengths.Lc = -1 ∨ lengths.Le ≠ -1) then return call.status 0x67 0x00
  else
    let power : RSCT_IFD_RESULT ← ask (.IfdPower .powerDown 0)
    if power ≠ .success then return call.untouched (-10)
    else if call.cmd 3 &&& 0x04 ≠ 0x04 ∧ call.lenc > 4 then
      match waitingTime call lengths with
      | none => return call.status 0x67 0x00
      | some none => return call.status 0x90 0x00
      | some (some time) =>
          let power : RSCT_IFD_RESULT ← ask (.IfdPower .powerDown (time.toNat * 1000))
          ejected call power
    else return call.status 0x90 0x00

end Cyberjack.Eca
