import Cyberjack.Eca.IfdTransmit
import Cyberjack.Eca.PinHandlers

namespace Cyberjack.Eca

open Cyberjack.Foundation

/-! # `CtData`

The handlers that are left, and the dispatch of `_CtData` of `CCIDReader.cpp`.
-/

/-! ## 80 60 -/

/-- The value of a tag of the data field; it is looked for without the lengths of the command. -/
def parameterTag (cmd : Nat → UInt8) (tagvalue : UInt8) : Option (List UInt8) :=
  GetTag cmd tagvalue (cmd 4).toNat 5 (cmd 4).toNat

/-- A tag whose value is one byte: no result for a value of another length. -/
def singleTag (cmd : Nat → UInt8) (tagvalue : UInt8) : Option (Option UInt8) :=
  match parameterTag cmd tagvalue with
  | none => some none
  | some [byte] => some (some byte)
  | some _ => none

/-- Tag 44: the width of an address, and the size of a page. -/
def setPages (byte : UInt8) : Handler Unit := do
  let m_iic_offset_bytes : UInt8 := if byte &&& 0xf0 = 0x90 then 2 else 1
  let m_iic_pagesize := UInt8.ofNat (1 <<< (byte &&& 0x0f).toNat)
  modify fun members => { members with m_iic_offset_bytes, m_iic_pagesize }
  ask (.SetSyncParameters m_iic_offset_bytes m_iic_pagesize)

/-- `m_ActiveProtocol` is the one that tag 22 names. -/
def Names (m_ActiveProtocol : UInt32) (byte : UInt8) : Prop :=
  (m_ActiveProtocol = SCARD_PROTOCOL_T0 ∧ byte = 1) ∨ (m_ActiveProtocol = SCARD_PROTOCOL_T1 ∧ byte = 2)

instance (m_ActiveProtocol : UInt32) (byte : UInt8) : Decidable (Names m_ActiveProtocol byte) :=
  inferInstanceAs (Decidable (_ ∨ _))

/-- Tag 22: the protocol; another one than the active one resets the card. -/
def changeProtocol (call : CtCall) (byte : UInt8) : Handler CtReturn := do
  let members ← get
  let m_ActiveProtocol := members.card.m_ActiveProtocol
  if m_ActiveProtocol ≠ SCARD_PROTOCOL_T0 ∧ m_ActiveProtocol ≠ SCARD_PROTOCOL_T1 then
    return call.status 0x90 0x00
  else if Names m_ActiveProtocol byte then return call.status 0x90 0x01
  else
    let _ ← ask (.IfdPower .powerDown 0)
    let reset : BcsReset ← ask (.ctBcsReset byte 0)
    let members ← get
    if reset.Res = .success ∧ Names members.card.m_ActiveProtocol byte then
      return call.status 0x90 (if reset.atr 0 = 0x3b ∨ reset.atr 0 = 0x3f then 0x01 else 0x00)
    else return call.status 0x64 0xA3

/-- Tag 45 and tag 22, behind tag 44. -/
def setAddress (call : CtCall) : Handler CtReturn := do
  match singleTag call.cmd 0x45 with
  | none => return call.status 0x67 0x00
  | some tag45 =>
      modify fun members => { members with m_iic_deviceaddr := tag45.getD members.m_iic_deviceaddr }
      match singleTag call.cmd 0x22 with
      | none => return call.status 0x67 0x00
      | some none => return call.status 0x90 0x00
      | some (some byte) => changeProtocol call byte

/-- `cmd[0]==0x80 && cmd[1]==0x60` -/
def setInterface (call : CtCall) : Handler CtReturn := do
  if call.cmd 2 ≠ 0x01 ∨ call.cmd 3 ≠ 0x00 then return call.status 0x6A 0x00
  else if call.cmd 4 < 3 then return call.status 0x67 0x00
  else
    match singleTag call.cmd 0x44 with
    | none => return call.status 0x67 0x00
    | some none => setAddress call
    | some (some byte) =>
        setPages byte
        setAddress call

/-! ## 20 70 to 20 76 -/

/-- `memmove(memory+target,memory+source,count)` -/
def moved (memory : Nat → UInt8) (target source count : Nat) : Nat → UInt8 :=
  stored memory target (bytesAt memory source count)

/-- The data behind P2, pushed together in the command buffer. -/
def applicationInput (cmd : Nat → UInt8) (lengths : Lengths) (lenc : Nat) : List UInt8 :=
  let cmd := moved cmd 0 3 (lenc - 3)
  let cmd := moved cmd 1 (lengths.data_ptr.getD 0 - 3) lengths.Lc.toNat
  bytesAt cmd 0 (lengths.Lc.toNat + 1)

/-- `KTLightCall` of `EC30Reader.cpp` behind its checks. -/
def applicationCall (reader : CtReader) (call : CtCall) (Function : UInt8) (InputData : List UInt8) :
    Handler CtReturn := do
  let result : ApplicationResult ←
    ask (.CtApplicationData (!reader.ktLight) Function InputData (UInt32.ofNat (call.lenr - 2)))
  let response := written call.response result.response
  match result.Res with
  | .success =>
      if result.ApplicationError.length > 2 then return ⟨-10, 1, 2, response, 0⟩
      else
        return ⟨0, 1, 2, stored response result.response.length result.ApplicationError,
          result.response.length + result.ApplicationError.length⟩
  | .errCheckResult => return ⟨0, 1, 2, written response [0x69, 0x85], 2⟩
  | .errWriteDevice | .errDeviceLost => return ⟨-128, 1, 2, response, 0⟩
  | .errRbufferToSmall => return ⟨-11, 1, 2, response, 0⟩
  | _ => return ⟨-10, 1, 2, response, 0⟩

/-- `lenc` is counted without Le. -/
def KTLightCall (reader : CtReader) (call : CtCall) (lengths : Lengths) : Handler CtReturn := do
  if call.cmd 2 ≠ 0 ∨ call.cmd 3 ≠ 0 then return call.status 0x6A 0x00
  else if lengths.Lc = -1 then return call.status 0x67 0x00
  else if call.cmd 1 = 0x72 ∨ call.cmd 1 = 0x73 ∨ call.cmd 1 = 0x76 then
    if lengths.Le ≠ -1 then return call.status 0x6C 0x00
    else applicationCall reader call (call.cmd 1 - 0x70) (applicationInput call.cmd lengths call.lenc)
  else if lengths.Le ≠ 0 then return call.status 0x6C 0x00
  else applicationCall reader call (call.cmd 1 - 0x70) (applicationInput call.cmd lengths (call.lenc - 1))

/-! ## The dispatch -/

/-- What the stack and the passes of the loops are. -/
structure Frame where
  pin : Stack
  transmit : TransmitStack
  passes : Nat

/-- `cmd[0]==0x20` -/
def class20 (reader : CtReader) (frame : Frame) (call : CtCall) (lengths : Lengths) :
    Handler CtReturn := do
  let INS := call.cmd 1
  if INS = 0x10 then resetCT false call lengths
  else if INS = 0x11 then resetCT true call lengths
  else if INS = 0x12 then requestIcc call lengths
  else if INS = 0x13 then getStatus reader call lengths
  else if INS = 0x14 then deactivateIcc call lengths
  else if INS = 0x15 then ejectIcc call lengths
  else if INS = 0x16 ∧ reader.IsClass2 ∧ (reader.IsClass3 = false ∨ reader.mktComp) then
    performInput frame.passes call lengths
  else if INS = 0x17 ∧ reader.IsClass3 ∧ reader.mktComp then performOutput call lengths
  else if INS = 0x18 ∧ reader.IsClass2 then performVerify reader frame.pin call lengths
  else if INS = 0x19 ∧ reader.IsClass2 then performModify reader frame.pin call lengths
  else if INS ≥ 0x70 ∧ INS ≤ 0x76 ∧ reader.IsClass3 ∧ (reader.ktLight ∨ reader.ktLightGC) then
    KTLightCall reader call lengths
  else return call.status 0x6D 0x00

/-- `*dad==1 && *sad==2`, behind the head of `_CtData`. -/
def commandToReader (reader : CtReader) (frame : Frame) (call : CtCall) (lengths : Lengths) :
    Handler CtReturn := do
  let CLA := call.cmd 0
  if CLA = 0x00 then
    if call.cmd 1 = 0xA4 then
      let members ← get
      let selected := selectFile members.files call lengths
      set { members with files := selected.1 }
      return selected.2
    else if call.cmd 1 = 0xB0 then
      let members ← get
      return readBinary members.files call
    else return call.status 0x6D 0x00
  else if CLA = 0x20 then class20 reader frame call lengths
  else if CLA = 0x80 then
    if call.cmd 1 = 0x60 then setInterface call else return call.status 0x6D 0x00
  else return call.status 0x6E 0x00

/-- The answer of the card, or the status word for an error; `_IfdTransmit` never returns
`STATUS_INVALID_DEVICE_STATE`. -/
def cardAnswer (sent : Transmission) : CtReturn :=
  let status (sw1 sw2 : UInt8) : CtReturn := ⟨0, 1, 2, written sent.response [sw1, sw2], 2⟩
  match sent.Res with
  | .of .success => ⟨0, 0, 2, sent.response, sent.response_len⟩
  | .of .ioTimeout | .of .deviceProtocolError => status 0x6f 0x00
  | .invalidParameter => status 0x67 0x00
  | .of .bufferTooSmall => ⟨-11, 0, 2, sent.response, 0⟩
  | .of .deviceNotConnected => ⟨-128, 0, 2, sent.response, 0⟩
  | .of .bufferOverflow => ⟨-1, 0, 2, sent.response, 0⟩

/-- `*dad==0 && *sad==2` -/
def commandToCard (reader : CtReader) (frame : Frame) (call : CtCall) : Handler CtReturn := do
  if call.lenr < 2 then return ⟨-11, 0, 2, call.response, call.lenr⟩
  else
    let sent ← _IfdTransmit reader frame.transmit frame.passes ⟨call.response, call.lenr⟩ call.cmd call.lenc
    return cardAnswer sent

/-- `_CtData`; `call.cmd` is the command buffer. -/
def ctCommand (reader : CtReader) (frame : Frame) (call : CtCall) : Handler CtReturn := do
  if call.ToReader then
    if call.lenr < 2 then return ⟨-11, call.sad, call.dad, call.response, 0⟩
    else
      match parseLengths reader.linux call.cmd call.lenc with
      | none => return ⟨0, call.sad, call.dad, written call.response [0x67, 0x00], 2⟩
      | some lengths => commandToReader reader frame call lengths
  else if call.dad = 0 ∧ call.sad = 2 then commandToCard reader frame call
  else return ⟨-1, call.sad, call.dad, call.response, 0⟩

/-- `memcpy(cmd_buffer,cmd,lenc)`: behind the command stands what was there before. -/
def copiedCommand (cmd_buffer : Nat → UInt8) (cmd : List UInt8) : Nat → UInt8 := written cmd_buffer cmd

/-- `CtData` with what its command buffer holds. -/
def CtData (reader : CtReader) (frame : Frame) (cmd_buffer : Nat → UInt8) (sad dad : UInt8)
    (cmd : List UInt8) (response : Nat → UInt8) (lenr : Nat) : Handler CtReturn :=
  ctCommand reader frame ⟨sad, dad, copiedCommand cmd_buffer cmd, cmd.length, response, lenr⟩

end Cyberjack.Eca
