import Cyberjack.Eca.Handlers

namespace Cyberjack.Eca

open Cyberjack.Foundation

/-! # `_IfdTransmit`

The function of `EC30Reader.cpp` that sends a command to the card, with the
commands to the reader itself that it and the derived classes answer before.
-/

/-- What `_IfdTransmit` returns. -/
inductive TransmitResult where
  | of (result : IfdResult)
  | invalidParameter
deriving Repr, DecidableEq

/-- The result, the memory behind `response`, and `*response_len`. -/
structure Transmission where
  Res : TransmitResult
  response : Nat → UInt8
  response_len : Nat

/-- Where a command is answered without the card: the memory and the size of the
response. -/
structure Room where
  response : Nat → UInt8
  response_len : Nat

namespace Room

/-- The bytes copied to the response, and the length set behind the copy. -/
def answers (room : Room) (copied : List UInt8) (length : Nat) : Transmission :=
  ⟨.of .success, written room.response copied, length⟩

def tooSmall (room : Room) : Transmission := ⟨.of .bufferTooSmall, room.response, 0⟩

/-- A text with the status word behind it, where it fits. -/
def text (room : Room) (characters : List UInt8) : Transmission :=
  if room.response_len ≥ characters.length + 2 then
    room.answers (characters ++ [0x90, 0x00]) (characters.length + 2)
  else room.tooSmall

end Room

/-- `%04X` -/
def hex4 (number : UInt32) : List UInt8 :=
  let digits := (Nat.toDigits 16 number.toNat).map fun digit => digit.toUpper.val.toUInt8
  List.replicate (4 - digits.length) 0x30 ++ digits

/-- A PID and its status word; the zero of the text is the second byte of the status word. -/
def pidAnswer (room : Room) (PID : UInt32) : Transmission :=
  if room.response_len ≥ 6 then room.answers (hex4 PID ++ [0x90, 0x00]) 6 else room.tooSmall

/-- `FF 9A 01 xx 00` in `CEC30Reader`; `none` where the card is asked. -/
def readerIdentity (reader : CtReader) (room : Room) (P2 : UInt8) : Option Transmission :=
  if P2 = 1 then
    some (if room.response_len ≥ 12 then
      room.answers [0x52, 0x45, 0x49, 0x4e, 0x45, 0x52, 0x20, 0x53, 0x43, 0x54, 0x90, 0x00] 12
    else room.tooSmall)
  else if P2 = 2 then
    some (if room.response_len ≥ 6 then room.answers [0x30, 0x43, 0x34, 0x42, 0x90, 0x00] 6
      else room.tooSmall)
  else if P2 = 3 then some (room.text reader.ProductString)
  else if P2 = 4 then some (pidAnswer room reader.PID)
  else if P2 = 6 then
    some (if room.response_len ≥ 5 then
      room.answers (decimal (asInt (reader.Version >>> 4)) ++ [0x2e] ++
        decimal (asInt (reader.Version &&& 0x0f)) ++ [0x90, 0x00]) 5
    else room.tooSmall)
  else if P2 = 7 then some (room.text reader.packageVersion)
  else if P2 = 8 then
    some (if (room.response_len ≥ 7 ∧ reader.inputBufferSize ≤ 99999) ∨
        (room.response_len ≥ 6 ∧ reader.inputBufferSize ≤ 9999) then
      room.answers [0x37, 0x36, 0x38, 0x90, 0x00] 5
    else room.tooSmall)
  else if P2 = 9 then
    some (if room.response_len ≥ 8 then
      room.answers [0x34, 0x32, 0x34, 0x32, 0x35, 0x30, 0x90, 0x00] 18
    else room.tooSmall)
  else none

/-- `FF 9A 01 xx 00` in the derived classes. -/
def derivedIdentity (reader : CtReader) (room : Room) (P2 : UInt8) : Option Transmission :=
  if reader.ecr ∧ P2 = 3 then
    some (room.text [0x63, 0x79, 0x62, 0x65, 0x72, 0x4a, 0x61, 0x63, 0x6b, 0x20, 0x52, 0x46, 0x49,
      0x44, 0x20, 0x6b, 0x6f, 0x6d, 0x66, 0x6f, 0x72, 0x74, 0x20, 0x28, 0x54, 0x65, 0x73, 0x74, 0x29])
  else if P2 = 4 then reader.derivedPID.map (pidAnswer room)
  else none

/-- `FF CA` with an identifier of `length` bytes; `fits` is the comparison of their sum with
the room. -/
def identifier (room : Room) (data : Nat → UInt8) (length : Nat) (fits : Prop) [Decidable fits]
    (Le : UInt8) : Transmission :=
  if fits ∧ (Le = 0 ∨ Le.toNat ≥ length) then
    let bytes := bytesAt data 0 length
    if Le ≠ 0 ∧ Le.toNat > length then
      room.answers (bytes ++ List.replicate (Le.toNat - length) 0 ++ [0x62, 0x82]) (Le.toNat + 2)
    else room.answers (bytes ++ [0x90, 0x00]) (length + 2)
  else if room.response_len ≥ 2 then room.answers [0x6C, UInt8.ofNat length] 2
  else ⟨.of .bufferTooSmall, room.response, room.response_len⟩

/-- `ccidTransmit` -/
def transmitTpdu (tpdu : List UInt8) (response_len : Nat) : Handler (IfdResult × List UInt8) := do
  if tpdu.length > 1014 then return (.bufferOverflow, [])
  else
    let reply : CcidReply ← ask (.Transfer tpdu)
    let received := ccidTransmit tpdu response_len reply
    if .powerDown ∈ received.1 then
      let _ ← ask (.IfdPower .powerDown 0)
      return received.2
    else return received.2

/-- `return ccidTransmit(...)` to the memory of the caller. -/
def transmitCommand (room : Room) (cmd : List UInt8) : Handler Transmission := do
  let received ← transmitTpdu cmd room.response_len
  if received.1 = .success then return room.answers received.2 received.2.length
  else if received.1 = .deviceNotConnected then
    return ⟨.of received.1, room.response, room.response_len⟩
  else return ⟨.of received.1, room.response, 0⟩

/-! ## Case 2 over T=0 -/

/-- The locals of case 2; `ges_len` is how far `response` has been moved. -/
structure Case2State where
  head : List UInt8
  rbuffer : Nat → UInt8
  rlen : Nat
  ges_len : Nat
  room : Room

/-- The inner loop: the reply to a TPDU, repeated while another length is asked for. -/
def retransmit (m_ApduNorm : ApduNorm) (head : List UInt8) (Le : UInt8) :
    Nat → UInt8 → (Nat → UInt8) → Handler (Except (IfdResult × Bool) ((Nat → UInt8) × Nat))
  | 0, _, _ => StateT.lift .stuck
  | passes + 1, La, rbuffer => do
      let received ← transmitTpdu (head ++ [La]) 258
      if received.1 ≠ .success then return .error (received.1, false)
      else
        let rbuffer := written rbuffer received.2
        let rlen := received.2.length
        if m_ApduNorm = .pcsc then return .ok (rbuffer, rlen)
        else if rlen < 2 then return .error (.ioTimeout, true)
        else
          let cut : Bool := Le ≠ 0 ∧ Le < La
          let rbuffer := if cut then stored rbuffer Le.toNat (bytesAt rbuffer La.toNat 2) else rbuffer
          let rlen := if cut then Le.toNat + 2 else rlen
          if rlen = 2 ∧ rbuffer 0 = 0x6C then
            retransmit m_ApduNorm head Le passes (rbuffer 1) rbuffer
          else return .ok (rbuffer, rlen)

/-- The outer loop, entered with the length that is asked for. -/
def case2Loop (m_ApduNorm : ApduNorm) (response_len inner : Nat) :
    Nat → Case2State → Handler Transmission
  | 0, _ => StateT.lift .stuck
  | passes + 1, state => do
      let Le := state.rbuffer (state.rlen - 1)
      let reply ← retransmit m_ApduNorm state.head Le inner Le (stored state.rbuffer 0 [0x6C, Le])
      match reply with
      | .error (result, clears) =>
          return ⟨.of result, state.room.response, if clears then 0 else response_len⟩
      | .ok (rbuffer, rlen) =>
          if state.ges_len + rlen > response_len then
            return ⟨.of .bufferTooSmall, state.room.response, 0⟩
          else
            let response := stored state.room.response state.ges_len (bytesAt rbuffer 0 rlen)
            let ges_len := uint16 (state.ges_len + ((rlen : Int) - 2))
            if m_ApduNorm ≠ .pcsc ∧ rbuffer (rlen - 2) = 0x61 then
              case2Loop m_ApduNorm response_len inner passes
                ⟨[0x00, 0xC0, 0x00, 0x00], rbuffer, rlen, ges_len, ⟨response, response_len⟩⟩
            else return ⟨.of .success, response, uint16 (ges_len + 2)⟩

/-! ## Case 4 over T=0 -/

/-- What stands on the stack where `_IfdTransmit` does not write. -/
structure TransmitStack where
  rbuffer : Buffer UInt8 258
  beyond : Int → UInt8

def case4Apdu (cmd : Nat → UInt8) (cmd_len : Nat) (counted : cmd_len = 6 + (cmd 4).toNat ∧ cmd 4 ≠ 0) :
    Case4Apdu where
  cmd := commandBytes cmd cmd_len
  counted := by
    have inside : 4 < cmd_len := by omega
    rw [length_commandBytes, show (commandBytes cmd cmd_len).getD 4 0 = cmd 4 from
      inMemory_commandBytes inside]
    exact counted.1
  nonempty := by
    have inside : 4 < cmd_len := by omega
    rw [show (commandBytes cmd cmd_len).getD 4 0 = cmd 4 from inMemory_commandBytes inside]
    exact counted.2

/-- The passes of `case4Body` with the replies of the reader. -/
def case4Loop {capacity : Nat} (stack : TransmitStack) (le : UInt8) (response : Buffer UInt8 capacity) :
    Nat → Case4State → Handler (Outcome capacity)
  | 0, _ => StateT.lift .stuck
  | passes + 1, state => do
      let reply : CcidReply ← ask (.Transfer state.tpdu)
      let pass := case4Body stack.beyond le response state reply
      if .powerDown ∈ pass.1 then
        let _ ← ask (.IfdPower .powerDown 0)
      match pass.2 with
      | .done outcome => return outcome
      | .again next => case4Loop stack le response passes next

def transmitCase4 (stack : TransmitStack) (passes : Nat) (room : Room) (apdu : Case4Apdu) :
    Handler Transmission := do
  let response : Buffer UInt8 room.response_len :=
    ⟨bytesAt room.response 0 room.response_len, length_bytesAt _ _ _⟩
  let outcome ← case4Loop stack apdu.le response passes (case4Start apdu stack.rbuffer)
  match outcome with
  | .fault => StateT.lift .stuck
  | .returned result response response_len =>
      return ⟨.of result, written room.response response.cells, response_len⟩

/-! ## The function -/

/-- The card is asked. -/
def transmitToCard (reader : CtReader) (stack : TransmitStack) (passes : Nat) (room : Room)
    (cmd : Nat → UInt8) (cmd_len : Nat) : Handler Transmission := do
  let members ← get
  if members.card.m_ActiveProtocol = SCARD_PROTOCOL_T0 ∧ reader.m_bIsRF = false then
    if cmd_len = 4 then transmitCommand room (bytesAt cmd 0 4 ++ [0])
    else if cmd_len = 5 then
      case2Loop reader.m_ApduNorm room.response_len passes passes
        ⟨bytesAt cmd 0 4, stored (inMemory stack.rbuffer.cells) 0 [0x61, cmd 4], 2, 0, room⟩
    else if cmd_len = 5 + (cmd 4).toNat ∧ cmd 4 ≠ 0 then transmitCommand room (commandBytes cmd cmd_len)
    else if counted : cmd_len = 6 + (cmd 4).toNat ∧ cmd 4 ≠ 0 then
      transmitCase4 stack passes room (case4Apdu cmd cmd_len counted)
    else return ⟨.invalidParameter, room.response, room.response_len⟩
  else transmitCommand room (commandBytes cmd cmd_len)

/-- `FF CA` of a contactless card: its serial number, or the historical bytes of its ATR. -/
def contactlessData (reader : CtReader) (room : Room) (P1 Le : UInt8) : Transmission :=
  if P1 = 0 then
    identifier room reader.m_SerialNumber reader.m_SerialNumberLength.toNat
      (room.response_len ≥ reader.m_SerialNumberLength + 2) Le
  else
    identifier room (fun index => reader.m_ATR (4 + index)) (uint32 (reader.m_ATR_Length - 5))
      (room.response_len ≥ uint32 (reader.m_ATR_Length - 3)) Le

/-- `_IfdTransmit` of the class of the reader. -/
def _IfdTransmit (reader : CtReader) (stack : TransmitStack) (passes : Nat) (room : Room)
    (cmd : Nat → UInt8) (cmd_len : Nat) : Handler Transmission := do
  let identity : Option Transmission :=
    if cmd_len = 5 ∧ cmd 0 = 0xff ∧ cmd 1 = 0x9a ∧ cmd 2 = 0x01 ∧ cmd 4 = 0 then
      (derivedIdentity reader room (cmd 3)).or (readerIdentity reader room (cmd 3))
    else none
  match identity with
  | some answer => return answer
  | none =>
      if reader.ecr ∧ reader.m_bIsRF ∧ cmd_len = 5 ∧ cmd 0 = 0xff ∧ cmd 1 = 0xca ∧ cmd 2 ≤ 0x01 ∧
          cmd 3 = 0 then
        return contactlessData reader room (cmd 2) (cmd 4)
      else transmitToCard reader stack passes room cmd cmd_len

end Cyberjack.Eca
