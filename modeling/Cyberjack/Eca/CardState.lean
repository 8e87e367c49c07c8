import Mathlib.Data.Nat.Bitwise
import Cyberjack.Foundation.Loop
import Cyberjack.Eca.Transfer

namespace Cyberjack.Eca

open Cyberjack.Foundation

/-! # The state of the card

`IfdPower`, `IfdSetProtocol` and `IfdGetState` with what they do to the state,
the protocols and the ATR that a reader object stores.  An operation takes one
exchange for every message it sends.
-/

inductive RSCT_IFD_RESULT where
  | success
  | deviceNotConnected
  | noMedia
  | unrecognizedMedia
  | cancelled
  | ioTimeout
  | invalidParameter
  | invalidDeviceRequest
  | notSupported
deriving Repr, DecidableEq

/-- `bStatus & 3`: 0 for an active card, 1 for an inactive one and 2 for none. -/
def CCID_Response.slot (Response : CCID_Response) : UInt8 := Response.bStatus &&& 3

/-- A response that `Transfer` accepts, with the request and the reader object it meets. -/
structure Accepted where
  request : UInt8
  before : CCCIDReader
  Response : CCID_Response

/-- The state of an operation. -/
structure Session where
  reader : CCCIDReader
  exchanges : List Exchange
  accepted : List Accepted

/-- One `Transfer`; the operation waits when there is no exchange for it. -/
def Session.transfer (inputBufferSize : Nat) (Message : CCID_Message) (session : Session) :
    Option (Option CCID_Response × Session) :=
  match session.exchanges with
  | [] => none
  | exchange :: rest =>
      match Transfer inputBufferSize Message exchange session.reader with
      | none => none
      | some (.failed _, reader) => some (none, ⟨reader, rest, session.accepted⟩)
      | some (.received Response _, reader) =>
          some (some Response,
            ⟨reader, rest, session.accepted ++ [⟨Message.bMessageType, session.reader, Response⟩]⟩)

def PC_TO_RDR_SETPARAMETERS : UInt8 := 0x61
def PC_TO_RDR_ICCPOWERON : UInt8 := 0x62
def PC_TO_RDR_ICCPOWEROFF : UInt8 := 0x63
def PC_TO_RDR_GETSLOTSTATUS : UInt8 := 0x65
def RDR_TO_PC_DATABLOCK : UInt8 := 0x80
def RDR_TO_PC_SLOTSTATUS : UInt8 := 0x81

/-! ## The ATR -/

def GetBits (Value : UInt8) : Nat := (List.range 8).countP fun bit => Value.toNat.testBit bit

theorem getBits_le (Value : UInt8) : GetBits (Value &&& 0xf0) ≤ 4 := by
  revert Value
  decide

theorem getBits_pos {Value : UInt8} (more : Value &&& 0x80 ≠ 0) : 0 < GetBits (Value &&& 0xf0) := by
  revert Value
  decide

/-- The loop of `check_len`: the length of the interface bytes, and whether a
protocol other than T=0 is named.  `len` grows in every pass that goes on. -/
def interfaceBytes (atr : Nat → UInt8) (buf_len : Nat) : Nat → Nat → Bool → Nat × Bool
  | 0, len, t1 => (len, t1)
  | passes + 1, len, t1 =>
      let Tx := atr (1 + len)
      let behind := len + GetBits (Tx &&& 0xf0)
      if buf_len ≥ behind ∧ Tx &&& 0x80 ≠ 0 then
        let named := t1 || atr (1 + behind) &&& 0x0f != 0
        if buf_len > behind then interfaceBytes atr buf_len passes behind named
        else (behind, named)
      else (behind, t1)

/-- `check_len`: 1 for an ATR of the right length and checksum, 0 for a wrong checksum, 2 otherwise. -/
def check_len (atr : Nat → UInt8) (buf_len : Nat) : Nat :=
  let (len, t1) := interfaceBytes atr buf_len (buf_len + 1) 0 false
  let len1 := (atr 1 &&& 0x0f).toNat + 2
  let lrc := (List.range (buf_len - 1)).foldl (fun lrc index => lrc ^^^ atr (1 + index)) 0
  if t1 then if lrc ≠ 0 then 0 else 1
  else if buf_len ≠ len + len1 then
    if buf_len = len + len1 + 1 then if lrc ≠ 0 then 0 else 1
    else 2
  else 1

structure AtrScan where
  error : Nat
  protocol : Nat
  specific : Bool
  TD1 : UInt8
deriving Repr, DecidableEq

/-- The bytes for T=1 behind TD2, which begin at `ptr`. -/
def wrongT1 (atr : Nat → UInt8) (m_ApduNorm : ApduNorm) (Dx m_TC1 : UInt8) (ptr : Nat) : Bool :=
  let wrongTA3 := Dx &&& 0x10 != 0 && (atr ptr < 0x10 || atr ptr == 0xff)
  let ptr := if Dx &&& 0x10 ≠ 0 then ptr + 1 else ptr
  let m_TB3 := atr ptr
  let wrongTB3 :=
    if Dx &&& 0x20 ≠ 0 then
      m_ApduNorm == .emv && (m_TB3 > 0x45 || m_TB3 &&& 0x0f > 0x05 ||
        (1 <<< (m_TB3 &&& 0x0f).toNat ≤ m_TC1.toNat + 1 && m_TC1 != 0xff))
    else m_ApduNorm == .emv
  let ptr := if Dx &&& 0x20 ≠ 0 then ptr + 1 else ptr
  let wrongTC3 := Dx &&& 0x40 != 0 && atr ptr != 0
  wrongTA3 || wrongTB3 || wrongTC3

/-- The interface bytes from TD1 on. -/
def scanTD1 (atr : Nat → UInt8) (m_ApduNorm : ApduNorm) (m_TC1 : UInt8) (error : Bool) (ptr : Nat) :
    AtrScan :=
  let TD1 := atr ptr
  let protocol := 1 <<< (TD1 &&& 0x0f).toNat
  let specific := TD1 &&& 0x10 != 0
  let ptr := ptr + 1
  let wrongTA2 := specific && atr ptr &&& 0x10 != 0
  let ptr := if specific then ptr + 1 else ptr
  let ptr := if TD1 &&& 0x20 ≠ 0 then ptr + 1 else ptr
  let wrongTC2 := TD1 &&& 0x40 != 0 && atr ptr == 0
  let ptr := if TD1 &&& 0x40 ≠ 0 then ptr + 1 else ptr
  let error := error || TD1 &&& 0x0f > 1 || wrongTA2 || TD1 &&& 0x20 != 0 || wrongTC2
  if TD1 &&& 0x80 ≠ 0 then
    let Dx := atr ptr
    let wrongTD2 := Dx &&& 0x0f != 1 && (protocol != 1 || Dx &&& 0x0e != 0x0e)
    let wrong := Dx &&& 0x0f == 1 && wrongT1 atr m_ApduNorm Dx m_TC1 (ptr + 1)
    ⟨(error || wrongTD2 || wrong).toNat, protocol ||| 1 <<< (Dx &&& 0x0f).toNat, specific, TD1⟩
  else ⟨(error || protocol &&& 2 != 0).toNat, protocol, specific, TD1⟩

/-- The interface bytes of an ATR whose length is right. -/
def scanInterface (atr : Nat → UInt8) (m_ApduNorm : ApduNorm) (warm : Bool) : AtrScan :=
  let T0 := atr 1
  let ptr := if T0 &&& 0x10 ≠ 0 then 3 else 2
  let error := if T0 &&& 0x20 ≠ 0 then atr ptr != 0 && !warm else !warm
  let ptr := if T0 &&& 0x20 ≠ 0 then ptr + 1 else ptr
  let m_TC1 := if T0 &&& 0x40 ≠ 0 then atr ptr else 0
  let ptr := if T0 &&& 0x40 ≠ 0 then ptr + 1 else ptr
  if T0 &&& 0x80 ≠ 0 then scanTD1 atr m_ApduNorm m_TC1 error ptr
  else ⟨error.toNat, 1, false, 0⟩

/-- What `AnalyseATR` finds in an ATR of the form `3B` or `3F`. -/
def scanATR (atr : Nat → UInt8) (m_ATR_Length : Nat) (m_ApduNorm : ApduNorm) (warm : Bool) : AtrScan :=
  let checked := check_len atr m_ATR_Length
  if checked = 1 then scanInterface atr m_ApduNorm warm
  else if checked = 2 then ⟨1, 1, false, 0⟩
  else ⟨2, 1, false, 0⟩

/-! ## The operations -/

/-- What no operation here changes: the size of the reader's input buffer, and
the memory behind `m_ATR`. -/
structure Surroundings where
  inputBufferSize : Nat
  beyond : Nat → UInt8

/-- `m_ATR[index]` -/
def CCCIDReader.atr (beyond : Nat → UInt8) (reader : CCCIDReader) (index : Nat) : UInt8 :=
  reader.m_ATR.cells.getD index (beyond index)

/-- The result of a response to a power message that carries an error. -/
def powerError (bError : UInt8) : RSCT_IFD_RESULT :=
  if bError = 0xfe then .noMedia
  else if bError = 0xf6 then .unrecognizedMedia
  else if bError = 0xef then .cancelled
  else .ioTimeout

variable (around : Surroundings)

/-- `IfdPower(SCARD_POWER_DOWN, ...)` -/
def powerDown (session : Session) : Option (RSCT_IFD_RESULT × Session) :=
  match session.transfer around.inputBufferSize ⟨PC_TO_RDR_ICCPOWEROFF, 4⟩ with
  | none => none
  | some (none, session) => some (.deviceNotConnected, session)
  | some (some Response, session) =>
      if Response.bMessageType ≠ RDR_TO_PC_SLOTSTATUS then some (.deviceNotConnected, session)
      else if Response.bStatus &&& 0x40 ≠ 0 then some (powerError Response.bError, session)
      else some (.success, session)

/-- The last tests of `AnalyseATR`, with its result. -/
def judgeATR (scan : AtrScan) (session : Session) : Option (Nat × Session) :=
  let reader := session.reader
  let first := reader.atr around.beyond 0
  if scan.error = 0 then
    if scan.specific then
      if scan.TD1 &&& 0x0f = 0 then
        some (0, { session with reader := { reader with
          m_PossibleProtocols := SCARD_PROTOCOL_T0
          m_ActiveProtocol := SCARD_PROTOCOL_T0
          m_ReaderState := .specific } })
      else if scan.TD1 &&& 0x0f = 1 then
        some (0, { session with reader := { reader with
          m_PossibleProtocols := SCARD_PROTOCOL_T1
          m_ActiveProtocol := SCARD_PROTOCOL_T1
          m_ReaderState := .specific } })
      else some (1, session)
    else
      let reader :=
        if scan.protocol &&& 1 ≠ 0 then { reader with
          m_PossibleProtocols := reader.m_PossibleProtocols ||| SCARD_PROTOCOL_T0
          m_ReaderState := .negotiable }
        else reader
      let reader :=
        if scan.protocol &&& 2 ≠ 0 then { reader with
          m_PossibleProtocols := reader.m_PossibleProtocols ||| SCARD_PROTOCOL_T1
          m_ReaderState := .negotiable }
        else reader
      some (0, { session with reader := reader })
  else if reader.m_ATR_Length = 4 ∧ (first = 0x2c ∨ first = 0x92 ∨ first = 0xa2 ∨ first = 0x82) then
    let reader := { reader with
      m_PossibleProtocols := SCARD_PROTOCOL_RAW
      m_ActiveProtocol := SCARD_PROTOCOL_RAW
      m_ReaderState := .specific }
    -- `SetSyncParameters`, whose result nobody looks at
    match ({ session with reader := reader } : Session).transfer around.inputBufferSize
      ⟨PC_TO_RDR_SETPARAMETERS, 3⟩ with
    | none => none
    | some (_, session) => some (scan.error, session)
  else if reader.m_ATR_Length = 4 ∧ (first = 0xff ∨ first &&& 0xf0 = 0x80) then
    some (scan.error, { session with reader := { reader with
      m_PossibleProtocols := SCARD_PROTOCOL_RAW
      m_ActiveProtocol := SCARD_PROTOCOL_RAW
      m_ReaderState := .negotiable } })
  else if first = 0x41 then
    some (scan.error, { session with reader := { reader with
      m_PossibleProtocols := SCARD_PROTOCOL_RAW
      m_ActiveProtocol := SCARD_PROTOCOL_RAW
      m_ReaderState := .specific } })
  else some (scan.error, session)

/-- The assignments at the beginning of `AnalyseATR`. -/
def Session.powered (session : Session) : Session :=
  { session with reader := { session.reader with
    m_PossibleProtocols := 0
    m_ReaderState := .powered
    m_ActiveProtocol := 0 } }

/-- `CBaseReader::AnalyseATR` -/
def AnalyseATR (warm : Bool) (session : Session) : Option (Nat × Session) :=
  let session := session.powered
  let reader := session.reader
  let atr := reader.atr around.beyond
  if reader.m_ATR_Length > 0 ∧ (atr 0 = 0x3b ∨ atr 0 = 0x3f) then
    let scan := scanATR atr reader.m_ATR_Length reader.m_ApduNorm warm
    if scan.error = 2 ∨ (scan.error = 1 ∧ warm = true) then
      match powerDown around session with
      | none => none
      | some (_, session) => judgeATR around { scan with error := 2 } session
    else judgeATR around scan session
  else judgeATR around ⟨2, 1, false, 0⟩ session

/-- `m_ATR` and `m_ATR_Length` as a power-on response leaves them. -/
def storeATR (Response : CCID_Response) (reader : CCCIDReader) : CCCIDReader :=
  let length := min Response.dwLength.toNat 33
  { reader with
    m_ATR := reader.m_ATR.store 0 (Response.abData.cells.take length) (by
      rw [List.length_take]
      omega)
    m_ATR_Length := length }

/-- The loop of a reset; every pass takes an exchange. -/
def powerOn : Nat → Bool → Session → Option (RSCT_IFD_RESULT × Session)
  | 0, _, _ => none
  | passes + 1, warm, session =>
      match session.transfer around.inputBufferSize ⟨PC_TO_RDR_ICCPOWERON, 4⟩ with
      | none => none
      | some (none, session) => some (.deviceNotConnected, session)
      | some (some Response, session) =>
          if Response.bMessageType ≠ RDR_TO_PC_DATABLOCK then some (.deviceNotConnected, session)
          else if Response.bStatus &&& 0x40 ≠ 0 then some (powerError Response.bError, session)
          else
            match AnalyseATR around warm { session with reader := storeATR Response session.reader } with
            | none => none
            | some (error, session) =>
                if error = 1 then powerOn passes true session else some (.success, session)

inductive PowerMode where
  | coldReset
  | warmReset
  | powerDown
  | other (Mode : UInt32)
deriving Repr, DecidableEq

/-- `CEC30Reader::IfdPower` -/
def IfdPower (Mode : PowerMode) (session : Session) : Option (RSCT_IFD_RESULT × Session) :=
  match Mode with
  | .other _ => some (.invalidParameter, session)
  | .powerDown => powerDown around session
  | _ =>
      match powerDown around session with
      | none => none
      | some (_, session) => powerOn around (session.exchanges.length + 1) false session

/-- `CCCIDReader::IfdGetState`, with `*State`. -/
def IfdGetState (session : Session) : Option ((RSCT_IFD_RESULT × ReaderState) × Session) :=
  match session.transfer around.inputBufferSize ⟨PC_TO_RDR_GETSLOTSTATUS, 0⟩ with
  | none => none
  | some (none, session) => some ((.deviceNotConnected, .unknown), session)
  | some (some Response, session) =>
      if Response.bMessageType ≠ RDR_TO_PC_SLOTSTATUS then some ((.success, .unknown), session)
      else if Response.slot = 0 then some ((.success, session.reader.m_ReaderState), session)
      else if Response.slot = 1 then
        some ((.success, .swallowed),
          { session with reader := { session.reader with m_ReaderState := .swallowed } })
      else
        some ((.success, .absent),
          { session with reader := { session.reader with m_ReaderState := .absent } })

/-- The protocol is set with `bProtocolNum`. -/
def setParameters (bProtocolNum : UInt32) (dwLength : UInt32) (session : Session) :
    Option ((RSCT_IFD_RESULT × UInt32) × Session) :=
  match session.transfer around.inputBufferSize ⟨PC_TO_RDR_SETPARAMETERS, dwLength⟩ with
  | none => none
  | some (none, session) => some ((.deviceNotConnected, 0), session)
  | some (some Response, session) =>
      if Response.slot = 2 then some ((.noMedia, 0), session)
      else if Response.slot = 1 ∨ Response.bStatus &&& 0x40 ≠ 0 then
        some ((.ioTimeout, 0), session)
      else
        let protocol := if bProtocolNum = 0 then SCARD_PROTOCOL_T0 else SCARD_PROTOCOL_T1
        some ((.success, protocol), { session with reader := { session.reader with
          m_ActiveProtocol := protocol
          m_ReaderState := .specific } })

/-- The caller leaves the choice to the driver. -/
def chosenProtocol (pProtocol others : UInt32) : UInt32 :=
  if pProtocol &&& (SCARD_PROTOCOL_DEFAULT ||| SCARD_PROTOCOL_OPTIMAL) ≠ 0 then pProtocol ||| others
  else pProtocol

/-- `CCCIDReader::IfdSetProtocol`, with `*pProtocol`. -/
def IfdSetProtocol (pProtocol : UInt32) (session : Session) :
    Option ((RSCT_IFD_RESULT × UInt32) × Session) :=
  let reader := session.reader
  let first := reader.atr around.beyond 0
  match reader.m_ReaderState with
  | .absent => some ((.noMedia, 0), session)
  | .negotiable =>
      if first = 0xff ∨ first &&& 0xf0 = 0x80 then some ((.success, SCARD_PROTOCOL_RAW), session)
      else
        let Protocol := chosenProtocol pProtocol (SCARD_PROTOCOL_T0 ||| SCARD_PROTOCOL_T1)
        if Protocol &&& SCARD_PROTOCOL_T0 ≠ 0 ∧ reader.m_PossibleProtocols &&& SCARD_PROTOCOL_T0 ≠ 0 then
          setParameters around 0 5 session
        else if Protocol &&& SCARD_PROTOCOL_T1 ≠ 0 ∧
            reader.m_PossibleProtocols &&& SCARD_PROTOCOL_T1 ≠ 0 then
          setParameters around 1 7 session
        else some ((.invalidDeviceRequest, 0), session)
  | .specific =>
      let Protocol :=
        chosenProtocol pProtocol (SCARD_PROTOCOL_T0 ||| SCARD_PROTOCOL_T1 ||| SCARD_PROTOCOL_RAW)
      if reader.m_ActiveProtocol &&& Protocol ≠ 0 then some ((.success, reader.m_ActiveProtocol), session)
      else some ((.notSupported, 0), session)
  | _ => some ((.ioTimeout, 0), session)

inductive CardOp where
  | IfdPower (Mode : PowerMode)
  | IfdSetProtocol (pProtocol : UInt32)
  | IfdGetState
  | transfer (Message : CCID_Message)
deriving Repr, DecidableEq

def CardOp.perform (session : Session) : CardOp → Option (RSCT_IFD_RESULT × Session)
  | .IfdPower Mode => Eca.IfdPower around Mode session
  | .IfdSetProtocol pProtocol =>
      (Eca.IfdSetProtocol around pProtocol session).map fun made => (made.1.1, made.2)
  | .IfdGetState => (Eca.IfdGetState around session).map fun made => (made.1.1, made.2)
  | .transfer Message =>
      (session.transfer around.inputBufferSize Message).map fun made =>
        (if made.1.isSome then .success else .deviceNotConnected, made.2)

structure CardCall where
  op : CardOp
  exchanges : List Exchange

structure Performed where
  op : CardOp
  result : RSCT_IFD_RESULT
  accepted : List Accepted
  reader : CCCIDReader

/-- A run of operations; one that waits for the reader ends it. -/
def cardBody (reader : CCCIDReader) (called : CardCall) : List Performed × Next CCCIDReader Unit :=
  match called.op.perform around ⟨reader, called.exchanges, []⟩ with
  | none => ([], .done ())
  | some (result, session) =>
      ([⟨called.op, result, session.accepted, session.reader⟩], .again session.reader)

/-! ## What holds behind the operations -/

/-- The stored data of a card that is ready: one protocol, one of those its ATR offers, and the ATR. -/
structure Ready (reader : CCCIDReader) : Prop where
  protocol : reader.m_ActiveProtocol = SCARD_PROTOCOL_T0 ∨ reader.m_ActiveProtocol = SCARD_PROTOCOL_T1 ∨
    reader.m_ActiveProtocol = SCARD_PROTOCOL_RAW
  possible : reader.m_ActiveProtocol &&& reader.m_PossibleProtocols = reader.m_ActiveProtocol
  atr : reader.m_ATR_Length ≠ 0

def Stored (reader : CCCIDReader) : Prop := reader.m_ReaderState = .specific → Ready reader

/-- Behind a response with a card that is inactive or absent the state is another. -/
def Heeds (accepted : List Accepted) (reader : CCCIDReader) : Prop :=
  ∀ last, accepted.getLast? = some last → last.Response.slot = 1 ∨ last.Response.slot = 2 →
    reader.m_ReaderState ≠ .specific

structure Consistent (made : Performed) : Prop where
  stored : Stored made.reader
  heeds : Heeds made.accepted made.reader
  powerDown : made.op = .IfdPower .powerDown → made.result = .success →
    made.reader.m_ReaderState ≠ .specific

/-- The slot status is neither 1 nor 3. -/
def Accepted.Quiet (met : Accepted) : Prop := met.Response.slot = 0 ∨ met.Response.slot = 2

def Accepted.IsATR (met : Accepted) : Prop :=
  met.request = PC_TO_RDR_ICCPOWERON ∧ met.Response.bMessageType = RDR_TO_PC_DATABLOCK ∧
    met.Response.bStatus &&& 0x40 = 0

/-- An ATR comes from an active card, and an empty one does not leave the `41` of
an earlier one in place; the parameters of a memory card are set on an active
card or an absent one. -/
def Accepted.Settled (beyond : Nat → UInt8) (met : Accepted) : Prop :=
  (met.IsATR → met.Response.slot ≠ 1 ∧ met.Response.slot ≠ 2 ∧
    (met.Response.dwLength = 0 → met.before.atr beyond 0 ≠ 0x41)) ∧
  (met.request = PC_TO_RDR_SETPARAMETERS → met.Quiet)

/-- The responses of an operation that leave the stored data in order. -/
def CardOp.Orderly (reader : CCCIDReader) (accepted : List Accepted) : CardOp → Prop
  | .transfer _ => ∀ met ∈ accepted, reader.m_ReaderState = .specific → met.Quiet
  | .IfdGetState => ∀ met ∈ accepted, reader.m_ReaderState = .specific →
      met.Response.bMessageType = RDR_TO_PC_SLOTSTATUS ∨ met.Quiet
  | .IfdSetProtocol _ => ∀ met ∈ accepted, met.Response.bStatus &&& 0x40 = 0 →
      met.Response.slot = 0 ∨ met.Response.slot = 3 →
      met.Response.slot = 0 ∧ reader.m_ATR_Length ≠ 0
  | .IfdPower .powerDown => ∀ met ∈ accepted, reader.m_ReaderState = .specific →
      met.Response.slot = 2 ∨ (met.Response.slot = 0 ∧
        (met.Response.bMessageType ≠ RDR_TO_PC_SLOTSTATUS ∨ met.Response.bStatus &&& 0x40 ≠ 0))
  | .IfdPower (.other _) => True
  | .IfdPower _ => (∀ met ∈ accepted, met.Settled around.beyond) ∧
      (reader.m_ReaderState = .specific → (∃ met ∈ accepted, met.IsATR ∨ met.Response.slot = 2) ∨
        ∀ met ∈ accepted, met.Response.slot = 0)

/-- The condition on an operation in the state before it. -/
def OrderlyCall (reader : CCCIDReader) (called : CardCall) : Prop :=
  ∀ result session, called.op.perform around ⟨reader, called.exchanges, []⟩ = some (result, session) →
    called.op.Orderly around reader session.accepted

variable {around : Surroundings} {session after : Session} {reader : CCCIDReader}
  {Response : CCID_Response} {Message : CCID_Message} {result : RSCT_IFD_RESULT}

theorem acceptResponse_state :
    (acceptResponse Response reader).m_ReaderState =
      if Response.slot = 2 then .absent else reader.m_ReaderState := by
  unfold acceptResponse CCID_Response.slot
  split <;> split <;> rfl

theorem acceptResponse_protocol :
    (acceptResponse Response reader).m_ActiveProtocol =
      if Response.slot = 0 then reader.m_ActiveProtocol else 0 := by
  unfold acceptResponse CCID_Response.slot
  split <;> split <;> simp_all

theorem acceptResponse_length :
    (acceptResponse Response reader).m_ATR_Length =
      if Response.slot = 0 then reader.m_ATR_Length else 0 := by
  unfold acceptResponse CCID_Response.slot
  split <;> split <;> simp_all

theorem acceptResponse_kept :
    (acceptResponse Response reader).m_PossibleProtocols = reader.m_PossibleProtocols ∧
      (acceptResponse Response reader).m_ATR = reader.m_ATR := by
  unfold acceptResponse
  split <;> split <;> exact ⟨rfl, rfl⟩

/-- The data of the card are the same. -/
structure SameCard (first second : CCCIDReader) : Prop where
  state : second.m_ReaderState = first.m_ReaderState
  protocol : second.m_ActiveProtocol = first.m_ActiveProtocol
  possible : second.m_PossibleProtocols = first.m_PossibleProtocols
  length : second.m_ATR_Length = first.m_ATR_Length
  atr : second.m_ATR = first.m_ATR

theorem SameCard.ready {other : CCCIDReader} (same : SameCard reader other) (ready : Ready reader) :
    Ready other := by
  refine ⟨?_, ?_, ?_⟩
  · rw [same.protocol]
    exact ready.protocol
  · rw [same.protocol, same.possible]
    exact ready.possible
  · rw [same.length]
    exact ready.atr

/-- A response of an active card changes nothing that is stored of the card. -/
theorem acceptResponse_active (active : Response.slot = 0) :
    SameCard reader (acceptResponse Response reader) := by
  have kept : (acceptResponse Response reader).m_PossibleProtocols = reader.m_PossibleProtocols ∧
      (acceptResponse Response reader).m_ATR = reader.m_ATR := acceptResponse_kept
  refine ⟨?_, ?_, kept.1, ?_, kept.2⟩
  · rw [acceptResponse_state, if_neg (by rw [active]; decide)]
  · rw [acceptResponse_protocol, if_pos active]
  · rw [acceptResponse_length, if_pos active]

theorem Session.transfer_cases {found : Option CCID_Response} {size : Nat}
    (made : session.transfer size Message = some (found, after)) :
    (found = none ∧ SameCard session.reader after.reader ∧ after.accepted = session.accepted) ∨
    ∃ Response, found = some Response ∧ after.reader = acceptResponse Response session.reader ∧
      after.accepted = session.accepted ++ [⟨Message.bMessageType, session.reader, Response⟩] := by
  unfold Session.transfer at made
  cases exchanges : session.exchanges with
  | nil => simp [exchanges] at made
  | cons exchange rest =>
      simp only [exchanges] at made
      by_cases written : Written size Message exchange session.reader
      · rw [Transfer_written written] at made
        cases read : readResponse session.reader.m_SequenceNo exchange.reads with
        | none => simp [read] at made
        | some transferred =>
            cases transferred with
            | failed Res =>
                simp only [read, Option.some.injEq, Prod.mk.injEq] at made
                obtain ⟨rfl, rfl⟩ := made
                exact .inl ⟨rfl, ⟨rfl, rfl, rfl, rfl, rfl⟩, rfl⟩
            | received Response request =>
                simp only [read, Option.some.injEq, Prod.mk.injEq] at made
                obtain ⟨rfl, rfl⟩ := made
                exact .inr ⟨Response, rfl, rfl, rfl⟩
      · obtain ⟨Res, connected, unwritten⟩ := Transfer_unwritten written
        rw [unwritten] at made
        cases made
        exact .inl ⟨rfl, ⟨rfl, rfl, rfl, rfl, rfl⟩, rfl⟩

theorem slot_cases (Response : CCID_Response) :
    Response.slot = 0 ∨ Response.slot = 1 ∨ Response.slot = 2 ∨ Response.slot = 3 := by
  have every : ∀ byte : UInt8, byte &&& 3 = 0 ∨ byte &&& 3 = 1 ∨ byte &&& 3 = 2 ∨ byte &&& 3 = 3 := by
    decide +kernel
  exact every Response.bStatus

theorem stored_of_state (other : reader.m_ReaderState ≠ .specific) : Stored reader :=
  fun specific => absurd specific other

theorem heeds_of_state {accepted : List Accepted} (other : reader.m_ReaderState ≠ .specific) :
    Heeds accepted reader :=
  fun _ _ _ => other

/-- What is to show of an operation in which a response comes last. -/
theorem heeds_last {accepted : List Accepted} {met : Accepted}
    (heeds : met.Response.slot = 1 ∨ met.Response.slot = 2 → reader.m_ReaderState ≠ .specific) :
    Heeds (accepted ++ [met]) reader := by
  intro last found
  rw [List.getLast?_concat, Option.some.injEq] at found
  rw [← found]
  exact heeds

theorem accept_stored (stored : Stored reader)
    (quiet : reader.m_ReaderState = .specific → Response.slot = 0 ∨ Response.slot = 2) :
    Stored (acceptResponse Response reader) ∧
      (Response.slot = 1 ∨ Response.slot = 2 →
        (acceptResponse Response reader).m_ReaderState ≠ .specific) := by
  by_cases absent : Response.slot = 2
  · have other : (acceptResponse Response reader).m_ReaderState ≠ .specific := by
      rw [acceptResponse_state, if_pos absent]
      decide
    exact ⟨stored_of_state other, fun _ => other⟩
  · have state : (acceptResponse Response reader).m_ReaderState = reader.m_ReaderState := by
      rw [acceptResponse_state, if_neg absent]
    constructor
    · intro specific
      rw [state] at specific
      have active := (quiet specific).resolve_right absent
      exact (acceptResponse_active active).ready (stored specific)
    · intro inactive specific
      rw [state] at specific
      have active := (quiet specific).resolve_right absent
      rw [active] at inactive
      exact absurd inactive (by decide)

theorem transfer_consistent {exchanges : List Exchange} {found : Option CCID_Response} {size : Nat}
    (stored : Stored reader)
    (made : (Session.mk reader exchanges []).transfer size Message = some (found, after))
    (quiet : ∀ met ∈ after.accepted, reader.m_ReaderState = .specific → met.Quiet) :
    Stored after.reader ∧ Heeds after.accepted after.reader := by
  cases Session.transfer_cases made with
  | inl failed =>
      obtain ⟨_, same, accepted⟩ := failed
      refine ⟨fun specific => same.ready (stored (same.state ▸ specific)), ?_⟩
      rw [accepted]
      intro last found
      contradiction
  | inr received =>
      obtain ⟨Response, _, reader', accepted⟩ := received
      rw [accepted] at quiet ⊢
      rw [reader']
      have heeding : reader.m_ReaderState = .specific → Response.slot = 0 ∨ Response.slot = 2 :=
        quiet _ (List.mem_singleton.mpr rfl)
      have here := accept_stored stored heeding
      exact ⟨here.1, heeds_last here.2⟩

theorem IfdGetState_consistent {exchanges : List Exchange} {State : ReaderState}
    (stored : Stored reader)
    (made : IfdGetState around ⟨reader, exchanges, []⟩ = some ((result, State), after))
    (orderly : CardOp.Orderly around reader after.accepted .IfdGetState) :
    Stored after.reader ∧ Heeds after.accepted after.reader := by
  unfold IfdGetState at made
  cases sent : (Session.mk reader exchanges []).transfer around.inputBufferSize
      ⟨PC_TO_RDR_GETSLOTSTATUS, 0⟩ with
  | none => simp [sent] at made
  | some transferred =>
      obtain ⟨found, between⟩ := transferred
      simp only [sent] at made
      cases Session.transfer_cases sent with
      | inl failed =>
          obtain ⟨rfl, same, accepted⟩ := failed
          cases made
          refine transfer_consistent stored sent ?_
          rw [accepted]
          simp
      | inr received =>
          obtain ⟨Response, rfl, _, accepted⟩ := received
          simp only at made
          by_cases type : Response.bMessageType = RDR_TO_PC_SLOTSTATUS
          · rw [if_neg (not_not.mpr type)] at made
            by_cases active : Response.slot = 0
            · rw [if_pos active] at made
              cases made
              refine transfer_consistent stored sent ?_
              rw [accepted]
              intro met member _
              rw [List.nil_append, List.mem_singleton] at member
              rw [member]
              exact .inl active
            · rw [if_neg active] at made
              have other : after.reader.m_ReaderState ≠ .specific := by
                split at made
                · simp only [Option.some.injEq, Prod.mk.injEq] at made
                  rw [← made.2]
                  simp
                · simp only [Option.some.injEq, Prod.mk.injEq] at made
                  rw [← made.2]
                  simp
              exact ⟨stored_of_state other, heeds_of_state other⟩
          · rw [if_pos type] at made
            cases made
            refine transfer_consistent stored sent ?_
            intro met member specific
            have allowed := orderly met member specific
            rw [accepted, List.nil_append, List.mem_singleton] at member
            rw [member] at allowed ⊢
            exact allowed.resolve_left type

theorem protocol_of_possible {possible : UInt32} (place : Nat) (bit : UInt32)
    (single : bit.toNat = 2 ^ place) (offered : possible &&& bit ≠ 0) : bit &&& possible = bit := by
  rw [← UInt32.toNat_inj, UInt32.toNat_and, single, Nat.and_comm, Nat.and_two_pow]
  cases set : possible.toNat.testBit place with
  | true => simp
  | false =>
      refine absurd ?_ offered
      rw [← UInt32.toNat_inj, UInt32.toNat_and, single, Nat.and_two_pow, set]
      simp

theorem setParameters_consistent (bProtocolNum : UInt32) {dwLength pProtocol : UInt32}
    {exchanges : List Exchange}
    (negotiable : reader.m_ReaderState = .negotiable)
    (offered : reader.m_PossibleProtocols &&&
      (if bProtocolNum = 0 then SCARD_PROTOCOL_T0 else SCARD_PROTOCOL_T1) ≠ 0)
    (made : setParameters around bProtocolNum dwLength ⟨reader, exchanges, []⟩ =
      some ((result, pProtocol), after))
    (orderly : ∀ met ∈ after.accepted, met.Response.bStatus &&& 0x40 = 0 →
      met.Response.slot = 0 ∨ met.Response.slot = 3 →
      met.Response.slot = 0 ∧ reader.m_ATR_Length ≠ 0) :
    Stored after.reader ∧ Heeds after.accepted after.reader := by
  unfold setParameters at made
  cases sent : (Session.mk reader exchanges []).transfer around.inputBufferSize
      ⟨PC_TO_RDR_SETPARAMETERS, dwLength⟩ with
  | none => simp [sent] at made
  | some transferred =>
      obtain ⟨found, between⟩ := transferred
      simp only [sent] at made
      cases Session.transfer_cases sent with
      | inl failed =>
          obtain ⟨rfl, same, _⟩ := failed
          cases made
          have other : after.reader.m_ReaderState ≠ .specific := by
            rw [same.state, negotiable]
            decide
          exact ⟨stored_of_state other, heeds_of_state other⟩
      | inr received =>
          obtain ⟨Response, rfl, reader', accepted⟩ := received
          have other : between.reader.m_ReaderState ≠ .specific := by
            rw [reader', acceptResponse_state]
            split
            · decide
            · rw [negotiable]
              decide
          simp only at made
          by_cases absent : Response.slot = 2
          · rw [if_pos absent] at made
            cases made
            exact ⟨stored_of_state other, heeds_of_state other⟩
          rw [if_neg absent] at made
          by_cases refused : Response.slot = 1 ∨ Response.bStatus &&& 0x40 ≠ 0
          · rw [if_pos refused] at made
            cases made
            exact ⟨stored_of_state other, heeds_of_state other⟩
          rw [if_neg refused] at made
          rw [not_or, not_not] at refused
          cases made
          have status : Response.slot = 0 ∨ Response.slot = 3 := by
            rcases slot_cases Response with active | inactive | gone | unknown
            · exact .inl active
            · exact absurd inactive refused.1
            · exact absurd gone absent
            · exact .inr unknown
          simp only at orderly accepted
          rw [accepted] at orderly ⊢
          obtain ⟨active, length⟩ := orderly _ (List.mem_singleton.mpr rfl) refused.2 status
          have same : SameCard reader _ := acceptResponse_active active
          constructor
          · intro _
            refine ⟨?_, ?_, ?_⟩
            · dsimp only
              split
              · exact .inl rfl
              · exact .inr (.inl rfl)
            · dsimp only
              rw [reader', same.possible]
              by_cases first : bProtocolNum = 0
              · simp only [if_pos first] at offered ⊢
                exact protocol_of_possible 0 _ rfl offered
              · simp only [if_neg first] at offered ⊢
                exact protocol_of_possible 1 _ rfl offered
            · dsimp only
              rw [reader', same.length]
              exact length
          · refine heeds_last fun inactive => ?_
            rw [active] at inactive
            exact absurd inactive (by decide)

theorem IfdSetProtocol_consistent {pProtocol Protocol : UInt32} {exchanges : List Exchange}
    (stored : Stored reader)
    (made : IfdSetProtocol around pProtocol ⟨reader, exchanges, []⟩ = some ((result, Protocol), after))
    (orderly : CardOp.Orderly around reader after.accepted (.IfdSetProtocol pProtocol)) :
    Stored after.reader ∧ Heeds after.accepted after.reader := by
  have unchanged {answer : RSCT_IFD_RESULT × UInt32}
      (same : some (answer, Session.mk reader exchanges []) = some ((result, Protocol), after)) :
      Stored after.reader ∧ Heeds after.accepted after.reader := by
    simp only [Option.some.injEq, Prod.mk.injEq] at same
    rw [← same.2]
    exact ⟨stored, fun _ found => by contradiction⟩
  unfold IfdSetProtocol at made
  cases state : reader.m_ReaderState with
  | negotiable =>
      simp only [state] at made
      split at made
      · exact unchanged made
      split at made
      · rename_i _ offered
        exact setParameters_consistent 0 state offered.2 made orderly
      split at made
      · rename_i _ _ offered
        exact setParameters_consistent 1 state offered.2 made orderly
      · exact unchanged made
  | specific =>
      simp only [state] at made
      split at made
      · exact unchanged made
      · exact unchanged made
  | absent | initial | unknown | swallowed | powered =>
      exact unchanged (by simpa only [state] using made)

theorem powerError_ne_success (bError : UInt8) : powerError bError ≠ .success := by
  unfold powerError
  split
  · decide
  split
  · decide
  split
  · decide
  · decide

theorem powerDown_transfer (made : powerDown around session = some (result, after)) :
    ∃ found, session.transfer around.inputBufferSize ⟨PC_TO_RDR_ICCPOWEROFF, 4⟩ = some (found, after) ∧
      (result = .success → ∃ Response, found = some Response ∧
        Response.bMessageType = RDR_TO_PC_SLOTSTATUS ∧ Response.bStatus &&& 0x40 = 0) := by
  unfold powerDown at made
  cases sent : session.transfer around.inputBufferSize ⟨PC_TO_RDR_ICCPOWEROFF, 4⟩ with
  | none => simp [sent] at made
  | some transferred =>
      obtain ⟨found, between⟩ := transferred
      simp only [sent] at made
      cases found with
      | none =>
          cases made
          exact ⟨none, rfl, by simp⟩
      | some Response =>
          simp only at made
          by_cases type : Response.bMessageType = RDR_TO_PC_SLOTSTATUS
          · rw [if_neg (not_not.mpr type)] at made
            by_cases failed : Response.bStatus &&& 0x40 ≠ 0
            · rw [if_pos failed] at made
              cases made
              exact ⟨_, rfl, fun success => absurd success (powerError_ne_success _)⟩
            · rw [if_neg failed] at made
              cases made
              exact ⟨_, rfl, fun _ => ⟨Response, rfl, type, not_not.mp failed⟩⟩
          · rw [if_pos type] at made
            cases made
            exact ⟨_, rfl, by simp⟩

theorem powerDown_consistent {exchanges : List Exchange} (stored : Stored reader)
    (made : powerDown around ⟨reader, exchanges, []⟩ = some (result, after))
    (orderly : CardOp.Orderly around reader after.accepted (.IfdPower .powerDown)) :
    Stored after.reader ∧ Heeds after.accepted after.reader ∧
      (result = .success → after.reader.m_ReaderState ≠ .specific) := by
  obtain ⟨found, sent, succeeds⟩ := powerDown_transfer made
  have quiet : ∀ met ∈ after.accepted, reader.m_ReaderState = .specific → met.Quiet := by
    intro met member specific
    cases orderly met member specific with
    | inl absent => exact .inr absent
    | inr active => exact .inl active.1
  obtain ⟨stored', heeds⟩ := transfer_consistent stored sent quiet
  refine ⟨stored', heeds, fun success specific => ?_⟩
  obtain ⟨Response, rfl, type, answered⟩ := succeeds success
  cases Session.transfer_cases sent with
  | inl failed => exact absurd failed.1 (by simp)
  | inr received =>
      obtain ⟨_, same, reader', accepted⟩ := received
      cases same
      simp only at reader'
      rw [reader', acceptResponse_state] at specific
      have other : Response.slot ≠ 2 := by
        intro absent
        rw [if_pos absent] at specific
        contradiction
      rw [if_neg other] at specific
      have last : (⟨PC_TO_RDR_ICCPOWEROFF, reader, Response⟩ : Accepted) ∈ after.accepted := by
        rw [accepted]
        exact List.mem_singleton.mpr rfl
      rcases orderly _ last specific with absent | ⟨_, refused⟩
      · exact other absent
      · cases refused with
        | inl different => exact different type
        | inr failed => exact failed answered

/-! ## Resets -/

/-- The last response is none of an inactive or absent card. -/
def LastActive (accepted : List Accepted) : Prop :=
  ∀ last, accepted.getLast? = some last → last.Response.slot ≠ 1 ∧ last.Response.slot ≠ 2

theorem LastActive.heeds {accepted : List Accepted} (active : LastActive accepted) :
    Heeds accepted reader := by
  intro last found inactive
  obtain ⟨first, second⟩ := active last found
  exact absurd inactive (by simp [first, second])

/-- What is to show of the end of an analysis. -/
structure Analysed (error : Nat) (session : Session) : Prop where
  stored : Stored session.reader
  heeds : Heeds session.accepted session.reader
  again : error = 1 → session.reader.m_ReaderState ≠ .specific

theorem analysed_of_state {error : Nat} (other : session.reader.m_ReaderState ≠ .specific) :
    Analysed error session :=
  ⟨stored_of_state other, heeds_of_state other, fun _ => other⟩

theorem transfer_extends {found : Option CCID_Response} {size : Nat}
    (made : session.transfer size Message = some (found, after)) : session.accepted <+: after.accepted := by
  cases Session.transfer_cases made with
  | inl failed =>
      exact failed.2.2 ▸ List.prefix_rfl
  | inr received =>
      obtain ⟨_, _, _, accepted⟩ := received
      rw [accepted]
      exact List.prefix_append _ _

theorem transfer_state {found : Option CCID_Response} {size : Nat}
    (made : session.transfer size Message = some (found, after))
    (other : session.reader.m_ReaderState ≠ .specific) : after.reader.m_ReaderState ≠ .specific := by
  cases Session.transfer_cases made with
  | inl failed =>
      rw [failed.2.1.state]
      exact other
  | inr received =>
      obtain ⟨Response, _, reader', _⟩ := received
      rw [reader', acceptResponse_state]
      split
      · simp
      · exact other

theorem transfer_atr {found : Option CCID_Response} {size : Nat}
    (made : session.transfer size Message = some (found, after)) : after.reader.m_ATR = session.reader.m_ATR := by
  cases Session.transfer_cases made with
  | inl failed => exact failed.2.1.atr
  | inr received =>
      obtain ⟨_, _, reader', _⟩ := received
      rw [reader', acceptResponse_kept.2]

theorem judgeATR_error {scan : AtrScan} (wrong : scan.error ≠ 0)
    (form : session.reader.atr around.beyond 0 = 0x3b ∨ session.reader.atr around.beyond 0 = 0x3f) :
    judgeATR around scan session = some (scan.error, session) := by
  unfold judgeATR
  simp only
  rw [if_neg wrong]
  have half : ∀ byte : UInt8, byte = 0x3b ∨ byte = 0x3f → byte &&& 0xf0 ≠ 0x80 := by
    decide +kernel
  have high := half _ form
  cases form with
  | inl first =>
      simp [first] at high ⊢
      exact fun _ same => absurd same high
  | inr first =>
      simp [first] at high ⊢
      exact fun _ same => absurd same high

theorem sync_analysed {exchanges : List Exchange} {error : Nat} {found : Option CCID_Response}
    (sent : (Session.mk reader exchanges session.accepted).transfer around.inputBufferSize
      ⟨PC_TO_RDR_SETPARAMETERS, 3⟩ = some (found, after))
    (ready : Ready reader) (active : LastActive session.accepted) (once : error ≠ 1)
    (settled : ∀ met ∈ after.accepted, met.Settled around.beyond) : Analysed error after := by
  refine ⟨?_, ?_, fun wrong => absurd wrong once⟩
  · cases Session.transfer_cases sent with
    | inl failed => exact fun _ => failed.2.1.ready ready
    | inr received =>
        obtain ⟨Response, _, reader', accepted⟩ := received
        have quiet := (settled _ (by rw [accepted]; exact List.mem_append_right _ List.mem_cons_self)).2 rfl
        rw [reader']
        exact (accept_stored (fun _ => ready) fun _ => quiet).1
  · cases Session.transfer_cases sent with
    | inl failed =>
        rw [failed.2.2]
        exact active.heeds
    | inr received =>
        obtain ⟨Response, _, reader', accepted⟩ := received
        have quiet := (settled _ (by rw [accepted]; exact List.mem_append_right _ List.mem_cons_self)).2 rfl
        rw [reader', accepted]
        exact heeds_last (accept_stored (fun _ => ready) fun _ => quiet).2

theorem judgeATR_analysed {scan : AtrScan} {error : Nat}
    (other : session.reader.m_ReaderState ≠ .specific)
    (first : scan.error = 0 → session.reader.m_ATR_Length ≠ 0) (once : scan.error ≠ 1)
    (second : session.reader.atr around.beyond 0 = 0x41 → session.reader.m_ATR_Length ≠ 0)
    (active : LastActive session.accepted)
    (made : judgeATR around scan session = some (error, after))
    (settled : ∀ met ∈ after.accepted, met.Settled around.beyond) : Analysed error after := by
  unfold judgeATR at made
  simp only at made
  by_cases fine : scan.error = 0
  · rw [if_pos fine] at made
    have length := first fine
    by_cases specific : scan.specific = true
    · rw [if_pos specific] at made
      split at made
      · cases made
        exact ⟨fun _ => ⟨.inl rfl, UInt32.and_self, length⟩, active.heeds, by simp⟩
      split at made
      · cases made
        exact ⟨fun _ => ⟨.inr (.inl rfl), UInt32.and_self, length⟩, active.heeds, by simp⟩
      · cases made
        exact analysed_of_state other
    · rw [if_neg specific] at made
      cases made
      refine analysed_of_state ?_
      dsimp only
      split
      · simp
      · split
        · simp
        · exact other
  rw [if_neg fine] at made
  split at made
  · rename_i four
    have ready : Ready { session.reader with
        m_PossibleProtocols := SCARD_PROTOCOL_RAW
        m_ActiveProtocol := SCARD_PROTOCOL_RAW
        m_ReaderState := .specific } :=
      ⟨.inr (.inr rfl), UInt32.and_self, by dsimp only; omega⟩
    cases sent : (Session.mk { session.reader with
        m_PossibleProtocols := SCARD_PROTOCOL_RAW
        m_ActiveProtocol := SCARD_PROTOCOL_RAW
        m_ReaderState := .specific } session.exchanges session.accepted).transfer around.inputBufferSize
        ⟨PC_TO_RDR_SETPARAMETERS, 3⟩ with
    | none => simp [sent] at made
    | some transferred =>
        obtain ⟨found, between⟩ := transferred
        simp only [sent, Option.some.injEq, Prod.mk.injEq] at made
        obtain ⟨rfl, rfl⟩ := made
        exact sync_analysed sent ready active once settled
  split at made
  · cases made
    exact analysed_of_state (by simp)
  split at made
  · rename_i memory
    cases made
    exact ⟨fun _ => ⟨.inr (.inr rfl), UInt32.and_self, second memory⟩, active.heeds, fun wrong => absurd wrong once⟩
  · cases made
    exact analysed_of_state other

/-- The ATR stays as it is, and `SetSyncParameters` is the only transfer. -/
theorem judgeATR_cases {scan : AtrScan} {error : Nat}
    (made : judgeATR around scan session = some (error, after)) :
    ∃ reader : CCCIDReader, reader.m_ATR = session.reader.m_ATR ∧
      reader.m_ATR_Length = session.reader.m_ATR_Length ∧
      (after = { session with reader := reader } ∨
        ∃ found, ({ session with reader := reader } : Session).transfer around.inputBufferSize
          ⟨PC_TO_RDR_SETPARAMETERS, 3⟩ = some (found, after)) := by
  have unchanged {wrong : Nat} {reader : CCCIDReader}
      (same : some (wrong, { session with reader := reader }) = some (error, after))
      (atr : reader.m_ATR = session.reader.m_ATR) (length : reader.m_ATR_Length = session.reader.m_ATR_Length) :
      ∃ reader : CCCIDReader, reader.m_ATR = session.reader.m_ATR ∧
        reader.m_ATR_Length = session.reader.m_ATR_Length ∧
        (after = { session with reader := reader } ∨
          ∃ found, ({ session with reader := reader } : Session).transfer around.inputBufferSize
            ⟨PC_TO_RDR_SETPARAMETERS, 3⟩ = some (found, after)) := by
    simp only [Option.some.injEq, Prod.mk.injEq] at same
    exact ⟨reader, atr, length, .inl same.2.symm⟩
  unfold judgeATR at made
  simp only at made
  split at made
  · split at made
    · split at made
      · exact unchanged made rfl rfl
      split at made
      · exact unchanged made rfl rfl
      · exact unchanged made rfl rfl
    · refine unchanged made ?_ ?_
      · split <;> split <;> rfl
      · split <;> split <;> rfl
  split at made
  · split at made
    · contradiction
    · rename_i _ found between sent
      cases made
      refine ⟨_, ?_, ?_, .inr ⟨found, sent⟩⟩
      · rfl
      · rfl
  split at made
  · exact unchanged made rfl rfl
  split at made
  · exact unchanged made rfl rfl
  · exact unchanged made rfl rfl

theorem judgeATR_extends {scan : AtrScan} {error : Nat}
    (made : judgeATR around scan session = some (error, after)) :
    session.accepted <+: after.accepted := by
  obtain ⟨reader, _, _, same | ⟨found, sent⟩⟩ := judgeATR_cases made
  · exact same ▸ List.prefix_rfl
  · have more := transfer_extends sent
    exact more

theorem AnalyseATR_extends {warm : Bool} {error : Nat}
    (made : AnalyseATR around warm session = some (error, after)) :
    session.accepted <+: after.accepted := by
  unfold AnalyseATR at made
  simp only at made
  change session.powered.accepted <+: after.accepted
  split at made
  · split at made
    · split at made
      · contradiction
      · rename_i _ _ between off
        obtain ⟨_, sent, _⟩ := powerDown_transfer off
        exact (transfer_extends sent).trans (judgeATR_extends made)
    · exact judgeATR_extends made
  · exact judgeATR_extends made

theorem AnalyseATR_analysed {warm : Bool} {error : Nat}
    (second : session.reader.atr around.beyond 0 = 0x41 → session.reader.m_ATR_Length ≠ 0)
    (active : LastActive session.accepted)
    (made : AnalyseATR around warm session = some (error, after))
    (settled : ∀ met ∈ after.accepted, met.Settled around.beyond) : Analysed error after := by
  have powered : session.powered.reader.m_ReaderState ≠ .specific := by simp [Session.powered]
  unfold AnalyseATR at made
  simp only at made
  split at made
  · rename_i form
    obtain ⟨present, form⟩ := form
    split at made
    · split at made
      · contradiction
      · rename_i _ result between off
        obtain ⟨_, sent, _⟩ := powerDown_transfer off
        have other := transfer_state sent powered
        have same := transfer_atr sent
        have kept : between.reader.atr around.beyond 0 = 0x3b ∨
            between.reader.atr around.beyond 0 = 0x3f := by
          rw [CCCIDReader.atr, same]
          exact form
        rw [judgeATR_error (by simp) kept] at made
        cases made
        exact analysed_of_state other
    · by_cases fine : (scanATR (session.powered.reader.atr around.beyond)
          session.powered.reader.m_ATR_Length session.powered.reader.m_ApduNorm warm).error = 0
      · refine judgeATR_analysed powered (fun _ => Nat.ne_of_gt present) ?_ second active made settled
        intro wrong
        exact absurd (fine.symm.trans wrong) (by decide)
      · rw [judgeATR_error fine form] at made
        cases made
        exact analysed_of_state powered
  · exact judgeATR_analysed powered (by simp) (by simp) second active made settled

theorem SameCard.trans {first second third : CCCIDReader} (one : SameCard first second)
    (two : SameCard second third) : SameCard first third :=
  ⟨two.state.trans one.state, two.protocol.trans one.protocol, two.possible.trans one.possible,
    two.length.trans one.length, two.atr.trans one.atr⟩

/-- A reset that has had no ATR yet: as long as the state is still that of the
card before, no absent card was reported, and the data are in place if no
inactive one was. -/
def Pending (reader : CCCIDReader) (session : Session) : Prop :=
  session.reader.m_ReaderState = .specific →
    reader.m_ReaderState = .specific ∧
    (∀ met ∈ session.accepted, ¬ met.IsATR ∧ met.Response.slot ≠ 2) ∧
    ((∀ met ∈ session.accepted, met.Response.slot = 0) → SameCard reader session.reader)

theorem Pending.transfer {found : Option CCID_Response} {size : Nat} (pending : Pending reader session)
    (made : session.transfer size Message = some (found, after))
    (none : ∀ Response, found = some Response →
      ¬ (Accepted.mk Message.bMessageType session.reader Response).IsATR) : Pending reader after := by
  intro specific
  cases Session.transfer_cases made with
  | inl failed =>
      obtain ⟨_, same, accepted⟩ := failed
      rw [same.state] at specific
      obtain ⟨before, clean, kept⟩ := pending specific
      rw [accepted]
      exact ⟨before, clean, fun quiet => (kept quiet).trans same⟩
  | inr received =>
      obtain ⟨Response, answer, reader', accepted⟩ := received
      rw [reader', acceptResponse_state] at specific
      have present : Response.slot ≠ 2 := by
        intro absent
        rw [if_pos absent] at specific
        contradiction
      rw [if_neg present] at specific
      obtain ⟨before, clean, kept⟩ := pending specific
      rw [accepted]
      refine ⟨before, ?_, fun quiet => ?_⟩
      · intro met member
        rw [List.mem_append, List.mem_singleton] at member
        cases member with
        | inl earlier => exact clean met earlier
        | inr last =>
            rw [last]
            exact ⟨none Response answer, present⟩
      · have active := quiet _ (List.mem_append_right _ List.mem_cons_self)
        rw [reader']
        exact (kept fun met member => quiet met (List.mem_append_left _ member)).trans
          (acceptResponse_active active)

/-- The condition on a reset that ends without an ATR. -/
def ResetOrderly (reader : CCCIDReader) (accepted : List Accepted) : Prop :=
  reader.m_ReaderState = .specific → (∃ met ∈ accepted, met.IsATR ∨ met.Response.slot = 2) ∨
    ∀ met ∈ accepted, met.Response.slot = 0

theorem Pending.consistent (stored : Stored reader) (pending : Pending reader session)
    (orderly : ResetOrderly reader session.accepted) :
    Stored session.reader ∧ Heeds session.accepted session.reader := by
  by_cases specific : session.reader.m_ReaderState = .specific
  · obtain ⟨before, clean, kept⟩ := pending specific
    have quiet : ∀ met ∈ session.accepted, met.Response.slot = 0 := by
      refine (orderly before).resolve_left ?_
      rintro ⟨met, member, reported⟩
      obtain ⟨none, present⟩ := clean met member
      exact reported.elim none present
    refine ⟨fun _ => (kept quiet).ready (stored before), fun last found inactive => ?_⟩
    rw [quiet last (List.mem_of_getLast? found)] at inactive
    exact absurd inactive (by decide)
  · exact ⟨stored_of_state specific, heeds_of_state specific⟩

theorem powerOn_extends {passes : Nat} {warm : Bool}
    (made : powerOn around passes warm session = some (result, after)) :
    session.accepted <+: after.accepted := by
  induction passes generalizing session warm with
  | zero => contradiction
  | succ passes ih =>
      rw [powerOn] at made
      split at made
      · contradiction
      · rename_i _ between sent
        simp only [Option.some.injEq, Prod.mk.injEq] at made
        rw [← made.2]
        exact transfer_extends sent
      · rename_i _ Response between sent
        have first := transfer_extends sent
        split at made
        · simp only [Option.some.injEq, Prod.mk.injEq] at made
          rw [← made.2]
          exact first
        split at made
        · simp only [Option.some.injEq, Prod.mk.injEq] at made
          rw [← made.2]
          exact first
        split at made
        · contradiction
        · rename_i _ error analysed judged
          have second := AnalyseATR_extends judged
          split at made
          · exact first.trans (second.trans (ih made))
          · simp only [Option.some.injEq, Prod.mk.injEq] at made
            rw [← made.2]
            exact first.trans second

/-- An ATR of no bytes leaves those of an earlier one. -/
theorem storeATR_first {beyond : Nat → UInt8}
    (fresh : Response.dwLength = 0 → reader.atr beyond 0 ≠ 0x41)
    (memory : (storeATR Response reader).atr beyond 0 = 0x41) :
    (storeATR Response reader).m_ATR_Length ≠ 0 := by
  intro nothing
  have length : min Response.dwLength.toNat 33 = 0 := nothing
  have zero : Response.dwLength = 0 := by
    rw [← UInt32.toNat_inj]
    change Response.dwLength.toNat = 0
    omega
  refine fresh zero ?_
  rw [← memory]
  simp [CCCIDReader.atr, storeATR, Buffer.store, zero]

theorem powerOn_consistent {passes : Nat} {warm : Bool} (stored : Stored reader)
    (pending : Pending reader session)
    (made : powerOn around passes warm session = some (result, after))
    (settled : ∀ met ∈ after.accepted, met.Settled around.beyond)
    (orderly : ResetOrderly reader after.accepted) :
    Stored after.reader ∧ Heeds after.accepted after.reader := by
  induction passes generalizing session warm with
  | zero => contradiction
  | succ passes ih =>
      rw [powerOn] at made
      split at made
      · contradiction
      · rename_i _ between sent
        cases made
        exact (pending.transfer sent (by simp)).consistent stored orderly
      · rename_i _ Response between sent
        split at made
        · rename_i type
          cases made
          refine (pending.transfer sent ?_).consistent stored orderly
          rintro _ ⟨⟩ atr
          exact type atr.2.1
        rename_i type
        split at made
        · rename_i failed
          cases made
          refine (pending.transfer sent ?_).consistent stored orderly
          rintro _ ⟨⟩ atr
          exact failed atr.2.2
        rename_i answered
        split at made
        · contradiction
        · rename_i _ error analysed judged
          have whole : analysed.accepted <+: after.accepted := by
            split at made
            · exact powerOn_extends made
            · simp only [Option.some.injEq, Prod.mk.injEq] at made
              exact made.2 ▸ List.prefix_rfl
          have more := (AnalyseATR_extends judged).trans whole
          rcases Session.transfer_cases sent with ⟨different, _⟩ | ⟨_, same, _, accepted⟩
          · contradiction
          cases same
          rw [not_not] at type answered
          have here := settled _ (more.subset (by
            rw [accepted]
            exact List.mem_append_right _ List.mem_cons_self))
          obtain ⟨inactive, absent, fresh⟩ := here.1 ⟨rfl, type, answered⟩
          have active : LastActive between.accepted := by
            rw [accepted]
            intro last found
            rw [List.getLast?_concat, Option.some.injEq] at found
            rw [← found]
            exact ⟨inactive, absent⟩
          have kept : Response.dwLength = 0 → between.reader.atr around.beyond 0 ≠ 0x41 := by
            rw [CCCIDReader.atr, transfer_atr sent]
            exact fresh
          have done := AnalyseATR_analysed (by exact storeATR_first kept) (by exact active) judged
            fun met member => settled met (whole.subset member)
          split at made
          · rename_i again
            exact ih (fun specific => absurd specific (done.again again)) made
          · cases made
            exact ⟨done.stored, done.heeds⟩

theorem perform_consistent (stored : Stored reader) (called : CardCall)
    (made : called.op.perform around ⟨reader, called.exchanges, []⟩ = some (result, after))
    (orderly : OrderlyCall around reader called) :
    Consistent ⟨called.op, result, after.accepted, after.reader⟩ := by
  have allowed := orderly result after made
  obtain ⟨op, exchanges⟩ := called
  cases op with
  | transfer Message =>
      simp only [CardOp.perform, Option.map_eq_some_iff, Prod.mk.injEq] at made
      obtain ⟨⟨found, between⟩, sent, _, rfl⟩ := made
      obtain ⟨stored', heeds⟩ := transfer_consistent stored sent allowed
      exact ⟨stored', heeds, by simp⟩
  | IfdGetState =>
      simp only [CardOp.perform, Option.map_eq_some_iff, Prod.mk.injEq] at made
      obtain ⟨⟨⟨result, State⟩, between⟩, got, rfl, rfl⟩ := made
      obtain ⟨stored', heeds⟩ := IfdGetState_consistent stored got allowed
      exact ⟨stored', heeds, by simp⟩
  | IfdSetProtocol pProtocol =>
      simp only [CardOp.perform, Option.map_eq_some_iff, Prod.mk.injEq] at made
      obtain ⟨⟨⟨result, Protocol⟩, between⟩, got, rfl, rfl⟩ := made
      obtain ⟨stored', heeds⟩ := IfdSetProtocol_consistent stored got allowed
      exact ⟨stored', heeds, by simp⟩
  | IfdPower Mode =>
      have reset {other : PowerMode} (different : other ≠ .powerDown)
          (settled : ∀ met ∈ after.accepted, met.Settled around.beyond)
          (rule : ResetOrderly reader after.accepted)
          (restarted : (match powerDown around ⟨reader, exchanges, []⟩ with
            | none => none
            | some (_, session) => powerOn around (session.exchanges.length + 1) false session) =
              some (result, after)) :
          Consistent ⟨.IfdPower other, result, after.accepted, after.reader⟩ := by
        split at restarted
        · contradiction
        · rename_i _ _ between off
          obtain ⟨found, sent, _⟩ := powerDown_transfer off
          have start : Pending reader ⟨reader, exchanges, []⟩ := fun specific =>
            ⟨specific, by simp, fun _ => ⟨rfl, rfl, rfl, rfl, rfl⟩⟩
          have pending := start.transfer sent fun Response _ atr => absurd atr.1 (by simp [PC_TO_RDR_ICCPOWEROFF, PC_TO_RDR_ICCPOWERON])
          obtain ⟨stored', heeds⟩ := powerOn_consistent stored pending restarted settled rule
          exact ⟨stored', heeds, fun same => absurd (CardOp.IfdPower.inj same) different⟩
      cases Mode with
      | other Mode =>
          have refused : (RSCT_IFD_RESULT.invalidParameter, Session.mk reader exchanges []) = (result, after) :=
            Option.some.inj made
          cases refused
          exact ⟨stored, fun _ found => by contradiction, by simp⟩
      | powerDown =>
          obtain ⟨stored', heeds, off⟩ := powerDown_consistent stored made allowed
          exact ⟨stored', heeds, fun _ success => off success⟩
      | coldReset => exact reset (by simp) allowed.1 allowed.2 made
      | warmReset => exact reset (by simp) allowed.1 allowed.2 made

/-- The invariant of a run, and what it is for. -/
def AllConsistent (past : List (Turn CCCIDReader CardCall Performed)) (reader : CCCIDReader) : Prop :=
  Stored reader ∧ ∀ made ∈ outputs past, Consistent made

def ConsistentUpTo (past : List (Turn CCCIDReader CardCall Performed)) (_ : Unit) : Prop :=
  ∀ made ∈ outputs past, Consistent made

variable (around) in
theorem cardBody_consistent (past : List (Turn CCCIDReader CardCall Performed)) (reader : CCCIDReader)
    (called : CardCall) (before : AllConsistent past reader) (orderly : OrderlyCall around reader called) :
    (cardBody around reader called).2.Satisfies
      (AllConsistent (past ++ [⟨reader, called, (cardBody around reader called).1⟩]))
      (ConsistentUpTo (past ++ [⟨reader, called, (cardBody around reader called).1⟩])) := by
  obtain ⟨stored, earlier⟩ := before
  cases made : called.op.perform around ⟨reader, called.exchanges, []⟩ with
  | none =>
      simpa only [cardBody, made, satisfies_done, ConsistentUpTo, outputs_append, outputs_singleton,
        List.append_nil] using earlier
  | some performed =>
      obtain ⟨result, after⟩ := performed
      have now := perform_consistent stored called made orderly
      simp only [cardBody, made, satisfies_again, AllConsistent, outputs_append, outputs_singleton,
        List.mem_append, List.mem_singleton]
      refine ⟨now.stored, fun other member => ?_⟩
      cases member with
      | inl before => exact earlier other before
      | inr here =>
          rw [here]
          exact now

/-- From its construction on a reader object is consistent behind every
operation, as long as the operations are in order. -/
theorem operations_consistent (around : Surroundings) (reader : CCCIDReader)
    (constructed : reader.m_ReaderState = .initial) (calls : List CardCall)
    (orderly : Meets (OrderlyCall around) (run (cardBody around) reader calls).turns) :
    ∀ made ∈ outputs (run (cardBody around) reader calls).turns, Consistent made := by
  have start : AllConsistent [] reader :=
    ⟨stored_of_state (by rw [constructed]; decide), by simp⟩
  have finished := run_satisfies (cardBody_consistent around) [] start orderly
  rw [List.nil_append] at finished
  cases ended : (run (cardBody around) reader calls).outcome with
  | done result =>
      rw [ended] at finished
      exact finished
  | again next =>
      rw [ended] at finished
      exact finished.2

instance (met : Accepted) : Decidable met.Quiet := inferInstanceAs (Decidable (_ ∨ _))

instance (met : Accepted) : Decidable met.IsATR := inferInstanceAs (Decidable (_ ∧ _))

instance (beyond : Nat → UInt8) (met : Accepted) : Decidable (met.Settled beyond) :=
  inferInstanceAs (Decidable ((_ → _ ∧ _ ∧ (_ → _)) ∧ (_ → _)))

instance (around : Surroundings) (reader : CCCIDReader) (accepted : List Accepted) (op : CardOp) :
    Decidable (op.Orderly around reader accepted) :=
  match op with
  | .transfer _ => inferInstanceAs (Decidable (∀ met ∈ accepted, _ → _))
  | .IfdGetState => inferInstanceAs (Decidable (∀ met ∈ accepted, _ → _ ∨ _))
  | .IfdSetProtocol _ => inferInstanceAs (Decidable (∀ met ∈ accepted, _ → _ ∨ _ → _ ∧ _))
  | .IfdPower .powerDown => inferInstanceAs (Decidable (∀ met ∈ accepted, _ → _ ∨ (_ ∧ (_ ∨ _))))
  | .IfdPower (.other _) => .isTrue trivial
  | .IfdPower .coldReset => inferInstanceAs (Decidable ((∀ met ∈ accepted, _) ∧ (_ → (∃ met ∈ accepted, _ ∨ _) ∨ _)))
  | .IfdPower .warmReset => inferInstanceAs (Decidable ((∀ met ∈ accepted, _) ∧ (_ → (∃ met ∈ accepted, _ ∨ _) ∨ _)))

instance (around : Surroundings) (reader : CCCIDReader) (called : CardCall) :
    Decidable (OrderlyCall around reader called) :=
  match made : called.op.perform around ⟨reader, called.exchanges, []⟩ with
  | none => .isTrue fun result session other => by simp [made] at other
  | some (result, session) =>
      decidable_of_iff (called.op.Orderly around reader session.accepted)
        ⟨fun orderly result' session' other => by
          rw [made, Option.some.injEq, Prod.mk.injEq] at other
          exact other.2 ▸ orderly,
        fun orderly => orderly result session made⟩

/-- An exchange in which the reader answers with the same byte throughout. -/
def answering (bMessageType bSeq bStatus : UInt8) (dwLength : UInt32) (byte : UInt8) : Exchange :=
  ⟨none, [.arrived ⟨bMessageType, dwLength, bSeq, bStatus, 0, .filled 2038 byte⟩ 0]⟩

/-- A reset that finds a memory card. -/
def memoryCardReset : CardCall :=
  ⟨.IfdPower .coldReset, [answering 0x81 0 1 0 0, answering 0x80 1 0 1 0x41]⟩

def plainSurroundings : Surroundings := ⟨1024, fun _ => 0⟩

def removedCard : List CardCall :=
  [memoryCardReset, ⟨.IfdGetState, [answering 0x81 2 0 0 0]⟩,
    ⟨.IfdPower .powerDown, [answering 0x81 3 2 0 0]⟩]

/-- The card is used and then taken out before the power-down. -/
theorem removedCard_consistent :
    Meets (OrderlyCall plainSurroundings) (run (cardBody plainSurroundings) .constructed removedCard).turns ∧
      ∀ made ∈ outputs (run (cardBody plainSurroundings) .constructed removedCard).turns,
        Consistent made := by
  have orderly : Meets (OrderlyCall plainSurroundings)
      (run (cardBody plainSurroundings) .constructed removedCard).turns := by
    decide +kernel
  exact ⟨orderly, operations_consistent plainSurroundings .constructed rfl removedCard orderly⟩

/-- Behind the power-down of a memory card its state is still `SCARD_SPECIFIC`. -/
theorem poweredDown_not_consistent :
    ¬ ∀ made ∈ outputs (run (cardBody plainSurroundings) .constructed
      [memoryCardReset, ⟨.IfdPower .powerDown, [answering 0x81 2 1 0 0]⟩]).turns, Consistent made := by
  intro consistent
  have facts : (outputs (run (cardBody plainSurroundings) .constructed
      [memoryCardReset, ⟨.IfdPower .powerDown, [answering 0x81 2 1 0 0]⟩]).turns).any (fun made =>
        made.op = .IfdPower .powerDown ∧ made.result = .success ∧ made.reader.m_ReaderState = .specific) =
      true := by
    decide +kernel
  obtain ⟨made, member, found⟩ := List.any_eq_true.mp facts
  simp only [decide_eq_true_eq] at found
  exact (consistent made member).powerDown found.1 found.2.1 found.2.2

end Cyberjack.Eca
