import Cyberjack.Eca.CardState
import Cyberjack.Foundation.Checksum

namespace Cyberjack.Eca

open Cyberjack.Foundation

/-! # Historical bytes

`m_Historical` and `m_Historical_Length` next to the state of the card, and the
rewriting of the ATR in `CECRReader::IfdPower`, up to `ctBcsReset`.
-/

/-- What `m_Historical` points to. -/
inductive HistPointer where
  | uninitialised
  | null
  | inATR (offset : Nat)
deriving Repr, DecidableEq

/-- Members that `CCCIDReader` leaves out: `written` bytes of `m_ATR` have been initialised, and
`none` is a length that has not. -/
structure CardMemory where
  m_Historical : HistPointer
  m_Historical_Length : Option Nat
  m_bIsRF : Bool
  written : Nat
deriving DecidableEq

def CardMemory.constructed : CardMemory := ⟨.uninitialised, none, false, 0⟩

/-! ## AnalyseATR -/

/-- The offset at which the loop of `check_len` leaves `*historical`, if it sets it. -/
def historicalAt (atr : Nat → UInt8) (buf_len : Nat) : Nat → Nat → Option Nat
  | 0, _ => none
  | passes + 1, len =>
      let Tx := atr (1 + len)
      let behind := len + GetBits (Tx &&& 0xf0)
      if buf_len ≥ behind ∧ Tx &&& 0x80 ≠ 0 then
        if buf_len > behind then historicalAt atr buf_len passes behind else none
      else some (2 + behind)

def checkedHistorical (atr : Nat → UInt8) (buf_len : Nat) (memory : CardMemory) : CardMemory :=
  { memory with
    m_Historical_Length := some (atr 1 &&& 0x0f).toNat
    m_Historical :=
      match historicalAt atr buf_len (buf_len + 1) 0 with
      | some offset => .inATR offset
      | none => memory.m_Historical }

/-- What `AnalyseATR` does to both members. -/
def analysedHistorical (atr : Nat → UInt8) (m_ATR_Length : Nat) (memory : CardMemory) : CardMemory :=
  if m_ATR_Length > 0 ∧ (atr 0 = 0x3b ∨ atr 0 = 0x3f) then checkedHistorical atr m_ATR_Length memory
  else if m_ATR_Length = 4 ∧ (atr 0 = 0x2c ∨ atr 0 = 0x92 ∨ atr 0 = 0xa2 ∨ atr 0 = 0x82) then
    { memory with m_Historical_Length := some 0 }
  else if m_ATR_Length = 4 ∧ (atr 0 = 0xff ∨ atr 0 &&& 0xf0 = 0x80) then
    { memory with m_Historical_Length := some 0 }
  else if atr 0 = 0x41 then { memory with m_Historical_Length := some 0, m_Historical := .null }
  else memory

/-! ## IfdPower -/

variable (around : Surroundings)

/-- A reset of `CEC30Reader::IfdPower`: the reader, the members and `ATR` behind it. -/
structure PoweredCard where
  result : RSCT_IFD_RESULT
  session : Session
  memory : CardMemory
  ATR : List UInt8

/-- The bytes in front of `m_ATR_Length`. -/
def CCCIDReader.storedATR (reader : CCCIDReader) : List UInt8 := reader.m_ATR.cells.take reader.m_ATR_Length

/-- `powerOn` with the members and the ATR it hands on. -/
def powerOnCard : Nat → Bool → Session → CardMemory → Option PoweredCard
  | 0, _, _, _ => none
  | passes + 1, warm, session, memory =>
      match session.transfer around.inputBufferSize ⟨PC_TO_RDR_ICCPOWERON, 4⟩ with
      | none => none
      | some (none, session) => some ⟨.deviceNotConnected, session, memory, []⟩
      | some (some Response, session) =>
          if Response.bMessageType ≠ RDR_TO_PC_DATABLOCK then some ⟨.deviceNotConnected, session, memory, []⟩
          else if Response.bStatus &&& 0x40 ≠ 0 then some ⟨powerError Response.bError, session, memory, []⟩
          else
            let reader := storeATR Response session.reader
            let memory := analysedHistorical (reader.atr around.beyond) reader.m_ATR_Length
              { memory with written := max memory.written reader.m_ATR_Length }
            match AnalyseATR around warm { session with reader := reader } with
            | none => none
            | some (error, session) =>
                if error = 1 then powerOnCard passes true session memory
                else some ⟨.success, session, memory, reader.storedATR⟩

/-- `IfdPower(SCARD_COLD_RESET, ...)` of `CEC30Reader`. -/
def coldReset (session : Session) (memory : CardMemory) : Option PoweredCard :=
  match powerDown around session with
  | none => none
  | some (_, session) => powerOnCard around (session.exchanges.length + 1) false session memory

/-! ## Contactless cards -/

/-- The reader object in use, with what its `IfdPower` looks up. -/
inductive ReaderKind where
  | ECR (PrefereMifareClasic : Bool)
  | ECA (unrecognized : Bool)
deriving Repr, DecidableEq

/-- What `IfdPower` of the reader object returns. -/
inductive CardPower where
  | answered (result : RSCT_IFD_RESULT)
  | bufferTooSmall
  /-- `m_ATR` is written beyond its end. -/
  | fault
deriving Repr, DecidableEq

def tck (atr : List UInt8) : UInt8 := xorSum (atr.drop 1)

/-- The number of historical bytes of an ATS: `abData[0]` less the bytes in front of them. -/
def atsHistorical (abData : List UInt8) : UInt8 :=
  abData.getD 0 0 - UInt8.ofNat (2 + GetBits ((abData.getD 2 0 &&& 0x70) >>> 4))

/-- The ATR of a type A card from its ATS. -/
def atsATR (abData : List UInt8) : List UInt8 :=
  let i := GetBits ((abData.getD 2 0 &&& 0x70) >>> 4)
  [0x3b, 0x80 ||| atsHistorical abData, 0x80, 0x01] ++ (abData.drop (3 + i)).take (atsHistorical abData).toNat

/-- The ATR of a Mifare Classic card. -/
def mifareATR (merkSAK : UInt8) : List UInt8 :=
  let name : List UInt8 :=
    if merkSAK &&& 0xdf = 0x08 then [0x03, 0x00, 0x01]
    else if merkSAK &&& 0xdf = 0x09 then [0x03, 0x00, 0x26]
    else if merkSAK &&& 0xdf = 0x18 then [0x03, 0x00, 0x02]
    else [0x00, 0x00, 0x00]
  [0x3b, 0x8f, 0x80, 0x01, 0x80, 0x4f, 0x0c, 0xA0, 0x00, 0x00, 0x03, 0x06] ++ name ++ [0x00, 0x00, 0x00, 0x00]

/-- The ATR of a type B card, from bytes of the answer. -/
def typeBATR (cells : List UInt8) : List UInt8 := [0x3b, 0x88, 0x80, 0x01] ++ (cells.drop 1).take 8

/-- A power-on that the reader object has answered. -/
structure CardReset where
  power : CardPower
  session : Session
  memory : CardMemory
  ATR : List UInt8

/-- The end of both branches: the check byte, the copy into `ATR` and the members. -/
def rewriteATR (OrginalATR_Length : Nat) (session : Session) (memory : CardMemory) (atr : List UInt8) : CardReset :=
  let whole := atr ++ [tck atr]
  if room : 0 + whole.length ≤ 33 then
    let reader := { session.reader with
      m_ATR := session.reader.m_ATR.store 0 whole room
      m_ATR_Length := whole.length }
    let memory := { memory with written := max memory.written whole.length }
    if OrginalATR_Length < whole.length then ⟨.bufferTooSmall, { session with reader := reader }, memory, []⟩
    else
      let reader := { reader with
        m_PossibleProtocols := SCARD_PROTOCOL_T1
        m_ActiveProtocol := SCARD_PROTOCOL_T1
        m_ReaderState := .specific }
      ⟨.answered .success, { session with reader := reader }, { memory with m_bIsRF := true }, whole⟩
  else ⟨.fault, session, memory, []⟩

/-- `CECRReader::IfdPower` behind the call of its base. -/
def contactless (PrefereMifareClasic : Bool) (OrginalATR_Length : Nat) (card : PoweredCard) : Option CardReset :=
  let reader := card.session.reader
  let memory := { card.memory with m_bIsRF := false }
  let cells := reader.m_ATR.cells
  let kept : CardReset := ⟨.answered card.result, card.session, memory, card.ATR⟩
  if card.result = .success ∧ 6 ≤ reader.m_ATR_Length ∧ reader.m_ATR_Length ≤ 12 then
    if cells.getD 0 0 = 0x41 then
      let SAK := cells.getD 1 0
      if SAK &&& 0x20 ≠ 0 ∧ ¬ ((SAK = 0x28 ∨ SAK = 0x38) ∧ PrefereMifareClasic = true) then
        match card.session.transfer around.inputBufferSize ⟨PC_TO_RDR_SETPARAMETERS, 0⟩ with
        | none => none
        | some (none, session) => some ⟨.answered .deviceNotConnected, session, memory, card.ATR⟩
        | some (some Response, session) =>
            if Response.slot = 2 then some ⟨.answered .noMedia, session, memory, card.ATR⟩
            else if Response.slot = 1 ∨ Response.bStatus &&& 0x40 ≠ 0 then
              some ⟨.answered .ioTimeout, session, memory, card.ATR⟩
            else if Response.abData.cells.getD 0 0 > 15 then
              some ⟨.answered .noMedia, { session with reader := { session.reader with
                m_ATR := session.reader.m_ATR.store 0 [0x3b, 0x80, 0x80, 0x01] (by decide) } }, memory, card.ATR⟩
            else some (rewriteATR OrginalATR_Length session memory (atsATR Response.abData.cells))
      else some (rewriteATR OrginalATR_Length card.session memory (mifareATR SAK))
    else if cells.getD 0 0 = 0x42 then
      some (rewriteATR OrginalATR_Length card.session memory (typeBATR cells))
    else some kept
  else some kept

/-- `IfdPower(SCARD_COLD_RESET, ...)` of the reader object. -/
def cardPower (kind : ReaderKind) (ATR_Length : Nat) (session : Session) (memory : CardMemory) : Option CardReset :=
  match kind with
  | .ECA true => some ⟨.answered .unrecognizedMedia, session, memory, []⟩
  | .ECA false =>
      (coldReset around session memory).map fun card => ⟨.answered card.result, card.session, card.memory, card.ATR⟩
  | .ECR PrefereMifareClasic =>
      match coldReset around session memory with
      | none => none
      | some card => contactless around PrefereMifareClasic ATR_Length card

/-! ## ctBcsReset -/

/-- `IfdSetProtocol` of the reader object; with a contactless card nothing is sent. -/
def cardProtocol (kind : ReaderKind) (pProtocol : UInt32) (session : Session) (memory : CardMemory) :
    Option ((RSCT_IFD_RESULT × UInt32) × Session) :=
  match kind, memory.m_bIsRF with
  | .ECR _, true =>
      let reader := session.reader
      match reader.m_ReaderState with
      | .absent => some ((.noMedia, 0), session)
      | .negotiable =>
          let Protocol := chosenProtocol pProtocol (SCARD_PROTOCOL_T0 ||| SCARD_PROTOCOL_T1)
          let active (protocol : UInt32) : Option ((RSCT_IFD_RESULT × UInt32) × Session) :=
            some ((.success, protocol),
              { session with reader := { reader with m_ActiveProtocol := protocol, m_ReaderState := .specific } })
          if Protocol &&& SCARD_PROTOCOL_T0 ≠ 0 ∧ reader.m_PossibleProtocols &&& SCARD_PROTOCOL_T0 ≠ 0 then
            active SCARD_PROTOCOL_T0
          else if Protocol &&& SCARD_PROTOCOL_T1 ≠ 0 ∧ reader.m_PossibleProtocols &&& SCARD_PROTOCOL_T1 ≠ 0 then
            active SCARD_PROTOCOL_T1
          else some ((.invalidDeviceRequest, 0), session)
      | .specific =>
          let Protocol := chosenProtocol pProtocol (SCARD_PROTOCOL_T0 ||| SCARD_PROTOCOL_T1 ||| SCARD_PROTOCOL_RAW)
          if reader.m_ActiveProtocol &&& Protocol ≠ 0 then some ((.success, reader.m_ActiveProtocol), session)
          else some ((.notSupported, 0), session)
      | _ => some ((.ioTimeout, 0), session)
  | _, _ => IfdSetProtocol around pProtocol session

/-- The errors of `ctBcsReset`. -/
inductive ResetError where
  | deviceLost
  | noIcc
  | pinCanceled
  | prot
deriving Repr, DecidableEq

inductive ResetResult where
  | failed (Res : ResetError)
  | success (atr : List UInt8)
  | fault
deriving Repr, DecidableEq

def powerFailure : RSCT_IFD_RESULT → ResetError
  | .deviceNotConnected => .deviceLost
  | .noMedia => .noIcc
  | .cancelled => .pinCanceled
  | _ => .prot

def protocolFailure : RSCT_IFD_RESULT → ResetError
  | .deviceNotConnected => .deviceLost
  | .noMedia => .noIcc
  | _ => .prot

def preferred (prevered : UInt8) : UInt32 :=
  if prevered = 1 then SCARD_PROTOCOL_T0
  else if prevered = 2 then SCARD_PROTOCOL_T1
  else SCARD_PROTOCOL_DEFAULT

/-- `CCCIDReader::ctBcsReset` -/
def ctBcsReset (kind : ReaderKind) (atr_len prevered : UInt8) (session : Session) (memory : CardMemory) :
    Option (ResetResult × Session × CardMemory) :=
  match cardPower around kind atr_len.toNat session memory with
  | none => none
  | some reset =>
      match reset.power with
      | .fault => some (.fault, reset.session, reset.memory)
      | .bufferTooSmall => some (.failed .prot, reset.session, reset.memory)
      | .answered .success =>
          match cardProtocol around kind (preferred prevered) reset.session reset.memory with
          | none => none
          | some ((.success, _), session) => some (.success reset.ATR, session, reset.memory)
          | some ((other, _), session) => some (.failed (protocolFailure other), session, reset.memory)
      | .answered other => some (.failed (powerFailure other), reset.session, reset.memory)

/-! ## What should be returned -/

/-- Where the historical bytes of an ATR begin; `place` is T0 or one of the TD behind it. -/
def historicalStart (atr : List UInt8) : Nat → Nat → Option Nat
  | 0, _ => none
  | passes + 1, place =>
      match atr[place]? with
      | none => none
      | some Y =>
          let behind := place + GetBits (Y &&& 0xf0)
          if Y &&& 0x80 ≠ 0 then historicalStart atr passes behind else some (behind + 1)

/-- The historical bytes of an ATR, where all of them are there; other cards have none. -/
def historicalOf (atr : List UInt8) : Option (List UInt8) :=
  if atr.getD 0 0 = 0x3b ∨ atr.getD 0 0 = 0x3f then
    match historicalStart atr atr.length 1 with
    | none => none
    | some start =>
        let K := (atr.getD 1 0 &&& 0x0f).toNat
        if start + K ≤ atr.length then some ((atr.drop start).take K) else none
  else some []

/-- `memcpy(historical,m_Historical,m_Historical_Length)` copies the historical bytes of the ATR that
is returned, from bytes of `m_ATR` that have been written. -/
def HistoricalMatches (atr : List UInt8) (reader : CCCIDReader) (memory : CardMemory) : Prop :=
  ∃ historical, historicalOf atr = some historical ∧ memory.m_Historical_Length = some historical.length ∧
    historical.length ≤ 15 ∧
    (historical ≠ [] → ∃ offset, memory.m_Historical = .inATR offset ∧ offset + historical.length ≤ memory.written ∧
      (reader.m_ATR.cells.drop offset).take historical.length = historical)

structure Activation where
  prevered : UInt8
  atr_len : UInt8
  exchanges : List Exchange

/-- A reader object with its members. -/
structure CardReader where
  reader : CCCIDReader
  memory : CardMemory

structure Activated where
  result : ResetResult
  behind : CardReader

/-- A call of `ctBcsReset`; one that waits for the reader, or writes where it must not, ends the run. -/
def activationBody (kind : ReaderKind) : Body CardReader Activation Activated Unit := fun card activation =>
  match ctBcsReset around kind activation.atr_len activation.prevered ⟨card.reader, activation.exchanges, []⟩
    card.memory with
  | none => ([], .done ())
  | some (.fault, _, _) => ([], .done ())
  | some (result, session, memory) => ([⟨result, ⟨session.reader, memory⟩⟩], .again ⟨session.reader, memory⟩)

def Activated.Matches (made : Activated) : Prop :=
  ∀ atr, made.result = .success atr → HistoricalMatches atr made.behind.reader made.behind.memory

/-- The reader object rewrites this answer to a reset. -/
def Rewritten (kind : ReaderKind) (atr : List UInt8) : Prop :=
  (∃ PrefereMifareClasic, kind = .ECR PrefereMifareClasic) ∧ 6 ≤ atr.length ∧ atr.length ≤ 12 ∧
    (atr.getD 0 0 = 0x41 ∨ atr.getD 0 0 = 0x42)

/-- A type A card is selected, and its ATS has no historical bytes. -/
def BareTypeA (kind : ReaderKind) (powered : PoweredCard) : Prop :=
  ∃ PrefereMifareClasic, kind = .ECR PrefereMifareClasic ∧ powered.ATR.getD 0 0 = 0x41 ∧
    powered.ATR.getD 1 0 &&& 0x20 ≠ 0 ∧
    ¬ ((powered.ATR.getD 1 0 = 0x28 ∨ powered.ATR.getD 1 0 = 0x38) ∧ PrefereMifareClasic = true) ∧
    ∀ Response after, powered.session.transfer around.inputBufferSize ⟨PC_TO_RDR_SETPARAMETERS, 0⟩ =
      some (some Response, after) → atsHistorical Response.abData.cells = 0

/-- The ATR that an activation finds has all its historical bytes; a contactless card has none. -/
def FindsPlainCard (kind : ReaderKind) (card : CardReader) (activation : Activation) : Prop :=
  ∀ powered, coldReset around ⟨card.reader, activation.exchanges, []⟩ card.memory = some powered →
    powered.result = .success →
      (historicalOf powered.ATR).isSome ∧ (Rewritten kind powered.ATR → BareTypeA around kind powered)

/-! ## m_ATR behind the messages -/

variable {around : Surroundings} {session after : Session} {reader : CCCIDReader} {memory : CardMemory}
  {atr : Nat → UInt8} {list : List UInt8} {start passes count : Nat}

/-- The bytes are kept, and the length unless a card has gone. -/
structure KeepsATR (first second : CCCIDReader) : Prop where
  atr : second.m_ATR = first.m_ATR
  length : second.m_ATR_Length = first.m_ATR_Length ∨ second.m_ATR_Length = 0

theorem KeepsATR.trans {first second third : CCCIDReader} (one : KeepsATR first second)
    (two : KeepsATR second third) : KeepsATR first third := by
  refine ⟨two.atr.trans one.atr, ?_⟩
  rcases two.length with same | none
  · rw [same]
    exact one.length
  · exact .inr none

theorem transfer_keepsATR {found : Option CCID_Response} {size : Nat} {Message : CCID_Message}
    (made : session.transfer size Message = some (found, after)) : KeepsATR session.reader after.reader := by
  refine ⟨transfer_atr made, ?_⟩
  cases Session.transfer_cases made with
  | inl failed => exact .inl failed.2.1.length
  | inr received =>
      obtain ⟨Response, _, reader', _⟩ := received
      rw [reader', acceptResponse_length]
      split
      · exact .inl rfl
      · exact .inr rfl

theorem judgeATR_keepsATR {scan : AtrScan} {error : Nat}
    (made : judgeATR around scan session = some (error, after)) : KeepsATR session.reader after.reader := by
  obtain ⟨reader, atr, length, same | ⟨found, sent⟩⟩ := judgeATR_cases made
  · rw [same]
    exact ⟨atr, .inl length⟩
  · have kept : KeepsATR session.reader reader := ⟨atr, .inl length⟩
    exact kept.trans (transfer_keepsATR sent)

theorem AnalyseATR_keepsATR {warm : Bool} {error : Nat}
    (made : AnalyseATR around warm session = some (error, after)) : KeepsATR session.reader after.reader := by
  unfold AnalyseATR at made
  simp only at made
  have powered : KeepsATR session.reader session.powered.reader := ⟨rfl, .inl rfl⟩
  split at made
  · split at made
    · split at made
      · contradiction
      · rename_i _ _ between off
        obtain ⟨_, sent, _⟩ := powerDown_transfer off
        exact powered.trans ((transfer_keepsATR sent).trans (judgeATR_keepsATR made))
    · exact powered.trans (judgeATR_keepsATR made)
  · exact powered.trans (judgeATR_keepsATR made)

theorem AnalyseATR_other {warm : Bool} {error : Nat}
    (form : ¬ (session.reader.m_ATR_Length > 0 ∧
      (session.reader.atr around.beyond 0 = 0x3b ∨ session.reader.atr around.beyond 0 = 0x3f)))
    (sync : ¬ (session.reader.m_ATR_Length = 4 ∧ (session.reader.atr around.beyond 0 = 0x2c ∨
      session.reader.atr around.beyond 0 = 0x92 ∨ session.reader.atr around.beyond 0 = 0xa2 ∨
      session.reader.atr around.beyond 0 = 0x82)))
    (raw : ¬ (session.reader.m_ATR_Length = 4 ∧ (session.reader.atr around.beyond 0 = 0xff ∨
      session.reader.atr around.beyond 0 &&& 0xf0 = 0x80)))
    (typeA : session.reader.atr around.beyond 0 ≠ 0x41)
    (made : AnalyseATR around warm session = some (error, after)) : after.reader.m_ReaderState = .powered := by
  unfold AnalyseATR at made
  simp only at made
  split at made
  · rename_i present
    exact absurd present form
  unfold judgeATR at made
  simp only at made
  rw [if_neg (by decide)] at made
  split at made
  · rename_i present
    exact absurd present sync
  split at made
  · rename_i present
    exact absurd present raw
  split at made
  · rename_i present
    exact absurd present typeA
  · rw [Option.some.injEq, Prod.mk.injEq] at made
    rw [← made.2]
    rfl

/-! ## Where the historical bytes are -/

theorem historicalStart_inside {place : Nat} (found : historicalStart list passes place = some start) :
    place < list.length := by
  cases passes with
  | zero => contradiction
  | succ passes =>
      rw [historicalStart] at found
      cases here : list[place]? with
      | none =>
          rw [here] at found
          contradiction
      | some Y => exact (List.getElem?_eq_some_iff.mp here).1

theorem historicalAt_of_start {more len : Nat} (enough : passes ≤ more)
    (same : ∀ index < list.length, atr index = list.getD index 0)
    (found : historicalStart list passes (1 + len) = some start) :
    historicalAt atr list.length more len = some start := by
  induction passes generalizing more len with
  | zero => contradiction
  | succ passes ih =>
      cases more with
      | zero => omega
      | succ more =>
          have inside := historicalStart_inside found
          rw [historicalStart, List.getElem?_eq_getElem inside] at found
          have byte : atr (1 + len) = list[1 + len] := by
            rw [same _ inside, List.getD_eq_getElem _ _ inside]
          simp only at found
          simp only [historicalAt, byte]
          by_cases more_ : list[1 + len] &&& 0x80 ≠ 0
          · rw [if_pos more_, Nat.add_assoc] at found
            have behind := historicalStart_inside found
            rw [if_pos ⟨by omega, more_⟩, if_pos (by omega)]
            exact ih (by omega) found
          · rw [if_neg more_, Option.some.injEq] at found
            rw [if_neg (fun both => more_ both.2), Option.some.injEq]
            omega

theorem historicalOf_some {historical : List UInt8} (form : list.getD 0 0 = 0x3b ∨ list.getD 0 0 = 0x3f)
    (found : historicalOf list = some historical) :
    ∃ start, historicalStart list list.length 1 = some start ∧
      start + historical.length ≤ list.length ∧ historical.length = (list.getD 1 0 &&& 0x0f).toNat ∧
      historical = (list.drop start).take historical.length := by
  rw [historicalOf, if_pos form] at found
  cases begins : historicalStart list list.length 1 with
  | none =>
      rw [begins] at found
      contradiction
  | some start =>
      rw [begins] at found
      simp only at found
      split at found
      · rename_i complete
        rw [Option.some.injEq] at found
        have length : historical.length = (list.getD 1 0 &&& 0x0f).toNat := by
          rw [← found, List.length_take, List.length_drop]
          omega
        refine ⟨start, rfl, by omega, length, ?_⟩
        rw [length]
        exact found.symm
      · contradiction

theorem low_le (byte : UInt8) : (byte &&& 0x0f).toNat ≤ 15 := by
  rw [UInt8.toNat_and]
  exact Nat.and_le_right

/-! ## A reset of the base -/

/-- Without the members it is the reset of `IfdPower`. -/
theorem powerOnCard_forgets (passes : Nat) (warm : Bool) (session : Session) (memory : CardMemory) :
    (powerOnCard around passes warm session memory).map (fun powered => (powered.result, powered.session)) =
      powerOn around passes warm session := by
  induction passes generalizing warm session memory with
  | zero => rfl
  | succ passes ih =>
      simp only [powerOnCard, powerOn]
      cases session.transfer around.inputBufferSize ⟨PC_TO_RDR_ICCPOWERON, 4⟩ with
      | none => rfl
      | some transferred =>
          obtain ⟨found, between⟩ := transferred
          cases found with
          | none => rfl
          | some Response =>
              simp only
              split
              · rfl
              split
              · rfl
              cases AnalyseATR around warm { between with reader := storeATR Response between.reader } with
              | none => rfl
              | some analysed =>
                  obtain ⟨error, last⟩ := analysed
                  simp only
                  split
                  · exact ih true last _
                  · rfl

/-- What a reset that succeeds leaves: the last ATR, and what `AnalyseATR` has made of it. -/
structure PoweredWith (beyond : Nat → UInt8) (stored : CCCIDReader) (before : CardMemory)
    (powered : PoweredCard) : Prop where
  ATR : powered.ATR = stored.storedATR
  length : stored.m_ATR_Length ≤ 33
  written : stored.m_ATR_Length ≤ before.written
  memory : powered.memory = analysedHistorical (stored.atr beyond) stored.m_ATR_Length before
  keeps : KeepsATR stored powered.session.reader

theorem powerOnCard_success {warm : Bool} {powered : PoweredCard}
    (made : powerOnCard around passes warm session memory = some powered) (success : powered.result = .success) :
    ∃ stored before, PoweredWith around.beyond stored before powered ∧
      ∃ warm exchanges accepted error,
        AnalyseATR around warm ⟨stored, exchanges, accepted⟩ = some (error, powered.session) := by
  induction passes generalizing warm session memory with
  | zero => contradiction
  | succ passes ih =>
      simp only [powerOnCard] at made
      split at made
      · contradiction
      · cases made
        contradiction
      · rename_i Response between sent
        split at made
        · cases made
          contradiction
        split at made
        · cases made
          exact absurd success (powerError_ne_success _)
        split at made
        · contradiction
        · rename_i error last analysed
          split at made
          · exact ih made
          · cases made
            refine ⟨storeATR Response between.reader, _, ⟨rfl, Nat.min_le_right _ _, Nat.le_max_right _ _, rfl,
              AnalyseATR_keepsATR analysed⟩, warm, between.exchanges, between.accepted, error, analysed⟩

theorem storedATR_length (short : reader.m_ATR_Length ≤ 33) : reader.storedATR.length = reader.m_ATR_Length := by
  have size := reader.m_ATR.length_cells
  rw [CCCIDReader.storedATR, List.length_take]
  omega

theorem storedATR_getD {beyond : Nat → UInt8} {index : Nat} (short : reader.m_ATR_Length ≤ 33)
    (inside : index < reader.m_ATR_Length) : reader.storedATR.getD index 0 = reader.atr beyond index := by
  have size := reader.m_ATR.length_cells
  have within : index < reader.m_ATR.cells.length := by omega
  have taken : index < reader.storedATR.length := by
    rw [storedATR_length short]
    exact inside
  rw [List.getD_eq_getElem _ _ taken, CCCIDReader.atr, List.getD_eq_getElem _ _ within]
  exact List.getElem_take

/-- Cells that an ATR covers are bytes of it. -/
theorem storedATR_slice (inside : start + count ≤ reader.m_ATR_Length) :
    (reader.storedATR.drop start).take count = (reader.m_ATR.cells.drop start).take count := by
  rw [CCCIDReader.storedATR, List.drop_take, List.take_take, Nat.min_eq_left (by omega)]

theorem HistoricalMatches.of_same {ATR : List UInt8} {other : CCCIDReader} {kept : CardMemory}
    (matched : HistoricalMatches ATR reader memory) (cells : other.m_ATR = reader.m_ATR)
    (pointer : kept.m_Historical = memory.m_Historical)
    (length : kept.m_Historical_Length = memory.m_Historical_Length) (written : memory.written ≤ kept.written) :
    HistoricalMatches ATR other kept := by
  obtain ⟨historical, found, counted, short, stands⟩ := matched
  refine ⟨historical, found, length.trans counted, short, fun some => ?_⟩
  obtain ⟨offset, points, initialised, copied⟩ := stands some
  refine ⟨offset, pointer.trans points, by omega, ?_⟩
  rw [cells]
  exact copied

/-- An ATR without historical bytes, of which the length says so. -/
theorem HistoricalMatches.of_none {ATR : List UInt8} (none_ : historicalOf ATR = some [])
    (counted : memory.m_Historical_Length = some 0) : HistoricalMatches ATR reader memory :=
  ⟨[], none_, counted, Nat.zero_le _, fun some => absurd rfl some⟩

theorem checked_matches {beyond : Nat → UInt8} {historical : List UInt8} (short : reader.m_ATR_Length ≤ 33)
    (form : reader.storedATR.getD 0 0 = 0x3b ∨ reader.storedATR.getD 0 0 = 0x3f)
    (found : historicalOf reader.storedATR = some historical) (written : reader.m_ATR_Length ≤ memory.written) :
    HistoricalMatches reader.storedATR reader
      (checkedHistorical (reader.atr beyond) reader.m_ATR_Length memory) := by
  obtain ⟨start, begins, complete, length, slice⟩ := historicalOf_some form found
  have inside := historicalStart_inside begins
  have size := storedATR_length short
  rw [size] at inside complete
  have T0 := @storedATR_getD _ beyond 1 short inside
  refine ⟨historical, found, ?_, ?_, fun _ => ⟨start, ?_, by
    change start + historical.length ≤ memory.written
    omega, ?_⟩⟩
  · rw [length, T0]
    rfl
  · rw [length]
    exact low_le _
  · have set : historicalAt (reader.atr beyond) reader.storedATR.length (reader.m_ATR_Length + 1) 0 = some start := by
      refine historicalAt_of_start (by omega) (fun index within => ?_) begins
      rw [size] at within
      exact (storedATR_getD short within).symm
    rw [size] at set
    simp only [checkedHistorical, set]
  · rw [← storedATR_slice complete]
    exact slice.symm

theorem powered_matches {stored : CCCIDReader} {before : CardMemory} {powered : PoweredCard} {warm : Bool}
    {exchanges : List Exchange} {accepted : List Accepted} {error : Nat}
    (made : PoweredWith around.beyond stored before powered) (complete : (historicalOf powered.ATR).isSome)
    (analysed : AnalyseATR around warm ⟨stored, exchanges, accepted⟩ = some (error, powered.session))
    (usable : powered.session.reader.m_ReaderState ≠ .powered) :
    HistoricalMatches powered.ATR powered.session.reader powered.memory := by
  have short := made.length
  obtain ⟨historical, found⟩ := Option.isSome_iff_exists.mp complete
  rw [made.ATR] at found ⊢
  rw [made.memory, analysedHistorical]
  by_cases form : stored.m_ATR_Length > 0 ∧
      (stored.atr around.beyond 0 = 0x3b ∨ stored.atr around.beyond 0 = 0x3f)
  · rw [if_pos form]
    have first := @storedATR_getD stored around.beyond 0 short form.1
    have matched := @checked_matches stored before around.beyond _ short (by rw [first]; exact form.2) found made.written
    exact matched.of_same made.keeps.atr rfl rfl (Nat.le_refl _)
  · rw [if_neg form]
    have plain : historicalOf stored.storedATR = some [] := by
      rw [historicalOf, if_neg]
      intro starts
      by_cases present : stored.m_ATR_Length > 0
      · rw [@storedATR_getD stored around.beyond 0 short present] at starts
        exact form ⟨present, starts⟩
      · have empty : stored.storedATR = [] := List.eq_nil_of_length_eq_zero (by
          rw [storedATR_length short]
          omega)
        rw [empty] at starts
        exact absurd starts (by decide)
    apply HistoricalMatches.of_none plain
    split
    · rfl
    · rename_i sync
      split
      · rfl
      · rename_i raw
        split
        · rfl
        · rename_i typeA
          exact absurd (AnalyseATR_other form sync raw typeA analysed) usable

/-! ## IfdSetProtocol -/

variable {kind : ReaderKind} {pProtocol Protocol : UInt32}

theorem setParameters_atr {bProtocolNum dwLength : UInt32} {result : RSCT_IFD_RESULT}
    (made : setParameters around bProtocolNum dwLength session = some ((result, Protocol), after)) :
    after.reader.m_ATR = session.reader.m_ATR := by
  unfold setParameters at made
  split at made
  · contradiction
  · rename_i between sent
    cases made
    exact transfer_atr sent
  · rename_i Response between sent
    split at made
    · cases made
      exact transfer_atr sent
    split at made
    · cases made
      exact transfer_atr sent
    · cases made
      have kept := transfer_atr sent
      exact kept

theorem IfdSetProtocol_success
    (made : IfdSetProtocol around pProtocol session = some ((.success, Protocol), after)) :
    after.reader.m_ATR = session.reader.m_ATR ∧ session.reader.m_ReaderState ≠ .powered := by
  unfold IfdSetProtocol at made
  cases state : session.reader.m_ReaderState with
  | negotiable =>
      simp only [state] at made
      refine ⟨?_, by simp⟩
      split at made
      · cases made
        rfl
      split at made
      · exact setParameters_atr made
      split at made
      · exact setParameters_atr made
      · cases made
  | specific =>
      simp only [state] at made
      refine ⟨?_, by simp⟩
      split at made
      · cases made
        rfl
      · cases made
  | absent | initial | unknown | swallowed | powered => simp [state] at made

theorem cardProtocol_success
    (made : cardProtocol around kind pProtocol session memory = some ((.success, Protocol), after)) :
    after.reader.m_ATR = session.reader.m_ATR ∧ session.reader.m_ReaderState ≠ .powered := by
  unfold cardProtocol at made
  split at made
  · simp only at made
    cases state : session.reader.m_ReaderState with
    | negotiable =>
        simp only [state] at made
        refine ⟨?_, by simp⟩
        split at made
        · cases made
          rfl
        split at made
        · cases made
          rfl
        · cases made
    | specific =>
        simp only [state] at made
        refine ⟨?_, by simp⟩
        split at made
        · cases made
          rfl
        · cases made
    | absent | initial | unknown | swallowed | powered => simp [state] at made
  · exact IfdSetProtocol_success made

/-! ## Contactless cards without historical bytes -/

theorem rewriteATR_success {OrginalATR_Length : Nat} {bytes : List UInt8}
    (success : (rewriteATR OrginalATR_Length session memory bytes).power = .answered .success) :
    (rewriteATR OrginalATR_Length session memory bytes).ATR = bytes ++ [tck bytes] ∧
      (rewriteATR OrginalATR_Length session memory bytes).memory.m_Historical_Length =
        memory.m_Historical_Length := by
  unfold rewriteATR at success ⊢
  simp only at success ⊢
  split at success
  · rename_i room
    rw [dif_pos room]
    split at success
    · contradiction
    · rename_i fits
      rw [if_neg fits]
      exact ⟨rfl, rfl⟩
  · contradiction

theorem historicalOf_bare : ∀ check : UInt8, historicalOf [0x3b, 0x80, 0x80, 0x01, check] = some [] := by
  decide +kernel

theorem atsATR_bare {abData : List UInt8} (none_ : atsHistorical abData = 0) :
    atsATR abData = [0x3b, 0x80, 0x80, 0x01] := by
  simp only [atsATR, none_]
  rfl

theorem typeA_length {beyond : Nat → UInt8} {before : CardMemory} (long : 6 ≤ reader.m_ATR_Length)
    (first : reader.atr beyond 0 = 0x41) :
    (analysedHistorical (reader.atr beyond) reader.m_ATR_Length before).m_Historical_Length = some 0 := by
  rw [analysedHistorical, if_neg (by rw [first]; exact fun both => absurd both.2 (by decide)),
    if_neg (by omega), if_neg (by omega), if_pos first]

/-- A reset that the reader object has answered with success, up to `IfdSetProtocol`. -/
theorem contactless_matches {PrefereMifareClasic : Bool} {OrginalATR_Length : Nat} {stored : CCCIDReader}
    {before : CardMemory} {powered : PoweredCard} {reset : CardReset} {warm : Bool}
    {exchanges : List Exchange} {accepted : List Accepted} {error : Nat}
    (made : PoweredWith around.beyond stored before powered)
    (analysed : AnalyseATR around warm ⟨stored, exchanges, accepted⟩ = some (error, powered.session))
    (complete : (historicalOf powered.ATR).isSome)
    (bare : Rewritten (.ECR PrefereMifareClasic) powered.ATR → BareTypeA around (.ECR PrefereMifareClasic) powered)
    (answered : contactless around PrefereMifareClasic OrginalATR_Length powered = some reset)
    (success : reset.power = .answered .success) (usable : reset.session.reader.m_ReaderState ≠ .powered) :
    HistoricalMatches reset.ATR reset.session.reader reset.memory := by
  have short := made.length
  simp only [contactless] at answered
  have keptMatches (same : reset = ⟨.answered powered.result, powered.session,
      { powered.memory with m_bIsRF := false }, powered.ATR⟩) :
      HistoricalMatches reset.ATR reset.session.reader reset.memory := by
    rw [same] at usable ⊢
    exact (powered_matches made complete analysed usable).of_same rfl rfl rfl (Nat.le_refl _)
  split at answered
  · rename_i present
    have length : stored.m_ATR_Length = powered.session.reader.m_ATR_Length := by
      rcases made.keeps.length with same | gone
      · exact same.symm
      · omega
    have size : powered.ATR.length = powered.session.reader.m_ATR_Length := by
      rw [made.ATR, storedATR_length short, length]
    have byte (index : Nat) (inside : index < 6) :
        powered.session.reader.m_ATR.cells.getD index 0 = powered.ATR.getD index 0 := by
      have cells := stored.m_ATR.length_cells
      rw [made.keeps.atr, made.ATR, @storedATR_getD stored around.beyond index short (by omega), CCCIDReader.atr,
        List.getD_eq_getElem _ _ (by omega), List.getD_eq_getElem _ _ (by omega)]
    have rewritten (first : powered.ATR.getD 0 0 = 0x41 ∨ powered.ATR.getD 0 0 = 0x42) :
        Rewritten (.ECR PrefereMifareClasic) powered.ATR :=
      ⟨⟨_, rfl⟩, by omega, by omega, first⟩
    rw [byte 0 (by decide), byte 1 (by decide)] at answered
    split at answered
    · rename_i typeA
      obtain ⟨_, kind, first, selects, notMifare, ats⟩ := bare (rewritten (.inl typeA))
      cases kind
      rw [if_pos ⟨selects, notMifare⟩] at answered
      split at answered
      · contradiction
      · cases answered
        simp at success
      · rename_i Response between sent
        split at answered
        · cases answered
          simp at success
        split at answered
        · cases answered
          simp at success
        split at answered
        · cases answered
          simp at success
        · have none_ := ats Response between sent
          rw [atsATR_bare none_, Option.some.injEq] at answered
          rw [← answered] at success ⊢
          obtain ⟨ATR, counted⟩ := rewriteATR_success success
          rw [ATR]
          refine HistoricalMatches.of_none (historicalOf_bare _) (counted.trans ?_)
          change powered.memory.m_Historical_Length = some 0
          rw [made.memory]
          apply typeA_length (by omega)
          rw [← @storedATR_getD stored around.beyond 0 short (by omega), ← made.ATR]
          exact first
    · split at answered
      · rename_i typeB
        obtain ⟨_, _, first, _⟩ := bare (rewritten (.inr typeB))
        rw [typeB] at first
        exact absurd first (by decide)
      · rw [Option.some.injEq] at answered
        exact keptMatches answered.symm
  · rw [Option.some.injEq] at answered
    exact keptMatches answered.symm

/-! ## Every activation -/

theorem coldReset_success {powered : PoweredCard} (made : coldReset around session memory = some powered)
    (success : powered.result = .success) :
    ∃ stored before, PoweredWith around.beyond stored before powered ∧
      ∃ warm exchanges accepted error,
        AnalyseATR around warm ⟨stored, exchanges, accepted⟩ = some (error, powered.session) := by
  unfold coldReset at made
  split at made
  · contradiction
  · exact powerOnCard_success made success

theorem ctBcsReset_matches {card : CardReader} {activation : Activation} {ATR : List UInt8}
    (finds : FindsPlainCard around kind card activation)
    (made : ctBcsReset around kind activation.atr_len activation.prevered ⟨card.reader, activation.exchanges, []⟩
      card.memory = some (.success ATR, after, memory)) : HistoricalMatches ATR after.reader memory := by
  unfold ctBcsReset at made
  cases called : cardPower around kind activation.atr_len.toNat ⟨card.reader, activation.exchanges, []⟩ card.memory with
  | none =>
      rw [called] at made
      contradiction
  | some reset =>
      rw [called] at made
      simp only at made
      split at made
      · cases made
      · cases made
      · rename_i success
        split at made
        · contradiction
        · rename_i chosen last set
          cases made
          obtain ⟨same, usable⟩ := cardProtocol_success set
          have matched : HistoricalMatches reset.ATR reset.session.reader reset.memory := by
            cases kind with
            | ECA unrecognized =>
                cases unrecognized with
                | true =>
                    simp only [cardPower, Option.some.injEq] at called
                    rw [← called] at success
                    simp at success
                | false =>
                    simp only [cardPower, Option.map_eq_some_iff] at called
                    obtain ⟨powered, found, same⟩ := called
                    rw [← same] at success usable ⊢
                    simp only [CardPower.answered.injEq] at success
                    obtain ⟨stored, before, facts, _, _, _, _, analysed⟩ := coldReset_success found success
                    exact powered_matches facts (finds powered found success).1 analysed usable
            | ECR PrefereMifareClasic =>
                simp only [cardPower] at called
                split at called
                · contradiction
                · rename_i powered found
                  by_cases answered : powered.result = .success
                  · obtain ⟨stored, before, facts, _, _, _, _, analysed⟩ := coldReset_success found answered
                    obtain ⟨complete, bare⟩ := finds powered found answered
                    exact contactless_matches facts analysed complete bare called success usable
                  · simp only [contactless] at called
                    rw [if_neg (fun both => answered both.1), Option.some.injEq] at called
                    rw [← called] at success
                    simp only [CardPower.answered.injEq] at success
                    exact absurd success answered
          exact matched.of_same same rfl rfl (Nat.le_refl _)
        · cases made
      · cases made

/-- In every sequence of activations of cards that are not contactless, or have no historical bytes,
and whose ATRs are complete, `ctBcsReset` returns the historical bytes of the ATR. -/
theorem resets_match (around : Surroundings) (kind : ReaderKind) (card : CardReader) (activations : List Activation)
    (plain : Meets (FindsPlainCard around kind) (run (activationBody around kind) card activations).turns) :
    ∀ made ∈ outputs (run (activationBody around kind) card activations).turns, made.Matches := by
  intro made member ATR success
  obtain ⟨turn, inside, output⟩ := List.mem_flatMap.mp member
  rw [run_output inside] at output
  have finds := plain turn inside
  simp only [activationBody] at output
  split at output
  · contradiction
  · contradiction
  · rename_i result last memory _ called
    rw [List.mem_singleton] at output
    rw [output] at success ⊢
    simp only at success
    rw [success] at called
    exact ctBcsReset_matches finds called

/-- An exchange in which the reader answers with the bytes. -/
def replying (bMessageType bSeq : UInt8) (bytes : List UInt8) : Exchange :=
  ⟨none, [.arrived ⟨bMessageType, UInt32.ofNat bytes.length, bSeq, 0, 0,
    if room : 0 + bytes.length ≤ 2038 then (Buffer.filled 2038 0).store 0 bytes room else .filled 2038 0⟩ 0]⟩

/-- A contact card for T=0 with four historical bytes. -/
def contactCard : Activation :=
  ⟨0, 33, [replying 0x81 0 [], replying 0x80 1 [0x3b, 0x24, 0x00, 0x11, 0x22, 0x33, 0x44], replying 0x82 2 []]⟩

/-- A type B card behind it. -/
def typeBCard : Activation :=
  ⟨0, 33, [replying 0x81 3 [], replying 0x80 4 [0x42, 1, 2, 3, 4, 5, 6, 7, 8, 9, 10, 11]]⟩

def constructedReader : CardReader := ⟨.constructed, .constructed⟩

theorem contactCard_matches :
    (outputs (run (activationBody plainSurroundings (.ECR false)) constructedReader [contactCard]).turns).length = 1 ∧
      ∀ made ∈ outputs (run (activationBody plainSurroundings (.ECR false)) constructedReader [contactCard]).turns,
        made.Matches := by
  refine ⟨by decide +kernel, resets_match plainSurroundings (.ECR false) constructedReader [contactCard] ?_⟩
  have turns : (run (activationBody plainSurroundings (.ECR false)) constructedReader [contactCard]).turns.all
      (fun turn => match coldReset plainSurroundings ⟨turn.before.reader, turn.input.exchanges, []⟩ turn.before.memory with
        | none => true
        | some powered => (historicalOf powered.ATR).isSome && powered.ATR.getD 0 0 == 0x3b) = true := by
    decide +kernel
  intro turn member powered found success
  have facts := List.all_eq_true.mp turns turn member
  simp only [found, Bool.and_eq_true, beq_iff_eq] at facts
  refine ⟨facts.1, fun rewritten => ?_⟩
  obtain ⟨_, _, _, first⟩ := rewritten
  rw [facts.2] at first
  exact absurd first (by decide)

/-- The type B card is returned with the offset and the length of the card before. -/
theorem typeBCard_not_matched :
    ¬ ∀ made ∈ outputs (run (activationBody plainSurroundings (.ECR false)) constructedReader
      [contactCard, typeBCard]).turns, made.Matches := by
  intro matched
  have facts : (outputs (run (activationBody plainSurroundings (.ECR false)) constructedReader
      [contactCard, typeBCard]).turns).any (fun made => match made.result with
        | .success ATR => (historicalOf ATR).map List.length != made.behind.memory.m_Historical_Length
        | _ => false) = true := by
    decide +kernel
  obtain ⟨made, member, differs⟩ := List.any_eq_true.mp facts
  cases result : made.result with
  | failed Res => simp [result] at differs
  | fault => simp [result] at differs
  | success ATR =>
      obtain ⟨historical, found, counted, _⟩ := matched made member ATR result
      simp [result, found, counted] at differs

end Cyberjack.Eca
