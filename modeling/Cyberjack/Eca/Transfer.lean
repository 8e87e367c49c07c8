import Cyberjack.Foundation.Buffer
import Cyberjack.Foundation.Word

namespace Cyberjack.Eca

open Cyberjack.Foundation

/-! # Request and response

`CCCIDReader::Transfer` and the members of a reader object that it and the
functions above it use.
-/

/-- The errors of `cjeca32.h` that the modelled functions return. -/
inductive CjError where
  | deviceLost
  | seq
  | noIcc
  | parity
  | timeout
  | len
  | rbufferToSmall
  | noActiveIcc
  | pinTimeout
  | pinCanceled
  | pinDifferent
  | wrongParameter
  | internalBufferOverflow
  | checkResult
  | dataCorrupt
  | conditionOfUse
  | pinExtended
deriving Repr, DecidableEq

/-- The states of a card; `initial` is the 0 of the constructor. -/
inductive ReaderState where
  | initial
  | unknown
  | absent
  | swallowed
  | powered
  | negotiable
  | specific
deriving Repr, DecidableEq

def SCARD_PROTOCOL_T0 : UInt32 := 0x0001
def SCARD_PROTOCOL_T1 : UInt32 := 0x0002
def SCARD_PROTOCOL_RAW : UInt32 := 0x0004
def SCARD_PROTOCOL_DEFAULT : UInt32 := 0x80000000
def SCARD_PROTOCOL_OPTIMAL : UInt32 := 0x00000000

inductive ApduNorm where
  | pcsc
  | iso
  | emv
deriving Repr, DecidableEq

/-- `CCID_Message`, up to the data behind its header; `bSeq` is filled in by `Transfer`. -/
structure CCID_Message where
  bMessageType : UInt8
  dwLength : UInt32
deriving Repr, DecidableEq

/-- `CCID_Response`; `Data` is the union of its interpretations. -/
structure CCID_Response where
  bMessageType : UInt8
  dwLength : UInt32
  bSeq : UInt8
  bStatus : UInt8
  bError : UInt8
  abData : Buffer UInt8 2038
deriving DecidableEq

/-- `m_pCommunicator` counts only as NULL or not. -/
structure CCCIDReader where
  m_pCommunicator : Bool
  m_SequenceNo : UInt8
  m_ReaderState : ReaderState
  m_ActiveProtocol : UInt32
  m_PossibleProtocols : UInt32
  m_ATR : Buffer UInt8 33
  m_ATR_Length : Nat
  m_ApduNorm : ApduNorm

/-- A reader object behind its construction. -/
def CCCIDReader.constructed : CCCIDReader where
  m_pCommunicator := true
  m_SequenceNo := 0
  m_ReaderState := .initial
  m_ActiveProtocol := 0
  m_PossibleProtocols := 0
  m_ATR := .filled 33 0
  m_ATR_Length := 0
  m_ApduNorm := .pcsc

/-- What `m_pCommunicator->Read` gives.  The driver does not see which request
the reader made a message for. -/
inductive Read where
  | failed (Res : CjError)
  | arrived (Response : CCID_Response) (request : Nat)
deriving DecidableEq

/-- What the communicator does in one call of `Transfer`: the error of the write,
if it fails, and the reads. -/
structure Exchange where
  writeError : Option CjError
  reads : List Read
deriving DecidableEq

inductive Transferred where
  | failed (Res : CjError)
  | received (Response : CCID_Response) (request : Nat)
deriving DecidableEq

/-- `while(m_SequenceNo!=Response->bSeq)`: no result while a read is awaited. -/
def awaitSeq (m_SequenceNo : UInt8) : List Read → Option Transferred
  | [] => none
  | .failed _ :: _ => some (.failed .seq)
  | .arrived Response request :: rest =>
      if m_SequenceNo = Response.bSeq then some (.received Response request)
      else awaitSeq m_SequenceNo rest

/-- Only the first read hands its own error on. -/
def readResponse (m_SequenceNo : UInt8) (reads : List Read) : Option Transferred :=
  match reads with
  | .failed Res :: _ => some (.failed Res)
  | _ => awaitSeq m_SequenceNo reads

/-- What a response does to the reader object. -/
def acceptResponse (Response : CCID_Response) (reader : CCCIDReader) : CCCIDReader :=
  let reader :=
    if Response.bStatus &&& 3 ≠ 0 then { reader with m_ActiveProtocol := 0, m_ATR_Length := 0 }
    else reader
  let reader :=
    if Response.bStatus &&& 3 = 2 then { reader with m_ReaderState := .absent } else reader
  { reader with m_SequenceNo := reader.m_SequenceNo + 1 }

/-- `CBaseReader::Write` of `len` bytes, with the error it returns; a failure gives
up the communicator. -/
def write (inputBufferSize len : Nat) (writeError : Option CjError) (reader : CCCIDReader) :
    Option CjError × CCCIDReader :=
  if len > inputBufferSize then (some .internalBufferOverflow, reader)
  else
    match writeError with
    | some Res => (some Res, { reader with m_pCommunicator := false })
    | none => (none, reader)

/-- `CCCIDReader::Transfer`; the message goes out with `bSeq` set to `m_SequenceNo`. -/
def Transfer (inputBufferSize : Nat) (Message : CCID_Message) (exchange : Exchange)
    (reader : CCCIDReader) : Option (Transferred × CCCIDReader) :=
  if reader.m_pCommunicator = false then some (.failed .deviceLost, reader)
  else
    match write inputBufferSize (uint32 (10 + Message.dwLength.toNat)) exchange.writeError reader with
    | (some Res, reader) => some (.failed Res, reader)
    | (none, reader) =>
        match readResponse reader.m_SequenceNo exchange.reads with
        | none => none
        | some (.failed Res) => some (.failed Res, reader)
        | some (.received Response request) =>
            some (.received Response request, acceptResponse Response reader)

variable {inputBufferSize : Nat} {Message : CCID_Message} {exchange : Exchange}
  {reader : CCCIDReader}

theorem write_none {len : Nat} {writeError : Option CjError}
    (sent : (write inputBufferSize len writeError reader).1 = none) :
    write inputBufferSize len writeError reader = (none, reader) := by
  unfold write at sent ⊢
  split at sent
  · contradiction
  · rename_i fits
    rw [if_neg fits]
    cases writeError with
    | some Res => contradiction
    | none => rfl

/-- The message has been written. -/
def Written (inputBufferSize : Nat) (Message : CCID_Message) (exchange : Exchange)
    (reader : CCCIDReader) : Prop :=
  reader.m_pCommunicator = true ∧
    (write inputBufferSize (uint32 (10 + Message.dwLength.toNat)) exchange.writeError reader).1 = none

instance : Decidable (Written inputBufferSize Message exchange reader) :=
  inferInstanceAs (Decidable (_ ∧ _))

theorem Transfer_written (written : Written inputBufferSize Message exchange reader) :
    Transfer inputBufferSize Message exchange reader =
      match readResponse reader.m_SequenceNo exchange.reads with
      | none => none
      | some (.failed Res) => some (.failed Res, reader)
      | some (.received Response request) =>
          some (.received Response request, acceptResponse Response reader) := by
  obtain ⟨connected, sent⟩ := written
  rw [Transfer, if_neg (by simp [connected]), write_none sent]

/-- A message that is not written leaves all but the communicator as it was. -/
theorem Transfer_unwritten (unwritten : ¬ Written inputBufferSize Message exchange reader) :
    ∃ Res connected, Transfer inputBufferSize Message exchange reader =
      some (.failed Res, { reader with m_pCommunicator := connected }) := by
  rw [Transfer]
  by_cases connected : reader.m_pCommunicator = false
  · rw [if_pos connected]
    exact ⟨.deviceLost, reader.m_pCommunicator, rfl⟩
  · rw [if_neg connected]
    have given : reader.m_pCommunicator = true := by simpa using connected
    cases sent : (write inputBufferSize (uint32 (10 + Message.dwLength.toNat)) exchange.writeError
        reader).1 with
    | none => exact absurd ⟨given, sent⟩ unwritten
    | some Res =>
        unfold write at sent ⊢
        split at sent
        · rename_i large
          rw [if_pos large]
          exact ⟨_, reader.m_pCommunicator, rfl⟩
        · rename_i fits
          rw [if_neg fits]
          cases error : exchange.writeError with
          | some Error => exact ⟨_, false, rfl⟩
          | none =>
              rw [error] at sent
              contradiction

theorem acceptResponse_number (Response : CCID_Response) (reader : CCCIDReader) :
    (acceptResponse Response reader).m_SequenceNo = reader.m_SequenceNo + 1 := by
  unfold acceptResponse
  split <;> split <;> rfl

end Cyberjack.Eca
