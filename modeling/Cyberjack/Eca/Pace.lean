import Cyberjack.Eca.ApplicationData
import Cyberjack.Eca.SecurePin

namespace Cyberjack.Eca.Pace

open Cyberjack.Eca.Application

/-! # PACE

A request to establish the channel has the function, the length of its data, the PIN and behind it the CHAT,
the PIN's value and the description of the certificate, each with its length in front.
-/

inductive Status where
  | success
  | infoLengthMismatch
  | insufficientResources
  | unhandledException
deriving Repr, DecidableEq

/-- What is given by the machine: its byte order, `ifd_in_buffer` as it is before the input is copied, or none
where it could not be allocated, and what stands on the stack for two lengths. -/
structure Host where
  bigEndian : Bool
  ifd_in_buffer : Option (Nat → UInt8)
  lengthCHAT : UInt8
  lengthPIN : UInt8

/-! ## Short integers in memory -/

/-- A `uint16_t` copied from memory. -/
def shortAt (bigEndian : Bool) (memory : Nat → UInt8) (offset : Nat) : Nat :=
  if bigEndian = true then (memory offset).toNat * 256 + (memory (offset + 1)).toNat
  else (memory offset).toNat + (memory (offset + 1)).toNat * 256

/-- A `uint16_t` as it is copied to memory. -/
def shortBytes (bigEndian : Bool) (Value : Nat) : List UInt8 :=
  if bigEndian = true then [UInt8.ofNat (Value / 256), UInt8.ofNat Value]
  else [UInt8.ofNat Value, UInt8.ofNat (Value / 256)]

def InversByteOrderShort (Value : Nat) : Nat := Value * 256 % 65536 + Value / 256

def htons (bigEndian : Bool) (Value : Nat) : Nat := if bigEndian = true then Value else InversByteOrderShort Value

/-- `ReaderToHostShort`, too. -/
def HostToReaderShort (bigEndian : Bool) (Value : Nat) : Nat := InversByteOrderShort (htons bigEndian Value)

/-- A `uint16_t` is copied from memory, converted and copied back. -/
def convertAt (bigEndian : Bool) (memory : Nat → UInt8) (offset : Nat) : Nat → UInt8 :=
  stored memory offset (shortBytes bigEndian (HostToReaderShort bigEndian (shortAt bigEndian memory offset)))

/-! ## Lengths and accesses -/

/-- A length and the offset and size of what it was read from; none for what was not read. -/
structure Length where
  value : Nat
  source : Option (Nat × Nat)
deriving Repr, DecidableEq

/-- An access to `count` bytes at an offset that was computed from the lengths. -/
structure Access where
  offset : Nat
  count : Nat
  lengths : List Length
deriving Repr, DecidableEq

/-- The length was read from the first `limit` bytes. -/
def Length.ReadBelow (limit : Nat) (length : Length) : Prop :=
  ∃ offset count, length.source = some (offset, count) ∧ offset + count ≤ limit

/-- The access is inside the first `limit` bytes, and so is what its lengths were read from. -/
structure Access.Inside (limit : Nat) (access : Access) : Prop where
  fits : access.offset + access.count ≤ limit
  lengths : ∀ length ∈ access.lengths, length.ReadBelow limit

def byteLength (memory : Nat → UInt8) (offset : Nat) : Length := ⟨(memory offset).toNat, some (offset, 1)⟩

/-! ## The request -/

/-- `ifd_in_buffer` after it has been filled, and the accesses to the request, all of which the buffer is
used for. -/
structure Request where
  Input : Nat → UInt8
  accesses : List Access

def CopyIfdInput (host : Host) (Input : List UInt8) : Option (Nat → UInt8) :=
  host.ifd_in_buffer.map fun buffer => stored buffer 0 Input

/-- `lengthCHAT`, which may be left as it is -/
def lengthCHAT (host : Host) (Input : Nat → UInt8) (InputLength : Nat) : Length :=
  if InputLength > 4 then byteLength Input 4 else ⟨host.lengthCHAT.toNat, none⟩

/-- `lengthPIN`, which may be left as it is -/
def lengthPIN (host : Host) (Input : Nat → UInt8) (InputLength : Nat) (CHAT : Length) : Length :=
  if InputLength > 5 + CHAT.value then byteLength Input (5 + CHAT.value) else ⟨host.lengthPIN.toNat, none⟩

/-- The accesses for the two lengths of a byte. -/
def lengthAccesses (InputLength : Nat) (CHAT : Length) : List Access :=
  (if InputLength > 4 then [⟨4, 1, []⟩] else []) ++
    if InputLength > 5 + CHAT.value then [⟨5 + CHAT.value, 1, [CHAT]⟩] else []

/-- What is done from `if(Input[0]==2)` on. -/
def convertFields (host : Host) (Input : Nat → UInt8) (InputLength : Nat) : Request :=
  let header : List Access := [⟨1, 2, []⟩, ⟨0, 1, []⟩]
  if Input 0 = 2 then
    let CHAT := lengthCHAT host Input InputLength
    let PIN := lengthPIN host Input InputLength CHAT
    if InputLength > 7 + CHAT.value + PIN.value then
      { Input := convertAt host.bigEndian Input (7 + CHAT.value + PIN.value)
        accesses := header ++ lengthAccesses InputLength CHAT ++ [⟨7 + CHAT.value + PIN.value, 2, [CHAT, PIN]⟩] }
    else ⟨Input, header ++ lengthAccesses InputLength CHAT⟩
  else ⟨Input, header⟩

/-- `IfdVendor` for `CJPCSC_VEN_IOCTRL_EXECUTE_PACE` up to the call of `CtApplicationData`. -/
def paceRequest (host : Host) (Input : List UInt8) (OutputLength : UInt32) : Except Status Request :=
  if Input.length < 3 ∨ OutputLength < 6 then .error .infoLengthMismatch
  else
    let InternalLengthBuffer := shortAt host.bigEndian (inMemory Input) 1
    if Input.length ≠ 3 + InternalLengthBuffer then .error .infoLengthMismatch
    else
      match CopyIfdInput host Input with
      | none => .error .insufficientResources
      | some buffer =>
          let InternalLength := HostToReaderShort host.bigEndian InternalLengthBuffer
          .ok (convertFields host (stored buffer 1 (shortBytes host.bigEndian InternalLength)) Input.length)

/-! ## The reply -/

/-- What the caller is given, and the accesses to it. -/
structure Returned where
  status : Status
  OutputLength : Nat
  Output : Nat → UInt8
  accesses : List Access

/-- A length of two bytes, as it is after the conversion. -/
def shortLength (bigEndian : Bool) (Output : Nat → UInt8) (offset : Nat) : Length :=
  ⟨HostToReaderShort bigEndian (shortAt bigEndian Output offset), some (offset, 2)⟩

/-- What is done where `Input[0]==2 && ResponseLen>=4`. -/
def convertReply (bigEndian : Bool) (Output : Nat → UInt8) (ResponseLen : Nat) : (Nat → UInt8) × List Access :=
  let InternalLength := shortLength bigEndian Output 8
  let Output := convertAt bigEndian Output 8
  if ResponseLen > 4 + InternalLength.value then
    let CAR := byteLength Output (10 + InternalLength.value)
    let carAccess : Access := ⟨10 + InternalLength.value, 1, [InternalLength]⟩
    if ResponseLen > 5 + InternalLength.value + CAR.value then
      let offset := 11 + InternalLength.value + CAR.value
      let CARprev := byteLength Output offset
      let prevAccess : Access := ⟨offset, 1, [InternalLength, CAR]⟩
      if ResponseLen > 7 + InternalLength.value + CAR.value + CARprev.value then
        let offset := 12 + InternalLength.value + CAR.value + CARprev.value
        (convertAt bigEndian Output offset,
          [⟨8, 2, []⟩, carAccess, prevAccess, ⟨offset, 2, [InternalLength, CAR, CARprev]⟩])
      else (Output, [⟨8, 2, []⟩, carAccess, prevAccess])
    else (Output, [⟨8, 2, []⟩, carAccess])
  else (Output, [⟨8, 2, []⟩])

/-- What is done after `CtApplicationData` has succeeded. -/
def paceReply (bigEndian : Bool) (function : UInt8) (OutputLength : UInt32) (Output : Nat → UInt8)
    (ResponseLen ApplicationErrorLength : Nat) : Returned :=
  if OutputLength.toNat < 6 + ResponseLen ∨ ResponseLen > 65535 then
    ⟨.insufficientResources, OutputLength.toNat, Output, []⟩
  else
    let Output := stored Output 4 (shortBytes bigEndian ResponseLen)
    let Output := if ApplicationErrorLength = 0 then stored Output 0 [0, 0, 0, 0] else Output
    let header : List Access := ⟨4, 2, []⟩ :: if ApplicationErrorLength = 0 then [⟨0, 4, []⟩] else []
    if function = 2 ∧ ResponseLen ≥ 4 then
      let converted := convertReply bigEndian Output ResponseLen
      ⟨.success, 6 + ResponseLen, converted.1, header ++ converted.2⟩
    else ⟨.success, 6 + ResponseLen, Output, header⟩

/-- The arguments of `CtApplicationData`. -/
def paceCaller (OutputLength : UInt32) : Caller := ⟨true, some (OutputLength - 6), true, some 4⟩

/-- `IfdVendor` for `CJPCSC_VEN_IOCTRL_EXECUTE_PACE`; `transfer` is what the reader replies to a message. -/
def IfdVendor (host : Host) (Input : List UInt8) (OutputLength : UInt32) (Output : Nat → UInt8)
    (m_nApplicationResponseLength : Nat) (transfer : List UInt8 → Except CjError Reply) : Except Fault Returned :=
  match paceRequest host Input OutputLength with
  | .error status => .ok ⟨status, OutputLength.toNat, Output, []⟩
  | .ok request =>
      let message := bytesAt request.Input 0 Input.length
      match CtApplicationData m_nApplicationResponseLength Input.length (paceCaller OutputLength) (transfer message) with
      | .error fault => .error fault
      | .ok outcome =>
          let Output := stored (stored Output 0 outcome.error) 6 outcome.response
          if outcome.Res = none then
            .ok (paceReply host.bigEndian (request.Input 0) OutputLength Output (outcome.ResponseLen.getD 0)
              (outcome.ApplicationErrorLength.getD 0))
          else .ok ⟨.unhandledException, 0, Output, []⟩

/-! ## What the request says -/

/-- Where the length of the description of the certificate stands, where there is one. -/
def certificatePlace (Input : Nat → UInt8) (InputLength : Nat) : Option Nat :=
  let place := 6 + (Input 4).toNat + (Input (5 + (Input 4).toNat)).toNat
  if Input 0 = 2 ∧ place + 2 ≤ InputLength then some place else none

/-- The two bytes at the offset are exchanged. -/
def reversedAt (memory : Nat → UInt8) (offset index : Nat) : UInt8 :=
  if index = offset then memory (offset + 1)
  else if index = offset + 1 then memory offset
  else memory index

/-- The lengths of two bytes are exchanged. -/
def fieldsReversed (Input : Nat → UInt8) (InputLength : Nat) : Nat → UInt8 :=
  match certificatePlace Input InputLength with
  | none => reversedAt Input 1
  | some place => reversedAt (reversedAt Input 1) place

/-- The request with its lengths in the byte order of the reader. -/
def paceMessage (bigEndian : Bool) (Input : List UInt8) : List UInt8 :=
  if bigEndian = true then bytesAt (fieldsReversed (inMemory Input) Input.length) 0 Input.length else Input

/-- The accesses are inside the request, and a message that is not too long to be sent holds its fields. -/
structure RequestRight (host : Host) (Input : List UInt8) (request : Request) : Prop where
  reads : ∀ access ∈ request.accesses, access.Inside Input.length
  message : Input.length ≤ 1008 → bytesAt request.Input 0 Input.length = paceMessage host.bigEndian Input

/-- What a reply is accessed at is inside what is reported, and that is not more than there is room for. -/
structure ReplyInside (OutputLength : UInt32) (returned : Returned) : Prop where
  reported : returned.OutputLength ≤ OutputLength.toNat
  accesses : ∀ access ∈ returned.accesses, access.Inside returned.OutputLength

/-- The request is handled right, and what is accessed of the output is inside the bytes that are reported. -/
structure PaceRight (host : Host) (Input : List UInt8) (OutputLength : UInt32) (Output : Nat → UInt8)
    (m_nApplicationResponseLength : Nat) (transfer : List UInt8 → Except CjError Reply) : Prop where
  request : ∀ request, paceRequest host Input OutputLength = .ok request → RequestRight host Input request
  reply : ∀ returned,
    IfdVendor host Input OutputLength Output m_nApplicationResponseLength transfer = .ok returned →
      ReplyInside OutputLength returned

/-- The request has the length it says, and there is room for it and for the header of the reply. -/
structure Accepted (host : Host) (Input : List UInt8) (OutputLength : UInt32) : Prop where
  header : 3 ≤ Input.length
  room : 6 ≤ OutputLength
  counted : Input.length = 3 + shortAt host.bigEndian (inMemory Input) 1
  allocated : host.ifd_in_buffer ≠ none

/-- A description of a certificate is not empty; where the bytes of its length are to be exchanged in a message
that is sent, they are equal to each other and to the first byte of the description. -/
def CertificateFits (host : Host) (Input : List UInt8) : Prop :=
  ∀ place, certificatePlace (inMemory Input) Input.length = some place →
    place + 2 < Input.length ∧
      (host.bigEndian = true → Input.length ≤ 1008 →
        inMemory Input place = inMemory Input (place + 1) ∧ inMemory Input (place + 1) = inMemory Input (place + 2))

variable {host : Host} {Input : List UInt8} {OutputLength : UInt32} {memory other : Nat → UInt8}
  {InputLength limit place : Nat} {bigEndian : Bool}

/-! ## Conversion -/

theorem InversByteOrderShort_bytes {first second : Nat} (low : first < 256) :
    InversByteOrderShort (first + second * 256) = second + first * 256 := by
  rw [InversByteOrderShort]
  omega

/-- The value is that of the reader on every host. -/
theorem HostToReaderShort_shortAt (bigEndian : Bool) (memory : Nat → UInt8) (offset : Nat) :
    HostToReaderShort bigEndian (shortAt bigEndian memory offset) =
      (memory offset).toNat + (memory (offset + 1)).toNat * 256 := by
  have low := (memory offset).toNat_lt
  have high := (memory (offset + 1)).toNat_lt
  rw [HostToReaderShort]
  cases bigEndian with
  | false =>
      rw [htons, if_neg (by decide), shortAt, if_neg (by decide), InversByteOrderShort_bytes low,
        InversByteOrderShort_bytes high]
  | true =>
      rw [htons, if_pos rfl, shortAt, if_pos rfl, Nat.add_comm, InversByteOrderShort_bytes high]

theorem shortBytes_convert (bigEndian : Bool) (memory : Nat → UInt8) (offset : Nat) :
    shortBytes bigEndian (HostToReaderShort bigEndian (shortAt bigEndian memory offset)) =
      if bigEndian = true then [memory (offset + 1), memory offset] else [memory offset, memory (offset + 1)] := by
  have small := (memory offset).toNat_lt
  have first : UInt8.ofNat ((memory offset).toNat + (memory (offset + 1)).toNat * 256) = memory offset := by
    apply UInt8.toNat_inj.mp
    rw [UInt8.toNat_ofNat']
    omega
  have second : UInt8.ofNat (((memory offset).toNat + (memory (offset + 1)).toNat * 256) / 256) = memory (offset + 1) := by
    apply UInt8.toNat_inj.mp
    have high := (memory (offset + 1)).toNat_lt
    rw [UInt8.toNat_ofNat']
    omega
  rw [HostToReaderShort_shortAt, shortBytes, first, second]

/-- Two bytes written one behind the other. -/
theorem stored_pair (memory : Nat → UInt8) (offset index : Nat) (first second : UInt8) :
    stored memory offset [first, second] index =
      if index = offset then first else if index = offset + 1 then second else memory index := by
  by_cases here : index = offset
  · rw [if_pos here, here, stored, if_pos (Nat.le_refl offset), Nat.sub_self]
    rfl
  · rw [if_neg here]
    by_cases next : index = offset + 1
    · rw [if_pos next, next, stored, if_pos (Nat.le_add_right offset 1), Nat.add_sub_cancel_left]
      rfl
    · rw [if_neg next]
      apply stored_outside
      change index < offset ∨ offset + 2 ≤ index
      omega

theorem convertAt_big (memory : Nat → UInt8) (offset : Nat) : convertAt true memory offset = reversedAt memory offset := by
  funext index
  rw [convertAt, shortBytes_convert, if_pos rfl, stored_pair, reversedAt]

theorem convertAt_little (memory : Nat → UInt8) (offset : Nat) : convertAt false memory offset = memory := by
  funext index
  rw [convertAt, shortBytes_convert, if_neg (by decide), stored_pair]
  split
  · case isTrue here => rw [here]
  · split
    · case isTrue next => rw [next]
    · rfl

/-- Nothing is exchanged in the order of the reader. -/
theorem paceMessage_little (Input : List UInt8) : paceMessage false Input = Input := rfl

/-! ## The accesses of the request -/

theorem byteLength_below {offset : Nat} (inside : offset < limit) : (byteLength memory offset).ReadBelow limit :=
  ⟨offset, 1, rfl, inside⟩

theorem lengthCHAT_read (host : Host) (memory : Nat → UInt8) (long : 4 < InputLength) :
    lengthCHAT host memory InputLength = byteLength memory 4 := if_pos long

/-- An offset behind the CHAT is inside the request only where the length of the CHAT has been read. -/
theorem lengthCHAT_below (used : 5 + (lengthCHAT host memory InputLength).value < InputLength) :
    (lengthCHAT host memory InputLength).ReadBelow InputLength := by
  have long : 4 < InputLength := by omega
  rw [lengthCHAT_read host memory long]
  exact byteLength_below long

theorem lengthPIN_read {CHAT : Length} (host : Host) (memory : Nat → UInt8) (long : 5 + CHAT.value < InputLength) :
    lengthPIN host memory InputLength CHAT = byteLength memory (5 + CHAT.value) := if_pos long

theorem lengthPIN_below {CHAT : Length}
    (used : 7 + CHAT.value + (lengthPIN host memory InputLength CHAT).value < InputLength) :
    (lengthPIN host memory InputLength CHAT).ReadBelow InputLength := by
  have long : 5 + CHAT.value < InputLength := by omega
  rw [lengthPIN_read host memory long]
  exact byteLength_below long

theorem access_inside {offset count : Nat} (fits : offset + count ≤ limit) : Access.Inside limit ⟨offset, count, []⟩ :=
  ⟨fits, fun _ member => nomatch member⟩

theorem lengthAccesses_inside :
    ∀ access ∈ lengthAccesses InputLength (lengthCHAT host memory InputLength), access.Inside InputLength := by
  intro access member
  rw [lengthAccesses, List.mem_append] at member
  cases member with
  | inl first =>
      split at first
      · case isTrue long =>
          rw [List.mem_singleton.mp first]
          exact access_inside long
      · cases first
  | inr second =>
      split at second
      · case isTrue long =>
          rw [List.mem_singleton.mp second]
          refine ⟨long, ?_⟩
          intro length member
          rw [List.mem_singleton.mp member]
          exact lengthCHAT_below long
      · cases second

/-- The header of a request is inside it. -/
theorem header_inside (header : 3 ≤ InputLength) :
    ∀ access ∈ ([⟨1, 2, []⟩, ⟨0, 1, []⟩] : List Access), access.Inside InputLength := by
  intro access member
  cases member with
  | head => exact access_inside header
  | tail _ member =>
      rw [List.mem_singleton.mp member]
      exact access_inside (by omega)

/-! ## The fields of the request -/

/-- The test in front of the conversion holds where there are two bytes for the length. -/
theorem certificatePlace_read (host : Host) (function : memory 0 = 2) :
    let CHAT := lengthCHAT host memory InputLength
    let PIN := lengthPIN host memory InputLength CHAT
    certificatePlace memory InputLength =
      if InputLength > 7 + CHAT.value + PIN.value then some (6 + CHAT.value + PIN.value) else none := by
  rw [certificatePlace]
  dsimp only
  by_cases chat : 4 < InputLength
  · rw [lengthCHAT_read host memory chat]
    have first : (byteLength memory 4).value = (memory 4).toNat := rfl
    by_cases pin : 5 + (byteLength memory 4).value < InputLength
    · rw [lengthPIN_read host memory pin]
      have second : (byteLength memory (5 + (byteLength memory 4).value)).value =
          (memory (5 + (memory 4).toNat)).toNat := rfl
      rw [second, first]
      split
      · case isTrue read => rw [if_pos (by omega)]
      · case isFalse short =>
          rw [if_neg]
          intro long
          exact short ⟨function, by omega⟩
    · rw [if_neg (by omega), if_neg (by omega)]
  · rw [if_neg (by omega), if_neg (by omega)]

theorem convertFields_Input (host : Host) (memory : Nat → UInt8) (InputLength : Nat) :
    (convertFields host memory InputLength).Input =
      match certificatePlace memory InputLength with
      | none => memory
      | some place => convertAt host.bigEndian memory (place + 1) := by
  rw [convertFields]
  by_cases function : memory 0 = 2
  · rw [if_pos function, certificatePlace_read host function]
    dsimp only
    split
    · dsimp only
      congr 1
      omega
    · rfl
  · rw [if_neg function, certificatePlace, if_neg fun both => function both.1]

theorem convertFields_inside_iff (header : 3 ≤ InputLength) :
    (∀ access ∈ (convertFields host memory InputLength).accesses, access.Inside InputLength) ↔
      ∀ place, certificatePlace memory InputLength = some place → place + 2 < InputLength := by
  have lengths := @lengthAccesses_inside host memory InputLength
  rw [convertFields]
  by_cases function : memory 0 = 2
  · rw [if_pos function, certificatePlace_read host function]
    dsimp only
    split
    · case isTrue read =>
        constructor
        · intro inside place found
          rw [Option.some.injEq] at found
          have last := (inside _ (List.mem_append_right _ (List.mem_singleton_self _))).fits
          dsimp only at last
          omega
        · intro fits access member
          have long := fits _ rfl
          cases List.mem_append.mp member with
          | inl before =>
              cases List.mem_append.mp before with
              | inl first => exact header_inside header access first
              | inr second => exact lengths access second
          | inr last =>
              rw [List.mem_singleton.mp last]
              refine ⟨by dsimp only; omega, ?_⟩
              intro length member
              cases member with
              | head => exact lengthCHAT_below (by omega)
              | tail _ member =>
                  rw [List.mem_singleton.mp member]
                  exact lengthPIN_below read
    · refine iff_of_true ?_ nofun
      intro access member
      cases List.mem_append.mp member with
      | inl first => exact header_inside header access first
      | inr second => exact lengths access second
  · rw [if_neg function, certificatePlace, if_neg fun both => function both.1]
    exact iff_of_true (header_inside header) nofun

/-- The place is found in what is inside the request and not the length of its data. -/
theorem certificatePlace_congr (same : ∀ index < InputLength, index ≠ 1 → index ≠ 2 → memory index = other index)
    (header : 3 ≤ InputLength) : certificatePlace memory InputLength = certificatePlace other InputLength := by
  have function := same 0 (by omega) (by decide) (by decide)
  rw [certificatePlace, certificatePlace, function]
  by_cases chat : 4 < InputLength
  · rw [same 4 chat (by decide) (by decide)]
    by_cases pin : 5 + (other 4).toNat < InputLength
    · rw [same _ pin (by omega) (by omega)]
    · rw [if_neg (by omega), if_neg (by omega)]
  · rw [if_neg (by omega), if_neg (by omega)]

theorem six_le_place (found : certificatePlace memory InputLength = some place) : 6 ≤ place := by
  rw [certificatePlace] at found
  split at found
  · rw [Option.some.injEq] at found
    omega
  · cases found

/-! ## The message -/

/-- `ifd_in_buffer` with the length of the data converted. -/
def counted (bigEndian : Bool) (buffer : Nat → UInt8) (Input : List UInt8) : Nat → UInt8 :=
  stored (stored buffer 0 Input) 1
    (shortBytes bigEndian (HostToReaderShort bigEndian (shortAt bigEndian (inMemory Input) 1)))

theorem stored_request (buffer : Nat → UInt8) {index : Nat} (inside : index < Input.length) :
    stored buffer 0 Input index = inMemory Input index := by
  rw [stored_zero buffer inside, inMemory, List.getD_eq_getElem?_getD, List.getElem?_eq_getElem inside, Option.getD_some]

theorem counted_at (bigEndian : Bool) (buffer : Nat → UInt8) {index : Nat} (inside : index < Input.length) :
    counted bigEndian buffer Input index =
      if bigEndian = true then reversedAt (inMemory Input) 1 index else inMemory Input index := by
  have copied := stored_request buffer inside
  rw [counted, shortBytes_convert]
  cases bigEndian with
  | false =>
      rw [if_neg (by decide), if_neg (by decide), stored_pair]
      split
      · case isTrue here => rw [here]
      · split
        · case isTrue next => rw [next]
        · exact copied
  | true =>
      rw [if_pos rfl, if_pos rfl, stored_pair, reversedAt]
      split
      · rfl
      · split
        · rfl
        · exact copied

theorem certificatePlace_counted (bigEndian : Bool) (buffer : Nat → UInt8) (header : 3 ≤ Input.length) :
    certificatePlace (counted bigEndian buffer Input) Input.length = certificatePlace (inMemory Input) Input.length := by
  apply certificatePlace_congr
  · intro index inside first second
    rw [counted_at bigEndian buffer inside, reversedAt, if_neg first, if_neg second, ite_self]
  · exact header

theorem bytesAt_eq_iff :
    bytesAt memory 0 limit = bytesAt other 0 limit ↔ ∀ index < limit, memory index = other index := by
  constructor
  · intro same index below
    have each := List.map_inj_left.mp same index (List.mem_range.mpr below)
    rw [Nat.zero_add] at each
    exact each
  · intro same
    apply bytesAt_same
    intro index _ below
    rw [Nat.zero_add] at below
    exact same index below

theorem bytesAt_inMemory (Input : List UInt8) : bytesAt (inMemory Input) 0 Input.length = Input := by
  calc
    bytesAt (inMemory Input) 0 Input.length = bytesAt (stored (inMemory Input) 0 Input) 0 Input.length :=
      bytesAt_eq_iff.mpr fun index below => (stored_request (inMemory Input) below).symm
    _ = Input := bytesAt_stored (inMemory Input) Input

/-- The exchange of the two bytes behind the first shows, except where all three are equal. -/
theorem reversed_behind_iff (same : ∀ index < limit, memory index = other index) (long : place + 2 < limit) :
    (∀ index < limit, reversedAt memory (place + 1) index = reversedAt other place index) ↔
      other place = other (place + 1) ∧ other (place + 1) = other (place + 2) := by
  constructor
  · intro exchanged
    have first := exchanged place (by omega)
    have third := exchanged (place + 2) long
    rw [reversedAt, if_neg (by omega), if_neg (by omega), reversedAt, if_pos rfl, same _ (by omega)] at first
    rw [reversedAt, if_neg (by omega), if_pos rfl, reversedAt, if_neg (by omega), if_neg (by omega),
      same _ (by omega)] at third
    exact ⟨first, third⟩
  · intro equal index below
    rw [reversedAt, reversedAt]
    by_cases first : index = place
    · rw [if_neg (by omega), if_neg (by omega), if_pos first, same _ below, first]
      exact equal.1
    · by_cases second : index = place + 1
      · rw [if_pos second, if_neg first, if_pos second, same _ (by omega), equal.1]
        exact equal.2.symm
      · by_cases third : index = place + 2
        · rw [if_neg second, if_pos third, if_neg first, if_neg second, third, same _ (by omega)]
          exact equal.2
        · rw [if_neg second, if_neg third, if_neg first, if_neg second]
          exact same index below

theorem message_little (host : Host) (buffer : Nat → UInt8) (little : host.bigEndian = false) :
    bytesAt (convertFields host (counted false buffer Input) Input.length).Input 0 Input.length = Input := by
  have memory : (convertFields host (counted false buffer Input) Input.length).Input = counted false buffer Input := by
    rw [convertFields_Input, little]
    split
    · rfl
    · exact convertAt_little _ _
  rw [memory]
  calc
    bytesAt (counted false buffer Input) 0 Input.length = bytesAt (inMemory Input) 0 Input.length :=
      bytesAt_eq_iff.mpr fun index below => counted_at false buffer below
    _ = Input := bytesAt_inMemory Input

theorem message_big_iff (host : Host) (buffer : Nat → UInt8) (big : host.bigEndian = true) (header : 3 ≤ Input.length)
    (inside : ∀ place, certificatePlace (inMemory Input) Input.length = some place → place + 2 < Input.length) :
    bytesAt (convertFields host (counted true buffer Input) Input.length).Input 0 Input.length =
        bytesAt (fieldsReversed (inMemory Input) Input.length) 0 Input.length ↔
      ∀ place, certificatePlace (inMemory Input) Input.length = some place →
        inMemory Input place = inMemory Input (place + 1) ∧ inMemory Input (place + 1) = inMemory Input (place + 2) := by
  have same : ∀ index < Input.length, counted true buffer Input index = reversedAt (inMemory Input) 1 index :=
    fun index below => counted_at true buffer below
  rw [bytesAt_eq_iff, convertFields_Input, certificatePlace_counted true buffer header, big, fieldsReversed]
  cases found : certificatePlace (inMemory Input) Input.length with
  | none => exact iff_of_true same nofun
  | some place =>
      have behind := six_le_place found
      have kept : ∀ index, place ≤ index → reversedAt (inMemory Input) 1 index = inMemory Input index := by
        intro index above
        rw [reversedAt, if_neg (by omega), if_neg (by omega)]
      dsimp only
      rw [convertAt_big, reversed_behind_iff same (inside place found), kept _ (Nat.le_refl place),
        kept _ (Nat.le_add_right place 1), kept _ (Nat.le_add_right place 2)]
      constructor
      · intro equal other same_place
        cases same_place
        exact equal
      · intro equal
        exact equal place rfl

theorem paceRequest_accepted {buffer : Nat → UInt8} (accepted : Accepted host Input OutputLength)
    (allocated : host.ifd_in_buffer = some buffer) :
    paceRequest host Input OutputLength =
      .ok (convertFields host (counted host.bigEndian buffer Input) Input.length) := by
  have header := accepted.header
  have room := UInt32.not_lt.mpr accepted.room
  have short : ¬ (Input.length < 3 ∨ OutputLength < 6) := by
    intro either
    cases either with
    | inl short => omega
    | inr small => exact room small
  rw [paceRequest, if_neg short]
  dsimp only
  rw [if_neg (not_not.mpr accepted.counted), CopyIfdInput, allocated]
  rfl

theorem accepted_of_ok {request : Request} (made : paceRequest host Input OutputLength = .ok request) :
    Accepted host Input OutputLength := by
  rw [paceRequest] at made
  split at made
  · cases made
  · case isFalse long =>
      dsimp only at made
      split at made
      · cases made
      · case isFalse length =>
          split at made
          · cases made
          · case h_2 buffer copied =>
              have room := UInt32.not_lt.mp fun small => long (.inr small)
              refine ⟨by omega, room, not_not.mp length, ?_⟩
              intro missing
              rw [CopyIfdInput, missing] at copied
              cases copied

/-- The request is handled right where it fits. -/
theorem request_right_iff (buffer : Nat → UInt8) (header : 3 ≤ Input.length) :
    RequestRight host Input (convertFields host (counted host.bigEndian buffer Input) Input.length) ↔
      CertificateFits host Input := by
  have reads := @convertFields_inside_iff host (counted host.bigEndian buffer Input) Input.length header
  rw [certificatePlace_counted host.bigEndian buffer header] at reads
  cases order : host.bigEndian with
  | false =>
      rw [order] at reads
      constructor
      · intro right place found
        exact ⟨reads.mp right.reads place found, fun big => by rw [order] at big; cases big⟩
      · intro fits
        refine ⟨reads.mpr fun place found => (fits place found).1, ?_⟩
        intro _
        rw [order, paceMessage_little]
        exact message_little host buffer order
  | true =>
      rw [order] at reads
      constructor
      · intro right place found
        have inside := reads.mp right.reads
        refine ⟨inside place found, ?_⟩
        intro _ short
        have message := right.message short
        rw [order] at message
        exact (message_big_iff host buffer order header inside).mp message place found
      · intro fits
        have inside := fun place found => (fits place found).1
        refine ⟨reads.mpr inside, ?_⟩
        intro short
        rw [order]
        apply (message_big_iff host buffer order header inside).mpr
        intro place found
        exact (fits place found).2 order short

/-! ## The reply -/

theorem convertReply_inside {ResponseLen : Nat} (long : 4 ≤ ResponseLen) :
    ∀ access ∈ (convertReply bigEndian memory ResponseLen).2, access.Inside (6 + ResponseLen) := by
  have internal : (shortLength bigEndian memory 8).ReadBelow (6 + ResponseLen) := ⟨8, 2, rfl, by omega⟩
  have first : Access.Inside (6 + ResponseLen) ⟨8, 2, []⟩ := access_inside (by omega)
  rw [convertReply]
  dsimp only
  generalize shortLength bigEndian memory 8 = InternalLength at internal
  generalize convertAt bigEndian memory 8 = Output
  split
  · case isTrue car =>
      have carRead : (byteLength Output (10 + InternalLength.value)).ReadBelow (6 + ResponseLen) :=
        byteLength_below (by omega)
      have second : Access.Inside (6 + ResponseLen) ⟨10 + InternalLength.value, 1, [InternalLength]⟩ :=
        ⟨by dsimp only; omega, List.forall_mem_singleton.mpr internal⟩
      generalize byteLength Output (10 + InternalLength.value) = CAR at carRead
      split
      · case isTrue prev =>
          have prevRead : (byteLength Output (11 + InternalLength.value + CAR.value)).ReadBelow (6 + ResponseLen) :=
            byteLength_below (by omega)
          have third : Access.Inside (6 + ResponseLen) ⟨11 + InternalLength.value + CAR.value, 1, [InternalLength, CAR]⟩ :=
            ⟨by dsimp only; omega, List.forall_mem_cons.mpr ⟨internal, List.forall_mem_singleton.mpr carRead⟩⟩
          generalize byteLength Output (11 + InternalLength.value + CAR.value) = CARprev at prevRead
          split
          · case isTrue last =>
              have lengths : ∀ length ∈ [InternalLength, CAR, CARprev], length.ReadBelow (6 + ResponseLen) :=
                List.forall_mem_cons.mpr
                  ⟨internal, List.forall_mem_cons.mpr ⟨carRead, List.forall_mem_singleton.mpr prevRead⟩⟩
              have fourth : Access.Inside (6 + ResponseLen)
                  ⟨12 + InternalLength.value + CAR.value + CARprev.value, 2, [InternalLength, CAR, CARprev]⟩ :=
                ⟨by dsimp only; omega, lengths⟩
              exact List.forall_mem_cons.mpr ⟨first, List.forall_mem_cons.mpr ⟨second, List.forall_mem_cons.mpr
                ⟨third, List.forall_mem_singleton.mpr fourth⟩⟩⟩
          · exact List.forall_mem_cons.mpr ⟨first, List.forall_mem_cons.mpr ⟨second, List.forall_mem_singleton.mpr third⟩⟩
      · exact List.forall_mem_cons.mpr ⟨first, List.forall_mem_singleton.mpr second⟩
  · exact List.forall_mem_singleton.mpr first

theorem paceReply_inside (bigEndian : Bool) (function : UInt8) (OutputLength : UInt32) (Output : Nat → UInt8)
    (ResponseLen ApplicationErrorLength : Nat) :
    ReplyInside OutputLength (paceReply bigEndian function OutputLength Output ResponseLen ApplicationErrorLength) := by
  rw [paceReply]
  split
  · exact ⟨Nat.le_refl _, nofun⟩
  · case isFalse room =>
      have reported : 6 + ResponseLen ≤ OutputLength.toNat := by omega
      have header : ∀ access ∈ (⟨4, 2, []⟩ :: if ApplicationErrorLength = 0 then [⟨0, 4, []⟩] else [] : List Access),
          access.Inside (6 + ResponseLen) := by
        intro access member
        cases member with
        | head => exact access_inside (by omega)
        | tail _ member =>
            split at member
            · rw [List.mem_singleton.mp member]
              exact access_inside (by omega)
            · cases member
      dsimp only
      by_cases fields : function = 2 ∧ ResponseLen ≥ 4
      · rw [if_pos fields]
        refine ⟨reported, ?_⟩
        intro access member
        cases List.mem_append.mp member with
        | inl first => exact header access first
        | inr second => exact convertReply_inside fields.2 access second
      · rw [if_neg fields]
        exact ⟨reported, header⟩

theorem IfdVendor_inside {m_nApplicationResponseLength : Nat} {transfer : List UInt8 → Except CjError Reply}
    {returned : Returned}
    (made : IfdVendor host Input OutputLength memory m_nApplicationResponseLength transfer = .ok returned) :
    ReplyInside OutputLength returned := by
  rw [IfdVendor] at made
  split at made
  · cases made
    exact ⟨Nat.le_refl _, nofun⟩
  · dsimp only at made
    split at made
    · cases made
    · split at made
      · cases made
        exact paceReply_inside _ _ _ _ _ _
      · cases made
        exact ⟨Nat.zero_le _, nofun⟩

/-- A request is handled right exactly where it is refused or its description of a certificate fits; no reply
leads out of the output. -/
theorem pace_right_iff (host : Host) (Input : List UInt8) (OutputLength : UInt32) (Output : Nat → UInt8)
    (m_nApplicationResponseLength : Nat) (transfer : List UInt8 → Except CjError Reply) :
    PaceRight host Input OutputLength Output m_nApplicationResponseLength transfer ↔
      (Accepted host Input OutputLength → CertificateFits host Input) := by
  constructor
  · intro right accepted
    obtain ⟨buffer, allocated⟩ := Option.ne_none_iff_exists'.mp accepted.allocated
    have request := right.request _ (paceRequest_accepted accepted allocated)
    exact (request_right_iff buffer accepted.header).mp request
  · intro fits
    refine ⟨?_, fun returned made => IfdVendor_inside made⟩
    intro request made
    have accepted := accepted_of_ok made
    obtain ⟨buffer, allocated⟩ := Option.ne_none_iff_exists'.mp accepted.allocated
    rw [paceRequest_accepted accepted allocated] at made
    cases made
    exact (request_right_iff buffer accepted.header).mpr (fits accepted)

/-- A reader that is gone. -/
def gone : List UInt8 → Except CjError Reply := fun _ => .error .deviceLost

/-- The request that has all of its fields empty. -/
def emptyRequest : List UInt8 := [2, 5, 0, 3, 0, 0, 0, 0]

/-- The same with a description of one byte, from a machine with the other byte order. -/
def certificateRequest : List UInt8 := [2, 0, 6, 3, 0, 0, 0, 1, 0x30]

/-- Two bytes are accessed from the last one of the request on; on a machine with the other byte order, the first
byte of a description comes into its length. -/
theorem empty_not_right :
    let little : Host := ⟨false, some fun _ => 0, 0, 0⟩
    let big : Host := ⟨true, some fun _ => 0, 0, 0⟩
    (paceRequest little emptyRequest 64).toOption.bind (fun request => request.accesses.getLast?) =
        some ⟨7, 2, [⟨0, some (4, 1)⟩, ⟨0, some (5, 1)⟩]⟩ ∧
      ¬ PaceRight little emptyRequest 64 (fun _ => 0) 0 gone ∧
      (paceRequest big certificateRequest 64).toOption.map (fun request => bytesAt request.Input 0 9) =
        some [2, 6, 0, 3, 0, 0, 0, 0x30, 1] ∧
      paceMessage true certificateRequest = [2, 6, 0, 3, 0, 0, 1, 0, 0x30] ∧
      ¬ PaceRight big certificateRequest 64 (fun _ => 0) 0 gone := by
  refine ⟨by decide, ?_, by decide, by decide, ?_⟩
  · intro right
    have accepted : Accepted ⟨false, some fun _ => 0, 0, 0⟩ emptyRequest 64 := ⟨by decide, by decide, rfl, nofun⟩
    have fits := (request_right_iff _ accepted.header).mp (right.request _ (paceRequest_accepted accepted rfl))
    exact absurd (fits 6 rfl).1 (by decide)
  · intro right
    have accepted : Accepted ⟨true, some fun _ => 0, 0, 0⟩ certificateRequest 64 := ⟨by decide, by decide, rfl, nofun⟩
    have fits := (request_right_iff _ accepted.header).mp (right.request _ (paceRequest_accepted accepted rfl))
    exact absurd ((fits 6 rfl).2 rfl (by decide)).1 (by decide)

end Cyberjack.Eca.Pace
