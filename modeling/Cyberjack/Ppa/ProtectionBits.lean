import Cyberjack.Foundation.Bits
import Cyberjack.Ppa.MemoryCard

namespace Cyberjack.Ppa.ProtectionBits

open Cyberjack.Foundation Cyberjack.Eca
open MemoryCard (Protokoll CardBlock S9SyncCommands S10SyncCommands)

/-! # Protection bits of memory cards

READ BINARY of `SyncInterpreter.c` for the protocols 9 and 10 while the file 2F09 is selected.  The card sends a
bit for each byte of its memory, and the response has a byte for each of them.
-/

/-- What a read returns, and the blocks sent for it. -/
structure ReadAnswer where
  returned : Cjpp
  response : List UInt8
  blocks : List CardBlock
deriving DecidableEq

/-- Protocol 9: the bits are unpacked to the response. -/
def readProtection9 (call : SyncCall) (buffer : Nat → UInt8) : ReadAnswer :=
  let len := if call.cmd 4 = 0 then 256 else (call.cmd 4).toNat
  if call.lenr < len + 2 then ⟨.rbufferToSmall, [], []⟩
  else
    let glen := len / 8 + if len % 8 ≠ 0 then 1 else 0
    let block := S9SyncCommands 0x0c call.addr [] glen
    let Res := transferred (call.replies 0) glen
    if Res ≠ .success then ⟨Res, [], [block]⟩
    else
      let buffer := stored buffer 0 (call.replies 0).abData
      ⟨.success, unpack len (bytesAt buffer 0 glen) ++ [0x90, 0x00], [block]⟩

/-- Protocol 10: the bits are unpacked behind the four bytes of the buffer, and copied from there. -/
def readProtection10 (call : SyncCall) (buffer : Nat → UInt8) : ReadAnswer :=
  let cmd3 := (call.cmd 3).toNat
  if cmd3 > 31 ∨ cmd3 + (call.cmd 4).toNat > 32 then ⟨.success, [0x6A, 0x00], []⟩
  else
    let len := if call.cmd 4 = 0 then 32 else (call.cmd 4).toNat
    let len := if len > 32 - cmd3 then 32 else len
    if call.lenr < len + 2 then ⟨.rbufferToSmall, [], []⟩
    else
      let block := S10SyncCommands 0x34 0 [] 4
      let Res := transferred (call.replies 0) 4
      if Res ≠ .success then ⟨Res, [], [block]⟩
      else
        let buffer := stored buffer 0 (call.replies 0).abData
        let buffer := stored buffer 4 (unpack 32 (bytesAt buffer 0 4))
        ⟨.success, bytesAt buffer (4 + cmd3) len ++ [0x90, 0x00], [block]⟩

/-- `SyncInterpreter` while the file 2F09 is selected, with what its local buffer holds; `none` for a command
that reads no bits. -/
def SyncInterpreter (protokoll : Protokoll) (call : SyncCall) (buffer : Nat → UInt8) : Option ReadAnswer :=
  if call.cmd 1 ≠ READBINARY then none
  else if call.cmd 0 ≠ 0 then some ⟨.success, [0x6E, 0x00], []⟩
  else if call.cmd 2 > protokoll.lastP1 then some ⟨.success, [0x6A, 0x00], []⟩
  else
    match protokoll with
    | .nine => some (readProtection9 call buffer)
    | .ten => some (readProtection10 call buffer)

/-! ## What should be answered -/

/-- The number of the first bit that a command is about, among those the card sends for it. -/
def firstBit (protokoll : Protokoll) (call : SyncCall) : Nat :=
  match protokoll with
  | .nine => 0
  | .ten => (call.cmd 3).toNat

/-- How many bits Le asks for. -/
def askedBits (protokoll : Protokoll) (call : SyncCall) : Nat :=
  if call.cmd 4 = 0 then
    match protokoll with
    | .nine => 256
    | .ten => 32
  else (call.cmd 4).toNat

/-- Each byte in front of 90 00 is that of a bit that the card has sent. -/
def BitsRight (first : Nat) (data : List UInt8) (answer : ReadAnswer) : Prop :=
  ∀ body, answer.returned = .success → answer.response = body ++ [0x90, 0x00] →
    ∀ index, index < body.length →
      ∃ bit, bitAt data (first + index) = some bit ∧ body[index]? = some (bitByte bit)

/-- What the bytes of one answer are. -/
def ReadRight (protokoll : Protokoll) (call : SyncCall) (buffer : Nat → UInt8) : Prop :=
  ∀ answer, SyncInterpreter protokoll call buffer = some answer →
    BitsRight (firstBit protokoll call) (call.replies 0).abData answer

/-- How many bytes of bits the card may send. -/
def bitBytes (protokoll : Protokoll) (call : SyncCall) : Nat :=
  match protokoll with
  | .nine => (askedBits .nine call + 7) / 8
  | .ten => 4

/-- The command is accepted, there is room for the answer and the card sends one. -/
structure Accepted (protokoll : Protokoll) (call : SyncCall) : Prop where
  cla : call.cmd 0 = 0
  ins : call.cmd 1 = READBINARY
  P1 : ¬ call.cmd 2 > protokoll.lastP1
  range : protokoll = .ten → (call.cmd 3).toNat ≤ 31 ∧ (call.cmd 3).toNat + (call.cmd 4).toNat ≤ 32
  room : askedBits protokoll call + 2 ≤ call.lenr
  success : transferred (call.replies 0) (bitBytes protokoll call) = .success

/-- The card has sent all the bits that are asked for; the 32 bits of a card of protocol 10 do not reach that far
where Le is zero and the offset is not. -/
def BitsSent (protokoll : Protokoll) (call : SyncCall) : Prop :=
  firstBit protokoll call + askedBits protokoll call ≤ 8 * (call.replies 0).abData.length

/-! ## The bits in the buffer -/

variable {protokoll : Protokoll} {call : SyncCall} {buffer : Nat → UInt8} {data body : List UInt8}
  {first index count : Nat} {blocks : List CardBlock}

/-- The bits that have been sent are those of the buffer. -/
theorem bitAt_stored (inside : index < 8 * data.length) (read : index < 8 * count) :
    bitAt (bytesAt (stored buffer 0 data) 0 count) index = bitAt data index := by
  have byte : index / 8 < data.length := by omega
  have place : index / 8 < count := by omega
  have same : (bytesAt (stored buffer 0 data) 0 count)[index / 8]? = data[index / 8]? := by
    rw [List.getElem?_eq_getElem byte, bytesAt_getElem? place, stored_at _ byte]
  rw [bitAt, bitAt, same]

/-- An answer whose bytes are right as far as bits were sent is right exactly if all were. -/
theorem bitsRight_iff (length : body.length = count) (some : 0 < count)
    (agrees : ∀ index, index < count → first + index < 8 * data.length →
      body[index]? = (bitAt data (first + index)).map bitByte) :
    BitsRight first data ⟨.success, body ++ [0x90, 0x00], blocks⟩ ↔ first + count ≤ 8 * data.length := by
  constructor
  · intro right
    obtain ⟨bit, sent, _⟩ := right body rfl rfl (count - 1) (by omega)
    have inside := bitAt_isSome.mp (Option.isSome_of_eq_some sent)
    omega
  · intro sent other _ same index inside
    have bodies : other = body := (List.append_cancel_right same).symm
    subst other
    have within : first + index < 8 * data.length := by omega
    obtain ⟨bit, read⟩ := Option.isSome_iff_exists.mp (bitAt_isSome.mpr within)
    exact ⟨bit, read, by rw [agrees index (by omega) within, read, Option.map_some]⟩

/-- An answer of an error is no answer of bits. -/
theorem bitsRight_error {answer : ReadAnswer}
    (error : answer.returned = .success → ∀ body, answer.response ≠ body ++ [0x90, 0x00]) : BitsRight first data answer := by
  intro body success same
  exact absurd same (error success body)

theorem askedBits_pos : 0 < askedBits protokoll call := by
  unfold askedBits
  split
  · cases protokoll <;> decide
  · rename_i some
    exact toNat_pos some

/-- Two bytes that are no 90 00. -/
theorem bitsRight_status {first second : UInt8} (other : first ≠ 0x90) :
    BitsRight index data ⟨.success, [first, second], blocks⟩ := by
  apply bitsRight_error
  intro _ body same
  have empty : body = [] := by
    have length := congrArg List.length same
    simp only [List.length_append, List.length_cons, List.length_nil] at length
    exact List.length_eq_zero_iff.mp (by omega)
  rw [empty] at same
  cases same
  contradiction

theorem bitsRight_failure {answer : ReadAnswer} (failed : answer.returned ≠ .success) : BitsRight first data answer :=
  bitsRight_error fun success => absurd success failed

theorem glen_eq (len : Nat) : (len / 8 + if len % 8 ≠ 0 then 1 else 0) = (len + 7) / 8 := by
  split <;> omega

/-- A reply that is accepted has no more bytes than may come. -/
theorem length_of_success {reply : Reply} {in_len : Nat} (success : transferred reply in_len = .success) :
    reply.abData.length ≤ in_len := by
  unfold transferred at success
  repeat' split at success
  all_goals first | contradiction | omega

/-! ## The two protocols -/

theorem readProtection9_iff (accepted : Accepted .nine call) :
    BitsRight 0 (call.replies 0).abData (readProtection9 call buffer) ↔ BitsSent .nine call := by
  have room := accepted.room
  have success := accepted.success
  have enough : askedBits .nine call ≤ 8 * ((askedBits .nine call + 7) / 8) := by omega
  have answer : readProtection9 call buffer =
      ⟨.success, unpack (askedBits .nine call) (bytesAt (stored buffer 0 (call.replies 0).abData) 0
        ((askedBits .nine call + 7) / 8)) ++ [0x90, 0x00],
        [S9SyncCommands 0x0c call.addr [] ((askedBits .nine call + 7) / 8)]⟩ := by
    have len : (if call.cmd 4 = 0 then 256 else (call.cmd 4).toNat) = askedBits .nine call := rfl
    have tested : ¬ transferred (call.replies 0) ((askedBits .nine call + 7) / 8) ≠ .success := fun failed => failed success
    have fits : ¬ call.lenr < askedBits .nine call + 2 := by omega
    simp only [readProtection9, len, glen_eq, if_neg fits, if_neg tested]
  rw [answer, BitsSent]
  apply bitsRight_iff
  · apply length_unpack
    rw [length_bytesAt]
    exact enough
  · exact askedBits_pos
  · intro index inside sent
    rw [Nat.zero_add] at sent ⊢
    rw [unpack_getElem? inside, bitAt_stored sent (by omega)]

/-- The length that is answered with, which is also the one that reaches out of the bits. -/
theorem returnedBits (range : (call.cmd 3).toNat ≤ 31 ∧ (call.cmd 3).toNat + (call.cmd 4).toNat ≤ 32) :
    (if askedBits .ten call > 32 - (call.cmd 3).toNat then 32 else askedBits .ten call) = askedBits .ten call := by
  split
  · rename_i long
    have zero : call.cmd 4 = 0 := by
      by_cases zero : call.cmd 4 = 0
      · exact zero
      · rw [askedBits, if_neg zero] at long
        omega
    rw [askedBits, if_pos zero]
  · rfl

theorem readProtection10_iff (accepted : Accepted .ten call) :
    BitsRight (call.cmd 3).toNat (call.replies 0).abData (readProtection10 call buffer) ↔ BitsSent .ten call := by
  have range := accepted.range rfl
  have room := accepted.room
  have success := accepted.success
  have few := length_of_success success
  have positive := @askedBits_pos .ten call
  have len : (if call.cmd 4 = 0 then 32 else (call.cmd 4).toNat) = askedBits .ten call := rfl
  have answer : readProtection10 call buffer =
      ⟨.success, bytesAt (stored (stored buffer 0 (call.replies 0).abData) 4
        (unpack 32 (bytesAt (stored buffer 0 (call.replies 0).abData) 0 4))) (4 + (call.cmd 3).toNat)
        (askedBits .ten call) ++ [0x90, 0x00], [S10SyncCommands 0x34 0 [] 4]⟩ := by
    have inRange : ¬ ((call.cmd 3).toNat > 31 ∨ (call.cmd 3).toNat + (call.cmd 4).toNat > 32) := by omega
    have tested : ¬ transferred (call.replies 0) 4 ≠ .success := fun failed => failed success
    have fits : ¬ call.lenr < askedBits .ten call + 2 := by omega
    simp only [readProtection10, len, returnedBits range, if_neg inRange, if_neg fits, if_neg tested]
  rw [answer, BitsSent]
  apply bitsRight_iff
  · exact length_bytesAt _ _ _
  · exact positive
  · intro index inside sent
    change (call.replies 0).abData.length ≤ 4 at few
    have unpacked := @unpack_getElem? (bytesAt (stored buffer 0 (call.replies 0).abData) 0 4) 32
      ((call.cmd 3).toNat + index) (by omega)
    rw [bitAt_stored sent (by omega)] at unpacked
    have length := @length_unpack (bytesAt (stored buffer 0 (call.replies 0).abData) 0 4) 32
      (by rw [length_bytesAt])
    have within : (call.cmd 3).toNat + index <
        (unpack 32 (bytesAt (stored buffer 0 (call.replies 0).abData) 0 4)).length := by omega
    rw [← unpacked, List.getElem?_eq_getElem within, bytesAt_getElem? inside, Nat.add_assoc, stored_at _ within]

theorem readProtection9_refused (refused : ¬ (askedBits .nine call + 2 ≤ call.lenr ∧
    transferred (call.replies 0) (bitBytes .nine call) = .success)) :
    BitsRight first data (readProtection9 call buffer) := by
  have len : (if call.cmd 4 = 0 then 256 else (call.cmd 4).toNat) = askedBits .nine call := rfl
  simp only [readProtection9, len, glen_eq]
  split
  · exact bitsRight_failure nofun
  · rename_i room
    split
    · rename_i failed
      exact bitsRight_failure failed
    · rename_i success
      exact absurd ⟨Nat.not_lt.mp room, not_not.mp success⟩ refused

theorem readProtection10_refused (refused : ¬ (((call.cmd 3).toNat ≤ 31 ∧ (call.cmd 3).toNat + (call.cmd 4).toNat ≤ 32) ∧
    askedBits .ten call + 2 ≤ call.lenr ∧ transferred (call.replies 0) 4 = .success)) :
    BitsRight first data (readProtection10 call buffer) := by
  have len : (if call.cmd 4 = 0 then 32 else (call.cmd 4).toNat) = askedBits .ten call := rfl
  by_cases range : (call.cmd 3).toNat ≤ 31 ∧ (call.cmd 3).toNat + (call.cmd 4).toNat ≤ 32
  · have inRange : ¬ ((call.cmd 3).toNat > 31 ∨ (call.cmd 3).toNat + (call.cmd 4).toNat > 32) := by omega
    simp only [readProtection10, len, returnedBits range, if_neg inRange]
    split
    · exact bitsRight_failure nofun
    · rename_i room
      split
      · rename_i failed
        exact bitsRight_failure failed
      · rename_i success
        exact absurd ⟨range, Nat.not_lt.mp room, not_not.mp success⟩ refused
  · have outside : (call.cmd 3).toNat > 31 ∨ (call.cmd 3).toNat + (call.cmd 4).toNat > 32 := by omega
    rw [readProtection10, if_pos outside]
    exact bitsRight_status (by decide)

/-- A command that is not accepted is answered without bits. -/
theorem right_of_refused (refused : ¬ Accepted protokoll call) : ReadRight protokoll call buffer := by
  intro answer read
  unfold SyncInterpreter at read
  split at read
  · contradiction
  · rename_i ins
    split at read
    · cases read
      exact bitsRight_status (by decide)
    · rename_i cla
      split at read
      · cases read
        exact bitsRight_status (by decide)
      · rename_i P1
        cases protokoll with
        | nine =>
            cases read
            apply readProtection9_refused
            intro room
            exact refused ⟨not_not.mp cla, not_not.mp ins, P1, nofun, room.1, room.2⟩
        | ten =>
            cases read
            apply readProtection10_refused
            intro rest
            exact refused ⟨not_not.mp cla, not_not.mp ins, P1, fun _ => rest.1, rest.2.1, rest.2.2⟩

theorem right_iff_of_accepted (accepted : Accepted protokoll call) :
    ReadRight protokoll call buffer ↔ BitsSent protokoll call := by
  have ins : ¬ call.cmd 1 ≠ READBINARY := fun other => other accepted.ins
  have cla : ¬ call.cmd 0 ≠ 0 := fun other => other accepted.cla
  have P1 := accepted.P1
  unfold ReadRight
  cases protokoll with
  | nine =>
      rw [← @readProtection9_iff call buffer accepted]
      simp only [SyncInterpreter, if_neg ins, if_neg cla, if_neg P1, Option.some.injEq, forall_eq']
      rfl
  | ten =>
      rw [← @readProtection10_iff call buffer accepted]
      simp only [SyncInterpreter, if_neg ins, if_neg cla, if_neg P1, Option.some.injEq, forall_eq']
      rfl

/-- The answer holds the bits the card has sent and nothing else exactly where it has sent all that are asked for. -/
theorem protection_bits_right_iff (protokoll : Protokoll) (call : SyncCall) (buffer : Nat → UInt8) :
    ReadRight protokoll call buffer ↔ (Accepted protokoll call → BitsSent protokoll call) := by
  by_cases accepted : Accepted protokoll call
  · rw [right_iff_of_accepted accepted]
    exact ⟨fun sent _ => sent, fun sent => sent accepted⟩
  · exact ⟨fun _ other => absurd other accepted, fun _ => right_of_refused accepted⟩

/-- READ BINARY with Le 0, and the card sends the bytes. -/
def readCall (P2 : UInt8) (sent : List UInt8) : SyncCall where
  lenc := 5
  cmd := inMemory [0x00, 0xB0, 0x00, P2, 0x00]
  lenr := 258
  response _ := 0
  replies _ := .ofBlock sent

/-- From the bit 8 on 32 bytes are answered, the last eight of them from the buffer; and a card that sends one of
32 bytes is answered for with the buffer, too. -/
theorem protection_bits_not_right :
    (∃ answer, SyncInterpreter .ten (readCall 8 [0xff, 0xff, 0xff, 0xff]) (fun _ => 0xA5) = some answer ∧
      answer.response = List.replicate 24 0x01 ++ List.replicate 8 0xA5 ++ [0x90, 0x00]) ∧
    ¬ ReadRight .ten (readCall 8 [0xff, 0xff, 0xff, 0xff]) (fun _ => 0xA5) ∧
    ¬ ReadRight .nine (readCall 0 [0xff]) (fun _ => 0xA5) := by
  have ten : Accepted .ten (readCall 8 [0xff, 0xff, 0xff, 0xff]) :=
    ⟨rfl, rfl, by decide, fun _ => by decide, by decide, rfl⟩
  have nine : Accepted .nine (readCall 0 [0xff]) := ⟨rfl, rfl, by decide, nofun, by decide, rfl⟩
  refine ⟨⟨_, rfl, by decide⟩, ?_, ?_⟩
  · rw [right_iff_of_accepted ten]
    unfold BitsSent
    decide
  · rw [right_iff_of_accepted nine]
    unfold BitsSent
    decide

end Cyberjack.Ppa.ProtectionBits
