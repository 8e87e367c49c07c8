import Cyberjack.Foundation.Buffer

namespace Cyberjack.Eca.GetData

open Cyberjack.Foundation

/-! # GET DATA of a contactless card

The answer of `CECRReader::_IfdTransmit` to `FF CA`.  Three lengths meet in it: that of the
identifier, Le and the capacity of the response.
-/

/-- What is kept of a contactless card. -/
structure RfCard where
  m_SerialNumber : Buffer UInt8 10
  m_SerialNumberLength : Nat
  m_ATR : Buffer UInt8 33
  m_ATR_Length : UInt32
  serial : m_SerialNumberLength ≤ 10
  -- `Transfer` clears the length when the card does not answer any more
  built : m_ATR_Length = 0 ∨ 5 ≤ m_ATR_Length.toNat ∧ m_ATR_Length.toNat ≤ 33

inductive GetDataResult where
  | success (response : List UInt8)
  | bufferTooSmall
deriving Repr, DecidableEq

/-- The bytes written to the response. -/
def GetDataResult.written : GetDataResult → List UInt8
  | .success response => response
  | .bufferTooSmall => []

/-- Each of the two identifiers: `length` bytes are copied from `source`.  A larger Le is
filled up, but the capacity was compared with `length` alone. -/
def identifierAnswer (source : List UInt8) (length : UInt32) (Le : UInt8) (response_len : UInt16) : GetDataResult :=
  let copied := source.take length.toNat
  if response_len.toNat ≥ (length + 2).toNat ∧ (Le = 0 ∨ Le.toNat ≥ length.toNat) then
    if Le ≠ 0 ∧ Le.toNat > length.toNat then
      .success (copied ++ List.replicate (Le.toNat - length.toNat) 0x00 ++ [0x62, 0x82])
    else .success (copied ++ [0x90, 0x00])
  else if response_len ≥ 2 then .success [0x6C, length.toUInt8]
  else .bufferTooSmall

/-- The branch of `FF CA`; `none` where another one answers. -/
def _IfdTransmit (m_bIsRF : Bool) (card : RfCard) (cmd : List UInt8) (response_len : UInt16) : Option GetDataResult :=
  match m_bIsRF, cmd with
  | true, [0xff, 0xca, P1, 0x00, Le] =>
      if P1 = 0 then
        some (identifierAnswer card.m_SerialNumber.cells (UInt32.ofNat card.m_SerialNumberLength) Le response_len)
      else if P1 = 1 then
        some (identifierAnswer (card.m_ATR.cells.drop 4) (card.m_ATR_Length - 5) Le response_len)
      else none
  | _, _ => none

/-! ## What should be answered -/

/-- What P1 asks for. -/
inductive Identifier where
  | uid
  | historicalBytes
deriving Repr, DecidableEq

def Identifier.P1 : Identifier → UInt8
  | .uid => 0
  | .historicalBytes => 1

/-- The bytes asked for; a card that is lost has no historical bytes. -/
def RfCard.identifier (card : RfCard) : Identifier → Option (List UInt8)
  | .uid => some (card.m_SerialNumber.cells.take card.m_SerialNumberLength)
  | .historicalBytes =>
      if card.m_ATR_Length = 0 then none
      else some ((card.m_ATR.cells.drop 4).take (card.m_ATR_Length.toNat - 5))

def expectedAnswer (identifier : List UInt8) (Le : UInt8) : List UInt8 :=
  if Le = 0 ∨ Le.toNat = identifier.length then identifier ++ [0x90, 0x00]
  else if Le.toNat < identifier.length then [0x6C, UInt8.ofNat identifier.length]
  else identifier ++ List.replicate (Le.toNat - identifier.length) 0x00 ++ [0x62, 0x82]

structure AnswerRight (identifier : Option (List UInt8)) (Le : UInt8) (response_len : UInt16)
    (result : GetDataResult) : Prop where
  inside : result.written.length ≤ response_len.toNat
  expected : ∀ bytes, identifier = some bytes → (expectedAnswer bytes Le).length ≤ response_len.toNat →
    result = .success (expectedAnswer bytes Le)

/-- The identifier fits with its status word, but not filled up to Le. -/
def OnlyUnfilledFits (identifier : Option (List UInt8)) (Le : UInt8) (response_len : UInt16) : Prop :=
  ∃ bytes, identifier = some bytes ∧ bytes.length < Le.toNat ∧ bytes.length + 2 ≤ response_len.toNat ∧
    response_len.toNat < Le.toNat + 2

/-! ## The three lengths -/

variable {bytes source : List UInt8} {length : UInt32} {Le : UInt8} {response_len : UInt16}

theorem le_zero_iff : Le = 0 ↔ Le.toNat = 0 := UInt8.toNat_inj.symm

theorem two_le_iff : response_len ≥ 2 ↔ response_len.toNat ≥ 2 := UInt16.le_iff_toNat_le

theorem expectedAnswer_length : (expectedAnswer bytes Le).length =
    if Le.toNat = 0 ∨ Le.toNat = bytes.length then bytes.length + 2
    else if Le.toNat < bytes.length then 2 else Le.toNat + 2 := by
  simp only [expectedAnswer, le_zero_iff]
  split
  · simp
  · split
    · rfl
    · simp only [List.length_append, List.length_replicate, List.length_cons, List.length_nil]
      omega

/-- The code in terms of the bytes it copies. -/
theorem identifierAnswer_eq (copied : source.take bytes.length = bytes) (counted : length.toNat = bytes.length)
    (small : bytes.length < 256) :
    identifierAnswer source length Le response_len =
      if response_len.toNat ≥ bytes.length + 2 ∧ (Le.toNat = 0 ∨ Le.toNat ≥ bytes.length) then
        if Le.toNat ≠ 0 ∧ Le.toNat > bytes.length then
          .success (bytes ++ List.replicate (Le.toNat - bytes.length) 0x00 ++ [0x62, 0x82])
        else .success (bytes ++ [0x90, 0x00])
      else if response_len.toNat ≥ 2 then .success [0x6C, UInt8.ofNat bytes.length]
      else .bufferTooSmall := by
  have sum : (length + 2).toNat = bytes.length + 2 := by
    rw [UInt32.toNat_add, counted]
    exact Nat.mod_eq_of_lt (by simp only [UInt32.reduceToNat]; omega)
  have byte : length.toUInt8 = UInt8.ofNat bytes.length := by
    rw [← counted, ← UInt8.toNat_inj, UInt32.toNat_toUInt8, UInt8.toNat_ofNat']
  simp only [identifierAnswer, sum, counted, copied, byte, le_zero_iff, two_le_iff, ne_eq]

/-- The answer of each branch fits its room, the filled one where it is looked at. -/
theorem identifierAnswer_inside (copied : source.take bytes.length = bytes) (counted : length.toNat = bytes.length)
    (small : bytes.length < 256) :
    (identifierAnswer source length Le response_len).written.length ≤ response_len.toNat ↔
      ¬ OnlyUnfilledFits (some bytes) Le response_len := by
  have overrun : OnlyUnfilledFits (some bytes) Le response_len ↔
      bytes.length < Le.toNat ∧ bytes.length + 2 ≤ response_len.toNat ∧ response_len.toNat < Le.toNat + 2 := by
    simp [OnlyUnfilledFits]
  rw [identifierAnswer_eq copied counted small, overrun]
  split
  · split
    · simp only [GetDataResult.written, List.length_append, List.length_replicate, List.length_cons, List.length_nil]
      omega
    · simp only [GetDataResult.written, List.length_append, List.length_cons, List.length_nil]
      omega
  · split
    · simp only [GetDataResult.written, List.length_cons, List.length_nil]
      omega
    · simp only [GetDataResult.written, List.length_nil]
      omega

/-- With room for it the answer is the expected one. -/
theorem identifierAnswer_expected (copied : source.take bytes.length = bytes) (counted : length.toNat = bytes.length)
    (small : bytes.length < 256) (enough : (expectedAnswer bytes Le).length ≤ response_len.toNat) :
    identifierAnswer source length Le response_len = .success (expectedAnswer bytes Le) := by
  rw [expectedAnswer_length] at enough
  simp only [identifierAnswer_eq copied counted small, expectedAnswer, le_zero_iff]
  by_cases plain : Le.toNat = 0 ∨ Le.toNat = bytes.length
  · rw [if_pos plain] at enough ⊢
    rw [if_pos (by omega), if_neg (by omega)]
  · rw [if_neg plain] at enough ⊢
    by_cases smaller : Le.toNat < bytes.length
    · rw [if_pos smaller] at enough ⊢
      rw [if_neg (by omega), if_pos enough]
    · rw [if_neg smaller] at enough ⊢
      rw [if_pos (by omega), if_pos (by omega)]

theorem answer_right_iff (copied : source.take bytes.length = bytes) (counted : length.toNat = bytes.length)
    (small : bytes.length < 256) :
    AnswerRight (some bytes) Le response_len (identifierAnswer source length Le response_len) ↔
      ¬ OnlyUnfilledFits (some bytes) Le response_len := by
  rw [← identifierAnswer_inside copied counted small]
  constructor
  · exact AnswerRight.inside
  · intro inside
    constructor
    · exact inside
    · intro other same enough
      cases same
      exact identifierAnswer_expected copied counted small enough

/-- Without an ATR nothing is copied. -/
theorem identifierAnswer_lost :
    (identifierAnswer source (0 - 5) Le response_len).written.length ≤ response_len.toNat := by
  have capacity := response_len.toNat_lt
  have large : ((0 : UInt32) - 5 + 2).toNat = 4294967293 := by decide
  rw [identifierAnswer, large, if_neg (by omega)]
  split
  · exact two_le_iff.mp ‹_›
  · exact Nat.zero_le _

/-- The answer is the expected one, in the room there is, unless the identifier fits but
its filling does not. -/
theorem getData_right_iff (card : RfCard) (asked : Identifier) (Le : UInt8) (response_len : UInt16) :
    (∃ result, _IfdTransmit true card [0xff, 0xca, asked.P1, 0x00, Le] response_len = some result ∧
      AnswerRight (card.identifier asked) Le response_len result) ↔
    ¬ OnlyUnfilledFits (card.identifier asked) Le response_len := by
  cases asked with
  | uid =>
      have serial := card.serial
      have length : (card.m_SerialNumber.cells.take card.m_SerialNumberLength).length =
          card.m_SerialNumberLength := by
        rw [List.length_take, card.m_SerialNumber.length_cells, Nat.min_eq_left serial]
      have counted : (UInt32.ofNat card.m_SerialNumberLength).toNat =
          (card.m_SerialNumber.cells.take card.m_SerialNumberLength).length := by
        rw [length, UInt32.toNat_ofNat']
        omega
      have branch : _IfdTransmit true card [0xff, 0xca, Identifier.uid.P1, 0x00, Le] response_len =
          some (identifierAnswer card.m_SerialNumber.cells (UInt32.ofNat card.m_SerialNumberLength) Le response_len) := rfl
      rw [RfCard.identifier, branch, ← answer_right_iff (by rw [length]) counted (by omega)]
      simp only [Option.some.injEq, exists_eq_left']
  | historicalBytes =>
      have branch : _IfdTransmit true card [0xff, 0xca, Identifier.historicalBytes.P1, 0x00, Le] response_len =
          some (identifierAnswer (card.m_ATR.cells.drop 4) (card.m_ATR_Length - 5) Le response_len) := rfl
      by_cases lost : card.m_ATR_Length = 0
      · rw [RfCard.identifier, if_pos lost]
        constructor
        · intro _ overrun
          obtain ⟨_, absent, _⟩ := overrun
          contradiction
        · intro _
          refine ⟨_, branch, ?_, ?_⟩
          · rw [lost]
            exact identifierAnswer_lost
          · intro _ same
            contradiction
      · obtain absent | ⟨long, short⟩ := card.built
        · exact absurd absent lost
        · have difference : (card.m_ATR_Length - 5).toNat = card.m_ATR_Length.toNat - 5 :=
            UInt32.toNat_sub_of_le _ _ (UInt32.le_iff_toNat_le.mpr long)
          have length : ((card.m_ATR.cells.drop 4).take (card.m_ATR_Length.toNat - 5)).length =
              card.m_ATR_Length.toNat - 5 := by
            rw [List.length_take, List.length_drop, card.m_ATR.length_cells]
            omega
          rw [RfCard.identifier, if_neg lost, branch,
            ← answer_right_iff (by rw [length]) (by rw [difference, length]) (by omega)]
          simp only [Option.some.injEq, exists_eq_left']

/-- A card of type A with a UID of four bytes and an ATR without historical bytes. -/
def fourBytes : RfCard where
  m_SerialNumber := ⟨[0x04, 0xA1, 0xB2, 0xC3, 0, 0, 0, 0, 0, 0], rfl⟩
  m_SerialNumberLength := 4
  m_ATR := Buffer.filled 33 0
  m_ATR_Length := 5
  serial := by decide
  built := by decide

/-- A UID of four bytes into six bytes of room with Le 16: eighteen bytes are written. -/
theorem getData_not_right :
    (∃ written, _IfdTransmit true fourBytes [0xff, 0xca, 0x00, 0x00, 0x10] 6 = some (.success written) ∧
      written.length = 18) ∧
    ¬ ∃ result, _IfdTransmit true fourBytes [0xff, 0xca, Identifier.uid.P1, 0x00, 0x10] 6 = some result ∧
      AnswerRight (fourBytes.identifier .uid) 0x10 6 result := by
  constructor
  · exact ⟨_, rfl, rfl⟩
  · intro right
    obtain ⟨_, same, right⟩ := right
    cases same
    exact absurd right.inside (by decide)

end Cyberjack.Eca.GetData
