import Cyberjack.Eca.Transfer
import Cyberjack.Eca.T0Case4

namespace Cyberjack.Eca

open Cyberjack.Foundation

/-! # The length a device reports

The functions that copy the data of a response to their caller.  `dwLength` is
whatever the device has put there.
-/

/-- `memcpy (out, area + offset, count)` into an array of `capacity` bytes: the
bytes copied, or none when a byte outside is read or written. -/
def copyOut (capacity : Nat) (area : List UInt8) (offset count : Nat) : Option (List UInt8) :=
  if offset + count ≤ area.length ∧ count ≤ capacity then some ((area.drop offset).take count)
  else none

/-- The return of such a function: its result, the length it leaves and the bytes it has copied. -/
inductive Handed (ρ : Type) where
  | returned (result : ρ) (length : Nat) (copied : List UInt8)
  | fault
deriving Repr, DecidableEq

/-- A copy with its length behind it. -/
def hand {ρ : Type} (result : ρ) (capacity : Nat) (area : List UInt8) (offset count : Nat) : Handed ρ :=
  match copyOut capacity area offset count with
  | none => .fault
  | some copied => .returned result count copied

/-- The copy stays inside both arrays, and success leaves the number of bytes
copied, which fit. -/
def Validated {ρ : Type} (success : ρ) (capacity : Nat) (handed : Handed ρ) : Prop :=
  handed ≠ .fault ∧ ∀ length copied, handed = .returned success length copied →
    length = copied.length ∧ length ≤ capacity

/-- `Data.Escape.Result` -/
def CCID_Response.escapeResult (Response : CCID_Response) : List UInt8 := Response.abData.cells.take 4

/-- The end of `Escape`: `Result` is not zero when the reader has refused. -/
def checkEscape (Response : CCID_Response) (length : Nat) (copied : List UInt8) :
    Handed (Option CjError) :=
  if Response.escapeResult ≠ [0, 0, 0, 0] then .returned (some .checkResult) 0 copied
  else .returned none length copied

/-- `if(ResponseLen)` of `Escape`; without `ResponseData` only the length is asked for. -/
def storeEscape (ResponseLen : UInt32) (ResponseData : Bool) (Response : CCID_Response) :
    Handed (Option CjError) :=
  let length := (Response.dwLength - 4).toNat
  if Response.dwLength > ResponseLen + 4 then
    if ResponseData = false then .returned (some .rbufferToSmall) length []
    else .returned (some .rbufferToSmall) 0 []
  else if ResponseData = false then checkEscape Response length []
  else
    match copyOut ResponseLen.toNat Response.abData.cells 4 length with
    | none => .fault
    | some copied => checkEscape Response length copied

/-- `CEC30Reader::Escape` behind its `Transfer`. -/
def Escape (ResponseLen : Option UInt32) (ResponseData : Bool) (Response : CCID_Response) :
    Handed (Option CjError) :=
  if Response.bMessageType ≠ 0x83 then .returned (some .deviceLost) 0 []
  else
    match ResponseLen with
    | some ResponseLen => storeEscape ResponseLen ResponseData Response
    | none =>
        if Response.dwLength ≠ 4 then .returned (some .rbufferToSmall) 0 []
        else checkEscape Response 0 []

/-- `CCCIDReader::CCID_Escape` behind its `Transfer`. -/
def CCID_Escape (OutputLength : UInt32) (Response : CCID_Response) : Handed (Option CjError) :=
  if Response.bMessageType ≠ 0x83 then .returned (some .deviceLost) OutputLength.toNat []
  else if Response.dwLength > OutputLength then .returned (some .rbufferToSmall) 0 []
  else hand none OutputLength.toNat Response.abData.cells 0 Response.dwLength.toNat

/-- The error of a PIN command, as far as it does not go with data. -/
def secureError (offs : Nat) (bError : UInt8) : Option CjError :=
  if bError = 0xFD then some .parity
  else if bError = 0xFE then some .timeout
  else if bError = 0xF0 then some .pinTimeout
  else if bError = 0xEF then some .pinCanceled
  else if bError = 0xEE then some .pinDifferent
  else if bError = 0xC0 then none
  else if bError = 5 then some .wrongParameter
  else if bError.toNat = 21 + offs then some .wrongParameter
  else if bError.toNat = 26 + offs then some .conditionOfUse
  else if bError = 0xF3 then none
  else some .len

/-- `if(*in_len<(int)length) return CJ_ERR_RBUFFER_TO_SMALL; memcpy(...)` -/
def copyResult (result : Option CjError) (in_len : Nat) (area : List UInt8) (length : UInt32) :
    Handed (Option CjError) :=
  if (in_len : Int) < int32 length.toNat then .returned (some .rbufferToSmall) in_len []
  else hand result in_len area 0 length.toNat

/-- The common part of the two versions of `ExecuteSecureResult`. -/
def secureResult (in_len offs : Nat) (Response : CCID_Response) : Handed (Option CjError) :=
  if Response.bStatus &&& 0x40 ≠ 0 then
    match secureError offs Response.bError with
    | some error => .returned (some error) in_len []
    | none =>
        if Response.bError = 0xC0 then
          copyResult (some .pinExtended) in_len Response.abData.cells Response.dwLength
        else if Response.bStatus &&& 0x02 ≠ 0 then .returned (some .noIcc) in_len []
        else if Response.bStatus &&& 0x01 ≠ 0 then .returned (some .noActiveIcc) in_len []
        else copyResult none in_len Response.abData.cells Response.dwLength
  else copyResult none in_len Response.abData.cells Response.dwLength

/-- `CCCIDReader::ExecuteSecureResult` -/
def ExecuteSecureResult (in_len offs : Nat) (Response : CCID_Response) : Handed (Option CjError) :=
  if Response.bStatus &&& 0x02 ≠ 0 then .returned (some .noIcc) in_len []
  else if Response.bStatus &&& 0x01 ≠ 0 then .returned (some .noActiveIcc) in_len []
  else secureResult in_len offs Response

/-- The version and the revision of the kernel module, if it is found. -/
structure KernelInfo where
  Version : Nat
  Revision : Nat
deriving Repr, DecidableEq

/-- `Info->Version<0x30 || Info->Version==0x30 && Info->Revision<=40` -/
def KernelInfo.UpTo40 (Info : KernelInfo) : Prop :=
  Info.Version < 0x30 ∨ (Info.Version = 0x30 ∧ Info.Revision ≤ 40)

instance (Info : KernelInfo) : Decidable Info.UpTo40 := by
  unfold KernelInfo.UpTo40
  infer_instance

/-- `CEC30Reader::ExecuteSecureResult` -/
def EC30_ExecuteSecureResult (Info : Option KernelInfo) (in_len offs : Nat)
    (Response : CCID_Response) : Handed (Option CjError) :=
  match Info with
  | none => .returned (some .len) in_len []
  | some Info =>
      if Info.UpTo40 then ExecuteSecureResult in_len offs Response
      else secureResult in_len offs Response

/-- `RespData` of the callers of `ExecuteApplSecureResult`, with what is in it. -/
structure ApplicationData where
  RespData : Buffer UInt8 1000
  RespDataLen : UInt32
  inside : RespDataLen ≤ 1000

/-- `CEC30Reader::ExecuteApplSecureResult`; there is an error when `ErrorLength` is not zero. -/
def ExecuteApplSecureResult (Info : Option KernelInfo) (m_ReaderState : ReaderState)
    (Error : UInt8) (ErrorLength : Nat) (in_len offs : Nat) (data : ApplicationData) :
    Handed (Option CjError) :=
  match Info with
  | none => .returned (some .len) in_len []
  | some Info =>
      if Info.UpTo40 ∧ m_ReaderState = .absent then .returned (some .noIcc) in_len []
      else if Info.UpTo40 ∧ m_ReaderState ≠ .specific then .returned (some .noActiveIcc) in_len []
      else if ErrorLength ≠ 0 then
        match secureError offs Error with
        | some error => .returned (some error) in_len []
        | none =>
            if Error = 0xC0 then
              copyResult (some .pinExtended) in_len data.RespData.cells data.RespDataLen
            else if m_ReaderState = .absent then .returned (some .noIcc) in_len []
            else if m_ReaderState ≠ .specific then .returned (some .noActiveIcc) in_len []
            else copyResult none in_len data.RespData.cells data.RespDataLen
      else copyResult none in_len data.RespData.cells data.RespDataLen

/-- `CEC30Reader::ccidTransmit` behind its `Transfer`, as a copy between arrays. -/
def ccidTransmitCopy (response_len : UInt16) (Response : CCID_Response) : Handed IfdResult :=
  if Response.bMessageType ≠ 0x80 then .returned .deviceProtocolError 0 []
  else if Response.bStatus &&& 0x40 ≠ 0 then
    if Response.bError = 0xFE then .returned .ioTimeout 0 []
    else .returned .deviceProtocolError 0 []
  else if Response.dwLength.toNat > response_len.toNat then .returned .bufferTooSmall 0 []
  else hand .success response_len.toNat Response.abData.cells 0 Response.dwLength.toNat

variable {ρ : Type} {success result : ρ} {capacity offset count in_len offs : Nat} {area : List UInt8}
  {length : UInt32} {Response : CCID_Response}

theorem validated_error {error : ρ} {left : Nat} {copied : List UInt8} (different : error ≠ success) :
    Validated success capacity (.returned error left copied) := by
  refine ⟨by simp, ?_⟩
  intro length copied returned
  simp only [Handed.returned.injEq] at returned
  exact absurd returned.1 different

theorem copyOut_of_room (inside : offset + count ≤ area.length) (room : count ≤ capacity) :
    copyOut capacity area offset count = some ((area.drop offset).take count) :=
  if_pos ⟨inside, room⟩

theorem copyOut_eq_none :
    copyOut capacity area offset count = none ↔ ¬ (offset + count ≤ area.length ∧ count ≤ capacity) := by
  rw [copyOut]
  split
  · rename_i inside
    exact iff_of_false (by simp) (not_not.mpr inside)
  · rename_i outside
    exact iff_of_true rfl outside

theorem length_copied (inside : offset + count ≤ area.length) :
    ((area.drop offset).take count).length = count := by
  rw [List.length_take, List.length_drop]
  omega

theorem validated_hand_iff :
    Validated success capacity (hand result capacity area offset count) ↔
      offset + count ≤ area.length ∧ count ≤ capacity := by
  rw [hand]
  cases made : copyOut capacity area offset count with
  | none => exact iff_of_false (fun validated => validated.1 rfl) (copyOut_eq_none.mp made)
  | some copied =>
      have inside : offset + count ≤ area.length ∧ count ≤ capacity := by
        by_contra outside
        rw [copyOut_eq_none.mpr outside] at made
        contradiction
      refine iff_of_true ⟨by simp, ?_⟩ inside
      intro length copied' returned
      rw [copyOut_of_room inside.1 inside.2, Option.some.injEq] at made
      simp only [Handed.returned.injEq] at returned
      obtain ⟨_, rfl, rfl⟩ := returned
      exact ⟨by rw [← made, length_copied inside.1], inside.2⟩

/-- The length is no negative `int`, and a block that fits its caller is no
longer than the array it stands in. -/
def CopyFits (in_len size : Nat) (length : UInt32) : Prop :=
  length.toNat < 2147483648 ∧ (length.toNat ≤ in_len → length.toNat ≤ size)

instance : Decidable (CopyFits in_len count length) := by
  unfold CopyFits
  infer_instance

theorem int32_toNat (length : UInt32) :
    int32 length.toNat =
      if length.toNat < 2147483648 then (length.toNat : Int) else (length.toNat : Int) - 4294967296 := by
  have small : length.toNat < 4294967296 := length.toNat_lt
  rw [int32, Int.bmod_def]
  split <;> split <;> omega

theorem validated_copyResult_iff {result : Option CjError} (short : area.length < 2147483648) :
    Validated none in_len (copyResult result in_len area length) ↔ CopyFits in_len area.length length := by
  rw [copyResult, int32_toNat]
  by_cases nonnegative : length.toNat < 2147483648
  · rw [if_pos nonnegative]
    by_cases large : (in_len : Int) < length.toNat
    · rw [if_pos large]
      refine iff_of_true (validated_error (by simp)) ⟨nonnegative, ?_⟩
      intro fits
      omega
    · rw [if_neg large, validated_hand_iff]
      constructor
      · rintro ⟨inside, room⟩
        exact ⟨nonnegative, fun _ => by omega⟩
      · rintro ⟨_, fits⟩
        exact ⟨by rw [Nat.zero_add]; exact fits (by omega), by omega⟩
  · have small := length.toNat_lt
    rw [if_neg nonnegative, if_neg (by omega), validated_hand_iff]
    exact iff_of_false (fun copied => by omega) (fun fits => nonnegative fits.1)

/-- An answer to `Escape` that is not too long for the caller is as long as it
says; one whose data nobody takes has none. -/
def EscapeFits (ResponseLen : Option UInt32) (ResponseData : Bool) (Response : CCID_Response) : Prop :=
  ∀ asked, ResponseLen = some asked → Response.bMessageType = 0x83 → Response.dwLength ≤ asked + 4 →
    if ResponseData = false then Response.escapeResult = [0, 0, 0, 0] → Response.dwLength = 4
    else 4 ≤ Response.dwLength ∧ Response.dwLength ≤ 2038

theorem checkEscape_validated {copied : List UInt8} {left : Nat} :
    Validated none capacity (checkEscape Response left copied) ↔
      (Response.escapeResult = [0, 0, 0, 0] → left = copied.length ∧ left ≤ capacity) := by
  rw [checkEscape]
  by_cases refused : Response.escapeResult ≠ [0, 0, 0, 0]
  · rw [if_pos refused]
    exact iff_of_true (validated_error (by simp)) fun accepted => absurd accepted refused
  · rw [if_neg refused]
    have accepted := not_not.mp refused
    constructor
    · intro validated _
      exact validated.2 left copied rfl
    · intro fits
      refine ⟨by simp, ?_⟩
      intro length copied' returned
      cases returned
      exact fits accepted

theorem toNat_sub_four (length : UInt32) :
    (length - 4).toNat = if 4 ≤ length.toNat then length.toNat - 4 else length.toNat + 4294967292 := by
  have small := length.toNat_lt
  rw [UInt32.toNat_sub, UInt32.toNat_ofNat]
  split <;> omega

theorem storeEscape_validated_iff (asked : UInt32) (ResponseData : Bool)
    (type : Response.bMessageType = 0x83) :
    Validated none asked.toNat (storeEscape asked ResponseData Response) ↔
      EscapeFits (some asked) ResponseData Response := by
  have fit : EscapeFits (some asked) ResponseData Response ↔
      (Response.dwLength ≤ asked + 4 →
        if ResponseData = false then Response.escapeResult = [0, 0, 0, 0] → Response.dwLength = 4
        else 4 ≤ Response.dwLength ∧ Response.dwLength ≤ 2038) := by
    constructor
    · intro fits short
      exact fits asked rfl type short
    · rintro fits _ ⟨⟩ _ short
      exact fits short
  rw [fit]
  simp only [storeEscape]
  by_cases large : Response.dwLength > asked + 4
  · rw [if_pos large]
    refine iff_of_true ?_ fun short => absurd large (UInt32.not_lt.mpr short)
    split
    · exact validated_error (by simp)
    · exact validated_error (by simp)
  · rw [if_neg large]
    have short : Response.dwLength ≤ asked + 4 := UInt32.not_lt.mp large
    simp only [short, true_implies]
    have below := UInt32.le_iff_toNat_le.mp short
    have sum : (asked + 4).toNat = (asked.toNat + 4) % 4294967296 := UInt32.toNat_add asked 4
    have left := toNat_sub_four Response.dwLength
    have small := asked.toNat_lt
    have equal : Response.dwLength = 4 ↔ Response.dwLength.toNat = 4 := UInt32.toNat_inj.symm
    have bounds : 4 ≤ Response.dwLength ∧ Response.dwLength ≤ 2038 ↔
        4 ≤ Response.dwLength.toNat ∧ Response.dwLength.toNat ≤ 2038 := by
      rw [UInt32.le_iff_toNat_le, UInt32.le_iff_toNat_le]
      rfl
    by_cases query : ResponseData = false
    · rw [if_pos query, if_pos query, checkEscape_validated, equal]
      apply imp_congr_right
      intro _
      rw [List.length_nil]
      split at left <;> omega
    · rw [if_neg query, if_neg query, bounds]
      have size := Response.abData.length_cells
      cases made : copyOut asked.toNat Response.abData.cells 4 (Response.dwLength - 4).toNat with
      | none =>
          refine iff_of_false (fun validated => validated.1 rfl) fun inside => ?_
          rw [copyOut_eq_none, size] at made
          split at left <;> omega
      | some copied =>
          have inside : 4 + (Response.dwLength - 4).toNat ≤ Response.abData.cells.length ∧
              (Response.dwLength - 4).toNat ≤ asked.toNat := by
            by_contra outside
            rw [copyOut_eq_none.mpr outside] at made
            contradiction
          rw [copyOut_of_room inside.1 inside.2, Option.some.injEq] at made
          refine iff_of_true (checkEscape_validated.mpr fun _ => ⟨?_, inside.2⟩) ?_
          · rw [← made, length_copied inside.1]
          · rw [size] at inside
            split at left <;> omega

theorem Escape_validated_iff (ResponseLen : Option UInt32) (ResponseData : Bool)
    (Response : CCID_Response) :
    Validated none ((ResponseLen.map UInt32.toNat).getD 0) (Escape ResponseLen ResponseData Response) ↔
      EscapeFits ResponseLen ResponseData Response := by
  by_cases type : Response.bMessageType = 0x83
  · cases ResponseLen with
    | none =>
        unfold Escape
        rw [if_neg (not_not.mpr type)]
        refine iff_of_true ?_ (by simp [EscapeFits])
        simp only [Option.map_none, Option.getD_none]
        split
        · exact validated_error (by simp)
        · exact checkEscape_validated.mpr fun _ => ⟨rfl, Nat.le_refl _⟩
    | some asked =>
        unfold Escape
        rw [if_neg (not_not.mpr type)]
        exact storeEscape_validated_iff asked ResponseData type
  · unfold Escape
    rw [if_pos type]
    exact iff_of_true (validated_error (by simp)) fun _ _ same => absurd same type

theorem CCID_Escape_validated_iff (OutputLength : UInt32) (Response : CCID_Response) :
    Validated none OutputLength.toNat (CCID_Escape OutputLength Response) ↔
      (Response.bMessageType = 0x83 → Response.dwLength ≤ OutputLength → Response.dwLength ≤ 2038) := by
  rw [CCID_Escape]
  by_cases type : Response.bMessageType = 0x83
  · rw [if_neg (not_not.mpr type)]
    by_cases large : Response.dwLength > OutputLength
    · rw [if_pos large]
      exact iff_of_true (validated_error (by simp))
        fun _ short => absurd large (UInt32.not_lt.mpr short)
    · have short : Response.dwLength ≤ OutputLength := UInt32.not_lt.mp large
      rw [if_neg large, validated_hand_iff, Response.abData.length_cells, Nat.zero_add]
      simp only [type, short, true_implies]
      rw [UInt32.le_iff_toNat_le]
      exact and_iff_left (UInt32.le_iff_toNat_le.mp short)
  · rw [if_pos type]
    exact iff_of_true (validated_error (by simp)) fun same => absurd same type

/-- The tests of `ExecuteSecureResult` lead to a copy that is a success. -/
def SecureCopies (offs : Nat) (Response : CCID_Response) : Prop :=
  Response.bStatus &&& 0x40 ≠ 0 → secureError offs Response.bError = none ∧
    (Response.bError = 0xC0 ∨ (Response.bStatus &&& 0x02 = 0 ∧ Response.bStatus &&& 0x01 = 0))

theorem secureResult_validated_iff (in_len offs : Nat) (Response : CCID_Response) :
    Validated none in_len (secureResult in_len offs Response) ↔
      (SecureCopies offs Response → CopyFits in_len 2038 Response.dwLength) := by
  have copied (result : Option CjError) :
      Validated none in_len (copyResult result in_len Response.abData.cells Response.dwLength) ↔
        CopyFits in_len 2038 Response.dwLength := by
    have size := Response.abData.length_cells
    rw [validated_copyResult_iff (by omega), size]
  have taken (result : Option CjError) (copies : SecureCopies offs Response) :
      Validated none in_len (copyResult result in_len Response.abData.cells Response.dwLength) ↔
        (SecureCopies offs Response → CopyFits in_len 2038 Response.dwLength) := by
    rw [copied result]
    exact ⟨fun fits _ => fits, fun fits => fits copies⟩
  have refused (error : CjError) (stops : ¬ SecureCopies offs Response) :
      Validated none in_len (Handed.returned (some error) in_len []) ↔
        (SecureCopies offs Response → CopyFits in_len 2038 Response.dwLength) :=
    iff_of_true (validated_error (by simp)) fun copies => absurd copies stops
  rw [secureResult]
  by_cases failed : Response.bStatus &&& 0x40 ≠ 0
  · rw [if_pos failed]
    cases error : secureError offs Response.bError with
    | some reason =>
        refine refused reason fun copies => ?_
        have none := (copies failed).1
        rw [error] at none
        contradiction
    | none =>
        by_cases extended : Response.bError = 0xC0
        · rw [if_pos extended]
          exact taken _ fun _ => ⟨error, .inl extended⟩
        · rw [if_neg extended]
          by_cases absent : Response.bStatus &&& 0x02 ≠ 0
          · rw [if_pos absent]
            exact refused _ fun copies =>
              (copies failed).2.elim extended fun present => absent present.1
          · rw [if_neg absent]
            by_cases inactive : Response.bStatus &&& 0x01 ≠ 0
            · rw [if_pos inactive]
              exact refused _ fun copies =>
                (copies failed).2.elim extended fun present => inactive present.2
            · rw [if_neg inactive]
              exact taken _ fun _ => ⟨error, .inr ⟨not_not.mp absent, not_not.mp inactive⟩⟩
  · rw [if_neg failed]
    exact taken _ fun fails => absurd fails failed

/-- The card is there and active, as far as the slot status says. -/
def CCID_Response.Active (Response : CCID_Response) : Prop :=
  Response.bStatus &&& 0x02 = 0 ∧ Response.bStatus &&& 0x01 = 0

instance : Decidable Response.Active := by
  unfold CCID_Response.Active
  infer_instance

theorem ExecuteSecureResult_validated_iff (in_len offs : Nat) (Response : CCID_Response) :
    Validated none in_len (ExecuteSecureResult in_len offs Response) ↔
      (Response.Active → SecureCopies offs Response → CopyFits in_len 2038 Response.dwLength) := by
  rw [ExecuteSecureResult]
  by_cases absent : Response.bStatus &&& 0x02 ≠ 0
  · rw [if_pos absent]
    exact iff_of_true (validated_error (by simp)) fun active => absurd active.1 absent
  · rw [if_neg absent]
    by_cases inactive : Response.bStatus &&& 0x01 ≠ 0
    · rw [if_pos inactive]
      exact iff_of_true (validated_error (by simp)) fun active => absurd active.2 inactive
    · rw [if_neg inactive, secureResult_validated_iff]
      have active : Response.Active := ⟨not_not.mp absent, not_not.mp inactive⟩
      simp only [active, true_implies]

theorem EC30_ExecuteSecureResult_validated_iff (Info : Option KernelInfo) (in_len offs : Nat)
    (Response : CCID_Response) :
    Validated none in_len (EC30_ExecuteSecureResult Info in_len offs Response) ↔
      ∀ kernel, Info = some kernel → (kernel.UpTo40 → Response.Active) → SecureCopies offs Response →
        CopyFits in_len 2038 Response.dwLength := by
  cases Info with
  | none => exact iff_of_true (validated_error (by simp)) (by simp)
  | some kernel =>
      simp only [EC30_ExecuteSecureResult, Option.some.injEq, forall_eq']
      by_cases old : kernel.UpTo40
      · rw [if_pos old, ExecuteSecureResult_validated_iff]
        simp only [old, true_implies]
      · rw [if_neg old, secureResult_validated_iff]
        simp only [old, false_implies, true_implies]

theorem validated_copyApplication {result : Option CjError} (data : ApplicationData) :
    Validated none in_len (copyResult result in_len data.RespData.cells data.RespDataLen) := by
  have inside : data.RespDataLen.toNat ≤ 1000 := UInt32.le_iff_toNat_le.mp data.inside
  have size := data.RespData.length_cells
  rw [validated_copyResult_iff (by omega), size]
  exact ⟨by omega, fun _ => inside⟩

theorem ExecuteApplSecureResult_validated (Info : Option KernelInfo) (m_ReaderState : ReaderState)
    (Error : UInt8) (ErrorLength in_len offs : Nat) (data : ApplicationData) :
    Validated none in_len
      (ExecuteApplSecureResult Info m_ReaderState Error ErrorLength in_len offs data) := by
  have refused (error : CjError) : Validated none in_len (Handed.returned (some error) in_len []) :=
    validated_error (by simp)
  cases Info with
  | none => exact refused _
  | some kernel =>
      simp only [ExecuteApplSecureResult]
      split
      · exact refused _
      split
      · exact refused _
      split
      · split
        · exact refused _
        · split
          · exact validated_copyApplication data
          split
          · exact refused _
          split
          · exact refused _
          · exact validated_copyApplication data
      · exact validated_copyApplication data

theorem ccidTransmitCopy_validated_iff (response_len : UInt16) (Response : CCID_Response) :
    Validated .success response_len.toNat (ccidTransmitCopy response_len Response) ↔
      (Response.bMessageType = 0x80 → Response.bStatus &&& 0x40 = 0 →
        Response.dwLength.toNat ≤ response_len.toNat → Response.dwLength ≤ 2038) := by
  rw [ccidTransmitCopy]
  by_cases type : Response.bMessageType ≠ 0x80
  · rw [if_pos type]
    exact iff_of_true (validated_error (by simp)) fun same => absurd same type
  rw [if_neg type]
  by_cases failed : Response.bStatus &&& 0x40 ≠ 0
  · rw [if_pos failed]
    refine iff_of_true ?_ fun _ none => absurd none failed
    split
    · exact validated_error (by simp)
    · exact validated_error (by simp)
  rw [if_neg failed]
  by_cases large : Response.dwLength.toNat > response_len.toNat
  · rw [if_pos large]
    exact iff_of_true (validated_error (by simp)) fun _ _ short => absurd large (Nat.not_lt.mpr short)
  · have short : Response.dwLength.toNat ≤ response_len.toNat := Nat.not_lt.mp large
    rw [if_neg large, validated_hand_iff, Response.abData.length_cells, Nat.zero_add]
    simp only [not_not.mp type, not_not.mp failed, short, true_implies, and_true]
    rw [UInt32.le_iff_toNat_le]
    rfl

/-- The functions that copy what a response carries, with the capacity their caller gives. -/
inductive Copier where
  | Escape (ResponseLen : Option UInt32) (ResponseData : Bool)
  | CCID_Escape (OutputLength : UInt32)
  | ExecuteSecureResult (in_len offs : Nat)
  | EC30_ExecuteSecureResult (Info : Option KernelInfo) (in_len offs : Nat)
  | ExecuteApplSecureResult (Info : Option KernelInfo) (m_ReaderState : ReaderState) (Error : UInt8)
      (ErrorLength in_len offs : Nat) (data : ApplicationData)
  | ccidTransmit (response_len : UInt16)

/-- The device's length is validated by the function. -/
def Copier.Validates (Response : CCID_Response) : Copier → Prop
  | .Escape ResponseLen ResponseData =>
      Validated none ((ResponseLen.map UInt32.toNat).getD 0) (Eca.Escape ResponseLen ResponseData Response)
  | .CCID_Escape OutputLength =>
      Validated none OutputLength.toNat (Eca.CCID_Escape OutputLength Response)
  | .ExecuteSecureResult in_len offs =>
      Validated none in_len (Eca.ExecuteSecureResult in_len offs Response)
  | .EC30_ExecuteSecureResult Info in_len offs =>
      Validated none in_len (Eca.EC30_ExecuteSecureResult Info in_len offs Response)
  | .ExecuteApplSecureResult Info m_ReaderState Error ErrorLength in_len offs data =>
      Validated none in_len
        (Eca.ExecuteApplSecureResult Info m_ReaderState Error ErrorLength in_len offs data)
  | .ccidTransmit response_len =>
      Validated .success response_len.toNat (ccidTransmitCopy response_len Response)

/-- The device reports a length that the tests of the function catch or that is true. -/
def Copier.Fits (Response : CCID_Response) : Copier → Prop
  | .Escape ResponseLen ResponseData => EscapeFits ResponseLen ResponseData Response
  | .CCID_Escape OutputLength =>
      Response.bMessageType = 0x83 → Response.dwLength ≤ OutputLength → Response.dwLength ≤ 2038
  | .ExecuteSecureResult in_len offs =>
      Response.Active → SecureCopies offs Response → CopyFits in_len 2038 Response.dwLength
  | .EC30_ExecuteSecureResult Info in_len offs =>
      ∀ kernel, Info = some kernel → (kernel.UpTo40 → Response.Active) → SecureCopies offs Response →
        CopyFits in_len 2038 Response.dwLength
  | .ExecuteApplSecureResult .. => True
  | .ccidTransmit response_len =>
      Response.bMessageType = 0x80 → Response.bStatus &&& 0x40 = 0 →
        Response.dwLength.toNat ≤ response_len.toNat → Response.dwLength ≤ 2038

theorem validates_iff_fits (copier : Copier) (Response : CCID_Response) :
    copier.Validates Response ↔ copier.Fits Response := by
  cases copier with
  | Escape ResponseLen ResponseData => exact Escape_validated_iff ResponseLen ResponseData Response
  | CCID_Escape OutputLength => exact CCID_Escape_validated_iff OutputLength Response
  | ExecuteSecureResult in_len offs => exact ExecuteSecureResult_validated_iff in_len offs Response
  | EC30_ExecuteSecureResult Info in_len offs =>
      exact EC30_ExecuteSecureResult_validated_iff Info in_len offs Response
  | ExecuteApplSecureResult Info m_ReaderState Error ErrorLength in_len offs data =>
      exact iff_of_true
        (ExecuteApplSecureResult_validated Info m_ReaderState Error ErrorLength in_len offs data) trivial
  | ccidTransmit response_len => exact ccidTransmitCopy_validated_iff response_len Response

def reporting (bMessageType : UInt8) (dwLength : UInt32) : CCID_Response where
  bMessageType := bMessageType
  dwLength := dwLength
  bSeq := 0
  bStatus := 0
  bError := 0
  abData := .filled 2038 0

/-- A length that is a negative `int`, one shorter than `Result`, one that
nobody takes the data of and one longer than the message. -/
theorem falseLengths_not_validate :
    ¬ (Copier.ExecuteSecureResult 260 0).Validates (reporting 0x80 0x80000000) ∧
    ¬ (Copier.Escape (some 16) true).Validates (reporting 0x83 0) ∧
    ¬ (Copier.Escape (some 16) false).Validates (reporting 0x83 8) ∧
    ¬ (Copier.CCID_Escape 4096).Validates (reporting 0x83 2039) ∧
    ¬ (Copier.ccidTransmit 4096).Validates (reporting 0x80 2039) := by
  refine ⟨fun validates => ?_, fun validates => ?_, fun validates => ?_, fun validates => ?_,
    fun validates => ?_⟩
  · have fits := (ExecuteSecureResult_validated_iff 260 0 (reporting 0x80 0x80000000)).mp validates
    exact absurd (fits (by decide) (fun failed => absurd rfl failed)).1 (by decide)
  · have fits := (Escape_validated_iff (some 16) true (reporting 0x83 0)).mp validates
    exact absurd (fits 16 rfl rfl (by decide)) (by decide)
  · have fits := (Escape_validated_iff (some 16) false (reporting 0x83 8)).mp validates
    exact absurd (fits 16 rfl rfl (by decide) (by decide)) (by decide)
  · have fits := (CCID_Escape_validated_iff 4096 (reporting 0x83 2039)).mp validates
    exact absurd (fits rfl (by decide)) (by decide)
  · have fits := (ccidTransmitCopy_validated_iff 4096 (reporting 0x80 2039)).mp validates
    exact absurd (fits rfl (by decide) (by decide)) (by decide)

end Cyberjack.Eca
