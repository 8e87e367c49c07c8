import Cyberjack.Eca.DeviceLength

namespace Cyberjack.Eca.Application

open Cyberjack.Foundation

/-! # CtApplicationData

The reply has the bytes that were received; nothing is said of those behind them.
-/

/-- A message of the reader, with the bytes received of `abData`. -/
structure Reply where
  bMessageType : UInt8
  dwLength : UInt32
  data : List UInt8
  short : data.length ≤ 2038

/-- Of an array it counts whether it is there, of a length also its value. -/
structure Caller where
  ResponseData : Bool
  ResponseLen : Option UInt32
  ApplicationError : Bool
  ApplicationErrorLength : Option UInt32

/-- An access that is not allowed. -/
inductive Fault where
  | unreceived
  | overrun
  | nullPointer
deriving Repr, DecidableEq

/-- The result, the lengths that are left and the bytes written. -/
structure Outcome where
  Res : Option CjError
  ResponseLen : Option Nat
  response : List UInt8
  ApplicationErrorLength : Option Nat
  error : List UInt8
deriving Repr, DecidableEq

/-- `Escape` into an array of `room` bytes, of which `asked` are offered. -/
def Escape (InputLen : Nat) (asked : UInt32) (room : Nat) (transferred : Except CjError Reply) :
    Except Fault (Except CjError (List UInt8)) :=
  if InputLen > 1008 then .ok (.error .internalBufferOverflow)
  else
    match transferred with
    | .error Res => .ok (.error Res)
    | .ok Response =>
        let length := (Response.dwLength - 4).toNat
        if Response.bMessageType ≠ 0x83 then .ok (.error .deviceLost)
        else if Response.data.length < 4 then .error .unreceived
        else if Response.dwLength > asked + 4 then .ok (.error .rbufferToSmall)
        else if room < length then .error .overrun
        else if Response.data.length < 4 + length then .error .unreceived
        else if Response.data.take 4 ≠ [0, 0, 0, 0] then .ok (.error .checkResult)
        else .ok (.ok ((Response.data.drop 4).take length))

/-- `wLenRsp` and `wLenErr` of the reply. -/
def wLenRsp (received : List UInt8) : Nat := (received.getD 0 0).toNat + (received.getD 1 0).toNat * 256

def wLenErr (received : List UInt8) : Nat := (received.getD 2 0).toNat + (received.getD 3 0).toNat * 256

namespace Caller

variable (caller : Caller)

/-- `(uint16_t)*ResponseLen` and `(uint16_t)*ApplicationErrorLength`, or 0 -/
def capacity (length : Option UInt32) : Nat := (length.map fun length => length.toNat % 65536).getD 0

/-- `Len` -/
def Len : Nat := 4 + capacity caller.ResponseLen + capacity caller.ApplicationErrorLength

/-- Both lengths are 0, where they are there. -/
def refused (Res : CjError) (error : List UInt8) : Outcome where
  Res := some Res
  ResponseLen := caller.ResponseLen.map fun _ => 0
  response := []
  ApplicationErrorLength := caller.ApplicationErrorLength.map fun _ => 0
  error := error

/-- `if(ApplicationErrorLength)`; what is refused there sets `*ResponseLen`, too. -/
def storeError (received : List UInt8) (behind : List UInt8 → Except Fault Outcome) : Except Fault Outcome :=
  match caller.ApplicationErrorLength with
  | none => behind []
  | some capacity =>
      if wLenErr received > capacity.toNat then
        if caller.ResponseLen = none then .error .nullPointer else .ok (caller.refused .rbufferToSmall [])
      else if wLenErr received = 0 then behind []
      else if caller.ApplicationError = false then .error .nullPointer
      else if received.length < 4 + wLenRsp received + wLenErr received then .error .unreceived
      else behind ((received.drop (4 + wLenRsp received)).take (wLenErr received))

/-- `if(ResponseLen)`; what is refused there sets `*ApplicationErrorLength`, too. -/
def storeResponse (received error : List UInt8) : Except Fault Outcome :=
  let stored (ResponseLen : Option Nat) (response : List UInt8) : Outcome :=
    ⟨none, ResponseLen, response, caller.ApplicationErrorLength.map fun _ => wLenErr received, error⟩
  match caller.ResponseLen with
  | none => .ok (stored none [])
  | some capacity =>
      if wLenRsp received > capacity.toNat then
        if caller.ApplicationErrorLength = none then .error .nullPointer else .ok (caller.refused .rbufferToSmall error)
      else if wLenRsp received = 0 then .ok (stored (some 0) [])
      else if caller.ResponseData = false then .error .nullPointer
      else if received.length < 4 + wLenRsp received then .error .unreceived
      else .ok (stored (some (wLenRsp received)) ((received.drop 4).take (wLenRsp received)))

end Caller

/-- The array for the reply is replaced where it is too small. -/
def responseRoom (m_nApplicationResponseLength Len : Nat) : Nat :=
  if m_nApplicationResponseLength < Len then Len + 1024 else m_nApplicationResponseLength

def CtApplicationData (m_nApplicationResponseLength InputLen : Nat) (caller : Caller)
    (transferred : Except CjError Reply) : Except Fault Outcome :=
  match Escape InputLen (UInt32.ofNat caller.Len) (responseRoom m_nApplicationResponseLength caller.Len) transferred with
  | .error fault => .error fault
  | .ok (.error Res) => .ok (caller.refused Res [])
  | .ok (.ok received) =>
      if received.length < 4 then .error .unreceived
      else caller.storeError received (caller.storeResponse received)

/-- No access is wrong, what is written fits, and the lengths are those of what is written. -/
def Right (caller : Caller) (made : Except Fault Outcome) : Prop :=
  ∃ outcome, made = .ok outcome ∧
    outcome.response.length ≤ (caller.ResponseLen.getD 0).toNat ∧
    outcome.error.length ≤ (caller.ApplicationErrorLength.getD 0).toNat ∧
    outcome.ResponseLen = caller.ResponseLen.map (fun _ => outcome.response.length) ∧
    outcome.ApplicationErrorLength = caller.ApplicationErrorLength.map (fun _ => outcome.error.length)

/-! ## Replies that fit -/

/-- The error of the reply is there and the caller takes it, or the response is asked for, too. -/
def ErrorFits (caller : Caller) (received : List UInt8) : Prop :=
  ∀ capacity, caller.ApplicationErrorLength = some capacity →
    if wLenErr received ≤ capacity.toNat then
      wLenErr received ≠ 0 →
        caller.ApplicationError = true ∧ 4 + wLenRsp received + wLenErr received ≤ received.length
    else caller.ResponseLen ≠ none

/-- The response of the reply is there and the caller takes it, or an error is asked for and there is none. -/
def ResponseFits (caller : Caller) (received : List UInt8) : Prop :=
  ∀ capacity, caller.ResponseLen = some capacity →
    if wLenRsp received ≤ capacity.toNat then
      wLenRsp received ≠ 0 → caller.ResponseData = true ∧ 4 + wLenRsp received ≤ received.length
    else caller.ApplicationErrorLength ≠ none ∧ wLenErr received = 0

/-- What the function looks at in the data behind `Result`. -/
structure DataFits (caller : Caller) (received : List UInt8) : Prop where
  lengths : 4 ≤ received.length
  error : ErrorFits caller received
  response : (∀ capacity, caller.ApplicationErrorLength = some capacity → wLenErr received ≤ capacity.toNat) →
    ResponseFits caller received

/-- A reply that is not refused has `Result` and as many bytes as it says. -/
structure ReplyFits (caller : Caller) (reply : Reply) : Prop where
  result : 4 ≤ reply.data.length
  counted : reply.dwLength.toNat ≤ caller.Len + 4 → 4 ≤ reply.dwLength.toNat ∧ reply.dwLength.toNat ≤ reply.data.length
  data : reply.dwLength.toNat ≤ caller.Len + 4 → reply.data.take 4 = [0, 0, 0, 0] →
    DataFits caller ((reply.data.drop 4).take (reply.dwLength.toNat - 4))

/-- The reply fits, where there is one. -/
def Fits (InputLen : Nat) (caller : Caller) (transferred : Except CjError Reply) : Prop :=
  ∀ reply, InputLen ≤ 1008 → transferred = .ok reply → reply.bMessageType = 0x83 → ReplyFits caller reply

variable {caller : Caller} {received error : List UInt8} {InputLen : Nat} {asked : UInt32} {room : Nat}
  {transferred : Except CjError Reply} {reply : Reply}

theorem not_right {fault : Fault} : ¬ Right caller (.error fault) := fun ⟨_, made, _⟩ => nomatch made

theorem refused_right (Res : CjError) : Right caller (.ok (caller.refused Res [])) :=
  ⟨_, rfl, Nat.zero_le _, Nat.zero_le _, rfl, rfl⟩

/-- The bytes of the error that have been written in front of the response. -/
structure ErrorWritten (caller : Caller) (received error : List UInt8) : Prop where
  fits : error.length ≤ (caller.ApplicationErrorLength.getD 0).toNat
  length : caller.ApplicationErrorLength ≠ none → error.length = wLenErr received

theorem storeResponse_right_iff (written : ErrorWritten caller received error) :
    Right caller (caller.storeResponse received error) ↔ ResponseFits caller received := by
  have lengths : caller.ApplicationErrorLength.map (fun _ => wLenErr received) =
      caller.ApplicationErrorLength.map fun _ => error.length := by
    cases errors : caller.ApplicationErrorLength with
    | none => rfl
    | some capacity =>
        rw [written.length (by rw [errors]; exact nofun)]
  rw [Caller.storeResponse, ResponseFits, lengths]
  cases asked : caller.ResponseLen with
  | none =>
      refine iff_of_true ⟨_, rfl, Nat.zero_le _, written.fits, ?_, rfl⟩ nofun
      rw [asked]
      rfl
  | some capacity =>
      simp only [Option.some.injEq, forall_eq']
      by_cases large : wLenRsp received > capacity.toNat
      · rw [if_pos large, if_neg (Nat.not_le.mpr large)]
        by_cases missing : caller.ApplicationErrorLength = none
        · rw [if_pos missing]
          exact iff_of_false not_right fun fits => fits.1 missing
        · rw [if_neg missing, and_iff_right missing, ← written.length missing]
          constructor
          · intro right
            obtain ⟨outcome, made, _, _, _, left⟩ := right
            cases made
            obtain ⟨capacity, errors⟩ := Option.ne_none_iff_exists'.mp missing
            rw [Caller.refused, errors] at left
            exact (Option.some.inj left).symm
          · intro none
            refine ⟨_, rfl, Nat.zero_le _, written.fits, rfl, ?_⟩
            simp only [Caller.refused, none]
      · rw [if_neg large, if_pos (Nat.not_lt.mp large)]
        by_cases empty : wLenRsp received = 0
        · rw [if_pos empty]
          refine iff_of_true ⟨_, rfl, Nat.zero_le _, written.fits, ?_, rfl⟩ fun some => absurd empty some
          rw [asked]
          rfl
        · rw [if_neg empty, forall_prop_of_true empty]
          by_cases null : caller.ResponseData = false
          · rw [if_pos null]
            refine iff_of_false not_right fun fits => ?_
            rw [null] at fits
            exact absurd fits.1 (by decide)
          · rw [if_neg null]
            by_cases short : received.length < 4 + wLenRsp received
            · rw [if_pos short]
              exact iff_of_false not_right fun fits => by omega
            · rw [if_neg short]
              have length : ((received.drop 4).take (wLenRsp received)).length = wLenRsp received :=
                length_copied (Nat.not_lt.mp short)
              refine iff_of_true ⟨_, rfl, ?_, written.fits, ?_, rfl⟩ ⟨eq_true_of_ne_false null, by omega⟩
              · rw [length, asked]
                exact Nat.not_lt.mp large
              · rw [length, asked]
                rfl

theorem storeError_right_iff :
    Right caller (caller.storeError received (caller.storeResponse received)) ↔
      ErrorFits caller received ∧
        ((∀ capacity, caller.ApplicationErrorLength = some capacity → wLenErr received ≤ capacity.toNat) →
          ResponseFits caller received) := by
  rw [Caller.storeError, ErrorFits]
  cases errors : caller.ApplicationErrorLength with
  | none =>
      have written : ErrorWritten caller received [] := ⟨Nat.zero_le _, fun some => absurd errors some⟩
      rw [and_iff_right nofun, forall_prop_of_true nofun]
      exact storeResponse_right_iff written
  | some capacity =>
      simp only [Option.some.injEq, forall_eq']
      by_cases large : wLenErr received > capacity.toNat
      · rw [if_pos large, if_neg (Nat.not_le.mpr large)]
        by_cases missing : caller.ResponseLen = none
        · rw [if_pos missing]
          exact iff_of_false not_right fun fits => fits.1 missing
        · rw [if_neg missing]
          exact iff_of_true (refused_right _) ⟨missing, fun taken => absurd taken (Nat.not_le.mpr large)⟩
      · have taken := Nat.not_lt.mp large
        rw [if_neg large, if_pos taken, forall_prop_of_true taken]
        by_cases empty : wLenErr received = 0
        · have written : ErrorWritten caller received [] := ⟨Nat.zero_le _, fun _ => empty.symm⟩
          rw [if_pos empty, and_iff_right fun some => absurd empty some]
          exact storeResponse_right_iff written
        · rw [if_neg empty, forall_prop_of_true empty]
          by_cases null : caller.ApplicationError = false
          · rw [if_pos null]
            refine iff_of_false not_right fun fits => ?_
            rw [null] at fits
            exact absurd fits.1.1 (by decide)
          · rw [if_neg null, and_iff_right (eq_true_of_ne_false null)]
            by_cases short : received.length < 4 + wLenRsp received + wLenErr received
            · rw [if_pos short]
              exact iff_of_false not_right fun fits => by omega
            · have length : ((received.drop (4 + wLenRsp received)).take (wLenErr received)).length = wLenErr received :=
                length_copied (Nat.not_lt.mp short)
              have written : ErrorWritten caller received
                  ((received.drop (4 + wLenRsp received)).take (wLenErr received)) := by
                refine ⟨?_, fun _ => length⟩
                rw [length, errors]
                exact taken
              rw [if_neg short, and_iff_right (Nat.not_lt.mp short)]
              exact storeResponse_right_iff written

theorem Caller.capacity_le (length : Option UInt32) : Caller.capacity length ≤ 65535 := by
  cases length with
  | none => exact Nat.zero_le _
  | some length =>
      have small := Nat.mod_lt length.toNat (show 0 < 65536 by decide)
      change length.toNat % 65536 ≤ 65535
      omega

theorem Caller.Len_le : caller.Len ≤ 131074 := by
  have response := Caller.capacity_le caller.ResponseLen
  have error := Caller.capacity_le caller.ApplicationErrorLength
  rw [Caller.Len]
  omega

theorem le_responseRoom (length Len : Nat) : Len ≤ responseRoom length Len := by
  rw [responseRoom]
  split
  · omega
  · omega

/-- What the array offers and the reply says, as numbers. -/
theorem too_long_iff : reply.dwLength > UInt32.ofNat caller.Len + 4 ↔ caller.Len + 4 < reply.dwLength.toNat := by
  have small := caller.Len_le
  rw [gt_iff_lt, UInt32.lt_iff_toNat_lt, UInt32.toNat_add, UInt32.toNat_ofNat']
  change (caller.Len % 4294967296 + 4) % 4294967296 < _ ↔ _
  omega

/-- A reply that is taken has the bytes it says. -/
theorem Escape_taken (type : reply.bMessageType = 0x83) (short : InputLen ≤ 1008) (result : 4 ≤ reply.data.length)
    (taken : reply.dwLength.toNat ≤ caller.Len + 4) (offered : caller.Len ≤ room) :
    Escape InputLen (UInt32.ofNat caller.Len) room (.ok reply) =
      if 4 ≤ reply.dwLength.toNat ∧ reply.dwLength.toNat ≤ reply.data.length then
        if reply.data.take 4 ≠ [0, 0, 0, 0] then .ok (.error .checkResult)
        else .ok (.ok ((reply.data.drop 4).take (reply.dwLength.toNat - 4)))
      else if room < (reply.dwLength - 4).toNat then .error .overrun
      else .error .unreceived := by
  have size := reply.short
  have left := toNat_sub_four reply.dwLength
  have fits : ¬ reply.dwLength > UInt32.ofNat caller.Len + 4 := fun long => by
    have large := too_long_iff.mp long
    omega
  rw [Escape, if_neg (Nat.not_lt.mpr short)]
  dsimp only
  rw [if_neg (not_not.mpr type), if_neg (Nat.not_lt.mpr result), if_neg fits]
  by_cases counted : 4 ≤ reply.dwLength.toNat ∧ reply.dwLength.toNat ≤ reply.data.length
  · rw [if_pos counted.1] at left
    rw [if_pos counted, left, if_neg (by omega), if_neg (by omega)]
  · rw [if_neg counted]
    by_cases overrun : room < (reply.dwLength - 4).toNat
    · rw [if_pos overrun, if_pos overrun]
    · have behind : reply.data.length < 4 + (reply.dwLength - 4).toNat := by
        rw [left]
        split
        · omega
        · omega
      rw [if_neg overrun, if_neg overrun, if_pos behind]

/-- Where all that is looked at has been received, this is `Escape` of the message that the reply begins. -/
theorem Escape_agrees {Response : CCID_Response} (begins : Response.abData.cells.take reply.data.length = reply.data)
    (type : Response.bMessageType = reply.bMessageType) (length : Response.dwLength = reply.dwLength)
    (short : InputLen ≤ 1008) (result : 4 ≤ reply.data.length)
    (inside : ¬ reply.dwLength > asked + 4 → 4 + (reply.dwLength - 4).toNat ≤ reply.data.length) :
    Escape InputLen asked asked.toNat (.ok reply) = .ok (.ok received) ↔
      Eca.Escape (some asked) true Response = .returned none received.length received := by
  have cells := Response.abData.length_cells
  have size := reply.short
  have same : Response.escapeResult = reply.data.take 4 := by
    rw [← begins, List.take_take, Nat.min_eq_left result]
    rfl
  rw [Escape, if_neg (Nat.not_lt.mpr short), Eca.Escape, type]
  dsimp only
  by_cases other : reply.bMessageType ≠ 0x83
  · rw [if_pos other, if_pos other]
    apply iff_of_false
    · intro taken
      cases taken
    · intro returned
      cases returned
  · rw [if_neg other, if_neg other, if_neg (Nat.not_lt.mpr result), storeEscape, length]
    by_cases long : reply.dwLength > asked + 4
    · rw [if_pos long, if_pos long]
      apply iff_of_false
      · intro taken
        cases taken
      · intro returned
        cases returned
    · have behind := inside long
      have bytes : (Response.abData.cells.drop 4).take (reply.dwLength - 4).toNat =
          (reply.data.drop 4).take (reply.dwLength - 4).toNat := by
        rw [← begins, List.drop_take, List.take_take, Nat.min_eq_left (by omega)]
      rw [if_neg long, if_neg long, if_neg (show ¬ true = false by decide)]
      by_cases overrun : asked.toNat < (reply.dwLength - 4).toNat
      · rw [if_pos overrun, copyOut_eq_none.mpr fun both => Nat.not_lt.mpr both.2 overrun]
        apply iff_of_false
        · intro taken
          cases taken
        · intro returned
          cases returned
      · rw [if_neg overrun, if_neg (Nat.not_lt.mpr behind), copyOut_of_room (by omega) (Nat.not_lt.mp overrun), bytes]
        dsimp only
        rw [checkEscape, same]
        by_cases success : reply.data.take 4 = [0, 0, 0, 0]
        · rw [if_neg (not_not.mpr success), if_neg (not_not.mpr success)]
          constructor
          · intro taken
            cases taken
            rw [length_copied behind]
          · intro returned
            injection returned with _ _ same
            rw [same]
        · rw [if_pos success, if_pos success]
          apply iff_of_false
          · intro taken
            cases taken
          · intro returned
            cases returned

theorem Escape_refused (type : reply.bMessageType = 0x83) (short : InputLen ≤ 1008) (result : 4 ≤ reply.data.length)
    (long : caller.Len + 4 < reply.dwLength.toNat) :
    Escape InputLen (UInt32.ofNat caller.Len) room (.ok reply) = .ok (.error .rbufferToSmall) := by
  rw [Escape, if_neg (Nat.not_lt.mpr short)]
  dsimp only
  rw [if_neg (not_not.mpr type), if_neg (Nat.not_lt.mpr result), if_pos (too_long_iff.mpr long)]

theorem replyFits_of_long (result : 4 ≤ reply.data.length) (long : caller.Len + 4 < reply.dwLength.toNat) :
    ReplyFits caller reply :=
  ⟨result, fun taken => absurd taken (Nat.not_le.mpr long), fun taken => absurd taken (Nat.not_le.mpr long)⟩

/-- A reply to a request that was sent. -/
theorem reply_right_iff (m_nApplicationResponseLength : Nat) (short : InputLen ≤ 1008)
    (type : reply.bMessageType = 0x83) :
    Right caller (CtApplicationData m_nApplicationResponseLength InputLen caller (.ok reply)) ↔
      ReplyFits caller reply := by
  rw [CtApplicationData]
  by_cases result : 4 ≤ reply.data.length
  · by_cases taken : reply.dwLength.toNat ≤ caller.Len + 4
    · rw [Escape_taken type short result taken (le_responseRoom m_nApplicationResponseLength caller.Len)]
      by_cases counted : 4 ≤ reply.dwLength.toNat ∧ reply.dwLength.toNat ≤ reply.data.length
      · rw [if_pos counted]
        by_cases success : reply.data.take 4 = [0, 0, 0, 0]
        · rw [if_neg (not_not.mpr success)]
          dsimp only
          have fits : ReplyFits caller reply ↔
              DataFits caller ((reply.data.drop 4).take (reply.dwLength.toNat - 4)) :=
            ⟨fun fits => fits.data taken success, fun fits => ⟨result, fun _ => counted, fun _ _ => fits⟩⟩
          rw [fits]
          generalize (reply.data.drop 4).take (reply.dwLength.toNat - 4) = received
          by_cases empty : received.length < 4
          · rw [if_pos empty]
            exact iff_of_false not_right fun fits => absurd fits.lengths (Nat.not_le.mpr empty)
          · rw [if_neg empty, storeError_right_iff]
            exact ⟨fun fits => ⟨Nat.not_lt.mp empty, fits.1, fits.2⟩, fun fits => ⟨fits.error, fits.response⟩⟩
        · rw [if_pos success]
          exact iff_of_true (refused_right _) ⟨result, fun _ => counted, fun _ same => absurd same success⟩
      · rw [if_neg counted]
        refine iff_of_false ?_ fun fits => counted (fits.counted taken)
        split
        · exact not_right
        · case h_2 stored =>
            split at stored
            · cases stored
            · cases stored
        · case h_3 stored =>
            split at stored
            · cases stored
            · cases stored
    · have long := Nat.not_le.mp taken
      rw [Escape_refused type short result long]
      exact iff_of_true (refused_right _) (replyFits_of_long result long)
  · have unreceived : Escape InputLen (UInt32.ofNat caller.Len)
        (responseRoom m_nApplicationResponseLength caller.Len) (.ok reply) = .error .unreceived := by
      rw [Escape, if_neg (Nat.not_lt.mpr short)]
      dsimp only
      rw [if_neg (not_not.mpr type), if_pos (Nat.not_le.mp result)]
    rw [unreceived]
    exact iff_of_false not_right fun fits => result fits.result

/-- The reply is handled right exactly where its lengths agree with each other, with the bytes received and
with what the caller passes. -/
theorem application_right_iff (m_nApplicationResponseLength InputLen : Nat) (caller : Caller)
    (transferred : Except CjError Reply) :
    Right caller (CtApplicationData m_nApplicationResponseLength InputLen caller transferred) ↔
      Fits InputLen caller transferred := by
  by_cases short : InputLen ≤ 1008
  · cases transferred with
    | error Res =>
        rw [CtApplicationData, Escape, if_neg (Nat.not_lt.mpr short)]
        exact iff_of_true (refused_right _) fun _ _ made => nomatch made
    | ok reply =>
        by_cases type : reply.bMessageType = 0x83
        · rw [reply_right_iff m_nApplicationResponseLength short type]
          constructor
          · intro fits other _ same _
            cases same
            exact fits
          · intro fits
            exact fits reply short rfl type
        · rw [CtApplicationData, Escape, if_neg (Nat.not_lt.mpr short)]
          dsimp only
          rw [if_pos type]
          refine iff_of_true (refused_right _) ?_
          intro other _ same other_type
          cases same
          exact absurd other_type type
  · rw [CtApplicationData, Escape.eq_def, if_pos (Nat.not_le.mp short)]
    exact iff_of_true (refused_right _) fun _ fits => absurd fits short

/-- A reply without data that announces some. -/
def announcing (count : UInt8) : Reply := ⟨0x83, 8, [0, 0, 0, 0, count, 0, 0, 0], Nat.le_of_ble_eq_true rfl⟩

/-- A response of 17 bytes is announced to a caller with room for 16 and without an error; one of 16 bytes is
announced and not sent. -/
theorem announced_not_right :
    let plain : Caller := ⟨true, some 16, false, none⟩
    CtApplicationData 0 0 plain (.ok (announcing 17)) = .error .nullPointer ∧
      CtApplicationData 0 0 plain (.ok (announcing 16)) = .error .unreceived ∧
      ¬ Right plain (CtApplicationData 0 0 plain (.ok (announcing 17))) ∧
      ¬ Right plain (CtApplicationData 0 0 plain (.ok (announcing 16))) := by
  have null : CtApplicationData 0 0 ⟨true, some 16, false, none⟩ (.ok (announcing 17)) = .error .nullPointer := by
    decide +kernel
  have unreceived : CtApplicationData 0 0 ⟨true, some 16, false, none⟩ (.ok (announcing 16)) = .error .unreceived := by
    decide +kernel
  refine ⟨null, unreceived, ?_, ?_⟩
  · rw [null]
    exact not_right
  · rw [unreceived]
    exact not_right

end Cyberjack.Eca.Application
