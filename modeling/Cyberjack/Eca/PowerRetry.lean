import Cyberjack.Eca.AtrAlone

namespace Cyberjack.Eca.Retry

open Cyberjack.Foundation

/-! # The retry of a reset

The loop of `CEC30Reader::IfdPower` with what it hands to the caller, and what
`AnalyseATR` makes of the last ATR.
-/

/-- An activation that is answered with an ATR. -/
structure Activation where
  warm : Bool
  /-- Behind the transfer. -/
  before : Session
  Response : CCID_Response

/-- What the caller and the reader object have of a reset. -/
structure Reset where
  result : RSCT_IFD_RESULT
  ATR : List UInt8
  session : Session
  members : InterfaceBytes
  /-- The activation that the loop ends with, if it comes with an ATR. -/
  last : Option Activation

namespace Activation

/-- The ATR of the card. -/
def ATR (activation : Activation) : List UInt8 :=
  activation.Response.abData.cells.take (min activation.Response.dwLength.toNat 33)

def stored (activation : Activation) : Session :=
  { activation.before with reader := storeATR activation.Response activation.before.reader }

end Activation

/-- `m_ReaderState`, `m_PossibleProtocols` and `m_ActiveProtocol` in front of `SetSyncParameters`. -/
def synced (session : Session) : Session :=
  { session with reader := { session.reader with
    m_PossibleProtocols := SCARD_PROTOCOL_RAW
    m_ActiveProtocol := SCARD_PROTOCOL_RAW
    m_ReaderState := .specific } }

variable (around : Surroundings)

/-- The members for the interface bytes behind `AnalyseATR`. -/
def interfaceMembers (warm : Bool) (reader : CCCIDReader) : InterfaceBytes :=
  let atr := reader.atr around.beyond
  if reader.m_ATR_Length > 0 ∧ IsIso (atr 0) ∧ check_len atr reader.m_ATR_Length = 1 then
    -- from the array, which is longer than the bytes that are looked at
    ((scanInterface? reader.m_ATR.cells reader.m_ApduNorm warm).map InterfaceScan.members).getD .default
  else .default

/-- The loop of `powerOn`, with its caller's `ATR` and the members. -/
def resetLoop : Nat → Bool → Session → InterfaceBytes → Option Reset
  | 0, _, _, _ => none
  | passes + 1, warm, session, members =>
      match session.transfer around.inputBufferSize ⟨PC_TO_RDR_ICCPOWERON, 4⟩ with
      | none => none
      | some (none, session) => some ⟨.deviceNotConnected, [], session, members, none⟩
      | some (some Response, session) =>
          if Response.bMessageType ≠ RDR_TO_PC_DATABLOCK then
            some ⟨.deviceNotConnected, [], session, members, none⟩
          else if Response.bStatus &&& 0x40 ≠ 0 then
            some ⟨powerError Response.bError, [], session, members, none⟩
          else
            let activation : Activation := ⟨warm, session, Response⟩
            let members := interfaceMembers around warm activation.stored.reader
            match AnalyseATR around warm activation.stored with
            | none => none
            | some (error, session) =>
                if error = 1 then resetLoop passes true session members
                else some ⟨.success, activation.ATR, session, members, some activation⟩

/-- `IfdPower` with `SCARD_COLD_RESET` or `SCARD_WARM_RESET`. -/
def IfdPowerReset (session : Session) (members : InterfaceBytes) : Option Reset :=
  match powerDown around session with
  | none => none
  | some (_, session) => resetLoop around (session.exchanges.length + 1) false session members

/-- How often the loop sends PC_TO_RDR_ICCPOWERON, also where it waits for an answer. -/
def activations : Nat → Bool → Session → Nat
  | 0, _, _ => 0
  | passes + 1, warm, session =>
      match session.transfer around.inputBufferSize ⟨PC_TO_RDR_ICCPOWERON, 4⟩ with
      | some (some Response, session) =>
          if Response.bMessageType ≠ RDR_TO_PC_DATABLOCK then 1
          else if Response.bStatus &&& 0x40 ≠ 0 then 1
          else
            match AnalyseATR around warm ⟨storeATR Response session.reader, session.exchanges, session.accepted⟩ with
            | none => 1
            | some (error, session) => if error = 1 then 1 + activations passes true session else 1
      | _ => 1

namespace Activation

/-- The ATR as `AnalyseATR` comes upon it. -/
def atr (activation : Activation) : StoredAtr :=
  ⟨activation.stored.reader.atr around.beyond, activation.stored.reader.m_ATR_Length, Nat.min_le_right _ _⟩

/-- It is an ATR of ISO 7816. -/
def Iso (activation : Activation) : Prop :=
  0 < (activation.atr around).length ∧ IsIso ((activation.atr around).memory 0)

def m_ApduNorm (activation : Activation) : ApduNorm := activation.before.reader.m_ApduNorm

def scan (activation : Activation) : AtrScan :=
  scanATR (activation.atr around).memory (activation.atr around).length activation.m_ApduNorm activation.warm

/-- `AnalyseATR` powers the card down again. -/
def PoweredDown (activation : Activation) : Prop :=
  activation.Iso around ∧
    ((activation.scan around).error = 2 ∨ ((activation.scan around).error = 1 ∧ activation.warm = true))

end Activation

/-- The caller and the reader object have the last ATR and what is derived from it alone. -/
structure Right (activation : Activation) (reset : Reset) : Prop where
  given : reset.ATR = activation.ATR
  stored : ¬ activation.PoweredDown around → reset.session.reader.m_ATR_Length = activation.ATR.length ∧
    reset.session.reader.storedATR = activation.ATR
  alone : activation.Iso around → (activation.atr around).DecidesAlone
  derived : derivedFrom activation.m_ApduNorm activation.warm (decide (activation.atr around).Accepted) activation.ATR =
    some ⟨reset.session.reader.m_PossibleProtocols, reset.session.reader.m_ActiveProtocol, reset.members⟩

/-- What a reset should do. -/
structure ResetRight (session : Session) (members : InterfaceBytes) : Prop where
  twice : ∀ result off, powerDown around session = some (result, off) →
    ∀ passes, activations around passes false off ≤ 2
  right : ∀ reset, IfdPowerReset around session members = some reset → reset.result = .success →
    ∃ activation, reset.last = some activation ∧ Right around activation reset

/-- An ATR that is not mistaken for an earlier one, and a memory card that stays active. -/
structure Activation.Plain (activation : Activation) : Prop where
  empty : activation.ATR = [] → activation.before.reader.atr around.beyond 0 ≠ 0x41
  keeps : activation.Iso around → (activation.atr around).KeepsToItself activation.m_ApduNorm activation.warm
  active : activation.ATR.length = 4 → IsSync ((activation.atr around).memory 0) → ∀ Response after,
    (synced activation.stored.powered).transfer around.inputBufferSize ⟨PC_TO_RDR_SETPARAMETERS, 3⟩ =
      some (some Response, after) → Response.slot = 0

/-! ## AnalyseATR -/

variable {around : Surroundings} {session after : Session} {members : InterfaceBytes} {error passes : Nat}
  {warm : Bool} {scan : AtrScan}

/-- The ATR is kept, and these protocols are stored. -/
structure Holds (before after : CCCIDReader) (protocols : UInt32 × UInt32) : Prop where
  atr : after.m_ATR = before.m_ATR
  length : after.m_ATR_Length = before.m_ATR_Length
  possible : after.m_PossibleProtocols = protocols.1
  active : after.m_ActiveProtocol = protocols.2

theorem judgeATR_right (right : scan.error = 0)
    (specific : scan.specific = true → scan.TD1 &&& 0x0f = 0 ∨ scan.TD1 &&& 0x0f = 1)
    (made : judgeATR around scan session.powered = some (error, after)) :
    error = 0 ∧ Holds session.reader after.reader scan.protocols := by
  unfold judgeATR at made
  dsimp only at made
  rw [if_pos right] at made
  rw [AtrScan.protocols, if_pos right]
  by_cases set : scan.specific = true
  · rw [if_pos set] at made ⊢
    by_cases first : scan.TD1 &&& 0x0f = 0
    · rw [if_pos first] at made ⊢
      cases made
      exact ⟨rfl, rfl, rfl, rfl, rfl⟩
    · rw [if_neg first, if_pos ((specific set).resolve_left first)] at made
      rw [if_neg first]
      cases made
      exact ⟨rfl, rfl, rfl, rfl, rfl⟩
  · rw [if_neg set] at made ⊢
    cases made
    have clear : session.powered.reader.m_PossibleProtocols = 0 := rfl
    refine ⟨rfl, ?_, ?_, ?_, ?_⟩
    · split <;> split <;> rfl
    · split <;> split <;> rfl
    · split <;> split <;> simp only [clear, UInt32.zero_or, UInt32.or_zero]
    · split <;> split <;> rfl

/-- An ATR of ISO 7816 is powered down again, or its protocols are stored. -/
theorem analysed_iso (present : 0 < session.reader.m_ATR_Length) (iso : IsIso (session.reader.atr around.beyond 0))
    (found : scanATR (session.reader.atr around.beyond) session.reader.m_ATR_Length session.reader.m_ApduNorm warm = scan)
    (made : AnalyseATR around warm session = some (error, after)) :
    ((scan.error = 2 ∨ (scan.error = 1 ∧ warm = true)) ∧ error = 2 ∧
      ∃ sent, session.powered.transfer around.inputBufferSize ⟨PC_TO_RDR_ICCPOWEROFF, 4⟩ = some (sent, after)) ∨
    (¬ (scan.error = 2 ∨ (scan.error = 1 ∧ warm = true)) ∧ error = scan.error ∧
      Holds session.reader after.reader scan.protocols) := by
  have specific : scan.error = 0 → scan.specific = true → scan.TD1 &&& 0x0f = 0 ∨ scan.TD1 &&& 0x0f = 1 := by
    rw [← found]
    exact scanATR_specific
  have powered : AnalyseATR around warm session =
      if scan.error = 2 ∨ (scan.error = 1 ∧ warm = true) then
        match powerDown around session.powered with
        | none => none
        | some (_, session) => judgeATR around { scan with error := 2 } session
      else judgeATR around scan session.powered := by
    rw [← found]
    exact if_pos ⟨present, iso⟩
  rw [powered] at made
  by_cases wrong : scan.error = 2 ∨ (scan.error = 1 ∧ warm = true)
  · rw [if_pos wrong] at made
    cases off : powerDown around session.powered with
    | none =>
        rw [off] at made
        contradiction
    | some found =>
        obtain ⟨result, between⟩ := found
        obtain ⟨sent, transferred, _⟩ := powerDown_transfer off
        have first : between.reader.atr around.beyond 0 = session.reader.atr around.beyond 0 := by
          rw [CCCIDReader.atr, CCCIDReader.atr, transfer_atr transferred]
          rfl
        have judged : judgeATR around { scan with error := 2 } between = some (2, between) := by
          apply judgeATR_error (Nat.succ_ne_zero 1)
          rw [first]
          exact iso
        rw [off] at made
        dsimp only at made
        rw [judged] at made
        cases made
        exact .inl ⟨wrong, rfl, sent, transferred⟩
  · rw [if_neg wrong] at made
    refine .inr ⟨wrong, ?_⟩
    by_cases right : scan.error = 0
    · rw [right]
      exact judgeATR_right right (specific right) made
    · have judged : judgeATR around scan session.powered = some (scan.error, session.powered) :=
        judgeATR_error right iso
      rw [judged] at made
      cases made
      rw [AtrScan.protocols, if_neg right]
      exact ⟨rfl, rfl, rfl, rfl, rfl⟩

/-- Another ATR stands for a memory card, or for nothing. -/
theorem analysed_other (other : ¬ (session.reader.m_ATR_Length > 0 ∧ IsIso (session.reader.atr around.beyond 0)))
    (made : AnalyseATR around warm session = some (error, after)) :
    error = 2 ∧
      if session.reader.m_ATR_Length = 4 ∧ IsSync (session.reader.atr around.beyond 0) then
        ∃ found, (synced session.powered).transfer around.inputBufferSize ⟨PC_TO_RDR_SETPARAMETERS, 3⟩ =
          some (found, after)
      else if session.reader.m_ATR_Length = 4 ∧ IsMemory (session.reader.atr around.beyond 0) ∨
          session.reader.atr around.beyond 0 = 0x41 then
        Holds session.reader after.reader (SCARD_PROTOCOL_RAW, SCARD_PROTOCOL_RAW)
      else Holds session.reader after.reader (0, 0) := by
  have judged : AnalyseATR around warm session = judgeATR around ⟨2, 1, false, 0⟩ session.powered := if_neg other
  rw [judged, judgeATR] at made
  dsimp only at made
  rw [if_neg (Nat.succ_ne_zero 1)] at made
  by_cases sync : session.reader.m_ATR_Length = 4 ∧ IsSync (session.reader.atr around.beyond 0)
  · rw [if_pos sync]
    have sync' : session.powered.reader.m_ATR_Length = 4 ∧ (session.powered.reader.atr around.beyond 0 = 0x2c ∨
      session.powered.reader.atr around.beyond 0 = 0x92 ∨ session.powered.reader.atr around.beyond 0 = 0xa2 ∨
      session.powered.reader.atr around.beyond 0 = 0x82) := sync
    rw [if_pos sync'] at made
    split at made
    · contradiction
    · rename_i found between sent
      cases made
      exact ⟨rfl, found, sent⟩
  · rw [if_neg sync]
    have sync' : ¬ (session.powered.reader.m_ATR_Length = 4 ∧ (session.powered.reader.atr around.beyond 0 = 0x2c ∨
      session.powered.reader.atr around.beyond 0 = 0x92 ∨ session.powered.reader.atr around.beyond 0 = 0xa2 ∨
      session.powered.reader.atr around.beyond 0 = 0x82)) := sync
    rw [if_neg sync'] at made
    by_cases memory : session.reader.m_ATR_Length = 4 ∧ IsMemory (session.reader.atr around.beyond 0)
    · have memory' : session.powered.reader.m_ATR_Length = 4 ∧ (session.powered.reader.atr around.beyond 0 = 0xff ∨
        session.powered.reader.atr around.beyond 0 &&& 0xf0 = 0x80) := memory
      rw [if_pos memory'] at made
      cases made
      rw [if_pos (.inl memory)]
      exact ⟨rfl, rfl, rfl, rfl, rfl⟩
    · have memory' : ¬ (session.powered.reader.m_ATR_Length = 4 ∧ (session.powered.reader.atr around.beyond 0 = 0xff ∨
        session.powered.reader.atr around.beyond 0 &&& 0xf0 = 0x80)) := memory
      rw [if_neg memory'] at made
      by_cases typeA : session.reader.atr around.beyond 0 = 0x41
      · have typeA' : session.powered.reader.atr around.beyond 0 = 0x41 := typeA
        rw [if_pos typeA'] at made
        cases made
        rw [if_pos (.inr typeA)]
        exact ⟨rfl, rfl, rfl, rfl, rfl⟩
      · have typeA' : ¬ session.powered.reader.atr around.beyond 0 = 0x41 := typeA
        rw [if_neg typeA'] at made
        cases made
        rw [if_neg (not_or.mpr ⟨memory, typeA⟩)]
        exact ⟨rfl, rfl, rfl, rfl, rfl⟩

/-! ## Twice at most -/

/-- Behind a warm reset every ATR is final. -/
theorem AnalyseATR_warm (made : AnalyseATR around true session = some (error, after)) : error ≠ 1 := by
  by_cases iso : session.reader.m_ATR_Length > 0 ∧ IsIso (session.reader.atr around.beyond 0)
  · obtain ⟨_, two, _⟩ | ⟨right, same, _⟩ := analysed_iso iso.1 iso.2 rfl made
    · rw [two]
      decide
    · rw [same]
      exact fun one => right (.inr ⟨one, rfl⟩)
  · rw [(analysed_other iso made).1]
    decide

theorem activations_warm (passes : Nat) (session : Session) : activations around passes true session ≤ 1 := by
  cases passes with
  | zero => exact Nat.zero_le 1
  | succ passes =>
      rw [activations]
      split
      · split
        · exact Nat.le_refl 1
        · split
          · exact Nat.le_refl 1
          · split
            · exact Nat.le_refl 1
            · rename_i analysed
              rw [if_neg (AnalyseATR_warm analysed)]
      · exact Nat.le_refl 1

/-- The second activation is warm, and so the last. -/
theorem activations_le (passes : Nat) (session : Session) : activations around passes false session ≤ 2 := by
  cases passes with
  | zero => exact Nat.zero_le 2
  | succ passes =>
      rw [activations]
      split
      · split
        · exact Nat.le_succ 1
        · split
          · exact Nat.le_succ 1
          · split
            · exact Nat.le_succ 1
            · rename_i between _
              split
              · have second := @activations_warm around passes between
                omega
              · exact Nat.le_succ 1
      · exact Nat.le_succ 1

/-! ## What a reset leaves -/

/-- A reset that succeeds ends with an ATR. -/
theorem resetLoop_success {reset : Reset} (made : resetLoop around passes warm session members = some reset)
    (success : reset.result = .success) :
    ∃ activation error, reset.last = some activation ∧ reset.ATR = activation.ATR ∧
      reset.members = interfaceMembers around activation.warm activation.stored.reader ∧
      AnalyseATR around activation.warm activation.stored = some (error, reset.session) := by
  induction passes generalizing warm session members with
  | zero => contradiction
  | succ passes ih =>
      rw [resetLoop] at made
      split at made
      · contradiction
      · cases made
        contradiction
      · rename_i Response between sent
        split at made
        · cases made
          contradiction
        · split at made
          · cases made
            exact absurd success (powerError_ne_success _)
          · dsimp only at made
            split at made
            · contradiction
            · rename_i error after analysed
              split at made
              · exact ih made
              · cases made
                exact ⟨_, error, rfl, rfl, rfl, analysed⟩

theorem bytes_storedATR {reader : CCCIDReader} {beyond : Nat → UInt8} (short : reader.m_ATR_Length ≤ 33) :
    (List.range reader.m_ATR_Length).map (reader.atr beyond) = reader.storedATR := by
  have size := reader.m_ATR.length_cells
  apply List.ext_getElem
  · rw [List.length_map, List.length_range, storedATR_length short]
  · intro index first second
    rw [List.length_map, List.length_range] at first
    have there : index < reader.m_ATR.cells.length := by omega
    have cell : reader.atr beyond index = reader.m_ATR.cells[index] := by
      rw [CCCIDReader.atr, List.getD_eq_getElem _ _ there]
    rw [List.getElem_map, List.getElem_range, cell]
    exact List.getElem_take.symm

variable {activation : Activation}

theorem stored_length (activation : Activation) :
    activation.stored.reader.m_ATR_Length = min activation.Response.dwLength.toNat 33 := rfl

theorem length_ATR (activation : Activation) : activation.ATR.length = activation.stored.reader.m_ATR_Length := by
  have size := activation.Response.abData.length_cells
  rw [stored_length, Activation.ATR, List.length_take]
  omega

/-- The ATR of the card is the one that is stored. -/
theorem storedATR_eq (activation : Activation) : activation.stored.reader.storedATR = activation.ATR := by
  have length := length_ATR activation
  have size := stored_length activation
  rw [CCCIDReader.storedATR, ← length]
  exact Buffer.take_store_zero activation.before.reader.m_ATR (by omega)

theorem bytes_atr (around : Surroundings) (activation : Activation) :
    (activation.atr around).bytes = activation.ATR := by
  rw [← storedATR_eq]
  exact bytes_storedATR (Nat.min_le_right _ _)

theorem first_ATR {first : UInt8} {rest : List UInt8} (ATR : activation.ATR = first :: rest) :
    activation.stored.reader.atr around.beyond 0 = first := by
  apply (activation.atr around).cell
  rw [bytes_atr, ATR]
  rfl

/-- The array has all the bytes that are looked at. -/
theorem cells_begin (activation : Activation) : Begins activation.ATR activation.stored.reader.m_ATR.cells := by
  intro index byte found
  rw [← storedATR_eq, CCCIDReader.storedATR, List.getElem?_take] at found
  split at found
  · exact found
  · contradiction

theorem first_of_empty (nothing : activation.ATR = []) :
    activation.stored.reader.atr around.beyond 0 = activation.before.reader.atr around.beyond 0 := by
  have length := length_ATR activation
  rw [nothing] at length
  have none : min activation.Response.dwLength.toNat 33 = 0 := length.symm
  have cells : activation.stored.reader.m_ATR.cells = activation.before.reader.m_ATR.cells := by
    simp [Activation.stored, storeATR, Buffer.store, none]
  rw [CCCIDReader.atr, CCCIDReader.atr, cells]

/-- A transfer leaves no protocol where there was none. -/
theorem transfer_none {found : Option CCID_Response} {size : Nat} {Message : CCID_Message}
    (made : session.powered.transfer size Message = some (found, after)) :
    after.reader.m_PossibleProtocols = 0 ∧ after.reader.m_ActiveProtocol = 0 := by
  cases Session.transfer_cases made with
  | inl failed => exact ⟨failed.2.1.possible, failed.2.1.protocol⟩
  | inr received =>
      obtain ⟨Response, _, reader', _⟩ := received
      rw [reader', acceptResponse_kept.1, acceptResponse_protocol]
      refine ⟨rfl, ?_⟩
      split <;> rfl

/-! ## When it is right -/

theorem iso_not_sync {first : UInt8} (iso : IsIso first) : ¬ IsSync first := by
  have every : ∀ byte : UInt8, IsIso byte → ¬ IsSync byte := by decide +kernel
  exact every first iso

/-- For an ATR of ISO 7816 the parameters are those of its own bytes where it has those that are looked at. -/
theorem derived_iso {possible active : UInt32} {members : InterfaceBytes} (iso : activation.Iso around)
    (possible_eq : possible = (activation.scan around).protocols.1)
    (active_eq : active = (activation.scan around).protocols.2)
    (members_eq : members = interfaceMembers around activation.warm activation.stored.reader) :
    derivedFrom activation.m_ApduNorm activation.warm (decide (activation.atr around).Accepted) activation.ATR =
        some ⟨possible, active, members⟩ ↔
      ((activation.atr around).Accepted →
        (scanInterface? activation.ATR activation.m_ApduNorm activation.warm).isSome) := by
  have length := length_ATR activation
  have unscanned (refused : ¬ (activation.atr around).Accepted) : (activation.scan around).protocols = (0, 0) := by
    rw [Activation.scan, scanATR, if_neg (by exact refused)]
    split <;> rfl
  cases ATR : activation.ATR with
  | nil =>
      rw [ATR] at length
      have present : 0 < activation.stored.reader.m_ATR_Length := iso.1
      rw [← length] at present
      contradiction
  | cons first rest =>
      have form : IsIso first := by
        rw [← @first_ATR around activation first rest ATR]
        exact iso.2
      rw [derivedFrom, if_pos form, members_eq, interfaceMembers]
      by_cases accepted : (activation.atr around).Accepted
      · rw [if_pos (decide_eq_true accepted), if_pos ⟨iso.1, iso.2, accepted⟩, forall_prop_of_true accepted, ← ATR]
        cases scanned : scanInterface? activation.ATR activation.m_ApduNorm activation.warm with
        | none => exact iff_of_false nofun Bool.false_ne_true
        | some scan =>
            have whole : scanInterface? activation.stored.reader.m_ATR.cells activation.stored.reader.m_ApduNorm
                activation.warm = some scan := scanInterface?_more (cells_begin activation) scanned
            have shown : activation.scan around = scan.found := by
              rw [Activation.scan, scanATR, if_pos (by exact accepted)]
              apply scanInterface?_shown _ scanned
              intro index byte found
              rw [← bytes_atr around] at found
              exact (activation.atr around).cell found
            rw [whole, possible_eq, active_eq, shown]
            exact iff_of_true rfl rfl
      · rw [if_neg (by rw [decide_eq_true_eq]; exact accepted), if_neg fun all => accepted all.2.2, possible_eq, active_eq,
          unscanned accepted]
        exact iff_of_true rfl fun yes => absurd yes accepted

theorem right_iso {reset : Reset} (iso : activation.Iso around) (given : reset.ATR = activation.ATR)
    (members_eq : reset.members = interfaceMembers around activation.warm activation.stored.reader)
    (made : AnalyseATR around activation.warm activation.stored = some (error, reset.session)) :
    Right around activation reset ↔ activation.Plain around := by
  have length := length_ATR activation
  have present : 0 < activation.ATR.length := by
    rw [length]
    exact iso.1
  have analysed := @analysed_iso around activation.stored reset.session error activation.warm (activation.scan around)
    iso.1 iso.2 rfl made
  have protocols : reset.session.reader.m_PossibleProtocols = (activation.scan around).protocols.1 ∧
      reset.session.reader.m_ActiveProtocol = (activation.scan around).protocols.2 := by
    obtain ⟨wrong, _, sent, transferred⟩ | ⟨_, _, holds⟩ := analysed
    · have error : (activation.scan around).error ≠ 0 := by omega
      rw [AtrScan.protocols, if_neg error]
      exact transfer_none transferred
    · exact ⟨holds.possible, holds.active⟩
  have derived := derived_iso iso protocols.1 protocols.2 members_eq
  have keeps := StoredAtr.keepsToItself_iff (show 0 < (activation.atr around).length from iso.1)
    activation.m_ApduNorm activation.warm
  rw [bytes_atr] at keeps
  constructor
  · intro right
    refine ⟨?_, fun _ => keeps.mp ⟨right.alone iso, derived.mp right.derived⟩, ?_⟩
    · intro nothing
      rw [nothing] at present
      contradiction
    · intro _ sync
      exact absurd sync (iso_not_sync iso.2)
  · intro plain
    obtain ⟨alone, looked⟩ := keeps.mpr (plain.keeps iso)
    refine ⟨given, ?_, fun _ => alone, derived.mpr looked⟩
    intro up
    obtain ⟨wrong, _⟩ | ⟨_, _, holds⟩ := analysed
    · exact absurd ⟨iso, wrong⟩ up
    · rw [CCCIDReader.storedATR, holds.atr, holds.length, ← CCCIDReader.storedATR, storedATR_eq]
      exact ⟨length.symm, rfl⟩

variable {reset : Reset}

/-- What is left to compare for another ATR. -/
theorem right_iff_other (other : ¬ activation.Iso around) (given : reset.ATR = activation.ATR)
    (members_eq : reset.members = interfaceMembers around activation.warm activation.stored.reader) :
    Right around activation reset ↔
      (reset.session.reader.m_ATR_Length = activation.ATR.length ∧ reset.session.reader.storedATR = activation.ATR) ∧
        derivedFrom activation.m_ApduNorm activation.warm (decide (activation.atr around).Accepted) activation.ATR =
          some ⟨reset.session.reader.m_PossibleProtocols, reset.session.reader.m_ActiveProtocol, .default⟩ := by
  have default : reset.members = .default := by
    rw [members_eq, interfaceMembers]
    exact if_neg fun all => other ⟨all.1, all.2.1⟩
  rw [← default]
  constructor
  · intro right
    exact ⟨right.stored fun down => other down.1, right.derived⟩
  · intro both
    exact ⟨given, fun _ => both.1, fun iso => absurd iso other, both.2⟩

theorem stored_of_holds {protocols : UInt32 × UInt32}
    (holds : Holds activation.stored.reader reset.session.reader protocols) :
    reset.session.reader.m_ATR_Length = activation.ATR.length ∧ reset.session.reader.storedATR = activation.ATR := by
  rw [CCCIDReader.storedATR, holds.atr, holds.length, ← CCCIDReader.storedATR, storedATR_eq]
  exact ⟨(length_ATR activation).symm, rfl⟩

/-- Without an ATR the first byte of an earlier one is looked at. -/
theorem right_empty (nothing : activation.ATR = []) (given : reset.ATR = activation.ATR)
    (members_eq : reset.members = interfaceMembers around activation.warm activation.stored.reader)
    (made : AnalyseATR around activation.warm activation.stored = some (error, reset.session)) :
    Right around activation reset ↔ activation.Plain around := by
  have length : activation.stored.reader.m_ATR_Length = 0 := by
    rw [← length_ATR, nothing, List.length_nil]
  have other : ¬ activation.Iso around := by
    intro iso
    have present : 0 < activation.stored.reader.m_ATR_Length := iso.1
    omega
  have four : ¬ activation.stored.reader.m_ATR_Length = 4 := by omega
  have analysed := (analysed_other other made).2
  rw [if_neg fun both => four both.1, first_of_empty nothing] at analysed
  have plain : activation.Plain around ↔ activation.before.reader.atr around.beyond 0 ≠ 0x41 := by
    constructor
    · intro plain
      exact plain.empty nothing
    · intro fresh
      refine ⟨fun _ => fresh, fun iso => absurd iso other, ?_⟩
      intro long
      rw [nothing] at long
      contradiction
  rw [plain, right_iff_other other given members_eq]
  by_cases typeA : activation.before.reader.atr around.beyond 0 = 0x41
  · rw [if_pos (.inr typeA)] at analysed
    rw [analysed.possible, analysed.active, nothing]
    exact iff_of_false (fun both => nomatch both.2) fun fresh => fresh typeA
  · rw [if_neg fun some => some.elim (fun both => four both.1) typeA] at analysed
    rw [analysed.possible, analysed.active]
    refine iff_of_true ⟨stored_of_holds analysed, ?_⟩ typeA
    rw [nothing]
    rfl

/-- A memory card for `SetSyncParameters` is right as long as it stays active. -/
theorem right_sync {first : UInt8} {rest : List UInt8} (ATR : activation.ATR = first :: rest) (sync : IsSync first)
    (four : activation.stored.reader.m_ATR_Length = 4) (other : ¬ activation.Iso around)
    (given : reset.ATR = activation.ATR)
    (members_eq : reset.members = interfaceMembers around activation.warm activation.stored.reader)
    (made : AnalyseATR around activation.warm activation.stored = some (error, reset.session)) :
    Right around activation reset ↔ activation.Plain around := by
  have place := @first_ATR around activation first rest ATR
  have length := length_ATR activation
  rw [four, ATR, List.length_cons] at length
  have analysed := (analysed_other other made).2
  rw [if_pos ⟨four, by rw [place]; exact sync⟩] at analysed
  obtain ⟨found, sent⟩ := analysed
  have plain : activation.Plain around ↔ ∀ Response after, (synced activation.stored.powered).transfer
      around.inputBufferSize ⟨PC_TO_RDR_SETPARAMETERS, 3⟩ = some (some Response, after) → Response.slot = 0 := by
    constructor
    · intro plain
      apply plain.active
      · rw [ATR, List.length_cons, length]
      · have shown : IsSync (activation.stored.reader.atr around.beyond 0) := by
          rw [place]
          exact sync
        exact shown
    · intro active
      refine ⟨?_, fun iso => absurd iso other, fun _ _ => active⟩
      intro nothing
      rw [ATR] at nothing
      contradiction
  have derived : derivedFrom activation.m_ApduNorm activation.warm (decide (activation.atr around).Accepted)
      activation.ATR = some .raw := by
    have form : ¬ IsIso first := fun iso => iso_not_sync iso sync
    rw [ATR, derivedFrom, if_neg form, if_pos ⟨Nat.succ.inj length, .inl sync⟩]
  rw [plain, right_iff_other other given members_eq, derived, sent]
  have same (card : SameCard (synced activation.stored.powered).reader reset.session.reader) :
      Holds activation.stored.reader reset.session.reader (SCARD_PROTOCOL_RAW, SCARD_PROTOCOL_RAW) :=
    ⟨card.atr, card.length, card.possible, card.protocol⟩
  cases Session.transfer_cases sent with
  | inl failed =>
      have holds := same failed.2.1
      rw [failed.1, holds.possible, holds.active]
      refine iff_of_true ⟨stored_of_holds holds, rfl⟩ ?_
      intro Response after found
      cases found
  | inr received =>
      obtain ⟨Response, same_, reader', _⟩ := received
      rw [same_]
      by_cases active : Response.slot = 0
      · have holds := same (by rw [reader']; exact acceptResponse_active active)
        rw [holds.possible, holds.active]
        refine iff_of_true ⟨stored_of_holds holds, rfl⟩ ?_
        intro other after found
        cases found
        exact active
      · have gone : reset.session.reader.m_ActiveProtocol = 0 := by
          rw [reader', acceptResponse_protocol, if_neg active]
        rw [gone]
        apply iff_of_false
        · intro both
          have raw : SCARD_PROTOCOL_RAW = 0 := congrArg Parameters.m_ActiveProtocol (Option.some.inj both.2)
          exact absurd raw (by decide)
        · intro all
          exact active (all _ _ rfl)

theorem right_other (other : ¬ activation.Iso around) (given : reset.ATR = activation.ATR)
    (members_eq : reset.members = interfaceMembers around activation.warm activation.stored.reader)
    (made : AnalyseATR around activation.warm activation.stored = some (error, reset.session)) :
    Right around activation reset ↔ activation.Plain around := by
  cases ATR : activation.ATR with
  | nil => exact right_empty ATR given members_eq made
  | cons first rest =>
      have length := length_ATR activation
      have place := @first_ATR around activation first rest ATR
      rw [ATR, List.length_cons] at length
      have four : activation.stored.reader.m_ATR_Length = 4 ↔ rest.length = 3 := by omega
      by_cases sync : rest.length = 3 ∧ IsSync first
      · exact right_sync ATR sync.2 (four.mpr sync.1) other given members_eq made
      · have analysed := (analysed_other other made).2
        simp only [four, place, if_neg sync] at analysed
        have form : ¬ IsIso first := by
          rw [← place]
          intro iso
          have present : 0 < activation.stored.reader.m_ATR_Length := by omega
          exact other ⟨present, iso⟩
        have plain : activation.Plain around := by
          refine ⟨?_, fun iso => absurd iso other, ?_⟩
          · intro nothing
            rw [ATR] at nothing
            contradiction
          · intro long shown
            have shown' : IsSync (activation.stored.reader.atr around.beyond 0) := shown
            rw [ATR] at long
            rw [place] at shown'
            exact absurd ⟨Nat.succ.inj long, shown'⟩ sync
        rw [right_iff_other other given members_eq]
        refine iff_of_true ?_ plain
        by_cases memory : rest.length = 3 ∧ IsMemory first
        · rw [if_pos (.inl memory)] at analysed
          refine ⟨stored_of_holds analysed, ?_⟩
          rw [ATR, derivedFrom, if_neg form, if_pos ⟨memory.1, .inr memory.2⟩, analysed.possible, analysed.active]
          rfl
        · have others : ¬ (rest.length = 3 ∧ (IsSync first ∨ IsMemory first)) := by
            intro both
            exact both.2.elim (fun isSync => sync ⟨both.1, isSync⟩) fun isMemory => memory ⟨both.1, isMemory⟩
          by_cases typeA : first = 0x41
          · rw [if_pos (.inr typeA)] at analysed
            refine ⟨stored_of_holds analysed, ?_⟩
            rw [ATR, derivedFrom, if_neg form, if_neg others, if_pos typeA, analysed.possible, analysed.active]
            rfl
          · rw [if_neg (not_or.mpr ⟨memory, typeA⟩)] at analysed
            refine ⟨stored_of_holds analysed, ?_⟩
            rw [ATR, derivedFrom, if_neg form, if_neg others, if_neg typeA, analysed.possible, analysed.active]
            rfl

/-- A reset activates the card twice at most; it ends right exactly where the ATR of the last activation is plain. -/
theorem reset_right_iff (around : Surroundings) (session : Session) (members : InterfaceBytes) :
    ResetRight around session members ↔
      ∀ reset activation, IfdPowerReset around session members = some reset → reset.result = .success →
        reset.last = some activation → activation.Plain around := by
  have right {reset : Reset} (made : IfdPowerReset around session members = some reset)
      (success : reset.result = .success) :
      ∃ activation, reset.last = some activation ∧ (Right around activation reset ↔ activation.Plain around) := by
    rw [IfdPowerReset] at made
    split at made
    · contradiction
    · obtain ⟨activation, error, last, given, members_eq, analysed⟩ := resetLoop_success made success
      refine ⟨activation, last, ?_⟩
      by_cases iso : activation.Iso around
      · exact right_iso iso given members_eq analysed
      · exact right_other iso given members_eq analysed
  constructor
  · intro all reset activation made success last
    obtain ⟨other, same, decided⟩ := right made success
    obtain ⟨_, same', right⟩ := all.right reset made success
    rw [last] at same same'
    cases same
    cases same'
    exact decided.mp right
  · intro plain
    refine ⟨fun _ off _ passes => activations_le passes off, ?_⟩
    intro reset made success
    obtain ⟨activation, last, decided⟩ := right made success
    exact ⟨activation, last, decided.mpr (plain reset activation made success last)⟩

/-- A reader behind a card with 33 bytes 41, and what the next card presents. -/
def behindTypeA (ATR : List UInt8) : Session :=
  ⟨{ CCCIDReader.constructed with m_ATR := .filled 33 0x41, m_ATR_Length := 33 },
    [replying 0x81 0 [], replying 0x80 1 ATR], []⟩

def missingT1 : List UInt8 := [0x3b, 0xb0, 0x00, 0x00, 0x81, 0x31]

theorem missingT1_derived (m_ApduNorm : ApduNorm) (warm accepted : Bool) :
    derivedFrom m_ApduNorm warm accepted missingT1 = none ∨ derivedFrom m_ApduNorm warm accepted missingT1 = some .none := by
  cases m_ApduNorm <;> cases warm <;> cases accepted <;> decide +kernel

/-- An empty ATR is taken for the one before, and missing bytes for T=1 are taken from it. -/
theorem earlier_not_right :
    (IfdPowerReset plainSurroundings (behindTypeA []) .default).map (fun reset =>
        (reset.result, reset.ATR, reset.session.reader.m_PossibleProtocols)) = some (.success, [], SCARD_PROTOCOL_RAW) ∧
      (IfdPowerReset plainSurroundings (behindTypeA missingT1) .default).map (fun reset =>
        (reset.result, reset.ATR, reset.session.reader.m_PossibleProtocols, reset.members.m_TA3)) =
          some (.success, missingT1, SCARD_PROTOCOL_T1, 0x41) ∧
      ¬ ResetRight plainSurroundings (behindTypeA []) .default ∧
      ¬ ResetRight plainSurroundings (behindTypeA missingT1) .default := by
  have empty : (IfdPowerReset plainSurroundings (behindTypeA []) .default).map (fun reset =>
      (reset.result, reset.ATR, reset.session.reader.m_PossibleProtocols)) = some (.success, [], SCARD_PROTOCOL_RAW) := by
    decide +kernel
  have missing : (IfdPowerReset plainSurroundings (behindTypeA missingT1) .default).map (fun reset =>
      (reset.result, reset.ATR, reset.session.reader.m_PossibleProtocols, reset.members.m_TA3)) =
        some (.success, missingT1, SCARD_PROTOCOL_T1, 0x41) := by
    decide +kernel
  refine ⟨empty, missing, ?_, ?_⟩
  · intro all
    rw [Option.map_eq_some_iff] at empty
    obtain ⟨reset, made, facts⟩ := empty
    simp only [Prod.mk.injEq] at facts
    obtain ⟨success, ATR, possible⟩ := facts
    obtain ⟨activation, _, right⟩ := all.right reset made success
    have derived := right.derived
    rw [← right.given, ATR, possible] at derived
    exact nomatch derived
  · intro all
    rw [Option.map_eq_some_iff] at missing
    obtain ⟨reset, made, facts⟩ := missing
    simp only [Prod.mk.injEq] at facts
    obtain ⟨success, ATR, possible, _⟩ := facts
    obtain ⟨activation, _, right⟩ := all.right reset made success
    have derived := right.derived
    rw [← right.given, ATR, possible] at derived
    cases missingT1_derived activation.m_ApduNorm activation.warm (decide (activation.atr plainSurroundings).Accepted) with
    | inl nothing =>
        rw [nothing] at derived
        exact nomatch derived
    | inr refused =>
        rw [refused] at derived
        exact nomatch derived

end Cyberjack.Eca.Retry
