import Cyberjack.Ppa.CcidMessage
import Cyberjack.Ppa.T0

namespace Cyberjack.Ppa.Ccid

open Cyberjack.Foundation Cyberjack.Eca

/-! # What the handlers ask for -/

/-- The call that a PIN command leads to. -/
def transferOf : PinCommand → Option Transfer
  | .answered _ _ => none
  | .securePV arguments => some (.securePV arguments)
  | .secureMV arguments bConfirmPIN OffsetOld OffsetNew => some (.secureMV arguments bConfirmPIN OffsetOld OffsetNew)

/-- The message of a PIN command is right, if there is one. -/
def CommandRight (instruction : PinInstruction) (PCB_seq : UInt8) (stack cmd : Nat → UInt8) (lenc : Nat) : Prop :=
  ∀ transfer, transferOf (ppaPinCommand instruction PCB_seq stack cmd lenc) = some transfer → Right transfer

/-- A value of tag 52 whose template has room in a message, together with the PIN blocks. -/
def TemplateRoom : PinInstruction → List UInt8 → Prop
  | .verify, control :: position :: apdu => apdu.length ≤ 245 ∧ (control &&& 3 = 2 → position.toNat ≤ 238)
  | .modify, control :: first :: second :: apdu =>
      apdu.length ≤ (if control &&& 3 = 0 ∧ control >>> 4 ≠ 0 then 239 else 240) ∧
        (control &&& 3 = 2 → first.toNat ≤ 233 ∧ second.toNat ≤ 233)
  | _, _ => True

/-- The command is answered at once, or its template has room. -/
def CommandRoom (instruction : PinInstruction) (PCB_seq : UInt8) (stack cmd : Nat → UInt8) (lenc : Nat) : Prop :=
  (∃ sw1 sw2, ppaPinCommand instruction PCB_seq stack cmd lenc = .answered sw1 sw2) ∨
    TemplateRoom instruction ((tagValue cmd 0x52).getD [])

/-! ## Templates -/

variable {PCB_seq timeout control position first second Old bConfirmPIN New : UInt8} {apdu : List UInt8}
  {stack cmd : Nat → UInt8} {lenc : Nat} {arguments : SecureArguments} {parameters : PinParameters}

theorem verifyPlain_outlen {taglen : Nat} (long : 4 ≤ apdu.length)
    (counted : taglen = if apdu.length = 4 then 7 else apdu.length + 2)
    (set : verifyBcd (control >>> 4) (position - 6) stack taglen = some parameters ∨
      verifyAscii (control >>> 4) (position - 6) stack taglen = some parameters) :
    parameters.outlen = apdu.length ∨ (apdu.length ≤ 5 ∧ parameters.outlen ≤ 13) := by
  have short := @taglen_short apdu long
  rw [← counted] at short
  by_cases header : apdu.length ≤ 5
  · refine .inr ⟨header, ?_⟩
    cases set with
    | inl bcd =>
        rw [verifyBcd, if_pos (short.mpr header)] at bcd
        by_cases free : control >>> 4 = 0
        · rw [if_pos free, Option.some.injEq] at bcd
          rw [← bcd]
        · have size := (packed_nibble control free).2
          rw [if_neg free, Option.some.injEq] at bcd
          rw [← bcd]
          change 5 + (packed (control >>> 4)).toNat ≤ 13
          omega
    | inr ascii =>
        rw [verifyAscii, if_pos (short.mpr header)] at ascii
        split at ascii
        · cases ascii
          exact (by decide : 5 ≤ 13)
        · cases ascii
          exact (by decide : 5 ≤ 13)
  · have length : taglen - 2 = apdu.length := by
      rw [counted, if_neg (by omega)]
      omega
    have data : taglen ≠ 7 := fun same => header (short.mp same)
    refine .inl ?_
    cases set with
    | inl bcd =>
        rw [verifyBcd, if_neg data] at bcd
        rcases set_cases bcd with ⟨_, rfl⟩ | ⟨_, rfl⟩
        · exact length
        · exact length
    | inr ascii =>
        rw [verifyAscii, if_neg data] at ascii
        rcases set_cases ascii with ⟨_, rfl⟩ | ⟨_, rfl⟩
        · exact length
        · exact length

/-- The length of what VERIFY passes on, which is at most what `cjccid_SecurePV` has room for. -/
theorem verifyTemplate_room (short : apdu.length ≤ 253)
    (called : (verifyTemplate PCB_seq stack timeout control position apdu).passed = some arguments) :
    arguments.parameters.outlen ≤ 245 ↔ apdu.length ≤ 245 ∧ (control &&& 3 = 2 → position.toNat ≤ 238) := by
  have plain {format : UInt8} (other : format ≠ 2) (same : control &&& 3 = format)
      (outlen : arguments.parameters.outlen = apdu.length ∨ (apdu.length ≤ 5 ∧ arguments.parameters.outlen ≤ 13)) :
      arguments.parameters.outlen ≤ 245 ↔ apdu.length ≤ 245 ∧ (control &&& 3 = 2 → position.toNat ≤ 238) := by
    rw [and_iff_left fun two => absurd (same.symm.trans two) other]
    omega
  obtain ⟨accepted, bcd | ascii | format2⟩ := verifyTemplate_accepted short called
  · exact plain (by decide) bcd.1 (verifyPlain_outlen accepted.template.long rfl (.inl bcd.2))
  · exact plain (by decide) ascii.1 (verifyPlain_outlen accepted.template.long rfl (.inr ascii.2))
  · obtain ⟨near, _, _, _, outlen⟩ := verifyFormat2_fields format2.2
    have low := accepted.low
    have place := toNat_position low
    have byte := position.toNat_lt
    have block : (position - 6 + 1).toNat = position.toNat - 5 := by
      rw [UInt8.toNat_add, place]
      change (position.toNat - 6 + 1) % 256 = position.toNat - 5
      omega
    have length := accepted.template.length_le
    have lc : (templateBuffer stack apdu 4).toNat = templateLc apdu := lc_template stack accepted.template.long
    rw [keptLc_eq_max (by omega), lc, block] at outlen
    have counted : apdu.length = 4 ∨ apdu.length = templateLc apdu + 5 := by
      by_cases four : apdu.length = 4
      · exact .inl four
      · exact .inr (accepted.template.counted four)
    constructor
    · intro room
      exact ⟨by omega, fun _ => by omega⟩
    · intro room
      have near := room.2 format2.1
      omega

/-- BCD with a fixed length passes a byte more. -/
theorem modifyPlain_outlen {taglen : Nat} (long : 4 ≤ apdu.length)
    (counted : taglen = if apdu.length = 4 then 8 else apdu.length + 3)
    (set : ppaModifyBcd (control >>> 4) Old New stack taglen = some parameters ∧ control &&& 3 = 0 ∨
      ppaModifyAscii (control >>> 4) Old New stack taglen = some parameters ∧ control &&& 3 = 1) :
    (parameters.outlen = apdu.length + if control &&& 3 = 0 ∧ control >>> 4 ≠ 0 then 1 else 0) ∨
      (apdu.length ≤ 5 ∧ parameters.outlen ≤ 21) := by
  have short := @taglen_modify_short apdu long
  rw [← counted] at short
  by_cases header : apdu.length ≤ 5
  · refine .inr ⟨header, ?_⟩
    cases set with
    | inl bcd =>
        have set := bcd.1
        rw [ppaModifyBcd, if_pos (short.mpr header)] at set
        by_cases free : control >>> 4 = 0
        · rw [if_pos free, Option.some.injEq] at set
          rw [← set]
        · have size := (packed_nibble control free).2
          rw [if_neg free, Option.some.injEq] at set
          rw [← set]
          change 5 + (packed (control >>> 4)).toNat * 2 ≤ 21
          omega
    | inr ascii =>
        have set := ascii.1
        rw [ppaModifyAscii, if_pos (short.mpr header)] at set
        split at set
        · cases set
          exact (by decide : 5 ≤ 21)
        · cases set
          exact (by decide : 5 ≤ 21)
  · have length : taglen = apdu.length + 3 := by
      rw [counted, if_neg (by omega)]
    have data : taglen ≠ 8 := fun same => header (short.mp same)
    refine .inl ?_
    cases set with
    | inl bcd =>
        have set := bcd.1
        rw [ppaModifyBcd, if_neg data] at set
        rcases set_cases set with ⟨free, rfl⟩ | ⟨fixed, rfl⟩
        · change taglen - 3 = _
          rw [if_neg fun both => both.2 free]
          omega
        · change taglen - 2 = _
          rw [if_pos ⟨bcd.2, fixed⟩]
          omega
    | inr ascii =>
        have set := ascii.1
        have other : ¬ (control &&& 3 = 0 ∧ control >>> 4 ≠ 0) := by
          rw [ascii.2]
          exact fun both => absurd both.1 (by decide)
        rw [ppaModifyAscii, if_neg data] at set
        rw [if_neg other]
        rcases set_cases set with ⟨free, rfl⟩ | ⟨fixed, rfl⟩
        · change taglen - 3 = _
          omega
        · change taglen - 3 = _
          omega

theorem positions_iff (accepted : ModifyAccepted first second Old bConfirmPIN New apdu) :
    Old.toNat ≤ 227 ∧ New.toNat ≤ 227 ↔ first.toNat ≤ 233 ∧ second.toNat ≤ 233 := by
  have old := accepted.old
  have new := accepted.new
  have behind : (second > 5 ∧ New = second - 6) ∨ (second = 0 ∧ New = 0) := by
    rw [ppaNewPosition] at new
    split at new
    · case isTrue above => exact .inl ⟨above, (Option.some.inj new).symm⟩
    · split at new
      · case isTrue zero => exact .inr ⟨zero, (Option.some.inj new).symm⟩
      · contradiction
  have above {place : UInt8} (high : place > 5) : (place - 6).toNat = place.toNat - 6 :=
    toNat_position (UInt8.lt_iff_toNat_lt.mp high)
  have newPlace : New.toNat ≤ 227 ↔ second.toNat ≤ 233 := by
    rcases behind with ⟨high, rfl⟩ | ⟨rfl, rfl⟩
    · rw [above high]
      omega
    · exact iff_of_true (by decide) (by decide)
  rw [newPlace, ppaOldPosition] at *
  split at old
  · case isTrue differs =>
      cases old
      rw [above differs.1]
      omega
  · split at old
    · case isTrue same =>
        cases old
        rw [same.2, and_self]
        exact and_iff_right (by decide)
    · contradiction

theorem modifyTemplate_room (short : apdu.length ≤ 253)
    (called : (modifyTemplate PCB_seq stack timeout control first second apdu).passed = some arguments) :
    arguments.parameters.outlen ≤ 240 ↔
      apdu.length ≤ (if control &&& 3 = 0 ∧ control >>> 4 ≠ 0 then 239 else 240) ∧
        (control &&& 3 = 2 → first.toNat ≤ 233 ∧ second.toNat ≤ 233) := by
  have plain (other : control &&& 3 ≠ 2)
      (outlen : (arguments.parameters.outlen = apdu.length + if control &&& 3 = 0 ∧ control >>> 4 ≠ 0 then 1 else 0) ∨
        (apdu.length ≤ 5 ∧ arguments.parameters.outlen ≤ 21)) :
      arguments.parameters.outlen ≤ 240 ↔
        apdu.length ≤ (if control &&& 3 = 0 ∧ control >>> 4 ≠ 0 then 239 else 240) ∧
          (control &&& 3 = 2 → first.toNat ≤ 233 ∧ second.toNat ≤ 233) := by
    rw [and_iff_left fun two => absurd two other]
    by_cases fixed : control &&& 3 = 0 ∧ control >>> 4 ≠ 0
    · rw [if_pos fixed] at outlen ⊢
      omega
    · rw [if_neg fixed] at outlen ⊢
      omega
  obtain ⟨Old, bConfirmPIN, New, accepted, bcd | ascii | format2⟩ := modifyTemplate_accepted short called
  · refine plain ?_ (modifyPlain_outlen accepted.template.long rfl (.inl ⟨bcd.2, bcd.1⟩))
    rw [bcd.1]
    decide
  · refine plain ?_ (modifyPlain_outlen accepted.template.long rfl (.inr ⟨ascii.2, ascii.1⟩))
    rw [ascii.1]
    decide
  · obtain ⟨nearOld, nearNew, _, _, _, outlen⟩ := modifyFormat2_fields format2.2
    have old := succ_toNat accepted.old_le
    have new := succ_toNat accepted.new_le
    have length := accepted.template.length_le
    have lc : (templateBuffer stack apdu 4).toNat = templateLc apdu := lc_template stack accepted.template.long
    have byte := templateLc_lt apdu
    rw [keptLc_eq_max (by omega), keptLc_eq_max (by omega), lc, old, new] at outlen
    have counted : apdu.length = 4 ∨ apdu.length = templateLc apdu + 5 := by
      by_cases four : apdu.length = 4
      · exact .inl four
      · exact .inr (accepted.template.counted four)
    have free : ¬ (control &&& 3 = 0 ∧ control >>> 4 ≠ 0) := by
      rw [format2.1]
      exact fun both => absurd both.1 (by decide)
    have places := positions_iff accepted
    rw [if_neg free, forall_prop_of_true format2.1, ← places]
    omega

/-! ## Commands -/

/-- A command whose parameters cannot be set is answered at once. -/
theorem answered_or_called {Called : PinCommand → Prop} {set : Option PinParameters}
    {call : PinParameters → PinCommand} {command : PinCommand} (called : ∀ parameters, Called (call parameters))
    (same : command = match set with
      | none => .answered 0x67 0x00
      | some parameters => call parameters) :
    (∃ sw1 sw2, command = .answered sw1 sw2) ∨ Called command := by
  rw [same]
  cases set with
  | none => exact .inl ⟨_, _, rfl⟩
  | some parameters => exact .inr (called parameters)

theorem verifyTemplate_calls :
    (∃ sw1 sw2, verifyTemplate PCB_seq stack timeout control position apdu = .answered sw1 sw2) ∨
      ∃ arguments, verifyTemplate PCB_seq stack timeout control position apdu = .securePV arguments := by
  have either (set : Option PinParameters) := @answered_or_called
    (fun command => ∃ arguments, command = .securePV arguments) set
    (fun parameters => .securePV (secureArguments PCB_seq timeout parameters)) _ (fun parameters => ⟨_, rfl⟩) rfl
  simp only [verifyTemplate]
  generalize (if apdu.length = 4 then 7 else apdu.length + 2) = taglen
  generalize stored stack 0 (if apdu.length = 4 then apdu ++ [0] else apdu) = buffer
  split
  · exact .inl ⟨_, _, rfl⟩
  · split
    · exact .inl ⟨_, _, rfl⟩
    · split
      · exact either _
      · split
        · exact either _
        · split
          · exact either _
          · exact .inl ⟨_, _, rfl⟩

theorem modifyTemplate_calls :
    (∃ sw1 sw2, modifyTemplate PCB_seq stack timeout control first second apdu = .answered sw1 sw2) ∨
      ∃ arguments bConfirmPIN OffsetOld OffsetNew, modifyTemplate PCB_seq stack timeout control first second apdu =
        .secureMV arguments bConfirmPIN OffsetOld OffsetNew := by
  have either (set : Option PinParameters) (bConfirmPIN OffsetOld OffsetNew : UInt8) := @answered_or_called
    (fun command => ∃ arguments bConfirmPIN OffsetOld OffsetNew,
      command = .secureMV arguments bConfirmPIN OffsetOld OffsetNew) set
    (fun parameters => .secureMV (secureArguments PCB_seq timeout parameters) bConfirmPIN OffsetOld OffsetNew) _
    (fun parameters => ⟨_, _, _, _, rfl⟩) rfl
  simp only [modifyTemplate]
  generalize (if apdu.length = 4 then 8 else apdu.length + 3) = taglen
  generalize stored stack 0 (if apdu.length = 4 then apdu ++ [0] else apdu) = buffer
  split
  · exact .inl ⟨_, _, rfl⟩
  · split
    · split
      · exact .inl ⟨_, _, rfl⟩
      · split
        · exact either _ _ _ _
        · split
          · exact either _ _ _ _
          · split
            · exact either _ _ _ _
            · exact .inl ⟨_, _, rfl⟩
    · exact .inl ⟨_, _, rfl⟩

/-- A command that is answered at once sends nothing. -/
theorem room_of_answered {command : PinCommand} {sw1 sw2 : UInt8} {template : Prop}
    (answered : command = .answered sw1 sw2) :
    (∀ transfer, transferOf command = some transfer → Right transfer) ↔
      (∃ sw1 sw2, command = .answered sw1 sw2) ∨ template := by
  rw [answered]
  exact iff_of_true nofun (.inl ⟨_, _, rfl⟩)

theorem room_of_called {command : PinCommand} {transfer : Transfer} {template : Prop}
    (called : transferOf command = some transfer) (decided : transfer.dataLength ≤ 260 ↔ template) :
    (∀ transfer, transferOf command = some transfer → Right transfer) ↔
      (∃ sw1 sw2, command = .answered sw1 sw2) ∨ template := by
  have passed : ¬ ∃ sw1 sw2, command = .answered sw1 sw2 := by
    intro ⟨_, _, answered⟩
    rw [answered] at called
    cases called
  rw [called, or_iff_right passed, ← decided, ← right_iff_length]
  constructor
  · intro all
    exact all transfer rfl
  · intro right other same
    cases same
    exact right

theorem command_right_iff (instruction : PinInstruction) (PCB_seq : UInt8) (stack cmd : Nat → UInt8) (lenc : Nat) :
    CommandRight instruction PCB_seq stack cmd lenc ↔ CommandRoom instruction PCB_seq stack cmd lenc := by
  simp only [CommandRight, CommandRoom, ppaPinCommand]
  split
  · exact room_of_answered rfl
  · split
    · exact room_of_answered rfl
    · split
      · exact room_of_answered rfl
      · cases instruction with
        | verify =>
            split
            · case h_1 control position apdu _ found =>
                have length := length_tagValue found
                rw [List.length_cons, List.length_cons] at length
                rw [found]
                rcases verifyTemplate_calls with ⟨_, _, answered⟩ | ⟨arguments, called⟩
                · exact room_of_answered answered
                · have passed := congrArg PinCommand.passed called
                  have room := verifyTemplate_room (by omega) passed
                  refine room_of_called (congrArg transferOf called) ?_
                  refine Iff.trans ?_ room
                  change arguments.parameters.outlen + 15 ≤ 260 ↔ _
                  omega
            · contradiction
            · exact room_of_answered rfl
        | modify =>
            split
            · contradiction
            · case h_2 control first second apdu _ found =>
                have length := length_tagValue found
                rw [List.length_cons, List.length_cons, List.length_cons] at length
                rw [found]
                rcases modifyTemplate_calls with ⟨_, _, answered⟩ | ⟨arguments, _, _, _, called⟩
                · exact room_of_answered answered
                · have passed := congrArg PinCommand.passed called
                  have room := modifyTemplate_room (by omega) passed
                  refine room_of_called (congrArg transferOf called) ?_
                  refine Iff.trans ?_ room
                  change arguments.parameters.outlen + 20 ≤ 260 ↔ _
                  omega
            · exact room_of_answered rfl

/-! ## Blocks of T=1 and T=0 -/

/-- A block of T=1 that is sent is not longer than its array. -/
def T1Fits : Event → Prop
  | .sentNew _ block => block.length ≤ 259
  | .sent _ block => block.length ≤ 259
  | _ => True

section T1

variable {capacity : Nat} {state : T1State capacity}

theorem transmit_fits {event : UInt8 → List UInt8 → Event}
    (sends : ∀ bwi block, block.length ≤ 259 → T1Fits (event bwi block)) :
    ∀ made ∈ (transmit event state).1, T1Fits made := by
  intro made member
  rw [transmit] at member
  split at member
  · contradiction
  · case h_2 after _ =>
      have length : after.sblockCells.length ≤ 259 := by
        rw [T1State.sblockCells]
        split
        · rw [after.sbuffer.length_cells]
        · rw [after.rblock.length_cells]
          decide
      rw [List.mem_singleton] at member
      rw [member]
      apply sends
      rw [List.length_take]
      omega

theorem sent_fits : ∀ made ∈ (transmit .sent state).1, T1Fits made := transmit_fits fun _ _ short => short

theorem outerLoop_fits : ∀ made ∈ (outerLoop state).1, T1Fits made := by
  rw [outerLoop]
  split
  · exact nofun
  · exact transmit_fits fun _ _ short => short

theorem leaveInnerLoop_fits : ∀ made ∈ (leaveInnerLoop state).1, T1Fits made := by
  rw [leaveInnerLoop]
  split
  · exact nofun
  · exact outerLoop_fits

theorem protocolError_fits : ∀ made ∈ (protocolError state).1, T1Fits made :=
  List.forall_mem_cons.mpr ⟨trivial, leaveInnerLoop_fits⟩

theorem refuse_fits (code : UInt8) : ∀ made ∈ (refuse code state).1, T1Fits made := by
  rw [refuse]
  dsimp only
  split
  · exact protocolError_fits
  · exact sent_fits

theorem acceptIBlock_fits : ∀ made ∈ (acceptIBlock state).1, T1Fits made := by
  rw [acceptIBlock]
  split
  · exact List.forall_mem_cons.mpr ⟨trivial, nofun⟩
  · refine List.forall_mem_cons.mpr ⟨trivial, ?_⟩
    dsimp only
    split
    · exact sent_fits
    · exact leaveInnerLoop_fits

theorem onIBlock_fits : ∀ made ∈ (onIBlock state).1, T1Fits made := by
  rw [onIBlock]
  split
  · exact refuse_fits 0x82
  · exact acceptIBlock_fits

theorem onSBlock_fits : ∀ made ∈ (onSBlock state).1, T1Fits made := by
  rw [onSBlock]
  split
  · exact nofun
  · dsimp only
    split
    · exact protocolError_fits
    · exact sent_fits

theorem repeatIBlock_fits : ∀ made ∈ (repeatIBlock state).1, T1Fits made := by
  rw [repeatIBlock]
  dsimp only
  split
  · exact List.forall_mem_cons.mpr ⟨trivial, sent_fits⟩
  · exact sent_fits

theorem onRBlock_fits : ∀ made ∈ (onRBlock state).1, T1Fits made := by
  rw [onRBlock]
  split
  · exact repeatIBlock_fits
  · split
    · exact leaveInnerLoop_fits
    · exact refuse_fits 0x82

theorem onSResponse_fits : ∀ made ∈ (onSResponse state).1, T1Fits made := by
  rw [onSResponse]
  split
  · dsimp only
    split
    · exact protocolError_fits
    · exact sent_fits
  · exact sent_fits

theorem innerLoopBody_fits (reply : Reply) : ∀ made ∈ (innerLoopBody state reply).1, T1Fits made := by
  rw [innerLoopBody]
  split
  · split
    · exact onSResponse_fits
    · split
      · split
        · exact refuse_fits 0x82
        · split
          · exact onIBlock_fits
          · split
            · exact onSBlock_fits
            · exact onRBlock_fits
      · split
        · exact refuse_fits 0x81
        · exact leaveInnerLoop_fits
  · exact nofun

/-- The messages of T=1. -/
def t1Transfer : Event → Option Transfer
  | .sentNew bwi block => some (.xfrBlock bwi block 0)
  | .sent bwi block => some (.xfrBlock bwi block 0)
  | _ => none

theorem t1_messages_right (handle : Handle) (cmd : List UInt8) (response : Buffer UInt8 capacity) (frame : Ppa.Frame)
    (replies : List Reply) :
    ∀ event ∈ (APDU2TPDU_T1 handle cmd response frame replies).trace,
      ∀ transfer, t1Transfer event = some transfer → Right transfer := by
  have fits : ∀ event ∈ (APDU2TPDU_T1 handle cmd response frame replies).trace, T1Fits event :=
    @call_all _ _ _ _ innerLoopBody T1Fits (fun _ => True)
      (fun state reply _ => ⟨innerLoopBody_fits reply, fun _ _ => trivial⟩) _ outerLoop_fits
      (by cases (outerLoop (initialState handle cmd response frame)).2 <;> trivial) replies
  intro event member transfer made
  have short := fits event member
  cases event with
  | sentNew bwi block =>
      cases made
      exact right_iff_length.mpr (Nat.le_trans short (by decide))
  | sent bwi block =>
      cases made
      exact right_iff_length.mpr (Nat.le_trans short (by decide))
  | accepted field => cases made
  | iccPowerOff => cases made

end T1

section T0

variable {lenr : UInt16} {memory : T0.Memory lenr}

/-- A TPDU of T=0 is not longer than a header and 255 bytes of data. -/
def T0Fits : T0.Event → Prop
  | .transmitted tpdu => tpdu.length ≤ 260
  | .iccPowerOff => True

/-- The header that GET RESPONSE and the repetition are made from. -/
def T0Header : T0.State → Prop
  | .read header _ => header.length ≤ 4
  | _ => True

theorem deliver_ends {rbuffer : Buffer UInt8 258} {rlen : Nat} :
    ∃ result, T0.deliver memory rbuffer rlen = ([], .done result) := by
  rw [T0.deliver]
  split
  · exact ⟨_, rfl⟩
  · split
    · exact ⟨_, rfl⟩
    · split
      · exact ⟨_, rfl⟩
      · exact ⟨_, rfl⟩

theorem retried_ends {Le sbuffer4 : UInt8} {rbuffer : Buffer UInt8 258} {rlen : Nat} :
    ∃ result, T0.retried memory Le sbuffer4 rbuffer rlen = ([], .done result) := by
  rw [T0.retried]
  split
  · rw [T0.deliverStatus]
    split
    · exact ⟨_, rfl⟩
    · split
      · exact ⟨_, rfl⟩
      · exact ⟨_, rfl⟩
  · split
    · rw [T0.deliverCut]
      split
      · exact ⟨_, rfl⟩
      · split
        · split
          · exact ⟨_, rfl⟩
          · split
            · exact ⟨_, rfl⟩
            · exact ⟨_, rfl⟩
        · exact ⟨_, rfl⟩
    · split
      · exact ⟨_, rfl⟩
      · exact deliver_ends

theorem case4Body_fits {beyond : Int → UInt8} {cla le : UInt8} {response : Buffer UInt8 lenr.toNat} {state : Case4State}
    {reply : CcidReply} :
    ∀ event ∈ (T0.passOf cla le (case4Body beyond le response state reply)).1, T0Fits event := by
  have quiet : ∀ event ∈ (ccidTransmit state.tpdu state.rlen reply).1.map (T0.eventOf cla), T0Fits event := by
    intro event member
    obtain ⟨first, before, rfl⟩ := List.mem_map.mp member
    have off : first = .powerDown := by
      rw [ccidTransmit] at before
      split at before
      · contradiction
      · split at before
        · contradiction
        · split at before
          · exact List.mem_singleton.mp before
          · split at before
            · split at before
              · exact List.mem_singleton.mp before
              · exact List.mem_singleton.mp before
            · split at before
              · contradiction
              · contradiction
    rw [off]
    trivial
  have asks (stage : Stage) (asked : UInt8) (after : Case4State) :
      ∀ event ∈ (T0.passOf cla le (getResponse stage asked after : Eca.Pass lenr.toNat)).1, T0Fits event := by
    intro event member
    rw [List.mem_singleton.mp member]
    exact (by decide : 5 ≤ 260)
  rw [case4Body]
  dsimp only
  split
  · exact quiet
  · split
    · exact quiet
    · split
      · exact asks _ _ _
      · split
        · exact asks _ _ _
        · rw [finish]
          split
          · exact List.forall_mem_nil _
          · exact List.forall_mem_nil _

/-- A pass that sends nothing and ends is right in any case. -/
theorem ends_fits {pass : T0.Pass lenr} (ends : ∃ result, pass = ([], .done result)) :
    (∀ event ∈ pass.1, T0Fits event) ∧ ∀ next, pass.2 = .again next → T0Header next := by
  obtain ⟨result, rfl⟩ := ends
  exact ⟨nofun, nofun⟩

theorem body_fits {state : T0.State} (header : T0Header state) (reply : Reply) :
    (∀ event ∈ (T0.body memory state reply).1, T0Fits event) ∧
      ∀ next, (T0.body memory state reply).2 = .again next → T0Header next := by
  rw [T0.body]
  split
  · exact ⟨List.forall_mem_singleton.mpr trivial, nofun⟩
  · case h_2 data _ =>
      split
      · split
        · exact ends_fits ⟨_, rfl⟩
        · exact ends_fits deliver_ends
      · case h_2 first Le _ =>
          split
          · exact ends_fits ⟨_, rfl⟩
          · split
            · refine ⟨List.forall_mem_singleton.mpr ?_, ?_⟩
              · have short : first.length ≤ 4 := by assumption
                change (first ++ [_]).length ≤ 260
                rw [List.length_append, List.length_singleton]
                omega
              · intro next again
                cases again
                trivial
            · exact ends_fits deliver_ends
      · split
        · exact ends_fits ⟨_, rfl⟩
        · exact ends_fits retried_ends
      · case h_4 cla le state =>
          refine ⟨case4Body_fits, ?_⟩
          intro next again
          rw [T0.passOf] at again
          dsimp only at again
          split at again
          · cases again
            trivial
          · contradiction

/-- The messages of T=0. -/
def t0Transfer : T0.Event → Option Transfer
  | .transmitted tpdu => some (.xfrBlock 0 tpdu 0)
  | .iccPowerOff => none

theorem t0_messages_right (cmd : List UInt8) (replies : List Reply) :
    ∀ event ∈ (T0.APDU2TPDU_T0 memory cmd replies).trace,
      ∀ transfer, t0Transfer event = some transfer → Right transfer := by
  have byte := (cmd.getD 4 0).toNat_lt
  have opening : (∀ event ∈ (T0.opened memory cmd).1, T0Fits event) ∧
      (T0.opened memory cmd).2.Satisfies T0Header fun _ => True := by
    rw [T0.opened]
    split
    · case isTrue four =>
        refine ⟨List.forall_mem_singleton.mpr ?_, trivial⟩
        change (cmd ++ [0]).length ≤ 260
        rw [List.length_append, four]
        decide
    · split
      · case isTrue five =>
          refine ⟨List.forall_mem_singleton.mpr ?_, ?_⟩
          · change cmd.length ≤ 260
            omega
          · change (cmd.take 4).length ≤ 4
            exact List.length_take_le 4 cmd
      · split
        · case isTrue case3 =>
            refine ⟨List.forall_mem_singleton.mpr ?_, trivial⟩
            change cmd.length ≤ 260
            omega
        · split
          · case isTrue case4 =>
              refine ⟨List.forall_mem_singleton.mpr ?_, trivial⟩
              have counted := case4.1
              change (cmd.take (cmd.length - 1)).length ≤ 260
              rw [List.length_take]
              omega
          · exact ⟨nofun, trivial⟩
  have fits := @call_all _ _ _ _ (T0.body memory) T0Fits T0Header (fun state reply header => body_fits header reply) _
    opening.1 opening.2 replies
  intro event member transfer made
  have short := fits event member
  cases event with
  | transmitted tpdu =>
      cases made
      exact right_iff_length.mpr short
  | iccPowerOff => cases made

end T0

section I2c

/-- A block for an I2C card is not longer than its address and 255 bytes of data. -/
theorem S8SyncCommand_length (device : SyncDevice) (offset : Nat) (out : List UInt8) :
    (S8SyncCommand device offset out).length ≤ out.length + 3 := by
  rw [S8SyncCommand]
  split
  · exact Nat.le_succ _
  · exact Nat.le_refl _

theorem writeChunk_fits {device : SyncDevice} {cmd : Nat → UInt8} {state : WriteState} (short : state.len ≤ 255)
    (reply : Reply) :
    (∀ block ∈ (writeChunk device cmd state reply).1, block.length ≤ 258) ∧
      ∀ next, (writeChunk device cmd state reply).2 = .again next → next.len ≤ 255 := by
  rw [writeChunk]
  split
  · refine ⟨List.forall_mem_nil _, ?_⟩
    intro next again
    cases again
  · have length : (S8SyncCommand device state.addr (bytesAt cmd state.ptr
        (min (device.iic_pagesize.toNat - state.addr % device.iic_pagesize.toNat) state.len))).length ≤ 258 := by
      have block := S8SyncCommand_length device state.addr (bytesAt cmd state.ptr
        (min (device.iic_pagesize.toNat - state.addr % device.iic_pagesize.toNat) state.len))
      rw [bytesAt, List.length_map, List.length_range] at block
      exact Nat.le_trans block (by omega)
    dsimp only
    split
    · refine ⟨List.forall_mem_singleton.mpr length, ?_⟩
      intro next again
      cases again
    · split
      · refine ⟨List.forall_mem_singleton.mpr length, ?_⟩
        intro next again
        cases again
      · refine ⟨List.forall_mem_singleton.mpr length, ?_⟩
        intro next again
        cases again
        dsimp only
        omega

theorem i2c_messages_right (device : SyncDevice) (call : SyncCall) (wLevelParameter : UInt16) :
    ∀ block ∈ (SyncInterpreter device call).blocks, Right (.xfrBlock 0 block wLevelParameter) := by
  have fits : ∀ block ∈ (SyncInterpreter device call).blocks, block.length ≤ 258 := by
    have byte := (call.cmd 4).toNat_lt
    have written : ∀ block ∈ (writeChunks device call).trace, block.length ≤ 258 := by
      apply @call_all _ _ _ _ (writeChunk device call.cmd) (fun block => block.length ≤ 258) fun state => state.len ≤ 255
      · exact fun state reply short => writeChunk_fits short reply
      · split <;> exact List.forall_mem_nil _
      · split
        · trivial
        · change (call.cmd 4).toNat ≤ 255
          omega
    rw [SyncInterpreter]
    split
    · exact List.forall_mem_nil _
    · split
      · exact List.forall_mem_nil _
      · split
        · generalize (if call.cmd 4 = 0 then 256 else (call.cmd 4).toNat) = len
          dsimp only
          split
          · exact List.forall_mem_nil _
          · have length : (S8SyncCommand device call.addr []).length ≤ 258 :=
              Nat.le_trans (S8SyncCommand_length device call.addr []) (by decide)
            split
            · exact List.forall_mem_singleton.mpr length
            · exact List.forall_mem_singleton.mpr length
        · split
          · split
            · exact List.forall_mem_nil _
            · dsimp only
              split
              · exact written
              · exact written
              · exact written
          · exact List.forall_mem_nil _
  intro block member
  exact right_iff_length.mpr (Nat.le_trans (fits block member) (by decide))

end I2c

/-- Whatever a card answers, the drivers for T=1, T=0 and I2C cards have their blocks built inside the message and sent
whole. -/
theorem transport_messages_right :
    (∀ (capacity : Nat) (handle : Handle) (cmd : List UInt8) (response : Buffer UInt8 capacity) (frame : Ppa.Frame)
      (replies : List Reply), ∀ event ∈ (APDU2TPDU_T1 handle cmd response frame replies).trace,
        ∀ transfer, t1Transfer event = some transfer → Right transfer) ∧
    (∀ (lenr : UInt16) (memory : T0.Memory lenr) (cmd : List UInt8) (replies : List Reply),
      ∀ event ∈ (T0.APDU2TPDU_T0 memory cmd replies).trace,
        ∀ transfer, t0Transfer event = some transfer → Right transfer) ∧
    ∀ (device : SyncDevice) (call : SyncCall) (wLevelParameter : UInt16),
      ∀ block ∈ (SyncInterpreter device call).blocks, Right (.xfrBlock 0 block wLevelParameter) := by
  refine ⟨?_, ?_, ?_⟩
  · intro _ handle cmd response frame replies
    exact t1_messages_right handle cmd response frame replies
  · intro _ _ cmd replies
    exact t0_messages_right cmd replies
  · intro device call wLevelParameter
    exact i2c_messages_right device call wLevelParameter

/-! ## Messages -/

/-- A message is written and sent right exactly where its data are not longer than `abData`, which for a PIN
command its template decides. -/
theorem messages_right_iff (transfer : Transfer) (instruction : PinInstruction) (PCB_seq : UInt8)
    (stack cmd : Nat → UInt8) (lenc : Nat) :
    (Right transfer ↔ transfer.dataLength ≤ 260) ∧
      (CommandRight instruction PCB_seq stack cmd lenc ↔ CommandRoom instruction PCB_seq stack cmd lenc) :=
  ⟨right_iff_length, command_right_iff instruction PCB_seq stack cmd lenc⟩

/-- A PIN of four ASCII digits in a template of 246 bytes. -/
def longTemplate : List UInt8 :=
  tag52Command 0x18 248 ([0x41, 0x06, 0x00, 0x20, 0x00, 0x81, 0xF1] ++ List.replicate 241 0x30)

theorem longTemplate_not_right :
    (transferOf (ppaPinCommand .verify 0 staleStack (inMemory longTemplate) 255)).map Transfer.dataLength = some 261 ∧
      ¬ CommandRight .verify 0 staleStack (inMemory longTemplate) 255 := by
  have counted : (transferOf (ppaPinCommand .verify 0 staleStack (inMemory longTemplate) 255)).map
      Transfer.dataLength = some 261 := by decide +kernel
  refine ⟨counted, ?_⟩
  intro right
  obtain ⟨transfer, made, length⟩ := Option.map_eq_some_iff.mp counted
  have fits := right_iff_length.mp (right transfer made)
  omega

end Cyberjack.Ppa.Ccid
