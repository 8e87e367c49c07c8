import Cyberjack.Ecom.SendSteps

namespace Cyberjack.Ecom

open Cyberjack.Foundation

/-! # What goes over the line

Every block is built with its checksum.  The stored I-block is the only one
sent again later: its PCB is patched then, its checksum is not.
-/

variable {maxRspLen : Nat} {state after : SendState maxRspLen} {block : List UInt8} {ns : UInt8}
  {trace events : List Event}

/-- A block as it may be handed to `cjIoSendBlock` while N(S) is `ns`. -/
def Transmittable (ns : UInt8) (block : List UInt8) : Prop :=
  WellFormed block ∧ (IsIBlock block → CarriesNs ns block)

instance (ns : UInt8) (block : List UInt8) : Decidable (Transmittable ns block) := by
  unfold Transmittable
  infer_instance

def Event.Sound : Event → Prop
  | .sentNew ns block => Transmittable ns block
  | .sent ns block => Transmittable ns block
  | .accepted _ => True
  | .keycb _ => True

instance : (event : Event) → Decidable event.Sound
  | .sentNew ns block => inferInstanceAs (Decidable (Transmittable ns block))
  | .sent ns block => inferInstanceAs (Decidable (Transmittable ns block))
  | .accepted _ => inferInstanceAs (Decidable True)
  | .keycb _ => inferInstanceAs (Decidable True)

def Sound (trace : List Event) : Prop := ∀ event ∈ trace, event.Sound

instance (trace : List Event) : Decidable (Sound trace) :=
  inferInstanceAs (Decidable (∀ event ∈ trace, event.Sound))

theorem sound_append (front back : List Event) :
    Sound (front ++ back) ↔ Sound front ∧ Sound back := by
  simp only [Sound, List.mem_append, or_imp, forall_and]

theorem Supervisory.sound (supervisory : Supervisory events) : Sound events := by
  intro event member
  have control := supervisory event member
  cases event with
  | sentNew ns block => exact control.elim
  | sent ns block => exact ⟨control.1, fun iBlock => absurd iBlock control.2⟩
  | accepted rblock => trivial
  | keycb key => trivial

/-- The patched PCB of `updatePcb`. -/
def patched (ns pcb : UInt8) : UInt8 := (pcb &&& 0xBF) ||| (if ns ≠ 0 then 0x40 else 0x00)

theorem updatePcb_cons (nad pcb : UInt8) (rest : List UInt8) :
    updatePcb ns (nad :: pcb :: rest) = nad :: patched ns pcb :: rest := rfl

theorem patched_eq_iff (ns pcb : UInt8) :
    patched ns pcb = pcb ↔ (pcb &&& 0x40 ≠ 0x00 ↔ ns ≠ 0) := by
  have set : ∀ pcb : UInt8, (pcb &&& 0xBF) ||| 0x40 = pcb ↔ pcb &&& 0x40 ≠ 0x00 := by decide
  have clear : ∀ pcb : UInt8, (pcb &&& 0xBF) ||| 0x00 = pcb ↔ ¬ pcb &&& 0x40 ≠ 0x00 := by decide
  unfold patched
  split
  · rename_i one
    rw [set, iff_true_right one]
  · rename_i zero
    rw [clear, iff_false_right zero]

theorem patched_bits (ns pcb : UInt8) :
    (patched ns pcb &&& 0x40 ≠ 0x00 ↔ ns ≠ 0) ∧ patched ns pcb &&& 0x80 = pcb &&& 0x80 := by
  have set : ∀ pcb : UInt8, ((pcb &&& 0xBF) ||| 0x40) &&& 0x40 ≠ 0x00 ∧
      ((pcb &&& 0xBF) ||| 0x40) &&& 0x80 = pcb &&& 0x80 := by decide
  have clear : ∀ pcb : UInt8, ¬ ((pcb &&& 0xBF) ||| 0x00) &&& 0x40 ≠ 0x00 ∧
      ((pcb &&& 0xBF) ||| 0x00) &&& 0x80 = pcb &&& 0x80 := by decide
  unfold patched
  split
  · rename_i one
    exact ⟨iff_of_true (set pcb).1 one, (set pcb).2⟩
  · rename_i zero
    exact ⟨iff_of_false (clear pcb).1 zero, (clear pcb).2⟩

theorem wellFormed_shape (wellFormed : WellFormed block) :
    ∃ nad pcb rest, block = nad :: pcb :: rest ∧ 2 ≤ rest.length := by
  have header := wellFormed.header
  match block with
  | nad :: pcb :: rest => exact ⟨nad, pcb, rest, rfl, by simp only [List.length_cons] at header; omega⟩
  | [_] | [] => simp at header

theorem wellFormed_cons_iff {nad pcb : UInt8} {rest : List UInt8} (long : 2 ≤ rest.length) :
    WellFormed (nad :: pcb :: rest) ↔ (rest.getD 0 0).toNat = rest.length - 2 ∧
      rest.getLast? = some (nad ^^^ (pcb ^^^ xorSum rest.dropLast)) := by
  obtain ⟨len, tail, rfl⟩ : ∃ len tail, rest = len :: tail := by
    cases rest with
    | nil => simp at long
    | cons len tail => exact ⟨len, tail, rfl⟩
  have nonempty : len :: tail ≠ [] := by simp
  constructor
  · rintro ⟨header, counted, checked⟩
    refine ⟨by simpa using counted, ?_⟩
    simpa [cjT1Lrc, List.dropLast] using checked
  · rintro ⟨counted, checked⟩
    refine ⟨by simp only [List.length_cons] at long ⊢; omega, by simpa using counted, ?_⟩
    simpa [cjT1Lrc, List.dropLast] using checked

/-- The patched bit agrees with N(S) already, or it changes the checksum. -/
theorem updatePcb_wellFormed_iff (wellFormed : WellFormed block) :
    WellFormed (updatePcb ns block) ↔ CarriesNs ns block := by
  obtain ⟨nad, pcb, rest, rfl, long⟩ := wellFormed_shape wellFormed
  have original := (wellFormed_cons_iff long).mp wellFormed
  have carries : CarriesNs ns (nad :: pcb :: rest) ↔ patched ns pcb = pcb := (patched_eq_iff ns pcb).symm
  rw [updatePcb_cons, wellFormed_cons_iff long, carries]
  constructor
  · rintro ⟨_, checked⟩
    rw [original.2, Option.some.injEq] at checked
    have terms := xor_left_cancel checked
    rw [UInt8.xor_comm pcb, UInt8.xor_comm (patched ns pcb)] at terms
    exact (xor_left_cancel terms).symm
  · intro same
    rw [same]
    exact original

theorem transmittable_updatePcb_iff (wellFormed : WellFormed block) :
    Transmittable ns (updatePcb ns block) ↔ CarriesNs ns block := by
  rw [← updatePcb_wellFormed_iff wellFormed]
  constructor
  · exact fun sound => sound.1
  · intro sound
    refine ⟨sound, fun _ => ?_⟩
    obtain ⟨nad, pcb, rest, rfl, _⟩ := wellFormed_shape wellFormed
    exact (patched_bits ns pcb).1

theorem isIBlock_updatePcb (wellFormed : WellFormed block) (iBlock : IsIBlock block) :
    IsIBlock (updatePcb ns block) := by
  obtain ⟨nad, pcb, rest, rfl, _⟩ := wellFormed_shape wellFormed
  exact (patched_bits ns pcb).2.trans iBlock

/-- N(S) has not changed between the last I-block and a request to send it again. -/
def NumberKept (state : SendState maxRspLen) (io : Io) : Prop :=
  NakArrives state io → CarriesNs state.t1.ns state.block

instance (state : SendState maxRspLen) (io : Io) : Decidable (NumberKept state io) := by
  unfold NumberKept
  infer_instance

/-- The stored block can be sent again as long as its number is not patched. -/
structure Resendable (block : List UInt8) : Prop where
  wellFormed : WellFormed block
  iBlock : IsIBlock block

theorem sendCmdBody_sound (state : SendState maxRspLen) (io : Io)
    (resendable : Resendable state.block) :
    (Sound (sendCmdBody state io).1 ↔ NumberKept state io) ∧
      (NumberKept state io →
        Reaches (fun after => Resendable after.block) (sendCmdBody state io).2) := by
  by_cases nak : NakArrives state io
  · obtain ⟨_, events, same⟩ := sendCmdBody_resends nak
    have kept : NumberKept state io ↔ CarriesNs state.t1.ns state.block :=
      ⟨fun kept => kept nak, fun carries _ => carries⟩
    have sound : Sound [.sent state.t1.ns (updatePcb state.t1.ns state.block)] ↔
        Transmittable state.t1.ns (updatePcb state.t1.ns state.block) := by
      simp [Sound, Event.Sound]
    rw [events, kept, sound, transmittable_updatePcb_iff resendable.wellFormed]
    refine ⟨Iff.rfl, fun carries => same.imp fun after same => ?_⟩
    obtain ⟨_, _, _, block, _⟩ := same
    rw [block]
    exact ⟨(updatePcb_wellFormed_iff resendable.wellFormed).mpr carries,
      isIBlock_updatePcb resendable.wellFormed resendable.iBlock⟩
  · have kept : NumberKept state io := fun arrives => absurd arrives nak
    rcases sendCmdBody_sender io state with
      ⟨supervisory, same⟩ | ⟨arrives, _⟩ | ⟨block, _, _, built, events, same⟩
    · refine ⟨iff_of_true supervisory.sound kept, fun _ => same.imp fun after same => ?_⟩
      rw [same.2.2.2.1]
      exact resendable
    · exact absurd arrives nak
    · have sound : Sound (sendCmdBody state io).1 := by
        rw [events]
        intro event member
        rw [List.mem_singleton] at member
        rw [member]
        exact ⟨built.wellFormed, fun _ => built.number⟩
      refine ⟨iff_of_true sound kept, fun _ => same.imp fun after same => ?_⟩
      rw [same.2.2.2.1]
      exact ⟨built.wellFormed, built.iBlock⟩

/-- The trace is sound exactly as far as the condition has been met. -/
def Tracked (opening : List Event) (past : SendTurns maxRspLen) : Prop :=
  Sound (opening ++ outputs past) ↔ Meets NumberKept past

/-- What is known where the receive loop has been left. -/
def Transmitted (opening : List Event) (past : SendTurns maxRspLen) : Outcome maxRspLen → Prop :=
  fun _ => Tracked opening past

structure Transmitting (opening : List Event) (past : SendTurns maxRspLen)
    (state : SendState maxRspLen) : Prop where
  tracked : Tracked opening past
  stored : Meets NumberKept past → Resendable state.block

theorem sendCmdBody_transmitting (opening : List Event) (past : SendTurns maxRspLen)
    (state : SendState maxRspLen) (io : Io) (transmitting : Transmitting opening past state) :
    (sendCmdBody state io).2.Satisfies
      (Transmitting opening (past ++ [⟨state, io, (sendCmdBody state io).1⟩]))
      (Transmitted opening (past ++ [⟨state, io, (sendCmdBody state io).1⟩])) := by
  obtain ⟨tracked, stored⟩ := transmitting
  have grown : Tracked opening (past ++ [⟨state, io, (sendCmdBody state io).1⟩]) := by
    rw [Tracked] at tracked ⊢
    rw [outputs_append, ← List.append_assoc, sound_append, tracked, meets_append]
    simp only [outputs_singleton, meets_cons, meets_nil, and_true]
    exact and_congr_right fun meets => (sendCmdBody_sound state io (stored meets)).1
  cases stepped : (sendCmdBody state io).2 with
  | done result => exact grown
  | again next =>
      refine ⟨grown, fun meets => ?_⟩
      simp only [meets_append, meets_cons, meets_nil, and_true] at meets
      have reached := (sendCmdBody_sound state io (stored meets.1)).2 meets.2
      rw [stepped] at reached
      exact reached

theorem cjT1SendCmd_tracked (t1 : T1Info) (hasKeycb : Bool) (apdu : Apdu maxRspLen)
    (sendRet : Exit) (ios : List Io) :
    Sound (cjT1SendCmd t1 hasKeycb apdu sendRet ios).trace ↔
      Meets NumberKept (cjT1SendCmd t1 hasKeycb apdu sendRet ios).turns := by
  obtain ⟨block, built, opens⟩ := cjT1SendCmd_opens t1 hasKeycb apdu sendRet ios
  have opened : Sound [.sentNew t1.ns block] := by
    intro event member
    rw [List.mem_singleton] at member
    rw [member]
    exact ⟨built.wellFormed, fun _ => built.number⟩
  have start : Transmitting [.sentNew t1.ns block] []
      (storeIBlock block (initialState t1 hasKeycb apdu)) :=
    ⟨iff_of_true (by simpa using opened) meets_nil, fun _ => ⟨built.wellFormed, built.iBlock⟩⟩
  rw [opens]
  split
  · have finished := run_invariant (sendCmdBody_transmitting [.sentNew t1.ns block]) [] start ios
    rw [List.nil_append] at finished
    cases ended : (run sendCmdBody
        (storeIBlock block (initialState t1 hasKeycb apdu)) ios).outcome with
    | again state =>
        rw [ended] at finished
        exact finished.tracked
    | done result =>
        rw [ended] at finished
        exact finished
  · exact start.tracked

/-- One call of `cjT1SendCmd` with everything the transport does during it. -/
structure Command where
  maxRspLen : Nat
  apdu : Apdu maxRspLen
  hasKeycb : Bool
  sendRet : Exit
  ios : List Io

def Command.exchange (t1 : T1Info) (command : Command) : SendRun command.maxRspLen :=
  cjT1SendCmd t1 command.hasKeycb command.apdu command.sendRet command.ios

/-- The protocol state a call leaves to the next one. -/
def leftT1 : Next (SendState maxRspLen) (Outcome maxRspLen) → Option T1Info
  | .again _ => none
  | .done (.returned _ final) => some final.t1
  | .done .fault => none

/-- The calls made one after the other; a call that does not return is the last. -/
def session : T1Info → List Command → List ((maxRspLen : Nat) × SendRun maxRspLen)
  | _, [] => []
  | t1, command :: rest =>
      ⟨command.maxRspLen, command.exchange t1⟩ ::
        match leftT1 (command.exchange t1).outcome with
        | some later => session later rest
        | none => []

theorem session_commands (t1 : T1Info) (commands : List Command) :
    ∀ called ∈ session t1 commands, ∃ (before : T1Info) (command : Command), called =
      ⟨command.maxRspLen, command.exchange before⟩ := by
  induction commands generalizing t1 with
  | nil => simp [session]
  | cons command rest ih =>
      intro called member
      rw [session, List.mem_cons] at member
      rcases member with rfl | member
      · exact ⟨t1, command, rfl⟩
      · split at member
        · rename_i later _
          exact ih later called member
        · simp at member

/-- In a session the blocks that go out are sound exactly when no request to
repeat an I-block finds N(S) changed since that block was built. -/
theorem session_sound_iff (commands : List Command) :
    (∀ called ∈ session .opened commands, Sound called.2.trace) ↔
      ∀ called ∈ session .opened commands, Meets NumberKept called.2.turns := by
  have each : ∀ called ∈ session .opened commands,
      Sound called.2.trace ↔ Meets NumberKept called.2.turns := by
    intro called member
    obtain ⟨before, command, rfl⟩ := session_commands .opened commands called member
    exact cjT1SendCmd_tracked before command.hasKeycb command.apdu command.sendRet command.ios
  exact forall_congr' fun called => imp_congr_right fun member => each called member

/-- A command that leaves N(S) at 1, then one whose I-block is asked for again
after a resynchronisation. -/
def resynchedCommands : List Command :=
  [⟨2, .outgoing [0x00, 0x84, 0x00, 0x00, 0x08] 2, false, .ok,
      [.ofBlock [0x00, 0x00, 0x02, 0x90, 0x00, 0x92]]⟩,
    ⟨2, .outgoing [0x00, 0x84, 0x00, 0x00, 0x08] 2, false, .ok,
      [.ofBlock [0x00, 0xC0, 0x00, 0xC0], .ofBlock [0x00, 0x81, 0x00, 0x81]]⟩]

theorem resynchedCommands_not_sound :
    ¬ ∀ called ∈ session .opened resynchedCommands, Sound called.2.trace := by
  decide

end Cyberjack.Ecom
