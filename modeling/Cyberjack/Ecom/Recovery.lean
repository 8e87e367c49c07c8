import Cyberjack.Foundation.Streak
import Cyberjack.Ecom.SendSteps

namespace Cyberjack.Ecom

open Cyberjack.Foundation

/-! # Error recovery is bounded

Three counters end a command: receive errors and bad blocks in a row, R-blocks
that ask for a repetition in a row, and waiting time extensions.
-/

variable {maxRspLen : Nat} {state : SendState maxRspLen} {io : Io} {rblock : List UInt8}

def Event.IsSent : Event → Bool
  | .sentNew _ _ => true
  | .sent _ _ => true
  | .accepted _ => false
  | .keycb _ => false

/-- A block was handed to `cjIoSendBlock`. -/
def AnsweredBy (events : List Event) : Prop := events.any Event.IsSent = true

instance (events : List Event) : Decidable (AnsweredBy events) :=
  inferInstanceAs (Decidable (events.any Event.IsSent = true))

def Event.IsAccepted : Event → Bool
  | .accepted _ => true
  | .sentNew _ _ => false
  | .sent _ _ => false
  | .keycb _ => false

/-- A receive error or a bad block. -/
def ErrorArrives (io : Io) : Prop :=
  io.received.ret ≠ .ok ∨ cjT1CheckRc io.received.rblock = false

/-- An R-block that does not acknowledge an I-block of the command. -/
def Refusal (state : SendState maxRspLen) (io : Io) : Prop :=
  RBlockArrives io ∧ (state.lastiicc = true ∨ io.received.rblock.getD 1 0 &&& 0x0F ≠ 0x00)

/-- How much waiting time an input adds to the counter. -/
def waitOf (io : Io) : Nat :=
  if SBlockArrives io ∧ io.received.rblock.getD 1 0 = 0xC3 then
    if io.received.rblock.getD 2 0 = 0 then 1 else (io.received.rblock.getD 3 0).toNat
  else 0

instance (io : Io) : Decidable (ErrorArrives io) := by unfold ErrorArrives; infer_instance
instance (state : SendState maxRspLen) (io : Io) : Decidable (Refusal state io) := by
  unfold Refusal
  infer_instance

structure Tally where
  errcntr : Nat
  rerrcntr : Nat
  wtxcntr : Nat

def SendState.tally (state : SendState maxRspLen) : Tally :=
  ⟨state.errcntr, state.rerrcntr, state.wtxcntr⟩

def Tallies (tally : Tally) (pass : Pass maxRspLen) : Prop :=
  pass.2.Satisfies (fun next => next.tally = tally) (fun _ => True)

/-- The loop is left without an answer. -/
def Quits (pass : Pass maxRspLen) : Prop := pass.1 = [] ∧ ∃ result, pass.2 = .done result

theorem giveUp_quits (ret : Exit) (state : SendState maxRspLen) : Quits (giveUp ret state) :=
  ⟨rfl, _, rfl⟩

theorem transmit_tallies (block : List UInt8) (io : Io) (state after : SendState maxRspLen) :
    Tallies after.tally (transmit block io state after) := by
  simp only [Tallies, transmit]
  split
  · rfl
  · trivial

theorem onReceiveError_tallies (io : Io) (state : SendState maxRspLen) :
    Quits (onReceiveError io state) ∨ state.errcntr < 3 ∧
      Tallies ⟨state.errcntr + 1, state.rerrcntr, state.wtxcntr⟩ (onReceiveError io state) := by
  simp only [onReceiveError]
  split
  · exact .inl (giveUp_quits _ _)
  · split
    · exact .inl (giveUp_quits _ _)
    · rename_i few
      exact .inr ⟨by omega, transmit_tallies _ _ _ _⟩

theorem onBadBlock_tallies (io : Io) (state : SendState maxRspLen) :
    Quits (onBadBlock io state) ∨ state.errcntr < 3 ∧
      Tallies ⟨state.errcntr + 1, state.rerrcntr, state.wtxcntr⟩ (onBadBlock io state) := by
  simp only [onBadBlock]
  split
  · exact .inl (giveUp_quits _ _)
  · rename_i few
    exact .inr ⟨by omega, transmit_tallies _ _ _ _⟩

theorem sendNextIBlock_tallies (io : Io) (state : SendState maxRspLen) :
    Tallies ⟨state.errcntr, 0, state.wtxcntr⟩ (sendNextIBlock io state) := by
  simp only [Tallies, sendNextIBlock]
  split
  · trivial
  · split
    · rfl
    · trivial

theorem onRBlock_refusal (io : Io) (state : SendState maxRspLen)
    (refusal : state.lastiicc = true ∨ rblock.getD 1 0 &&& 0x0F ≠ 0x00) :
    Quits (onRBlock rblock io state) ∨ state.rerrcntr < 3 ∧
      Tallies ⟨state.errcntr, state.rerrcntr + 1, state.wtxcntr⟩ (onRBlock rblock io state) := by
  simp only [onRBlock]
  split
  · exact .inl (giveUp_quits _ _)
  · rename_i few
    split
    · exact .inr ⟨by omega, transmit_tallies _ _ _ _⟩
    · split
      · exact .inr ⟨by omega, transmit_tallies _ _ _ _⟩
      · rcases refusal with turn | asked <;> contradiction

theorem onRBlock_acknowledge (io : Io) (state : SendState maxRspLen)
    (acknowledge : ¬ (state.lastiicc = true ∨ rblock.getD 1 0 &&& 0x0F ≠ 0x00)) :
    Quits (onRBlock rblock io state) ∨
      Tallies ⟨state.errcntr, 0, state.wtxcntr⟩ (onRBlock rblock io state) := by
  rw [not_or] at acknowledge
  simp only [onRBlock]
  rw [if_neg acknowledge.1, if_neg acknowledge.2]
  split
  · exact .inl (giveUp_quits _ _)
  · split
    · exact .inl (giveUp_quits _ _)
    · exact .inr (sendNextIBlock_tallies io _)

theorem acceptIBlock_tallies (io : Io) (state : SendState maxRspLen) :
    Tallies state.tally (acceptIBlock rblock io state) := by
  simp only [acceptIBlock]
  split
  · trivial
  · split
    · exact transmit_tallies (cjT1RBlock state.t1.flipNr .ok) io _ _
    · split
      · trivial
      · split <;> trivial

theorem onIBlock_tallies (io : Io) (state : SendState maxRspLen) :
    Tallies state.tally (onIBlock rblock io state) := by
  have turn : (cardTakesTurn rblock state).tally = state.tally := by
    unfold cardTakesTurn
    split <;> rfl
  simp only [onIBlock]
  rw [← turn]
  split
  · exact transmit_tallies _ _ _ _
  · exact acceptIBlock_tallies _ _

/-- The part of `waitOf` that looks at the block. -/
theorem onWtx_tallies (io : Io) (state : SendState maxRspLen) {wait : Nat}
    (wait_eq : wait = if rblock.getD 2 0 = 0 then 1 else (rblock.getD 3 0).toNat) :
    Quits (onWtx rblock io state) ∨ state.wtxcntr + wait ≤ 200 ∧
      Tallies ⟨state.errcntr, state.rerrcntr, state.wtxcntr + wait⟩ (onWtx rblock io state) := by
  simp only [onWtx]
  split
  · rename_i empty
    rw [if_pos empty] at wait_eq
    subst wait_eq
    split
    · exact .inl (giveUp_quits _ _)
    · rename_i few
      exact .inr ⟨by omega, transmit_tallies _ _ _ _⟩
  · rename_i counted
    rw [if_neg counted] at wait_eq
    subst wait_eq
    split
    · exact .inl (giveUp_quits _ _)
    · rename_i few
      exact .inr ⟨by omega, transmit_tallies _ _ _ _⟩

theorem onSBlock_tallies (io : Io) (state : SendState maxRspLen) (other : rblock.getD 1 0 ≠ 0xC3) :
    Tallies state.tally (onSBlock rblock io state) := by
  simp only [onSBlock]
  split
  · exact transmit_tallies _ _ _ _
  · split
    · trivial
    · split
      · exact transmit_tallies _ _ _ _
      · split
        · exact transmit_tallies (cjT1SBlock .key .response 0x00) io state state
        · split
          · rfl
          · split
            · exact transmit_tallies _ _ _ _
            · rfl

/-- What a pass that does not quit makes of the counters. -/
structure Tallied (state : SendState maxRspLen) (io : Io) (after : Tally) : Prop where
  error : ErrorArrives io → state.errcntr < 3 ∧ after.errcntr = state.errcntr + 1
  noError : ¬ ErrorArrives io → after.errcntr = 0
  refusal : Refusal state io → state.rerrcntr < 3 ∧ after.rerrcntr = state.rerrcntr + 1
  noRefusal : ¬ Refusal state io → after.rerrcntr ≤ state.rerrcntr
  wait : after.wtxcntr = state.wtxcntr + waitOf io
  fewWaits : waitOf io ≠ 0 → after.wtxcntr ≤ 200

theorem waitOf_eq_zero (absent : ¬ (SBlockArrives io ∧ io.received.rblock.getD 1 0 = 0xC3)) :
    waitOf io = 0 := if_neg absent

theorem tallied_error (state : SendState maxRspLen) (arrives : ErrorArrives io)
    (few : state.errcntr < 3) :
    Tallied state io ⟨state.errcntr + 1, state.rerrcntr, state.wtxcntr⟩ := by
  have unchecked : ¬ (io.received.ret = .ok ∧ cjT1CheckRc io.received.rblock = true) := by
    rintro ⟨received, checked⟩
    rcases arrives with failed | bad
    · exact failed received
    · rw [checked] at bad
      contradiction
  have noRefusal : ¬ Refusal state io := fun refusal =>
    unchecked ⟨refusal.1.1, refusal.1.2.1⟩
  have noWait : waitOf io = 0 := waitOf_eq_zero fun wtx => unchecked ⟨wtx.1.1, wtx.1.2.1⟩
  exact {
    error := fun _ => ⟨few, rfl⟩
    noError := fun absent => absurd arrives absent
    refusal := fun refusal => absurd refusal noRefusal
    noRefusal := fun _ => Nat.le_refl _
    wait := by rw [noWait]; rfl
    fewWaits := fun wait => absurd noWait wait }

/-- A checked block that is neither a refusal nor a waiting time extension. -/
theorem tallied_checked (state : SendState maxRspLen) {rerrcntr : Nat}
    (checked : ¬ ErrorArrives io) (noRefusal : ¬ Refusal state io)
    (noWait : waitOf io = 0) (kept : rerrcntr ≤ state.rerrcntr) :
    Tallied state io ⟨0, rerrcntr, state.wtxcntr⟩ where
  error := fun error => absurd error checked
  noError := fun _ => rfl
  refusal := fun refusal => absurd refusal noRefusal
  noRefusal := fun _ => kept
  wait := by rw [noWait]; rfl
  fewWaits := fun wait => absurd noWait wait

theorem not_errorArrives (received : io.received.ret = .ok)
    (checked : cjT1CheckRc io.received.rblock = true) : ¬ ErrorArrives io := by
  rintro (failed | bad)
  · exact failed received
  · rw [checked] at bad
    contradiction

theorem sendCmdBody_tallies (state : SendState maxRspLen) (io : Io) :
    Quits (sendCmdBody state io) ∨
      ∃ after, Tallied state io after ∧ Tallies after (sendCmdBody state io) := by
  cases input_cases io with
  | failed failed =>
      rw [sendCmdBody_failed failed]
      rcases onReceiveError_tallies io (waited state) with quits | ⟨few, tallies⟩
      · exact .inl quits
      · exact .inr ⟨_, tallied_error state (.inl failed) few, tallies⟩
  | bad received bad =>
      rw [sendCmdBody_bad received bad]
      rcases onBadBlock_tallies io (waited state) with quits | ⟨few, tallies⟩
      · exact .inl quits
      · exact .inr ⟨_, tallied_error state (.inr bad) few, tallies⟩
  | rBlock arrives =>
      have checked := not_errorArrives arrives.1 arrives.2.1
      have noWait : waitOf io = 0 := waitOf_eq_zero fun wtx => wtx.1.2.2.1 arrives.2.2
      rw [sendCmdBody_rBlock arrives]
      by_cases refusal : state.lastiicc = true ∨ io.received.rblock.getD 1 0 &&& 0x0F ≠ 0x00
      · rcases onRBlock_refusal io { waited state with errcntr := 0 } refusal with
          quits | ⟨few, tallies⟩
        · exact .inl quits
        · refine .inr ⟨_, ?_, tallies⟩
          exact {
            error := fun error => absurd error checked
            noError := fun _ => rfl
            refusal := fun _ => ⟨few, rfl⟩
            noRefusal := fun absent => absurd ⟨arrives, refusal⟩ absent
            wait := by rw [noWait]; rfl
            fewWaits := fun wait => absurd noWait wait }
      · rcases onRBlock_acknowledge io { waited state with errcntr := 0 } refusal with
          quits | tallies
        · exact .inl quits
        · exact .inr ⟨_, tallied_checked state checked (fun refused => refusal refused.2) noWait
            (Nat.zero_le _), tallies⟩
  | iBlock arrives =>
      have noRefusal : ¬ Refusal state io := by
        intro refusal
        have disjoint : ∀ pcb : UInt8, pcb &&& 0x80 = 0x00 → ¬ pcb &&& 0xC0 = 0x80 := by decide
        exact disjoint _ arrives.2.2 refusal.1.2.2
      have noWait : waitOf io = 0 := waitOf_eq_zero fun wtx => wtx.1.2.2.2 arrives.2.2
      rw [sendCmdBody_iBlock arrives]
      exact .inr ⟨_, tallied_checked state (not_errorArrives arrives.1 arrives.2.1) noRefusal noWait
        (Nat.zero_le _), onIBlock_tallies io _⟩
  | sBlock arrives =>
      have checked := not_errorArrives arrives.1 arrives.2.1
      have noRefusal : ¬ Refusal state io := fun refusal => arrives.2.2.1 refusal.1.2.2
      rw [sendCmdBody_sBlock arrives]
      by_cases wtx : io.received.rblock.getD 1 0 = 0xC3
      · have wait : waitOf io = if io.received.rblock.getD 2 0 = 0 then 1
            else (io.received.rblock.getD 3 0).toNat := if_pos ⟨arrives, wtx⟩
        have equation (before : SendState maxRspLen) : onSBlock io.received.rblock io before =
            onWtx io.received.rblock io before := by
          have ifs : ¬ (0xC3 : UInt8) = 0xC1 := by decide
          have abort : ¬ (0xC3 : UInt8) = 0xC2 := by decide
          simp only [onSBlock, wtx, if_neg ifs, if_neg abort, if_true]
        rw [equation]
        rcases onWtx_tallies io { waited state with errcntr := 0, rerrcntr := 0 } wait with
          quits | ⟨few, tallies⟩
        · exact .inl quits
        · refine .inr ⟨_, ?_, tallies⟩
          exact {
            error := fun error => absurd error checked
            noError := fun _ => rfl
            refusal := fun refusal => absurd refusal noRefusal
            noRefusal := fun _ => Nat.zero_le _
            wait := rfl
            fewWaits := fun _ => few }
      · have noWait : waitOf io = 0 := waitOf_eq_zero fun both => wtx both.2
        exact .inr ⟨_, tallied_checked state checked noRefusal noWait (Nat.zero_le _),
          onSBlock_tallies io _ wtx⟩

/-- The command still has bytes to send while its last I-block carries the M bit. -/
def Unsent (state : SendState maxRspLen) : Prop :=
  state.more = true → state.sendptr < state.apdu.cmd.length

theorem storeIBlock_unsent (block : List UInt8) (state : SendState maxRspLen) :
    Unsent (storeIBlock block state) := by
  intro more
  have part : sendlen state ≤ state.apdu.cmd.length - state.sendptr := Nat.min_le_left _ _
  rw [storeIBlock_more, nextMore] at more
  split at more
  · contradiction
  · rename_i short
    change state.sendptr + sendlen state < state.apdu.cmd.length
    omega

theorem Unsent.same {after : SendState maxRspLen} (unsent : Unsent state)
    (same : SameSender state after) : Unsent after := by
  obtain ⟨cmd, sendptr, more, _⟩ := same
  rw [Unsent, cmd, sendptr, more]
  exact unsent

theorem sendCmdBody_unsent (io : Io) (unsent : Unsent state) :
    Reaches Unsent (sendCmdBody state io).2 := by
  rcases sendCmdBody_sender io state with
    ⟨_, same⟩ | ⟨_, _, _, same⟩ | ⟨block, _, _, _, _, same⟩
  · exact same.imp fun _ same => unsent.same same
  · exact same.imp fun after same => by
      obtain ⟨cmd, sendptr, more, _⟩ := same
      rw [Unsent, cmd, sendptr, more]
      exact unsent
  · exact same.imp fun _ same => (storeIBlock_unsent block state).same same

/-- An acknowledgement makes the command advance, whatever the card has
announced as long as it can take a byte. -/
theorem sendCmdBody_progress (io : Io) (unsent : Unsent state) (ifsc : state.t1.ifsc ≠ 0) :
    ∀ ns block, .sentNew ns block ∈ (sendCmdBody state io).1 → inf block ≠ [] := by
  intro ns block member
  rcases sendCmdBody_sender io state with
    ⟨supervisory, _⟩ | ⟨_, _, events, _⟩ | ⟨next, _, unfinished, built, events, _⟩
  · exact (supervisory _ member).elim
  · rw [events] at member
    simp at member
  · rw [events, List.mem_singleton] at member
    cases member
    have room : 0 < state.t1.ifsc.toNat := by
      rcases Nat.eq_zero_or_pos state.t1.ifsc.toNat with zero | positive
      · exact absurd (UInt8.toNat_inj.mp zero) ifsc
      · exact positive
    have rest := unsent unfinished
    rw [built.content, ← List.length_pos_iff, length_nextPiece, sendlen]
    omega

/-- The S-blocks the receive loop has no branch for, with those it throws away. -/
def NoBranch (io : Io) : Prop :=
  SBlockArrives io ∧
    io.received.rblock.getD 1 0 ∉ ([0xC0, 0xC1, 0xC2, 0xC3, 0xC4, 0xF4, 0xE5, 0xF5] : List UInt8)

instance (io : Io) : Decidable (NoBranch io) := by unfold NoBranch; infer_instance

def Counts (before after : SendState maxRspLen) : Prop :=
  before.rerrcntr < after.rerrcntr ∨ before.wtxcntr < after.wtxcntr

/-- A block is answered, accepted or counted. -/
def Handled (before : SendState maxRspLen) (pass : Pass maxRspLen) : Prop :=
  AnsweredBy pass.1 ∨ pass.1.any Event.IsAccepted = true ∨ Reaches (Counts before) pass.2

instance (before after : SendState maxRspLen) : Decidable (Counts before after) := by
  unfold Counts
  infer_instance

instance (before : SendState maxRspLen) (pass : Pass maxRspLen) : Decidable (Handled before pass) := by
  unfold Handled
  infer_instance

theorem transmit_handled (before : SendState maxRspLen) (block : List UInt8) (io : Io)
    (state after : SendState maxRspLen) : Handled before (transmit block io state after) :=
  .inl rfl

theorem onRBlock_handled (io : Io) (state : SendState maxRspLen) :
    Handled state (onRBlock rblock io state) := by
  simp only [onRBlock]
  split
  · exact .inr (.inr (.inl (Nat.lt_succ_self _)))
  · split
    · exact transmit_handled _ _ _ _ _
    · split
      · exact transmit_handled _ _ _ _ _
      · split
        · exact .inr (.inr (.inl (Nat.lt_succ_self _)))
        · rename_i _ unfinished
          have more : state.more = true := by simpa using unfinished
          have ours : state.lastiicc = false := by simpa using ‹¬ state.lastiicc = true›
          obtain ⟨block, continues⟩ := sendNextIBlock_continues io
            (show ({ state with rerrcntr := state.rerrcntr + 1 } : SendState maxRspLen).lastiicc = false
              from ours) more
          refine .inl ?_
          rw [continues.events]
          rfl

theorem onIBlock_handled (io : Io) (state before : SendState maxRspLen) :
    Handled before (onIBlock rblock io state) := by
  simp only [onIBlock]
  split
  · exact transmit_handled _ _ _ _ _
  · refine .inr (.inl ?_)
    simp only [acceptIBlock]
    split
    · rfl
    · split
      · rfl
      · split
        · rfl
        · split <;> rfl

/-- An S-block is answered or its waiting time is counted. -/
def Waits (before : SendState maxRspLen) (pass : Pass maxRspLen) : Prop :=
  AnsweredBy pass.1 ∨ Reaches (fun after => before.wtxcntr < after.wtxcntr) pass.2

theorem onWtx_waits (io : Io) (state : SendState maxRspLen) (few : state.wtxcntr ≤ 200) :
    Waits state (onWtx rblock io state) := by
  simp only [onWtx]
  split
  · split
    · refine .inr ?_
      split <;> exact Nat.lt_succ_self _
    · exact .inl rfl
  · split
    · rename_i excess
      refine .inr ?_
      simp only [giveUp, reaches_returned] at excess ⊢
      omega
    · exact .inl rfl

theorem onSBlock_waits (io : Io) (state : SendState maxRspLen) (few : state.wtxcntr ≤ 200)
    (known : rblock.getD 1 0 ∈ ([0xC0, 0xC1, 0xC2, 0xC3, 0xC4, 0xF4, 0xE5, 0xF5] : List UInt8)) :
    Waits state (onSBlock rblock io state) := by
  simp only [onSBlock]
  split
  · exact .inl rfl
  · split
    · exact .inl rfl
    · split
      · exact onWtx_waits io state few
      · split
        · exact .inl rfl
        · split
          · refine .inl ?_
            simp [AnsweredBy, transmit, Event.IsSent]
          · split
            · rename_i thrown
              simp only [List.mem_cons, List.not_mem_nil] at known
              rcases thrown with thrown | thrown <;> rw [thrown] at known <;> simp at known
            · split
              · exact .inl rfl
              · simp_all

theorem sendCmdBody_handled (state : SendState maxRspLen) (io : Io) (few : state.wtxcntr ≤ 200)
    (checked : ¬ ErrorArrives io) (branch : ¬ NoBranch io) :
    Handled state (sendCmdBody state io) := by
  cases input_cases io with
  | failed failed => exact absurd (.inl failed) checked
  | bad received bad => exact absurd (.inr bad) checked
  | rBlock arrives =>
      rw [sendCmdBody_rBlock arrives]
      exact onRBlock_handled io _
  | iBlock arrives =>
      rw [sendCmdBody_iBlock arrives]
      exact onIBlock_handled io _ _
  | sBlock arrives =>
      have known : io.received.rblock.getD 1 0 ∈
          ([0xC0, 0xC1, 0xC2, 0xC3, 0xC4, 0xF4, 0xE5, 0xF5] : List UInt8) := by
        by_contra unknown
        exact branch ⟨arrives, unknown⟩
      rw [sendCmdBody_sBlock arrives]
      rcases onSBlock_waits io { waited state with errcntr := 0, rerrcntr := 0 } few known with
        answered | counted
      · exact .inl answered
      · exact .inr (.inr (counted.imp fun _ more => .inr more))

abbrev SendTurn (maxRspLen : Nat) := Turn (SendState maxRspLen) Io Event

def ErrorAnswered (turn : SendTurn maxRspLen) : Prop :=
  ErrorArrives turn.input ∧ AnsweredBy turn.output

def RefusalAnswered (turn : SendTurn maxRspLen) : Prop :=
  Refusal turn.before turn.input ∧ AnsweredBy turn.output

/-- A request of waiting time is granted that has no information field or asks
for a positive multiple. -/
def WaitGranted (turn : SendTurn maxRspLen) : Prop :=
  waitOf turn.input ≠ 0 ∧ AnsweredBy turn.output

instance : DecidablePred fun turn : SendTurn maxRspLen => ErrorAnswered turn := fun turn =>
  inferInstanceAs (Decidable (ErrorArrives turn.input ∧ AnsweredBy turn.output))

instance : DecidablePred fun turn : SendTurn maxRspLen => RefusalAnswered turn := fun turn =>
  inferInstanceAs (Decidable (Refusal turn.before turn.input ∧ AnsweredBy turn.output))

instance : DecidablePred fun turn : SendTurn maxRspLen => WaitGranted turn := fun turn =>
  inferInstanceAs (Decidable (waitOf turn.input ≠ 0 ∧ AnsweredBy turn.output))

/-- The bounds on a history of passes. -/
structure Recovers (past : SendTurns maxRspLen) : Prop where
  errors : StreaksWithin ErrorAnswered 3 past
  refusals : StreaksWithin RefusalAnswered 3 past
  waits : (past.countP fun turn => WaitGranted turn) ≤ 200
  progress : ∀ turn ∈ past, turn.before.t1.ifsc ≠ 0 →
    ∀ ns block, .sentNew ns block ∈ turn.output → inf block ≠ []
  handled : ∀ turn ∈ past, ¬ ErrorArrives turn.input → ¬ NoBranch turn.input →
    Handled turn.before (sendCmdBody turn.before turn.input)

/-- The counters bound the history. -/
structure Counting (past : SendTurns maxRspLen) (state : SendState maxRspLen) : Prop where
  recovers : Recovers past
  errors : trailing ErrorAnswered past ≤ state.errcntr
  refusals : trailing RefusalAnswered past ≤ state.rerrcntr
  waits : (past.countP fun turn => WaitGranted turn) ≤ state.wtxcntr
  fewWaits : state.wtxcntr ≤ 200
  unsent : Unsent state

theorem sendCmdBody_counted (state : SendState maxRspLen) (io : Io) :
    let turn : SendTurn maxRspLen := ⟨state, io, (sendCmdBody state io).1⟩
    (ErrorAnswered turn → state.errcntr + 1 ≤ 3) ∧ (RefusalAnswered turn → state.rerrcntr + 1 ≤ 3) ∧
      (WaitGranted turn → state.wtxcntr + 1 ≤ 200) := by
  intro turn
  rcases sendCmdBody_tallies state io with ⟨silent, _⟩ | ⟨after, tallied, _⟩
  · have unanswered : ¬ AnsweredBy turn.output := by
      change ¬ AnsweredBy (sendCmdBody state io).1
      rw [silent]
      decide
    exact ⟨fun error => absurd error.2 unanswered, fun refusal => absurd refusal.2 unanswered,
      fun wait => absurd wait.2 unanswered⟩
  · refine ⟨fun error => ?_, fun refusal => ?_, fun wait => ?_⟩
    · exact (tallied.error error.1).1
    · exact (tallied.refusal refusal.1).1
    · have few := tallied.fewWaits wait.1
      rw [tallied.wait] at few
      have positive : 0 < waitOf io := Nat.pos_of_ne_zero wait.1
      omega

theorem sendCmdBody_again {next : SendState maxRspLen}
    (again : (sendCmdBody state io).2 = .again next) : Tallied state io next.tally := by
  rcases sendCmdBody_tallies state io with ⟨_, result, done⟩ | ⟨after, tallied, tallies⟩
  · rw [again] at done
    contradiction
  · rw [Tallies, again] at tallies
    rw [satisfies_again] at tallies
    rwa [tallies]

theorem Counting.extends {past : SendTurns maxRspLen} (counting : Counting past state) (io : Io) :
    Recovers (past ++ [⟨state, io, (sendCmdBody state io).1⟩]) := by
  obtain ⟨recovers, errors, refusals, waits, fewWaits, unsent⟩ := counting
  obtain ⟨errorCounted, refusalCounted, waitCounted⟩ := sendCmdBody_counted state io
  refine ⟨recovers.errors.counted errors errorCounted,
    recovers.refusals.counted refusals refusalCounted, ?_, ?_, ?_⟩
  · rw [List.countP_append, List.countP_singleton]
    split
    · rename_i granted
      have room := waitCounted (by simpa using granted)
      omega
    · exact recovers.waits
  · intro turn member
    rcases List.mem_append.mp member with member | member
    · exact recovers.progress turn member
    · rw [List.mem_singleton] at member
      rw [member]
      exact sendCmdBody_progress io unsent
  · intro turn member
    rcases List.mem_append.mp member with member | member
    · exact recovers.handled turn member
    · rw [List.mem_singleton] at member
      rw [member]
      exact sendCmdBody_handled state io fewWaits

/-- What is known where the receive loop has been left. -/
def Recovered (past : SendTurns maxRspLen) : Outcome maxRspLen → Prop := fun _ => Recovers past

theorem sendCmdBody_counting (past : SendTurns maxRspLen) (state : SendState maxRspLen) (io : Io)
    (counting : Counting past state) :
    (sendCmdBody state io).2.Satisfies
      (Counting (past ++ [⟨state, io, (sendCmdBody state io).1⟩]))
      (Recovered (past ++ [⟨state, io, (sendCmdBody state io).1⟩])) := by
  have recovers := counting.extends io
  cases stepped : (sendCmdBody state io).2 with
  | done result => exact recovers
  | again next =>
      have tallied := sendCmdBody_again stepped
      have unsent := sendCmdBody_unsent io counting.unsent
      rw [stepped] at unsent
      have waits : next.wtxcntr = state.wtxcntr + waitOf io := tallied.wait
      refine ⟨recovers, ?_, ?_, ?_, ?_, unsent⟩
      · apply trailing_counted counting.errors
        intro error
        exact Nat.le_of_eq (tallied.error error.1).2.symm
      · apply trailing_counted counting.refusals
        intro refusal
        exact Nat.le_of_eq (tallied.refusal refusal.1).2.symm
      · have before := counting.waits
        rw [List.countP_append, List.countP_singleton]
        split
        · rename_i granted
          have wait : WaitGranted (⟨state, io, (sendCmdBody state io).1⟩ : SendTurn maxRspLen) := by
            simpa using granted
          have positive : 0 < waitOf io := Nat.pos_of_ne_zero wait.1
          omega
        · omega
      · by_cases wait : waitOf io = 0
        · have before := counting.fewWaits
          omega
        · exact tallied.fewWaits wait

theorem recovers_nil : Recovers ([] : SendTurns maxRspLen) where
  errors := streaksWithin_nil
  refusals := streaksWithin_nil
  waits := by simp
  progress := by simp
  handled := by simp

/-- Retries, refusals and waiting time are bounded in every exchange, and every
acknowledgement moves the command on. -/
theorem cjT1SendCmd_recovers (t1 : T1Info) (hasKeycb : Bool) (apdu : Apdu maxRspLen)
    (sendRet : Exit) (ios : List Io) :
    Recovers (cjT1SendCmd t1 hasKeycb apdu sendRet ios).turns := by
  obtain ⟨block, _, opens⟩ := cjT1SendCmd_opens t1 hasKeycb apdu sendRet ios
  have start : Counting [] (storeIBlock block (initialState t1 hasKeycb apdu)) :=
    ⟨recovers_nil, Nat.zero_le _, Nat.zero_le _, Nat.zero_le _, Nat.zero_le _,
      storeIBlock_unsent block _⟩
  rw [opens]
  split
  · have finished := run_invariant sendCmdBody_counting [] start ios
    rw [List.nil_append] at finished
    cases ended : (run sendCmdBody
        (storeIBlock block (initialState t1 hasKeycb apdu)) ios).outcome with
    | again state =>
        rw [ended] at finished
        exact finished.recovers
    | done result =>
        rw [ended] at finished
        exact finished
  · exact recovers_nil

/-- A block to throw away passes the checksum and leaves no trace. -/
theorem thrownAway_not_handled :
    ¬ ∀ turn ∈ (cjT1SendCmd .opened false (.outgoing [0x00, 0x84, 0x00, 0x00] 2) .ok
        [.ofBlock [0x00, 0xE6, 0x00, 0xE6]]).turns,
      ¬ ErrorArrives turn.input → Handled turn.before (sendCmdBody turn.before turn.input) := by
  decide

end Cyberjack.Ecom
