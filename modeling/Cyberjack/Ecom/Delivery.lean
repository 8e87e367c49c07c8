import Cyberjack.Foundation.Transfer
import Cyberjack.Ecom.SendSteps
import Cyberjack.Ecom.ReceiveSteps

namespace Cyberjack.Ecom

open Cyberjack.Foundation

/-! # Delivery of the command

The new I-blocks of a run carry consecutive pieces of the command.  They carry
all of it when the card does not begin its response while more is to be sent.
-/

variable {maxRspLen : Nat} {cmd : List UInt8} {trace events : List Event}
  {state after : SendState maxRspLen}

def newBlocks (trace : List Event) : List (List UInt8) :=
  trace.filterMap fun event =>
    match event with
    | .sentNew _ block => some block
    | _ => none

@[simp] theorem newBlocks_append (front back : List Event) :
    newBlocks (front ++ back) = newBlocks front ++ newBlocks back := by
  simp [newBlocks]

@[simp] theorem newBlocks_sentNew (ns : UInt8) (block : List UInt8) :
    newBlocks [.sentNew ns block] = [block] := rfl

@[simp] theorem newBlocks_sent (ns : UInt8) (block : List UInt8) :
    newBlocks [.sent ns block] = [] := rfl

theorem newBlocks_supervisory (supervisory : Supervisory events) : newBlocks events = [] := by
  rw [newBlocks, List.filterMap_eq_nil_iff]
  intro event member
  have control := supervisory event member
  cases event with
  | sentNew ns block => exact control.elim
  | sent ns block => rfl
  | accepted rblock => rfl
  | keycb key => rfl

/-- Every I-block sent again carries what the last new one carried. -/
def Repeats (trace : List Event) : Prop :=
  ∀ front ns block back, trace = front ++ .sent ns block :: back → IsIBlock block →
    ∃ last, (newBlocks front).getLast? = some last ∧ inf block = inf last

theorem Repeats.append (repeated : Repeats trace)
    (later : ∀ front ns block back, events = front ++ .sent ns block :: back → IsIBlock block →
      ∃ last, (newBlocks (trace ++ front)).getLast? = some last ∧ inf block = inf last) :
    Repeats (trace ++ events) := by
  intro front ns block back split iBlock
  rcases split_append split with ⟨rest, here⟩ | ⟨rest, rfl, there⟩
  · exact repeated front ns block rest here iBlock
  · exact later rest ns block back there iBlock

theorem Repeats.supervisory (repeated : Repeats trace) (supervisory : Supervisory events) :
    Repeats (trace ++ events) := by
  apply repeated.append
  rintro front ns block back rfl iBlock
  have control := supervisory (.sent ns block) (by simp)
  exact absurd iBlock control.2

/-- What is known of the sending half after a trace. -/
structure Sending (cmd : List UInt8) (trace : List Event) (state : SendState maxRspLen) :
    Prop where
  command : state.apdu.cmd = cmd
  ordered : Consecutive cmd ((newBlocks trace).map inf) state.sendptr
  current : ∃ last, (newBlocks trace).getLast? = some last ∧ inf state.block = inf last ∧
    (HasMore last ↔ state.more = true)
  finished : state.more = false → state.sendptr = cmd.length
  repeated : Repeats trace

@[simp] theorem inf_updatePcb (ns : UInt8) (block : List UInt8) :
    inf (updatePcb ns block) = inf block := by
  rcases block with _ | ⟨nad, _ | ⟨pcb, rest⟩⟩ <;> simp [inf, updatePcb]

theorem Sending.same (sending : Sending cmd trace state) (same : SameSender state after) :
    Sending cmd trace after := by
  obtain ⟨command, ordered, current, finished, repeated⟩ := sending
  obtain ⟨cmd_eq, sendptr_eq, more_eq, block_eq, _⟩ := same
  refine ⟨cmd_eq.trans command, sendptr_eq ▸ ordered, ?_, ?_, repeated⟩
  · rw [block_eq, more_eq]
    exact current
  · rw [sendptr_eq, more_eq]
    exact finished

theorem Sending.supervisory (sending : Sending cmd trace state) (supervisory : Supervisory events) :
    Sending cmd (trace ++ events) state where
  command := sending.command
  ordered := by simpa [newBlocks_supervisory supervisory] using sending.ordered
  current := by simpa [newBlocks_supervisory supervisory] using sending.current
  finished := sending.finished
  repeated := sending.repeated.supervisory supervisory

theorem Sending.resent (sending : Sending cmd trace state) (ns : UInt8) :
    Sending cmd (trace ++ [.sent ns (updatePcb ns state.block)])
      { state with block := updatePcb ns state.block } where
  command := sending.command
  ordered := by simpa using sending.ordered
  current := by simpa using sending.current
  finished := sending.finished
  repeated := by
    obtain ⟨last, newest, same, _⟩ := sending.current
    apply sending.repeated.append
    intro front ns' block back split iBlock
    cases front with
    | nil =>
        simp only [List.nil_append, List.cons.injEq, Event.sent.injEq] at split
        obtain ⟨⟨rfl, rfl⟩, rfl⟩ := split
        exact ⟨last, by simpa using newest, by simpa using same⟩
    | cons event rest => simp at split

/-- The M bit is dropped only from the block that takes the rest of the command. -/
theorem nextMore_false (unfinished : state.more = true) (last : nextMore state = false) :
    sendlen state = state.apdu.cmd.length - state.sendptr := by
  unfold nextMore at last
  split at last
  · assumption
  · rw [unfinished] at last
    contradiction

theorem sending_new {block : List UInt8} {ns : UInt8} (command : state.apdu.cmd = cmd)
    (ordered : Consecutive cmd ((newBlocks trace).map inf) state.sendptr)
    (repeated : Repeats trace) (unfinished : state.more = true)
    (built : BuiltBlock ns (nextMore state) (nextPiece state) block) :
    Sending cmd (trace ++ [.sentNew ns block]) (storeIBlock block state) where
  command := command
  ordered := by
    subst command
    have room : sendlen state ≤ state.apdu.cmd.length - state.sendptr := Nat.min_le_left _ _
    simpa [built.content, nextPiece] using ordered.next room
  current := ⟨block, by simp, rfl, built.moreBit⟩
  finished := by
    intro last
    have rest := nextMore_false unfinished last
    have inside := ordered.inside
    subst command
    rw [storeIBlock_sendptr]
    omega
  repeated := by
    apply repeated.append
    intro front ns' again back split iBlock
    cases front with
    | nil => simp at split
    | cons event rest => simp at split

theorem sendCmdBody_sending (io : Io) (sending : Sending cmd trace state) :
    Reaches (Sending cmd (trace ++ (sendCmdBody state io).1)) (sendCmdBody state io).2 := by
  rcases sendCmdBody_sender io state with
    ⟨supervisory, same⟩ | ⟨_, ours, events, same⟩ | ⟨block, ours, unfinished, built, events, same⟩
  · exact same.imp fun _ same => (sending.supervisory supervisory).same same
  · rw [events]
    exact same.imp fun _ same => (sending.resent _).same same
  · rw [events]
    exact same.imp fun _ same =>
      (sending_new sending.command sending.ordered sending.repeated unfinished built).same same

/-- While more of the command is to be sent the card does not begin its response. -/
def NoEarlyIBlock (state : SendState maxRspLen) (io : Io) : Prop :=
  state.more = true → ¬ IBlockArrives io

instance (state : SendState maxRspLen) (io : Io) : Decidable (NoEarlyIBlock state io) := by
  unfold NoEarlyIBlock
  infer_instance

/-- The part of the law that speaks of every prefix of an exchange. -/
structure InOrder (cmd : List UInt8) (trace : List Event) : Prop where
  ordered : ∃ offset, Consecutive cmd ((newBlocks trace).map inf) offset
  repeated : Repeats trace

structure Delivers (cmd : List UInt8) (result : SendRun maxRspLen) : Prop where
  inOrder : InOrder cmd result.trace
  complete : ∀ final, result.outcome = .done (.returned .ok final) →
    ((newBlocks result.trace).map inf).flatten = cmd ∧
      ∃ last, (newBlocks result.trace).getLast? = some last ∧ ¬ HasMore last

theorem Sending.inOrder (sending : Sending cmd trace state) : InOrder cmd trace :=
  ⟨⟨state.sendptr, sending.ordered⟩, sending.repeated⟩

theorem sendCmdBody_inOrder (io : Io) (sending : Sending cmd trace state) :
    InOrder cmd (trace ++ (sendCmdBody state io).1) := by
  rcases sendCmdBody_sender io state with
    ⟨supervisory, _⟩ | ⟨_, _, events, _⟩ | ⟨block, _, unfinished, built, events, _⟩
  · exact (sending.supervisory supervisory).inOrder
  · rw [events]
    exact (sending.resent _).inOrder
  · rw [events]
    exact (sending_new sending.command sending.ordered sending.repeated unfinished built).inOrder

theorem Sending.delivers {result : SendRun maxRspLen} (sending : Sending cmd result.trace state)
    (sent : state.more = false) : Delivers cmd result := by
  refine ⟨sending.inOrder, ?_⟩
  intro final _
  obtain ⟨last, newest, _, moreBit⟩ := sending.current
  refine ⟨sending.ordered.complete (sending.finished sent), last, newest, ?_⟩
  intro more
  rw [moreBit.mp more] at sent
  contradiction

/-- The card has begun its response too early; the rest of the command stays unsent. -/
def Cut (state : SendState maxRspLen) : Prop := state.more = true ∧ state.lastiicc = true

theorem sendCmdBody_cut (io : Io) (cut : Cut state) : Reaches Cut (sendCmdBody state io).2 := by
  obtain ⟨more, turn⟩ := cut
  rcases sendCmdBody_sender io state with
    ⟨_, same⟩ | ⟨_, ours, _⟩ | ⟨block, ours, _⟩
  · exact same.imp fun _ same => ⟨same.2.2.1.trans more, same.2.2.2.2 turn⟩
  · rw [turn] at ours
    contradiction
  · rw [turn] at ours
    contradiction

theorem sendCmdBody_cuts {io : Io} (arrives : IBlockArrives io) (more : state.more = true) :
    Reaches Cut (sendCmdBody state io).2 := by
  rw [sendCmdBody_iBlock arrives state]
  have same := (onIBlock_answers io.received.rblock io
    { waited state with errcntr := 0, rerrcntr := 0 }).same
  have turn := onIBlock_lastiicc io.received.rblock io
    { waited state with errcntr := 0, rerrcntr := 0 }
  exact (same.and turn).imp fun _ both => ⟨both.1.2.2.1.trans more, both.2⟩

theorem sendCmdBody_sent {io : Io} {final : SendState maxRspLen} (allowed : NoEarlyIBlock state io)
    (ok : (sendCmdBody state io).2 = .done (.returned .ok final)) : final.more = false := by
  have arrives := sendCmdBody_ok ok
  have sent : state.more = false := by
    by_contra unsent
    exact allowed (by simpa using unsent) arrives
  have same := (onIBlock_answers io.received.rblock io
    { waited state with errcntr := 0, rerrcntr := 0 }).same
  rw [← sendCmdBody_iBlock arrives state, ok] at same
  exact same.2.2.1.trans sent

/-- The invariant of the receive loop, over the events since the opening. -/
structure Exchange (cmd : List UInt8) (opening : List Event) (past : SendTurns maxRspLen)
    (state : SendState maxRspLen) : Prop where
  sending : Sending cmd (opening ++ outputs past) state
  onTime : Meets NoEarlyIBlock past ∨ Cut state

/-- What is known where the receive loop has been left. -/
def Settled (cmd : List UInt8) (opening : List Event) (past : SendTurns maxRspLen) :
    Outcome maxRspLen → Prop
  | .fault => InOrder cmd (opening ++ outputs past)
  | .returned ret final => Sending cmd (opening ++ outputs past) final ∧
      (Meets NoEarlyIBlock past → ret = .ok → final.more = false) ∧
      (Meets NoEarlyIBlock past ∨ final.more = true)

theorem sendCmdBody_exchange (opening : List Event) (past : SendTurns maxRspLen)
    (state : SendState maxRspLen) (io : Io) (exchange : Exchange cmd opening past state) :
    (sendCmdBody state io).2.Satisfies
      (Exchange cmd opening (past ++ [⟨state, io, (sendCmdBody state io).1⟩]))
      (Settled cmd opening (past ++ [⟨state, io, (sendCmdBody state io).1⟩])) := by
  obtain ⟨sending, onTime⟩ := exchange
  have later := sendCmdBody_sending io sending
  have inOrder := sendCmdBody_inOrder io sending
  have cut : Meets NoEarlyIBlock past ∧ NoEarlyIBlock state io ∨
      Reaches Cut (sendCmdBody state io).2 := by
    rcases onTime with meets | cut
    · by_cases allowed : NoEarlyIBlock state io
      · exact .inl ⟨meets, allowed⟩
      · rw [NoEarlyIBlock, Classical.not_imp, not_not] at allowed
        exact .inr (sendCmdBody_cuts allowed.2 allowed.1)
    · exact .inr (sendCmdBody_cut io cut)
  cases stepped : (sendCmdBody state io).2 with
  | again next =>
      rw [stepped] at later cut
      refine ⟨by simpa [List.append_assoc] using later, ?_⟩
      simpa [Reaches] using cut
  | done result =>
      cases result with
      | fault => simpa [Settled, List.append_assoc] using inOrder
      | returned ret final =>
          rw [stepped] at later cut
          refine ⟨by simpa [List.append_assoc] using later, ?_, ?_⟩
          · rintro meets rfl
            have allowed : NoEarlyIBlock state io := by
              simpa using (meets_append.mp meets).2
            exact sendCmdBody_sent allowed stepped
          · rcases cut with meets | cut
            · exact .inl (by simpa using meets)
            · exact .inr cut.1

theorem repeats_nil : Repeats [] := by
  intro front ns block back split
  simp at split

theorem cjT1SendCmd_settled (t1 : T1Info) (hasKeycb : Bool) (apdu : Apdu maxRspLen)
    (sendRet : Exit) (ios : List Io) :
    (cjT1SendCmd t1 hasKeycb apdu sendRet ios).outcome.Satisfies
      (Exchange apdu.cmd (cjT1SendCmd t1 hasKeycb apdu sendRet ios).opening
        (cjT1SendCmd t1 hasKeycb apdu sendRet ios).turns)
      (Settled apdu.cmd (cjT1SendCmd t1 hasKeycb apdu sendRet ios).opening
        (cjT1SendCmd t1 hasKeycb apdu sendRet ios).turns) := by
  obtain ⟨block, built, opens⟩ := cjT1SendCmd_opens t1 hasKeycb apdu sendRet ios
  have opened : Sending apdu.cmd [.sentNew t1.ns block]
      (storeIBlock block (initialState t1 hasKeycb apdu)) :=
    sending_new rfl (consecutive_nil apdu.cmd) repeats_nil rfl built
  rw [opens]
  split
  · exact run_invariant (sendCmdBody_exchange [.sentNew t1.ns block])
      [] ⟨by simpa using opened, .inl meets_nil⟩ ios
  · rename_i failed
    exact ⟨by simpa using opened, fun _ ok => absurd ok failed, .inl meets_nil⟩

/-- A run that meets the condition delivers the command, and a successful run
that does not meet it has left a part of the command unsent. -/
theorem delivers_iff_noEarlyIBlock (t1 : T1Info) (hasKeycb : Bool) (apdu : Apdu maxRspLen)
    (sendRet : Exit) (ios : List Io) :
    (Meets NoEarlyIBlock (cjT1SendCmd t1 hasKeycb apdu sendRet ios).turns →
      Delivers apdu.cmd (cjT1SendCmd t1 hasKeycb apdu sendRet ios)) ∧
    ∀ final, (cjT1SendCmd t1 hasKeycb apdu sendRet ios).outcome = .done (.returned .ok final) →
      Delivers apdu.cmd (cjT1SendCmd t1 hasKeycb apdu sendRet ios) →
      Meets NoEarlyIBlock (cjT1SendCmd t1 hasKeycb apdu sendRet ios).turns := by
  have settled := cjT1SendCmd_settled t1 hasKeycb apdu sendRet ios
  generalize cjT1SendCmd t1 hasKeycb apdu sendRet ios = result at settled ⊢
  constructor
  · intro meets
    cases ended : result.outcome with
    | again state =>
        rw [ended] at settled
        refine ⟨settled.sending.inOrder, ?_⟩
        rw [ended]
        intro final ok
        cases ok
    | done left =>
        rw [ended] at settled
        cases left with
        | fault =>
            refine ⟨settled, ?_⟩
            rw [ended]
            intro final ok
            cases ok
        | returned ret state =>
            obtain ⟨sending, complete, _⟩ := settled
            refine ⟨sending.inOrder, ?_⟩
            intro final ok
            rw [ended] at ok
            cases ok
            exact (sending.delivers (complete meets rfl)).complete _ ended
  · intro final ended delivers
    rw [ended] at settled
    obtain ⟨sending, _, onTime⟩ := settled
    obtain ⟨_, last, newest, finalBlock⟩ := delivers.complete final ended
    rcases onTime with meets | more
    · exact meets
    · obtain ⟨last', newest', _, moreBit⟩ := sending.current
      rw [Call.trace, newest', Option.some.injEq] at newest
      subst newest
      exact absurd (moreBit.mpr more) finalBlock

/-- A card that has announced an information field of four bytes. -/
def fourByteCard : T1Info := { T1Info.opened with ifsc := 4 }

/-- The card answers after the first piece. -/
def earlyRun : SendRun 2 :=
  cjT1SendCmd fourByteCard false (.outgoing [0x00, 0x84, 0x00, 0x00, 0x08] 2) .ok
    [.ofBlock [0x00, 0x00, 0x02, 0x90, 0x00, 0x92]]

theorem earlyRun_not_delivers : ¬ Delivers [0x00, 0x84, 0x00, 0x00, 0x08] earlyRun := by
  intro delivers
  obtain ⟨final, ended⟩ : ∃ final, earlyRun.outcome = .done (.returned .ok final) := ⟨_, rfl⟩
  have joined := (delivers.complete final ended).1
  revert joined
  decide

/-- The card acknowledges the first piece before it answers. -/
theorem acknowledgedRun_delivers :
    Delivers [0x00, 0x84, 0x00, 0x00, 0x08]
      (cjT1SendCmd fourByteCard false (.outgoing [0x00, 0x84, 0x00, 0x00, 0x08] 2) .ok
        [.ofBlock [0x00, 0x80, 0x00, 0x80], .ofBlock [0x00, 0x00, 0x02, 0x90, 0x00, 0x92]]) :=
  (delivers_iff_noEarlyIBlock fourByteCard false (.outgoing [0x00, 0x84, 0x00, 0x00, 0x08] 2) .ok
    [.ofBlock [0x00, 0x80, 0x00, 0x80], .ofBlock [0x00, 0x00, 0x02, 0x90, 0x00, 0x92]]).1
    (by decide)

end Cyberjack.Ecom
