import Cyberjack.Foundation.Transfer
import Cyberjack.Ppa.T1Moves

namespace Cyberjack.Ppa

open Cyberjack.Foundation

/-! # Delivery of the command

The new I-blocks carry consecutive pieces of the command, and all of it when the
function succeeds.  The card gets none of them again after it has begun its
response, unless it asks for the last one.
-/

variable {capacity : Nat} {cmd : List UInt8} {trace events : List Event}
  {state next : T1State capacity} {pass : Pass capacity}

/-- The information field of a block, as long as the block says it is. -/
def field (block : List UInt8) : List UInt8 := (block.drop 3).take (block.getD 2 0).toNat

def Event.fresh : Event → Option (List UInt8)
  | .sentNew _ block => some block
  | _ => none

def Event.again : Event → Option (List UInt8)
  | .sent _ block => if IsIBlock block then some block else none
  | _ => none

def newBlocks (trace : List Event) : List (List UInt8) := trace.filterMap Event.fresh

@[simp] theorem newBlocks_append (front back : List Event) :
    newBlocks (front ++ back) = newBlocks front ++ newBlocks back := by
  simp [newBlocks]

@[simp] theorem newBlocks_accepted (content : List UInt8) :
    newBlocks [.accepted content] = [] := rfl

/-- An I-block of the command is sent. -/
def Event.SendsCommand : Event → Prop
  | .sentNew _ _ => True
  | .sent _ block => IsIBlock block
  | .accepted _ => False
  | .iccPowerOff => False

def Event.IsAccepted : Event → Prop
  | .accepted _ => True
  | _ => False

instance : DecidablePred Event.SendsCommand := fun event => by
  cases event <;> unfold Event.SendsCommand <;> infer_instance

instance : DecidablePred Event.IsAccepted := fun event => by
  cases event <;> unfold Event.IsAccepted <;> infer_instance

/-- No I-block of the command follows the first one of the response. -/
def Silent (trace : List Event) : Prop :=
  trace.Pairwise fun earlier later => earlier.IsAccepted → ¬ later.SendsCommand

instance (trace : List Event) : Decidable (Silent trace) := by
  unfold Silent
  infer_instance

/-- Nothing of the command is sent. -/
def Quiet (events : List Event) : Prop := ∀ event ∈ events, ¬ event.SendsCommand

theorem Quiet.fresh (quiet : Quiet events) : newBlocks events = [] := by
  rw [newBlocks, List.filterMap_eq_nil_iff]
  intro event member
  cases event with
  | sentNew bwi block => exact absurd trivial (quiet _ member)
  | sent bwi block => rfl
  | accepted field => rfl
  | iccPowerOff => rfl

theorem Quiet.again (quiet : Quiet events) : ∀ event ∈ events, event.again = none := by
  intro event member
  cases event with
  | sentNew bwi block => rfl
  | sent bwi block => exact if_neg (quiet _ member)
  | accepted field => rfl
  | iccPowerOff => rfl

theorem silent_quiet (quiet : Quiet events) : Silent (trace ++ events) ↔ Silent trace := by
  have inside : Silent events :=
    List.pairwise_of_forall_mem_list fun _ _ later member _ => quiet later member
  rw [Silent, List.pairwise_append]
  exact ⟨fun all => all.1, fun front => ⟨front, inside, fun _ _ later member _ => quiet later member⟩⟩

/-- Before the response has begun everything may be sent. -/
theorem silent_early (unaccepted : ∀ event ∈ trace, ¬ event.IsAccepted)
    (control : ∀ event ∈ events, ¬ event.IsAccepted) : Silent (trace ++ events) := by
  apply List.pairwise_of_forall_mem_list
  intro earlier member later _ accepted
  rcases List.mem_append.mp member with member | member
  · exact absurd accepted (unaccepted earlier member)
  · exact absurd accepted (control earlier member)

theorem field_builtBlock (handle : Handle) (cmd : List UInt8) :
    field (builtBlock handle cmd) = cmd.take (nextInf handle cmd) := by
  have byte := nextInf_le handle cmd
  have inside : nextInf handle cmd ≤ cmd.length := by
    rw [nextInf_eq_min]
    exact Nat.min_le_left _ _
  have length : (builtBlock handle cmd).getD 2 0 = UInt8.ofNat (nextInf handle cmd) := rfl
  have body : (builtBlock handle cmd).drop 3 =
      cmd.take (nextInf handle cmd) ++ epilogue handle (nextBlock handle cmd) := rfl
  have reach : (cmd.take (nextInf handle cmd)).length = nextInf handle cmd := by
    rw [List.length_take]
    omega
  rw [field, length, body, UInt8.toNat_ofNat', Nat.mod_eq_of_lt (by omega)]
  rw [List.take_append_of_le_length (by omega), List.take_of_length_le (by omega)]

/-- What is known of the sending half after a trace; what is left of the
command begins with the block on its way. -/
structure Sending (cmd : List UInt8) (trace : List Event) (state : T1State capacity) : Prop where
  rest : ∃ acknowledged, cmd = acknowledged ++ state.cmd
  ordered : Consecutive cmd ((newBlocks trace).map field)
    (cmd.length - (state.cmd.drop state.INF).length)
  newest : (newBlocks trace).getLast? = some state.stored
  repeated : RepeatsLast Event.fresh Event.again trace
  turn : state.cmd = [] ↔ ∃ event ∈ trace, event.IsAccepted

theorem Sending.append (sending : Sending cmd trace state) (keeps : Keeps state next)
    (unaccepted : ∀ event ∈ events, ¬ event.IsAccepted) (stale : newBlocks events = [])
    (repeated : RepeatsLast Event.fresh Event.again (trace ++ events)) :
    Sending cmd (trace ++ events) next where
  rest := by
    rw [keeps.cmd]
    exact sending.rest
  ordered := by
    rw [newBlocks_append, stale, List.append_nil, keeps.cmd, keeps.INF]
    exact sending.ordered
  newest := by
    rw [newBlocks_append, stale, List.append_nil, keeps.stored]
    exact sending.newest
  repeated := repeated
  turn := by
    rw [keeps.cmd, sending.turn]
    constructor
    · rintro ⟨event, member, accepted⟩
      exact ⟨event, List.mem_append_left _ member, accepted⟩
    · rintro ⟨event, member, accepted⟩
      rcases List.mem_append.mp member with member | member
      · exact ⟨event, member, accepted⟩
      · exact absurd accepted (unaccepted event member)

theorem Controls.quiet (controls : Controls state pass next) :
    Quiet pass.1 ∧ ∀ event ∈ pass.1, ¬ event.IsAccepted := by
  obtain ⟨bwi, block, rfl, control⟩ := controls.sent
  constructor
  · intro event member
    rw [List.mem_singleton] at member
    rw [member]
    exact control
  · intro event member
    rw [List.mem_singleton] at member
    rw [member]
    exact id

theorem Sending.controls (sending : Sending cmd trace state) (controls : Controls state pass next) :
    Sending cmd (trace ++ pass.1) next :=
  sending.append controls.keeps controls.quiet.2 controls.quiet.1.fresh
    (sending.repeated.quiet controls.quiet.1.again)

theorem resent_events {excess : Prop} [Decidable excess] {bwi : UInt8} {block : List UInt8} :
    ∀ event ∈ (if excess then [.iccPowerOff] else []) ++ [Event.sent bwi block],
      event = .iccPowerOff ∨ event = .sent bwi block := by
  intro event member
  split at member
  · simpa using member
  · exact .inr (by simpa using member)

theorem Sending.resent {excess : Prop} [Decidable excess] (sending : Sending cmd trace state)
    (keeps : Keeps state next) (bwi : UInt8) :
    Sending cmd (trace ++ ((if excess then [.iccPowerOff] else []) ++ [.sent bwi state.stored])) next := by
  have stale : ∀ event ∈ (if excess then [.iccPowerOff] else []) ++ [Event.sent bwi state.stored],
      event.fresh = none := by
    intro event member
    rcases resent_events event member with rfl | rfl
    · rfl
    · rfl
  refine sending.append keeps ?_ ?_ ?_
  · intro event member
    rcases resent_events event member with rfl | rfl
    · exact id
    · exact id
  · rw [newBlocks, List.filterMap_eq_nil_iff]
    exact stale
  · refine sending.repeated.resend sending.newest stale ?_
    intro event member other same
    rcases resent_events event member with rfl | rfl
    · contradiction
    · simp only [Event.again] at same
      split at same
      · exact (Option.some.inj same).symm
      · contradiction

theorem Sending.fresh {acknowledged : T1State capacity} {bwi : UInt8}
    (rest : ∃ sent, cmd = sent ++ acknowledged.cmd)
    (ordered : Consecutive cmd ((newBlocks trace).map field) (cmd.length - acknowledged.cmd.length))
    (repeated : RepeatsLast Event.fresh Event.again trace)
    (unaccepted : ∀ event ∈ trace, ¬ event.IsAccepted) (unsent : acknowledged.cmd ≠ [])
    (builds : Builds acknowledged next) :
    Sending cmd (trace ++ [.sentNew bwi (builtBlock acknowledged.handle acknowledged.cmd)]) next where
  rest := by
    rw [builds.cmd]
    exact rest
  ordered := by
    obtain ⟨sent, split⟩ := rest
    have inside : nextInf acknowledged.handle acknowledged.cmd ≤ acknowledged.cmd.length := by
      rw [nextInf_eq_min]
      exact Nat.min_le_left _ _
    have later := ordered.next_rest split inside
    rw [newBlocks_append, List.map_append, builds.cmd, builds.INF]
    simpa only [newBlocks, Event.fresh, List.filterMap_cons, List.filterMap_nil, List.map_cons,
      List.map_nil, field_builtBlock] using later
  newest := by
    rw [newBlocks_append, builds.stored]
    simp [newBlocks, Event.fresh]
  repeated := repeated.quiet (by simp [Event.again])
  turn := by
    rw [builds.cmd]
    refine ⟨fun sent => absurd sent unsent, ?_⟩
    rintro ⟨event, member, accepted⟩
    rcases List.mem_append.mp member with member | member
    · exact absurd accepted (unaccepted event member)
    · rw [List.mem_singleton] at member
      rw [member] at accepted
      exact accepted.elim

theorem Sending.unaccepted (sending : Sending cmd trace state) (unsent : state.cmd ≠ []) :
    ∀ event ∈ trace, ¬ event.IsAccepted :=
  fun event member accepted => unsent (sending.turn.mpr ⟨event, member, accepted⟩)

theorem Sending.acknowledged {acknowledged : T1State capacity} {bwi : UInt8}
    (sending : Sending cmd trace state) (more : state.cmd.drop state.INF ≠ [])
    (same : acknowledged.cmd = state.cmd.drop state.INF) (builds : Builds acknowledged next) :
    Sending cmd (trace ++ [.sentNew bwi (builtBlock acknowledged.handle acknowledged.cmd)]) next := by
  have unsent : state.cmd ≠ [] := by
    intro empty
    rw [empty, List.drop_nil] at more
    exact more rfl
  refine Sending.fresh ?_ ?_ sending.repeated (sending.unaccepted unsent) (same ▸ more) builds
  · obtain ⟨sent, split⟩ := sending.rest
    refine ⟨sent ++ state.cmd.take state.INF, ?_⟩
    rw [same, List.append_assoc, List.take_append_drop]
    exact split
  · rw [same]
    exact sending.ordered

/-- The response begins when the whole command has been sent. -/
theorem Sending.accepted {after : T1State capacity} (content : List UInt8)
    (sending : Sending cmd trace state) (accepts : Accepts state after)
    (last : state.cmd.drop state.INF = []) (stored : after.stored = state.stored) :
    Sending cmd (trace ++ [.accepted content]) after where
  rest := by
    rw [accepts.cmd, last]
    exact ⟨cmd, (List.append_nil cmd).symm⟩
  ordered := by
    have ordered := sending.ordered
    rw [last] at ordered
    rw [newBlocks_append, newBlocks_accepted, List.append_nil, accepts.cmd, last, List.drop_nil]
    exact ordered
  newest := by
    rw [newBlocks_append, newBlocks_accepted, List.append_nil, stored]
    exact sending.newest
  repeated := sending.repeated.quiet (by simp [Event.again])
  turn := by
    rw [accepts.cmd, last]
    exact ⟨fun _ => ⟨.accepted content, by simp, trivial⟩, fun _ => rfl⟩

theorem Moves.sending {judged : Verdict} (moves : Moves state judged pass)
    (sending : Sending cmd trace state) (again : pass.2 = .again next) :
    Sending cmd (trace ++ pass.1) next := by
  cases moves with
  | ended silent failed unaccepted unrepeated room => contradiction
  | refused controls handle few error =>
      have later := sending.controls controls
      obtain ⟨_, _, rfl, _⟩ := controls.sent
      cases again
      exact later
  | overrun noRoom => contradiction
  | answered room controls installed error =>
      have later := sending.controls controls
      obtain ⟨_, _, rfl, _⟩ := controls.sent
      cases again
      exact later
  | resent keeps ready handle error =>
      cases again
      exact sending.resent keeps _
  | acknowledged builds installed more same =>
      cases again
      exact sending.acknowledged more (congrArg T1State.cmd same) builds
  | acceptOverrun noRoom => contradiction
  | finished room accepts success last => contradiction
  | chained room accepts controls handle error last =>
      have stored := accepts.stored
      have later := (sending.accepted state.inf accepts last stored).controls controls
      obtain ⟨_, _, rfl, _⟩ := controls.sent
      cases again
      rwa [List.append_assoc] at later

/-- An R-block of the card that asks for the last one of the command again does
not arrive once the response has begun. -/
def NoLateRepeat (state : T1State capacity) (reply : Reply) : Prop :=
  state.cmd = [] → verdict (receive reply state) ≠ .repeats

instance (state : T1State capacity) (reply : Reply) : Decidable (NoLateRepeat state reply) := by
  unfold NoLateRepeat
  infer_instance

theorem Moves.silent {judged : Verdict} (moves : Moves state judged pass)
    (sending : Sending cmd trace state) (ready : Ready state) :
    Silent (trace ++ pass.1) ↔ Silent trace ∧ (state.cmd = [] → judged ≠ .repeats) := by
  have quiet : ∀ {events : List Event}, Quiet events → judged ≠ .repeats →
      (Silent (trace ++ events) ↔ Silent trace ∧ (state.cmd = [] → judged ≠ .repeats)) := by
    intro events quiet other
    rw [silent_quiet quiet]
    exact ⟨fun silent => ⟨silent, fun _ => other⟩, fun both => both.1⟩
  have early : state.cmd ≠ [] → (∀ event ∈ pass.1, ¬ event.IsAccepted) →
      (Silent (trace ++ pass.1) ↔ Silent trace ∧ (state.cmd = [] → judged ≠ .repeats)) := by
    intro unsent control
    have unaccepted := sending.unaccepted unsent
    refine ⟨fun _ => ⟨?_, fun sent => absurd sent unsent⟩, fun _ => silent_early unaccepted control⟩
    have whole : Silent (trace ++ []) := silent_early unaccepted (by simp)
    rwa [List.append_nil] at whole
  cases moves with
  | ended silent failed unaccepted unrepeated room =>
      rcases silent with rfl | rfl
      · exact quiet (by simp [Quiet]) unrepeated
      · exact quiet (by simp [Quiet, Event.SendsCommand]) unrepeated
  | refused controls handle few error => exact quiet controls.quiet.1 (by simp)
  | overrun noRoom => exact quiet (by simp [Quiet]) (by decide)
  | answered room controls installed error => exact quiet controls.quiet.1 (by decide)
  | resent keeps resendable handle error =>
      by_cases sent : state.cmd = []
      · refine ⟨fun silent => ?_, fun both => absurd rfl (both.2 sent)⟩
        obtain ⟨event, member, accepted⟩ := sending.turn.mp sent
        have resent : Event.sent state.xwt state.stored ∈
            (if int32 (state.error + 1) > 2 then [.iccPowerOff] else []) ++
              [.sent state.xwt state.stored] := by simp
        exact absurd (stored_iBlock ready)
          ((List.pairwise_append.mp silent).2.2 event member _ resent accepted)
      · apply early sent
        intro event member
        rcases resent_events event member with rfl | rfl
        · exact id
        · exact id
  | acknowledged builds installed more same =>
      apply early
      · intro empty
        rw [empty, List.drop_nil] at more
        exact more rfl
      · simp [Event.IsAccepted]
  | acceptOverrun noRoom => exact quiet (by simp [Quiet, Event.SendsCommand]) (by decide)
  | finished room accepts success last =>
      exact quiet (by simp [Quiet, Event.SendsCommand]) (by decide)
  | chained room accepts controls handle error last =>
      refine quiet ?_ (by decide)
      intro event member
      rcases List.mem_cons.mp member with rfl | member
      · exact id
      · exact controls.quiet.1 event member

/-- The part of the law that speaks of every prefix of an exchange. -/
structure InOrder (cmd : List UInt8) (trace : List Event) : Prop where
  ordered : ∃ offset, Consecutive cmd ((newBlocks trace).map field) offset
  repeated : RepeatsLast Event.fresh Event.again trace

structure Delivers (cmd : List UInt8) (result : T1Run capacity) : Prop where
  inOrder : InOrder cmd result.trace
  complete : ∀ final, result.outcome = .done (.returned final) → final.Result = .success →
    ((newBlocks result.trace).map field).flatten = cmd
  silent : Silent result.trace

theorem Sending.inOrder (sending : Sending cmd trace state) : InOrder cmd trace :=
  ⟨⟨_, sending.ordered⟩, sending.repeated⟩

theorem Moves.quiet {judged : Verdict} {outcome : Outcome capacity} (moves : Moves state judged pass)
    (done : pass.2 = .done outcome) : Quiet pass.1 := by
  cases moves with
  | ended silent failed unaccepted unrepeated room =>
      rcases silent with rfl | rfl
      · simp [Quiet]
      · simp [Quiet, Event.SendsCommand]
  | refused controls handle few error => exact controls.quiet.1
  | overrun noRoom => simp [Quiet]
  | answered room controls installed error => exact controls.quiet.1
  | resent keeps resendable handle error => contradiction
  | acknowledged builds installed more same => contradiction
  | acceptOverrun noRoom => simp [Quiet, Event.SendsCommand]
  | finished room accepts success last => simp [Quiet, Event.SendsCommand]
  | chained room accepts controls handle error last =>
      obtain ⟨_, _, rfl, _⟩ := controls.sent
      contradiction

theorem Moves.inOrder {judged : Verdict} (moves : Moves state judged pass)
    (sending : Sending cmd trace state) : InOrder cmd (trace ++ pass.1) := by
  cases stepped : pass.2 with
  | again next => exact (moves.sending sending stepped).inOrder
  | done outcome =>
      have quiet := moves.quiet stepped
      obtain ⟨offset, ordered⟩ := sending.inOrder.ordered
      refine ⟨⟨offset, ?_⟩, sending.repeated.quiet quiet.again⟩
      rw [newBlocks_append, quiet.fresh, List.append_nil]
      exact ordered

/-- Success is returned when the last I-block of the response has been accepted. -/
theorem Moves.complete {judged : Verdict} {final : T1State capacity} (moves : Moves state judged pass)
    (sending : Sending cmd trace state) (done : pass.2 = .done (.returned final))
    (success : final.Result = .success) :
    ((newBlocks (trace ++ pass.1)).map field).flatten = cmd := by
  cases moves with
  | ended silent failed unaccepted unrepeated room =>
      cases done
      exact absurd success failed
  | refused controls handle few error =>
      obtain ⟨_, _, rfl, _⟩ := controls.sent
      contradiction
  | overrun noRoom => cases done
  | answered room controls installed error =>
      obtain ⟨_, _, rfl, _⟩ := controls.sent
      contradiction
  | resent keeps resendable handle error => contradiction
  | acknowledged builds installed more same => contradiction
  | acceptOverrun noRoom => cases done
  | finished room accepts success last =>
      have ordered := sending.ordered
      rw [last] at ordered
      rw [newBlocks_append, newBlocks_accepted, List.append_nil]
      exact ordered.complete rfl
  | chained room accepts controls handle error last =>
      obtain ⟨_, _, rfl, _⟩ := controls.sent
      contradiction

/-- The invariant of the inner loop, over the events since the opening. -/
structure Exchange (cmd : List UInt8) (opening : List Event) (past : T1Turns capacity)
    (state : T1State capacity) : Prop where
  running : Running state
  sending : Sending cmd (opening ++ outputs past) state
  silent : Silent (opening ++ outputs past) ↔ Meets NoLateRepeat past

/-- What is known where the function has returned. -/
structure Settled (cmd : List UInt8) (opening : List Event) (past : T1Turns capacity)
    (outcome : Outcome capacity) : Prop where
  inOrder : InOrder cmd (opening ++ outputs past)
  complete : ∀ final, outcome = .returned final → final.Result = .success →
    ((newBlocks (opening ++ outputs past)).map field).flatten = cmd
  silent : Silent (opening ++ outputs past) ↔ Meets NoLateRepeat past

theorem innerLoopBody_exchange (opening : List Event) (past : T1Turns capacity)
    (state : T1State capacity) (reply : Reply) (exchange : Exchange cmd opening past state) :
    (innerLoopBody state reply).2.Satisfies
      (Exchange cmd opening (past ++ [⟨state, reply, (innerLoopBody state reply).1⟩]))
      (Settled cmd opening (past ++ [⟨state, reply, (innerLoopBody state reply).1⟩])) := by
  obtain ⟨running, sending, silent⟩ := exchange
  have moves := innerLoopBody_moves running reply
  have received : Sending cmd (opening ++ outputs past) (receive reply state) :=
    ⟨sending.rest, sending.ordered, sending.newest, sending.repeated, sending.turn⟩
  have quiet := moves.silent received (running.received reply).toReady
  have trace : opening ++ outputs (past ++ [⟨state, reply, (innerLoopBody state reply).1⟩]) =
      opening ++ outputs past ++ (innerLoopBody state reply).1 := by
    rw [outputs_append, outputs_singleton, List.append_assoc]
  have silent' : Silent (opening ++ outputs past ++ (innerLoopBody state reply).1) ↔
      Meets NoLateRepeat (past ++ [⟨state, reply, (innerLoopBody state reply).1⟩]) := by
    rw [quiet, silent, meets_append, meets_cons]
    exact ⟨fun both => ⟨both.1, both.2, meets_nil⟩, fun all => ⟨all.1, all.2.1⟩⟩
  cases stepped : (innerLoopBody state reply).2 with
  | again next =>
      refine ⟨moves.running (running.received reply) stepped, ?_, ?_⟩
      · rw [trace]
        exact moves.sending received stepped
      · rw [trace]
        exact silent'
  | done outcome =>
      refine ⟨?_, ?_, ?_⟩
      · rw [trace]
        exact moves.inOrder received
      · rintro final rfl success
        rw [trace]
        exact moves.complete received stepped success
      · rw [trace]
        exact silent'

theorem APDU2TPDU_T1_settled {handle : Handle} (installed : Installed handle) (cmd : List UInt8)
    (response : Buffer UInt8 capacity) (frame : Frame) (replies : List Reply) :
    (APDU2TPDU_T1 handle cmd response frame replies).outcome.Satisfies
      (Exchange cmd (APDU2TPDU_T1 handle cmd response frame replies).opening
        (APDU2TPDU_T1 handle cmd response frame replies).turns)
      (Settled cmd (APDU2TPDU_T1 handle cmd response frame replies).opening
        (APDU2TPDU_T1 handle cmd response frame replies).turns) := by
  rw [APDU2TPDU_T1, call_opening]
  apply call_invariant (innerLoopBody_exchange _)
  by_cases empty : cmd = []
  · subst empty
    rw [outerLoop_empty rfl]
    exact ⟨⟨⟨0, consecutive_nil []⟩, repeatsLast_nil⟩, fun _ _ _ => rfl,
      iff_of_true .nil meets_nil⟩
  · obtain ⟨next, opens, builds⟩ := outerLoop_builds
      (initialState handle cmd response frame) installed empty
    rw [opens]
    refine ⟨builds.running (builds.handle ▸ installed), ?_, ?_⟩
    · rw [← List.nil_append [_]]
      refine Sending.fresh ⟨[], rfl⟩ ?_ repeatsLast_nil (by simp) empty builds
      have start := consecutive_nil cmd
      rwa [← Nat.sub_self cmd.length] at start
    · exact iff_of_true (List.pairwise_singleton _ _) meets_nil

/-- The command is delivered exactly in the runs in which the card does not ask
for its last block after it has begun the response. -/
theorem delivers_iff_noLateRepeat {handle : Handle} (installed : Installed handle)
    (cmd : List UInt8) (response : Buffer UInt8 capacity) (frame : Frame) (replies : List Reply) :
    Delivers cmd (APDU2TPDU_T1 handle cmd response frame replies) ↔
      Meets NoLateRepeat (APDU2TPDU_T1 handle cmd response frame replies).turns := by
  have settled := APDU2TPDU_T1_settled installed cmd response frame replies
  generalize APDU2TPDU_T1 handle cmd response frame replies = result at settled ⊢
  cases ended : result.outcome with
  | again state =>
      rw [ended] at settled
      refine ⟨fun delivers => settled.silent.mp delivers.silent, fun meets => ?_⟩
      refine ⟨settled.sending.inOrder, ?_, settled.silent.mpr meets⟩
      intro final returned
      rw [ended] at returned
      contradiction
  | done outcome =>
      rw [ended] at settled
      refine ⟨fun delivers => settled.silent.mp delivers.silent, fun meets => ?_⟩
      refine ⟨settled.inOrder, ?_, settled.silent.mpr meets⟩
      intro final returned
      rw [ended] at returned
      cases returned
      exact settled.complete final rfl

/-- The whole command has been sent when the response comes in two blocks. -/
theorem chainedResponse_delivers :
    Installed .opened ∧ Delivers [0x00, 0x84, 0x00, 0x00]
      (APDU2TPDU_T1 .opened [0x00, 0x84, 0x00, 0x00] (.filled 8 0) .zeroed
        [.ofBlock [0x00, 0x20, 0x01, 0x11, 0x30], .ofBlock [0x00, 0x40, 0x02, 0x90, 0x00, 0xD2]]) :=
  ⟨by decide, (delivers_iff_noLateRepeat (by decide) _ _ _ _).mpr (by decide +kernel)⟩

/-- Between the two blocks the card asks for the command again, and gets it. -/
theorem lateRepeat_not_delivers :
    ¬ Delivers [0x00, 0x84, 0x00, 0x00]
      (APDU2TPDU_T1 .opened [0x00, 0x84, 0x00, 0x00] (.filled 8 0) .zeroed
        [.ofBlock [0x00, 0x20, 0x01, 0x11, 0x30], .ofBlock [0x00, 0x80, 0x00, 0x80],
          .ofBlock [0x00, 0x40, 0x02, 0x90, 0x00, 0xD2]]) := by
  intro delivers
  exact absurd delivers.silent (by decide +kernel)

end Cyberjack.Ppa
