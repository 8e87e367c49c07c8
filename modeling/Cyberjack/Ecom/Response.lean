import Cyberjack.Ecom.ReceiveSteps
import Cyberjack.Ecom.SendSteps

namespace Cyberjack.Ecom

open Cyberjack.Foundation

/-! # Assembly of the response

The receive loop refines the receiver of an alternating-bit exchange: what it
has copied into the response array is what that receiver has accepted, as long
as the running length is a 32-bit number.
-/

variable {maxRspLen length : Nat} {before state after : SendState maxRspLen}
  {rblock : List UInt8}

def acceptedBlocks (trace : List Event) : List (List UInt8) :=
  trace.filterMap fun event =>
    match event with
    | .accepted rblock => some rblock
    | _ => none

@[simp] theorem acceptedBlocks_nil : acceptedBlocks [] = [] := rfl

@[simp] theorem acceptedBlocks_append (front back : List Event) :
    acceptedBlocks (front ++ back) = acceptedBlocks front ++ acceptedBlocks back := by
  simp [acceptedBlocks]

@[simp] theorem acceptedBlocks_accepted (events : List Event) :
    acceptedBlocks (.accepted rblock :: events) = rblock :: acceptedBlocks events := rfl

theorem acceptedBlocks_silent {events : List Event} (silent : ∀ block, .accepted block ∉ events) :
    acceptedBlocks events = [] := by
  rw [acceptedBlocks, List.filterMap_eq_nil_iff]
  intro event member
  cases event with
  | accepted block => exact absurd member (silent block)
  | sentNew ns block => rfl
  | sent ns block => rfl
  | keycb key => rfl

theorem length_inf (checked : cjT1CheckRc rblock = true) :
    (inf rblock).length = (rblock.getD 2 0).toNat := by
  have wellFormed := cjT1CheckRc_iff.mp checked
  have header := wellFormed.header
  have counted := wellFormed.counted
  simp only [inf, List.length_take, List.length_drop]
  omega

@[simp] theorem cardTakesTurn_nr (rblock : List UInt8) (state : SendState maxRspLen) :
    (cardTakesTurn rblock state).t1.nr = state.t1.nr := by
  unfold cardTakesTurn
  split <;> rfl

@[simp] theorem cardTakesTurn_expected (rblock : List UInt8) (state : SendState maxRspLen) :
    (cardTakesTurn rblock state).t1.expected = state.t1.expected := by
  simp [T1Info.expected]

@[simp] theorem cardTakesTurn_rsp (rblock : List UInt8) (state : SendState maxRspLen) :
    (cardTakesTurn rblock state).apdu.rsp = state.apdu.rsp := by
  unfold cardTakesTurn
  split <;> rfl

@[simp] theorem cardTakesTurn_rsplen (rblock : List UInt8) (state : SendState maxRspLen) :
    (cardTakesTurn rblock state).rsplen = state.rsplen := by
  unfold cardTakesTurn
  split <;> rfl

theorem onIBlock_rejects (io : Io) (state : SendState maxRspLen)
    (numbered : cjT1GetN rblock ≠ state.t1.nr) :
    Keeps (.piece (cjT1GetN rblock != 0) (inf rblock)) state (onIBlock rblock io state) := by
  have unexpected : ¬ (cjT1GetN rblock != 0) = state.t1.expected := by
    rwa [getN_expected]
  simp only [onIBlock, cardTakesTurn_nr]
  rw [if_pos numbered]
  refine transmit_keeps io ⟨cardTakesTurn_rsp _ _, cardTakesTurn_rsplen _ _, ?_⟩
  rw [cardTakesTurn_expected, Arrival.expected, if_neg unexpected]

theorem onIBlock_accepts (io : Io) (numbered : cjT1GetN rblock = state.t1.nr) :
    onIBlock rblock io state = acceptIBlock rblock io (cardTakesTurn rblock state) := by
  simp only [onIBlock, cardTakesTurn_nr]
  rw [if_neg (by simpa using numbered)]

/-- The receiving half after an accepted block; the copy is made when there is room. -/
structure Stored (rblock : List UInt8) (before after : SendState maxRspLen) : Prop where
  length : after.rsplen = before.rsplen + (inf rblock).length
  expected : after.t1.expected = !before.t1.expected
  copied : ∀ offset : Nat, before.rsplen = offset → offset + (inf rblock).length ≤ maxRspLen →
    after.apdu.rsp.cells.take (offset + (inf rblock).length) =
      before.apdu.rsp.cells.take offset ++ inf rblock

/-- The end of a command that has received a response. -/
structure Complete (final : SendState maxRspLen) : Prop where
  recorded : final.apdu.rsplen = final.rsplen
  statusWord : 2 ≤ final.rsplen
  fits : final.rsplen ≤ maxRspLen

/-- How a pass leaves the loop after an accepted block. -/
def Ends (rblock : List UInt8) (before : SendState maxRspLen) : Outcome maxRspLen → Prop
  | .returned ret final => ret = .ok → Stored rblock before final ∧ Complete final
  | .fault => False

theorem acceptIBlock_accepted (io : Io) (state : SendState maxRspLen) :
    acceptedBlocks (acceptIBlock rblock io state).1 = [rblock] := by
  simp only [acceptIBlock]
  split
  · rfl
  · split
    · rfl
    · split
      · rfl
      · split <;> rfl

/-- The copy an accepted block causes, when the sum is a 32-bit number. -/
theorem acceptIBlock_copies (length : Nat) (buffer : Buffer UInt8 maxRspLen) (data : List UInt8) :
    ∃ rsp : Buffer UInt8 maxRspLen,
      (if length + data.length ≤ maxRspLen then buffer.store? length data else some buffer) =
        some rsp ∧
      (length + data.length ≤ maxRspLen →
        rsp.cells.take (length + data.length) = buffer.cells.take length ++ data) := by
  by_cases room : length + data.length ≤ maxRspLen
  · refine ⟨buffer.store length data room, ?_, fun _ => Buffer.take_store buffer room⟩
    rw [if_pos room, Buffer.store?_of_room buffer room]
  · exact ⟨buffer, by rw [if_neg room], fun fits => absurd fits room⟩

theorem acceptIBlock_stores (io : Io) (checked : cjT1CheckRc rblock = true)
    (counted : state.rsplen = length) (bound : length + (inf rblock).length < 2147483648) :
    (acceptIBlock rblock io state).2.Satisfies (Stored rblock state) (Ends rblock state) := by
  have len := length_inf checked
  have sum : int32 (state.rsplen + (rblock.getD 2 0).toNat) =
      ((length + (inf rblock).length : Nat) : Int) := by
    rw [int32_of_range (by omega) (by omega)]
    omega
  obtain ⟨rsp, copied, content⟩ :=
    acceptIBlock_copies length state.apdu.rsp (inf rblock)
  have stored (final : SendState maxRspLen) (rsplen : final.rsplen = length + (inf rblock).length)
      (expected : final.t1.expected = !state.t1.expected) (same : final.apdu.rsp = rsp) :
      Stored rblock state final := by
    refine ⟨by rw [rsplen, counted], expected, ?_⟩
    intro offset start fits
    obtain rfl : length = offset := by omega
    rw [same]
    exact content fits
  simp only [acceptIBlock, sum, Int.ofNat_le]
  simp only [counted, copied]
  split
  · simp only [transmit]
    split
    · exact stored _ (by simp) (by simp) rfl
    · rename_i failed
      exact fun ok => absurd ok failed
  · split
    · intro ok
      cases ok
    · split
      · intro ok
        cases ok
      · intro _
        refine ⟨stored _ (by simp) (by simp) rfl, rfl, ?_, ?_⟩
        · simp only
          omega
        · simp only
          omega

/-- Beyond 32 bits the sum is negative, the capacity test passes and the copy
goes far beyond the array. -/
theorem acceptIBlock_overflows (io : Io) (int : maxRspLen < 2147483648)
    (checked : cjT1CheckRc rblock = true) (counted : state.rsplen = length)
    (inside : length < 2147483648) (excess : 2147483648 ≤ length + (inf rblock).length) :
    (acceptIBlock rblock io state).2 = .done .fault := by
  have len := length_inf checked
  have byte := (rblock.getD 2 0).toNat_lt
  have sum : int32 (state.rsplen + (rblock.getD 2 0).toNat) ≤ maxRspLen := by
    rw [int32, Int.bmod_def]
    split <;> omega
  have outside : state.apdu.rsp.store? state.rsplen (inf rblock) = none := by
    rw [Buffer.store?_eq_none]
    omega
  simp only [acceptIBlock]
  rw [if_pos sum, outside]

/-- The response grows by a block that is accepted; its length stays a 32-bit number. -/
def InRange (state : SendState maxRspLen) (io : Io) : Prop :=
  IBlockArrives io → cjT1GetN io.received.rblock = state.t1.nr →
    state.rsplen + (inf io.received.rblock).length < 2147483648

instance (state : SendState maxRspLen) (io : Io) : Decidable (InRange state io) := by
  unfold InRange
  infer_instance

/-- What the receiver of the exchange has accepted from the inputs. -/
def receivedFrom (expected : Bool) (past : SendTurns maxRspLen) : Bool × List (List UInt8) :=
  receive expected (past.map fun turn => arrivalOf turn.input)

theorem receivedFrom_snoc (expected : Bool) (past : SendTurns maxRspLen) (state : SendState maxRspLen)
    (io : Io) (events : List Event) :
    receivedFrom expected (past ++ [⟨state, io, events⟩]) =
      ((arrivalOf io).expected (receivedFrom expected past).1,
        (receivedFrom expected past).2 ++ (arrivalOf io).accepted (receivedFrom expected past).1) := by
  simp [receivedFrom, receive_snoc]

/-- The receiving half holds what the receiver of the exchange has accepted. -/
structure Holds (response : Bool × List (List UInt8)) (state : SendState maxRspLen) : Prop where
  expected : state.t1.expected = response.1
  length : state.rsplen = response.2.flatten.length
  inRange : response.2.flatten.length < 2147483648
  content : response.2.flatten.length ≤ maxRspLen →
    state.apdu.rsp.cells.take response.2.flatten.length = response.2.flatten

theorem Holds.expects {response : Bool × List (List UInt8)} {arrival : Arrival (List UInt8)}
    (holds : Holds response state) (expects : Expects arrival state after)
    (refused : arrival.accepted response.1 = []) :
    Holds (arrival.expected response.1, response.2 ++ arrival.accepted response.1) after := by
  obtain ⟨rsp, rsplen, expected⟩ := expects
  rw [refused, List.append_nil]
  exact ⟨by rw [expected, holds.expected], rsplen.trans holds.length, holds.inRange,
    rsp ▸ holds.content⟩

theorem Holds.stored {response : Bool × List (List UInt8)} (holds : Holds response state)
    (stored : Stored rblock state after)
    (bound : response.2.flatten.length + (inf rblock).length < 2147483648) :
    Holds (!response.1, response.2 ++ [inf rblock]) after where
  expected := by rw [stored.expected, holds.expected]
  length := by
    rw [stored.length, holds.length]
    simp
  inRange := by simpa using bound
  content := by
    simp only [List.flatten_append, List.flatten_singleton, List.length_append]
    intro fits
    rw [stored.copied _ holds.length fits, holds.content (by omega)]

theorem sendCmdBody_refuses {io : Io} (state : SendState maxRspLen)
    (refused : IBlockArrives io → cjT1GetN io.received.rblock ≠ state.t1.nr) :
    Keeps (arrivalOf io) state (sendCmdBody state io) ∧
      (arrivalOf io).accepted state.t1.expected = [] := by
  by_cases arrives : IBlockArrives io
  · have numbered := refused arrives
    have unexpected : ¬ (cjT1GetN io.received.rblock != 0) = state.t1.expected := by
      rwa [getN_expected]
    rw [sendCmdBody_iBlock arrives, arrivalOf_iBlock arrives]
    obtain ⟨silent, kept⟩ := onIBlock_rejects io
      { waited state with errcntr := 0, rerrcntr := 0 } numbered
    exact ⟨⟨silent, kept⟩, if_neg unexpected⟩
  · refine ⟨sendCmdBody_keeps state arrives, ?_⟩
    cases input_cases io with
    | failed failed => rw [arrivalOf, if_pos (Or.inl failed), Arrival.accepted]
    | bad received bad => rw [arrivalOf, if_pos (Or.inr bad), Arrival.accepted]
    | rBlock rBlock => rw [arrivalOf_rBlock rBlock, Arrival.accepted]
    | iBlock iBlock => exact absurd iBlock arrives
    | sBlock sBlock =>
        rw [arrivalOf_sBlock sBlock]
        split <;> rfl

theorem sendCmdBody_accepts {io : Io} (arrives : IBlockArrives io) (state : SendState maxRspLen)
    (numbered : cjT1GetN io.received.rblock = state.t1.nr) :
    sendCmdBody state io = acceptIBlock io.received.rblock io
        (cardTakesTurn io.received.rblock
          { waited state with errcntr := 0, rerrcntr := 0 }) ∧
      (arrivalOf io).expected state.t1.expected = !state.t1.expected ∧
      (arrivalOf io).accepted state.t1.expected = [inf io.received.rblock] := by
  have expected : (cjT1GetN io.received.rblock != 0) = state.t1.expected :=
    getN_expected state.t1 |>.mpr numbered
  rw [sendCmdBody_iBlock arrives, arrivalOf_iBlock arrives]
  exact ⟨onIBlock_accepts io numbered, if_pos expected, if_pos expected⟩

def Accounted (expected : Bool) (past : SendTurns maxRspLen) : Prop :=
  (acceptedBlocks (outputs past)).map inf = (receivedFrom expected past).2

structure Receiving (expected : Bool) (past : SendTurns maxRspLen) (state : SendState maxRspLen) :
    Prop where
  meets : Meets InRange past
  holds : Holds (receivedFrom expected past) state
  accounted : Accounted expected past

/-- What is known where the receive loop has been left. -/
def Answered (expected : Bool) (past : SendTurns maxRspLen) : Outcome maxRspLen → Prop
  | .returned ret final => Meets InRange past ∧ Accounted expected past ∧
      (ret = .ok → Holds (receivedFrom expected past) final ∧ Complete final)
  | .fault => ¬ Meets InRange past

theorem sendCmdBody_receiving (expected : Bool) (int : maxRspLen < 2147483648)
    (past : SendTurns maxRspLen) (state : SendState maxRspLen) (io : Io)
    (receiving : Receiving expected past state) :
    (sendCmdBody state io).2.Satisfies
      (Receiving expected (past ++ [⟨state, io, (sendCmdBody state io).1⟩]))
      (Answered expected (past ++ [⟨state, io, (sendCmdBody state io).1⟩])) := by
  obtain ⟨meets, holds, accounted⟩ := receiving
  have number := holds.expected
  by_cases numbered : IBlockArrives io ∧ cjT1GetN io.received.rblock = state.t1.nr
  · obtain ⟨arrives, numbered⟩ := numbered
    obtain ⟨equation, next, piece⟩ := sendCmdBody_accepts arrives state numbered
    have snoc := receivedFrom_snoc expected past state io (sendCmdBody state io).1
    rw [← number, next, piece, number] at snoc
    have counted : Accounted expected (past ++ [⟨state, io, (sendCmdBody state io).1⟩]) := by
      rw [Accounted] at accounted ⊢
      rw [snoc, equation]
      simp [acceptIBlock_accepted, accounted]
    have start : (cardTakesTurn io.received.rblock
        { waited state with errcntr := 0, rerrcntr := 0 }).rsplen =
          (receivedFrom expected past).2.flatten.length := by
      rw [cardTakesTurn_rsplen]
      exact holds.length
    by_cases allowed : InRange state io
    · have bound : (receivedFrom expected past).2.flatten.length +
          (inf io.received.rblock).length < 2147483648 := by
        have sum := allowed arrives numbered
        rw [holds.length] at sum
        omega
      have all : Meets InRange (past ++ [⟨state, io, (sendCmdBody state io).1⟩]) := by
        simpa using ⟨meets, allowed⟩
      have grown (after : SendState maxRspLen) (stored : Stored io.received.rblock
          (cardTakesTurn io.received.rblock
            { waited state with errcntr := 0, rerrcntr := 0 }) after) :
          Holds (receivedFrom expected (past ++ [⟨state, io, (sendCmdBody state io).1⟩])) after := by
        obtain ⟨length, number', copied⟩ := stored
        simp only [cardTakesTurn_rsplen, cardTakesTurn_expected, cardTakesTurn_rsp] at *
        rw [snoc]
        exact holds.stored ⟨length, number', copied⟩ bound
      have stores := acceptIBlock_stores io arrives.2.1 start bound
      rw [← equation] at stores
      refine stores.imp (fun after stored => ⟨all, grown after stored, counted⟩) ?_
      intro result ends
      cases result with
      | fault => exact ends.elim
      | returned ret final =>
          exact ⟨all, counted, fun ok => ⟨grown final (ends ok).1, (ends ok).2⟩⟩
    · have excess : 2147483648 ≤ (receivedFrom expected past).2.flatten.length +
          (inf io.received.rblock).length := by
        by_contra below
        apply allowed
        intro _ _
        rw [holds.length]
        omega
      have fault := acceptIBlock_overflows io int arrives.2.1 start holds.inRange excess
      rw [← equation] at fault
      rw [fault]
      simp only [satisfies_done, Answered, meets_append, meets_cons, meets_nil, and_true]
      exact fun both => allowed both.2
  · have refused : IBlockArrives io → cjT1GetN io.received.rblock ≠ state.t1.nr :=
      fun arrives same => numbered ⟨arrives, same⟩
    obtain ⟨⟨silent, kept⟩, nothing⟩ := sendCmdBody_refuses state refused
    have all : Meets InRange (past ++ [⟨state, io, (sendCmdBody state io).1⟩]) := by
      have allowed : InRange state io := fun arrives same => absurd same (refused arrives)
      simpa using ⟨meets, allowed⟩
    have snoc := receivedFrom_snoc expected past state io (sendCmdBody state io).1
    rw [number] at nothing
    have counted : Accounted expected (past ++ [⟨state, io, (sendCmdBody state io).1⟩]) := by
      rw [Accounted] at accounted ⊢
      rw [snoc, nothing]
      simp [acceptedBlocks_silent silent, accounted]
    refine kept.imp (fun after expects => ⟨all, ?_, counted⟩) ?_
    · rw [snoc]
      exact holds.expects expects nothing
    · intro result failed
      cases result with
      | fault => exact failed.elim
      | returned ret final => exact ⟨all, counted, fun ok => absurd ok failed⟩

/-- The response is what the receiver of the exchange accepted, joined. -/
structure Assembles (expected : Bool) (result : SendRun maxRspLen) : Prop where
  inBounds : result.outcome ≠ .done .fault
  accepted : (acceptedBlocks result.trace).map inf = (receivedFrom expected result.turns).2
  joined : ∀ final, result.outcome = .done (.returned .ok final) →
    final.apdu.rsplen = (receivedFrom expected result.turns).2.flatten.length ∧
    2 ≤ final.apdu.rsplen ∧ final.apdu.rsplen ≤ maxRspLen ∧
    final.apdu.rsp.cells.take final.apdu.rsplen.toNat =
      (receivedFrom expected result.turns).2.flatten

theorem cjT1SendCmd_answered (t1 : T1Info) (hasKeycb : Bool) (apdu : Apdu maxRspLen)
    (sendRet : Exit) (ios : List Io) (int : maxRspLen < 2147483648) :
    (cjT1SendCmd t1 hasKeycb apdu sendRet ios).outcome.Satisfies
      (Receiving t1.expected (cjT1SendCmd t1 hasKeycb apdu sendRet ios).turns)
      (Answered t1.expected (cjT1SendCmd t1 hasKeycb apdu sendRet ios).turns) := by
  obtain ⟨block, _, opens⟩ := cjT1SendCmd_opens t1 hasKeycb apdu sendRet ios
  have opened : Holds (receivedFrom t1.expected ([] : SendTurns maxRspLen))
      (storeIBlock block (initialState t1 hasKeycb apdu)) :=
    ⟨rfl, rfl, by simp [receivedFrom], by simp [receivedFrom]⟩
  rw [opens]
  split
  · exact run_invariant (sendCmdBody_receiving t1.expected int)
      [] ⟨meets_nil, opened, rfl⟩ ios
  · rename_i failed
    exact ⟨meets_nil, rfl, fun ok => absurd ok failed⟩

theorem cjT1SendCmd_opening (t1 : T1Info) (hasKeycb : Bool) (apdu : Apdu maxRspLen)
    (sendRet : Exit) (ios : List Io) :
    acceptedBlocks (cjT1SendCmd t1 hasKeycb apdu sendRet ios).opening = [] := by
  obtain ⟨block, _, opens⟩ := cjT1SendCmd_opens t1 hasKeycb apdu sendRet ios
  rw [opens]
  split <;> rfl

/-- The response is assembled and the array respected exactly when the running
length never leaves the 32-bit numbers; `maxRspLen` is one of them. -/
theorem assembles_iff_inRange (t1 : T1Info) (hasKeycb : Bool) (apdu : Apdu maxRspLen)
    (sendRet : Exit) (ios : List Io) (int : maxRspLen < 2147483648) :
    Assembles t1.expected (cjT1SendCmd t1 hasKeycb apdu sendRet ios) ↔
      Meets InRange (cjT1SendCmd t1 hasKeycb apdu sendRet ios).turns := by
  have answered := cjT1SendCmd_answered t1 hasKeycb apdu sendRet ios int
  have opening := cjT1SendCmd_opening t1 hasKeycb apdu sendRet ios
  generalize cjT1SendCmd t1 hasKeycb apdu sendRet ios = result at answered opening ⊢
  constructor
  · intro assembles
    cases ended : result.outcome with
    | again state =>
        rw [ended] at answered
        exact answered.meets
    | done left =>
        rw [ended] at answered
        cases left with
        | fault => exact absurd ended assembles.inBounds
        | returned ret final => exact answered.1
  · intro meets
    cases ended : result.outcome with
    | again state =>
        rw [ended] at answered
        refine ⟨by simp [ended], ?_, by simp [ended]⟩
        rw [Call.trace, acceptedBlocks_append, opening]
        exact answered.accounted
    | done left =>
        rw [ended] at answered
        cases left with
        | fault => exact absurd meets answered
        | returned ret final =>
            obtain ⟨_, accounted, ok⟩ := answered
            refine ⟨by simp [ended], ?_, ?_⟩
            · rw [Call.trace, acceptedBlocks_append, opening]
              exact accounted
            intro final' returned
            rw [ended] at returned
            cases returned
            obtain ⟨holds, recorded, statusWord, fits⟩ := ok rfl
            have length := holds.length
            rw [recorded]
            refine ⟨length, statusWord, fits, ?_⟩
            rw [length] at fits ⊢
            exact holds.content (by omega)

theorem answeredRun_assembles :
    Assembles false (cjT1SendCmd .opened false (.outgoing [0x00, 0x84, 0x00, 0x00] 2) .ok
      [.ofBlock [0x00, 0x00, 0x02, 0x90, 0x00, 0x92]]) :=
  (assembles_iff_inRange .opened false (.outgoing [0x00, 0x84, 0x00, 0x00] 2) .ok
    [.ofBlock [0x00, 0x00, 0x02, 0x90, 0x00, 0x92]] (by decide)).mpr (by decide)

/-- A chained block of the card with 255 zero bytes. -/
def fullBlock (number : Bool) : List UInt8 :=
  cjT1AppendRc (0x00 :: iPcb (if number then 1 else 0) true :: 0xFF :: List.replicate 255 0x00)

/-- A card that goes on chaining its response. -/
def longResponse : Bool → Nat → List Io
  | _, 0 => []
  | number, count + 1 => .ofBlock (fullBlock number) :: longResponse (!number) count

theorem counted_fullBlock : (0xFF : UInt8).toNat = (List.replicate 255 (0x00 : UInt8)).length := by
  rw [List.length_replicate]
  rfl

theorem fullBlock_arrives (number : Bool) : IBlockArrives (.ofBlock (fullBlock number)) :=
  ⟨rfl, cjT1CheckRc_iff.mpr (appendRc_wellFormed counted_fullBlock), (iPcb_bits _ true).1⟩

theorem length_inf_fullBlock (number : Bool) : (inf (fullBlock number)).length = 255 := by
  rw [fullBlock, inf_appendRc counted_fullBlock, List.length_replicate]

theorem getN_fullBlock (number : Bool) : (cjT1GetN (fullBlock number) != 0) = number := by
  have pcb : (fullBlock number).getD 1 0 = iPcb (if number then 1 else 0) true := pcb_appendRc
  rw [cjT1GetN, pcb]
  cases number <;> decide

theorem fullBlock_numbered {number : Bool} (expected : state.t1.expected = number) :
    cjT1GetN (fullBlock number) = state.t1.nr := by
  rw [← getN_expected, getN_fullBlock, expected]

theorem acceptIBlock_chained (io : Io) (checked : cjT1CheckRc rblock = true)
    (counted : state.rsplen = length) (bound : length + (inf rblock).length < 2147483648)
    (more : HasMore rblock) (sent : io.sendRet = .ok) :
    ∃ next, (acceptIBlock rblock io state).2 = .again next ∧ Stored rblock state next := by
  have stores := acceptIBlock_stores io checked counted bound
  cases stepped : (acceptIBlock rblock io state).2 with
  | again next =>
      rw [stepped] at stores
      exact ⟨next, rfl, stores⟩
  | done result =>
      rw [stepped] at stores
      simp only [acceptIBlock, transmit, if_pos more, if_pos sent] at stepped
      split at stepped
      · cases stepped
        exact stores.elim
      · cases stepped

theorem run_longResponse (int : maxRspLen < 2147483648) (number : Bool) (count : Nat)
    (expected : state.t1.expected = number) (counted : state.rsplen = length)
    (inside : length < 2147483648) (excess : 2147483648 ≤ length + 255 * count) :
    (run sendCmdBody state (longResponse number count)).outcome = .done .fault := by
  induction count generalizing number state length with
  | zero => omega
  | succ count ih =>
      have arrives := fullBlock_arrives number
      have size : (inf (Io.ofBlock (fullBlock number)).received.rblock).length = 255 :=
        length_inf_fullBlock number
      obtain ⟨equation, _⟩ := sendCmdBody_accepts arrives state (fullBlock_numbered expected)
      have start : (cardTakesTurn (Io.ofBlock (fullBlock number)).received.rblock
          { waited state with errcntr := 0, rerrcntr := 0 }).rsplen =
            length := by
        rw [cardTakesTurn_rsplen]
        exact counted
      rw [longResponse]
      by_cases bound : length + 255 < 2147483648
      · obtain ⟨next, stepped, stored⟩ := acceptIBlock_chained (.ofBlock (fullBlock number))
          arrives.2.1 start (by rwa [size]) ((iPcb_bits _ true).2.2.mpr rfl) rfl
        rw [← equation] at stepped
        have step : sendCmdBody state (.ofBlock (fullBlock number)) =
            ((sendCmdBody state (.ofBlock (fullBlock number))).1, .again next) :=
          Prod.ext rfl stepped
        rw [run_again step]
        refine ih (!number) ?_ ?_ bound (by omega)
        · rw [stored.expected, cardTakesTurn_expected]
          exact congrArg (!·) expected
        · rw [stored.length, start, size]
          rfl
      · have fault := acceptIBlock_overflows (.ofBlock (fullBlock number)) int arrives.2.1 start
          inside (by omega)
        rw [← equation] at fault
        have step : sendCmdBody state (.ofBlock (fullBlock number)) =
            ((sendCmdBody state (.ofBlock (fullBlock number))).1, .done .fault) :=
          Prod.ext rfl fault
        rw [run_done step]

theorem cjT1SendCmd_longResponse (apdu : Apdu maxRspLen) (int : maxRspLen < 2147483648)
    (count : Nat) (excess : 2147483648 ≤ 255 * count) :
    (cjT1SendCmd .opened false apdu .ok (longResponse false count)).outcome = .done .fault := by
  obtain ⟨block, _, opens⟩ := cjT1SendCmd_opens .opened false apdu .ok (longResponse false count)
  have start : (storeIBlock block (initialState .opened false apdu)).rsplen = (0 : Nat) := rfl
  rw [opens, if_pos rfl]
  exact run_longResponse int false count rfl start (by decide) (by omega)

/-- After 8421504 chained blocks the length is 128 bytes below 2^31; the next
one is copied far behind the response array. -/
theorem longRun_not_assembles :
    ¬ Assembles false (cjT1SendCmd .opened false (.outgoing [0x00, 0x84, 0x00, 0x00] 2) .ok
      (longResponse false 8421505)) :=
  fun assembles => assembles.inBounds (cjT1SendCmd_longResponse _ (by decide) _ (by decide))

end Cyberjack.Ecom
