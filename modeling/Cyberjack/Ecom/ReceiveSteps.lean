import Cyberjack.Foundation.Transfer
import Cyberjack.Ecom.SendCmd

namespace Cyberjack.Ecom

open Cyberjack.Foundation

/-! # What a pass does to the receiving half

The receive loop is the receiver of an alternating-bit exchange: only an
I-block with the expected number is accepted, only S(RESYNCH) sets the number
back, and every other pass leaves the receiving half alone.
-/

variable {maxRspLen : Nat} {before state after : SendState maxRspLen} {block rblock : List UInt8}
  {arrival : Arrival (List UInt8)}

/-- What the receiver of the exchange makes of an input. -/
def arrivalOf (io : Io) : Arrival (List UInt8) :=
  if io.received.ret ≠ .ok ∨ cjT1CheckRc io.received.rblock = false then .other
  else if IsIBlock io.received.rblock then
    .piece (cjT1GetN io.received.rblock != 0) (inf io.received.rblock)
  else if io.received.rblock.getD 1 0 = 0xC0 then .resynchronise
  else .other

theorem arrivalOf_rBlock {io : Io} (arrives : RBlockArrives io) : arrivalOf io = .other := by
  obtain ⟨received, checked, rBlock⟩ := arrives
  have bits : ∀ pcb : UInt8, pcb &&& 0xC0 = 0x80 → ¬ pcb &&& 0x80 = 0x00 ∧ ¬ pcb = 0xC0 := by decide
  have notI : ¬ IsIBlock io.received.rblock := (bits _ rBlock).1
  rw [arrivalOf, if_neg (by simp [received, checked]), if_neg notI, if_neg (bits _ rBlock).2]

theorem arrivalOf_iBlock {io : Io} (arrives : IBlockArrives io) :
    arrivalOf io = .piece (cjT1GetN io.received.rblock != 0) (inf io.received.rblock) := by
  obtain ⟨received, checked, iBlock⟩ := arrives
  rw [arrivalOf, if_neg (by simp [received, checked]), if_pos iBlock]

theorem arrivalOf_sBlock {io : Io} (arrives : SBlockArrives io) :
    arrivalOf io = if io.received.rblock.getD 1 0 = 0xC0 then .resynchronise else .other := by
  obtain ⟨received, checked, _, notI⟩ := arrives
  rw [arrivalOf, if_neg (by simp [received, checked]), if_neg notI]

/-- N(R) as the expected number of the abstract receiver. -/
def T1Info.expected (t1 : T1Info) : Bool := t1.nr != 0

@[simp] theorem expected_flipNs (t1 : T1Info) : t1.flipNs.expected = t1.expected := rfl

@[simp] theorem expected_flipNr (t1 : T1Info) : t1.flipNr.expected = !t1.expected := by
  unfold T1Info.expected
  rcases t1.nrBit with zero | one
  · simp [zero]
  · simp [one]

theorem getN_expected (t1 : T1Info) :
    ((cjT1GetN rblock != 0) = t1.expected) ↔ cjT1GetN rblock = t1.nr := by
  have bit : cjT1GetN rblock = 0 ∨ cjT1GetN rblock = 1 := by
    have bits : ∀ pcb : UInt8, (pcb >>> 4) &&& 0x01 = 0 ∨ (pcb >>> 4) &&& 0x01 = 1 := by decide
    have bits' : ∀ pcb : UInt8, (pcb >>> 6) &&& 0x01 = 0 ∨ (pcb >>> 6) &&& 0x01 = 1 := by decide
    unfold cjT1GetN
    split
    · exact bits _
    · split
      · exact bits' _
      · exact .inl rfl
  unfold T1Info.expected
  rcases bit with n | n <;> rcases t1.nrBit with nr | nr <;> simp [n, nr]

/-- The receiving half after an arrival that is not accepted. -/
def Expects (arrival : Arrival (List UInt8)) (before after : SendState maxRspLen) : Prop :=
  after.apdu.rsp = before.apdu.rsp ∧ after.rsplen = before.rsplen ∧
    after.t1.expected = arrival.expected before.t1.expected

def Failed : Outcome maxRspLen → Prop
  | .returned ret _ => ret ≠ .ok
  | .fault => False

/-- Nothing is accepted and the command does not end successfully. -/
structure Keeps (arrival : Arrival (List UInt8)) (before : SendState maxRspLen)
    (pass : Pass maxRspLen) : Prop where
  silent : ∀ accepted, .accepted accepted ∉ pass.1
  kept : pass.2.Satisfies (Expects arrival before) Failed

theorem giveUp_keeps {ret : Exit} (failed : ret ≠ .ok) :
    Keeps arrival before (giveUp ret state) :=
  ⟨by simp [giveUp], failed⟩

theorem transmit_keeps (io : Io) (later : Expects arrival before after) :
    Keeps arrival before (transmit block io state after) := by
  refine ⟨by simp [transmit], ?_⟩
  simp only [transmit]
  split
  · exact later
  · rename_i failed
    exact failed

theorem idle_keeps (state : SendState maxRspLen) : Keeps .other state ([], .again state) :=
  ⟨by simp, rfl, rfl, rfl⟩

theorem onReceiveError_keeps (io : Io) (state : SendState maxRspLen) :
    Keeps .other state (onReceiveError io state) := by
  simp only [onReceiveError]
  split
  · exact giveUp_keeps (by decide)
  · split
    · exact giveUp_keeps (by decide)
    · exact transmit_keeps io ⟨rfl, rfl, rfl⟩

theorem onBadBlock_keeps (io : Io) (state : SendState maxRspLen) :
    Keeps .other state (onBadBlock io state) := by
  simp only [onBadBlock]
  split
  · exact giveUp_keeps (by decide)
  · exact transmit_keeps io ⟨rfl, rfl, rfl⟩

theorem sendNextIBlock_keeps (io : Io) (state : SendState maxRspLen) :
    Keeps .other state (sendNextIBlock io state) := by
  simp only [sendNextIBlock]
  split
  · rename_i ret refused
    refine giveUp_keeps ?_
    rintro rfl
    unfold cjT1IBlock at refused
    split at refused <;> cases refused
  · refine ⟨by simp, ?_⟩
    split
    · exact ⟨rfl, rfl, rfl⟩
    · rename_i failed
      exact failed

theorem onRBlock_keeps (rblock : List UInt8) (io : Io) (state : SendState maxRspLen) :
    Keeps .other state (onRBlock rblock io state) := by
  simp only [onRBlock]
  split
  · exact giveUp_keeps (by decide)
  · split
    · exact transmit_keeps io ⟨rfl, rfl, rfl⟩
    · split
      · exact transmit_keeps io ⟨rfl, rfl, rfl⟩
      · split
        · exact giveUp_keeps (by decide)
        · obtain ⟨silent, kept⟩ := sendNextIBlock_keeps io
            { state with rerrcntr := state.rerrcntr + 1 }
          exact ⟨silent, kept⟩

theorem onWtx_keeps (rblock : List UInt8) (io : Io) (state : SendState maxRspLen) :
    Keeps .other state (onWtx rblock io state) := by
  simp only [onWtx]
  split
  · split
    · exact giveUp_keeps (by decide)
    · exact transmit_keeps io ⟨rfl, rfl, rfl⟩
  · split
    · exact giveUp_keeps (by decide)
    · exact transmit_keeps io ⟨rfl, rfl, rfl⟩

theorem onResynch_keeps (io : Io) (state : SendState maxRspLen) (resynch : rblock.getD 1 0 = 0xC0) :
    Keeps .resynchronise state (onSBlock rblock io state) := by
  have ifs : ¬ (0xC0 : UInt8) = 0xC1 := by decide
  have abort : ¬ (0xC0 : UInt8) = 0xC2 := by decide
  have wtx : ¬ (0xC0 : UInt8) = 0xC3 := by decide
  simp only [onSBlock, resynch, if_neg ifs, if_neg abort, if_neg wtx, if_true]
  exact transmit_keeps io ⟨rfl, rfl, rfl⟩

theorem onSBlock_keeps (io : Io) (state : SendState maxRspLen) (other : rblock.getD 1 0 ≠ 0xC0) :
    Keeps .other state (onSBlock rblock io state) := by
  simp only [onSBlock]
  split
  · exact transmit_keeps io ⟨rfl, rfl, rfl⟩
  · split
    · refine ⟨by simp, ?_⟩
      intro ok
      split at ok
      · contradiction
      · split at ok <;> contradiction
    · split
      · exact onWtx_keeps rblock io state
      · split
        · have sent : Keeps .other state
              (transmit (cjT1SBlock .key .response 0x00) io state state) :=
            transmit_keeps io ⟨rfl, rfl, rfl⟩
          refine ⟨?_, sent.kept⟩
          intro accepted member
          rcases List.mem_append.mp member with called | member
          · split at called <;> simp at called
          · exact sent.silent accepted member
        · split
          · exact idle_keeps state
          · split
            · exact transmit_keeps io ⟨rfl, rfl, rfl⟩
            · exact idle_keeps state

/-- Every pass that does not take an I-block leaves the receiving half alone. -/
theorem sendCmdBody_keeps {io : Io} (state : SendState maxRspLen) (absent : ¬ IBlockArrives io) :
    Keeps (arrivalOf io) state (sendCmdBody state io) := by
  cases input_cases io with
  | failed failed =>
      rw [sendCmdBody_failed failed, arrivalOf, if_pos (Or.inl failed)]
      obtain ⟨silent, kept⟩ := onReceiveError_keeps io (waited state)
      exact ⟨silent, kept⟩
  | bad received bad =>
      rw [sendCmdBody_bad received bad, arrivalOf, if_pos (Or.inr bad)]
      obtain ⟨silent, kept⟩ := onBadBlock_keeps io (waited state)
      exact ⟨silent, kept⟩
  | rBlock arrives =>
      rw [sendCmdBody_rBlock arrives, arrivalOf_rBlock arrives]
      obtain ⟨silent, kept⟩ := onRBlock_keeps io.received.rblock io
        { waited state with errcntr := 0 }
      exact ⟨silent, kept⟩
  | iBlock arrives => exact absurd arrives absent
  | sBlock arrives =>
      rw [sendCmdBody_sBlock arrives, arrivalOf_sBlock arrives]
      split
      · rename_i resynch
        obtain ⟨silent, kept⟩ := onResynch_keeps io
          { waited state with errcntr := 0, rerrcntr := 0 } resynch
        exact ⟨silent, kept⟩
      · rename_i other
        obtain ⟨silent, kept⟩ := onSBlock_keeps io
          { waited state with errcntr := 0, rerrcntr := 0 } other
        exact ⟨silent, kept⟩

/-- Only an I-block of the card ends a command successfully. -/
theorem sendCmdBody_ok {io : Io} {final : SendState maxRspLen}
    (ok : (sendCmdBody state io).2 = .done (.returned .ok final)) : IBlockArrives io := by
  by_contra absent
  have kept := (sendCmdBody_keeps state absent).kept
  rw [ok] at kept
  exact kept rfl

end Cyberjack.Ecom
