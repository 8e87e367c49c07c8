import Cyberjack.Foundation.Buffer
import Cyberjack.Foundation.Loop
import Cyberjack.Foundation.Word
import Cyberjack.Ecom.T1Block

namespace Cyberjack.Ecom

open Cyberjack.Foundation

/-! # Transmission of a command with T=1

`cjT1SendCmd` of `cjt1.c`.  The transport is the environment: a pass of the
receive loop takes what `cjIoReceiveBlock` delivered and what `cjIoSendBlock`
returned in that pass, and reports the blocks it sent and accepted.
-/

/-- `CJ_APDU`; `maxRspLen` is the size of the response array. -/
structure Apdu (maxRspLen : Nat) where
  nad : UInt8
  cmd : List UInt8
  rsp : Buffer UInt8 maxRspLen
  rsplen : Int

/-- A command on its way out, over an empty response array. -/
def Apdu.outgoing (cmd : List UInt8) (maxRspLen : Nat) : Apdu maxRspLen := ⟨0, cmd, .filled _ 0, 0⟩

inductive Key where
  | digit
  | clear
deriving Repr, DecidableEq

/-- The return code of `cjIoReceiveBlock` and, where it is `CJ_EXIT_OK`, the block. -/
structure Received where
  ret : Exit
  rblock : List UInt8
deriving DecidableEq

/-- `next` is the block read after an answered ABORT request. -/
structure Io where
  received : Received
  sendRet : Exit
  next : Received
deriving DecidableEq

/-- The pass in which a block arrives and every answer can be sent. -/
def Io.ofBlock (rblock : List UInt8) : Io := ⟨⟨.ok, rblock⟩, .ok, ⟨.timeout, []⟩⟩

/-- A block handed to `cjIoSendBlock` is recorded with the N(S) of that moment;
`sentNew` marks an I-block that was just built. -/
inductive Event where
  | sentNew (ns : UInt8) (block : List UInt8)
  | sent (ns : UInt8) (block : List UInt8)
  | accepted (rblock : List UInt8)
  | keycb (key : Key)
deriving DecidableEq

structure SendState (maxRspLen : Nat) where
  t1 : T1Info
  hasKeycb : Bool
  apdu : Apdu maxRspLen
  sendptr : Nat
  more : Bool
  lastiicc : Bool
  block : List UInt8
  rsplen : Int
  wtxcntr : Nat
  errcntr : Nat
  rerrcntr : Nat

/-- `fault` is a write outside the array it is meant for: nothing is known afterwards. -/
inductive Outcome (maxRspLen : Nat) where
  | returned (ret : Exit) (final : SendState maxRspLen)
  | fault

variable {maxRspLen : Nat}

abbrev Pass (maxRspLen : Nat) := List Event × Next (SendState maxRspLen) (Outcome maxRspLen)

def giveUp (ret : Exit) (state : SendState maxRspLen) : Pass maxRspLen :=
  ([], .done (.returned ret state))

/-- `cjIoSendBlock`: an error is returned at once, in the state of the call. -/
def transmit (block : List UInt8) (io : Io) (state after : SendState maxRspLen) : Pass maxRspLen :=
  ([.sent state.t1.ns block],
    if io.sendRet = .ok then .again after else .done (.returned io.sendRet state))

def onReceiveError (io : Io) (state : SendState maxRspLen) : Pass maxRspLen :=
  if io.received.ret = .badParam then giveUp .badParam state
  else
    let state := { state with errcntr := state.errcntr + 1 }
    if state.errcntr > 3 then giveUp .ioError state
    else transmit (cjT1RBlock state.t1 .otherError) io state state

def onBadBlock (io : Io) (state : SendState maxRspLen) : Pass maxRspLen :=
  let state := { state with errcntr := state.errcntr + 1 }
  if state.errcntr > 3 then giveUp .ioError state
  else transmit (cjT1RBlock state.t1 .edcError) io state state

/-- The PCB of the stored I-block is patched before it is sent again. -/
def updatePcb (ns : UInt8) (block : List UInt8) : List UInt8 :=
  block.set 1 ((block.getD 1 0 &&& 0xBF) ||| (if ns ≠ 0 then 0x40 else 0x00))

def resendIBlock (io : Io) (state : SendState maxRspLen) : Pass maxRspLen :=
  let state := { state with block := updatePcb state.t1.ns state.block }
  transmit state.block io state state

/-- `sendlen=min(apdu->cmdlen-sendptr, t1->ifsc)` -/
def sendlen (state : SendState maxRspLen) : Nat :=
  min (state.apdu.cmd.length - state.sendptr) state.t1.ifsc.toNat

/-- `more` is cleared when the next I-block takes the rest of the command. -/
def nextMore (state : SendState maxRspLen) : Bool :=
  if sendlen state = state.apdu.cmd.length - state.sendptr then false else state.more

def nextPiece (state : SendState maxRspLen) : List UInt8 :=
  (state.apdu.cmd.drop state.sendptr).take (sendlen state)

/-- The built block is kept until the next one is built. -/
def storeIBlock (block : List UInt8) (state : SendState maxRspLen) : SendState maxRspLen :=
  { state with more := nextMore state, block, sendptr := state.sendptr + sendlen state }

@[simp] theorem storeIBlock_sendptr (block : List UInt8) (state : SendState maxRspLen) :
    (storeIBlock block state).sendptr = state.sendptr + sendlen state := rfl

@[simp] theorem storeIBlock_more (block : List UInt8) (state : SendState maxRspLen) :
    (storeIBlock block state).more = nextMore state := rfl

def sendNextIBlock (io : Io) (state : SendState maxRspLen) : Pass maxRspLen :=
  let state := { state with t1 := state.t1.flipNs }
  match cjT1IBlock state.t1 (nextMore state) (nextPiece state) with
  | .error ret => giveUp ret { state with more := nextMore state }
  | .ok block =>
      let state := storeIBlock block state
      ([.sentNew state.t1.ns block],
        if io.sendRet = .ok then .again { state with rerrcntr := 0 }
        else .done (.returned io.sendRet state))

def onRBlock (rblock : List UInt8) (io : Io) (state : SendState maxRspLen) : Pass maxRspLen :=
  let state := { state with rerrcntr := state.rerrcntr + 1 }
  if state.rerrcntr > 3 then giveUp .ioError state
  else if state.lastiicc then transmit (cjT1RBlock state.t1 .ok) io state state
  else if rblock.getD 1 0 &&& 0x0F ≠ 0x00 then resendIBlock io state
  else if state.more = false then giveUp .protocolError state
  else sendNextIBlock io state

/-- The copy into `apdu->rsp` happens only when the block fits by the `int`
sum; the sum is kept also when it does not. -/
def acceptIBlock (rblock : List UInt8) (io : Io) (state : SendState maxRspLen) : Pass maxRspLen :=
  let len : Int := (rblock.getD 2 0).toNat
  let copied : Option (Buffer UInt8 maxRspLen) :=
    if int32 (state.rsplen + len) ≤ maxRspLen then state.apdu.rsp.store? state.rsplen (inf rblock)
    else some state.apdu.rsp
  match copied with
  | none => ([.accepted rblock], .done .fault)
  | some rsp =>
      let state := { state with
        apdu := { state.apdu with rsp }
        rsplen := int32 (state.rsplen + len)
        t1 := state.t1.flipNr }
      if HasMore rblock then
        let sent := transmit (cjT1RBlock state.t1 .ok) io state state
        (.accepted rblock :: sent.1, sent.2)
      else if state.rsplen < 2 then ([.accepted rblock], .done (.returned .protocolError state))
      else if state.rsplen > maxRspLen then ([.accepted rblock], .done (.returned .badParam state))
      else
        ([.accepted rblock],
          .done (.returned .ok { state with apdu := { state.apdu with rsplen := state.rsplen } }))

/-- The first I-block of the card ends the sending half of the exchange. -/
def cardTakesTurn (rblock : List UInt8) (state : SendState maxRspLen) : SendState maxRspLen :=
  if state.lastiicc then state
  else { state with
    t1 := state.t1.flipNs
    apdu := { state.apdu with nad := rblock.getD 0 0 }
    lastiicc := true }

def onIBlock (rblock : List UInt8) (io : Io) (state : SendState maxRspLen) : Pass maxRspLen :=
  let state := cardTakesTurn rblock state
  if cjT1GetN rblock ≠ state.t1.nr then
    transmit (cjT1RBlock state.t1 .otherError) io state state
  else acceptIBlock rblock io state

def onWtx (rblock : List UInt8) (io : Io) (state : SendState maxRspLen) : Pass maxRspLen :=
  if rblock.getD 2 0 = 0 then
    let state := { state with wtxcntr := state.wtxcntr + 1 }
    if state.wtxcntr > 200 then
      giveUp .protocolError
        (if state.lastiicc then state else { state with t1 := state.t1.flipNs })
    else
      transmit (cjT1SBlock .wtx .response 0x00) io state
        { state with t1 := { state.t1 with wtx := 1 } }
  else
    let state := { state with wtxcntr := state.wtxcntr + (rblock.getD 3 0).toNat }
    if state.wtxcntr > 200 then giveUp .protocolError state
    else
      transmit (cjT1SBlock .wtx .response (rblock.getD 3 0)) io state
        { state with t1 := { state.t1 with wtx := (rblock.getD 3 0).toNat } }

/-- An S-block that no branch knows is dropped, like those to throw away. -/
def onSBlock (rblock : List UInt8) (io : Io) (state : SendState maxRspLen) : Pass maxRspLen :=
  let pcb := rblock.getD 1 0
  if pcb = 0xC1 then
    transmit (cjT1SBlock .ifs .response (rblock.getD 3 0)) io state
      { state with t1 := { state.t1 with ifsc := rblock.getD 3 0 } }
  else if pcb = 0xC2 then
    ([.sent state.t1.ns (cjT1SBlock .abort .response 0x00)],
      .done (.returned
        (if io.sendRet ≠ .ok then io.sendRet
          else if io.next.ret ≠ .ok then io.next.ret
          else .undefError) state))
  else if pcb = 0xC3 then onWtx rblock io state
  else if pcb = 0xC0 then
    transmit (cjT1SBlock .resynch .response 0x00) io state { state with t1 := state.t1.resynch }
  else if pcb = 0xC4 ∨ pcb = 0xF4 then
    let sent := transmit (cjT1SBlock .key .response 0x00) io state state
    let called := if state.hasKeycb then [Event.keycb (if pcb = 0xF4 then .digit else .clear)] else []
    (called ++ sent.1, sent.2)
  else if pcb = 0xE6 ∨ pcb = 0xF6 then ([], .again state)
  else if pcb = 0xE5 ∨ pcb = 0xF5 then
    transmit (cjT1SBlock .card .response 0x00) io state state
  else ([], .again state)

/-- `cjIoReceiveBlock` consumes the waiting time. -/
def waited (state : SendState maxRspLen) : SendState maxRspLen :=
  { state with t1 := { state.t1 with wtx := 0 } }

/-- One pass of the receive loop. -/
def sendCmdBody (state : SendState maxRspLen) (io : Io) : Pass maxRspLen :=
  let state := waited state
  let rblock := io.received.rblock
  if io.received.ret ≠ .ok then onReceiveError io state
  else if cjT1CheckRc rblock = false then onBadBlock io state
  else
    let state := { state with errcntr := 0 }
    if IsRBlock rblock then onRBlock rblock io state
    else
      let state := { state with rerrcntr := 0 }
      if IsIBlock rblock then onIBlock rblock io state
      else onSBlock rblock io state

section Inputs

variable {io : Io}

def IBlockArrives (io : Io) : Prop :=
  io.received.ret = .ok ∧ cjT1CheckRc io.received.rblock = true ∧ IsIBlock io.received.rblock

def RBlockArrives (io : Io) : Prop :=
  io.received.ret = .ok ∧ cjT1CheckRc io.received.rblock = true ∧ IsRBlock io.received.rblock

def SBlockArrives (io : Io) : Prop :=
  io.received.ret = .ok ∧ cjT1CheckRc io.received.rblock = true ∧
    ¬ IsRBlock io.received.rblock ∧ ¬ IsIBlock io.received.rblock

instance (io : Io) : Decidable (IBlockArrives io) := by unfold IBlockArrives; infer_instance
instance (io : Io) : Decidable (RBlockArrives io) := by unfold RBlockArrives; infer_instance
instance (io : Io) : Decidable (SBlockArrives io) := by unfold SBlockArrives; infer_instance

/-- The inputs of a pass, one case for each branch. -/
inductive Input (io : Io) : Prop where
  | failed (failed : io.received.ret ≠ .ok)
  | bad (received : io.received.ret = .ok) (bad : cjT1CheckRc io.received.rblock = false)
  | rBlock (arrives : RBlockArrives io)
  | iBlock (arrives : IBlockArrives io)
  | sBlock (arrives : SBlockArrives io)

theorem input_cases (io : Io) : Input io := by
  by_cases received : io.received.ret = .ok
  · cases checked : cjT1CheckRc io.received.rblock with
    | false => exact .bad received checked
    | true =>
        by_cases rBlock : IsRBlock io.received.rblock
        · exact .rBlock ⟨received, checked, rBlock⟩
        · by_cases iBlock : IsIBlock io.received.rblock
          · exact .iBlock ⟨received, checked, iBlock⟩
          · exact .sBlock ⟨received, checked, rBlock, iBlock⟩
  · exact .failed received

theorem sendCmdBody_failed (failed : io.received.ret ≠ .ok) (state : SendState maxRspLen) :
    sendCmdBody state io = onReceiveError io (waited state) := by
  simp only [sendCmdBody]
  rw [if_pos failed]

theorem sendCmdBody_bad (received : io.received.ret = .ok)
    (bad : cjT1CheckRc io.received.rblock = false) (state : SendState maxRspLen) :
    sendCmdBody state io = onBadBlock io (waited state) := by
  simp only [sendCmdBody]
  rw [if_neg (by simp [received]), if_pos bad]

theorem sendCmdBody_rBlock (arrives : RBlockArrives io) (state : SendState maxRspLen) :
    sendCmdBody state io = onRBlock io.received.rblock io
      { waited state with errcntr := 0 } := by
  obtain ⟨received, checked, rBlock⟩ := arrives
  simp only [sendCmdBody]
  rw [if_neg (by simp [received]), if_neg (by simp [checked]), if_pos rBlock]

theorem sendCmdBody_iBlock (arrives : IBlockArrives io) (state : SendState maxRspLen) :
    sendCmdBody state io = onIBlock io.received.rblock io
      { waited state with errcntr := 0, rerrcntr := 0 } := by
  obtain ⟨received, checked, iBlock⟩ := arrives
  have disjoint : ∀ pcb : UInt8, pcb &&& 0x80 = 0x00 → ¬ pcb &&& 0xC0 = 0x80 := by decide
  have notR : ¬ IsRBlock io.received.rblock := disjoint _ iBlock
  simp only [sendCmdBody]
  rw [if_neg (by simp [received]), if_neg (by simp [checked]), if_neg notR, if_pos iBlock]

theorem sendCmdBody_sBlock (arrives : SBlockArrives io) (state : SendState maxRspLen) :
    sendCmdBody state io = onSBlock io.received.rblock io
      { waited state with errcntr := 0, rerrcntr := 0 } := by
  obtain ⟨received, checked, notR, notI⟩ := arrives
  simp only [sendCmdBody]
  rw [if_neg (by simp [received]), if_neg (by simp [checked]), if_neg notR, if_neg notI]

end Inputs

abbrev SendTurns (maxRspLen : Nat) := List (Turn (SendState maxRspLen) Io Event)

abbrev SendRun (maxRspLen : Nat) := Call (SendState maxRspLen) Io Event (Outcome maxRspLen)

/-- The state in front of the first I-block. -/
def initialState (t1 : T1Info) (hasKeycb : Bool) (apdu : Apdu maxRspLen) : SendState maxRspLen where
  t1 := { t1 with nad := apdu.nad }
  hasKeycb := hasKeycb
  apdu := { apdu with rsplen := 0 }
  sendptr := 0
  more := true
  lastiicc := false
  block := []
  rsplen := 0
  wtxcntr := 0
  errcntr := 0
  rerrcntr := 0

@[simp] theorem initialState_ns (t1 : T1Info) (hasKeycb : Bool) (apdu : Apdu maxRspLen) :
    (initialState t1 hasKeycb apdu).t1.ns = t1.ns := rfl

/-- From the entry of the function to its receive loop. -/
def sendFirstIBlock (state : SendState maxRspLen) (sendRet : Exit) : Pass maxRspLen :=
  match cjT1IBlock state.t1 (nextMore state) (nextPiece state) with
  | .error ret => giveUp ret { state with more := nextMore state }
  | .ok block =>
      let state := storeIBlock block state
      ([.sentNew state.t1.ns block],
        if sendRet = .ok then .again state else .done (.returned sendRet state))

def cjT1SendCmd (t1 : T1Info) (hasKeycb : Bool) (apdu : Apdu maxRspLen) (sendRet : Exit)
    (ios : List Io) : SendRun maxRspLen :=
  call sendCmdBody (sendFirstIBlock (initialState t1 hasKeycb apdu) sendRet) ios

end Cyberjack.Ecom
