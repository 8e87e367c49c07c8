import Cyberjack.Foundation.Buffer
import Cyberjack.Foundation.Checksum
import Cyberjack.Foundation.Loop
import Cyberjack.Foundation.Word

namespace Cyberjack.Ppa

open Cyberjack.Foundation

/-! # T=1 over a CCID reader

`APDU2TPDU_T1` of `cjdata.c`.  The reader is the environment: a pass of the
inner loop takes the reply to the block sent before it and ends with the next
block sent, or with the return from the function.
-/

/-- The return codes of `cjpp.h`. -/
inductive Cjpp where
  | success
  | openingDevice
  | writeDevice
  | deviceLost
  | wrongAnswer
  | seq
  | wrongLength
  | noIcc
  | openIcc
  | parity
  | timeout
  | len
  | rbufferToSmall
  | prot
  | noActiveIcc
  | sign
  | wrongSize
  | pinTimeout
  | pinCanceled
  | pinDifferent
  | firmwareOld
  | notUpdatable
  | noSign
  | wrongParameter
deriving Repr, DecidableEq

/-- What `cjppWriteAndRead` returned, and the message of the reader. -/
structure Reply where
  res : Cjpp
  bStatus : UInt8
  bError : UInt8
  abData : List UInt8
deriving DecidableEq

/-- The reply in which a block arrives. -/
def Reply.ofBlock (abData : List UInt8) : Reply := ⟨.success, 0x00, 0x00, abData⟩

/-- The return code, the length received and the receiving array of `cjccid_XfrBlock`. -/
def cjccid_XfrBlock (reply : Reply) (rbuffer : Buffer UInt8 259) :
    Cjpp × Nat × Buffer UInt8 259 :=
  if reply.res ≠ .success then (reply.res, 259, rbuffer)
  else if reply.bStatus &&& 0x02 ≠ 0 then (.noIcc, 259, rbuffer)
  else if reply.bStatus &&& 0x01 ≠ 0 then (.noActiveIcc, 259, rbuffer)
  else if reply.bStatus = 0x40 then
    (if reply.bError = 0xFD then .parity else if reply.bError = 0xFE then .timeout else .len,
      259, rbuffer)
  else if room : reply.abData.length ≤ 259 then
    (.success, reply.abData.length, rbuffer.store 0 reply.abData (by omega))
  else (.rbufferToSmall, 259, rbuffer)

/-- The part of the device handle that T=1 uses.  Bit 0 of `PCB_seq` is the
number of the next block to be sent, bit 4 that of the next one expected. -/
structure Handle where
  IFSC : UInt8
  PCB_seq : UInt8
  EDC : UInt8
deriving Repr, DecidableEq

/-- The values `ctBcsReset` and an accepted S(IFS) request can leave in the handle. -/
structure Installed (handle : Handle) : Prop where
  low : 0x10 ≤ handle.IFSC
  high : handle.IFSC ≠ 0xFF
  edc : handle.EDC ≤ 1

instance (handle : Handle) : Decidable (Installed handle) :=
  decidable_of_iff (0x10 ≤ handle.IFSC ∧ handle.IFSC ≠ 0xFF ∧ handle.EDC ≤ 1)
    ⟨fun ⟨low, high, edc⟩ => ⟨low, high, edc⟩, fun ⟨low, high, edc⟩ => ⟨low, high, edc⟩⟩

/-- A handle after a reset, with the IFSC of a card that announces none. -/
def Handle.opened : Handle := ⟨0x20, 0x00, 0x00⟩

/-- The array that the pointer `sblock` names. -/
inductive Sblock where
  | sbuffer
  | rblock
deriving Repr, DecidableEq

/-- `sentNew` marks a block that was just built, `accepted` carries the
information field of an I-block of the card. -/
inductive Event where
  | sentNew (bwi : UInt8) (block : List UInt8)
  | sent (bwi : UInt8) (block : List UInt8)
  | accepted (field : List UInt8)
  | iccPowerOff
deriving DecidableEq

/-- The locals of the function and what it reaches through its arguments;
`cmd` is what is left of the command. -/
structure T1State (capacity : Nat) where
  handle : Handle
  cmd : List UInt8
  INF : Nat
  sbuffer : Buffer UInt8 259
  rblock : Buffer UInt8 6
  sblock : Sblock
  slen : Nat
  rbuffer : Buffer UInt8 259
  rlen : Nat
  xwt : UInt8
  error : Int
  maxresp : Int
  lenr : Nat
  response : Buffer UInt8 capacity
  Result : Cjpp

/-- `fault` is a write outside the array it is meant for: nothing is known afterwards. -/
inductive Outcome (capacity : Nat) where
  | returned (final : T1State capacity)
  | fault

variable {capacity : Nat}

abbrev Pass (capacity : Nat) := List Event × Next (T1State capacity) (Outcome capacity)

def T1State.sblockCells (state : T1State capacity) : List UInt8 :=
  match state.sblock with
  | .sbuffer => state.sbuffer.cells
  | .rblock => state.rblock.cells

/-- `sblock[index]` -/
def T1State.sblockAt (state : T1State capacity) (index : Nat) : UInt8 :=
  state.sblockCells.getD index 0

/-- The information field of the received block, as long as the block says it is. -/
def T1State.inf (state : T1State capacity) : List UInt8 :=
  (state.rbuffer.cells.drop 3).take (state.rbuffer.get 2).toNat

def edcLength (handle : Handle) : Nat := if handle.EDC = 0 then 1 else 2

/-- The CRC of the source is a constant. -/
def epilogue (handle : Handle) (block : List UInt8) : List UInt8 :=
  if handle.EDC = 0 then [xorSum block] else [0x00, 0x00]

@[simp] theorem length_epilogue (handle : Handle) (block : List UInt8) :
    (epilogue handle block).length = edcLength handle := by
  rw [epilogue, edcLength]
  split <;> rfl

/-- The epilogue is written behind the block, into the array `sblock` names. -/
def appendEpilogue (state : T1State capacity) : Option (T1State capacity) :=
  let bytes := epilogue state.handle (state.sblockCells.take state.slen)
  let slen := state.slen + bytes.length
  match state.sblock with
  | .sbuffer => (state.sbuffer.store? state.slen bytes).map fun sbuffer =>
      { state with sbuffer, slen }
  | .rblock => (state.rblock.store? state.slen bytes).map fun rblock =>
      { state with rblock, slen }

/-- From the head of the inner loop to the call of `cjccid_XfrBlock`. -/
def transmit (event : UInt8 → List UInt8 → Event) (state : T1State capacity) : Pass capacity :=
  match appendEpilogue state with
  | none => ([], .done .fault)
  | some state => ([event state.xwt (state.sblockCells.take state.slen)], .again state)

/-- `INF=(lenc>IFSC)?IFSC:lenc` -/
def nextInf (handle : Handle) (cmd : List UInt8) : Nat :=
  if cmd.length > handle.IFSC.toNat then handle.IFSC.toNat else cmd.length

theorem nextInf_le (handle : Handle) (cmd : List UInt8) : nextInf handle cmd ≤ 255 := by
  have byte := handle.IFSC.toNat_lt
  rw [nextInf]
  split <;> omega

theorem nextInf_eq_min (handle : Handle) (cmd : List UInt8) :
    nextInf handle cmd = min cmd.length handle.IFSC.toNat := by
  rw [nextInf]
  split <;> omega

def nextPcb (handle : Handle) (cmd : List UInt8) : UInt8 :=
  (if handle.PCB_seq &&& 0x01 ≠ 0 then 0x40 else 0x00) |||
    (if cmd.length > nextInf handle cmd then 0x20 else 0x00)

/-- The block without its epilogue. -/
def nextBlock (handle : Handle) (cmd : List UInt8) : List UInt8 :=
  [0x00, nextPcb handle cmd, UInt8.ofNat (nextInf handle cmd)] ++ cmd.take (nextInf handle cmd)

theorem length_nextBlock (handle : Handle) (cmd : List UInt8) :
    (nextBlock handle cmd).length = nextInf handle cmd + 3 := by
  have inside : nextInf handle cmd ≤ cmd.length := by
    rw [nextInf_eq_min]
    exact Nat.min_le_left _ _
  simp only [nextBlock, List.length_append, List.length_cons, List.length_nil, List.length_take]
  omega

theorem nextBlock_room (handle : Handle) (cmd : List UInt8) :
    0 + (nextBlock handle cmd).length ≤ 259 := by
  have short := nextInf_le handle cmd
  rw [length_nextBlock]
  omega

/-- From the head of the outer loop to that of the inner one. -/
def buildBlock (state : T1State capacity) : T1State capacity :=
  { state with
    INF := nextInf state.handle state.cmd
    sbuffer := state.sbuffer.store 0 (nextBlock state.handle state.cmd) (nextBlock_room _ _)
    sblock := .sbuffer
    slen := nextInf state.handle state.cmd + 3 }

/-- `while(lenc)` -/
def outerLoop (state : T1State capacity) : Pass capacity :=
  if state.cmd = [] then ([], .done (.returned state))
  else transmit .sentNew (buildBlock state)

/-- Behind the inner loop, after a `break`. -/
def leaveInnerLoop (state : T1State capacity) : Pass capacity :=
  if state.Result = .prot ∨ state.rbuffer.get 1 &&& 0xA0 = 0 then
    ([], .done (.returned state))
  else outerLoop state

/-- The card is switched off and the inner loop left with `CJPP_ERR_PROT`. -/
def protocolError (state : T1State capacity) : Pass capacity :=
  let left := leaveInnerLoop { state with Result := .prot }
  (.iccPowerOff :: left.1, left.2)

def countError (state : T1State capacity) : T1State capacity :=
  { state with error := int32 (state.error + 1) }

/-- The R-block with the number of the I-block expected next. -/
def putRBlock (code : UInt8) (state : T1State capacity) : T1State capacity :=
  { state with
    rblock := state.rblock.store 0
      [0x00, code ||| (state.handle.PCB_seq &&& 0x10), 0x00] (by simp)
    sblock := .rblock }

/-- An R-block on its way is kept. -/
def putRefusal (code : UInt8) (state : T1State capacity) : T1State capacity :=
  if state.sblockAt 1 &&& 0xC0 ≠ 0x80 then putRBlock code state else state

/-- A reply that cannot be used is counted and answered with an R-block. -/
def refuse (code : UInt8) (state : T1State capacity) : Pass capacity :=
  let state := countError state
  if state.error > 2 then protocolError state
  else transmit .sent { putRefusal code state with slen := 3 }

/-- The test for a wrong NAD, an R-block without sense, an S-response that was
not asked for and an S-request without sense. -/
def Malformed (rbuffer : Buffer UInt8 259) : Prop :=
  rbuffer.get 0 ≠ 0 ∨
    (rbuffer.get 1 &&& 0xC0 = 0x80 ∧ (rbuffer.get 2 ≠ 0 ∨ rbuffer.get 1 &&& 0x20 = 0x20)) ∨
    rbuffer.get 1 &&& 0xE0 = 0xE0 ∨
    (rbuffer.get 1 &&& 0xE0 = 0xC0 ∧
      (((rbuffer.get 1 &&& 0x1F = 0 ∨ rbuffer.get 1 &&& 0x1F = 2) ∧ rbuffer.get 2 ≠ 0) ∨
        (rbuffer.get 1 &&& 0x1F = 1 ∧
          (rbuffer.get 2 ≠ 1 ∨ rbuffer.get 3 < 0x10 ∨ rbuffer.get 3 = 0xFF)) ∨
        (rbuffer.get 1 &&& 0x1F = 3 ∧ rbuffer.get 2 ≠ 1) ∨
        rbuffer.get 1 &&& 0x1F > 3))

instance (rbuffer : Buffer UInt8 259) : Decidable (Malformed rbuffer) := by
  unfold Malformed
  infer_instance

/-- The first I-block of the card acknowledges the last one of the command. -/
def takeAcknowledged (state : T1State capacity) : T1State capacity :=
  if state.cmd = [] then state
  else { state with
    handle := { state.handle with PCB_seq := state.handle.PCB_seq ^^^ 0x01 }
    cmd := state.cmd.drop state.INF }

/-- `rlen-4-EDC` -/
def T1State.received (state : T1State capacity) : Int :=
  (state.rlen : Int) - 4 - state.handle.EDC.toNat

/-- `memcpy(response+(*lenr),rbuffer+3,rlen-4-EDC)` -/
def copyInf (state : T1State capacity) : Option (Buffer UInt8 capacity) :=
  if state.received < 0 then none
  else state.response.store? state.lenr
    ((state.rbuffer.cells.drop 3).take state.received.toNat)

/-- The copy happens only when the block fits into what is left; the length is
added also when it does not. -/
def copyResponse (state : T1State capacity) : Option (T1State capacity) :=
  let count := state.received
  if state.maxresp ≥ count then
    (copyInf state).map fun response =>
      { state with response, maxresp := state.maxresp - count, lenr := uint16 (state.lenr + count) }
  else some { state with lenr := uint16 (state.lenr + count) }

/-- The error counter and the number expected next. -/
def expectNext (state : T1State capacity) : T1State capacity :=
  { state with
    error := 0
    handle := { state.handle with PCB_seq := state.handle.PCB_seq ^^^ 0x10 } }

def acceptIBlock (state : T1State capacity) : Pass capacity :=
  match copyResponse (takeAcknowledged (expectNext state)) with
  | none => ([.accepted state.inf], .done .fault)
  | some after =>
      let later :=
        if after.rbuffer.get 1 &&& 0x20 ≠ 0 then
          transmit .sent { putRBlock 0x80 after with slen := 3 }
        else leaveInnerLoop after
      (.accepted state.inf :: later.1, later.2)

def onIBlock (state : T1State capacity) : Pass capacity :=
  if state.rbuffer.get 1 &&& 0x40 ≠ (state.handle.PCB_seq &&& 0x10) <<< (2 : UInt8) ∨
      state.sbuffer.get 1 &&& 0x20 = 0x20 ∨ state.rbuffer.get 2 = 0 ∨ state.rbuffer.get 2 = 255 then
    refuse 0x82 state
  else acceptIBlock state

/-- What an S-request changes, by its kind. -/
def obeySRequest (state : T1State capacity) : T1State capacity :=
  let kind := state.rbuffer.get 1 &&& 0x1F
  if kind = 0 then { state with handle := { state.handle with PCB_seq := 0 } }
  else if kind = 1 then { state with handle := { state.handle with IFSC := state.rbuffer.get 3 } }
  else if kind = 3 then { state with xwt := state.rbuffer.get 3 }
  else state

def putSResponse (copied : Buffer UInt8 6) (state : T1State capacity) : T1State capacity :=
  { state with
    error := 0
    rblock := copied.store 1 [copied.get 1 ||| 0x20] (by simp)
    sblock := .rblock
    slen := uint16 ((state.rlen : Int) - 1) }

/-- The request is copied into `rblock`, with all the bytes that came, and sent
back as the response. -/
def onSBlock (state : T1State capacity) : Pass capacity :=
  match state.rblock.store? 0 (state.rbuffer.cells.take state.rlen) with
  | none => ([], .done .fault)
  | some copied =>
      let state := putSResponse copied state
      if state.rbuffer.get 1 &&& 0x1F = 2 then protocolError state
      else transmit .sent (obeySRequest state)

def restoreIBlock (state : T1State capacity) : T1State capacity :=
  { state with
    Result := if state.error > 2 then .prot else state.Result
    sblock := .sbuffer
    slen := 3 + (state.sbuffer.get 2).toNat }

/-- The error that switches the card off does not leave the loop here. -/
def repeatIBlock (state : T1State capacity) : Pass capacity :=
  let state := countError state
  let sent := transmit .sent (restoreIBlock state)
  (if state.error > 2 then [.iccPowerOff] ++ sent.1 else sent.1, sent.2)

def onAcknowledged (state : T1State capacity) : Pass capacity :=
  leaveInnerLoop { state with
    error := 0
    handle := { state.handle with PCB_seq := state.handle.PCB_seq ^^^ 0x01 }
    cmd := state.cmd.drop state.INF }

/-- The last two branches of the source differ in a test that `refuse` makes. -/
def onRBlock (state : T1State capacity) : Pass capacity :=
  if state.rbuffer.get 1 &&& 0x10 = (state.sbuffer.get 1 &&& 0x40) >>> (2 : UInt8) then repeatIBlock state
  else if state.sbuffer.get 1 &&& 0x20 ≠ 0 then onAcknowledged state
  else refuse 0x82 state

/-- The branch for a response to an S-request of the reader. -/
def onSResponse (state : T1State capacity) : Pass capacity :=
  if state.Result = .parity ∨ state.rbuffer.get 0 ≠ 0 ∨ state.rbuffer.get 1 &&& 0xE0 ≠ 0xE0 ∨
      state.rbuffer.get 1 &&& 0xDF ≠ state.sblockAt 1 ∨ state.rbuffer.get 2 ≠ state.sblockAt 2 ∨
      (state.rbuffer.cells.drop 3).take (state.sblockAt 2).toNat ≠
        (state.sblockCells.drop 3).take (state.sblockAt 2).toNat then
    let state := countError state
    if state.error > 2 then protocolError state else transmit .sent state
  else transmit .sent { state with sblock := .sbuffer, slen := state.INF + 3, error := 0 }

/-- The reply as the inner loop sees it: a wrong checksum counts as a parity error. -/
def receive (reply : Reply) (state : T1State capacity) : T1State capacity :=
  let received := cjccid_XfrBlock reply state.rbuffer
  { state with
    Result :=
      if received.1 = .success ∧ state.handle.EDC = 0 ∧
          xorSum (received.2.2.cells.take received.2.1) ≠ 0 then .parity
      else received.1
    rlen := received.2.1
    rbuffer := received.2.2 }

/-- One pass of the inner loop, behind the call of `cjccid_XfrBlock`. -/
def innerLoopBody (state : T1State capacity) (reply : Reply) : Pass capacity :=
  let state := receive reply state
  if state.Result = .success ∨ state.Result = .parity ∨ state.Result = .timeout then
    if state.sblockAt 1 &&& 0xE0 = 0xC0 then onSResponse state
    else if state.Result = .success then
      if Malformed state.rbuffer then refuse 0x82 state
      else if state.rbuffer.get 1 &&& 0x80 = 0 then onIBlock state
      else if state.rbuffer.get 1 &&& 0xE0 = 0xC0 then onSBlock state
      else onRBlock state
    else if state.Result = .parity then refuse 0x81 state
    else leaveInnerLoop { state with Result := .prot }
  else ([], .done (.returned state))

abbrev T1Turns (capacity : Nat) := List (Turn (T1State capacity) Reply Event)

abbrev T1Run (capacity : Nat) := Call (T1State capacity) Reply Event (Outcome capacity)

/-- The arrays of the stack frame hold anything before they are written. -/
structure Frame where
  sbuffer : Buffer UInt8 259
  rblock : Buffer UInt8 6
  rbuffer : Buffer UInt8 259

def Frame.zeroed : Frame := ⟨.filled _ 0, .filled _ 0, .filled _ 0⟩

def initialState (handle : Handle) (cmd : List UInt8) (response : Buffer UInt8 capacity)
    (frame : Frame) : T1State capacity where
  handle := handle
  cmd := cmd
  INF := 0
  sbuffer := frame.sbuffer
  rblock := frame.rblock
  sblock := .sbuffer
  slen := 0
  rbuffer := frame.rbuffer
  rlen := 0
  xwt := 0
  error := 0
  maxresp := capacity
  lenr := 0
  response := response
  Result := .success

def APDU2TPDU_T1 (handle : Handle) (cmd : List UInt8) (response : Buffer UInt8 capacity)
    (frame : Frame) (replies : List Reply) : T1Run capacity :=
  call innerLoopBody (outerLoop (initialState handle cmd response frame)) replies

end Cyberjack.Ppa
