import Cyberjack.Foundation.Buffer
import Cyberjack.Foundation.Loop
import Cyberjack.Foundation.Word

namespace Cyberjack.Eca

open Cyberjack.Foundation

/-! # T=0 case 4

The branch of `_IfdTransmit` of `EC30Reader.cpp` for a command with data and Le
over T=0.  The reader is the environment: a pass takes the reply to the TPDU
sent before it and ends with a GET RESPONSE or with the return.
-/

inductive IfdResult where
  | success
  | bufferOverflow
  | deviceProtocolError
  | ioTimeout
  | bufferTooSmall
  | deviceNotConnected
deriving Repr, DecidableEq

/-- Whether `Transfer` succeeded, and the message of the reader where it did. -/
structure CcidReply where
  transferred : Bool
  bMessageType : UInt8
  bStatus : UInt8
  bError : UInt8
  abData : List UInt8
deriving DecidableEq

/-- The reply that carries a response TPDU. -/
def CcidReply.ofTpdu (abData : List UInt8) : CcidReply := ⟨true, 0x80, 0x00, 0x00, abData⟩

inductive Event where
  | transmitted (tpdu : List UInt8)
  | powerDown
deriving Repr, DecidableEq

/-- What is done with the reply to a TPDU, the result and the bytes received. -/
def ccidTransmit (tpdu : List UInt8) (response_len : Nat) (reply : CcidReply) :
    List Event × IfdResult × List UInt8 :=
  if tpdu.length > 1014 then ([], .bufferOverflow, [])
  else if reply.transferred = false then ([], .deviceNotConnected, [])
  else if reply.bMessageType ≠ 0x80 then ([.powerDown], .deviceProtocolError, [])
  else if reply.bStatus &&& 0x40 ≠ 0 then
    if reply.bError = 0xFE then ([.powerDown], .ioTimeout, [])
    else ([.powerDown], .deviceProtocolError, [])
  else if reply.abData.length > response_len then ([], .bufferTooSmall, [])
  else ([], .success, reply.abData)

/-- A case 4 command: Lc at offset 4 counts the data, and Le follows it. -/
structure Case4Apdu where
  cmd : List UInt8
  counted : cmd.length = 6 + (cmd.getD 4 0).toNat
  nonempty : cmd.getD 4 0 ≠ 0

/-- `cmd[cmd_len-1]` -/
def Case4Apdu.le (apdu : Case4Apdu) : UInt8 := apdu.cmd.getD (apdu.cmd.length - 1) 0

/-- The TPDU that is awaited: the reply to the command, the one to the GET
RESPONSE after a warning, or the one to a GET RESPONSE of the loop. -/
inductive Stage where
  | first
  | warned
  | chained
deriving Repr, DecidableEq

/-- `rptr` is an offset into `rbuffer`; the sizes are `unsigned int`. -/
structure Case4State where
  stage : Stage
  tpdu : List UInt8
  rbuffer : Buffer UInt8 258
  rptr : Int
  rest_size : Nat
  tot_size : Nat
  rlen : Nat

/-- `fault` is a write outside `rbuffer`: nothing is known afterwards. -/
inductive Outcome (capacity : Nat) where
  | returned (result : IfdResult) (response : Buffer UInt8 capacity) (response_len : Nat)
  | fault

variable {capacity : Nat}

abbrev Pass (capacity : Nat) := List Event × Next Case4State (Outcome capacity)

/-- What a read at an offset from `rbuffer` gives; behind and in front of the
array it can be anything. -/
def memory (beyond : Int → UInt8) (rbuffer : Buffer UInt8 258) (offset : Int) : UInt8 :=
  if 0 ≤ offset ∧ offset < 258 then rbuffer.get offset.toNat else beyond offset

/-- `rptr[index]` -/
def Case4State.rptrAt (beyond : Int → UInt8) (state : Case4State) (index : Int) : UInt8 :=
  memory beyond state.rbuffer (state.rptr + index)

def getResponse (stage : Stage) (asked : UInt8) (state : Case4State) : Pass capacity :=
  let tpdu := [0x00, 0xC0, 0x00, 0x00, asked]
  ([.transmitted tpdu], .again { state with stage, tpdu, rlen := uint16 state.rest_size })

/-- 62xx, 63xx and 9xyz, but 9000. -/
def Warns (rbuffer : Buffer UInt8 258) : Prop :=
  (rbuffer.get 0 &&& 0xF0 = 0x90 ∧ (rbuffer.get 0 ≠ 0x90 ∨ rbuffer.get 1 ≠ 0x00)) ∨
    rbuffer.get 0 = 0x62 ∨ rbuffer.get 0 = 0x63

instance (rbuffer : Buffer UInt8 258) : Decidable (Warns rbuffer) := by
  unfold Warns
  infer_instance

def Case4State.Chains (beyond : Int → UInt8) (state : Case4State) : Prop :=
  2 ≤ state.rlen ∧ (state.rptrAt beyond (state.rlen - 2) = 0x61 ∨
    state.rptrAt beyond (state.rlen - 2) = 0x6C)

instance (beyond : Int → UInt8) (state : Case4State) : Decidable (state.Chains beyond) := by
  unfold Case4State.Chains
  infer_instance

/-- The pointer is moved to the status word first. -/
def chain (beyond : Int → UInt8) (le : UInt8) (state : Case4State) : Pass capacity :=
  let state := { state with rptr := state.rptr + ((state.rlen : Int) - 2) }
  getResponse .chained
    (if le < state.rptrAt beyond ((state.rlen : Int) - 1) ∧ le ≠ 0 then le
      else state.rptrAt beyond 1) state

/-- The response is copied when it fits. -/
def finish (beyond : Int → UInt8) (response : Buffer UInt8 capacity) (state : Case4State) :
    Pass capacity :=
  let total := uint32 (state.tot_size + 2)
  let bytes := (List.range total).map fun index : Nat => memory beyond state.rbuffer index
  if room : total ≤ capacity then
    ([], .done (.returned .success
      (response.store 0 bytes (by simpa [bytes] using room)) (uint16 total)))
  else ([], .done (.returned .bufferTooSmall response 0))

/-- `rest_size-=rlen-2; tot_size+=rlen-2;` -/
def countReply (state : Case4State) : Case4State :=
  { state with
    rest_size := uint32 (state.rest_size - ((state.rlen : Int) - 2))
    tot_size := uint32 (state.tot_size + ((state.rlen : Int) - 2)) }

/-- The reply to the command moves the pointer, too. -/
def takeReply (rbuffer : Buffer UInt8 258) (rlen : Nat) (state : Case4State) : Case4State :=
  match state.stage with
  | .first => countReply { state with rbuffer, rlen, rptr := state.rptr + ((rlen : Int) - 2) }
  | _ => countReply { state with rbuffer, rlen }

/-- Where the reply is stored. -/
def Case4State.target (state : Case4State) : Int :=
  match state.stage with
  | .chained => state.rptr
  | _ => 0

/-- One pass, behind the call of `ccidTransmit`. -/
def case4Body (beyond : Int → UInt8) (le : UInt8) (response : Buffer UInt8 capacity)
    (state : Case4State) (reply : CcidReply) : Pass capacity :=
  let done := ccidTransmit state.tpdu state.rlen reply
  if done.2.1 ≠ .success then (done.1, .done (.returned done.2.1 response 0))
  else
    match state.rbuffer.store? state.target done.2.2 with
    | none => (done.1, .done .fault)
    | some rbuffer =>
        let after := takeReply rbuffer done.2.2.length state
        if state.stage = .first ∧ after.rlen = 2 ∧ Warns rbuffer then getResponse .warned le after
        else if after.Chains beyond then chain beyond le after
        else finish beyond response after

def case4Start (apdu : Case4Apdu) (rbuffer : Buffer UInt8 258) : Case4State where
  stage := .first
  tpdu := apdu.cmd.take (apdu.cmd.length - 1)
  rbuffer := rbuffer
  rptr := 0
  rest_size := 258
  tot_size := 0
  rlen := 258

theorem case4Start_short (apdu : Case4Apdu) (rbuffer : Buffer UInt8 258) :
    (case4Start apdu rbuffer).tpdu.length ≤ 1014 := by
  have counted := apdu.counted
  have wide := (apdu.cmd.getD 4 0).toNat_lt
  change (apdu.cmd.take (apdu.cmd.length - 1)).length ≤ 1014
  rw [List.length_take]
  omega

abbrev Case4Turns := List (Turn Case4State CcidReply Event)

abbrev Case4Run (capacity : Nat) := Call Case4State CcidReply Event (Outcome capacity)

/-- `rbuffer` holds anything before the first reply. -/
def _IfdTransmit_case4 (beyond : Int → UInt8) (apdu : Case4Apdu) (response : Buffer UInt8 capacity)
    (rbuffer : Buffer UInt8 258) (replies : List CcidReply) : Case4Run capacity :=
  call (case4Body beyond apdu.le response)
    ([.transmitted (case4Start apdu rbuffer).tpdu], .again (case4Start apdu rbuffer)) replies

/-- The data field of a response TPDU. -/
def dataField (tpdu : List UInt8) : List UInt8 := tpdu.take (tpdu.length - 2)

def statusWord (tpdu : List UInt8) : List UInt8 := tpdu.drop (tpdu.length - 2)

/-- The data fields of all replies, in order. -/
def dataFields (turns : Case4Turns) : List UInt8 := turns.flatMap fun turn => dataField turn.input.abData

@[simp] theorem dataFields_append (first second : Case4Turns) :
    dataFields (first ++ second) = dataFields first ++ dataFields second := by
  simp [dataFields]

theorem dataFields_singleton (turn : Turn Case4State CcidReply Event) :
    dataFields [turn] = dataField turn.input.abData := by
  simp [dataFields]

theorem dataField_statusWord (tpdu : List UInt8) : dataField tpdu ++ statusWord tpdu = tpdu :=
  List.take_append_drop _ _

/-- The length that is asked for after SW2 has announced one. -/
def announced (le sw2 : UInt8) : UInt8 := if le < sw2 ∧ le ≠ 0 then le else sw2

/-- The pointer is moved before the reply to the command is tested, so behind
data another byte stands in for its SW1; that one does not ask for more. -/
def Regular (beyond : Int → UInt8) (state : Case4State) (reply : CcidReply) : Prop :=
  state.stage = .first → 2 < reply.abData.length →
    ∀ rbuffer ∈ state.rbuffer.store? 0 reply.abData,
      memory beyond rbuffer (2 * ((reply.abData.length : Int) - 2)) ∉ [0x61, 0x6C]

instance (beyond : Int → UInt8) (state : Case4State) (reply : CcidReply) :
    Decidable (Regular beyond state reply) := by
  unfold Regular
  infer_instance

/-- What a GET RESPONSE asks for behind a reply that is a status word only, and
behind any reply when the caller leaves the length open. -/
def AsksAfter (le : UInt8) (reply : CcidReply) (events : List Event) : Prop :=
  ∀ asked data sw1 sw2, .transmitted [0x00, 0xC0, 0x00, 0x00, asked] ∈ events →
    reply.abData = data ++ [sw1, sw2] → data = [] ∨ le = 0 →
      asked = if sw1 = 0x61 ∨ sw1 = 0x6C then announced le sw2 else le

structure Assembles (le : UInt8) (result : Case4Run capacity) : Prop where
  inside : result.outcome ≠ .done .fault
  assembled : ∀ response length, result.outcome = .done (.returned .success response length) →
    length ≤ capacity ∧ ∃ front last, result.turns = front ++ [last] ∧
      response.cells.take length = dataFields result.turns ++ statusWord last.input.abData
  asks : ∀ turn ∈ result.turns, AsksAfter le turn.input turn.output

/-- What holds while a reply is awaited: the data fields so far stand at the
beginning of `rbuffer`, and the next reply goes behind them. -/
structure Waiting (le : UInt8) (past : Case4Turns) (state : Case4State) : Prop where
  pointer : state.rptr = state.tot_size
  small : state.tot_size ≤ 256
  rest : state.rest_size = 258 - state.tot_size
  room : state.rlen = 258 - state.tot_size
  early : state.stage ≠ .chained → state.tot_size = 0
  collected : state.rbuffer.cells.take state.tot_size = dataFields past
  asks : ∀ turn ∈ past, AsksAfter le turn.input turn.output

/-- What is known where the function has returned. -/
structure Returned (le : UInt8) (past : Case4Turns) (outcome : Outcome capacity) : Prop where
  inside : outcome ≠ .fault
  assembled : ∀ response length, outcome = .returned .success response length →
    length ≤ capacity ∧ ∃ front last, past = front ++ [last] ∧
      response.cells.take length = dataFields past ++ statusWord last.input.abData
  asks : ∀ turn ∈ past, AsksAfter le turn.input turn.output

variable {beyond : Int → UInt8} {le : UInt8} {state : Case4State} {reply : CcidReply}
  {response : Buffer UInt8 capacity} {past : Case4Turns}

theorem ccidTransmit_success {tpdu : List UInt8} {length : Nat}
    (success : (ccidTransmit tpdu length reply).2.1 = .success) :
    ccidTransmit tpdu length reply = ([], .success, reply.abData) ∧ reply.abData.length ≤ length := by
  simp only [ccidTransmit] at success ⊢
  split at success
  · contradiction
  · rename_i short
    rw [if_neg short]
    split at success
    · contradiction
    · rename_i transferred
      rw [if_neg transferred]
      split at success
      · contradiction
      · rename_i block
        rw [if_neg block]
        split at success
        · split at success
          · contradiction
          · contradiction
        · rename_i status
          rw [if_neg status]
          split at success
          · contradiction
          · rename_i fits
            rw [if_neg fits]
            exact ⟨rfl, Nat.le_of_not_lt fits⟩

theorem ccidTransmit_quiet (tpdu : List UInt8) (length : Nat) (reply : CcidReply) :
    ∀ event ∈ (ccidTransmit tpdu length reply).1, event = .powerDown := by
  simp only [ccidTransmit]
  split
  · simp
  · split
    · simp
    · split
      · simp
      · split
        · split
          · simp
          · simp
        · split
          · simp
          · simp

/-- What a reply leaves: it stands behind the data fields in front of it, and
but for its status word it is counted. -/
structure Received (past : Case4Turns) (reply : CcidReply) (after : Case4State) (offset : Nat) :
    Prop where
  length : after.rlen = reply.abData.length
  fits : offset + reply.abData.length ≤ 258
  counted : uint32 (after.tot_size + 2) = offset + reply.abData.length
  total : 2 ≤ reply.abData.length → after.tot_size = offset + (reply.abData.length - 2)
  rest : 2 ≤ reply.abData.length → after.rest_size = 258 - after.tot_size
  collected : after.rbuffer.cells.take (offset + reply.abData.length) =
    dataFields past ++ reply.abData
  front : (dataFields past).length = offset

variable (state) in
theorem takeReply_pointer (rbuffer : Buffer UInt8 258) (rlen : Nat)
    (single : state.stage = .first → rlen = 2) : (takeReply rbuffer rlen state).rptr = state.rptr := by
  cases named : state.stage with
  | first =>
      have pointer : (takeReply rbuffer rlen state).rptr = state.rptr + ((rlen : Int) - 2) := by
        rw [takeReply, named]
        rfl
      rw [pointer, single named]
      omega
  | warned =>
      rw [takeReply, named]
      rfl
  | chained =>
      rw [takeReply, named]
      rfl

theorem takeReply_counted (rbuffer : Buffer UInt8 258) (rlen : Nat) (state : Case4State) :
    (takeReply rbuffer rlen state).rbuffer = rbuffer ∧ (takeReply rbuffer rlen state).rlen = rlen ∧
      (takeReply rbuffer rlen state).rest_size = uint32 (state.rest_size - ((rlen : Int) - 2)) ∧
      (takeReply rbuffer rlen state).tot_size = uint32 (state.tot_size + ((rlen : Int) - 2)) := by
  rw [takeReply]
  split
  · exact ⟨rfl, rfl, rfl, rfl⟩
  · exact ⟨rfl, rfl, rfl, rfl⟩

theorem Waiting.target (waiting : Waiting le past state) : state.target = state.tot_size := by
  cases named : state.stage with
  | first =>
      have early := waiting.early (by rw [named]; decide)
      rw [Case4State.target, named, early]
      rfl
  | warned =>
      have early := waiting.early (by rw [named]; decide)
      rw [Case4State.target, named, early]
      rfl
  | chained =>
      rw [Case4State.target, named]
      exact waiting.pointer

theorem Waiting.receives (waiting : Waiting le past state)
    (success : (ccidTransmit state.tpdu state.rlen reply).2.1 = .success) :
    ∃ rbuffer, state.rbuffer.store? state.target reply.abData = some rbuffer ∧
      Received past reply (takeReply rbuffer reply.abData.length state) state.tot_size := by
  have fits := (ccidTransmit_success success).2
  have small := waiting.small
  have rest := waiting.rest
  rw [waiting.room] at fits
  have room : state.tot_size + reply.abData.length ≤ 258 := by omega
  have stored := Buffer.store?_of_room state.rbuffer room
  refine ⟨_, by rw [waiting.target]; exact stored, ?_⟩
  obtain ⟨rbuffer, rlen, restSize, totSize⟩ := takeReply_counted
    (state.rbuffer.store state.tot_size reply.abData room) reply.abData.length state
  exact {
    length := rlen
    fits := room
    counted := by
      have sum : (state.tot_size : Int) + ((reply.abData.length : Int) - 2) + 2 =
          ((state.tot_size + reply.abData.length : Nat) : Int) := by omega
      rw [totSize, uint32_add, sum, uint32_of_range (by omega)]
    total := by
      intro whole
      have sum : (state.tot_size : Int) + ((reply.abData.length : Int) - 2) =
          ((state.tot_size + (reply.abData.length - 2) : Nat) : Int) := by omega
      rw [totSize, sum, uint32_of_range (by omega)]
    rest := by
      intro whole
      have sum : (state.tot_size : Int) + ((reply.abData.length : Int) - 2) =
          ((state.tot_size + (reply.abData.length - 2) : Nat) : Int) := by omega
      have left : (state.rest_size : Int) - ((reply.abData.length : Int) - 2) =
          ((258 - (state.tot_size + (reply.abData.length - 2)) : Nat) : Int) := by omega
      rw [restSize, totSize, sum, left, uint32_of_range (by omega), uint32_of_range (by omega)]
    collected := by rw [rbuffer, Buffer.take_store, waiting.collected]
    front := by
      rw [← waiting.collected, List.length_take, state.rbuffer.length_cells]
      omega }

/-- The bytes of the reply, seen from the pointer. -/
theorem Received.rptrAt {after : Case4State} {offset : Nat} (received : Received past reply after offset)
    (pointer : after.rptr = offset) {index : Nat} (inside : index < reply.abData.length) :
    after.rptrAt beyond index = reply.abData.getD index 0 := by
  have fits := received.fits
  have place : after.rptr + index = ((offset + index : Nat) : Int) := by
    rw [pointer]
    omega
  rw [Case4State.rptrAt, memory, place, if_pos (by omega), Int.toNat_natCast]
  have length : offset + index < (dataFields past ++ reply.abData).length := by
    rw [List.length_append, received.front]
    omega
  rw [Buffer.get, Buffer.getD_of_take _ received.collected length,
    List.getD_eq_getElem?_getD, List.getElem?_append_right (by rw [received.front]; omega),
    received.front, Nat.add_sub_cancel_left, List.getD_eq_getElem?_getD]
  rfl

theorem Received.fields {after : Case4State} {offset : Nat}
    (received : Received past reply after offset) (whole : 2 ≤ reply.abData.length)
    {turn : Turn Case4State CcidReply Event} (input : turn.input = reply) :
    after.rbuffer.cells.take after.tot_size = dataFields (past ++ [turn]) := by
  have front := received.front
  have total := received.total whole
  have shorter : after.tot_size ≤ offset + reply.abData.length := by omega
  rw [dataFields_append, dataFields_singleton, input, ← Nat.min_eq_left shorter, ← List.take_take,
    received.collected, total, List.take_append, front, Nat.add_sub_cancel_left,
    List.take_of_length_le (by omega)]
  rfl

/-- The sequel to a reply: the function waits for the reply to a GET RESPONSE. -/
theorem Received.waits {after : Case4State} {offset : Nat} (received : Received past reply after offset)
    (whole : 2 ≤ reply.abData.length) {turn : Turn Case4State CcidReply Event}
    (input : turn.input = reply) (stage : Stage) (tpdu : List UInt8)
    (early : stage ≠ .chained → after.tot_size = 0)
    (asks : ∀ made ∈ past ++ [turn], AsksAfter le made.input made.output) :
    Waiting le (past ++ [turn])
      { after with stage, tpdu, rptr := after.tot_size, rlen := uint16 after.rest_size } := by
  have fits := received.fits
  have total := received.total whole
  have rest := received.rest whole
  exact {
    pointer := rfl
    small := by
      show after.tot_size ≤ 256
      omega
    rest := rest
    room := by
      show uint16 after.rest_size = 258 - after.tot_size
      rw [uint16_of_range (by omega), rest]
    early := early
    collected := received.fields whole input
    asks := asks }

theorem AsksAfter.of_quiet {events : List Event} (quiet : ∀ event ∈ events, event = .powerDown) :
    AsksAfter le reply events := by
  intro asked data sw1 sw2 member
  have different := quiet _ member
  contradiction

theorem asks_snoc (asked : ∀ made ∈ past, AsksAfter le made.input made.output)
    (turn : Turn Case4State CcidReply Event)
    (asks : AsksAfter le turn.input turn.output) :
    ∀ made ∈ past ++ [turn], AsksAfter le made.input made.output := by
  intro made member
  rw [List.mem_append, List.mem_singleton] at member
  cases member with
  | inl earlier => exact asked made earlier
  | inr last =>
      rw [last]
      exact asks

theorem warning_not_chaining (sw1 : UInt8)
    (warns : sw1 &&& 0xF0 = 0x90 ∨ sw1 = 0x62 ∨ sw1 = 0x63) : ¬ (sw1 = 0x61 ∨ sw1 = 0x6C) := by
  revert sw1
  decide

theorem Received.warned {after : Case4State} {offset : Nat} (received : Received past reply after offset)
    (pointer : after.rptr = offset) (first : offset = 0) (single : reply.abData.length = 2)
    (warns : Warns after.rbuffer) :
    AsksAfter le reply [.transmitted [0x00, 0xC0, 0x00, 0x00, le]] := by
  intro asked data sw1 sw2 member bytes _
  have same : asked = le := by simpa using member
  have empty : data = [] := by
    rw [bytes, List.length_append] at single
    exact List.length_eq_zero_iff.mp (by simpa using single)
  subst empty
  have high : after.rptrAt (fun _ => 0) (0 : Nat) = reply.abData.getD 0 0 :=
    received.rptrAt pointer (by omega)
  have place : after.rptr + ((0 : Nat) : Int) = 0 := by
    rw [pointer, first]
    rfl
  rw [bytes, Case4State.rptrAt, memory, place, if_pos (by omega)] at high
  have head : after.rbuffer.get 0 = sw1 := high
  rw [Warns, head] at warns
  have other : ¬ (sw1 = 0x61 ∨ sw1 = 0x6C) := by
    apply warning_not_chaining
    rcases warns with ⟨nine, _⟩ | warning
    · exact .inl nine
    · exact .inr warning
  rw [if_neg other, same]

theorem Received.chained {after : Case4State} {offset : Nat} (received : Received past reply after offset)
    (pointer : after.rptr = offset) (chains : after.Chains beyond) :
    AsksAfter le reply (chain beyond le after : Pass capacity).1 := by
  intro asked data sw1 sw2 member bytes known
  have length : reply.abData.length = data.length + 2 := by
    rw [bytes, List.length_append]
    rfl
  have before : ((after.rlen : Int) - 2) = (data.length : Nat) := by
    rw [received.length, length]
    omega
  have high : after.rptrAt beyond (data.length : Nat) = sw1 := by
    rw [received.rptrAt pointer (by omega), bytes]
    simp
  have low : after.rptrAt beyond (data.length + 1 : Nat) = sw2 := by
    rw [received.rptrAt pointer (by omega), bytes]
    simp
  obtain ⟨_, more⟩ := chains
  rw [before, high] at more
  have moved : ∀ index : Int, Case4State.rptrAt beyond
      { after with rptr := after.rptr + ((after.rlen : Int) - 2) } index =
        after.rptrAt beyond ((data.length : Nat) + index) := by
    intro index
    rw [Case4State.rptrAt, Case4State.rptrAt, before, Int.add_assoc]
  have second : Case4State.rptrAt beyond
      { after with rptr := after.rptr + ((after.rlen : Int) - 2) } 1 = sw2 := by
    rw [moved]
    exact low
  rw [if_pos more, announced]
  simp only [chain, getResponse, List.mem_singleton, Event.transmitted.injEq, List.cons.injEq,
    and_true, true_and, second] at member
  rw [member]
  cases known with
  | inl empty =>
      subst empty
      have third : Case4State.rptrAt beyond
          { after with rptr := after.rptr + ((after.rlen : Int) - 2) } ((after.rlen : Int) - 1) =
            sw2 := by
        have last : ((after.rlen : Int) - 1) = 1 := by
          rw [received.length, length]
          rfl
        rw [last]
        exact second
      rw [third]
  | inr zero =>
      subst zero
      simp

theorem memory_range (rbuffer : Buffer UInt8 258) {count : Nat} (inside : count ≤ 258) :
    ((List.range count).map fun index : Nat => memory beyond rbuffer index) =
      rbuffer.cells.take count := by
  have size := rbuffer.length_cells
  apply List.ext_getElem
  · rw [List.length_map, List.length_range, List.length_take]
    omega
  · intro index first second
    rw [List.length_map, List.length_range] at first
    have bounded : index < rbuffer.cells.length := by omega
    rw [List.getElem_map, List.getElem_range, memory, if_pos (by omega), Int.toNat_natCast,
      Buffer.get, List.getElem_take, List.getD_eq_getElem?_getD, List.getElem?_eq_getElem bounded]
    rfl

theorem Received.finishes {after : Case4State} {offset : Nat} (received : Received past reply after offset)
    {turn : Turn Case4State CcidReply Event} (input : turn.input = reply)
    (asks : ∀ made ∈ past ++ [turn], AsksAfter le made.input made.output) :
    (finish beyond response after).2.Satisfies (Waiting le (past ++ [turn]))
      (Returned le (past ++ [turn])) := by
  have fits := received.fits
  simp only [finish, received.counted, memory_range after.rbuffer fits, received.collected]
  have size : (dataFields past ++ reply.abData).length = offset + reply.abData.length := by
    rw [List.length_append, received.front]
  split
  · rename_i room
    refine ⟨by simp, ?_, asks⟩
    intro filled length returned
    simp only [Outcome.returned.injEq, true_and] at returned
    obtain ⟨rfl, rfl⟩ := returned
    rw [uint16_of_range (by omega)]
    refine ⟨room, past, turn, rfl, ?_⟩
    have copied := Buffer.take_store_zero response
      (show 0 + (dataFields past ++ reply.abData).length ≤ capacity by omega)
    simp only [size] at copied
    rw [copied, dataFields_append, dataFields_singleton, List.append_assoc, input,
      dataField_statusWord]
  · refine ⟨by simp, ?_, asks⟩
    intro filled length returned
    simp at returned

/-- Where the test behind the moved pointer asks for more, the pointer is where
the reply begins. -/
theorem Regular.placed {rbuffer : Buffer UInt8 258} (regular : Regular beyond state reply)
    (waiting : Waiting le past state)
    (stored : state.rbuffer.store? state.target reply.abData = some rbuffer)
    (chains : (takeReply rbuffer reply.abData.length state).Chains beyond) :
    (takeReply rbuffer reply.abData.length state).rptr = state.tot_size := by
  obtain ⟨cells, rlen, _⟩ := takeReply_counted rbuffer reply.abData.length state
  obtain ⟨whole, more⟩ := chains
  rw [rlen] at whole more
  rw [← waiting.pointer]
  apply takeReply_pointer
  intro first
  by_contra different
  have early := waiting.early (by rw [first]; decide)
  have target : state.target = 0 := by
    rw [waiting.target, early]
    rfl
  rw [target] at stored
  have quiet := regular first (by omega) rbuffer stored
  have moved : (takeReply rbuffer reply.abData.length state).rptr =
      (reply.abData.length : Int) - 2 := by
    rw [takeReply, first]
    show state.rptr + ((reply.abData.length : Int) - 2) = (reply.abData.length : Int) - 2
    rw [waiting.pointer, early]
    simp
  rw [Case4State.rptrAt, cells, moved] at more
  have twice : (reply.abData.length : Int) - 2 + ((reply.abData.length : Int) - 2) =
      2 * ((reply.abData.length : Int) - 2) := by omega
  rw [twice] at more
  simp only [List.mem_cons, List.not_mem_nil, or_false] at quiet
  exact quiet more

theorem case4Body_failed (failed : (ccidTransmit state.tpdu state.rlen reply).2.1 ≠ .success) :
    case4Body beyond le response state reply =
      ((ccidTransmit state.tpdu state.rlen reply).1,
        .done (.returned (ccidTransmit state.tpdu state.rlen reply).2.1 response 0)) := if_pos failed

theorem case4Body_received (success : (ccidTransmit state.tpdu state.rlen reply).2.1 = .success)
    {rbuffer : Buffer UInt8 258} (stored : state.rbuffer.store? state.target reply.abData = some rbuffer) :
    case4Body beyond le response state reply =
      let after := takeReply rbuffer reply.abData.length state
      if state.stage = .first ∧ after.rlen = 2 ∧ Warns rbuffer then getResponse .warned le after
      else if after.Chains beyond then chain beyond le after
      else finish beyond response after := by
  rw [case4Body, (ccidTransmit_success success).1]
  simp only [ne_eq, not_true_eq_false, if_false, stored]

theorem case4Body_waits (waiting : Waiting le past state) (regular : Regular beyond state reply) :
    (case4Body beyond le response state reply).2.Satisfies
      (Waiting le (past ++ [⟨state, reply, (case4Body beyond le response state reply).1⟩]))
      (Returned le (past ++ [⟨state, reply, (case4Body beyond le response state reply).1⟩])) := by
  by_cases success : (ccidTransmit state.tpdu state.rlen reply).2.1 = .success
  · obtain ⟨rbuffer, stored, received⟩ := waiting.receives success
    obtain ⟨cells, rlen, _⟩ := takeReply_counted rbuffer reply.abData.length state
    have body := @case4Body_received _ beyond le _ _ response success _ stored
    have placed := regular.placed waiting stored
    have single := takeReply_pointer state rbuffer reply.abData.length
    rw [body]
    generalize takeReply rbuffer reply.abData.length state = after at *
    simp only
    by_cases warned : state.stage = .first ∧ after.rlen = 2 ∧ Warns rbuffer
    · rw [if_pos warned]
      obtain ⟨first, two, warns⟩ := warned
      rw [rlen] at two
      have early := waiting.early (by rw [first]; decide)
      have pointer : after.rptr = state.tot_size := by
        rw [single (fun _ => two), waiting.pointer]
      rw [← cells] at warns
      have asks : AsksAfter le reply _ := received.warned pointer early two warns
      have empty : after.tot_size = 0 := by
        have total := received.total (by omega)
        omega
      have next := received.waits (by omega) rfl .warned [0x00, 0xC0, 0x00, 0x00, le]
        (fun _ => empty) (asks_snoc waiting.asks ⟨state, reply, _⟩ asks)
      have place : (after.tot_size : Int) = after.rptr := by rw [pointer, early, empty]
      rw [place] at next
      exact next
    · rw [if_neg warned]
      by_cases chains : after.Chains beyond
      · rw [if_pos chains]
        have pointer := placed chains
        have whole : 2 ≤ reply.abData.length := by
          rw [← rlen]
          exact chains.1
        have asks : AsksAfter le reply (chain beyond le after : Pass capacity).1 :=
          received.chained pointer chains
        have total := received.total whole
        have next := fun tpdu => received.waits whole rfl .chained tpdu
          (fun other => absurd rfl other) (asks_snoc waiting.asks ⟨state, reply, _⟩ asks)
        have moved : (after.tot_size : Int) = after.rptr + ((after.rlen : Int) - 2) := by
          rw [pointer, total, rlen]
          omega
        rw [moved] at next
        exact next _
      · rw [if_neg chains]
        have quiet : AsksAfter le reply ([] : List Event) := .of_quiet (by simp)
        have output : (finish beyond response after).1 = [] := by
          rw [finish]
          split <;> rfl
        apply received.finishes rfl
        apply asks_snoc waiting.asks
        rw [output]
        exact quiet
  · rw [case4Body_failed success]
    refine ⟨by simp, ?_, ?_⟩
    · intro filled length returned
      simp only [Outcome.returned.injEq] at returned
      exact absurd returned.1 success
    · exact asks_snoc waiting.asks _ (.of_quiet (ccidTransmit_quiet _ _ _))

theorem case4Start_waits (apdu : Case4Apdu) (rbuffer : Buffer UInt8 258) :
    Waiting le [] (case4Start apdu rbuffer) where
  pointer := rfl
  small := Nat.zero_le 256
  rest := rfl
  room := rfl
  early := fun _ => rfl
  collected := List.take_zero
  asks := by simp

/-- In a run whose replies meet `Regular` a successful return leaves the data
fields of all replies and the last status word in the response. -/
theorem case4_assembles (beyond : Int → UInt8) (apdu : Case4Apdu) (response : Buffer UInt8 capacity)
    (rbuffer : Buffer UInt8 258) (replies : List CcidReply)
    (regular : Meets (Regular beyond) (_IfdTransmit_case4 beyond apdu response rbuffer replies).turns) :
    Assembles apdu.le (_IfdTransmit_case4 beyond apdu response rbuffer replies) := by
  have holds : (_IfdTransmit_case4 beyond apdu response rbuffer replies).outcome.Satisfies
      (Waiting apdu.le (_IfdTransmit_case4 beyond apdu response rbuffer replies).turns)
      (Returned apdu.le (_IfdTransmit_case4 beyond apdu response rbuffer replies).turns) := by
    apply call_satisfies _ _ regular
    · intro past state reply waiting allowed
      exact case4Body_waits waiting allowed
    · exact case4Start_waits apdu rbuffer
  generalize _IfdTransmit_case4 beyond apdu response rbuffer replies = result at *
  cases ended : result.outcome with
  | again state =>
      rw [ended] at holds
      exact ⟨by rw [ended]; simp, by rw [ended]; simp, holds.asks⟩
  | done outcome =>
      rw [ended] at holds
      refine ⟨?_, ?_, holds.asks⟩
      · rw [ended]
        intro faulted
        simp only [Next.done.injEq] at faulted
        exact holds.inside faulted
      · intro filled length returned
        rw [ended] at returned
        simp only [Next.done.injEq] at returned
        exact holds.assembled filled length returned

/-- SELECT with two bytes of data and an open Le. -/
def selectApdu : Case4Apdu where
  cmd := [0x00, 0xA4, 0x00, 0x00, 0x02, 0x3F, 0x00, 0x00]
  counted := by decide
  nonempty := by decide

/-- Two replies with data, the first of which announces the second. -/
theorem chainedSelect_assembles :
    Assembles selectApdu.le
      (_IfdTransmit_case4 (fun _ => 0) selectApdu (.filled 16 0 : Buffer UInt8 16) (.filled 258 0)
        [.ofTpdu [0x61, 0x03], .ofTpdu [0x6F, 0x02, 0x83, 0x61, 0x01], .ofTpdu [0x00, 0x90, 0x00]]) :=
  case4_assembles _ _ _ _ _ (by decide +kernel)

/-- The length that stands in the reply is asked for, or Le. -/
def AsksAnnounced (le : UInt8) (reply : CcidReply) (events : List Event) : Prop :=
  ∀ asked data sw1 sw2, .transmitted [0x00, 0xC0, 0x00, 0x00, asked] ∈ events →
    reply.abData = data ++ [sw1, sw2] → asked = announced le sw2

/-- Behind the warning 6283 the open Le is asked for, though SW2 is another number. -/
theorem warnedSelect_not_announced :
    let result := _IfdTransmit_case4 (fun _ => 0) selectApdu (.filled 16 0 : Buffer UInt8 16)
      (.filled 258 0) [.ofTpdu [0x62, 0x83], .ofTpdu [0x6F, 0x00, 0x90, 0x00]]
    (∃ response, result.outcome = .done (.returned .success response 4)) ∧
      ¬ ∀ turn ∈ result.turns, AsksAnnounced selectApdu.le turn.input turn.output := by
  refine ⟨⟨_, rfl⟩, ?_⟩
  intro announces
  have asked := announces _ (List.mem_cons_self ..) 0x00 [] 0x62 0x83 (by decide) rfl
  revert asked
  decide

end Cyberjack.Eca
