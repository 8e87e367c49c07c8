import Cyberjack.Ppa.T1

namespace Cyberjack.Ppa

open Cyberjack.Foundation

/-! # What a pass of the inner loop does

Each reply gets a verdict; each verdict has a handler, and each handler a lemma
that says what it sends and what it leaves alone.
-/

variable {capacity : Nat} {state before after : T1State capacity} {reply : Reply}

/-- What the inner loop makes of a reply. -/
inductive Verdict where
  | lost
  | mute
  | bad (code : UInt8)
  | accepted
  | request
  | repeats
  | acknowledged
deriving Repr, DecidableEq

def iBlockVerdict (state : T1State capacity) : Verdict :=
  if state.rbuffer.get 1 &&& 0x40 ≠ (state.handle.PCB_seq &&& 0x10) <<< (2 : UInt8) ∨
      state.sbuffer.get 1 &&& 0x20 = 0x20 ∨ state.rbuffer.get 2 = 0 ∨ state.rbuffer.get 2 = 255 then
    .bad 0x82
  else .accepted

def rBlockVerdict (state : T1State capacity) : Verdict :=
  if state.rbuffer.get 1 &&& 0x10 = (state.sbuffer.get 1 &&& 0x40) >>> (2 : UInt8) then .repeats
  else if state.sbuffer.get 1 &&& 0x20 ≠ 0 then .acknowledged
  else .bad 0x82

def verdict (state : T1State capacity) : Verdict :=
  if state.Result = .success then
    if Malformed state.rbuffer then .bad 0x82
    else if state.rbuffer.get 1 &&& 0x80 = 0 then iBlockVerdict state
    else if state.rbuffer.get 1 &&& 0xE0 = 0xC0 then .request
    else rBlockVerdict state
  else if state.Result = .parity then .bad 0x81
  else if state.Result = .timeout then .mute
  else .lost

def act (state : T1State capacity) : Verdict → Pass capacity
  | .lost => ([], .done (.returned state))
  | .mute => leaveInnerLoop { state with Result := .prot }
  | .bad code => refuse code state
  | .accepted => acceptIBlock state
  | .request => onSBlock state
  | .repeats => repeatIBlock state
  | .acknowledged => onAcknowledged state

theorem onIBlock_eq (state : T1State capacity) : onIBlock state = act state (iBlockVerdict state) := by
  rw [onIBlock, iBlockVerdict]
  split <;> rfl

theorem onRBlock_eq (state : T1State capacity) : onRBlock state = act state (rBlockVerdict state) := by
  simp only [onRBlock, rBlockVerdict]
  split
  · rfl
  · split <;> rfl

/-- The reader never asks the card with an S-request, so the branch for its
response is not taken. -/
theorem innerLoopBody_eq (noRequest : state.sblockAt 1 &&& 0xE0 ≠ 0xC0) (reply : Reply) :
    innerLoopBody state reply = act (receive reply state) (verdict (receive reply state)) := by
  have noRequest' : ¬ (receive reply state).sblockAt 1 &&& 0xE0 = 0xC0 := noRequest
  simp only [innerLoopBody]
  generalize receive reply state = state at noRequest' ⊢
  rw [if_neg noRequest', verdict]
  by_cases success : state.Result = .success
  · rw [if_pos (.inl success), if_pos success, if_pos success]
    split
    · rfl
    · split
      · exact onIBlock_eq state
      · split
        · rfl
        · exact onRBlock_eq state
  · rw [if_neg success, if_neg success]
    by_cases parity : state.Result = .parity
    · rw [if_pos (.inr (.inl parity)), if_pos parity, if_pos parity]
      rfl
    · rw [if_neg parity, if_neg parity]
      by_cases timeout : state.Result = .timeout
      · rw [if_pos (.inr (.inr timeout)), if_pos timeout]
        rfl
      · rw [if_neg (by simp [success, parity, timeout]), if_neg timeout]
        rfl

/-- An I-block has a prologue of three bytes and something behind it. -/
def IsIBlock (block : List UInt8) : Prop := 4 ≤ block.length ∧ block.getD 1 0 &&& 0x80 = 0

instance (block : List UInt8) : Decidable (IsIBlock block) := by
  unfold IsIBlock
  infer_instance

/-- The last block built, with its epilogue. -/
def T1State.stored (state : T1State capacity) : List UInt8 :=
  let block := state.sbuffer.cells.take (3 + (state.sbuffer.get 2).toNat)
  block ++ epilogue state.handle block

theorem sblockAt_sbuffer (named : state.sblock = .sbuffer) (index : Nat) :
    state.sblockAt index = state.sbuffer.get index := by
  rw [T1State.sblockAt, T1State.sblockCells, named]
  rfl

theorem sblockAt_rblock (named : state.sblock = .rblock) (index : Nat) :
    state.sblockAt index = state.rblock.get index := by
  rw [T1State.sblockAt, T1State.sblockCells, named]
  rfl

/-- An I-block is stored that can be sent again. -/
structure Holds (state : T1State capacity) : Prop where
  room : 3 + (state.sbuffer.get 2).toNat + edcLength state.handle ≤ 259
  iBlock : state.sbuffer.get 1 &&& 0x80 = 0

/-- What holds whenever a block has been sent. -/
structure Ready (state : T1State capacity) : Prop extends Holds state where
  noRequest : state.sblockAt 1 &&& 0xE0 ≠ 0xC0

/-- The command, the block on its way and what was assembled are left alone. -/
structure Keeps (before after : T1State capacity) : Prop where
  EDC : after.handle.EDC = before.handle.EDC
  cmd : after.cmd = before.cmd
  INF : after.INF = before.INF
  sbuffer : after.sbuffer.cells.take (3 + (before.sbuffer.get 2).toNat) =
    before.sbuffer.cells.take (3 + (before.sbuffer.get 2).toNat)
  maxresp : after.maxresp = before.maxresp
  lenr : after.lenr = before.lenr
  response : after.response = before.response

theorem Keeps.get (keeps : Keeps before after) {index : Nat} (prologue : index < 3) :
    after.sbuffer.get index = before.sbuffer.get index :=
  Buffer.get_of_take keeps.sbuffer (by omega)

theorem edcLength_congr {first second : Handle} (same : second.EDC = first.EDC) :
    edcLength second = edcLength first := by
  rw [edcLength, edcLength, same]

theorem epilogue_congr {first second : Handle} (same : second.EDC = first.EDC) (block : List UInt8) :
    epilogue second block = epilogue first block := by
  rw [epilogue, epilogue, same]

theorem Keeps.stored (keeps : Keeps before after) : after.stored = before.stored := by
  simp only [T1State.stored]
  rw [keeps.get (by decide), keeps.sbuffer, epilogue_congr keeps.EDC]

theorem Keeps.ready (keeps : Keeps before after) (holds : Holds before)
    (noRequest : after.sblockAt 1 &&& 0xE0 ≠ 0xC0) : Ready after where
  room := by
    rw [keeps.get (by decide), edcLength_congr keeps.EDC]
    exact holds.room
  iBlock := by
    rw [keeps.get (by decide)]
    exact holds.iBlock
  noRequest := noRequest

theorem noRequest_sbuffer (iBlock : state.sbuffer.get 1 &&& 0x80 = 0) :
    state.sbuffer.get 1 &&& 0xE0 ≠ 0xC0 := by
  have bits : ∀ pcb : UInt8, pcb &&& 0x80 = 0 → pcb &&& 0xE0 ≠ 0xC0 := by decide
  exact bits _ iBlock

/-- What the transmission of a block leaves alone. -/
structure Sent (before after : T1State capacity) : Prop where
  handle : after.handle = before.handle
  cmd : after.cmd = before.cmd
  INF : after.INF = before.INF
  error : after.error = before.error
  maxresp : after.maxresp = before.maxresp
  lenr : after.lenr = before.lenr
  response : after.response = before.response
  cells : ∀ index, after.sblockAt index =
    if index < before.slen then before.sblockAt index
    else if index < before.slen + edcLength before.handle then
      (epilogue before.handle (before.sblockCells.take before.slen)).getD (index - before.slen) 0
    else before.sblockAt index
  sbuffer : ∀ count, (before.sblock = .sbuffer → count ≤ before.slen) →
    after.sbuffer.cells.take count = before.sbuffer.cells.take count

theorem Sent.keeps {sent : T1State capacity} (made : Sent after sent) (keeps : Keeps before after)
    (inside : after.sblock = .sbuffer → 3 + (before.sbuffer.get 2).toNat ≤ after.slen) :
    Keeps before sent where
  EDC := by rw [made.handle, keeps.EDC]
  cmd := made.cmd.trans keeps.cmd
  INF := made.INF.trans keeps.INF
  sbuffer := (made.sbuffer _ inside).trans keeps.sbuffer
  maxresp := made.maxresp.trans keeps.maxresp
  lenr := made.lenr.trans keeps.lenr
  response := made.response.trans keeps.response

theorem Sent.sblockAt (made : Sent before after) {index : Nat} (inside : index < before.slen) :
    after.sblockAt index = before.sblockAt index := by
  rw [made.cells, if_pos inside]

variable (state) in
theorem transmit_sbuffer (event : UInt8 → List UInt8 → Event) (named : state.sblock = .sbuffer)
    (room : state.slen + edcLength state.handle ≤ 259) :
    ∃ next, transmit event state = ([event state.xwt (state.sblockCells.take state.slen ++
        epilogue state.handle (state.sblockCells.take state.slen))], .again next) ∧
      Sent state next := by
  have cells : state.sblockCells = state.sbuffer.cells := by
    rw [T1State.sblockCells, named]
  have length := length_epilogue state.handle (state.sbuffer.cells.take state.slen)
  rw [← length] at room
  refine ⟨{ state with
    sbuffer := state.sbuffer.store state.slen _ room
    sblock := .sbuffer
    slen := state.slen + (epilogue state.handle (state.sbuffer.cells.take state.slen)).length }, ?_, ⟨rfl, rfl, rfl, rfl, rfl, rfl, rfl, ?_, ?_⟩⟩
  · simp only [transmit, appendEpilogue, named, cells, Buffer.store?_of_room _ room,
      Option.map_some]
    simp only [T1State.sblockCells, Buffer.take_store]
  · intro index
    rw [sblockAt_sbuffer named, cells, ← length]
    exact Buffer.get_store state.sbuffer room index
  · intro count inside
    exact Buffer.take_store_of_le room (inside named)

theorem transmit_rblock (event : UInt8 → List UInt8 → Event) (named : state.sblock = .rblock)
    (room : state.slen + edcLength state.handle ≤ 6) :
    ∃ next, transmit event state = ([event state.xwt (state.sblockCells.take state.slen ++
        epilogue state.handle (state.sblockCells.take state.slen))], .again next) ∧
      Sent state next := by
  have cells : state.sblockCells = state.rblock.cells := by
    rw [T1State.sblockCells, named]
  have length := length_epilogue state.handle (state.rblock.cells.take state.slen)
  rw [← length] at room
  refine ⟨{ state with
    rblock := state.rblock.store state.slen _ room
    sblock := .rblock
    slen := state.slen + (epilogue state.handle (state.rblock.cells.take state.slen)).length }, ?_, ⟨rfl, rfl, rfl, rfl, rfl, rfl, rfl, ?_, fun _ _ => rfl⟩⟩
  · simp only [transmit, appendEpilogue, named, cells, Buffer.store?_of_room _ room,
      Option.map_some]
    simp only [T1State.sblockCells, Buffer.take_store]
  · intro index
    rw [sblockAt_rblock named, cells, ← length]
    exact Buffer.get_store state.rblock room index

theorem transmit_overruns (event : UInt8 → List UInt8 → Event) (named : state.sblock = .rblock)
    (excess : 6 < state.slen + edcLength state.handle) : transmit event state = ([], .done .fault) := by
  have unstored : state.rblock.store? state.slen
      (epilogue state.handle (state.sblockCells.take state.slen)) = none := by
    rw [Buffer.store?_eq_none, length_epilogue]
    omega
  simp only [transmit, appendEpilogue, named, unstored, Option.map_none]

/-- A block that is not an I-block is sent, and the loop goes on. -/
structure Controls (before : T1State capacity) (pass : Pass capacity) (next : T1State capacity) :
    Prop where
  sent : ∃ bwi block, pass = ([.sent bwi block], .again next) ∧ ¬ IsIBlock block
  keeps : Keeps before next
  ready : Ready next

theorem keeps_of_eq {next : T1State capacity} (EDC : next.handle.EDC = before.handle.EDC)
    (cmd : next.cmd = before.cmd) (INF : next.INF = before.INF)
    (sbuffer : next.sbuffer = before.sbuffer) (maxresp : next.maxresp = before.maxresp)
    (lenr : next.lenr = before.lenr) (response : next.response = before.response) :
    Keeps before next :=
  ⟨EDC, cmd, INF, by rw [sbuffer], maxresp, lenr, response⟩

theorem pcb_of_take {tail : List UInt8} (named : state.sblock = .rblock) (prologue : 2 ≤ state.slen) :
    (state.sblockCells.take state.slen ++ tail).getD 1 0 = state.sblockAt 1 := by
  have cells : state.sblockCells = state.rblock.cells := by
    rw [T1State.sblockCells, named]
  have size := state.rblock.length_cells
  have long : 1 < (state.sblockCells.take state.slen).length := by
    rw [cells, List.length_take]
    omega
  simp only [T1State.sblockAt, List.getD_eq_getElem?_getD, List.getElem?_append_left long,
    List.getElem?_take]
  rw [if_pos (by omega)]

theorem not_iBlock_of_bit {block : List UInt8} (control : block.getD 1 0 &&& 0x80 ≠ 0) :
    ¬ IsIBlock block := fun iBlock => control iBlock.2

theorem edcLength_le (handle : Handle) : 1 ≤ edcLength handle ∧ edcLength handle ≤ 2 := by
  rw [edcLength]
  split <;> omega

variable (after) in
theorem transmit_controls (holds : Holds before) (keeps : Keeps before after)
    (named : after.sblock = .rblock) (slen : after.slen = 3)
    (rBlock : after.sblockAt 1 &&& 0xC0 = 0x80) :
    ∃ next, Controls before (transmit .sent after) next ∧ Sent after next := by
  have short := edcLength_le after.handle
  obtain ⟨next, sends, made⟩ := transmit_rblock .sent named (by omega)
  have bits : ∀ pcb : UInt8, pcb &&& 0xC0 = 0x80 → pcb &&& 0x80 ≠ 0 ∧ pcb &&& 0xE0 ≠ 0xC0 := by
    decide
  have kept : Keeps before next := made.keeps keeps (by simp [named])
  refine ⟨next, ⟨⟨_, _, sends, ?_⟩, kept, kept.ready holds ?_⟩, made⟩
  · apply not_iBlock_of_bit
    rw [pcb_of_take named (by omega)]
    exact (bits _ rBlock).1
  · rw [made.sblockAt (by omega)]
    exact (bits _ rBlock).2

theorem protocolError_eq (state : T1State capacity) :
    protocolError state = ([.iccPowerOff], .done (.returned { state with Result := .prot })) := by
  simp [protocolError, leaveInnerLoop]

theorem leaveInnerLoop_prot (state : T1State capacity) :
    leaveInnerLoop { state with Result := .prot } =
      ([], .done (.returned { state with Result := .prot })) := by
  simp [leaveInnerLoop]

/-- The codes a reply is refused with make an R-block. -/
def Refuses (code : UInt8) : Prop := ∀ seq : UInt8, (code ||| (seq &&& 0x10)) &&& 0xC0 = 0x80

theorem refuses_parity : Refuses 0x81 := by
  unfold Refuses
  decide

theorem refuses_other : Refuses 0x82 := by
  unfold Refuses
  decide

theorem refuses_more : Refuses 0x80 := by
  unfold Refuses
  decide

/-- A reply that is refused ends the loop when it is the third in a row, and is
answered with an R-block otherwise. -/
theorem refuse_cases (ready : Ready state) {code : UInt8} (refuses : Refuses code) :
    (2 < int32 (state.error + 1) ∧ refuse code state =
        ([.iccPowerOff], .done (.returned { countError state with Result := .prot }))) ∨
      (int32 (state.error + 1) ≤ 2 ∧ ∃ next, Controls state (refuse code state) next ∧
        next.handle = state.handle ∧ next.error = int32 (state.error + 1)) := by
  by_cases excess : (countError state).error > 2
  · refine .inl ⟨excess, ?_⟩
    simp only [refuse]
    rw [if_pos excess, protocolError_eq]
  · refine .inr ⟨Int.not_lt.mp excess, ?_⟩
    simp only [refuse]
    rw [if_neg excess, putRefusal]
    by_cases already : (countError state).sblockAt 1 &&& 0xC0 = 0x80
    · have named : state.sblock = .rblock := by
        cases named : state.sblock with
        | rblock => rfl
        | sbuffer =>
            have bits : ∀ pcb : UInt8, pcb &&& 0x80 = 0 → pcb &&& 0xC0 ≠ 0x80 := by decide
            exact absurd ((sblockAt_sbuffer named 1) ▸ already) (bits _ ready.iBlock)
      rw [if_neg (fun fresh => fresh already)]
      obtain ⟨next, controls, made⟩ := transmit_controls
        { countError state with slen := 3 } ready.toHolds (keeps_of_eq rfl rfl rfl rfl rfl rfl rfl)
        named rfl already
      exact ⟨next, controls, made.handle, made.error⟩
    · rw [if_pos already]
      obtain ⟨next, controls, made⟩ := transmit_controls
        { putRBlock code (countError state) with slen := 3 } ready.toHolds
        (keeps_of_eq rfl rfl rfl rfl rfl rfl rfl) rfl rfl (by
          rw [sblockAt_rblock rfl]
          simpa [putRBlock, Buffer.get_store] using refuses (countError state).handle.PCB_seq)
      exact ⟨next, controls, made.handle, made.error⟩

theorem stored_iBlock (ready : Ready state) : IsIBlock state.stored := by
  have size := state.sbuffer.length_cells
  have room := ready.room
  have short := edcLength_le state.handle
  have long : (state.sbuffer.cells.take (3 + (state.sbuffer.get 2).toNat)).length =
      3 + (state.sbuffer.get 2).toNat := by
    rw [List.length_take]
    omega
  constructor
  · simp only [T1State.stored, List.length_append, length_epilogue, long]
    omega
  · have pcb : state.stored.getD 1 0 = state.sbuffer.get 1 := by
      simp only [T1State.stored, List.getD_eq_getElem?_getD]
      rw [List.getElem?_append_left (by omega), List.getElem?_take, if_pos (by omega)]
      rfl
    rw [pcb]
    exact ready.iBlock

/-- The last block is sent again with every byte it had. -/
theorem repeatIBlock_resends (ready : Ready state) :
    ∃ next, repeatIBlock state =
        ((if int32 (state.error + 1) > 2 then [.iccPowerOff] else []) ++
          [.sent state.xwt state.stored], .again next) ∧
      Keeps state next ∧ Ready next ∧ next.handle = state.handle ∧
      next.error = int32 (state.error + 1) := by
  obtain ⟨next, sends, made⟩ := transmit_sbuffer
    (restoreIBlock (countError state)) .sent rfl ready.room
  have kept : Keeps state next :=
    made.keeps (keeps_of_eq rfl rfl rfl rfl rfl rfl rfl) fun _ => Nat.le_refl _
  refine ⟨next, ?_, kept, kept.ready ready.toHolds ?_, made.handle, made.error⟩
  · simp only [repeatIBlock]
    rw [sends]
    change (if int32 (state.error + 1) > 2 then _ else _, _) = _
    split <;> rfl
  · rw [made.sblockAt (show 1 < 3 + (state.sbuffer.get 2).toNat by omega), sblockAt_sbuffer rfl]
    exact noRequest_sbuffer ready.iBlock

/-- The request and the response to it fit into `rblock`; an ABORT request is
copied but not answered. -/
def SBlockRoom (state : T1State capacity) : Prop :=
  state.rlen ≤ 6 ∧ (state.rbuffer.get 1 &&& 0x1F ≠ 2 →
    1 ≤ state.rlen ∧ state.rlen + edcLength state.handle ≤ 7)

instance (state : T1State capacity) : Decidable (SBlockRoom state) := by
  unfold SBlockRoom
  infer_instance

/-- An S-request changes the handle and the waiting time. -/
structure Obeys (before after : T1State capacity) : Prop where
  EDC : after.handle.EDC = before.handle.EDC
  cmd : after.cmd = before.cmd
  INF : after.INF = before.INF
  sbuffer : after.sbuffer = before.sbuffer
  rblock : after.rblock = before.rblock
  sblock : after.sblock = before.sblock
  slen : after.slen = before.slen
  error : after.error = before.error
  maxresp : after.maxresp = before.maxresp
  lenr : after.lenr = before.lenr
  response : after.response = before.response

theorem obeySRequest_obeys (state : T1State capacity) : Obeys state (obeySRequest state) := by
  simp only [obeySRequest]
  split
  · exact ⟨rfl, rfl, rfl, rfl, rfl, rfl, rfl, rfl, rfl, rfl, rfl⟩
  · split
    · exact ⟨rfl, rfl, rfl, rfl, rfl, rfl, rfl, rfl, rfl, rfl, rfl⟩
    · split
      · exact ⟨rfl, rfl, rfl, rfl, rfl, rfl, rfl, rfl, rfl, rfl, rfl⟩
      · exact ⟨rfl, rfl, rfl, rfl, rfl, rfl, rfl, rfl, rfl, rfl, rfl⟩

/-- A request too short to reach the PCB leaves zero there. -/
theorem epilogue_zero {handle : Handle} {block : List UInt8} {index : Nat}
    (zero : handle.EDC = 0 → xorSum block = 0) : (epilogue handle block).getD index 0 = 0 := by
  rw [epilogue]
  split
  · rename_i lrc
    rw [zero lrc]
    rcases index with _ | index <;> rfl
  · rcases index with _ | _ | index <;> rfl

theorem copied_get {copied : Buffer UInt8 6}
    {room : 0 + (state.rbuffer.cells.take state.rlen).length ≤ 6}
    (copy : copied = state.rblock.store 0 (state.rbuffer.cells.take state.rlen) room)
    {index : Nat} (inside : index < state.rlen) : copied.get index = state.rbuffer.get index := by
  have size := state.rbuffer.length_cells
  have length : (state.rbuffer.cells.take state.rlen).length = min state.rlen 259 := by
    rw [List.length_take, size]
  rw [copy, Buffer.get_store, if_neg (Nat.not_lt_zero _), if_pos (by omega)]
  simp only [Buffer.get, List.getD_eq_getElem?_getD, List.getElem?_take, Nat.sub_zero]
  rw [if_pos inside]

theorem putSResponse_get (copied : Buffer UInt8 6) (state : T1State capacity) (index : Nat) :
    (putSResponse copied state).rblock.get index =
      if index = 1 then copied.get 1 ||| 0x20 else copied.get index := by
  have stored := Buffer.get_store copied
    (show 1 + [copied.get 1 ||| 0x20].length ≤ 6 by simp) index
  rw [putSResponse, stored]
  rcases index with _ | _ | index
  · rfl
  · rfl
  · rw [if_neg (by omega), if_neg (by simp), if_neg (by omega)]

theorem xorSum_take_one {buffer : Buffer UInt8 6} (zero : buffer.get 0 = 0) :
    xorSum (buffer.cells.take 1) = 0 := by
  rcases buffer with ⟨_ | ⟨byte, rest⟩, length⟩
  · rfl
  · simpa [Buffer.get] using zero

theorem sResponse_controls {copied : Buffer UInt8 6} (ready : Ready state)
    (request : state.rbuffer.get 1 &&& 0xE0 = 0xC0) (nad : state.rbuffer.get 0 = 0)
    {room : 0 + (state.rbuffer.cells.take state.rlen).length ≤ 6}
    (copy : copied = state.rblock.store 0 (state.rbuffer.cells.take state.rlen) room)
    (some : 1 ≤ state.rlen) (fits : state.rlen + edcLength state.handle ≤ 7) :
    ∃ next, Controls state (transmit .sent (obeySRequest (putSResponse copied state))) next ∧
      next.error = 0 ∧ next.handle = (obeySRequest (putSResponse copied state)).handle := by
  have short := edcLength_le state.handle
  have obeys := obeySRequest_obeys (putSResponse copied state)
  generalize obeySRequest (putSResponse copied state) = answer at obeys ⊢
  have slen : answer.slen = state.rlen - 1 := by
    rw [obeys.slen]
    change uint16 ((state.rlen : Int) - 1) = state.rlen - 1
    rw [← Int.natCast_one, ← Int.natCast_sub some]
    exact uint16_of_range (by omega)
  have sameLength : edcLength answer.handle = edcLength state.handle := edcLength_congr obeys.EDC
  have named : answer.sblock = .rblock := obeys.sblock
  have cell : ∀ index, answer.sblockAt index =
      if index = 1 then copied.get 1 ||| 0x20 else copied.get index := by
    intro index
    rw [sblockAt_rblock named, obeys.rblock, putSResponse_get]
  have first : answer.sblockAt 1 = copied.get 1 ||| 0x20 := by
    rw [cell, if_pos rfl]
  obtain ⟨next, sends, made⟩ := transmit_rblock .sent named (by omega)
  have kept : Keeps state next :=
    made.keeps (keeps_of_eq obeys.EDC obeys.cmd obeys.INF obeys.sbuffer obeys.maxresp obeys.lenr
      obeys.response) (by simp [named])
  have bits : ∀ byte : UInt8, (byte ||| 0x20) &&& 0xE0 ≠ 0xC0 := by decide
  refine ⟨next, ⟨⟨_, _, sends, ?_⟩, kept, kept.ready ready.toHolds ?_⟩,
    made.error.trans obeys.error, made.handle⟩
  · by_cases prologue : 3 ≤ state.rlen
    · apply not_iBlock_of_bit
      have answered : ∀ byte : UInt8, byte &&& 0xE0 = 0xC0 → (byte ||| 0x20) &&& 0x80 ≠ 0 := by decide
      rw [pcb_of_take named (by omega), first, copied_get copy (by omega)]
      exact answered _ request
    · rintro ⟨long, _⟩
      rw [List.length_append, length_epilogue, List.length_take] at long
      omega
  · rw [made.cells, first]
    split
    · exact bits _
    · split
      · rename_i unreached reached
        have zero : answer.handle.EDC = 0 → xorSum (answer.sblockCells.take answer.slen) = 0 := by
          intro lrc
          have one : answer.slen = 1 := by
            rw [edcLength, if_pos lrc] at reached
            omega
          have cells : answer.sblockCells = answer.rblock.cells := by
            rw [T1State.sblockCells, named]
          rw [one, cells]
          apply xorSum_take_one
          rw [← sblockAt_rblock named, cell, if_neg (by decide), copied_get copy (by omega)]
          exact nad
        rw [epilogue_zero zero]
        decide
      · exact bits _

theorem sResponse_overruns (copied : Buffer UInt8 6)
    (excess : state.rlen = 0 ∨ 7 < state.rlen + edcLength state.handle) (received : state.rlen ≤ 259) :
    transmit .sent (obeySRequest (putSResponse copied state)) = ([], .done .fault) := by
  have obeys := obeySRequest_obeys (putSResponse copied state)
  generalize obeySRequest (putSResponse copied state) = answer at obeys ⊢
  have slen : answer.slen = uint16 ((state.rlen : Int) - 1) := obeys.slen
  have sameLength : edcLength answer.handle = edcLength state.handle := edcLength_congr obeys.EDC
  apply transmit_overruns .sent obeys.sblock
  rw [slen, sameLength, uint16]
  omega

theorem onSBlock_cases (ready : Ready state) (request : state.rbuffer.get 1 &&& 0xE0 = 0xC0)
    (nad : state.rbuffer.get 0 = 0) (received : state.rlen ≤ 259) :
    (¬ SBlockRoom state ∧ onSBlock state = ([], .done .fault)) ∨
      (SBlockRoom state ∧ ((state.rbuffer.get 1 &&& 0x1F = 2 ∧ ∃ final,
          onSBlock state = ([.iccPowerOff], .done (.returned final)) ∧ final.Result = .prot) ∨
        ∃ next copied, Controls state (onSBlock state) next ∧ next.error = 0 ∧
          next.handle = (obeySRequest (putSResponse copied state)).handle)) := by
  have size := state.rbuffer.length_cells
  have length : (state.rbuffer.cells.take state.rlen).length = state.rlen := by
    rw [List.length_take]
    omega
  by_cases fits : state.rlen ≤ 6
  · have room : 0 + (state.rbuffer.cells.take state.rlen).length ≤ 6 := by omega
    have stored : state.rblock.store? 0 (state.rbuffer.cells.take state.rlen) = _ :=
      Buffer.store?_of_room state.rblock room
    simp only [onSBlock]
    rw [stored]
    by_cases abort : state.rbuffer.get 1 &&& 0x1F = 2
    · refine .inr ⟨⟨fits, fun answered => absurd abort answered⟩, .inl ⟨abort, ?_⟩⟩
      simp only
      rw [show (putSResponse _ state).rbuffer = state.rbuffer from rfl, if_pos abort, protocolError_eq]
      exact ⟨_, rfl, rfl⟩
    · simp only
      rw [show ∀ copied, (putSResponse copied state).rbuffer = state.rbuffer from fun _ => rfl,
        if_neg abort]
      by_cases both : 1 ≤ state.rlen ∧ state.rlen + edcLength state.handle ≤ 7
      · obtain ⟨next, controls, error, handle⟩ :=
          sResponse_controls ready request nad rfl both.1 both.2
        exact .inr ⟨⟨fits, fun _ => both⟩, .inr ⟨next, _, controls, error, handle⟩⟩
      · refine .inl ⟨fun fit => both (fit.2 abort), ?_⟩
        exact sResponse_overruns _ (by omega) received
  · refine .inl ⟨fun fit => fits fit.1, ?_⟩
    have unstored : state.rblock.store? 0 (state.rbuffer.cells.take state.rlen) = none := by
      rw [Buffer.store?_eq_none]
      rintro ⟨_, inside⟩
      have overruns : (state.rbuffer.cells.take state.rlen).length ≤ 6 := by simpa using inside
      omega
    simp only [onSBlock]
    rw [unstored]

theorem Installed.room {handle : Handle} (installed : Installed handle) (cmd : List UInt8) :
    nextInf handle cmd + 3 + edcLength handle ≤ 259 := by
  have short := edcLength_le handle
  have byte := handle.IFSC.toNat_lt
  have high : handle.IFSC.toNat ≠ 255 := fun full => installed.high (UInt8.toNat_inj.mp full)
  rw [nextInf_eq_min]
  omega

/-- The block that `outerLoop` builds, with its epilogue. -/
def builtBlock (handle : Handle) (cmd : List UInt8) : List UInt8 :=
  nextBlock handle cmd ++ epilogue handle (nextBlock handle cmd)

/-- What is known of a state when the next I-block has been sent. -/
structure Builds (before after : T1State capacity) : Prop where
  handle : after.handle = before.handle
  cmd : after.cmd = before.cmd
  INF : after.INF = nextInf before.handle before.cmd
  stored : after.stored = builtBlock before.handle before.cmd
  pcb : after.sbuffer.get 1 = nextPcb before.handle before.cmd
  error : after.error = before.error
  maxresp : after.maxresp = before.maxresp
  lenr : after.lenr = before.lenr
  response : after.response = before.response
  ready : Ready after

theorem nextPcb_iBlock (handle : Handle) (cmd : List UInt8) : nextPcb handle cmd &&& 0x80 = 0 := by
  rw [nextPcb]
  split <;> split <;> decide

theorem nextPcb_more (handle : Handle) (cmd : List UInt8) :
    nextPcb handle cmd &&& 0x20 ≠ 0 ↔ nextInf handle cmd < cmd.length := by
  rw [nextPcb]
  constructor
  · intro bit
    by_contra last
    rw [if_neg last] at bit
    split at bit
    · exact bit (by decide)
    · exact bit (by decide)
  · intro more
    rw [if_pos more]
    split <;> decide

theorem outerLoop_empty (empty : state.cmd = []) :
    outerLoop state = ([], .done (.returned state)) := by
  rw [outerLoop, if_pos empty]

variable (state) in
theorem outerLoop_builds (installed : Installed state.handle) (unsent : state.cmd ≠ []) :
    ∃ next, outerLoop state =
        ([.sentNew state.xwt (builtBlock state.handle state.cmd)], .again next) ∧
      Builds state next := by
  obtain ⟨next, sends, made⟩ := transmit_sbuffer (buildBlock state) .sentNew rfl
    (installed.room state.cmd)
  have length := length_nextBlock state.handle state.cmd
  have copied := Buffer.take_store_zero state.sbuffer (nextBlock_room state.handle state.cmd)
  rw [length] at copied
  have block : next.sbuffer.cells.take (nextInf state.handle state.cmd + 3) =
      nextBlock state.handle state.cmd :=
    (made.sbuffer _ fun _ => Nat.le_refl _).trans copied
  have cell : ∀ index, index < 3 →
      next.sbuffer.get index = (nextBlock state.handle state.cmd).getD index 0 := by
    intro index inside
    exact Buffer.getD_of_take 0 block (by omega)
  have inf : (next.sbuffer.get 2).toNat = nextInf state.handle state.cmd := by
    have byte := nextInf_le state.handle state.cmd
    rw [cell 2 (by decide)]
    change (UInt8.ofNat (nextInf state.handle state.cmd)).toNat = _
    rw [UInt8.toNat_ofNat']
    omega
  have pcb : next.sbuffer.get 1 = nextPcb state.handle state.cmd := cell 1 (by decide)
  have stored : next.stored = builtBlock state.handle state.cmd := by
    simp only [T1State.stored, builtBlock]
    rw [inf, Nat.add_comm 3, block, made.handle]
    rfl
  refine ⟨next, ?_, made.handle, made.cmd, made.INF, stored, pcb, made.error, made.maxresp,
    made.lenr, made.response, ⟨⟨?_, ?_⟩, ?_⟩⟩
  · rw [outerLoop, if_neg unsent, sends]
    rw [show (buildBlock state).sblockCells.take (buildBlock state).slen =
      nextBlock state.handle state.cmd from copied]
    rfl
  · have room := installed.room state.cmd
    rw [inf, edcLength_congr (congrArg Handle.EDC made.handle)]
    change 3 + nextInf state.handle state.cmd + edcLength state.handle ≤ 259
    omega
  · rw [pcb]
    exact nextPcb_iBlock _ _
  · have prologue : 1 < (buildBlock state).slen := by
      change 1 < nextInf state.handle state.cmd + 3
      omega
    have own : (buildBlock state).sbuffer.get 1 = nextPcb state.handle state.cmd :=
      Buffer.getD_of_take 0 copied (by omega)
    rw [made.sblockAt prologue, sblockAt_sbuffer rfl, own]
    have bits : ∀ byte : UInt8, byte &&& 0x80 = 0 → byte &&& 0xE0 ≠ 0xC0 := by decide
    exact bits _ (nextPcb_iBlock _ _)

/-- An acknowledged block makes room for the next one. -/
theorem onAcknowledged_builds (installed : Installed state.handle) (success : state.Result = .success)
    (rBlock : state.rbuffer.get 1 &&& 0x80 ≠ 0) (unsent : state.cmd.drop state.INF ≠ []) :
    ∃ acknowledged next, onAcknowledged state =
        ([.sentNew state.xwt (builtBlock acknowledged.handle acknowledged.cmd)], .again next) ∧
      Builds acknowledged next ∧
      acknowledged = { state with
        error := 0
        handle := { state.handle with PCB_seq := state.handle.PCB_seq ^^^ 0x01 }
        cmd := state.cmd.drop state.INF } := by
  have bits : ∀ byte : UInt8, byte &&& 0x80 ≠ 0 → byte &&& 0xA0 ≠ 0 := by decide
  obtain ⟨next, builds, built⟩ := outerLoop_builds
    { state with
      error := 0
      handle := { state.handle with PCB_seq := state.handle.PCB_seq ^^^ 0x01 }
      cmd := state.cmd.drop state.INF }
    ⟨installed.low, installed.high, installed.edc⟩ unsent
  refine ⟨_, next, ?_, built, rfl⟩
  rw [onAcknowledged, leaveInnerLoop, if_neg]
  · exact builds
  · simp only [success]
    rintro (prot | ours)
    · cases prot
    · exact bits _ rBlock ours

/-- The copy of an information field that is made stays inside the response array. -/
def IBlockRoom (state : T1State capacity) : Prop :=
  state.received ≤ state.maxresp → 0 ≤ state.received ∧ state.lenr + state.received ≤ capacity

instance (state : T1State capacity) : Decidable (IBlockRoom state) := by
  unfold IBlockRoom
  infer_instance

/-- What an accepted I-block changes. -/
structure Accepts (before after : T1State capacity) : Prop where
  IFSC : after.handle.IFSC = before.handle.IFSC
  EDC : after.handle.EDC = before.handle.EDC
  cmd : after.cmd = before.cmd.drop before.INF
  INF : after.INF = before.INF
  sbuffer : after.sbuffer = before.sbuffer
  error : after.error = 0
  lenr : after.lenr = uint16 (before.lenr + before.received)
  maxresp : after.maxresp =
    if before.received ≤ before.maxresp then before.maxresp - before.received else before.maxresp
  copied : before.received ≤ before.maxresp →
    after.response.cells.take (before.lenr + before.received.toNat) =
      before.response.cells.take before.lenr ++
        (before.rbuffer.cells.drop 3).take before.received.toNat
  uncopied : before.maxresp < before.received → after.response = before.response

theorem takeAcknowledged_handle (state : T1State capacity) :
    (takeAcknowledged state).handle.IFSC = state.handle.IFSC ∧
      (takeAcknowledged state).handle.EDC = state.handle.EDC := by
  rw [takeAcknowledged]
  split
  · exact ⟨rfl, rfl⟩
  · exact ⟨rfl, rfl⟩

theorem takeAcknowledged_cmd (state : T1State capacity) :
    (takeAcknowledged state).cmd = state.cmd.drop state.INF := by
  rw [takeAcknowledged]
  split
  · rename_i empty
    rw [empty, List.drop_nil]
  · rfl

/-- What a copy to the response leaves alone, and what it puts there. -/
structure Copies (before after : T1State capacity) : Prop where
  handle : after.handle = before.handle
  cmd : after.cmd = before.cmd
  INF : after.INF = before.INF
  sbuffer : after.sbuffer = before.sbuffer
  error : after.error = before.error
  rbuffer : after.rbuffer = before.rbuffer
  Result : after.Result = before.Result
  lenr : after.lenr = uint16 (before.lenr + before.received)
  maxresp : after.maxresp =
    if before.received ≤ before.maxresp then before.maxresp - before.received else before.maxresp
  copied : before.received ≤ before.maxresp →
    after.response.cells.take (before.lenr + before.received.toNat) =
      before.response.cells.take before.lenr ++
        (before.rbuffer.cells.drop 3).take before.received.toNat
  uncopied : before.maxresp < before.received → after.response = before.response

variable (state) in
theorem copyResponse_cases (arrived : state.rlen ≤ 259) :
    (¬ IBlockRoom state ∧ copyResponse state = none) ∨
      (IBlockRoom state ∧ ∃ after, copyResponse state = some after ∧ Copies state after) := by
  have length : ((state.rbuffer.cells.drop 3).take state.received.toNat).length =
      state.received.toNat := by
    have size := state.rbuffer.length_cells
    rw [List.length_take, List.length_drop, T1State.received]
    omega
  by_cases fits : state.received ≤ state.maxresp
  · by_cases room : 0 ≤ state.received ∧ state.lenr + state.received ≤ capacity
    · refine .inr ⟨fun _ => room, ?_⟩
      have inside : state.lenr + ((state.rbuffer.cells.drop 3).take state.received.toNat).length ≤
          capacity := by
        omega
      have stored := Buffer.store?_of_room state.response inside
      have copied := Buffer.take_store state.response inside
      rw [length] at copied
      refine ⟨{ state with
        response := state.response.store state.lenr _ inside
        maxresp := state.maxresp - state.received
        lenr := uint16 (state.lenr + state.received) }, ?_,
        ⟨rfl, rfl, rfl, rfl, rfl, rfl, rfl, rfl, (if_pos fits).symm, fun _ => copied,
          fun excess => absurd fits (by omega)⟩⟩
      simp only [copyResponse, copyInf]
      rw [if_pos fits, if_neg (by omega), stored]
      rfl
    · refine .inl ⟨fun holds => room (holds fits), ?_⟩
      simp only [copyResponse, copyInf]
      rw [if_pos fits]
      by_cases negative : state.received < 0
      · rw [if_pos negative]
        rfl
      · have unstored : state.response.store? state.lenr
            ((state.rbuffer.cells.drop 3).take state.received.toNat) = none := by
          rw [Buffer.store?_eq_none, length]
          omega
        rw [if_neg negative, unstored]
        rfl
  · refine .inr ⟨fun holds => absurd holds fits, ?_⟩
    refine ⟨{ state with lenr := uint16 (state.lenr + state.received) }, ?_,
      ⟨rfl, rfl, rfl, rfl, rfl, rfl, rfl, rfl, (if_neg fits).symm,
        fun holds => absurd holds fits, fun _ => rfl⟩⟩
    simp only [copyResponse]
    rw [if_neg fits]

/-- The state in which the information field of an I-block is copied. -/
def acceptedAt (state : T1State capacity) : T1State capacity := takeAcknowledged (expectNext state)

theorem acceptedAt_same (state : T1State capacity) :
    (acceptedAt state).received = state.received ∧ (acceptedAt state).maxresp = state.maxresp ∧
      (acceptedAt state).lenr = state.lenr ∧ (acceptedAt state).response = state.response ∧
      (acceptedAt state).rbuffer = state.rbuffer ∧ (acceptedAt state).sbuffer = state.sbuffer ∧
      (acceptedAt state).INF = state.INF ∧ (acceptedAt state).error = 0 ∧
      (acceptedAt state).Result = state.Result ∧ (acceptedAt state).rlen = state.rlen := by
  rw [acceptedAt, takeAcknowledged]
  split
  · exact ⟨rfl, rfl, rfl, rfl, rfl, rfl, rfl, rfl, rfl, rfl⟩
  · exact ⟨rfl, rfl, rfl, rfl, rfl, rfl, rfl, rfl, rfl, rfl⟩

theorem acceptIBlock_cases (ready : Ready state) (success : state.Result = .success)
    (iBlock : state.rbuffer.get 1 &&& 0x80 = 0) (arrived : state.rlen ≤ 259) :
    (¬ IBlockRoom state ∧ acceptIBlock state = ([.accepted state.inf], .done .fault)) ∨
      (IBlockRoom state ∧ ∃ after, Accepts state after ∧
        ((acceptIBlock state = ([.accepted state.inf], .done (.returned after)) ∧
            after.Result = .success) ∨
          ∃ next pass, Controls after pass next ∧ next.handle = after.handle ∧ next.error = 0 ∧
            acceptIBlock state = (.accepted state.inf :: pass.1, pass.2))) := by
  obtain ⟨received, maxresp, lenr, response, rbuffer, sbuffer, INF, error, result, rlen⟩ :=
    acceptedAt_same state
  have sameRoom : IBlockRoom (acceptedAt state) ↔ IBlockRoom state := by
    rw [IBlockRoom, IBlockRoom, received, maxresp, lenr]
  rcases copyResponse_cases (acceptedAt state) (by omega) with
    ⟨noRoom, copied⟩ | ⟨room, after, copied, copies⟩
  · refine .inl ⟨fun holds => noRoom (sameRoom.mpr holds), ?_⟩
    rw [acceptedAt] at copied
    rw [acceptIBlock, copied]
  · obtain ⟨IFSC, EDC⟩ := takeAcknowledged_handle (expectNext state)
    have accepts : Accepts state after := {
      IFSC := by rw [copies.handle]; exact IFSC
      EDC := by rw [copies.handle]; exact EDC
      cmd := by rw [copies.cmd]; exact takeAcknowledged_cmd (expectNext state)
      INF := copies.INF.trans INF
      sbuffer := copies.sbuffer.trans sbuffer
      error := copies.error.trans error
      lenr := by rw [copies.lenr, lenr, received]
      maxresp := by rw [copies.maxresp, maxresp, received]
      copied := by
        have stored := copies.copied
        rwa [received, maxresp, lenr, response, rbuffer] at stored
      uncopied := by
        have kept := copies.uncopied
        rwa [received, maxresp, response] at kept }
    have same : after.rbuffer = state.rbuffer := copies.rbuffer.trans rbuffer
    have done : after.Result = .success := (copies.Result.trans result).trans success
    refine .inr ⟨sameRoom.mp room, after, accepts, ?_⟩
    rw [acceptedAt] at copied
    rw [acceptIBlock, copied]
    simp only [same]
    by_cases more : state.rbuffer.get 1 &&& 0x20 ≠ 0
    · have holds : Holds after := by
        refine ⟨?_, ?_⟩
        · rw [accepts.sbuffer, edcLength_congr accepts.EDC]
          exact ready.room
        · rw [accepts.sbuffer]
          exact ready.iBlock
      obtain ⟨next, controls, made⟩ := transmit_controls { putRBlock 0x80 after with slen := 3 } holds
        (keeps_of_eq rfl rfl rfl rfl rfl rfl rfl) rfl rfl (by
          rw [sblockAt_rblock rfl]
          simpa [putRBlock, Buffer.get_store] using refuses_more after.handle.PCB_seq)
      rw [if_pos more]
      exact .inr ⟨next, _, controls, made.handle, made.error.trans accepts.error, rfl⟩
    · have bits : ∀ byte : UInt8, byte &&& 0x80 = 0 → byte &&& 0x20 = 0 → byte &&& 0xA0 = 0 := by
        decide
      have last : after.rbuffer.get 1 &&& 0xA0 = 0 := by
        rw [same]
        exact bits _ iBlock (not_not.mp more)
      rw [if_neg more, leaveInnerLoop, if_pos (.inr last)]
      exact .inl ⟨rfl, done⟩

end Cyberjack.Ppa
