import Cyberjack.Eca.PinHandlers
import Cyberjack.Foundation.History
import Cyberjack.Foundation.Transfer
import Cyberjack.Ppa.T1
import Mathlib.Data.Nat.Bitwise

namespace Cyberjack.Ppa

open Cyberjack.Foundation Cyberjack.Eca

/-! # I2C cards

`SyncInterpreter.c` for the protocol that `ctBcsReset` gives the number 8, and
the commands of `cjdata.c` that set what it depends on.
-/

/-- The members of a device that say how its synchronous card is addressed. -/
structure SyncDevice where
  Protokoll : Nat
  iic_deviceaddr : UInt8
  iic_offset_bytes : UInt8
  iic_pagesize : UInt8
deriving Repr, DecidableEq

/-- A device as `ctapiInit` leaves it. -/
def SyncDevice.initial : SyncDevice := ⟨0, 0, 0, 0⟩

/-- A command for the card; `response` is the caller's buffer, `replies` is what the reader
answers to the blocks in their order. -/
structure SyncCall where
  lenc : Nat
  cmd : Nat → UInt8
  lenr : Nat
  response : Nat → UInt8
  replies : Nat → Reply

/-- What a call returns, if it does, and the blocks it sends to the card. -/
structure SyncAnswer where
  returned : Option Cjpp
  response : List UInt8
  blocks : List (List UInt8)
deriving DecidableEq

/-- The return code of `cjccid_XfrBlock` where `in_len` bytes may come back. -/
def transferred (reply : Reply) (in_len : Nat) : Cjpp :=
  if reply.res ≠ .success then reply.res
  else if reply.bStatus &&& 0x02 ≠ 0 then .noIcc
  else if reply.bStatus &&& 0x01 ≠ 0 then .noActiveIcc
  else if reply.bStatus = 0x40 then
    if reply.bError = 0xFD then .parity else if reply.bError = 0xFE then .timeout else .len
  else if in_len < reply.abData.length then .rbufferToSmall
  else .success

/-- The block that `S8SyncCommand` sends. -/
def S8SyncCommand (device : SyncDevice) (offset : Nat) (out : List UInt8) : List UInt8 :=
  if device.iic_offset_bytes = 1 then
    (device.iic_deviceaddr ||| UInt8.ofNat ((offset >>> 7) &&& 0x0e)) :: UInt8.ofNat offset :: out
  else device.iic_deviceaddr :: UInt8.ofNat (offset >>> 8) :: UInt8.ofNat offset :: out

/-- The status word of `TestSID`. -/
def TestSID (call : SyncCall) (ID : Nat) : Nat :=
  if 6 < call.lenc ∧ call.cmd 4 = 2 then
    if call.cmd 5 = UInt8.ofNat (ID >>> 8) ∧ call.cmd 6 = UInt8.ofNat ID then 0x9000 else 0x6a82
  else 0x6700

structure WriteState where
  addr : Nat
  len : Nat
  ptr : Nat
deriving Repr, DecidableEq

/-- A pass of the loop of UPDATE BINARY; no result where it divides by zero. -/
def writeChunk (device : SyncDevice) (cmd : Nat → UInt8) :
    Body WriteState Reply (List UInt8) (Option Nat) := fun state reply =>
  if device.iic_pagesize = 0 then ([], .done none)
  else
    let page := device.iic_pagesize.toNat
    let Rest := min (page - state.addr % page) state.len
    let block := S8SyncCommand device state.addr (bytesAt cmd state.ptr Rest)
    if transferred reply 0 ≠ .success then ([block], .done (some 0x6F00))
    else if state.len - Rest = 0 then ([block], .done (some 0x9000))
    else ([block], .again ⟨(state.addr + Rest) % 65536, state.len - Rest, state.ptr + Rest⟩)

/-- `addr` of a command. -/
def SyncCall.addr (call : SyncCall) : Nat := (call.cmd 2).toNat * 256 + (call.cmd 3).toNat

def writeChunks (device : SyncDevice) (call : SyncCall) : Call WriteState Reply (List UInt8) (Option Nat) :=
  let len := (call.cmd 4).toNat
  Foundation.call (writeChunk device call.cmd)
    (if len = 0 then ([], .done (some 0x9000)) else ([], .again ⟨call.addr, len, 5⟩))
    ((List.range len).map call.replies)

def statusWord (status : Nat) : List UInt8 := [UInt8.ofNat (status >>> 8), UInt8.ofNat status]

def SELECT : UInt8 := 0xA4

def READBINARY : UInt8 := 0xB0

def UPDATEBINARY : UInt8 := 0xD6

def GETKEYSTATUS : UInt8 := 0xF2

/-- `SyncInterpreter` for protocol 8. -/
def SyncInterpreter (device : SyncDevice) (call : SyncCall) : SyncAnswer :=
  if call.cmd 0 ≠ 0 ∧ (call.cmd 0 ≠ 0x80 ∨ call.cmd 1 ≠ GETKEYSTATUS) then
    ⟨some .success, [0x6E, 0x00], []⟩
  else if call.cmd 1 = SELECT then ⟨some .success, statusWord (TestSID call 0x3F00), []⟩
  else if call.cmd 1 = READBINARY then
    let len := if call.cmd 4 = 0 then 256 else (call.cmd 4).toNat
    if call.lenr < len + 2 then ⟨some .rbufferToSmall, [], []⟩
    else
      let block := S8SyncCommand device call.addr []
      let code := transferred (call.replies 0) len
      if code ≠ .success then ⟨some code, [], [block]⟩
      else
        let data := (call.replies 0).abData
        ⟨some .success, data ++ bytesAt call.response data.length (len - data.length) ++ [0x90, 0x00], [block]⟩
  else if call.cmd 1 = UPDATEBINARY then
    if call.lenc ≠ 5 + (call.cmd 4).toNat then ⟨some .success, [0x67, 0x00], []⟩
    else
      let written := writeChunks device call
      match written.outcome with
      | .done (some status) => ⟨some .success, statusWord status, written.trace⟩
      | .done none => ⟨none, [], written.trace⟩
      | .again _ => ⟨none, [], written.trace⟩
  else ⟨some .success, [0x6d, 0x00], []⟩

/-- `GetTag` of `cjdata.c`. -/
def GetTag (memory : Nat → UInt8) (start len : Nat) (tagvalue : UInt8) : Option (Nat × Nat) :=
  tagAt memory tagvalue len start len

/-- The lengths `ctapiData_inner` lets pass. -/
def WrongLength (lenc : Nat) (cmd : Nat → UInt8) : Prop :=
  (lenc ≠ 4 ∧ lenc ≠ 5 ∧ (lenc ≤ 5 ∨ lenc ≠ 5 + (cmd 4).toNat) ∧ (lenc ≤ 6 ∨ lenc ≠ 6 + (cmd 4).toNat)) ∨
    (lenc = 6 ∧ cmd 4 = 0) ∨ lenc < 4

instance (lenc : Nat) (cmd : Nat → UInt8) : Decidable (WrongLength lenc cmd) :=
  inferInstanceAs (Decidable (_ ∨ _))

/-- The object with tag 44: how many offset bytes the card takes, and its page size. -/
def configurePage (device : SyncDevice) (tag44 : UInt8) : SyncDevice :=
  { device with
    iic_offset_bytes := if tag44 &&& 0xf0 = 0x90 then 2 else 1
    iic_pagesize := UInt8.ofNat (1 <<< (tag44 &&& 0x0f).toNat) }

/-- The command 80 60 of `ctapiData_inner`. -/
def configure (device : SyncDevice) (lenc : Nat) (cmd : Nat → UInt8) : List UInt8 × SyncDevice :=
  if WrongLength lenc cmd then ([0x67, 0x00], device)
  else if cmd 2 ≠ 0x01 ∨ cmd 3 ≠ 0x00 then ([0x6A, 0x00], device)
  else if (cmd 4).toNat < 3 then ([0x67, 0x00], device)
  else
    let tag45 (device : SyncDevice) : List UInt8 × SyncDevice :=
      match GetTag cmd 5 (cmd 4).toNat 0x45 with
      | some (tag45, taglen) =>
          if taglen ≠ 1 then ([0x67, 0x00], device)
          else ([0x90, 0x00], { device with iic_deviceaddr := cmd tag45 })
      | none => ([0x90, 0x00], device)
    match GetTag cmd 5 (cmd 4).toNat 0x44 with
    | some (tag44, taglen) =>
        if taglen ≠ 1 then ([0x67, 0x00], device) else tag45 (configurePage device (cmd tag44))
    | none => tag45 device

/-- How `ctBcsReset` ends: without an answer, with a synchronous card, or with an asynchronous one
that has or has not been given its protocol. -/
inductive Activation where
  | failed
  | synchronous (atr : List UInt8)
  | asynchronous (Protokoll : Option (Fin 2))
deriving Repr, DecidableEq

def ctBcsReset (device : SyncDevice) : Activation → SyncDevice
  | .failed => device
  | .asynchronous none => device
  | .asynchronous (some Protokoll) => { device with Protokoll }
  | .synchronous atr =>
      if atr.length ≠ 4 then device
      else if atr.getD 0 0 = 0xa2 then { device with Protokoll := 10 }
      else if atr.getD 0 0 = 0x92 then { device with Protokoll := 9 }
      else if atr.getD 0 0 &&& 0xf0 = 0x80 then ⟨8, 0xa0, 1, 1⟩
      else device

inductive SyncRequest where
  | powerOn (activation : Activation)
  | configure (lenc : Nat) (cmd : Nat → UInt8)
  | card (call : SyncCall)

/-- The requests one after the other; other protocols than 8 are not looked into. -/
def syncRequest : Machine SyncDevice SyncRequest (Option SyncAnswer)
  | device, .powerOn activation => (none, ctBcsReset device activation)
  | device, .configure lenc cmd => (none, (configure device lenc cmd).2)
  | device, .card call =>
      (if call.lenr < 2 ∨ device.Protokoll ≠ 8 then none else some (SyncInterpreter device call), device)

/-! ## Where the blocks go -/

/-- The address in the card that a block selects. -/
def cardAddress (device : SyncDevice) (block : List UInt8) : Nat :=
  if device.iic_offset_bytes = 1 then (block.getD 0 0 &&& 0x0e).toNat * 128 + (block.getD 1 0).toNat
  else (block.getD 1 0).toNat * 256 + (block.getD 2 0).toNat

def cardPayload (device : SyncDevice) (block : List UInt8) : List UInt8 :=
  block.drop (if device.iic_offset_bytes = 1 then 2 else 3)

/-- The address in the card that an offset selects. -/
def offsetAddress (device : SyncDevice) (offset : Nat) : Nat :=
  cardAddress device (S8SyncCommand device offset [])

/-- How many bytes three bits of the device address and one byte, or two bytes, can select. -/
def addressable (device : SyncDevice) : Nat := if device.iic_offset_bytes = 1 then 2048 else 65536

/-- An UPDATE BINARY for an I2C card, in the range of the card. -/
structure Updates (device : SyncDevice) (call : SyncCall) : Prop where
  protocol : device.Protokoll = 8
  room : 2 ≤ call.lenr
  cla : call.cmd 0 = 0
  ins : call.cmd 1 = UPDATEBINARY
  length : call.lenc = 5 + (call.cmd 4).toNat
  range : call.addr + (call.cmd 4).toNat ≤ addressable device

/-- The data reach the card in their order, page by page. -/
structure ChunksWritten (device : SyncDevice) (call : SyncCall) (answer : SyncAnswer) : Prop where
  returns : answer.returned = some .success
  part : ∃ rest, bytesAt call.cmd 5 (call.cmd 4).toNat = (answer.blocks.map (cardPayload device)).flatten ++ rest
  whole : (∀ index, transferred (call.replies index) 0 = .success) →
    (answer.blocks.map (cardPayload device)).flatten = bytesAt call.cmd 5 (call.cmd 4).toNat ∧
      answer.response = [0x90, 0x00]
  follows : Addressed (cardAddress device) (cardPayload device) (offsetAddress device call.addr) answer.blocks
  paged : ∀ block ∈ answer.blocks,
    cardAddress device block % device.iic_pagesize.toNat + (cardPayload device block).length ≤
      device.iic_pagesize.toNat

def I2cWritten (entry : Entry SyncDevice SyncRequest (Option SyncAnswer)) : Prop :=
  ∀ call, entry.input = .card call → Updates entry.before call →
    ∃ answer, entry.answer = some answer ∧ ChunksWritten entry.before call answer

/-- The bits of the device address that select a block of 256 bytes. -/
def pins (device : SyncDevice) : Nat := ((device.iic_deviceaddr &&& 0x0e) >>> 1).toNat

/-- Where the range goes on in another block of 256 bytes, the device address leaves the bits free
that select it. -/
def Selects (device : SyncDevice) (call : SyncCall) : Prop :=
  device.iic_offset_bytes = 1 → ∀ block, call.addr / 256 < block →
    block ≤ (call.addr + (call.cmd 4).toNat - 1) / 256 → pins device ||| block = (pins device ||| (block - 1)) + 1

def WriteAllowed (device : SyncDevice) : SyncRequest → Prop
  | .powerOn _ => True
  | .configure _ _ => True
  | .card call => Updates device call → call.cmd 4 ≠ 0 → device.iic_pagesize ≠ 0 ∧ Selects device call

variable {device : SyncDevice} {call : SyncCall}

theorem select_pins : ∀ deviceaddr : UInt8, ∀ block < 8,
    ((deviceaddr ||| UInt8.ofNat (2 * block)) &&& 0x0e).toNat =
      2 * (((deviceaddr &&& 0x0e) >>> 1).toNat ||| block) := by
  decide +kernel

theorem select_block {offset : Nat} (inside : offset < 2048) : (offset >>> 7) &&& 0x0e = 2 * (offset / 256) := by
  have bits : ∀ high < 16, high &&& 0x0e = 2 * (high / 2) := by decide
  have high := bits (offset / 128) (by omega)
  rw [Nat.shiftRight_eq_div_pow, high]
  omega

theorem toNat_ofNat_mod (value : Nat) : (UInt8.ofNat value).toNat = value % 256 := by
  simp

theorem offsetAddress_one (one : device.iic_offset_bytes = 1) {offset : Nat} (inside : offset < 2048) :
    offsetAddress device offset = (pins device ||| offset / 256) * 256 + offset % 256 := by
  have selected := select_pins device.iic_deviceaddr (offset / 256) (by omega)
  simp only [offsetAddress, cardAddress, S8SyncCommand, one, if_true, List.getD_cons_zero, List.getD_cons_succ,
    select_block inside, selected, toNat_ofNat_mod, pins]
  omega

theorem offsetAddress_two (two : device.iic_offset_bytes ≠ 1) {offset : Nat} (inside : offset < 65536) :
    offsetAddress device offset = offset := by
  simp only [offsetAddress, cardAddress, S8SyncCommand, if_neg two, List.getD_cons_zero, List.getD_cons_succ,
    toNat_ofNat_mod, Nat.shiftRight_eq_div_pow]
  omega

/-- A block that is written goes to the address of its offset. -/
theorem cardAddress_written (device : SyncDevice) (offset : Nat) (out : List UInt8) :
    cardAddress device (S8SyncCommand device offset out) = offsetAddress device offset := by
  by_cases one : device.iic_offset_bytes = 1
  · simp [offsetAddress, cardAddress, S8SyncCommand, one]
  · simp [offsetAddress, cardAddress, S8SyncCommand, one]

theorem cardPayload_written (device : SyncDevice) (offset : Nat) (out : List UInt8) :
    cardPayload device (S8SyncCommand device offset out) = out := by
  by_cases one : device.iic_offset_bytes = 1
  · simp [cardPayload, S8SyncCommand, one]
  · simp [cardPayload, S8SyncCommand, one]

/-- Within the range the addresses follow one another as the offsets do. -/
theorem offsetAddress_add (updates : Updates device call) (selects : Selects device call) {count : Nat}
    (inside : count < (call.cmd 4).toNat) :
    offsetAddress device (call.addr + count) = offsetAddress device call.addr + count := by
  have range := updates.range
  rw [addressable] at range
  by_cases one : device.iic_offset_bytes = 1
  · rw [if_pos one] at range
    induction count with
    | zero => simp only [Nat.add_zero]
    | succ count ih =>
        have before := ih (by omega)
        rw [← Nat.add_assoc]
        rw [offsetAddress_one one (by omega)] at before ⊢
        generalize offsetAddress device call.addr = first at before ⊢
        by_cases border : (call.addr + count + 1) % 256 = 0
        · have block : (call.addr + count + 1) / 256 = (call.addr + count) / 256 + 1 := by omega
          have free := selects one ((call.addr + count) / 256 + 1) (by omega) (by omega)
          rw [Nat.add_sub_cancel] at free
          have last : (call.addr + count) % 256 = 255 := by omega
          rw [last] at before
          rw [block, free, border, Nat.succ_mul]
          exact congrArg Nat.succ before
        · have block : (call.addr + count + 1) / 256 = (call.addr + count) / 256 := by omega
          simp only [block]
          omega
  · rw [if_neg one] at range
    rw [offsetAddress_two one (by omega), offsetAddress_two one (by omega)]

theorem offsetAddress_mod {page : Nat} (divides : page ∣ 256) {offset : Nat}
    (inside : offset < addressable device) : offsetAddress device offset % page = offset % page := by
  rw [addressable] at inside
  by_cases one : device.iic_offset_bytes = 1
  · rw [if_pos one] at inside
    rw [offsetAddress_one one inside]
    obtain ⟨times, whole⟩ := divides
    have back : offset = offset / 256 * 256 + offset % 256 := by omega
    conv => rhs; rw [back]
    rw [whole, Nat.mul_left_comm, Nat.mul_left_comm (offset / (page * times)), Nat.mul_add_mod, Nat.mul_add_mod]
  · rw [if_neg one] at inside
    rw [offsetAddress_two one inside]

/-! ## The loop -/

/-- What every block that is sent keeps. -/
structure ChunksSent (device : SyncDevice) (call : SyncCall) (blocks : List (List UInt8)) (count : Nat) : Prop where
  data : Consecutive (bytesAt call.cmd 5 (call.cmd 4).toNat) (blocks.map (cardPayload device)) count
  follows : Addressed (cardAddress device) (cardPayload device) (offsetAddress device call.addr) blocks
  paged : ∀ block ∈ blocks,
    cardAddress device block % device.iic_pagesize.toNat + (cardPayload device block).length ≤
      device.iic_pagesize.toNat

/-- In front of a pass `count` bytes have been sent, in no more than `count` blocks. -/
structure ChunksPending (device : SyncDevice) (call : SyncCall) (past : List (Turn WriteState Reply (List UInt8)))
    (state : WriteState) : Prop where
  sent : ChunksSent device call (outputs past) ((call.cmd 4).toNat - state.len)
  some : 0 < state.len
  within : state.len ≤ (call.cmd 4).toNat
  addr : state.addr = call.addr + ((call.cmd 4).toNat - state.len)
  ptr : state.ptr = 5 + ((call.cmd 4).toNat - state.len)
  passes : past.length ≤ (call.cmd 4).toNat - state.len

/-- The loop ends with all data sent, or where a block is refused. -/
def ChunksFinished (device : SyncDevice) (call : SyncCall) (past : List (Turn WriteState Reply (List UInt8)))
    (result : Option Nat) : Prop :=
  (result = some 0x9000 ∧ ChunksSent device call (outputs past) (call.cmd 4).toNat) ∨
    (result = some 0x6F00 ∧ (∃ count, ChunksSent device call (outputs past) count) ∧
      ∃ turn ∈ past, transferred turn.input 0 ≠ .success)

theorem length_flatten_sent {blocks : List (List UInt8)} {count : Nat} (sent : ChunksSent device call blocks count) :
    (blocks.map (cardPayload device)).flatten.length = count := by
  have inside := sent.data.inside
  rw [sent.data.joined, List.length_take]
  omega

theorem sent_next (updates : Updates device call) (selects : Selects device call)
    (divides : device.iic_pagesize.toNat ∣ 256) {blocks : List (List UInt8)} {count Rest : Nat}
    (sent : ChunksSent device call blocks count) (room : count + Rest ≤ (call.cmd 4).toNat) (some : 0 < Rest)
    (page : (call.addr + count) % device.iic_pagesize.toNat + Rest ≤ device.iic_pagesize.toNat) :
    ChunksSent device call (blocks ++ [S8SyncCommand device (call.addr + count) (bytesAt call.cmd (5 + count) Rest)])
      (count + Rest) := by
  have range := updates.range
  have piece : bytesAt call.cmd (5 + count) Rest =
      ((bytesAt call.cmd 5 (call.cmd 4).toNat).drop count).take Rest := by
    obtain ⟨rest, whole⟩ := Nat.exists_eq_add_of_le room
    rw [whole, Nat.add_assoc, bytesAt_add, bytesAt_add call.cmd (5 + count), List.drop_left' (length_bytesAt _ _ _),
      List.take_left' (length_bytesAt _ _ _)]
  refine ⟨?_, addressed_snoc.mpr ⟨sent.follows, ?_⟩, ?_⟩
  · rw [List.map_append, List.map_singleton, cardPayload_written, piece]
    apply sent.data.next
    rw [length_bytesAt]
    omega
  · rw [cardAddress_written, length_flatten_sent sent]
    exact offsetAddress_add updates selects (by omega)
  · intro block made
    rcases List.mem_append.mp made with before | last
    · exact sent.paged block before
    · rw [List.mem_singleton.mp last, cardAddress_written, cardPayload_written, length_bytesAt,
        offsetAddress_mod divides (by omega)]
      exact page

/-- A pass sends the next block, and the loop goes on while there is more. -/
theorem writeChunk_writing (updates : Updates device call) (selects : Selects device call)
    (divides : device.iic_pagesize.toNat ∣ 256) (past : List (Turn WriteState Reply (List UInt8)))
    (state : WriteState) (reply : Reply) (writing : ChunksPending device call past state) :
    (writeChunk device call.cmd state reply).2.Satisfies
      (ChunksPending device call (past ++ [⟨state, reply, (writeChunk device call.cmd state reply).1⟩]))
      (ChunksFinished device call (past ++ [⟨state, reply, (writeChunk device call.cmd state reply).1⟩])) := by
  have positive : 0 < device.iic_pagesize.toNat := Nat.pos_of_dvd_of_pos divides (by decide)
  have whole : device.iic_pagesize ≠ 0 := by
    intro zero
    simp [zero] at positive
  have range := updates.range
  have limit : addressable device ≤ 65536 := by
    rw [addressable]
    split <;> omega
  have some := writing.some
  have within := writing.within
  have left := Nat.mod_lt state.addr positive
  simp only [writeChunk, if_neg whole, writing.ptr]
  have room := Nat.min_le_left (device.iic_pagesize.toNat - state.addr % device.iic_pagesize.toNat) state.len
  have few := Nat.min_le_right (device.iic_pagesize.toNat - state.addr % device.iic_pagesize.toNat) state.len
  have progress : 0 < min (device.iic_pagesize.toNat - state.addr % device.iic_pagesize.toNat) state.len := by
    omega
  generalize min (device.iic_pagesize.toNat - state.addr % device.iic_pagesize.toNat) state.len = Rest
    at room few progress ⊢
  rw [writing.addr] at room ⊢
  have inside : (call.cmd 4).toNat - state.len + Rest ≤ (call.cmd 4).toNat := by omega
  have next := sent_next updates selects divides writing.sent inside progress (by omega)
  by_cases refused : transferred reply 0 ≠ .success
  · simp only [if_pos refused, satisfies_done]
    refine .inr ⟨rfl, ⟨(call.cmd 4).toNat - state.len + Rest, ?_⟩,
      ⟨_, List.mem_append_right _ (List.mem_singleton_self _), refused⟩⟩
    rw [outputs_append, outputs_singleton]
    exact next
  · simp only [if_neg refused]
    by_cases finished : state.len - Rest = 0
    · simp only [if_pos finished, satisfies_done]
      have all : (call.cmd 4).toNat - state.len + Rest = (call.cmd 4).toNat := by omega
      rw [all] at next
      refine .inl ⟨rfl, ?_⟩
      rw [outputs_append, outputs_singleton]
      exact next
    · simp only [if_neg finished, satisfies_again]
      have count : (call.cmd 4).toNat - (state.len - Rest) = (call.cmd 4).toNat - state.len + Rest := by omega
      have passes := writing.passes
      refine ⟨?_, Nat.pos_of_ne_zero finished, Nat.le_trans (Nat.sub_le _ _) within, ?_, ?_, ?_⟩
      · rw [outputs_append, outputs_singleton, count]
        exact next
      · simp only [count]
        omega
      · simp only [count]
        omega
      · simp only [List.length_append, List.length_singleton, count]
        omega

/-- The loop ends, since every pass sends a byte at least. -/
theorem writeChunks_finished (updates : Updates device call) (selects : Selects device call)
    (divides : device.iic_pagesize.toNat ∣ 256) (some : call.cmd 4 ≠ 0) :
    ∃ result, (writeChunks device call).outcome = .done result ∧
      ChunksFinished device call (writeChunks device call).turns result := by
  have positive : (call.cmd 4).toNat ≠ 0 := fun zero => some (UInt8.toNat_inj.mp zero)
  have start : ChunksPending device call [] ⟨call.addr, (call.cmd 4).toNat, 5⟩ := by
    refine ⟨⟨?_, trivial, fun block made => by contradiction⟩, Nat.pos_of_ne_zero positive, Nat.le_refl _, ?_, ?_, ?_⟩
    · simp only [Nat.sub_self]
      exact consecutive_nil _
    · simp only [Nat.sub_self, Nat.add_zero]
    · simp only [Nat.sub_self, Nat.add_zero]
    · exact Nat.zero_le _
  have ran := run_invariant (writeChunk_writing updates selects divides) [] start
    ((List.range (call.cmd 4).toNat).map call.replies)
  simp only [writeChunks, Foundation.call, if_neg positive]
  simp only [List.nil_append] at ran
  cases reached : (run (writeChunk device call.cmd) ⟨call.addr, (call.cmd 4).toNat, 5⟩
      ((List.range (call.cmd 4).toNat).map call.replies)).outcome with
  | done result =>
      rw [reached] at ran
      exact ⟨result, rfl, ran⟩
  | again state =>
      rw [reached] at ran
      have passes := ran.passes
      have some := ran.some
      rw [length_turns_of_again reached, List.length_map, List.length_range] at passes
      omega

theorem written_nothing (updates : Updates device call) (none : call.cmd 4 = 0) :
    ChunksWritten device call (SyncInterpreter device call) := by
  have made : SyncInterpreter device call = ⟨some .success, [0x90, 0x00], []⟩ := by
    have length := updates.length
    simp [SyncInterpreter, writeChunks, Foundation.call, updates.cla, updates.ins, SELECT, READBINARY, UPDATEBINARY,
      Call.trace, statusWord, length, none]
  rw [made]
  refine ⟨rfl, ⟨[], ?_⟩, fun _ => ⟨?_, rfl⟩, trivial, fun block member => by contradiction⟩
  · simp [none, bytesAt]
  · simp [none, bytesAt]

theorem interpreted_update (updates : Updates device call) {status : Nat}
    (written : (writeChunks device call).outcome = .done (some status)) :
    SyncInterpreter device call = ⟨some .success, statusWord status, (writeChunks device call).trace⟩ := by
  have length := updates.length
  simp [SyncInterpreter, updates.cla, updates.ins, SELECT, READBINARY, UPDATEBINARY, length, written]

theorem trace_writeChunks (some : call.cmd 4 ≠ 0) :
    (writeChunks device call).trace = outputs (writeChunks device call).turns := by
  have positive : (call.cmd 4).toNat ≠ 0 := fun zero => some (UInt8.toNat_inj.mp zero)
  simp only [writeChunks, Foundation.call, if_neg positive, Call.trace, List.nil_append]

theorem input_mem_writeChunks {turn : Turn WriteState Reply (List UInt8)}
    (some : call.cmd 4 ≠ 0) (made : turn ∈ (writeChunks device call).turns) :
    ∃ index, turn.input = call.replies index := by
  have positive : (call.cmd 4).toNat ≠ 0 := fun zero => some (UInt8.toNat_inj.mp zero)
  simp only [writeChunks, Foundation.call, if_neg positive] at made
  obtain ⟨index, _, reply⟩ := List.mem_map.mp (run_input made)
  exact ⟨index, reply.symm⟩

theorem written_update (updates : Updates device call) (selects : Selects device call)
    (divides : device.iic_pagesize.toNat ∣ 256) (some : call.cmd 4 ≠ 0) :
    ChunksWritten device call (SyncInterpreter device call) := by
  obtain ⟨result, ended, finished⟩ := writeChunks_finished updates selects divides some
  rcases finished with ⟨good, sent⟩ | ⟨refused, ⟨count, sent⟩, turn, made, failed⟩
  · rw [good] at ended
    rw [interpreted_update updates ended, trace_writeChunks some]
    have all := sent.data.complete (length_bytesAt _ _ _).symm
    exact ⟨rfl, ⟨[], by rw [all, List.append_nil]⟩, fun _ => ⟨all, rfl⟩, sent.follows, sent.paged⟩
  · rw [refused] at ended
    rw [interpreted_update updates ended, trace_writeChunks some]
    refine ⟨rfl, ⟨(bytesAt call.cmd 5 (call.cmd 4).toNat).drop count, ?_⟩, fun accepted => ?_, sent.follows,
      sent.paged⟩
    · rw [sent.data.joined]
      exact (List.take_append_drop _ _).symm
    · obtain ⟨index, reply⟩ := input_mem_writeChunks some made
      rw [reply] at failed
      exact absurd (accepted index) failed

/-! ## A run -/

/-- The page size is what a shift of a byte can leave. -/
def Configured (device : SyncDevice) : Prop := device.iic_pagesize = 0 ∨ device.iic_pagesize.toNat ∣ 256

theorem shifted_page : ∀ tag44 : UInt8, UInt8.ofNat (1 <<< (tag44 &&& 0x0f).toNat) = 0 ∨
    (UInt8.ofNat (1 <<< (tag44 &&& 0x0f).toNat)).toNat ∣ 256 := by
  decide +kernel

theorem configured_reset (configured : Configured device) (activation : Activation) :
    Configured (ctBcsReset device activation) := by
  rcases activation with _ | atr | _ | Protokoll
  · exact configured
  · simp only [ctBcsReset]
    split
    · exact configured
    · split
      · exact configured
      · split
        · exact configured
        · split
          · exact .inr (by decide)
          · exact configured
  · exact configured
  · exact configured

theorem configured_configure (configured : Configured device) (lenc : Nat) (cmd : Nat → UInt8) :
    Configured (configure device lenc cmd).2 := by
  simp only [configure]
  split
  · exact configured
  · split
    · exact configured
    · split
      · exact configured
      · split
        · split
          · exact configured
          · split
            · split
              · exact shifted_page _
              · exact shifted_page _
            · exact shifted_page _
        · split
          · split
            · exact configured
            · exact configured
          · exact configured

/-- An allowed request writes as it should, and the page size stays one that fits. -/
theorem syncRequest_written (device : SyncDevice) (request : SyncRequest) (configured : Configured device)
    (allowed : WriteAllowed device request) :
    I2cWritten (syncRequest.entry device request) ∧ Configured (syncRequest device request).2 := by
  cases request with
  | powerOn activation =>
      refine ⟨?_, configured_reset configured activation⟩
      intro call same
      cases same
  | configure lenc cmd =>
      refine ⟨?_, configured_configure configured lenc cmd⟩
      intro call same
      cases same
  | card call =>
      refine ⟨?_, configured⟩
      intro other same updates
      cases same
      refine ⟨SyncInterpreter device call, ?_, ?_⟩
      · have here : ¬ (call.lenr < 2 ∨ device.Protokoll ≠ 8) := by
          have room := updates.room
          exact not_or.mpr ⟨Nat.not_lt.mpr room, not_not.mpr updates.protocol⟩
        simp only [Machine.entry, syncRequest, if_neg here]
      · by_cases none : call.cmd 4 = 0
        · exact written_nothing updates none
        · have fits := allowed updates none
          exact written_update updates fits.2 (configured.resolve_left fits.1) none

/-- In every sequence of requests the data reach the card as they should where no page size is cut
off and no bit of the device address is set twice. -/
theorem i2c_written (requests : List SyncRequest)
    (allowed : Keeps WriteAllowed (history syncRequest .initial requests)) :
    ∀ entry ∈ history syncRequest .initial requests, I2cWritten entry :=
  history_good syncRequest_written (.inl rfl) allowed

/-- An UPDATE BINARY of six bytes at 00FC. -/
def borderUpdate : SyncCall where
  lenc := 11
  cmd := inMemory [0x00, 0xD6, 0x00, 0xFC, 0x06, 1, 2, 3, 4, 5, 6]
  lenr := 258
  response := fun _ => 0
  replies := fun _ => .ofBlock []

/-- A card of one offset byte and pages of eight bytes, written across a block of 256 bytes. -/
def borderRequests : List SyncRequest :=
  [.powerOn (.synchronous [0x82, 0x13, 0x10, 0x91]),
    .configure 8 (inMemory [0x80, 0x60, 0x01, 0x00, 0x03, 0x44, 0x01, 0x13]), .card borderUpdate]

theorem borderRequests_allowed : Keeps WriteAllowed (history syncRequest .initial borderRequests) := by
  intro entry made
  simp only [borderRequests, history_cons, history_nil, List.mem_cons, List.not_mem_nil, or_false] at made
  rcases made with reset | configured | written
  · rw [reset]
    exact trivial
  · rw [configured]
    exact trivial
  · rw [written]
    intro _ _
    refine ⟨by decide, fun _ block low high => ?_⟩
    have first : 0 < block := low
    have last : block ≤ 1 := high
    have border : block = 1 := by omega
    rw [border]
    decide

theorem borderRequests_written :
    Keeps WriteAllowed (history syncRequest .initial borderRequests) ∧
      ∀ entry ∈ history syncRequest .initial borderRequests, I2cWritten entry :=
  ⟨borderRequests_allowed, i2c_written borderRequests borderRequests_allowed⟩

/-- A card of two offset bytes that is said to have pages of 256 bytes. -/
def largePageRequests : List SyncRequest :=
  [.powerOn (.synchronous [0x82, 0x13, 0x10, 0x91]),
    .configure 8 (inMemory [0x80, 0x60, 0x01, 0x00, 0x03, 0x44, 0x01, 0x98]), .card borderUpdate]

/-- The page size that is kept is 0, and the call divides by it. -/
theorem largePageRequests_not_written :
    ¬ ∀ entry ∈ history syncRequest .initial largePageRequests, I2cWritten entry := by
  intro all
  have last := all
    (syncRequest.entry (final syncRequest .initial (largePageRequests.take 2)) (.card borderUpdate))
    (.tail _ (.tail _ (.head _)))
  obtain ⟨answer, made, written⟩ := last borderUpdate rfl
    ⟨by decide, by decide, by decide, by decide, by decide, by decide⟩
  have same := Option.some.inj made
  have returns := written.returns
  rw [← same] at returns
  exact absurd returns (by decide)

end Cyberjack.Ppa
