import Cyberjack.Ppa.PinTemplates

namespace Cyberjack.Ppa.Ccid

open Cyberjack.Foundation Cyberjack.Eca

/-! # Messages to the reader

`cjccid_XfrBlock`, `cjccid_SecurePV` and `cjccid_SecureMV` of `cjccid.c` up to the
reply, with `cjppWriteAndRead` and `cjppWrite`.
-/

abbrev CCID_Message := Buffer UInt8 270

/-- A `dword` in the order of the reader, in which `cjppSWAB_DWORD_2` puts it. -/
def dword (value : Nat) : List UInt8 :=
  [UInt8.ofNat value, UInt8.ofNat (value / 256), UInt8.ofNat (value / 65536), UInt8.ofNat (value / 16777216)]

def word (value : Nat) : List UInt8 := [UInt8.ofNat value, UInt8.ofNat (value / 256)]

/-- Members that follow each other in the packed structure; no result where one ends behind it. -/
def storeMembers (message : CCID_Message) (offset : Nat) : List (List UInt8) → Option CCID_Message
  | [] => some message
  | member :: rest =>
      (message.store? offset member).bind fun message => storeMembers message (offset + member.length) rest

def PC_TO_RDR_XFRBLOCK : UInt8 := 0x6F

def PC_TO_RDR_SECURE : UInt8 := 0x69

/-- The message of a function: the members in front of `bSeq` and those behind it. -/
def members (message : CCID_Message) (bMessageType : UInt8) (dwLength : Nat) (behind : List (List UInt8)) :
    Option CCID_Message :=
  (storeMembers message 0 [[bMessageType], dword dwLength, [0]]).bind fun message => storeMembers message 7 behind

def cjccid_XfrBlock (message : CCID_Message) (bBWI : UInt8) (out : List UInt8) (wLevelParameter : UInt16) :
    Option CCID_Message :=
  members message PC_TO_RDR_XFRBLOCK out.length [[bBWI], word wLevelParameter.toNat, out]

/-- `out` and `out_len` -/
def outOf (parameters : PinParameters) : List UInt8 := bytesAt parameters.buffer 0 parameters.outlen

/-- The members from `Header` on that both PIN messages have. -/
def pinMembers (bPINOperation Timeout : UInt8) (parameters : PinParameters) : List (List UInt8) :=
  [[0], word 0, [bPINOperation], [Timeout], [(0x80 : UInt8) ||| (parameters.PinPosition <<< 3) ||| parameters.PinType],
    [(parameters.PinLengthSize <<< 4) ||| parameters.PinLength], [parameters.PinLengthPosition]]

def wPINMaxExtraDigit (parameters : PinParameters) : List UInt8 :=
  word (parameters.Min.toNat * 256 + parameters.Max.toNat)

/-- `memcpy(bTeoPrologue,Prologue,3)` -/
def bTeoPrologue (Prologue : List UInt8) : List UInt8 := bytesAt (inMemory Prologue) 0 3

def cjccid_SecurePV (message : CCID_Message) (arguments : SecureArguments) : Option CCID_Message :=
  let parameters := arguments.parameters
  members message PC_TO_RDR_SECURE (parameters.outlen + 15)
    (pinMembers 0 arguments.Timeout parameters ++
      [wPINMaxExtraDigit parameters, [parameters.Condition], [0xff], word 0x0409, [0],
        bTeoPrologue arguments.Prologue, outOf parameters])

def cjccid_SecureMV (message : CCID_Message) (arguments : SecureArguments) (bConfirmPIN OffsetOld OffsetNew : UInt8) :
    Option CCID_Message :=
  let parameters := arguments.parameters
  members message PC_TO_RDR_SECURE (parameters.outlen + 20)
    (pinMembers 1 arguments.Timeout parameters ++
      [[OffsetOld], [OffsetNew], wPINMaxExtraDigit parameters, [bConfirmPIN], [parameters.Condition], [0xff],
        word 0x0409, [0], [0], [0], bTeoPrologue arguments.Prologue, outOf parameters])

/-- A call of one of the three functions. -/
inductive Transfer where
  | xfrBlock (bBWI : UInt8) (out : List UInt8) (wLevelParameter : UInt16)
  | securePV (arguments : SecureArguments)
  | secureMV (arguments : SecureArguments) (bConfirmPIN OffsetOld OffsetNew : UInt8)

/-- The message that is handed to `cjppWriteAndRead`. -/
def Transfer.message (message : CCID_Message) : Transfer → Option CCID_Message
  | .xfrBlock bBWI out wLevelParameter => cjccid_XfrBlock message bBWI out wLevelParameter
  | .securePV arguments => cjccid_SecurePV message arguments
  | .secureMV arguments bConfirmPIN OffsetOld OffsetNew =>
      cjccid_SecureMV message arguments bConfirmPIN OffsetOld OffsetNew

/-- `dwLength` as `cjppWrite` reads it. -/
def dwLength (message : CCID_Message) : Nat :=
  (message.get 1).toNat + (message.get 2).toNat * 256 + (message.get 3).toNat * 65536 +
    (message.get 4).toNat * 16777216

/-- What goes to the reader; no result where a byte outside `buffer` is read. -/
def cjppWrite (buffer : Buffer UInt8 274) (message : CCID_Message) : Option (List UInt8) :=
  (buffer.store? 0 message.cells).bind fun buffer =>
    let bytesToWrite := int32 (10 + dwLength message)
    if bytesToWrite < 0 then none else buffer.load? 0 bytesToWrite.toNat

/-- What stands in the arrays of the stack. -/
structure Frame where
  message : CCID_Message
  buffer : Buffer UInt8 274

/-- A message of the first bytes, and what is sent of it. -/
def sent (frame : Frame) (bSeq : UInt8) (transfer : Transfer) : Option (CCID_Message × List UInt8) :=
  (transfer.message frame.message).bind fun message =>
    (message.store? 6 [bSeq]).bind fun message =>
      (cjppWrite frame.buffer message).map fun bytes => (message, bytes)

/-- All accesses stay inside, and the first bytes of the message are sent, as many as it has. -/
def Right (transfer : Transfer) : Prop :=
  ∀ frame bSeq, ∃ message, 10 + dwLength message ≤ 270 ∧
    sent frame bSeq transfer = some (message, message.cells.take (10 + dwLength message))

/-! ## The bytes of a message -/

variable {message : CCID_Message} {offset : Nat} {behind : List (List UInt8)} {transfer : Transfer}

theorem storeMembers_some (room : offset + behind.flatten.length ≤ 270) :
    ∃ after, storeMembers message offset behind = some after ∧
      after.cells.take (offset + behind.flatten.length) = message.cells.take offset ++ behind.flatten := by
  induction behind generalizing message offset with
  | nil => exact ⟨message, rfl, (List.append_nil _).symm⟩
  | cons member rest ih =>
      rw [List.flatten_cons, List.length_append] at room
      have first : offset + member.length ≤ 270 := by omega
      obtain ⟨after, others, bytes⟩ := @ih (message.store offset member first) (offset + member.length) (by omega)
      refine ⟨after, ?_, ?_⟩
      · rw [storeMembers, Buffer.store?_of_room message first]
        exact others
      · rw [List.flatten_cons, List.length_append, ← Nat.add_assoc, bytes, Buffer.take_store, List.append_assoc]

theorem storeMembers_none (inside : offset ≤ 270) (outside : 270 < offset + behind.flatten.length) :
    storeMembers message offset behind = none := by
  induction behind generalizing message offset with
  | nil =>
      rw [List.flatten_nil, List.length_nil] at outside
      omega
  | cons member rest ih =>
      rw [List.flatten_cons, List.length_append] at outside
      rw [storeMembers]
      by_cases first : offset + member.length ≤ 270
      · rw [Buffer.store?_of_room message first]
        exact ih first (by omega)
      · have missing : message.store? offset member = none := by
          apply Buffer.store?_eq_none.mpr
          omega
        rw [missing]
        rfl

theorem take_succ_cells (inside : offset < 270) :
    ∃ byte, message.cells.take (offset + 1) = message.cells.take offset ++ [byte] := by
  have cells := message.length_cells
  refine ⟨message.cells[offset], ?_⟩
  rw [List.take_add_one, List.getElem?_eq_getElem (by omega)]
  rfl

/-- The message as it is written, but for `bSeq`. -/
theorem members_some {bMessageType : UInt8} {length : Nat} (room : 7 + behind.flatten.length ≤ 270) :
    ∃ after bSeq, members message bMessageType length behind = some after ∧
      after.cells.take (7 + behind.flatten.length) =
        ([bMessageType] ++ dword length ++ [0]) ++ [bSeq] ++ behind.flatten := by
  obtain ⟨first, begun, head⟩ := @storeMembers_some message 0 [[bMessageType], dword length, [0]] (show 0 + 6 ≤ 270 by decide)
  obtain ⟨after, ended, bytes⟩ := @storeMembers_some first 7 behind room
  obtain ⟨bSeq, next⟩ := @take_succ_cells first 6 (by decide)
  refine ⟨after, bSeq, ?_, ?_⟩
  · rw [members, begun]
    exact ended
  · change first.cells.take 6 = _ at head
    rw [bytes, next, head]
    rfl

theorem members_none {bMessageType : UInt8} {length : Nat} (outside : 270 < 7 + behind.flatten.length) :
    members message bMessageType length behind = none := by
  obtain ⟨first, begun, head⟩ := @storeMembers_some message 0 [[bMessageType], dword length, [0]] (show 0 + 6 ≤ 270 by decide)
  rw [members, begun]
  exact storeMembers_none (by decide) outside

theorem dwLength_of_take {count : Nat} {bMessageType bSlot : UInt8} {length : Nat} {rest : List UInt8}
    (small : length < 4294967296) (bytes : message.cells.take count = bMessageType :: dword length ++ bSlot :: rest) :
    dwLength message = length := by
  have cell : ∀ index, 0 < index → index < 5 →
      message.get index = (bMessageType :: dword length).getD index 0 := by
    intro index _ inside
    have known := @Buffer.getD_of_take _ _ index count message _ 0 bytes (by simp [dword]; omega)
    rw [Buffer.get]
    refine Eq.trans known ?_
    rw [List.getD_append]
    simpa [dword] using inside
  rw [dwLength, cell 1 (by decide) (by decide), cell 2 (by decide) (by decide), cell 3 (by decide) (by decide),
    cell 4 (by decide) (by decide)]
  simp only [dword, List.getD_cons_succ, List.getD_cons_zero, UInt8.toNat_ofNat']
  omega

/-- The length that the function gives a message. -/
def Transfer.dataLength : Transfer → Nat
  | .xfrBlock _ out _ => out.length
  | .securePV arguments => arguments.parameters.outlen + 15
  | .secureMV arguments _ _ _ => arguments.parameters.outlen + 20

def Transfer.bMessageType : Transfer → UInt8
  | .xfrBlock _ _ _ => PC_TO_RDR_XFRBLOCK
  | _ => PC_TO_RDR_SECURE

/-- The members from `Header` on. -/
def Transfer.fields : Transfer → List (List UInt8)
  | .xfrBlock bBWI out wLevelParameter => [[bBWI], word wLevelParameter.toNat, out]
  | .securePV arguments =>
      pinMembers 0 arguments.Timeout arguments.parameters ++
        [wPINMaxExtraDigit arguments.parameters, [arguments.parameters.Condition], [0xff], word 0x0409, [0],
          bTeoPrologue arguments.Prologue, outOf arguments.parameters]
  | .secureMV arguments bConfirmPIN OffsetOld OffsetNew =>
      pinMembers 1 arguments.Timeout arguments.parameters ++
        [[OffsetOld], [OffsetNew], wPINMaxExtraDigit arguments.parameters, [bConfirmPIN],
          [arguments.parameters.Condition], [0xff], word 0x0409, [0], [0], [0], bTeoPrologue arguments.Prologue,
          outOf arguments.parameters]

theorem Transfer.message_eq :
    transfer.message message = members message transfer.bMessageType transfer.dataLength transfer.fields := by
  cases transfer with
  | xfrBlock bBWI out wLevelParameter => rfl
  | securePV arguments => rfl
  | secureMV arguments bConfirmPIN OffsetOld OffsetNew => rfl

theorem length_outOf (parameters : PinParameters) : (outOf parameters).length = parameters.outlen := by
  rw [outOf, bytesAt, List.length_map, List.length_range]

/-- Each function counts its own members right. -/
theorem Transfer.length_fields : transfer.fields.flatten.length = 3 + transfer.dataLength := by
  cases transfer with
  | xfrBlock bBWI out wLevelParameter =>
      simp only [fields, dataLength, word, List.flatten_cons, List.flatten_nil, List.length_append, List.length_cons,
        List.length_nil]
      omega
  | securePV arguments =>
      simp only [fields, dataLength, pinMembers, wPINMaxExtraDigit, word, bTeoPrologue, bytesAt, length_outOf,
        List.cons_append, List.nil_append, List.flatten_cons, List.flatten_nil, List.length_append, List.length_cons,
        List.length_nil, List.length_map, List.length_range]
      omega
  | secureMV arguments bConfirmPIN OffsetOld OffsetNew =>
      simp only [fields, dataLength, pinMembers, wPINMaxExtraDigit, word, bTeoPrologue, bytesAt, length_outOf,
        List.cons_append, List.nil_append, List.flatten_cons, List.flatten_nil, List.length_append, List.length_cons,
        List.length_nil, List.length_map, List.length_range]
      omega

/-- The bytes of a message in its own order. -/
def Transfer.bytes (transfer : Transfer) (bSeq : UInt8) : List UInt8 :=
  [transfer.bMessageType] ++ dword transfer.dataLength ++ [0, bSeq] ++ transfer.fields.flatten

/-- A message that is not longer than its structure is sent as it is. -/
theorem sent_some (frame : Frame) (bSeq : UInt8) (room : transfer.dataLength ≤ 260) :
    ∃ message, sent frame bSeq transfer = some (message, transfer.bytes bSeq) ∧
      dwLength message = transfer.dataLength ∧
      message.cells.take (10 + transfer.dataLength) = transfer.bytes bSeq := by
  have counted := transfer.length_fields
  obtain ⟨built, old, made, content⟩ := @members_some frame.message transfer.fields transfer.bMessageType
    transfer.dataLength (by omega)
  have whole : 7 + transfer.fields.flatten.length = 10 + transfer.dataLength := by omega
  have place : 6 + [bSeq].length ≤ 270 := by
    rw [List.length_singleton]
    decide
  have front : built.cells.take 6 = [transfer.bMessageType] ++ dword transfer.dataLength ++ [0] := by
    have shorter := congrArg (List.take 6) content
    rw [List.take_take, Nat.min_eq_left (by omega)] at shorter
    exact shorter
  have bytes : (built.store 6 [bSeq] place).cells.take (10 + transfer.dataLength) = transfer.bytes bSeq := by
    rw [Buffer.take_store_of_ge built place (by rw [List.length_singleton]; omega), front, ← whole, content]
    rfl
  have length : dwLength (built.store 6 [bSeq] place) = transfer.dataLength :=
    dwLength_of_take (by omega) bytes
  have stored : built.store? 6 [bSeq] = some (built.store 6 [bSeq] place) := Buffer.store?_of_room built place
  refine ⟨_, ?_, length, bytes⟩
  rw [sent, transfer.message_eq, made, Option.bind_some, stored, Option.bind_some]
  generalize built.store 6 [bSeq] place = message at bytes length
  have cells := message.length_cells
  have copied : 0 + message.cells.length ≤ 274 := by omega
  have all : frame.buffer.store? 0 message.cells = some (frame.buffer.store 0 message.cells copied) :=
    Buffer.store?_of_room frame.buffer copied
  have width : int32 (10 + (transfer.dataLength : Int)) = ((10 + transfer.dataLength : Nat) : Int) := by
    rw [int32_of_range (by omega) (by omega)]
    rfl
  have loaded := Buffer.load?_of_room (frame.buffer.store 0 message.cells copied)
    (show 0 + (10 + transfer.dataLength) ≤ 274 by omega)
  have same : (frame.buffer.store 0 message.cells copied).cells.take (10 + transfer.dataLength) =
      message.cells.take (10 + transfer.dataLength) := by
    have front := congrArg (List.take (10 + transfer.dataLength)) (frame.buffer.take_store_zero copied)
    rw [List.take_take, Nat.min_eq_left (by omega)] at front
    exact front
  rw [cjppWrite, all, Option.bind_some, length, width, if_neg (by omega), Int.toNat_natCast]
  change Option.map _ (Buffer.load? _ ((0 : Nat) : Int) _) = _
  rw [loaded, List.drop_zero, same, bytes]
  rfl

theorem sent_none (frame : Frame) (bSeq : UInt8) (outside : 260 < transfer.dataLength) :
    sent frame bSeq transfer = none := by
  have counted := transfer.length_fields
  rw [sent, transfer.message_eq, members_none (by omega)]
  rfl

/-- Of the accesses and the bytes sent nothing but the length decides. -/
theorem right_iff_length : Right transfer ↔ transfer.dataLength ≤ 260 := by
  constructor
  · intro right
    refine Nat.le_of_not_lt fun outside => ?_
    obtain ⟨message, _, sent⟩ := right ⟨.filled 270 0, .filled 274 0⟩ 0
    rw [sent_none _ _ outside] at sent
    contradiction
  · intro room frame bSeq
    obtain ⟨message, sent, length, bytes⟩ := sent_some frame bSeq room
    refine ⟨message, by omega, ?_⟩
    rw [sent, length, bytes]

end Cyberjack.Ppa.Ccid
