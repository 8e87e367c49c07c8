import Cyberjack.Foundation.Refinement
import Cyberjack.Ppa.PinTries
import Cyberjack.Ppa.ProtectionBits

namespace Cyberjack.Ppa.CardFiles

open Cyberjack.Foundation Cyberjack.Eca
open MemoryCard (Protokoll CardBlock S9SyncCommands S10SyncCommands VERIFY MODIFY)

/-! # The files of memory cards

The rest of `SyncInterpreter.c` for the protocols 9 and 10, over whole sessions.  Which file is selected is kept in
the member `IFSC`, which the protocol T=1 uses as well.
-/

/-- The members of a device that say how a memory card is accessed. -/
structure FileDevice extends SyncDevice where
  IFSC : UInt8
deriving DecidableEq

def FileDevice.initial : FileDevice := ⟨.initial, 0⟩

structure FileAnswer where
  returned : Option Cjpp
  response : List UInt8
  blocks : List CardBlock
deriving DecidableEq

def status (Result : Nat) : FileAnswer := ⟨some .success, statusWord Result, []⟩

def ofRead (answer : ProtectionBits.ReadAnswer) : FileAnswer :=
  ⟨some answer.returned, answer.response, answer.blocks⟩

/-- The command that reads bytes of the main memory. -/
def readBlock (protokoll : Protokoll) (call : SyncCall) (len : Nat) : CardBlock :=
  match protokoll with
  | .nine => S9SyncCommands 0x0e call.addr [] len
  | .ten => S10SyncCommands 0x30 (call.cmd 3) [] len

/-- The command that writes the main memory, or with the bytes of the protected ones their protection bits. -/
def writeBlock (protokoll : Protokoll) (IFSC : UInt8) (call : SyncCall) (outdata : List UInt8) : CardBlock :=
  match protokoll with
  | .nine => S9SyncCommands (if IFSC = 0 then 0x33 else 0x30) call.addr outdata 0
  | .ten => S10SyncCommands (if IFSC = 0 then 0x38 else 0x3c) (call.cmd 3) outdata 0

/-- What SELECT leaves in `IFSC`. -/
def selectFile (IFSC : UInt8) (call : SyncCall) : FileAnswer × UInt8 :=
  if TestSID call 0x3F00 = 0x9000 then (status 0x9000, 0)
  else if TestSID call 0x2F09 = 0x9000 then (status 0x9000, 1)
  else (status (TestSID call 0x2F09), IFSC)

/-- READ BINARY of the main memory; what the card does not send is left as the caller's buffer has it. -/
def readMemory (protokoll : Protokoll) (call : SyncCall) : FileAnswer :=
  let len := if call.cmd 4 = 0 then 256 else (call.cmd 4).toNat
  if call.lenr < len + 2 then ⟨some .rbufferToSmall, [], []⟩
  else
    let block := readBlock protokoll call len
    let Res := transferred (call.replies 0) len
    if Res ≠ .success then ⟨some Res, [], [block]⟩
    else
      let data := (call.replies 0).abData
      ⟨some .success, data ++ bytesAt call.response data.length (len - data.length) ++ [0x90, 0x00], [block]⟩

def readProtection (protokoll : Protokoll) (call : SyncCall) (buffer : Nat → UInt8) : FileAnswer :=
  match protokoll with
  | .nine => ofRead (ProtectionBits.readProtection9 call buffer)
  | .ten => ofRead (ProtectionBits.readProtection10 call buffer)

/-- UPDATE BINARY; the main memory is read back and compared. -/
def updateBinary (protokoll : Protokoll) (IFSC : UInt8) (call : SyncCall) (buffer : Nat → UInt8) : FileAnswer :=
  let len := (call.cmd 4).toNat
  let data := bytesAt call.cmd 5 len
  let block := writeBlock protokoll IFSC call data
  let Res := transferred (call.replies 0) 0
  if Res ≠ .success then ⟨some Res, [], [block]⟩
  else if IFSC = 0 then
    let back := readBlock protokoll call len
    let Res := transferred (call.replies 1) len
    if Res ≠ .success then ⟨some Res, [], [block, back]⟩
    else if bytesAt (stored buffer 0 (call.replies 1).abData) 0 len ≠ data then
      ⟨some .success, [0x65, 0x81], [block, back]⟩
    else ⟨some .success, [0x90, 0x00], [block, back]⟩
  else ⟨some .success, [0x90, 0x00], [block]⟩

def pinAnswer (protokoll : Protokoll) (made : List MemoryCard.PinRequest × Option MemoryCard.PinEnd) : FileAnswer :=
  let blocks := made.1.filterMap protokoll.block
  match made.2 with
  | some (.returned Res) => ⟨some Res, [], blocks⟩
  | some (.status Result) => ⟨some .success, statusWord Result, blocks⟩
  | none => ⟨none, [], blocks⟩

/-- The command that reads the counter of the tries. -/
def counterBlocks (protokoll : Protokoll) : List CardBlock := (protokoll.block .readCounter).toList

/-- The number of tries that are left. -/
def getKeyStatus (protokoll : Protokoll) (call : SyncCall) (buffer : Nat → UInt8) : FileAnswer :=
  let blocks := counterBlocks protokoll
  let Res := transferred (call.replies 0) (protokoll.room .readCounter)
  if Res ≠ .success then ⟨some Res, [], blocks⟩
  else
    let Offset := MemoryCard.received (buffer 0) (call.replies 0).abData
    ⟨some .success, [UInt8.ofNat (MemoryCard.countBits 8 Offset 0), 0x90, 0x00], blocks⟩

/-- `SyncInterpreter` for the protocols 9 and 10, with what its local buffer holds. -/
def SyncInterpreter (protokoll : Protokoll) (IFSC : UInt8) (call : SyncCall) (buffer : Nat → UInt8) :
    FileAnswer × UInt8 :=
  if call.cmd 0 ≠ 0 ∧ (call.cmd 0 ≠ 0x80 ∨ call.cmd 1 ≠ GETKEYSTATUS) then (status 0x6E00, IFSC)
  else if call.cmd 2 > protokoll.lastP1 then (status 0x6A00, IFSC)
  else if call.cmd 1 = SELECT then selectFile IFSC call
  else if call.cmd 1 = READBINARY then
    (if IFSC = 0 then readMemory protokoll call else readProtection protokoll call buffer, IFSC)
  else if call.cmd 1 = UPDATEBINARY then (updateBinary protokoll IFSC call buffer, IFSC)
  else if call.cmd 1 = VERIFY ∨ call.cmd 1 = MODIFY then
    (pinAnswer protokoll (MemoryCard.pinCall protokoll call (buffer 0)), IFSC)
  else if call.cmd 1 = GETKEYSTATUS then (getKeyStatus protokoll call buffer, IFSC)
  else (status 0x6d00, IFSC)

/-- The length of the INF field is kept only with a card of T=1, and there once it is agreed on. -/
def ctBcsReset (device : FileDevice) (activation : Activation) (TA3 : Option UInt8) : FileDevice where
  toSyncDevice := Ppa.ctBcsReset device.toSyncDevice activation
  IFSC :=
    match activation with
    | .synchronous _ => 0
    | .asynchronous (some 1) => TA3.getD device.IFSC
    | _ => device.IFSC

inductive FileRequest where
  | powerOn (activation : Activation) (TA3 : Option UInt8)
  | configure (lenc : Nat) (cmd : Nat → UInt8)
  /-- A card asks for another length of the INF field, in an exchange of T=1. -/
  | ifsRequest (value : UInt8)
  | card (call : SyncCall) (buffer : Nat → UInt8)

/-- The protocol of a device, where it is that of a memory card. -/
def protokollOf (number : Nat) : Option Protokoll :=
  if number = 9 then some .nine else if number = 10 then some .ten else none

/-- The requests one after the other; other protocols than 9 and 10 are not looked into. -/
def fileRequest : Machine FileDevice FileRequest (Option FileAnswer)
  | device, .powerOn activation TA3 => (none, ctBcsReset device activation TA3)
  | device, .configure lenc cmd => (none, { device with toSyncDevice := (configure device.toSyncDevice lenc cmd).2 })
  | device, .ifsRequest value => (none, if device.Protokoll = 1 then { device with IFSC := value } else device)
  | device, .card call buffer =>
      if call.lenr < 2 then (none, device)
      else
        match protokollOf device.Protokoll with
        | none => (none, device)
        | some protokoll =>
            (some (SyncInterpreter protokoll device.IFSC call buffer).1,
              { device with IFSC := (SyncInterpreter protokoll device.IFSC call buffer).2 })

/-! ## What a session with a card should be -/

inductive CardFile where
  | main
  | protection
deriving Repr, DecidableEq

/-- The kind of the card, and the file that is selected. -/
structure Session where
  protokoll : Protokoll
  file : CardFile
deriving Repr, DecidableEq

/-- The file whose identifier is the data of the command. -/
def named (call : SyncCall) : Option CardFile :=
  if 6 < call.lenc ∧ bytesAt call.cmd 4 3 = [0x02, 0x3F, 0x00] then some .main
  else if 6 < call.lenc ∧ bytesAt call.cmd 4 3 = [0x02, 0x2F, 0x09] then some .protection
  else none

/-- The data that the command has behind its length. -/
def payload (call : SyncCall) : List UInt8 := ((bytesAt call.cmd 0 call.lenc).drop 5).take (call.cmd 4).toNat

/-- The command that reads protection bits. -/
def bitsBlock (protokoll : Protokoll) (call : SyncCall) : CardBlock :=
  match protokoll with
  | .nine => S9SyncCommands 0x0c call.addr [] (ProtectionBits.bitBytes .nine call)
  | .ten => S10SyncCommands 0x34 0 [] (ProtectionBits.bitBytes .ten call)

/-- The commands of the card that access a file, or read the counter. -/
def accesses (session : Session) (call : SyncCall) : List CardBlock :=
  if call.cmd 1 = GETKEYSTATUS then counterBlocks session.protokoll
  else if call.lenc < 5 then []
  else if call.cmd 1 = READBINARY then
    match session with
    | ⟨protokoll, .main⟩ => [readBlock protokoll call (if call.cmd 4 = 0 then 256 else (call.cmd 4).toNat)]
    | ⟨protokoll, .protection⟩ => [bitsBlock protokoll call]
  else if call.cmd 1 = UPDATEBINARY then
    match session with
    | ⟨protokoll, .main⟩ => [writeBlock protokoll 0 call (payload call), readBlock protokoll call (call.cmd 4).toNat]
    | ⟨protokoll, .protection⟩ => [writeBlock protokoll 1 call (payload call)]
  else []

/-- A command is answered as the card and the selected file have it. -/
@[mk_iff]
structure FileRight (session : Session) (call : SyncCall) (answer : FileAnswer) : Prop where
  fits : answer.response.length ≤ call.lenr
  selected : call.cmd 1 = SELECT → answer.response = [0x90, 0x00] → (named call).isSome
  sent : call.cmd 1 ≠ VERIFY → call.cmd 1 ≠ MODIFY → answer.blocks <+: accesses session call
  read : call.cmd 1 = READBINARY → session.file = .main →
    ∀ body, answer.response = body ++ [0x90, 0x00] → body = (call.replies 0).abData
  bits : call.cmd 1 = READBINARY → session.file = .protection →
    ∀ read, answer = ofRead read →
      ProtectionBits.BitsRight (ProtectionBits.firstBit session.protokoll call) (call.replies 0).abData read
  written : call.cmd 1 = UPDATEBINARY → answer.response = [0x90, 0x00] →
    MemoryCard.Taken (call.replies 0) ∧ (session.file = .main → (call.replies 1).abData = payload call)
  different : call.cmd 1 = UPDATEBINARY → answer.response = [0x65, 0x81] → (call.replies 1).abData ≠ payload call
  counted : call.cmd 1 = GETKEYSTATUS → ∀ tries, answer.response = [tries, 0x90, 0x00] →
    ∃ counter, MemoryCard.counterIn (call.replies 0) = some counter ∧ tries.toNat = MemoryCard.setBits counter

/-- The card that a synchronous answer to reset is of; `none` for those that do not concern the files. -/
def cardOf (atr : List UInt8) : Option Protokoll :=
  if atr.getD 0 0 = 0xa2 then some .ten else if atr.getD 0 0 = 0x92 then some .nine else none

/-- The session behind a reset. -/
def Session.activated (known : Option Session) : Activation → Option Session
  | .failed => known
  | .asynchronous none => known
  | .asynchronous (some _) => none
  | .synchronous atr =>
      if atr.length = 4 ∧ (cardOf atr).isSome then (cardOf atr).map fun protokoll => ⟨protokoll, .main⟩
      else if atr.length = 4 ∧ atr.getD 0 0 &&& 0xf0 = 0x80 then none
      else known.map fun session => ⟨session.protokoll, .main⟩

/-- Who sees the requests and the answers knows the session. -/
def sessionObserver : Observer (Option Session) FileRequest (Option FileAnswer) where
  right known request answer :=
    ∀ session call buffer, known = some session → request = .card call buffer → 2 ≤ call.lenr →
      ∃ made, answer = some made ∧ FileRight session call made
  learn known request answer :=
    match request, answer with
    | .powerOn activation _, _ => Session.activated known activation
    | .card call _, some made =>
        if call.cmd 1 = SELECT ∧ made.response = [0x90, 0x00] then
          known.map fun session => ⟨session.protokoll, (named call).getD session.file⟩
        else known
    | _, _ => known

/-! ## When it is -/

/-- How many bytes READ BINARY asks for. -/
def memoryLength (call : SyncCall) : Nat := if call.cmd 4 = 0 then 256 else (call.cmd 4).toNat

def fileOf (IFSC : UInt8) : CardFile := if IFSC = 0 then .main else .protection

/-- The class and P1 are those of the commands. -/
structure Enters (protokoll : Protokoll) (call : SyncCall) : Prop where
  cla : call.cmd 0 = 0 ∨ (call.cmd 0 = 0x80 ∧ call.cmd 1 = GETKEYSTATUS)
  P1 : ¬ call.cmd 2 > protokoll.lastP1

/-- A READ BINARY that is not refused. -/
def Reads (session : Session) (call : SyncCall) : Prop :=
  match session.file with
  | .main => memoryLength call + 2 ≤ call.lenr
  | .protection =>
      (session.protokoll = .ten → (call.cmd 3).toNat ≤ 31 ∧ (call.cmd 3).toNat + (call.cmd 4).toNat ≤ 32) ∧
        ProtectionBits.askedBits session.protokoll call + 2 ≤ call.lenr

/-- Nothing is missing: the command has the bytes that are read of it, the card sends what it is asked for, and the
answer has room. -/
@[mk_iff]
structure Complete (session : Session) (call : SyncCall) (buffer : Nat → UInt8) : Prop where
  asked : call.cmd 1 = READBINARY → Reads session call → 5 ≤ call.lenc
  memory : call.cmd 1 = READBINARY → session.file = .main → Reads session call →
    transferred (call.replies 0) (memoryLength call) = .success →
    (call.replies 0).abData.length = memoryLength call
  bits : call.cmd 1 = READBINARY → session.file = .protection → ProtectionBits.Accepted session.protokoll call →
    ProtectionBits.BitsSent session.protokoll call
  data : call.cmd 1 = UPDATEBINARY → 5 + (call.cmd 4).toNat ≤ call.lenc
  back : call.cmd 1 = UPDATEBINARY → session.file = .main → MemoryCard.Taken (call.replies 0) →
    transferred (call.replies 1) (call.cmd 4).toNat = .success →
    (call.replies 1).abData.length < (call.cmd 4).toNat →
    bytesAt (stored buffer 0 (call.replies 1).abData) 0 (call.cmd 4).toNat ≠ bytesAt call.cmd 5 (call.cmd 4).toNat
  counter : call.cmd 1 = GETKEYSTATUS →
    transferred (call.replies 0) (session.protokoll.room .readCounter) = .success →
    3 ≤ call.lenr ∧ MemoryCard.counterIn (call.replies 0) ≠ none

/-- The command that a device is given is complete. -/
def Allowed (device : FileDevice) : FileRequest → Prop
  | .card call buffer => ∀ protokoll, protokollOf device.Protokoll = some protokoll → 2 ≤ call.lenr →
      Enters protokoll call → Complete ⟨protokoll, fileOf device.IFSC⟩ call buffer
  | _ => True

variable {protokoll : Protokoll} {session : Session} {call : SyncCall} {buffer : Nat → UInt8} {answer : FileAnswer}
  {IFSC : UInt8} {device : FileDevice} {known : Option Session}

/-! ## The data of a command -/

theorem payload_eq_iff (header : 5 ≤ call.lenc) :
    bytesAt call.cmd 5 (call.cmd 4).toNat = payload call ↔ 5 + (call.cmd 4).toNat ≤ call.lenc := by
  constructor
  · intro same
    have length := congrArg List.length same
    rw [length_bytesAt, payload, List.length_take, List.length_drop, length_bytesAt] at length
    omega
  · intro inside
    obtain ⟨rest, whole⟩ := Nat.exists_eq_add_of_le inside
    rw [payload, whole, Nat.add_assoc, bytesAt_add, List.drop_left' (length_bytesAt _ _ _), Nat.zero_add, bytesAt_add,
      List.take_left' (length_bytesAt _ _ _)]

theorem writeBlock_inj {first second : List UInt8}
    (same : writeBlock protokoll IFSC call first = writeBlock protokoll IFSC call second) : first = second := by
  have out := congrArg (fun block => block.out.drop 5) same
  cases protokoll <;> exact out

theorem writeBlock_selected {data : List UInt8} (selected : IFSC ≠ 0) :
    writeBlock protokoll IFSC call data = writeBlock protokoll 1 call data := by
  cases protokoll <;> simp [writeBlock, selected]

/-- TestSID finds an identifier that stands behind its length. -/
theorem testSID_iff (ID : Nat) : TestSID call ID = 0x9000 ↔
    6 < call.lenc ∧ bytesAt call.cmd 4 3 = [0x02, UInt8.ofNat (ID >>> 8), UInt8.ofNat ID] := by
  have bytes : bytesAt call.cmd 4 3 = [call.cmd 4, call.cmd 5, call.cmd 6] := rfl
  simp only [TestSID, bytes, List.cons.injEq, and_true]
  split
  · rename_i two
    split <;> simp_all
  · rename_i other
    simp_all

/-- SELECT leaves the file that it names. -/
theorem selectFile_eq (IFSC : UInt8) (call : SyncCall) :
    selectFile IFSC call =
      match named call with
      | some .main => (status 0x9000, 0)
      | some .protection => (status 0x9000, 1)
      | none => (status (TestSID call 0x2F09), IFSC) := by
  have main := @testSID_iff call 0x3F00
  have protection := @testSID_iff call 0x2F09
  change _ ↔ 6 < call.lenc ∧ bytesAt call.cmd 4 3 = [0x02, 0x3F, 0x00] at main
  change _ ↔ 6 < call.lenc ∧ bytesAt call.cmd 4 3 = [0x02, 0x2F, 0x09] at protection
  simp only [selectFile, named, main, protection]
  split
  · rfl
  · split <;> rfl

theorem testSID_ne (ID : Nat) (other : TestSID call ID ≠ 0x9000) :
    statusWord (TestSID call ID) = [0x67, 0x00] ∨ statusWord (TestSID call ID) = [0x6a, 0x82] := by
  unfold TestSID at other ⊢
  split
  · split
    · simp_all
    · exact .inr rfl
  · exact .inl rfl

/-! ## The instructions -/

/-- An answer of a status other than those of an access. -/
theorem status_right {Result : Nat} {first second : UInt8} (room : 2 ≤ call.lenr) (word : statusWord Result = [first, second])
    (other : first ≠ 0x90) (equal : [first, second] ≠ [0x65, 0x81]) : FileRight session call (status Result) := by
  have none : ∀ body, [first, second] ≠ body ++ [0x90, 0x00] := by
    intro body same
    have empty : body = [] := by
      have length := congrArg List.length same
      simp only [List.length_append, List.length_cons, List.length_nil] at length
      exact List.length_eq_zero_iff.mp (by omega)
    rw [empty] at same
    cases same
    contradiction
  constructor
  case fits => simpa [status, word] using room
  case selected => simp [status, word, other]
  case sent => simp [status]
  case read =>
    intro _ _ body same
    rw [status, word] at same
    exact absurd same (none body)
  case bits =>
    intro _ _ read same
    have response := congrArg FileAnswer.response same
    apply ProtectionBits.bitsRight_error
    intro _ body
    change statusWord Result = read.response at response
    rw [← response, word]
    exact none body
  case written => simp [status, word, other]
  case different =>
    intro _ same
    rw [status, word] at same
    exact absurd same equal
  case counted => simp [status, word]

theorem select_right (ins : call.cmd 1 = SELECT) (room : 2 ≤ call.lenr) :
    FileRight session call (selectFile IFSC call).1 := by
  have selected (file : CardFile) (names : named call = some file) : FileRight session call (status 0x9000) := by
    simpa [fileRight_iff, ins, SELECT, READBINARY, UPDATEBINARY, VERIFY, MODIFY, GETKEYSTATUS, status, statusWord, names] using room
  rw [selectFile_eq]
  cases names : named call with
  | some file => cases file <;> exact selected _ names
  | none =>
      have other : TestSID call 0x2F09 ≠ 0x9000 := by
        intro found
        have here := (testSID_iff 0x2F09).mp found
        change _ ∧ bytesAt call.cmd 4 3 = [0x02, 0x2F, 0x09] at here
        simp [named, here] at names
      obtain word | word := testSID_ne 0x2F09 other
      · exact status_right room word (by decide) (by decide)
      · exact status_right room word (by decide) (by decide)

/-- An error that is returned. -/
theorem failed_right {Res : Cjpp} {blocks : List CardBlock} (ins : call.cmd 1 = READBINARY ∨ call.cmd 1 = UPDATEBINARY) :
    FileRight session call ⟨some Res, [], blocks⟩ ↔ blocks <+: accesses session call := by
  have bits (read : ProtectionBits.ReadAnswer) (first : Nat) (data : List UInt8)
      (same : (⟨some Res, [], blocks⟩ : FileAnswer) = ofRead read) : ProtectionBits.BitsRight first data read := by
    apply ProtectionBits.bitsRight_error
    intro _ body other
    have response := congrArg FileAnswer.response same
    change [] = read.response at response
    rw [← response] at other
    simp at other
  have other : call.cmd 1 ≠ VERIFY ∧ call.cmd 1 ≠ MODIFY := by
    cases ins with
    | inl read => simp [read, READBINARY, VERIFY, MODIFY]
    | inr update => simp [update, UPDATEBINARY, VERIFY, MODIFY]
  constructor
  · intro right
    exact right.sent other.1 other.2
  · intro sent
    constructor
    case sent => exact fun _ _ => sent
    case bits => exact fun _ _ read same => bits read _ _ same
    all_goals simp

theorem accesses_memory (ins : call.cmd 1 = READBINARY) :
    [readBlock protokoll call (memoryLength call)] <+: accesses ⟨protokoll, .main⟩ call ↔ 5 ≤ call.lenc := by
  by_cases short : call.lenc < 5
  · simp [accesses, ins, READBINARY, GETKEYSTATUS, short]
  · simp [accesses, ins, READBINARY, GETKEYSTATUS, short, memoryLength, Nat.not_lt.mp short]

/-- An answer with the bytes of the main memory. -/
theorem memory_right_iff {body : List UInt8} {blocks : List CardBlock} (ins : call.cmd 1 = READBINARY) :
    FileRight ⟨protokoll, .main⟩ call ⟨some .success, body ++ [0x90, 0x00], blocks⟩ ↔
      body.length + 2 ≤ call.lenr ∧ blocks <+: accesses ⟨protokoll, .main⟩ call ∧ body = (call.replies 0).abData := by
  simp [fileRight_iff, ins, SELECT, READBINARY, UPDATEBINARY, VERIFY, MODIFY, GETKEYSTATUS]

theorem readMemory_right_iff (ins : call.cmd 1 = READBINARY) :
    FileRight ⟨protokoll, .main⟩ call (readMemory protokoll call) ↔ Complete ⟨protokoll, .main⟩ call buffer := by
  have complete : Complete ⟨protokoll, .main⟩ call buffer ↔
      (memoryLength call + 2 ≤ call.lenr → 5 ≤ call.lenc) ∧
      (memoryLength call + 2 ≤ call.lenr → transferred (call.replies 0) (memoryLength call) = .success →
        (call.replies 0).abData.length = memoryLength call) := by
    simp [complete_iff, ins, READBINARY, UPDATEBINARY, GETKEYSTATUS, Reads]
  have len : (if call.cmd 4 = 0 then 256 else (call.cmd 4).toNat) = memoryLength call := rfl
  rw [complete]
  simp only [readMemory, len]
  split
  case isTrue small =>
    have refused : ¬ memoryLength call + 2 ≤ call.lenr := by omega
    rw [failed_right (.inl ins)]
    simp [refused]
  case isFalse large =>
    have room : memoryLength call + 2 ≤ call.lenr := by omega
    split
    case isTrue failed =>
      rw [failed_right (.inl ins), accesses_memory ins]
      simp [room, failed]
    case isFalse succeeds =>
      have success : transferred (call.replies 0) (memoryLength call) = .success := not_not.mp succeeds
      have few := ProtectionBits.length_of_success success
      have whole : (call.replies 0).abData ++ bytesAt call.response (call.replies 0).abData.length
            (memoryLength call - (call.replies 0).abData.length) = (call.replies 0).abData ↔
          (call.replies 0).abData.length = memoryLength call := by
        rw [List.append_right_eq_self, ← List.length_eq_zero_iff, length_bytesAt]
        omega
      have length : ((call.replies 0).abData ++ bytesAt call.response (call.replies 0).abData.length
          (memoryLength call - (call.replies 0).abData.length)).length + 2 ≤ call.lenr := by
        rw [List.length_append, length_bytesAt]
        omega
      rw [memory_right_iff ins, accesses_memory ins, whole]
      simp only [room, success, length, true_and, forall_const]

/-! ### The protection bits -/

/-- The answer of the bits is that of a command which is not refused. -/
theorem readProtection_eq (ins : call.cmd 1 = READBINARY) (cla : call.cmd 0 = 0) (P1 : ¬ call.cmd 2 > protokoll.lastP1) :
    ∃ read, readProtection protokoll call buffer = ofRead read ∧
      ProtectionBits.SyncInterpreter protokoll call buffer = some read := by
  have ins : ¬ call.cmd 1 ≠ READBINARY := not_not.mpr ins
  have cla : ¬ call.cmd 0 ≠ 0 := not_not.mpr cla
  cases protokoll with
  | nine => exact ⟨_, rfl, by simp only [ProtectionBits.SyncInterpreter, if_neg ins, if_neg cla, if_neg P1]⟩
  | ten => exact ⟨_, rfl, by simp only [ProtectionBits.SyncInterpreter, if_neg ins, if_neg cla, if_neg P1]⟩

theorem ofRead_inj {first second : ProtectionBits.ReadAnswer} : ofRead first = ofRead second ↔ first = second := by
  cases first
  cases second
  simp [ofRead]

/-- The command that reads the bits, where it is sent, and the room for its answer. -/
structure BitsAsked (protokoll : Protokoll) (call : SyncCall) (answer : FileAnswer) : Prop where
  refused : ¬ Reads ⟨protokoll, .protection⟩ call → answer.blocks = [] ∧ answer.response.length ≤ 2
  asked : Reads ⟨protokoll, .protection⟩ call → answer.blocks = [bitsBlock protokoll call] ∧
    answer.response.length ≤ ProtectionBits.askedBits protokoll call + 2

theorem readProtection9_asked : BitsAsked .nine call (readProtection .nine call buffer) := by
  have len : (if call.cmd 4 = 0 then 256 else (call.cmd 4).toNat) = ProtectionBits.askedBits .nine call := rfl
  have glen : (ProtectionBits.askedBits .nine call + 7) / 8 = ProtectionBits.bitBytes .nine call := rfl
  have reads : Reads ⟨.nine, .protection⟩ call ↔ ProtectionBits.askedBits .nine call + 2 ≤ call.lenr := by
    simp [Reads]
  have enough : ProtectionBits.askedBits .nine call ≤ 8 * ProtectionBits.bitBytes .nine call := by omega
  have length := @length_unpack (bytesAt (stored buffer 0 (call.replies 0).abData) 0 (ProtectionBits.bitBytes .nine call))
    (ProtectionBits.askedBits .nine call) (by rw [length_bytesAt]; exact enough)
  simp only [readProtection, ofRead, ProtectionBits.readProtection9, len, ProtectionBits.glen_eq, glen]
  constructor
  case refused =>
    intro refused
    rw [reads, Nat.not_le] at refused
    simp [refused]
  case asked =>
    intro room
    rw [reads, ← Nat.not_lt] at room
    rw [if_neg room]
    split
    · simp [bitsBlock]
    · simp [bitsBlock, length]

theorem readProtection10_asked : BitsAsked .ten call (readProtection .ten call buffer) := by
  have len : (if call.cmd 4 = 0 then 32 else (call.cmd 4).toNat) = ProtectionBits.askedBits .ten call := rfl
  have reads : Reads ⟨.ten, .protection⟩ call ↔
      ((call.cmd 3).toNat ≤ 31 ∧ (call.cmd 3).toNat + (call.cmd 4).toNat ≤ 32) ∧
        ProtectionBits.askedBits .ten call + 2 ≤ call.lenr := by
    simp [Reads]
  simp only [readProtection, ofRead, ProtectionBits.readProtection10, len]
  constructor
  case refused =>
    intro refused
    rw [reads] at refused
    split
    · simp
    · have range : (call.cmd 3).toNat ≤ 31 ∧ (call.cmd 3).toNat + (call.cmd 4).toNat ≤ 32 := by omega
      have small : call.lenr < ProtectionBits.askedBits .ten call + 2 := Nat.not_le.mp fun room => refused ⟨range, room⟩
      simp [ProtectionBits.returnedBits range, small]
  case asked =>
    intro room
    rw [reads] at room
    have inRange : ¬ ((call.cmd 3).toNat > 31 ∨ (call.cmd 3).toNat + (call.cmd 4).toNat > 32) := by omega
    rw [if_neg inRange, ProtectionBits.returnedBits room.1, if_neg (Nat.not_lt.mpr room.2)]
    split
    · simp [bitsBlock, ProtectionBits.bitBytes]
    · simp [bitsBlock, ProtectionBits.bitBytes, length_bytesAt]

theorem readProtection_asked : BitsAsked protokoll call (readProtection protokoll call buffer) := by
  cases protokoll with
  | nine => exact readProtection9_asked
  | ten => exact readProtection10_asked

theorem accesses_protection (ins : call.cmd 1 = READBINARY) :
    [bitsBlock protokoll call] <+: accesses ⟨protokoll, .protection⟩ call ↔ 5 ≤ call.lenc := by
  by_cases short : call.lenc < 5
  · simp [accesses, ins, READBINARY, GETKEYSTATUS, short]
  · simp [accesses, ins, READBINARY, GETKEYSTATUS, short, Nat.not_lt.mp short]

theorem readProtection_right_iff (ins : call.cmd 1 = READBINARY) (enters : Enters protokoll call) (room : 2 ≤ call.lenr) :
    FileRight ⟨protokoll, .protection⟩ call (readProtection protokoll call buffer) ↔
      Complete ⟨protokoll, .protection⟩ call buffer := by
  have cla : call.cmd 0 = 0 := by
    have cla := enters.cla
    rw [ins] at cla
    exact cla.resolve_right fun other => absurd other.2 (by decide)
  obtain ⟨read, made, whole⟩ := @readProtection_eq protokoll call buffer ins cla enters.P1
  have shape := @readProtection_asked protokoll call buffer
  rw [made] at shape ⊢
  have right : FileRight ⟨protokoll, .protection⟩ call (ofRead read) ↔
      (ofRead read).response.length ≤ call.lenr ∧ (ofRead read).blocks <+: accesses ⟨protokoll, .protection⟩ call ∧
        ProtectionBits.BitsRight (ProtectionBits.firstBit protokoll call) (call.replies 0).abData read := by
    simp [fileRight_iff, ins, SELECT, READBINARY, UPDATEBINARY, VERIFY, MODIFY, GETKEYSTATUS, ofRead_inj]
  have complete : Complete ⟨protokoll, .protection⟩ call buffer ↔
      (Reads ⟨protokoll, .protection⟩ call → 5 ≤ call.lenc) ∧
        (ProtectionBits.Accepted protokoll call → ProtectionBits.BitsSent protokoll call) := by
    simp [complete_iff, ins, READBINARY, UPDATEBINARY, GETKEYSTATUS]
  have bits : ProtectionBits.BitsRight (ProtectionBits.firstBit protokoll call) (call.replies 0).abData read ↔
      (ProtectionBits.Accepted protokoll call → ProtectionBits.BitsSent protokoll call) := by
    have one : ProtectionBits.ReadRight protokoll call buffer ↔
        ProtectionBits.BitsRight (ProtectionBits.firstBit protokoll call) (call.replies 0).abData read := by
      simp [ProtectionBits.ReadRight, whole]
    rw [← one]
    by_cases accepted : ProtectionBits.Accepted protokoll call
    · simp [accepted, ProtectionBits.right_iff_of_accepted accepted]
    · simp [accepted, ProtectionBits.right_of_refused accepted]
  rw [right, complete, bits]
  by_cases reads : Reads ⟨protokoll, .protection⟩ call
  · have asked := shape.asked reads
    have space : ProtectionBits.askedBits protokoll call + 2 ≤ call.lenr := reads.2
    have fits := Nat.le_trans asked.2 space
    rw [asked.1, accesses_protection ins]
    simp [reads, fits]
  · have refused := shape.refused reads
    have fits := Nat.le_trans refused.2 room
    rw [refused.1]
    simp [reads, fits]

/-! ### UPDATE BINARY -/

/-- The bytes are written to the selected file, and what follows is that of the main memory. -/
theorem accesses_update {rest : List CardBlock} (ins : call.cmd 1 = UPDATEBINARY)
    (behind : rest <+: if IFSC = 0 then [readBlock protokoll call (call.cmd 4).toNat] else []) :
    writeBlock protokoll IFSC call (bytesAt call.cmd 5 (call.cmd 4).toNat) :: rest <+:
      accesses ⟨protokoll, fileOf IFSC⟩ call ↔ 5 + (call.cmd 4).toNat ≤ call.lenc := by
  by_cases short : call.lenc < 5
  · have outside : ¬ 5 + (call.cmd 4).toNat ≤ call.lenc := by omega
    simp [accesses, ins, UPDATEBINARY, GETKEYSTATUS, short, outside]
  · have whole : accesses ⟨protokoll, fileOf IFSC⟩ call =
        writeBlock protokoll IFSC call (payload call) ::
          if IFSC = 0 then [readBlock protokoll call (call.cmd 4).toNat] else [] := by
      by_cases main : IFSC = 0
      · simp [accesses, short, ins, UPDATEBINARY, READBINARY, GETKEYSTATUS, fileOf, main]
      · simp [accesses, short, ins, UPDATEBINARY, READBINARY, GETKEYSTATUS, fileOf, main, @writeBlock_selected _ call IFSC _ main]
    rw [whole, List.cons_prefix_cons, ← payload_eq_iff (Nat.not_lt.mp short)]
    exact ⟨fun inside => writeBlock_inj inside.1, fun same => ⟨congrArg _ same, behind⟩⟩

/-- The data that are read back complete are those in the buffer. -/
theorem read_back (few : (call.replies 1).abData.length ≤ (call.cmd 4).toNat) :
    (call.replies 1).abData = bytesAt (stored buffer 0 (call.replies 1).abData) 0 (call.cmd 4).toNat ↔
      ¬ (call.replies 1).abData.length < (call.cmd 4).toNat := by
  constructor
  · intro same
    have length := congrArg List.length same
    rw [length_bytesAt] at length
    omega
  · intro whole
    have length : (call.cmd 4).toNat = (call.replies 1).abData.length := by omega
    rw [length, bytesAt_stored]

theorem updateBinary_right_iff (ins : call.cmd 1 = UPDATEBINARY) (room : 2 ≤ call.lenr) :
    FileRight ⟨protokoll, fileOf IFSC⟩ call (updateBinary protokoll IFSC call buffer) ↔
      Complete ⟨protokoll, fileOf IFSC⟩ call buffer := by
  have right {answer : FileAnswer} : FileRight ⟨protokoll, fileOf IFSC⟩ call answer ↔
      answer.response.length ≤ call.lenr ∧ answer.blocks <+: accesses ⟨protokoll, fileOf IFSC⟩ call ∧
      (answer.response = [0x90, 0x00] → MemoryCard.Taken (call.replies 0) ∧
        (fileOf IFSC = .main → (call.replies 1).abData = payload call)) ∧
      (answer.response = [0x65, 0x81] → (call.replies 1).abData ≠ payload call) := by
    simp [fileRight_iff, ins, SELECT, READBINARY, UPDATEBINARY, VERIFY, MODIFY, GETKEYSTATUS]
  have complete : Complete ⟨protokoll, fileOf IFSC⟩ call buffer ↔
      5 + (call.cmd 4).toNat ≤ call.lenc ∧
      (fileOf IFSC = .main → MemoryCard.Taken (call.replies 0) →
        transferred (call.replies 1) (call.cmd 4).toNat = .success →
        (call.replies 1).abData.length < (call.cmd 4).toNat →
        bytesAt (stored buffer 0 (call.replies 1).abData) 0 (call.cmd 4).toNat ≠
          bytesAt call.cmd 5 (call.cmd 4).toNat) := by
    simp [complete_iff, ins, READBINARY, UPDATEBINARY, GETKEYSTATUS]
  rw [complete]
  unfold updateBinary
  dsimp only
  split
  case isTrue failed =>
    have untaken : ¬ MemoryCard.Taken (call.replies 0) := failed
    rw [failed_right (.inr ins), accesses_update ins (List.nil_prefix)]
    simp [untaken]
  case isFalse taken =>
    have taken : MemoryCard.Taken (call.replies 0) := not_not.mp taken
    split
    case isFalse protection =>
      rw [right, accesses_update ins List.nil_prefix]
      simp [room, taken, fileOf, protection]
    case isTrue main =>
      have behind : [readBlock protokoll call (call.cmd 4).toNat] <+:
          if IFSC = 0 then [readBlock protokoll call (call.cmd 4).toNat] else [] := by
        simp only [if_pos main, List.prefix_refl]
      split
      case isTrue failed =>
        rw [failed_right (.inr ins), accesses_update ins behind]
        simp [failed]
      case isFalse succeeds =>
        have success : transferred (call.replies 1) (call.cmd 4).toNat = .success := not_not.mp succeeds
        have back := @read_back call buffer (ProtectionBits.length_of_success success)
        split
        case isTrue different =>
          rw [right, accesses_update ins behind]
          constructor
          · intro answered
            exact ⟨answered.2.1, fun _ _ _ _ => different⟩
          · intro complete
            have own := (payload_eq_iff (by omega)).mpr complete.1
            refine ⟨room, complete.1, by simp, fun _ same => different ?_⟩
            rw [← own] at same
            have length := congrArg List.length same
            rw [length_bytesAt] at length
            rw [← back.mpr (by omega), same]
        case isFalse equal =>
          have equal := not_not.mp equal
          rw [right, accesses_update ins behind]
          constructor
          · intro answered
            have own := (payload_eq_iff (by omega)).mpr answered.2.1
            have sent := (answered.2.2.1 rfl).2 (if_pos main)
            have same := back.mp (sent.trans (own.symm.trans equal.symm))
            exact ⟨answered.2.1, fun _ _ _ short => absurd short same⟩
          · intro complete
            have own := (payload_eq_iff (by omega)).mpr complete.1
            have whole := back.mpr fun short => complete.2 (if_pos main) taken success short equal
            exact ⟨room, complete.1, fun _ => ⟨taken, fun _ => whole.trans (equal.trans own)⟩, by simp⟩

/-! ### The other instructions -/

theorem countBits_eq (counter : UInt8) : MemoryCard.countBits 8 counter 0 = MemoryCard.setBits counter := by
  have counted : ∀ counter : UInt8, MemoryCard.countBits 8 counter 0 = MemoryCard.setBits counter := by decide +kernel
  exact counted counter

theorem getKeyStatus_right_iff {file : CardFile} (ins : call.cmd 1 = GETKEYSTATUS) :
    FileRight ⟨protokoll, file⟩ call (getKeyStatus protokoll call buffer) ↔ Complete ⟨protokoll, file⟩ call buffer := by
  have complete : Complete ⟨protokoll, file⟩ call buffer ↔
      (transferred (call.replies 0) (protokoll.room .readCounter) = .success →
        3 ≤ call.lenr ∧ MemoryCard.counterIn (call.replies 0) ≠ none) := by
    simp [complete_iff, ins, READBINARY, UPDATEBINARY, GETKEYSTATUS]
  have whole : accesses ⟨protokoll, file⟩ call = counterBlocks protokoll := by simp [accesses, ins]
  rw [complete]
  unfold getKeyStatus
  dsimp only
  split
  case isTrue failed =>
    simp [fileRight_iff, whole, ins, SELECT, READBINARY, UPDATEBINARY, VERIFY, MODIFY, GETKEYSTATUS, failed]
  case isFalse succeeds =>
    have success := not_not.mp succeeds
    rw [countBits_eq]
    have right {tries : UInt8} :
        FileRight ⟨protokoll, file⟩ call ⟨some .success, [tries, 0x90, 0x00], counterBlocks protokoll⟩ ↔
          3 ≤ call.lenr ∧ ∃ counter, MemoryCard.counterIn (call.replies 0) = some counter ∧
            tries.toNat = MemoryCard.setBits counter := by
      simp [fileRight_iff, whole, ins, SELECT, READBINARY, UPDATEBINARY, VERIFY, MODIFY, GETKEYSTATUS]
    rw [right]
    cases found : MemoryCard.counterIn (call.replies 0) with
    | none => simp [success]
    | some counter =>
        have received : MemoryCard.received (buffer 0) (call.replies 0).abData = counter :=
          MemoryCard.received_of_some found
        have few := MemoryCard.setBits_le counter
        have small : MemoryCard.setBits counter % 256 = MemoryCard.setBits counter := Nat.mod_eq_of_lt (by omega)
        simp [success, received, small]

theorem pinAnswer_right {made : List MemoryCard.PinRequest × Option MemoryCard.PinEnd}
    (ins : call.cmd 1 = VERIFY ∨ call.cmd 1 = MODIFY) (room : 2 ≤ call.lenr) :
    FileRight session call (pinAnswer protokoll made) := by
  have fits : (pinAnswer protokoll made).response.length ≤ call.lenr := by
    unfold pinAnswer
    dsimp only
    split
    · simp
    · simpa [statusWord] using room
    · simp
  cases ins with
  | inl verify =>
      simpa [fileRight_iff, verify, VERIFY, SELECT, READBINARY, UPDATEBINARY, VERIFY, MODIFY, GETKEYSTATUS] using fits
  | inr modify =>
      simpa [fileRight_iff, modify, MODIFY, SELECT, READBINARY, UPDATEBINARY, VERIFY, MODIFY, GETKEYSTATUS] using fits

/-- Other instructions ask for nothing. -/
theorem complete_of_other (read : call.cmd 1 ≠ READBINARY) (update : call.cmd 1 ≠ UPDATEBINARY)
    (keyStatus : call.cmd 1 ≠ GETKEYSTATUS) : Complete session call buffer := by
  simp [complete_iff, read, update, keyStatus]

/-- A command that enters its branch is answered right exactly where nothing is missing. -/
theorem interpreter_right_iff (room : 2 ≤ call.lenr) :
    FileRight ⟨protokoll, fileOf IFSC⟩ call (SyncInterpreter protokoll IFSC call buffer).1 ↔
      (Enters protokoll call → Complete ⟨protokoll, fileOf IFSC⟩ call buffer) := by
  by_cases enters : Enters protokoll call
  · have cla : ¬ (call.cmd 0 ≠ 0 ∧ (call.cmd 0 ≠ 0x80 ∨ call.cmd 1 ≠ GETKEYSTATUS)) := by
      have cla := enters.cla
      tauto
    rw [SyncInterpreter, if_neg cla, if_neg enters.P1, forall_prop_of_true enters]
    split
    case isTrue ins =>
      exact iff_of_true (select_right ins room)
        (complete_of_other (by simp [ins, SELECT, READBINARY]) (by simp [ins, SELECT, UPDATEBINARY])
          (by simp [ins, SELECT, GETKEYSTATUS]))
    split
    case isTrue ins =>
      by_cases main : IFSC = 0
      · rw [fileOf, if_pos main]
        dsimp only
        rw [if_pos main]
        exact readMemory_right_iff ins
      · rw [fileOf, if_neg main]
        dsimp only
        rw [if_neg main]
        exact readProtection_right_iff ins enters room
    split
    case isTrue ins => exact updateBinary_right_iff ins room
    split
    case isTrue ins =>
      have other : call.cmd 1 ≠ GETKEYSTATUS := by
        rcases ins with ins | ins <;> simp [ins, VERIFY, MODIFY, GETKEYSTATUS]
      exact iff_of_true (pinAnswer_right ins room) (complete_of_other ‹_› ‹_› other)
    split
    case isTrue ins => exact getKeyStatus_right_iff ins
    case isFalse other =>
      exact iff_of_true (status_right room rfl (by decide) (by decide)) (complete_of_other ‹_› ‹_› other)
  · refine iff_of_true ?_ fun entered => absurd entered enters
    unfold SyncInterpreter
    split
    · exact status_right room rfl (by decide) (by decide)
    · split
      · exact status_right room rfl (by decide) (by decide)
      · rename_i cla P1
        refine absurd ⟨?_, P1⟩ enters
        tauto

/-! ## A session -/

/-- What the members of a device stand for. -/
def knownOf (device : FileDevice) : Option Session :=
  (protokollOf device.Protokoll).map fun protokoll => ⟨protokoll, fileOf device.IFSC⟩

theorem configure_protokoll (device : SyncDevice) (lenc : Nat) (cmd : Nat → UInt8) :
    (configure device lenc cmd).2.Protokoll = device.Protokoll := by
  unfold configure
  dsimp only
  repeat' split
  all_goals rfl

theorem activated_known (device : FileDevice) (activation : Activation) (TA3 : Option UInt8) :
    Session.activated (knownOf device) activation = knownOf (ctBcsReset device activation TA3) := by
  cases activation with
  | failed => rfl
  | asynchronous Protokoll =>
      cases Protokoll with
      | none => rfl
      | some Protokoll =>
          have small : (Protokoll : Nat) ≠ 9 ∧ (Protokoll : Nat) ≠ 10 := by omega
          simp [Session.activated, knownOf, ctBcsReset, Ppa.ctBcsReset, protokollOf, small]
  | synchronous atr =>
      cases atr with
      | nil => simp [Session.activated, knownOf, ctBcsReset, Ppa.ctBcsReset, fileOf, Function.comp_def]
      | cons first rest =>
          simp only [Session.activated, knownOf, ctBcsReset, Ppa.ctBcsReset, cardOf, List.getD_cons_zero]
          by_cases length : rest.length = 3
          · by_cases ten : first = 0xa2
            · simp [length, ten, protokollOf, fileOf]
            · by_cases nine : first = 0x92
              · simp [length, nine, protokollOf, fileOf]
              · by_cases iic : first &&& 0xf0 = 0x80
                · simp [length, ten, nine, iic, protokollOf]
                · simp [length, ten, nine, iic, fileOf, Function.comp_def]
          · simp [length, fileOf, Function.comp_def]

/-- Behind a command the file is the one that SELECT has found, or the one before. -/
theorem interpreter_selects :
    fileOf (SyncInterpreter protokoll IFSC call buffer).2 =
      if call.cmd 1 = SELECT ∧ (SyncInterpreter protokoll IFSC call buffer).1.response = [0x90, 0x00] then
        (named call).getD (fileOf IFSC)
      else fileOf IFSC := by
  by_cases ins : call.cmd 1 = SELECT
  · unfold SyncInterpreter
    split
    · simp [status, statusWord]
    · split
      · simp [status, statusWord]
      · rw [selectFile_eq]
        cases names : named call with
        | some file => cases file <;> simp [ins, status, statusWord, fileOf]
        | none =>
            simp
  · have kept : (SyncInterpreter protokoll IFSC call buffer).2 = IFSC := by
      unfold SyncInterpreter
      rw [if_neg ins]
      repeat' split
      all_goals rfl
    simp [ins, kept]

theorem session_follows (device : FileDevice) (request : FileRequest) :
    sessionObserver.learn (knownOf device) request (fileRequest device request).1 =
      knownOf (fileRequest device request).2 := by
  cases request with
  | powerOn activation TA3 => exact activated_known device activation TA3
  | configure lenc cmd => simp [sessionObserver, fileRequest, knownOf, configure_protokoll]
  | ifsRequest value =>
      by_cases block : device.Protokoll = 1
      · simp [sessionObserver, fileRequest, knownOf, block, protokollOf]
      · simp [sessionObserver, fileRequest, block]
  | card call buffer =>
      by_cases room : call.lenr < 2
      · simp [sessionObserver, fileRequest, room]
      · cases found : protokollOf device.Protokoll with
        | none => simp [sessionObserver, fileRequest, room, found]
        | some protokoll =>
            have selects := @interpreter_selects protokoll call buffer device.IFSC
            simp only [sessionObserver, fileRequest, room, found, knownOf, if_false, Option.map_some, selects]
            split <;> rfl

theorem session_right_iff (device : FileDevice) (request : FileRequest) :
    sessionObserver.right (knownOf device) request (fileRequest device request).1 ↔ Allowed device request := by
  cases request with
  | powerOn activation TA3 => simp [sessionObserver, Allowed]
  | configure lenc cmd => simp [sessionObserver, Allowed]
  | ifsRequest value => simp [sessionObserver, Allowed]
  | card call buffer =>
      by_cases room : call.lenr < 2
      · have small : ¬ 2 ≤ call.lenr := Nat.not_le.mpr room
        simp [sessionObserver, Allowed, small]
      · have large : 2 ≤ call.lenr := Nat.not_lt.mp room
        cases found : protokollOf device.Protokoll with
        | none => simp [sessionObserver, Allowed, knownOf, found]
        | some protokoll =>
            simp [sessionObserver, Allowed, knownOf, fileRequest, found, room, large, interpreter_right_iff large]

/-- In every session each command of a memory card is answered as the card and the file that has been selected have
it, exactly where nothing of what it reads is missing. -/
theorem card_files_right_iff (requests : List FileRequest) :
    (∀ entry ∈ history (observed fileRequest sessionObserver) (.initial, none) requests,
      sessionObserver.right entry.before.2 entry.input entry.answer) ↔
    Keeps (fun both => Allowed both.1)
      (history (observed fileRequest sessionObserver) (.initial, none) requests) := by
  have start : knownOf FileDevice.initial = none := rfl
  rw [← start]
  apply @history_iff _ _ _ (observed fileRequest sessionObserver) (fun both => both.2 = knownOf both.1)
    (fun both => Allowed both.1) (fun entry => sessionObserver.right entry.before.2 entry.input entry.answer)
  · intro both request represents
    rw [← session_right_iff both.1 request, ← represents]
    rfl
  · intro both request represents _
    change sessionObserver.learn both.2 request _ = knownOf _
    rw [represents]
    exact session_follows both.1 request
  · rfl

/-- UPDATE BINARY for four bytes of which the command has two. -/
def shortUpdate : SyncCall where
  lenc := 7
  cmd := inMemory [0x00, 0xD6, 0x00, 0x20, 0x04, 0x01, 0x02, 0xAA, 0xBB]
  lenr := 258
  response _ := 0
  replies count := .ofBlock (if count = 0 then [] else [0x01, 0x02, 0xAA, 0xBB])

/-- What lies behind the command is written to the card, too, and found there again. -/
theorem card_files_not_right :
    (fileRequest (ctBcsReset .initial (.synchronous [0x92, 0x23, 0x10, 0x91]) none) (.card shortUpdate fun _ => 0)).1 =
      some ⟨some .success, [0x90, 0x00],
        [S9SyncCommands 0x33 0x20 [0x01, 0x02, 0xAA, 0xBB] 0, S9SyncCommands 0x0e 0x20 [] 4]⟩ ∧
    ¬ ∀ entry ∈ history (observed fileRequest sessionObserver) (.initial, none)
        [.powerOn (.synchronous [0x92, 0x23, 0x10, 0x91]) none, .card shortUpdate fun _ => 0],
      sessionObserver.right entry.before.2 entry.input entry.answer := by
  refine ⟨by decide, fun all => ?_⟩
  have second := (List.forall_mem_cons.mp (List.forall_mem_cons.mp all).2).1
  have allowed := (session_right_iff (ctBcsReset .initial (.synchronous [0x92, 0x23, 0x10, 0x91]) none)
    (.card shortUpdate fun _ => 0)).mp second
  have complete := allowed .nine rfl (by decide) ⟨.inl rfl, by decide⟩
  exact absurd (complete.data rfl) (by decide)

end Cyberjack.Ppa.CardFiles
