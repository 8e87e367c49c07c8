import Cyberjack.Foundation.Dialog
import Cyberjack.Ppa.I2c

namespace Cyberjack.Ppa.MemoryCard

open Cyberjack.Foundation Cyberjack.Eca

/-! # PINs of memory cards

VERIFY and MODIFY in `SyncInterpreter.c` for the protocols 9 and 10: the card
counts the tries with the set bits of a counter, one of which is cleared in
front of every comparison.
-/

inductive Protokoll where
  | nine
  | ten
deriving Repr, DecidableEq

/-- What `cjccid_XfrBlock` is called with. -/
structure CardBlock where
  bBWI : UInt8
  out : List UInt8
  in_len : Nat
deriving Repr, DecidableEq

def S9SyncCommands (Command : UInt8) (addr : Nat) (outdata : List UInt8) (len : Nat) : CardBlock :=
  ⟨Command, [UInt8.ofNat (addr >>> 8), UInt8.ofNat addr, UInt8.ofNat outdata.length,
    UInt8.ofNat (len >>> 8), UInt8.ofNat len] ++ outdata, len⟩

def S10SyncCommands (Command addr : UInt8) (outdata : List UInt8) (len : Nat) : CardBlock :=
  ⟨0, [Command, addr, UInt8.ofNat outdata.length, UInt8.ofNat (len >>> 8), UInt8.ofNat len] ++ outdata,
    len⟩

/-- The commands for the card, and the one that switches it off. -/
inductive PinRequest where
  | readCounter
  | burnCounter (value : UInt8)
  | comparePin (pin : List UInt8)
  | restoreCounter
  | writePin (pin : List UInt8)
  | iccPowerOff
deriving Repr, DecidableEq

namespace Protokoll

/-- The counter with all its bits set, as the code writes and expects it. -/
def full : Protokoll → UInt8
  | nine => 0xff
  | ten => 7

def pinLength : Protokoll → Nat
  | nine => 2
  | ten => 3

/-- The highest P1 of a command. -/
def lastP1 : Protokoll → UInt8
  | nine => 3
  | ten => 0

/-- The block of a request, where it has one. -/
def block : Protokoll → PinRequest → Option CardBlock
  | nine, .readCounter => some (S9SyncCommands 0x0e 1021 [] 1)
  | nine, .burnCounter value => some (S9SyncCommands 0x32 1021 [value] 0)
  | nine, .comparePin pin => some (S9SyncCommands 0x0d 1022 pin 0)
  | nine, .restoreCounter => some (S9SyncCommands 0x33 1021 [nine.full] 0)
  | nine, .writePin pin => some (S9SyncCommands 0x33 1022 pin 0)
  | ten, .readCounter => some (S10SyncCommands 0x31 0xff [] 4)
  | ten, .burnCounter value => some (S10SyncCommands 0x39 0 [value] 0)
  | ten, .comparePin pin => some (S10SyncCommands 0x33 1 pin 0)
  | ten, .restoreCounter => some (S10SyncCommands 0x39 0 [ten.full] 0)
  | ten, .writePin pin => some (S10SyncCommands 0x39 1 pin 0)
  | _, .iccPowerOff => none

/-- How many bytes may come back. -/
def room (protokoll : Protokoll) (request : PinRequest) : Nat :=
  (protokoll.block request).elim 0 CardBlock.in_len

end Protokoll

/-- The return code, or the status word of the response. -/
inductive PinEnd where
  | returned (Res : Cjpp)
  | status (Result : Nat)
deriving Repr, DecidableEq

abbrev PinDialog := Dialog PinRequest (fun _ => Reply) PinEnd

def VERIFY : UInt8 := 0x20

def MODIFY : UInt8 := 0x24

/-- `CJPP_TEST` of a command; the card is switched off where it fails. -/
def tested (protokoll : Protokoll) (request : PinRequest) (behind : List UInt8 → PinDialog) : PinDialog :=
  .ask request fun reply =>
    let Res := transferred reply (protokoll.room request)
    if Res = .success then behind reply.abData
    else .ask .iccPowerOff fun _ => .done (.returned Res)

/-- `buffer[0]` behind a command that stores what comes back. -/
def received (buffer0 : UInt8) (data : List UInt8) : UInt8 := data.headD buffer0

/-- The loop that looks for a set bit, up to a number of passes. -/
def setBit (addr : UInt8) : Nat → UInt8 → Option UInt8
  | 0, _ => none
  | passes + 1, Offset =>
      if addr &&& (Offset ^^^ 0xff) = addr then setBit addr passes (Offset <<< 1) else some Offset

/-- The loop that counts the set bits. -/
def countBits : Nat → UInt8 → Nat → Nat
  | 0, _, len => len
  | passes + 1, Offset, len => countBits passes (Offset >>> 1) (if Offset &&& 1 ≠ 0 then len + 1 else len)

/-- The status for a counter that has been read back. -/
def counterStatus (protokoll : Protokoll) (Offset : UInt8) (Result : Nat) : Nat :=
  if Offset ≠ protokoll.full then countBits 8 Offset 0 ||| 0x63c0 else Result

/-- The comparison at the cost of a try: `value` is what is left of the counter `addr`. -/
def spent (protokoll : Protokoll) (pin : List UInt8) (value addr : UInt8) (behind : Nat → UInt8 → PinDialog) :
    PinDialog :=
  tested protokoll (.burnCounter value) fun _ =>
  tested protokoll (.comparePin pin) fun _ =>
  tested protokoll .restoreCounter fun _ =>
  tested protokoll .readCounter fun data =>
    let Offset := received addr data
    behind (counterStatus protokoll Offset 0x6700) Offset

/-- The comparison of the PIN; it ends with `Result` and `buffer[0]`. -/
def compared (protokoll : Protokoll) (pin : List UInt8) (buffer0 : UInt8) (behind : Nat → UInt8 → PinDialog) :
    PinDialog :=
  tested protokoll .readCounter fun data =>
    let addr := received buffer0 data
    if addr = 0 then behind 0x6983 addr
    else
      match setBit addr 8 1 with
      | none => .stuck
      | some Offset => spent protokoll pin (addr &&& (Offset ^^^ 0xff)) addr behind

/-- What follows where `Result` is still 67 00. -/
def completed (protokoll : Protokoll) (ins : UInt8) (pin : List UInt8) (Result : Nat) (buffer0 : UInt8) :
    PinDialog :=
  if Result ≠ 0x6700 then .done (.status Result)
  else if ins = VERIFY then .done (.status 0x9000)
  else
    tested protokoll .restoreCounter fun _ =>
    tested protokoll (.writePin pin) fun _ =>
    tested protokoll .readCounter fun data =>
      .done (.status (counterStatus protokoll (received buffer0 data) 0x9000))

/-- The length of a command with a number of PINs. -/
def HasPins (protokoll : Protokoll) (call : SyncCall) (count : Nat) : Prop :=
  call.lenc = 5 + count * protokoll.pinLength ∧ (call.cmd 4).toNat = count * protokoll.pinLength

instance (protokoll : Protokoll) (call : SyncCall) (count : Nat) :
    Decidable (HasPins protokoll call count) := inferInstanceAs (Decidable (_ ∧ _))

/-- The branch of VERIFY and MODIFY; `buffer0` is what `buffer[0]` holds before. -/
def pinBranch (protokoll : Protokoll) (call : SyncCall) (buffer0 : UInt8) : PinDialog :=
  let pin := bytesAt call.cmd 5 protokoll.pinLength
  if HasPins protokoll call 1 ∨ HasPins protokoll call 2 then
    if call.cmd 1 = VERIFY ∨ call.lenc = 5 + 2 * protokoll.pinLength then
      compared protokoll pin buffer0
        (completed protokoll (call.cmd 1) (bytesAt call.cmd (5 + protokoll.pinLength) protokoll.pinLength))
    else completed protokoll (call.cmd 1) pin 0x6700 buffer0
  else .done (.status 0x6700)

/-- `SyncInterpreter` for the protocols 9 and 10; the commands that do not have to do with a PIN are
not looked into. -/
def SyncInterpreter (protokoll : Protokoll) (call : SyncCall) (buffer0 : UInt8) : PinDialog :=
  if call.cmd 0 ≠ 0 ∧ (call.cmd 0 ≠ 0x80 ∨ call.cmd 1 ≠ GETKEYSTATUS) then .done (.status 0x6E00)
  else if call.cmd 2 > protokoll.lastP1 then .done (.status 0x6A00)
  else if call.cmd 1 = VERIFY ∨ call.cmd 1 = MODIFY then pinBranch protokoll call buffer0
  else .stuck

/-- The replies one after the other. -/
def answering (replies : Nat → Reply) : Dialog.Device PinRequest (fun _ => Reply) Nat :=
  fun count _ => (replies count, count + 1)

/-- The requests of a call, and how it ends. -/
def pinCall (protokoll : Protokoll) (call : SyncCall) (buffer0 : UInt8) : List PinRequest × Option PinEnd :=
  (SyncInterpreter protokoll call buffer0).run (answering call.replies) 0

/-! ## The tries that a card counts -/

/-- How many bits of the byte are the counter. -/
def Protokoll.bits : Protokoll → Nat
  | nine => 8
  | ten => 3

/-- No try is left. -/
def Exhausted (protokoll : Protokoll) (counter : UInt8) : Prop :=
  ∀ bit < protokoll.bits, counter.toNat.testBit bit = false

def Restored (protokoll : Protokoll) (counter : UInt8) : Prop :=
  ∀ bit < protokoll.bits, counter.toNat.testBit bit = true

/-- The value is the counter without one of its set bits. -/
def Burns (protokoll : Protokoll) (counter value : UInt8) : Prop :=
  ∃ bit < protokoll.bits, counter.toNat.testBit bit = true ∧ value.toNat + 2 ^ bit = counter.toNat

instance (protokoll : Protokoll) (counter : UInt8) : Decidable (Exhausted protokoll counter) :=
  inferInstanceAs (Decidable (∀ bit < protokoll.bits, _))

instance (protokoll : Protokoll) (counter : UInt8) : Decidable (Restored protokoll counter) :=
  inferInstanceAs (Decidable (∀ bit < protokoll.bits, _))

instance (protokoll : Protokoll) (counter value : UInt8) : Decidable (Burns protokoll counter value) :=
  inferInstanceAs (Decidable (∃ bit, bit < protokoll.bits ∧ _))

/-- The number of set bits. -/
def setBits (byte : UInt8) : Nat := ((List.range 8).filter fun bit => byte.toNat.testBit bit).length

/-- The counter in a reply, if it is there. -/
def counterIn (reply : Reply) : Option UInt8 := reply.abData.head?

/-- The command is a VERIFY, or a MODIFY with the old and the new PIN. -/
structure Compares (protokoll : Protokoll) (call : SyncCall) : Prop where
  cla : call.cmd 0 = 0
  p1 : call.cmd 2 ≤ protokoll.lastP1
  form : (call.cmd 1 = VERIFY ∧ (HasPins protokoll call 1 ∨ HasPins protokoll call 2)) ∨
    (call.cmd 1 = MODIFY ∧ HasPins protokoll call 2)

/-- What has to be sent, with the value that the counter is written with in front of the comparison. -/
def pinPlan (protokoll : Protokoll) (call : SyncCall) (value : UInt8) : List PinRequest :=
  [.readCounter, .burnCounter value, .comparePin (bytesAt call.cmd 5 protokoll.pinLength), .restoreCounter,
    .readCounter] ++
  if call.cmd 1 = VERIFY then []
  else
    [.restoreCounter, .writePin (bytesAt call.cmd (5 + protokoll.pinLength) protokoll.pinLength),
      .readCounter]

/-- Every comparison costs one try and every status tells what the card has said. -/
structure TriesCounted (protokoll : Protokoll) (call : SyncCall)
    (made : List PinRequest × Option PinEnd) : Prop where
  ends : made.2 ≠ none
  ordered : ∃ value, made.1.filter (· ≠ .iccPowerOff) <+: pinPlan protokoll call value
  burned : ∀ value, .burnCounter value ∈ made.1 →
    ∃ counter, counterIn (call.replies 0) = some counter ∧ Burns protokoll counter value
  accepted : ∀ pin, .writePin pin ∈ made.1 →
    ∃ counter, counterIn (call.replies 4) = some counter ∧ Restored protokoll counter
  exhausted : ∀ Result, made.2 = some (.status Result) →
    (Result = 0x6983 ↔ ∃ counter, counterIn (call.replies 0) = some counter ∧ Exhausted protokoll counter)
  granted : made.2 = some (.status 0x9000) →
    ∃ counter, counterIn (call.replies 4) = some counter ∧ Restored protokoll counter
  refused : ∀ Result, made.2 = some (.status Result) → Result ≠ 0x6983 → Result ≠ 0x9000 →
    ∃ counter, counterIn (call.replies (made.1.length - 1)) = some counter ∧
      Result = 0x63C0 + setBits counter

/-- The card has taken a command that brings nothing back. -/
def Taken (reply : Reply) : Prop := transferred reply 0 = .success

/-- The card has answered a command that reads the counter. -/
def Read (protokoll : Protokoll) (reply : Reply) : Prop :=
  transferred reply (protokoll.room .readCounter) = .success

/-- The comparison has been made and the counter has been read once more. -/
def ReadBack (protokoll : Protokoll) (replies : Nat → Reply) : Prop :=
  Read protokoll (replies 0) ∧ counterIn (replies 0) ≠ some 0 ∧ Taken (replies 1) ∧ Taken (replies 2) ∧
    Taken (replies 3) ∧ Read protokoll (replies 4)

/-- The counter is in the replies that have to bring it, and where no try is left the byte is zero. -/
structure CounterKnown (protokoll : Protokoll) (call : SyncCall) : Prop where
  first : Read protokoll (call.replies 0) → ∃ counter, counterIn (call.replies 0) = some counter ∧
    (Exhausted protokoll counter → counter = 0)
  back : ReadBack protokoll call.replies → counterIn (call.replies 4) ≠ none ∨
    (call.cmd 1 = MODIFY ∧ counterIn (call.replies 0) = some protokoll.full ∧ ¬ Taken (call.replies 5))

end Cyberjack.Ppa.MemoryCard
