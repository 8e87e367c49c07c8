import Cyberjack.Eca.PinHandlers
import Cyberjack.Foundation.Loop

namespace Cyberjack.Eca.KeyInput

open Cyberjack.Foundation

/-! # The keys of INPUT

The loop of the command 20 16 in `CCIDReader.cpp`, with what it writes to its three arrays, for a reader whose
`cjInput` is that of `EC30Reader.cpp`.
-/

inductive Destination where
  | buffer
  | text
  | response
deriving Repr, DecidableEq

structure Write where
  destination : Destination
  offset : Nat
  count : Nat
deriving Repr, DecidableEq

/-- A pass of the loop begins with the keys in `buffer`, of which there are `i`. -/
structure KeyState where
  buffer : List UInt8
  timeout : UInt8
deriving Repr, DecidableEq

/-- What the reader answers: the result, and the key. -/
abbrev KeyReply := CJ_RESULT × UInt8

/-- `cjInput` refuses a text that is too long for its own buffer. -/
def cjInput (tag50 : List UInt8) (reply : KeyReply) : KeyReply :=
  if tag50.length > 64 then (.errRbufferToSmall, reply.2) else reply

inductive KeyEffect where
  | timedOut
  | canceled
  | confirmed
  | collected (byte : UInt8)
  | ignored
deriving Repr, DecidableEq

/-- What the handler makes of a key. -/
def keyEffect (P2 : UInt8) (charlen : Nat) (key : UInt8) : KeyEffect :=
  if key = 0xff then .timedOut
  else if P2 &&& 0xf0 = 0x10 then
    if (key ≠ 10 ∧ key ≠ 11) ∨ charlen = 1 then .collected key
    else if key = 10 then .canceled
    else .confirmed
  else if key < 10 then .collected (key + 0x30)
  else if key = 10 then .canceled
  else if key = 11 then .confirmed
  else .ignored

/-- The copies to `text`; the keys are shown as they are, or hidden. -/
def textWrites (P2 : UInt8) (taglen50 i : Nat) : List Write :=
  if P2 &&& 0x0f = 0 then [⟨.text, 0, taglen50⟩] else [⟨.text, 0, taglen50⟩, ⟨.text, taglen50, i⟩]

/-- The answer behind the loop. -/
def keyAnswerWrites (call : CtCall) (i : Nat) : List Write :=
  if call.lenr < i + 2 then [] else [⟨.response, 0, i⟩, ⟨.response, i, 2⟩]

def answered (call : CtCall) (state : KeyState) : List Write × Next KeyState CtReturn :=
  (keyAnswerWrites call state.buffer.length, .done (keyAnswer call state.buffer))

def refused (call : CtCall) (sw1 sw2 : UInt8) : List Write × Next KeyState CtReturn :=
  ([⟨.response, 0, 2⟩], .done (call.status sw1 sw2))

/-- `i<charlen` -/
def loopHead (call : CtCall) (charlen : Nat) (state : KeyState) : List Write × Next KeyState CtReturn :=
  if state.buffer.length < charlen then ([], .again state) else answered call state

/-- What follows from a key; with `i--` the loop comes back to the same place. -/
def behindKey (call : CtCall) (charlen : Nat) (state : KeyState) : KeyEffect → List Write × Next KeyState CtReturn
  | .timedOut => refused call 0x64 0x00
  | .canceled => refused call 0x64 0x01
  | .confirmed => answered call state
  | .collected byte =>
      let next := loopHead call charlen ⟨state.buffer ++ [byte], 5⟩
      (⟨.buffer, state.buffer.length, 1⟩ :: next.1, next.2)
  | .ignored => loopHead call charlen ⟨state.buffer, 5⟩

/-- A pass of the loop. -/
def inputKey (call : CtCall) (tag50 : List UInt8) (charlen : Nat) : Body KeyState KeyReply Write CtReturn :=
  fun state reply =>
    let P2 := call.cmd 3
    let text := textWrites P2 tag50.length state.buffer.length
    let input := cjInput (inputText P2 tag50 state.buffer) reply
    if input.1 ≠ .success then (text, .done (call.cleared (-128)))
    else
      let next := behindKey call charlen state (keyEffect P2 charlen input.2)
      (text ++ next.1, next.2)

/-- The checks in front of the loop. -/
def inputRefusal (call : CtCall) (lengths : Lengths) : Option (UInt8 × UInt8) :=
  if lengths.Le = -1 then some (0x67, 0x00)
  else if call.cmd 2 ≠ 0x50 ∨ call.cmd 3 &&& 0x0f > 0x02 ∨ call.cmd 3 &&& 0xf0 > 0x10 ∨
      (call.cmd 3 &&& 0xf0 = 0x10 ∧ lengths.Le ≠ 1) then
    some (0x6A, 0x00)
  else if waitingTime call lengths = none then some (0x67, 0x00)
  else none

def charlen (lengths : Lengths) : Nat := if lengths.Le = 0 then 256 else lengths.Le.toNat

/-- The text of the command. -/
def promptText (call : CtCall) (lengths : Lengths) : List UInt8 :=
  ((commandTag call.cmd lengths 0x50).map TransformText).getD []

def opening (call : CtCall) (lengths : Lengths) : List Write × Next KeyState CtReturn :=
  match inputRefusal call lengths with
  | some (sw1, sw2) => refused call sw1 sw2
  | none => loopHead call (charlen lengths) ⟨[], ((waitingTime call lengths).join).getD 15⟩

/-- `cmd[1]==0x16` -/
def performKeys (call : CtCall) (lengths : Lengths) (replies : List KeyReply) :
    Call KeyState KeyReply Write CtReturn :=
  Foundation.call (inputKey call (promptText call lengths) (charlen lengths)) (opening call lengths) replies

/-- INPUT from the head of `_CtData` on. -/
def input (linux : Bool) (call : CtCall) (replies : List KeyReply) : Call KeyState KeyReply Write CtReturn :=
  if call.lenr < 2 then ⟨[], [], .done ⟨-11, call.sad, call.dad, call.response, 0⟩⟩
  else
    match parseLengths linux call.cmd call.lenc with
    | none => ⟨[⟨.response, 0, 2⟩], [], .done ⟨0, call.sad, call.dad, written call.response [0x67, 0x00], 2⟩⟩
    | some lengths => performKeys call lengths replies

/-! ## A pass -/

variable {call : CtCall} {lengths : Lengths} {tag50 : List UInt8} {limit : Nat} {state : KeyState} {reply : KeyReply}
  {replies : List KeyReply}

theorem cjInput_success {text : List UInt8} :
    (cjInput text reply).1 = .success ↔ text.length ≤ 64 ∧ reply.1 = .success := by
  unfold cjInput
  by_cases long : text.length > 64
  · rw [if_pos long]
    apply iff_of_false
    · intro same
      contradiction
    · omega
  · rw [if_neg long]
    exact (and_iff_right (Nat.not_lt.mp long)).symm

theorem cjInput_key {text : List UInt8} : (cjInput text reply).2 = reply.2 := by
  unfold cjInput
  split <;> rfl

theorem inputKey_refused (refusal : (cjInput (inputText (call.cmd 3) tag50 state.buffer) reply).1 ≠ .success) :
    inputKey call tag50 limit state reply =
      (textWrites (call.cmd 3) tag50.length state.buffer.length, .done (call.cleared (-128))) :=
  if_pos refusal

theorem inputKey_given (given : (cjInput (inputText (call.cmd 3) tag50 state.buffer) reply).1 = .success) :
    inputKey call tag50 limit state reply =
      (textWrites (call.cmd 3) tag50.length state.buffer.length ++
          (behindKey call limit state (keyEffect (call.cmd 3) limit reply.2)).1,
        (behindKey call limit state (keyEffect (call.cmd 3) limit reply.2)).2) := by
  have same := @cjInput_key reply (inputText (call.cmd 3) tag50 state.buffer)
  rw [← same]
  exact if_neg (not_not.mpr given)

end Cyberjack.Eca.KeyInput
