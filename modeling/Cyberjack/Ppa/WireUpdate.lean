import Cyberjack.Foundation.Endless
import Cyberjack.Ppa.I2c

namespace Cyberjack.Ppa.WireUpdate

open Cyberjack.Foundation Cyberjack.Eca

/-! # UPDATE BINARY of the 3-wire and 2-wire cards

`SyncInterpreter.c` for the protocols 6 and 7.  Few data are written at once; more of them in a loop that takes
what is left of the first page for the size of all its pieces.
-/

inductive Wire where
  | three
  | two
deriving Repr, DecidableEq

/-- What `S7SyncCommand` is called with. -/
inductive S7Command where
  | select (P1 : UInt8)
  | write (command addr : UInt8) (payload : List UInt8)
deriving Repr, DecidableEq

def S7Command.block : S7Command → List UInt8
  | .select P1 => [0xB2, P1]
  | .write command addr payload => command :: addr :: payload

/-- The return code, or the status word of the response. -/
inductive UpdateEnd where
  | returned (Res : Cjpp)
  | status (Result : Nat)
deriving Repr, DecidableEq

/-- What a pass of the loop begins with; `cmd[3]` is the address of the next piece. -/
structure WriteState where
  cmd3 : Nat
  Rest : Nat
  cmd : Nat → UInt8
  len : Nat
  i : UInt8

/-- The next command for the card. -/
inductive UpdateState where
  | select
  | short
  | chunk (state : WriteState)

namespace Wire

def pageSize : Wire → Nat
  | three => 16
  | two => 8

/-- How the `cmd[3]` of the loop begins. -/
def firstOffset : Wire → UInt8 → UInt8
  | three, P2 => P2 &&& 0x0f
  | two, P2 =>
      let cmd3 := P2 &&& 0x0f
      if cmd3 > 0x08 ∧ cmd3 < 0x11 then cmd3 - 8 else cmd3

end Wire

/-- The command of the card for a block of 64 bytes; other values are left as they are. -/
def blockCommand (P1 : UInt8) : UInt8 :=
  if P1 = 0x00 then 0xB0
  else if P1 = 0x01 then 0xB4
  else if P1 = 0x02 then 0xB8
  else if P1 = 0x03 then 0xBC
  else P1

/-- The command with what protocol 7 stores in it. -/
def adjusted (wire : Wire) (call : SyncCall) : Nat → UInt8 :=
  match wire with
  | .three => call.cmd
  | .two =>
      let cmd :=
        if call.cmd 3 > 0x40 ∧ call.cmd 2 = 0 then stored call.cmd 2 [call.cmd 3 >>> 6, call.cmd 3 &&& 0x3f]
        else call.cmd
      stored cmd 2 [blockCommand (cmd 2)]

def writeCommand (wire : Wire) (call : SyncCall) : UInt8 :=
  match wire with
  | .three => if call.cmd 2 = 0x08 then 0xB4 else 0xB0
  | .two => adjusted .two call 2

def dataLength (call : SyncCall) : Nat := (call.cmd 4).toNat

/-- `while (len)`; a failure in the loop leads to the same status word. -/
def loopHead (state : WriteState) : Next UpdateState UpdateEnd :=
  if state.len = 0 then .done (.status 0x9000) else .again (.chunk state)

/-- How the data are written. -/
def writeHead (wire : Wire) (call : SyncCall) : Next UpdateState UpdateEnd :=
  if dataLength call < wire.pageSize + 1 then .again .short
  else
    loopHead ⟨(wire.firstOffset (adjusted wire call 3)).toNat, wire.pageSize, adjusted wire call, dataLength call, 5⟩

/-- Behind the command that selects a page. -/
def behindSelect (call : SyncCall) : Next UpdateState UpdateEnd :=
  if call.cmd 2 > 0x08 then .done (.status 0x6A00) else writeHead .three call

def opening (wire : Wire) (call : SyncCall) : Next UpdateState UpdateEnd :=
  if call.cmd 0 ≠ 0 then .done (.status 0x6E00)
  else if call.lenc ≠ 5 + dataLength call then .done (.status 0x6700)
  else
    match wire with
    | .three => if call.cmd 2 ≠ 0x08 then .again .select else behindSelect call
    | .two => writeHead .two call

/-- A command for the card, and what follows from its result. -/
def updateBody (wire : Wire) (call : SyncCall) : Body UpdateState Reply S7Command UpdateEnd := fun state reply =>
  let Res := transferred reply 0
  match state with
  | .select =>
      ([.select (call.cmd 2)], if Res ≠ .success then .done (.returned Res) else behindSelect call)
  | .short =>
      let cmd := adjusted wire call
      ([.write (writeCommand wire call) (cmd 3) (bytesAt cmd 5 (dataLength call))],
        if Res ≠ .success then .done (.returned Res) else .done (.status 0x9000))
  | .chunk state =>
      let Rest := min state.Rest state.len - state.cmd3
      ([.write (writeCommand wire call) (state.cmd 3) (bytesAt state.cmd state.i.toNat Rest)],
        -- 6F 00 is stored in front of the `break`, and 90 00 behind the loop
        if Res ≠ .success then .done (.status 0x9000)
        else
          loopHead ⟨0, Rest, stored state.cmd 3 [state.cmd 3 + UInt8.ofNat Rest], state.len - Rest,
            state.i + UInt8.ofNat Rest⟩)

/-- UPDATE BINARY in `SyncInterpreter`. -/
def updateBinary (wire : Wire) (call : SyncCall) (replies : List Reply) :
    Call UpdateState Reply S7Command UpdateEnd :=
  Foundation.call (updateBody wire call) ([], opening wire call) replies

end Cyberjack.Ppa.WireUpdate
