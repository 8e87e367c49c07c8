import Cyberjack.Eca.T0Case2
import Cyberjack.Ppa.T1

namespace Cyberjack.Ppa.T0

open Cyberjack.Foundation Cyberjack.Eca

/-! # T=0 over a CCID reader

`APDU2TPDU_T0` of `cjdata.c`, with one pass for each reply.  Case 4 is the branch of
`_IfdTransmit` but for the class of GET RESPONSE and what is done when the card fails.
-/

/-- What `cjccid_XfrBlock` returns, or the bytes it stores. -/
def cjccid_XfrBlock (reply : Reply) (in_len : Nat) : Except Cjpp (List UInt8) :=
  if reply.res ≠ .success then .error reply.res
  else if reply.bStatus &&& 0x02 ≠ 0 then .error .noIcc
  else if reply.bStatus &&& 0x01 ≠ 0 then .error .noActiveIcc
  else if reply.bStatus = 0x40 then
    .error (if reply.bError = 0xFD then .parity else if reply.bError = 0xFE then .timeout else .len)
  else if in_len < reply.abData.length then .error .rbufferToSmall
  else .ok reply.abData

inductive Event where
  | transmitted (tpdu : List UInt8)
  | iccPowerOff
deriving Repr, DecidableEq

/-- What stands in memory before the call. -/
structure Memory (lenr : UInt16) where
  response : Buffer UInt8 lenr.toNat
  rbuffer : Buffer UInt8 258
  beyond : Int → UInt8

/-- The reply that is awaited. -/
inductive State where
  | single
  | read (header : List UInt8) (Le : UInt8)
  | retry (Le : UInt8) (sbuffer4 : UInt8) (rbuffer : Buffer UInt8 258)
  | case4 (cla le : UInt8) (state : Case4State)

/-- `fault` is an access outside an array. -/
inductive Result (lenr : UInt16) where
  | returned (Result : Cjpp) (response : Buffer UInt8 lenr.toNat) (length : Nat)
  | fault

variable {lenr : UInt16}

abbrev Pass (lenr : UInt16) := List Event × Next State (Result lenr)

/-- The card is switched off where a TPDU fails. -/
def failed (memory : Memory lenr) (result : Cjpp) : Pass lenr :=
  ([.iccPowerOff], .done (.returned result memory.response 0))

/-- The bytes in front of `rbuffer` where the caller has room for them. -/
def deliver (memory : Memory lenr) (rbuffer : Buffer UInt8 258) (rlen : Nat) : Pass lenr :=
  if rlen > lenr.toNat then ([], .done (.returned .rbufferToSmall memory.response 0))
  else
    match rbuffer.load? 0 rlen with
    | none => ([], .done .fault)
    | some bytes =>
        match memory.response.store? 0 bytes with
        | none => ([], .done .fault)
        | some response => ([], .done (.returned .success response rlen))

/-- A reply of two bytes: `*lenr` is two before it is compared. -/
def deliverStatus (memory : Memory lenr) (rbuffer : Buffer UInt8 258) : Pass lenr :=
  match rbuffer.load? 0 2 with
  | none => ([], .done .fault)
  | some bytes =>
      match memory.response.store? 0 bytes with
      | none => ([], .done .fault)
      | some response => ([], .done (.returned .success response 2))

/-- More than is asked for: the status word is copied to the beginning, too. -/
def deliverCut (memory : Memory lenr) (Le sbuffer4 : UInt8) (rbuffer : Buffer UInt8 258) : Pass lenr :=
  if lenr.toNat < 2 + Le.toNat then ([], .done (.returned .rbufferToSmall memory.response 0))
  else
    match rbuffer.load? 0 Le.toNat, rbuffer.load? sbuffer4.toNat 2 with
    | some data, some word =>
        match memory.response.store? 0 data with
        | none => ([], .done .fault)
        | some response =>
            match response.store? 0 word with
            | none => ([], .done .fault)
            | some response => ([], .done (.returned .success response (Le.toNat + 2)))
    | _, _ => ([], .done .fault)

def retried (memory : Memory lenr) (Le sbuffer4 : UInt8) (rbuffer : Buffer UInt8 258) (rlen : Nat) : Pass lenr :=
  if rlen = 2 then deliverStatus memory rbuffer
  else if Le ≠ 0 ∧ sbuffer4 > Le then deliverCut memory Le sbuffer4 rbuffer
  else if lenr.toNat < 2 + sbuffer4.toNat then ([], .done (.returned .rbufferToSmall memory.response 0))
  else deliver memory rbuffer (2 + sbuffer4.toNat)

/-- GET RESPONSE has the class of the command. -/
def eventOf (cla : UInt8) : Eca.Event → Event
  | .transmitted tpdu => .transmitted (cla :: tpdu.tail)
  | .powerDown => .iccPowerOff

/-- A reply that has been received leads to the first two results only. -/
def cjppOf : IfdResult → Cjpp
  | .success => .success
  | .bufferTooSmall => .rbufferToSmall
  | _ => .wrongAnswer

def resultOf : Eca.Outcome lenr.toNat → Result lenr
  | .returned result response length => .returned (cjppOf result) response length
  | .fault => .fault

def passOf (cla le : UInt8) (pass : Eca.Pass lenr.toNat) : Pass lenr :=
  (pass.1.map (eventOf cla),
    match pass.2 with
    | .again state => .again (.case4 cla le state)
    | .done outcome => .done (resultOf outcome))

/-- How many bytes `cjccid_XfrBlock` may store. -/
def State.rlen : State → Nat
  | .case4 _ _ state => state.rlen
  | _ => 258

/-- One pass, behind the call of `cjccid_XfrBlock`. -/
def body (memory : Memory lenr) (state : State) (reply : Reply) : Pass lenr :=
  match cjccid_XfrBlock reply state.rlen with
  | .error result => failed memory result
  | .ok data =>
      match state with
      | .single =>
          match memory.rbuffer.store? 0 data with
          | none => ([], .done .fault)
          | some rbuffer => deliver memory rbuffer data.length
      | .read header Le =>
          match memory.rbuffer.store? 0 data with
          | none => ([], .done .fault)
          | some rbuffer =>
              if data.length = 2 ∧ rbuffer.get 0 = 0x6C then
                ([.transmitted (header ++ [rbuffer.get 1])], .again (.retry Le (rbuffer.get 1) rbuffer))
              else deliver memory rbuffer data.length
      | .retry Le sbuffer4 rbuffer =>
          match rbuffer.store? 0 data with
          | none => ([], .done .fault)
          | some rbuffer => retried memory Le sbuffer4 rbuffer data.length
      | .case4 cla le state => passOf cla le (case4Body memory.beyond le memory.response state (.ofTpdu data))

/-- Case 4: Lc at offset 4 counts the data, and Le follows it. -/
def IsCase4 (cmd : List UInt8) : Prop := cmd.length = 6 + (cmd.getD 4 0).toNat ∧ cmd.getD 4 0 ≠ 0

instance (cmd : List UInt8) : Decidable (IsCase4 cmd) := inferInstanceAs (Decidable (_ ∧ _))

def case4Apdu (cmd : List UInt8) (case4 : IsCase4 cmd) : Case4Apdu := ⟨cmd, case4.1, case4.2⟩

/-- The first TPDU. -/
def opened (memory : Memory lenr) (cmd : List UInt8) : Pass lenr :=
  if cmd.length = 4 then ([.transmitted (cmd ++ [0])], .again .single)
  else if cmd.length = 5 then ([.transmitted cmd], .again (.read (cmd.take 4) (cmd.getD 4 0)))
  else if cmd.length = 5 + (cmd.getD 4 0).toNat ∧ cmd.getD 4 0 ≠ 0 then ([.transmitted cmd], .again .single)
  else if case4 : IsCase4 cmd then
    let start := case4Start (case4Apdu cmd case4) memory.rbuffer
    ([.transmitted start.tpdu], .again (.case4 (cmd.getD 0 0) (case4Apdu cmd case4).le start))
  else ([], .done (.returned .len memory.response lenr.toNat))

abbrev Exchange (lenr : UInt16) := Call State Reply Event (Result lenr)

def APDU2TPDU_T0 (memory : Memory lenr) (cmd : List UInt8) (replies : List Reply) : Exchange lenr :=
  call (body memory) (opened memory cmd) replies

end Cyberjack.Ppa.T0
