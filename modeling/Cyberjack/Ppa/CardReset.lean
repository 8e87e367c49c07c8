import Cyberjack.Ppa.I2c
import Cyberjack.Ppa.T0

namespace Cyberjack.Ppa.Reset

open Cyberjack.Foundation Cyberjack.Eca

/-! # Resetting a card

`ctBcsReset` of `cjdata.c`.  The reader is the environment: a pass takes the reply to the message
sent before it.  The replies to a power off that is not looked at are left out.
-/

/-- What `hist` points to. -/
inductive HistPointer where
  | ATR
  | atr (offset : Nat)
deriving Repr, DecidableEq

structure Device where
  handle : Handle
  sync : SyncDevice
deriving DecidableEq

/-- The locals that outlive a pass of the loop. -/
structure Locals where
  atr : Buffer UInt8 260
  len : Nat
  hist : HistPointer
  hist_len : UInt8
  device : Device

inductive Event where
  | iccPowerOn
  | iccPowerOff
  | setParameters (ProtocolNum FI_DI EDC GuardTime WaitingInteger : UInt8)
  | transmitted (block : List UInt8)
deriving Repr, DecidableEq

/-! ## The length of the ATR -/

/-- What the loop of `check_len` leaves; `historical` is the offset where it is set. -/
structure Walk where
  historical : Option Nat
  len : UInt8
  t1 : Bool
deriving Repr, DecidableEq

/-- The loop of `check_len`, with no result where `atr` is read behind its end.  `ptr` grows in
every pass that goes on, so 260 passes lead behind the end. -/
def walk (atr : Buffer UInt8 260) (buf_len : Nat) : Nat → Nat → UInt8 → Bool → Option Walk
  | 0, _, _, _ => none
  | passes + 1, ptr, len, t1 =>
      if ptr < 260 then
        let v := GetBits (atr.get ptr &&& 0xf0)
        let len := len + UInt8.ofNat v
        if buf_len ≥ len.toNat ∧ atr.get ptr &&& 0x80 ≠ 0 then
          if t1 = true ∨ ptr + v < 260 then
            let t1 := t1 || atr.get (ptr + v) &&& 0x0f != 0
            if buf_len > len.toNat then walk atr buf_len passes (ptr + v) len t1
            else some ⟨none, len, t1⟩
          else none
        else some ⟨some (ptr + v + 1), len, t1⟩
      else none

/-- The result of `check_len` and what it stores. -/
structure Checked where
  code : Nat
  historical : Option Nat
  hist_len : UInt8
deriving Repr, DecidableEq

def check_len (atr : Buffer UInt8 260) (buf_len : Nat) : Option Checked :=
  let hist_len := atr.get 1 &&& 0x0f
  match walk atr buf_len 260 1 0 false with
  | none => none
  | some walked =>
      let len1 := hist_len + 2 + (if walked.t1 then 1 else 0)
      let code :=
        if walked.t1 then if xorSum ((atr.cells.take buf_len).drop 1) ≠ 0 then 0 else 1
        else if buf_len ≠ walked.len.toNat + len1.toNat then 2
        else 1
      some ⟨code, walked.historical, hist_len⟩

/-! ## The interface bytes -/

/-- The values that a pass of the loop takes from the ATR. -/
structure Scan where
  TA1 : UInt8
  TC1 : UInt8
  TC2 : UInt8
  TA3 : UInt8
  TB3 : UInt8
  TC3 : UInt8
  specific : Bool
  hasTA1 : Bool
  protocol : Nat
  error : Bool
deriving Repr, DecidableEq

/-- A byte that is there if its bit is set, and `ptr` behind it. -/
def present (atr : Buffer UInt8 260) (Dx mask : UInt8) (ptr : Nat) : Option UInt8 × Nat :=
  if Dx &&& mask ≠ 0 then (some (atr.get ptr), ptr + 1) else (none, ptr)

/-- The bytes for T=1 behind TD2. -/
def scanT1 (atr : Buffer UInt8 260) (Dx : UInt8) (ptr : Nat) (scan : Scan) : Scan :=
  let (TA3, ptr) := present atr Dx 0x10 ptr
  let (TB3, ptr) := present atr Dx 0x20 ptr
  let (TC3, _) := present atr Dx 0x40 ptr
  { scan with
    TA3 := TA3.getD scan.TA3
    TB3 := TB3.getD scan.TB3
    TC3 := TC3.getD scan.TC3
    error := scan.error || TA3.any (fun TA3 => TA3 < 0x10 || TA3 == 0xff) || TB3.isNone || TC3.any (· != 0) }

/-- The bytes behind TD1, which is `Dx`. -/
def scanSecond (atr : Buffer UInt8 260) (Dx : UInt8) (ptr : Nat) (scan : Scan) : Scan :=
  let protocol := 1 <<< (Dx &&& 0x0f).toNat
  let (TA2, ptr) := present atr Dx 0x10 ptr
  let (TB2, ptr) := present atr Dx 0x20 ptr
  let (TC2, ptr) := present atr Dx 0x40 ptr
  let (TD2, ptr) := present atr Dx 0x80 ptr
  let scan := { scan with
    protocol
    specific := TA2.isSome
    TC2 := TC2.getD scan.TC2
    error := scan.error || Dx &&& 0x0f > 1 || TA2.any (· &&& 0x10 != 0) || TB2.isSome || TC2.any (· == 0) }
  match TD2 with
  | none => { scan with error := scan.error || protocol &&& 2 != 0 }
  | some Dx =>
      let scan := { scan with
        error := scan.error || (Dx &&& 0x0f != 1 && (protocol != 1 || Dx &&& 0x0e != 0x0e))
        protocol := protocol ||| 1 <<< (Dx &&& 0x0f).toNat }
      if Dx &&& 0x0f = 1 then scanT1 atr Dx ptr scan else scan

/-- The ATR behind TS; in a cold reset TB1 has to be there and zero. -/
def scanATR (atr : Buffer UInt8 260) (warm : Bool) : Scan :=
  let Dx := atr.get 1
  let (TA1, ptr) := present atr Dx 0x10 2
  let (TB1, ptr) := present atr Dx 0x20 ptr
  let (TC1, ptr) := present atr Dx 0x40 ptr
  let (TD1, ptr) := present atr Dx 0x80 ptr
  let scan : Scan := {
    TA1 := TA1.getD 0x11
    TC1 := TC1.getD 0
    TC2 := 10
    TA3 := 0x20
    TB3 := 0x45
    TC3 := 0
    specific := false
    hasTA1 := TA1.isSome
    protocol := 1
    error := !warm && TB1 != some 0 }
  match TD1 with
  | none => scan
  | some Dx => scanSecond atr Dx ptr scan

/-! ## The messages -/

/-- What `cjccid_iccPowerOn` returns, or the ATR. -/
def cjccid_iccPowerOn (reply : Reply) : Except Cjpp (List UInt8) :=
  if reply.res ≠ .success then .error reply.res
  else if reply.bStatus = 0x42 then .error .noIcc
  else if reply.bStatus = 0x41 then
    .error (if reply.bError = 0xFD then .parity else if reply.bError = 0xFE then .timeout else .openIcc)
  else .ok reply.abData

def cjccid_SetParameters (reply : Reply) : Cjpp :=
  if reply.res ≠ .success then reply.res
  else if reply.bStatus = 0x42 then .noIcc
  else if reply.bStatus = 0x41 then .noActiveIcc
  else .success

/-- The reply that is awaited; `powerOff` is the one in front of a return with `result`. -/
inductive State where
  | powerOn (warm : Bool) (locals : Locals)
  | powerOff (result : Cjpp) (locals : Locals)
  | setParameters (scan : Scan) (locals : Locals)
  | pps (scan : Scan) (locals : Locals)
  | lowered (scan : Scan) (locals : Locals)
  | ifs (error : Nat) (scan : Scan) (locals : Locals)

/-- The arrays of the caller; its array for historical bytes has room for all there can be. -/
structure Caller (ATR_len : UInt8) where
  ATR : Buffer UInt8 ATR_len.toNat
  historical : Buffer UInt8 15

/-- `fault` is an access outside an array. -/
inductive Result (ATR_len : UInt8) where
  | returned (result : Cjpp) (caller : Caller ATR_len) (length : UInt8) (hist_len : UInt8) (device : Device)
  | fault

variable {ATR_len : UInt8}

abbrev Pass (ATR_len : UInt8) := List Event × Next State (Result ATR_len)

def failure (caller : Caller ATR_len) (result : Cjpp) (locals : Locals) : Pass ATR_len :=
  ([], .done (.returned result caller ATR_len locals.hist_len locals.device))

/-- `CJPP_TEST(cjccid_iccPowerOff(hDevice)); return result;` -/
def switchedOff (result : Cjpp) (locals : Locals) : Pass ATR_len := ([.iccPowerOff], .again (.powerOff result locals))

/-- The bytes from `hist` on, once the ATR has been copied. -/
def Locals.historical (locals : Locals) (ATR : Buffer UInt8 ATR_len.toNat) : Option (List UInt8) :=
  if locals.hist_len = 0 then some []
  else
    match locals.hist with
    | .ATR => ATR.load? 0 locals.hist_len.toNat
    | .atr offset => locals.atr.load? offset locals.hist_len.toNat

/-- Both copies for the caller. -/
def deliver (caller : Caller ATR_len) (locals : Locals) : Pass ATR_len :=
  if ATR_len.toNat < locals.len then failure caller .rbufferToSmall locals
  else
    match locals.atr.load? 0 locals.len with
    | none => ([], .done .fault)
    | some bytes =>
        match caller.ATR.store? 0 bytes with
        | none => ([], .done .fault)
        | some ATR =>
            match locals.historical ATR with
            | none => ([], .done .fault)
            | some bytes =>
                match caller.historical.store? 0 bytes with
                | none => ([], .done .fault)
                | some historical =>
                    ([], .done (.returned .success ⟨ATR, historical⟩ (UInt8.ofNat locals.len) locals.hist_len locals.device))

/-- `SetParameters` for the protocol that has been chosen. -/
def parameters (scan : Scan) : Event :=
  let t0 := scan.protocol &&& 1 ≠ 0
  .setParameters (if t0 then 0 else 1) scan.TA1 0 scan.TC1 (if t0 then scan.TC2 else scan.TB3)

/-- A factor of 32 is too fast but for T=1 with 0x96. -/
def slowed (scan : Scan) : Scan :=
  if scan.TA1 &&& 0x0f = 0x06 ∧ (scan.TA1 ≠ 0x96 ∨ scan.protocol &&& 1 ≠ 0 ∨ scan.TC1 = 0xff) then
    { scan with TA1 := (scan.TA1 &&& 0xf0) ||| 0x05 }
  else scan

/-- The request for the parameters in TA1. -/
def ppsRequest (scan : Scan) : List UInt8 :=
  let protocol : UInt8 := if scan.protocol &&& 1 ≠ 0 then 0x10 else 0x11
  [0xff, protocol, scan.TA1, 0xff ^^^ scan.TA1 ^^^ protocol]

/-- The card has refused the request, or sent something else. -/
def ppsRefused (scan : Scan) (rbuffer : List UInt8) : Prop :=
  let at' := fun index => rbuffer.getD index 0
  rbuffer.length < 3 ∨ at' 0 ≠ 0xff ∨ at' 1 &&& 0x0f ≠ (ppsRequest scan).getD 1 0 &&& 0x0f ∨
    (rbuffer.length = 3 ∧ (at' 1 &&& 0xf0 ≠ 0 ∨ 0xff ^^^ at' 1 ≠ at' 2)) ∨
    (rbuffer.length = 4 ∧ (at' 1 &&& 0xf0 ≠ 0x10 ∨ 0xff ^^^ at' 1 ^^^ at' 2 ≠ at' 3))

instance (scan : Scan) (rbuffer : List UInt8) : Decidable (ppsRefused scan rbuffer) := by
  unfold ppsRefused
  infer_instance

def ifsRequest : List UInt8 := [0x00, 0xC1, 0x01, 0xfe, 0x3e]

def ifsResponse : List UInt8 := [0x00, 0xE1, 0x01, 0xfe, 0x1e]

/-- The parameters are in force: T=1 goes on with the length of its blocks. -/
def established (caller : Caller ATR_len) (scan : Scan) (locals : Locals) : Pass ATR_len :=
  let chosen (Protokoll : Nat) : Locals :=
    { locals with device := { locals.device with sync := { locals.device.sync with Protokoll } } }
  if scan.protocol &&& 1 ≠ 0 then deliver caller (chosen 0)
  else ([.transmitted ifsRequest], .again (.ifs 0 scan (chosen 1)))

/-! ## The passes -/

/-- An ATR that a warm reset may improve. -/
def refused (warm : Bool) (locals : Locals) : Pass ATR_len :=
  if warm then ([.iccPowerOff, .iccPowerOn], .again (.powerOn true locals))
  else ([.iccPowerOn], .again (.powerOn true locals))

def accepted (scan : Scan) (locals : Locals) : Pass ATR_len :=
  ([parameters (slowed scan)], .again (.setParameters (slowed scan) locals))

def asynchronous (warm : Bool) (locals : Locals) : Pass ATR_len :=
  match check_len locals.atr locals.len with
  | none => ([], .done .fault)
  | some checked =>
      let hist :=
        match checked.historical with
        | some offset => .atr offset
        | none => locals.hist
      let locals := { locals with hist, hist_len := checked.hist_len }
      if checked.code = 1 then
        let scan := scanATR locals.atr warm
        if scan.error then refused warm locals else accepted scan locals
      else if checked.code = 2 then refused warm locals
      else ([.iccPowerOff, .iccPowerOff], .again (.powerOff .timeout locals))

/-- The protocols of synchronous cards. -/
def syncDevice (first : UInt8) (device : SyncDevice) : SyncDevice :=
  let device := if first = 0xa2 then { device with Protokoll := 10 } else device
  let device := if first = 0x92 then { device with Protokoll := 9 } else device
  if first &&& 0xf0 = 0x80 then
    { Protokoll := 8, iic_pagesize := 1, iic_deviceaddr := 0xa0, iic_offset_bytes := 1 }
  else device

def synchronous (caller : Caller ATR_len) (locals : Locals) : Pass ATR_len :=
  let handle := { locals.device.handle with IFSC := 0 }
  if locals.len ≠ 4 then switchedOff .timeout { locals with device := { locals.device with handle } }
  else deliver caller { locals with device := ⟨handle, syncDevice (locals.atr.get 0) locals.device.sync⟩ }

/-- One pass of the loop. -/
def activated (caller : Caller ATR_len) (warm : Bool) (locals : Locals) (reply : Reply) : Pass ATR_len :=
  match cjccid_iccPowerOn reply with
  | .error _ => switchedOff .timeout { locals with len := 0 }
  | .ok data =>
      match locals.atr.store? 0 data with
      | none => ([], .done .fault)
      | some atr =>
          let locals := { locals with atr, len := data.length }
          if locals.len > 0 ∧ (atr.get 0 = 0x3b ∨ atr.get 0 = 0x3f) then asynchronous warm locals
          else synchronous caller locals

def body (caller : Caller ATR_len) (state : State) (reply : Reply) : Pass ATR_len :=
  match state with
  | .powerOn warm locals => activated caller warm locals reply
  | .powerOff result locals =>
      if reply.res ≠ .success then failure caller reply.res locals else failure caller result locals
  | .setParameters scan locals =>
      if cjccid_SetParameters reply ≠ .success then failure caller (cjccid_SetParameters reply) locals
      else if scan.specific = false ∧ scan.hasTA1 then ([.transmitted (ppsRequest scan)], .again (.pps scan locals))
      else established caller scan locals
  | .pps scan locals =>
      match T0.cjccid_XfrBlock reply 5 with
      | .error _ => switchedOff .timeout locals
      | .ok rbuffer =>
          if ppsRefused scan rbuffer then switchedOff .prot locals
          else if rbuffer.length = 3 then
            let scan := { scan with TA1 := 0x11 }
            ([parameters scan], .again (.lowered scan locals))
          else established caller scan locals
  | .lowered scan locals =>
      if cjccid_SetParameters reply ≠ .success then failure caller (cjccid_SetParameters reply) locals
      else established caller scan locals
  | .ifs error scan locals =>
      let again : Pass ATR_len :=
        if error + 1 < 3 then ([.transmitted ifsRequest], .again (.ifs (error + 1) scan locals))
        else switchedOff .prot locals
      match T0.cjccid_XfrBlock reply 5 with
      | .ok rbuffer =>
          if rbuffer = ifsResponse then
            deliver caller { locals with
              device := { locals.device with handle := ⟨scan.TA3, 0, scan.TC3 &&& 1⟩ } }
          else again
      | .error .parity => again
      | .error .timeout => again
      | .error .len => again
      | .error .rbufferToSmall => again
      | .error _ => failure caller .deviceLost locals

/-- `atr` holds anything before. -/
def start (atr : Buffer UInt8 260) (device : Device) : State := .powerOn false ⟨atr, 260, .ATR, 0, device⟩

abbrev ResetCall (ATR_len : UInt8) := Call State Reply Event (Result ATR_len)

def ctBcsReset (caller : Caller ATR_len) (atr : Buffer UInt8 260) (device : Device) (replies : List Reply) : ResetCall ATR_len :=
  call (body caller) ([.iccPowerOn], .again (start atr device)) replies

end Cyberjack.Ppa.Reset
