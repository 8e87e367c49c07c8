import Cyberjack.Foundation.History

namespace Cyberjack.Ctapi

open Cyberjack.Foundation

/-! # The contexts of the CT-API

`CT_init`, `rsct_init_name`, `CT_data` and `CT_close` of `ctapi.cpp`: the list of
contexts, the count of initialisations and the mutex that guards them.  What the
system and the readers answer comes with the call.
-/

def CT_INVALID_CTN : UInt16 := 0xffff

def CT_API_RV_ERR_INVALID : Int := -1

def CT_API_RV_ERR_MEMORY : Int := -11

def CT_API_AD_CT : UInt8 := 1

def CT_API_AD_DRIVER : UInt8 := 14

/-- The driver of a context; all three pointers are NULL once the device is lost. -/
inductive Driver where
  | reader
  | oldEcom
  | ppa
deriving Repr, DecidableEq

structure Ctapi_Context where
  ctn : UInt16
  port : UInt16
  driver : Option Driver
deriving Repr, DecidableEq

/-- The static variables; `locked` tells whether `ctapi_status_mutex` is held. -/
structure Registry where
  _ctapi_init_count : Int
  ct_context_list : List Ctapi_Context
  locked : Bool
deriving Repr, DecidableEq

def Registry.loaded : Registry := ⟨0, [], false⟩

/-! ## The devices -/

abbrev Text := List Char

structure rsct_usbdev_t where
  busId : UInt32
  busPos : UInt32
  vendorId : UInt32
  productId : UInt32
  port : Int
  serial : Text
  halUDI : Text

/-- What the system and the drivers answer while a reader is opened. -/
structure Surroundings where
  rsct_config_init : Int
  rsct_usbdev_init : Int
  /-- `rsct_config_get_flags() & CT_FLAGS_ECOM_KERNEL` -/
  ecomKernel : Bool
  rsct_usbdev_scan : Int × List rsct_usbdev_t
  rsct_get_serial_for_port : Int → Option Text
  cjecom_CT_initKernel : Int
  cjecom_CT_initUser2 : Int
  /-- `ctapiInit` returned a device. -/
  ctapiInit : Bool
  /-- `Connect` returned `CJ_SUCCESS`. -/
  Connect : Bool
  /-- What the driver returns for GET STATUS 46. -/
  readerInformation : Int

/-- How the library has been built: `ENABLE_NONSERIAL`. -/
abbrev NonSerial := Bool

/-- `%d` -/
def decimal (number : Int) : Text := (toString number).toList

/-- `%0<width>d` and `%0<width>x`; no number is negative here. -/
def padded (base width number : Nat) : Text :=
  let digits := Nat.toDigits base number
  List.replicate (width - digits.length) '0' ++ digits

/-- `/dev/ttyS%d` -/
def createDeviceName (num : Nat) : Text :=
  ['/', 'd', 'e', 'v', '/', 't', 't', 'y', 'S'] ++ decimal num

/-- `/dev/ttyUSB` -/
def ttyUSB : Text := ['/', 'd', 'e', 'v', '/', 't', 't', 'y', 'U', 'S', 'B']

/-- `usb:%04x/%04x:libusb:%03d:%03d` -/
def usbName (d : rsct_usbdev_t) : Text :=
  ['u', 's', 'b', ':'] ++ padded 16 4 d.vendorId.toNat ++ ['/'] ++ padded 16 4 d.productId.toNat ++
    [':', 'l', 'i', 'b', 'u', 's', 'b', ':'] ++ padded 10 3 d.busId.toNat ++ [':'] ++
    padded 10 3 d.busPos.toNat

/-- `strcasecmp(first,second)==0` -/
def SameIgnoringCase (first second : Text) : Prop :=
  first.map Char.toLower = second.map Char.toLower

instance (first second : Text) : Decidable (SameIgnoringCase first second) :=
  inferInstanceAs (Decidable (_ = _))

/-- `strncasecmp(name,start,strlen(start))==0` -/
def StartsWith (name start : Text) : Prop := SameIgnoringCase (name.take start.length) start

instance (name start : Text) : Decidable (StartsWith name start) :=
  inferInstanceAs (Decidable (SameIgnoringCase _ _))

/-- What follows the first place where `strstr` finds a text. -/
def behindText (needle : Text) : Text → Option Text
  | [] => if needle = [] then some [] else none
  | head :: rest =>
      if needle <+: head :: rest then some ((head :: rest).drop needle.length)
      else behindText needle rest

/-- The device for a port number; no result is a return of -127. -/
def nameOfPort (surroundings : Surroundings) (pn : UInt16) : Option Text :=
  let devs := surroundings.rsct_usbdev_scan.2
  if pn ≥ 0xa000 then some (createDeviceName (pn - 0xa000).toNat)
  else if (pn ≥ 0x9000 ∧ pn ≤ 0x9fff) ∨ (pn ≥ 1000 ∧ pn ≤ 1999) then
    let relpn := if pn ≥ 0x9000 then (pn - 0x8fff).toNat else (pn - 999).toNat
    match surroundings.rsct_get_serial_for_port relpn with
    | none => none
    | some serial =>
        (devs.find? fun d => d.vendorId = 0xc4b ∧ d.serial ≠ [] ∧ SameIgnoringCase serial d.serial).map
          usbName
  else if pn ≥ 0x8000 then
    (devs.find? fun d => d.vendorId = 0xc4b ∧ d.port = ((pn - 0x8000).toNat : Int)).map fun _ =>
      ttyUSB ++ decimal (pn - 0x8000).toNat
  else
    ((devs.filter fun d => d.vendorId = 0xc4b)[pn.toNat - 1]?).map fun d =>
      if d.productId = 0x100 ∧ d.port ≠ -1 ∧ surroundings.ecomKernel = true then ttyUSB ++ decimal d.port
      else usbName d

/-- The serial-only library knows the serial ports; a device name is ignored. -/
def serialName (pn : UInt16) : Option Text :=
  if pn = 0 then some []
  else if pn ≥ 0xa000 then some (createDeviceName (pn - 0xa000).toNat)
  else none

/-- The value of a digit. -/
def digitValue (base : Nat) (digit : Char) : Option Nat :=
  let value :=
    if digit.isDigit then some (digit.toNat - '0'.toNat)
    else if 'a' ≤ digit.toLower ∧ digit.toLower ≤ 'f' then some (digit.toLower.toNat - 'a'.toNat + 10)
    else none
  value.filter (· < base)

/-- A number of `sscanf`, `%04x` or `%03d`, and what follows it. -/
def scanNumber (base width : Nat) (text : Text) : Option (Int × Text) :=
  let text := text.dropWhile Char.isWhitespace
  let signed : Bool := text.head? = some '-' ∨ text.head? = some '+'
  let negative : Bool := text.head? = some '-'
  let width := if signed then width - 1 else width
  let text := if signed then text.drop 1 else text
  let marked : Bool := base = 16 ∧ 2 ≤ width ∧ SameIgnoringCase (text.take 2) ['0', 'x']
  let width := if marked then width - 2 else width
  let text := if marked then text.drop 2 else text
  let digits := (text.take width).takeWhile fun digit => (digitValue base digit).isSome
  if digits = [] then none
  else
    let number := digits.foldl (fun sum digit => sum * base + (digitValue base digit).getD 0) 0
    some (if negative then -(number : Int) else number, text.drop digits.length)

/-- Text that `sscanf` has to find as it is. -/
def scanText (expected text : Text) : Option Text :=
  if expected <+: text then some (text.drop expected.length) else none

/-- `sscanf(s,"usb:%04x/%04x:libusb:%03d:%03d",...)==4` -/
def scanUsbName (s : Text) : Option (Int × Int × Int × Int) := do
  let s ← scanText ['u', 's', 'b', ':'] s
  let (vendorId, s) ← scanNumber 16 4 s
  let s ← scanText ['/'] s
  let (productId, s) ← scanNumber 16 4 s
  let s ← scanText [':', 'l', 'i', 'b', 'u', 's', 'b', ':'] s
  let (busId, s) ← scanNumber 10 3 s
  let s ← scanText [':'] s
  let (busPos, _) ← scanNumber 10 3 s
  return (vendorId, productId, busId, busPos)

/-- A name that is neither of libusb nor of HAL finds the first device. -/
def _findUsbDevByName (devs : List rsct_usbdev_t) (s : Text) : Option rsct_usbdev_t :=
  match behindText [':', 'l', 'i', 'b', 'u', 's', 'b', ':'] s with
  | some _ =>
      match scanUsbName s with
      | none => none
      | some (vendorId, productId, busId, busPos) =>
          devs.find? fun d => d.busId.toNat = busId ∧ d.busPos.toNat = busPos ∧
            d.vendorId.toNat = vendorId ∧ d.productId.toNat = productId
  | none =>
      match behindText [':', 'l', 'i', 'b', 'h', 'a', 'l', ':'] s with
      | some t => devs.find? fun d => SameIgnoringCase t d.halUDI
      | none => devs.head?

/-! ## Opening a reader -/

/-- The driver for a device name, or the result for an error. -/
def openDevice (surroundings : Surroundings) (devName : Text) : Except Int Driver :=
  if StartsWith devName ['u', 's', 'b', ':'] then
    if (behindText ['0', 'c', '4', 'b', '/', '0', '1', '0', '0'] devName).isSome then
      if surroundings.ecomKernel = true then
        match _findUsbDevByName surroundings.rsct_usbdev_scan.2 devName with
        | none => .error (-127)
        | some d =>
            if d.port = -1 then .error (-127)
            else if surroundings.cjecom_CT_initKernel ≠ 0 then .error surroundings.cjecom_CT_initKernel
            else .ok .oldEcom
      else if surroundings.cjecom_CT_initUser2 ≠ 0 then .error surroundings.cjecom_CT_initUser2
      else .ok .oldEcom
    else if (behindText ['0', 'c', '4', 'b', '/', '0', '3', '0', '0'] devName).isSome then
      if surroundings.ctapiInit = true then .ok .ppa else .error (-127)
    else if surroundings.Connect = true then .ok .reader
    else .error (-127)
  else if StartsWith devName ttyUSB then
    if surroundings.cjecom_CT_initKernel ≠ 0 then .error surroundings.cjecom_CT_initKernel
    else .ok .oldEcom
  else if surroundings.Connect = true then .ok .reader
  else .error (-127)

/-- `init`; no result is a return of -1. -/
def init (nonSerial : NonSerial) (surroundings : Surroundings) (registry : Registry) : Option Registry :=
  if registry._ctapi_init_count = 0 ∧ (surroundings.rsct_config_init ≠ 0 ∨
      (nonSerial = true ∧ surroundings.rsct_usbdev_init < 0)) then none
  else some { registry with _ctapi_init_count := registry._ctapi_init_count + 1 }

def fini (registry : Registry) : Registry :=
  if registry._ctapi_init_count > 0 then
    { registry with _ctapi_init_count := registry._ctapi_init_count - 1 }
  else registry

def findContextByCtn (registry : Registry) (ctn : UInt16) : Option Ctapi_Context :=
  registry.ct_context_list.find? fun ctx => ctx.ctn = ctn

def findContextByPort (registry : Registry) (pn : UInt16) : Option Ctapi_Context :=
  registry.ct_context_list.find? fun ctx => ctx.port = pn

def addContext (registry : Registry) (ctx : Ctapi_Context) : Registry :=
  { registry with ct_context_list := registry.ct_context_list ++ [ctx] }

/-- `dname`, where there is no port number. -/
def deviceName (nonSerial : NonSerial) (surroundings : Surroundings) (pn : UInt16) (dname : Text) :
    Option Text :=
  if nonSerial = true then if pn ≠ 0 then nameOfPort surroundings pn else some dname
  else serialName pn

/-- The serial-only library drives every device with a `CReader`. -/
def openDriver (nonSerial : NonSerial) (surroundings : Surroundings) (devName : Text) :
    Except Int Driver :=
  if nonSerial = true then openDevice surroundings devName
  else if surroundings.Connect = true then .ok .reader
  else .error (-127)

def _init_common1 (nonSerial : NonSerial) (surroundings : Surroundings) (registry : Registry)
    (ctn pn : UInt16) (dname : Text) : Int × Registry :=
  match init nonSerial surroundings registry with
  | none => (CT_API_RV_ERR_MEMORY, registry)
  | some registry =>
      if nonSerial = true ∧ surroundings.rsct_usbdev_scan.1 < 0 then (-10, fini registry)
      else if ctn = CT_INVALID_CTN then (-127, fini registry)
      else if (findContextByCtn registry ctn).isSome then (-127, fini registry)
      else if pn ≠ 0 ∧ (findContextByPort registry pn).isSome then (-127, fini registry)
      else
        match deviceName nonSerial surroundings pn dname with
        | none => (-127, fini registry)
        | some devName =>
            match openDriver nonSerial surroundings devName with
            | .error rv => (rv, fini registry)
            | .ok driver => (0, addContext registry ⟨ctn, pn, some driver⟩)

/-! ## The calls -/

inductive MutexEvent where
  | lock
  | unlock
deriving Repr, DecidableEq

/-- No result is a call that waits for the mutex for ever. -/
structure Answer where
  returned : Option Int
  events : List MutexEvent
deriving Repr, DecidableEq

/-- The device is lost with every result but three; no two contexts have one `ctn`. -/
def CT_internal (registry : Registry) (ctx : Ctapi_Context) (res : Int) : Int × Registry :=
  if ctx.driver = none then (-127, registry)
  else if res = 0 ∨ res = -1 ∨ res = -11 then (res, registry)
  else
    (res, { registry with
      ct_context_list := registry.ct_context_list.map fun other =>
        if other.ctn = ctx.ctn then { other with driver := none } else other })

/-- `res` is what `CT_special` or the driver returns. -/
def CT_data (registry : Registry) (ctn : UInt16) (dad : UInt8) (cmd_len response_len : UInt16) (res : Int) :
    Int × Registry :=
  match findContextByCtn registry ctn with
  | none => (-128, registry)
  | some ctx =>
      if cmd_len < 4 then (CT_API_RV_ERR_INVALID, registry)
      else if response_len < 2 then (CT_API_RV_ERR_MEMORY, registry)
      else if dad = CT_API_AD_DRIVER then (res, registry)
      else CT_internal registry ctx res

/-- `ct_context_list.remove` takes out the context that was found. -/
def nt_close (registry : Registry) (ctn : UInt16) : Int × Registry :=
  match findContextByCtn registry ctn with
  | none => (-128, registry)
  | some ctx =>
      (if ctx.driver = none then -127 else 0, fini { registry with
        ct_context_list := registry.ct_context_list.eraseP fun other => other.ctn = ctn })

/-- `pthread_mutex_lock`, a body, and `pthread_mutex_unlock`. -/
def locking (registry : Registry) (body : Registry → Answer × Registry) : Answer × Registry :=
  if registry.locked = true then (⟨none, [.lock]⟩, registry)
  else
    let made := body { registry with locked := true }
    match made.1.returned with
    | none => (⟨none, .lock :: made.1.events⟩, made.2)
    | some rv => (⟨some rv, .lock :: made.1.events ++ [.unlock]⟩, { made.2 with locked := false })

def CT_close (registry : Registry) (ctn : UInt16) : Answer × Registry :=
  locking registry fun registry => (⟨some (nt_close registry ctn).1, []⟩, (nt_close registry ctn).2)

/-- A reader that does not tell what it is, is closed again with `CT_close`. -/
def _init_common2 (nonSerial : NonSerial) (surroundings : Surroundings) (registry : Registry)
    (ctn pn : UInt16) (dname : Text) : Answer × Registry :=
  let opened := _init_common1 nonSerial surroundings registry ctn pn dname
  if opened.1 = 0 then
    let told := CT_data opened.2 ctn CT_API_AD_CT 5 300 surroundings.readerInformation
    if told.1 ≠ 0 then
      let closed := CT_close told.2 ctn
      (⟨closed.1.returned.map fun _ => told.1, closed.1.events⟩, closed.2)
    else (⟨some told.1, []⟩, told.2)
  else (⟨some opened.1, []⟩, opened.2)

def CT_init (nonSerial : NonSerial) (surroundings : Surroundings) (registry : Registry)
    (ctn pn : UInt16) : Answer × Registry :=
  if pn = 0 ∨ ctn = CT_INVALID_CTN then (⟨some (-127), []⟩, registry)
  else locking registry fun registry => _init_common2 nonSerial surroundings registry ctn pn []

/-- `devName` is NULL where there is none. -/
def rsct_init_name (nonSerial : NonSerial) (surroundings : Surroundings) (registry : Registry)
    (ctn : UInt16) (devName : Option Text) : Answer × Registry :=
  match devName with
  | none => (⟨some (-127), []⟩, registry)
  | some devName =>
      if ctn = CT_INVALID_CTN then (⟨some (-127), []⟩, registry)
      else locking registry fun registry => _init_common2 nonSerial surroundings registry ctn 0 devName

inductive Request where
  | init (surroundings : Surroundings) (ctn pn : UInt16)
  | initName (surroundings : Surroundings) (ctn : UInt16) (devName : Option Text)
  | data (ctn : UInt16) (dad : UInt8) (cmd_len response_len : UInt16) (res : Int)
  | close (ctn : UInt16)

def ctapiRequest (nonSerial : NonSerial) : Machine Registry Request Answer
  | registry, .init surroundings ctn pn => CT_init nonSerial surroundings registry ctn pn
  | registry, .initName surroundings ctn devName =>
      rsct_init_name nonSerial surroundings registry ctn devName
  | registry, .data ctn dad cmd_len response_len res =>
      (⟨some (CT_data registry ctn dad cmd_len response_len res).1, []⟩,
        (CT_data registry ctn dad cmd_len response_len res).2)
  | registry, .close ctn => CT_close registry ctn

/-! ## What holds of the list -/

/-- The contexts are told apart by `ctn`, and by the port where they have one; the count is theirs. -/
structure Registered (registry : Registry) : Prop where
  ctns : (registry.ct_context_list.map Ctapi_Context.ctn).Nodup
  ports : registry.ct_context_list.Pairwise fun first second => first.port ≠ 0 → first.port ≠ second.port
  counted : registry._ctapi_init_count = registry.ct_context_list.length

variable {nonSerial : NonSerial} {surroundings : Surroundings} {registry : Registry} {ctn pn : UInt16}
  {dname : Text}

theorem findContextByCtn_none :
    findContextByCtn registry ctn = none ↔ ∀ ctx ∈ registry.ct_context_list, ctx.ctn ≠ ctn := by
  simp [findContextByCtn]

theorem findContextByPort_none :
    findContextByPort registry pn = none ↔ ∀ ctx ∈ registry.ct_context_list, ctx.port ≠ pn := by
  simp [findContextByPort]

theorem registered_of_same {other : Registry} (holds : Registered registry)
    (count : other._ctapi_init_count = registry._ctapi_init_count)
    (ctns : other.ct_context_list.map Ctapi_Context.ctn = registry.ct_context_list.map Ctapi_Context.ctn)
    (ports : other.ct_context_list.map Ctapi_Context.port = registry.ct_context_list.map Ctapi_Context.port) :
    Registered other where
  ctns := by
    rw [ctns]
    exact holds.ctns
  ports := by
    have pairs := (List.pairwise_map (f := Ctapi_Context.port) (R := fun a b => a ≠ 0 → a ≠ b)).mpr holds.ports
    rw [← ports] at pairs
    exact List.pairwise_map.mp pairs
  counted := by
    have length := congrArg List.length ctns
    rw [List.length_map, List.length_map] at length
    rw [count, length]
    exact holds.counted

theorem fini_succ (counted : 0 ≤ registry._ctapi_init_count) :
    fini { registry with _ctapi_init_count := registry._ctapi_init_count + 1 } = registry := by
  have positive : registry._ctapi_init_count + 1 > 0 := by omega
  simp only [fini, if_pos positive, Int.add_sub_cancel]

theorem count_nonneg (holds : Registered registry) : 0 ≤ registry._ctapi_init_count := by
  rw [holds.counted]
  exact Int.natCast_nonneg _

/-! ## What a call does -/

/-- A reader is found and opened. -/
structure Opens (nonSerial : NonSerial) (surroundings : Surroundings) (registry : Registry)
    (ctn pn : UInt16) (dname : Text) : Prop where
  initialises : registry._ctapi_init_count = 0 → surroundings.rsct_config_init = 0 ∧
    (nonSerial = true → 0 ≤ surroundings.rsct_usbdev_init)
  scans : nonSerial = true → 0 ≤ surroundings.rsct_usbdev_scan.1
  valid : ctn ≠ CT_INVALID_CTN
  unused : findContextByCtn registry ctn = none
  free : pn ≠ 0 → findContextByPort registry pn = none
  opens : ∃ devName driver, deviceName nonSerial surroundings pn dname = some devName ∧
    openDriver nonSerial surroundings devName = .ok driver

theorem init_eq_some {next : Registry} (initialised : init nonSerial surroundings registry = some next) :
    next = { registry with _ctapi_init_count := registry._ctapi_init_count + 1 } ∧
      (registry._ctapi_init_count = 0 → surroundings.rsct_config_init = 0 ∧
        (nonSerial = true → 0 ≤ surroundings.rsct_usbdev_init)) := by
  rw [init] at initialised
  split at initialised
  · contradiction
  · rename_i works
    cases initialised
    refine ⟨rfl, ?_⟩
    intro first
    rw [not_and, not_or, not_not, not_and, Int.not_lt] at works
    exact works first

/-- No error is told by 0. -/
theorem openDriver_error {devName : Text} {rv : Int}
    (failed : openDriver nonSerial surroundings devName = .error rv) : rv ≠ 0 := by
  simp only [openDriver, openDevice] at failed
  repeat' split at failed
  all_goals cases failed
  all_goals first | assumption | decide

theorem _init_common1_cases (holds : Registered registry) :
    (Opens nonSerial surroundings registry ctn pn dname ∧ ∃ driver,
      _init_common1 nonSerial surroundings registry ctn pn dname = (0, { registry with
        _ctapi_init_count := registry._ctapi_init_count + 1
        ct_context_list := registry.ct_context_list ++ [⟨ctn, pn, some driver⟩] })) ∨
    (¬ Opens nonSerial surroundings registry ctn pn dname ∧ ∃ rv, rv ≠ 0 ∧
      _init_common1 nonSerial surroundings registry ctn pn dname = (rv, registry)) := by
  have back := fini_succ (count_nonneg holds)
  rw [_init_common1]
  cases initialised : init nonSerial surroundings registry with
  | none =>
      refine .inr ⟨?_, CT_API_RV_ERR_MEMORY, by decide, rfl⟩
      intro opens
      rw [init] at initialised
      split at initialised
      · rename_i fails
        have works := opens.initialises fails.1
        rcases fails.2 with config | usbdev
        · exact config works.1
        · have started := works.2 usbdev.1
          omega
      · contradiction
  | some next =>
      obtain ⟨rfl, initialises⟩ := init_eq_some initialised
      simp only [back]
      by_cases unscanned : nonSerial = true ∧ surroundings.rsct_usbdev_scan.1 < 0
      · rw [if_pos unscanned]
        refine .inr ⟨?_, -10, by decide, rfl⟩
        intro opens
        have scans := opens.scans unscanned.1
        omega
      · rw [if_neg unscanned]
        by_cases invalid : ctn = CT_INVALID_CTN
        · rw [if_pos invalid]
          exact .inr ⟨fun opens => opens.valid invalid, -127, by decide, rfl⟩
        · rw [if_neg invalid]
          by_cases used : (findContextByCtn registry ctn).isSome
          · refine .inr ⟨?_, -127, by decide, ?_⟩
            · intro opens
              rw [opens.unused] at used
              contradiction
            · exact if_pos used
          · have unused : findContextByCtn registry ctn = none := by
              rwa [Bool.not_eq_true, Option.isSome_eq_false_iff, Option.isNone_iff_eq_none] at used
            by_cases taken : pn ≠ 0 ∧ (findContextByPort registry pn).isSome
            · refine .inr ⟨?_, -127, by decide, ?_⟩
              · intro opens
                rw [opens.free taken.1] at taken
                exact absurd taken.2 (by decide)
              · exact (if_neg used).trans (if_pos taken)
            · have free : pn ≠ 0 → findContextByPort registry pn = none := by
                intro numbered
                have absent : ¬ (findContextByPort registry pn).isSome = true := fun found => taken ⟨numbered, found⟩
                rwa [Bool.not_eq_true, Option.isSome_eq_false_iff, Option.isNone_iff_eq_none] at absent
              have reached (result : Int × Registry) : (if (findContextByCtn { registry with
                  _ctapi_init_count := registry._ctapi_init_count + 1 } ctn).isSome = true then (-127, registry)
                else if pn ≠ 0 ∧ (findContextByPort { registry with
                  _ctapi_init_count := registry._ctapi_init_count + 1 } pn).isSome = true then (-127, registry)
                else result) = result := (if_neg used).trans (if_neg taken)
              rw [reached]
              cases named : deviceName nonSerial surroundings pn dname with
              | none =>
                  refine .inr ⟨?_, -127, by decide, rfl⟩
                  intro opens
                  obtain ⟨devName, _, found, _⟩ := opens.opens
                  rw [named] at found
                  contradiction
              | some devName =>
                  simp only
                  cases driven : openDriver nonSerial surroundings devName with
                  | error rv =>
                      refine .inr ⟨?_, rv, openDriver_error driven, rfl⟩
                      intro opens
                      obtain ⟨devName', driver, found, works⟩ := opens.opens
                      rw [named, Option.some.injEq] at found
                      rw [← found, driven] at works
                      contradiction
                  | ok driver =>
                      refine .inl ⟨?_, driver, rfl⟩
                      exact {
                        initialises := initialises
                        scans := by
                          intro built
                          have scanned : ¬ surroundings.rsct_usbdev_scan.1 < 0 := fun failed =>
                            unscanned ⟨built, failed⟩
                          omega
                        valid := invalid
                        unused := unused
                        free := free
                        opens := ⟨devName, driver, named, driven⟩ }

theorem registered_opened (holds : Registered registry) (unused : findContextByCtn registry ctn = none)
    (free : pn ≠ 0 → findContextByPort registry pn = none) (driver : Option Driver) :
    Registered { registry with
      _ctapi_init_count := registry._ctapi_init_count + 1
      ct_context_list := registry.ct_context_list ++ [⟨ctn, pn, driver⟩] } where
  ctns := by
    rw [List.map_append, List.map_singleton, List.nodup_append]
    refine ⟨holds.ctns, List.pairwise_singleton _ _, ?_⟩
    intro used listed last member same
    obtain ⟨ctx, present, named⟩ := List.mem_map.mp listed
    rw [List.mem_singleton.mp member] at same
    exact findContextByCtn_none.mp unused ctx present (named.trans same)
  ports := by
    rw [List.pairwise_append]
    refine ⟨holds.ports, List.pairwise_singleton _ _, ?_⟩
    intro ctx listed last member
    rw [List.mem_singleton.mp member]
    intro numbered same
    have port : pn ≠ 0 := by
      intro zero
      exact numbered (same.trans zero)
    exact findContextByPort_none.mp (free port) ctx listed same
  counted := by
    have counted := holds.counted
    simp only [List.length_append, List.length_singleton]
    push_cast
    omega

/-- Only the driver of a context changes. -/
theorem CT_internal_registered (holds : Registered registry) (ctx : Ctapi_Context) (res : Int) :
    Registered (CT_internal registry ctx res).2 ∧ (CT_internal registry ctx res).2.locked = registry.locked := by
  rw [CT_internal]
  split
  · exact ⟨holds, rfl⟩
  · split
    · exact ⟨holds, rfl⟩
    · refine ⟨registered_of_same holds rfl ?_ ?_, rfl⟩
      · rw [List.map_map]
        apply List.map_congr_left
        intro other _
        rw [Function.comp_apply]
        split
        · rfl
        · rfl
      · rw [List.map_map]
        apply List.map_congr_left
        intro other _
        rw [Function.comp_apply]
        split
        · rfl
        · rfl

theorem CT_data_registered (holds : Registered registry) (ctn : UInt16) (dad : UInt8)
    (cmd_len response_len : UInt16) (res : Int) :
    Registered (CT_data registry ctn dad cmd_len response_len res).2 ∧
      (CT_data registry ctn dad cmd_len response_len res).2.locked = registry.locked := by
  rw [CT_data]
  split
  · exact ⟨holds, rfl⟩
  · split
    · exact ⟨holds, rfl⟩
    · split
      · exact ⟨holds, rfl⟩
      · split
        · exact ⟨holds, rfl⟩
        · exact CT_internal_registered holds _ res

/-- The context that is found is taken out, and one initialisation with it. -/
theorem nt_close_registered (holds : Registered registry) (ctn : UInt16) :
    Registered (nt_close registry ctn).2 ∧ (nt_close registry ctn).2.locked = registry.locked := by
  rw [nt_close]
  cases found : findContextByCtn registry ctn with
  | none => exact ⟨holds, rfl⟩
  | some ctx =>
      have member : ctx ∈ registry.ct_context_list := List.mem_of_find?_eq_some found
      have named : ctx.ctn = ctn := by
        have picked := List.find?_some found
        exact of_decide_eq_true picked
      have length := List.length_eraseP_of_mem (p := fun other : Ctapi_Context => other.ctn = ctn) member
        (decide_eq_true named)
      have some : 0 < registry.ct_context_list.length := List.length_pos_of_mem member
      have counted := holds.counted
      have positive : registry._ctapi_init_count > 0 := by omega
      have kept := List.eraseP_sublist (p := fun other : Ctapi_Context => decide (other.ctn = ctn))
        (l := registry.ct_context_list)
      rw [fini, if_pos positive]
      refine ⟨?_, rfl⟩
      exact {
        ctns := holds.ctns.sublist (kept.map _)
        ports := holds.ports.sublist kept
        counted := by
          simp only [length]
          omega }

/-! ## One call -/

/-- Whether the mutex is held behind some events; no result is a lock of a mutex that the
caller holds, or an unlock of one that it does not hold. -/
def mutexAfter : Bool → List MutexEvent → Option Bool
  | held, [] => some held
  | false, .lock :: rest => mutexAfter true rest
  | true, .unlock :: rest => mutexAfter false rest
  | _, _ => none

/-- What the registry promises of one call. -/
structure RegistryKept (entry : Entry Registry Request Answer) : Prop where
  registered : Registered entry.after
  released : entry.after.locked = false
  returned : entry.answer.returned.isSome = true
  guarded : mutexAfter false entry.answer.events = some false

/-- A reader that is opened tells what it is. -/
def RegistryAllowed (nonSerial : NonSerial) (registry : Registry) : Request → Prop
  | .init surroundings ctn pn =>
      pn ≠ 0 → Opens nonSerial surroundings registry ctn pn [] → surroundings.readerInformation = 0
  | .initName surroundings ctn devName => ∀ dname, devName = some dname →
      Opens nonSerial surroundings registry ctn 0 dname → surroundings.readerInformation = 0
  | .data _ _ _ _ _ => True
  | .close _ => True

theorem registered_locked (holds : Registered registry) (locked : Bool) :
    Registered { registry with locked } :=
  ⟨holds.ctns, holds.ports, holds.counted⟩

theorem locking_kept {body : Registry → Answer × Registry} {request : Request} (free : registry.locked = false)
    {rv : Int} {after : Registry} (made : body { registry with locked := true } = (⟨some rv, []⟩, after))
    (holds : Registered after) :
    RegistryKept ⟨registry, request, (locking registry body).1, (locking registry body).2⟩ := by
  have unlocked : ¬ registry.locked = true := by
    rw [free]
    decide
  simp only [locking, if_neg unlocked, made]
  exact ⟨registered_locked holds false, rfl, rfl, rfl⟩

theorem locking_waits {body : Registry → Answer × Registry} {request : Request} (free : registry.locked = false)
    (waits : (body { registry with locked := true }).1.returned = none) :
    ¬ RegistryKept ⟨registry, request, (locking registry body).1, (locking registry body).2⟩ := by
  have unlocked : ¬ registry.locked = true := by
    rw [free]
    decide
  simp only [locking, if_neg unlocked, waits]
  intro kept
  have returned : (none : Option Int).isSome = true := kept.returned
  contradiction

theorem CT_data_opened (unused : findContextByCtn registry ctn = none) (driver : Driver) (count res : Int) :
    CT_data { registry with
        _ctapi_init_count := count
        ct_context_list := registry.ct_context_list ++ [⟨ctn, pn, some driver⟩] } ctn CT_API_AD_CT 5 300 res =
      CT_internal { registry with
        _ctapi_init_count := count
        ct_context_list := registry.ct_context_list ++ [⟨ctn, pn, some driver⟩] } ⟨ctn, pn, some driver⟩ res := by
  have found : findContextByCtn { registry with
      _ctapi_init_count := count
      ct_context_list := registry.ct_context_list ++ [⟨ctn, pn, some driver⟩] } ctn =
        some ⟨ctn, pn, some driver⟩ := by
    rw [findContextByCtn] at unused ⊢
    rw [List.find?_append, unused]
    simp
  rw [CT_data, found]
  rfl

/-- With the mutex held an opening returns exactly where the reader tells what it is. -/
theorem _init_common2_cases (holds : Registered registry) (held : registry.locked = true) :
    (∃ rv after, _init_common2 nonSerial surroundings registry ctn pn dname = (⟨some rv, []⟩, after) ∧
      Registered after ∧ (Opens nonSerial surroundings registry ctn pn dname →
        surroundings.readerInformation = 0)) ∨
    ((_init_common2 nonSerial surroundings registry ctn pn dname).1.returned = none ∧
      Opens nonSerial surroundings registry ctn pn dname ∧ surroundings.readerInformation ≠ 0) := by
  rcases @_init_common1_cases nonSerial surroundings registry ctn pn dname holds with opened | failed
  · obtain ⟨opens, driver, made⟩ := opened
    have added := registered_opened holds opens.unused opens.free (some driver)
    simp only [_init_common2, made, if_true, CT_data_opened opens.unused driver]
    by_cases told : surroundings.readerInformation = 0
    · refine .inl ⟨0, _, ?_, added, fun _ => told⟩
      simp [CT_internal, told]
    · refine .inr ⟨?_, opens, told⟩
      have internal := CT_internal_registered added ⟨ctn, pn, some driver⟩ surroundings.readerInformation
      have result : (CT_internal { registry with
          _ctapi_init_count := registry._ctapi_init_count + 1
          ct_context_list := registry.ct_context_list ++ [⟨ctn, pn, some driver⟩] } ⟨ctn, pn, some driver⟩
            surroundings.readerInformation).1 = surroundings.readerInformation := by
        rw [CT_internal]
        simp only [reduceCtorEq, if_false]
        split
        · rfl
        · rfl
      rw [result, if_pos told, CT_close, locking, if_pos (internal.2.trans held)]
      rfl
  · obtain ⟨closed, rv, nonzero, made⟩ := failed
    refine .inl ⟨rv, registry, ?_, holds, fun opens => absurd opens closed⟩
    simp only [_init_common2, made, if_neg nonzero]

theorem opens_locked (locked : Bool) :
    Opens nonSerial surroundings { registry with locked } ctn pn dname ↔
      Opens nonSerial surroundings registry ctn pn dname :=
  ⟨fun opens => ⟨opens.initialises, opens.scans, opens.valid, opens.unused, opens.free, opens.opens⟩,
    fun opens => ⟨opens.initialises, opens.scans, opens.valid, opens.unused, opens.free, opens.opens⟩⟩

theorem opening_kept (holds : Registered registry) (free : registry.locked = false) (request : Request) :
    RegistryKept ⟨registry, request,
        (locking registry fun registry => _init_common2 nonSerial surroundings registry ctn pn dname).1,
        (locking registry fun registry => _init_common2 nonSerial surroundings registry ctn pn dname).2⟩ ↔
      (Opens nonSerial surroundings registry ctn pn dname → surroundings.readerInformation = 0) := by
  rcases @_init_common2_cases nonSerial surroundings _ ctn pn dname (registered_locked holds true) rfl with
    returns | waits
  · obtain ⟨rv, after, made, registered, told⟩ := returns
    exact iff_of_true (locking_kept free made registered) fun opens => told ((opens_locked true).mpr opens)
  · obtain ⟨never, opens, untold⟩ := waits
    exact iff_of_false (locking_waits free never) fun told => untold (told ((opens_locked true).mp opens))

theorem registryKept_returned (holds : Registered registry) (free : registry.locked = false)
    (before : Registry) (request : Request) (rv : Int) :
    RegistryKept ⟨before, request, ⟨some rv, []⟩, registry⟩ :=
  ⟨holds, free, rfl, rfl⟩

theorem registryKept_iff (holds : Registered registry ∧ registry.locked = false) (request : Request) :
    RegistryKept ((ctapiRequest nonSerial).entry registry request) ↔
      RegistryAllowed nonSerial registry request := by
  obtain ⟨registered, free⟩ := holds
  cases request with
  | init surroundings ctn pn =>
      simp only [Machine.entry, ctapiRequest, CT_init, RegistryAllowed]
      by_cases invalid : pn = 0 ∨ ctn = CT_INVALID_CTN
      · rw [if_pos invalid]
        refine iff_of_true (registryKept_returned registered free _ _ _) ?_
        intro numbered opens
        rcases invalid with zero | invalid
        · exact absurd zero numbered
        · exact absurd invalid opens.valid
      · rw [if_neg invalid, opening_kept registered free]
        have numbered : pn ≠ 0 := fun zero => invalid (.inl zero)
        exact ⟨fun told _ => told, fun told => told numbered⟩
  | initName surroundings ctn devName =>
      simp only [Machine.entry, ctapiRequest, rsct_init_name, RegistryAllowed]
      cases devName with
      | none => exact iff_of_true (registryKept_returned registered free _ _ _) (by simp)
      | some dname =>
          simp only [Option.some.injEq, forall_eq']
          by_cases invalid : ctn = CT_INVALID_CTN
          · rw [if_pos invalid]
            exact iff_of_true (registryKept_returned registered free _ _ _) fun opens =>
              absurd invalid opens.valid
          · rw [if_neg invalid, opening_kept registered free]
  | data ctn dad cmd_len response_len res =>
      have kept := CT_data_registered registered ctn dad cmd_len response_len res
      exact iff_of_true (registryKept_returned kept.1 (kept.2.trans free) _ _ _) trivial
  | close ctn =>
      have kept := nt_close_registered (registered_locked registered true) ctn
      exact iff_of_true (locking_kept free rfl kept.1) trivial

/-- In every sequence of calls the registry is kept exactly when every reader that is opened
tells what it is. -/
theorem registry_kept_iff (nonSerial : NonSerial) (requests : List Request) :
    (∀ entry ∈ history (ctapiRequest nonSerial) .loaded requests, RegistryKept entry) ↔
      Keeps (RegistryAllowed nonSerial) (history (ctapiRequest nonSerial) .loaded requests) := by
  have start : Registered .loaded ∧ Registry.loaded.locked = false :=
    ⟨⟨List.nodup_nil, List.Pairwise.nil, rfl⟩, rfl⟩
  refine history_iff (fun _ request holds => registryKept_iff holds request) ?_ start requests
  intro registry request holds allowed
  have kept := (registryKept_iff holds request).mpr allowed
  exact ⟨kept.registered, kept.released⟩

/-- A reader on a serial port that does not answer GET STATUS. -/
def silentReader : Surroundings where
  rsct_config_init := 0
  rsct_usbdev_init := 0
  ecomKernel := false
  rsct_usbdev_scan := (0, [])
  rsct_get_serial_for_port := fun _ => none
  cjecom_CT_initKernel := 0
  cjecom_CT_initUser2 := 0
  ctapiInit := true
  Connect := true
  readerInformation := -128

theorem silentReader_not_kept :
    ¬ ∀ entry ∈ history (ctapiRequest true) .loaded [.init silentReader 1 0xa000], RegistryKept entry := by
  intro kept
  have returned := (kept _ List.mem_cons_self).returned
  revert returned
  decide

end Cyberjack.Ctapi
