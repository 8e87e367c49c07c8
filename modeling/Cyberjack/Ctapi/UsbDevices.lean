import Cyberjack.Ctapi.Registry
import Cyberjack.Foundation.ChainedList
import Cyberjack.Foundation.Refinement

namespace Cyberjack.Ctapi.Usb

open Foundation Foundation.Chain

/-! # The list of USB devices

`rsct_usbdev_scan` chains the cyberJack readers it finds on the bus.  A look-up
takes one device out of the list and frees the others.  `createDeviceName` frees
the device as well; `Open` and `BuildReaderObject` forget it.
-/

structure rsct_usbdev_t extends Ctapi.rsct_usbdev_t where
  path : Text
  halPath : Text
  productName : Text

abbrev Nodes := HeapM (Link rsct_usbdev_t)

structure Descriptor where
  idVendor : UInt16
  idProduct : UInt16
deriving Repr, DecidableEq

/-- A device of the bus, with what `libusb` answers for it. -/
structure libusb_device where
  libusb_get_device_descriptor : Option Descriptor
  libusb_get_bus_number : UInt8
  libusb_get_device_address : UInt8
  /-- The texts for `iProduct` and `iSerialNumber`, where the device can be opened. -/
  libusb_open : Option (Option Text × Option Text)
deriving Repr, DecidableEq

/-- No bus stands for an `ausb_libusb1_init` that fails. -/
abbrev Bus := Option (List libusb_device)

namespace libusb_device

/-- What `rsct_usbdev_scan` writes about a device. -/
def described (dev : libusb_device) (descr : Descriptor) : rsct_usbdev_t :=
  let texts := dev.libusb_open.getD (none, none)
  let listed : Ctapi.rsct_usbdev_t :=
    { busId := dev.libusb_get_bus_number.toUInt32
      busPos := dev.libusb_get_device_address.toUInt32
      vendorId := descr.idVendor.toUInt32
      productId := descr.idProduct.toUInt32
      port := -1
      serial := if descr.idProduct ≥ 0x300 then texts.2.getD [] else []
      halUDI := [] }
  { listed with path := usbName listed, halPath := [], productName := texts.1.getD [] }

def cyberJack? (dev : libusb_device) : Option rsct_usbdev_t :=
  match dev.libusb_get_device_descriptor with
  | none => none
  | some descr => if descr.idVendor = 0xc4b then some (dev.described descr) else none

end libusb_device

/-! ## The list -/

def rsct_usbdev_new : Nodes Pointer :=
  HeapM.new ⟨⟨⟨0, 0, 0, 0, -1, [], []⟩, [], [], []⟩, none⟩

def rsct_usbdev_free (d : Pointer) : Nodes Unit := HeapM.delete d

def rsct_usbdev_list_add (h d : Pointer) : Nodes Pointer := append h d

def rsct_usbdev_list_unlink (h d : Pointer) : Nodes Pointer := unlink h d

def rsct_usbdev_list_free (d : Pointer) : Nodes Unit := freeAll d

def rsct_usbdev_scan_list : List libusb_device → Pointer → Nodes Pointer
  | [], usbdev_list => pure usbdev_list
  | dev :: list, usbdev_list =>
      match dev.cyberJack? with
      | none => rsct_usbdev_scan_list list usbdev_list
      | some described => do
          let d ← rsct_usbdev_new
          HeapM.store d ⟨described, none⟩
          let usbdev_list ← rsct_usbdev_list_add usbdev_list d
          rsct_usbdev_scan_list list usbdev_list

def rsct_usbdev_scan (bus : Bus) : Nodes (Int × Pointer) :=
  match bus with
  | none => pure (-1, none)
  | some list => do
      let usbdev_list ← rsct_usbdev_scan_list list none
      pure (0, usbdev_list)

/-- A look-up; `leave` tells where it ends. -/
def getDev (leave : Nat → rsct_usbdev_t → Bool) (bus : Bus) : Nodes Pointer := do
  let (rv, devs) ← rsct_usbdev_scan bus
  if rv < 0 then pure none
  else do
    let d ← find leave devs
    let devs ← if d = none then pure devs else rsct_usbdev_list_unlink devs d
    rsct_usbdev_list_free devs
    pure d

/-- `if (num--==0)` -/
def byIdx (num : Int) (pass : Nat) (_ : rsct_usbdev_t) : Bool := (pass : Int) = num

def byBusPos (busId devId : Int) (_ : Nat) (d : rsct_usbdev_t) : Bool :=
  d.busId = UInt32.ofInt busId ∧ d.busPos = UInt32.ofInt devId

def byName (devName : Text) (_ : Nat) (d : rsct_usbdev_t) : Bool :=
  SameIgnoringCase d.halPath devName ∨ SameIgnoringCase d.path devName

def rsct_usbdev_getDevByIdx (num : Int) : Bus → Nodes Pointer := getDev (byIdx num)

def rsct_usbdev_getDevByBusPos (busId devId : Int) : Bus → Nodes Pointer := getDev (byBusPos busId devId)

def rsct_usbdev_getDevByName (devName : Text) : Bus → Nodes Pointer := getDev (byName devName)

/-! ## The communicator -/

inductive ReaderClass where
  | CECAReader
  | CECBReader
  | CECRReader
  | CECPReader
  | CSECReader
  | CECFReader
  | CEFBReader
deriving Repr, DecidableEq

/-- The members that the look-ups write; `m_devHandle` tells the device and the implementation. -/
structure CUSBUnix where
  m_cDeviceName : Text
  m_devHandle : Option (rsct_usbdev_t × Int)
  m_pid : UInt32
  m_bulkIn : UInt8
  m_bulkOut : UInt8
  m_intPipe : UInt8
  m_productString : Option Text
  m_Reader : Option ReaderClass

/-- What `ausb` answers while a device is opened. -/
structure Ausb where
  ausb_open : Bool
  ausb_set_configuration : Int
  ausb_claim_interface : Int
  ausb_start_interrupt : Int
deriving Repr, DecidableEq

/-- Both functions of this name, behind the search. -/
def createDeviceName (searched : Nodes Pointer) : Nodes (Option Text) := do
  let dev ← searched
  if dev = none then pure none
  else do
    let node ← HeapM.load dev
    rsct_usbdev_free dev
    pure (some node.item.path)

namespace CUSBUnix

def create (cDeviceName : Text) : CUSBUnix := ⟨cDeviceName, none, 0, 0, 0, 0, none, none⟩

/-- The end points of a device, and the implementation for it. -/
def withPipes (com : CUSBUnix) (productId : UInt32) : CUSBUnix × Int :=
  if productId = 0x400 then ({ com with m_bulkOut := 0x02, m_bulkIn := 0x81, m_intPipe := 0x83 }, 3)
  else if productId = 0x401 then ({ com with m_bulkOut := 0x02, m_bulkIn := 0x82, m_intPipe := 0x81 }, 3)
  else ({ com with m_bulkOut := 0x02, m_bulkIn := 0x81, m_intPipe := 0x83 }, 1)

def withHandle (com : CUSBUnix) (dev : rsct_usbdev_t) (ausb : Ausb) : Int × CUSBUnix :=
  let (com, usbMode) := com.withPipes dev.productId
  if ausb.ausb_open = false then (0, { com with m_devHandle := none })
  else if ausb.ausb_set_configuration ≠ 0 then (0, { com with m_devHandle := none })
  else if ausb.ausb_claim_interface < 0 then (0, { com with m_devHandle := none })
  else if ausb.ausb_start_interrupt ≠ 0 then (0, { com with m_devHandle := none })
  else (1, { com with m_devHandle := some (dev, usbMode) })

def withoutPipes (com : CUSBUnix) : CUSBUnix := { com with m_bulkIn := 0, m_bulkOut := 0, m_intPipe := 0 }

def Open (com : CUSBUnix) (bus : Bus) (ausb : Ausb) : Nodes (Int × CUSBUnix) := do
  let com := com.withoutPipes
  let dev ← rsct_usbdev_getDevByName com.m_cDeviceName bus
  if dev = none then pure (0, com)
  else do
    let node ← HeapM.load dev
    pure (com.withHandle node.item ausb)

def AUSB_CYBERJACK_VENDOR_ID : UInt32 := 0xc4b

/-- `cyberJack e-com` -/
def ecom : Text := ['c', 'y', 'b', 'e', 'r', 'J', 'a', 'c', 'k', ' ', 'e', '-', 'c', 'o', 'm']

/-- ` plus` -/
def plus : Text := [' ', 'p', 'l', 'u', 's']

/-- `cyberJack Secoder` -/
def Secoder : Text :=
  ['c', 'y', 'b', 'e', 'r', 'J', 'a', 'c', 'k', ' ', 'S', 'e', 'c', 'o', 'd', 'e', 'r']

/-- The beginnings of product names, in the order of their comparisons, and the reader for every other name. -/
def products (productId : UInt32) : Option (List (Text × ReaderClass) × ReaderClass) :=
  if productId = 0x400 then
    some ([(ecom ++ ['(', 'a', ')'], .CECAReader), (ecom ++ plus ++ [' ', 'D', 'U', 'O'], .CECBReader),
      (ecom ++ plus ++ [' ', 'B', 'I', 'O'], .CECBReader), (ecom ++ plus ++ [' ', 'R', 'F', 'I', 'D'], .CECRReader),
      (ecom ++ plus, .CECPReader), (Secoder, .CSECReader)], .CECAReader)
  else if productId = 0x401 then
    some ([(ecom ++ ['(', 'f', ')'], .CECFReader), (ecom ++ [' ', 'B', 'I', 'O'], .CEFBReader)], .CECFReader)
  else none

/-- The reader for a product name, and what the name is cut down to. -/
def readerFor (known : List (Text × ReaderClass) × ReaderClass) (productName : Text) : ReaderClass × Text :=
  match known.1.find? fun entry => entry.1 <+: productName with
  | some entry => (entry.2, entry.1)
  | none => (known.2, productName)

def built (com : CUSBUnix) (reader : ReaderClass) (name : Text) (productId : UInt32) : CUSBUnix :=
  { com with m_Reader := some reader, m_productString := some name, m_pid := productId }

def BuildReaderObject (com : CUSBUnix) (bus : Bus) : Nodes (Option ReaderClass × CUSBUnix) := do
  let dev ← rsct_usbdev_getDevByName com.m_cDeviceName bus
  if dev = none then pure (none, com)
  else do
    let node ← HeapM.load dev
    if node.item.vendorId ≠ AUSB_CYBERJACK_VENDOR_ID then pure (none, com)
    else
      match products node.item.productId with
      | none => pure (none, com)
      | some known => do
          let (reader, name) := readerFor known node.item.productName
          HeapM.store dev { node with item := { node.item with productName := name } }
          pure (some reader, com.built reader name node.item.productId)

def Close (com : CUSBUnix) : CUSBUnix := { com with m_devHandle := none }

end CUSBUnix

/-! ## What a look-up returns and leaves -/

section Lookups

variable {leave : Nat → rsct_usbdev_t → Bool} {bus : Bus}

/-- The cyberJack readers of a bus. -/
def scanned (bus : Bus) : List rsct_usbdev_t := (bus.getD []).filterMap libusb_device.cyberJack?

def lookup (leave : Nat → rsct_usbdev_t → Bool) (bus : Bus) : Option rsct_usbdev_t :=
  chosen leave 0 (scanned bus)

theorem scan_list_returns : ∀ {devices : List libusb_device} {list : List (Nat × rsct_usbdev_t)},
    Triple (segment list none) (rsct_usbdev_scan_list devices (first list none)) fun result left =>
      ∃ longer, longer.map Prod.snd = list.map Prod.snd ++ devices.filterMap libusb_device.cyberJack? ∧
        left = segment longer none ∧ result = first longer none := by
  intro devices
  induction devices with
  | nil =>
      intro list
      exact Triple.pure ⟨list, by simp, rfl, rfl⟩
  | cons dev rest ih =>
      intro list
      simp only [rsct_usbdev_scan_list]
      cases found : dev.cyberJack? with
      | none =>
          rw [List.filterMap_cons_none found]
          exact ih
      | some described =>
          apply Triple.bind Triple.new
          rintro _ _ ⟨place, rfl, rfl⟩
          apply Returns.store.followed
          apply append_returns.followed
          apply ih.weaken
          rintro result left ⟨longer, items, cells, starts⟩
          refine ⟨longer, ?_, cells, starts⟩
          simp [items, found]

theorem scan_returns : Triple [] (rsct_usbdev_scan bus) fun result left =>
    ∃ list, list.map Prod.snd = scanned bus ∧ left = segment list none ∧
      result = (if bus.isSome then 0 else -1, first list none) := by
  cases bus with
  | none => exact Triple.pure ⟨[], rfl, rfl, rfl⟩
  | some devices =>
      apply Triple.bind (@scan_list_returns devices [])
      rintro _ _ ⟨list, items, rfl, rfl⟩
      exact Triple.pure ⟨list, items, rfl, rfl⟩

/-- A look-up leaves the device it returns, and nothing else. -/
def Left (found : Option rsct_usbdev_t) (d : Pointer) (left : List (Nat × Link rsct_usbdev_t)) : Prop :=
  match found with
  | none => d = none ∧ left = []
  | some device => ∃ place, d = some place ∧ left = [(place, ⟨device, none⟩)]

theorem getDev_returns : Triple [] (getDev leave bus) (Left (lookup leave bus)) := by
  apply Triple.bind scan_returns
  rintro _ _ ⟨list, items, rfl, rfl⟩
  cases bus with
  | none =>
      have empty : list = [] := List.map_eq_nil_iff.mp items
      subst empty
      exact Triple.pure ⟨rfl, rfl⟩
  | some devices =>
      simp only [Option.isSome_some, if_true, Int.lt_irrefl, if_false]
      apply find_returns.followed
      rw [lookup, ← items]
      cases parts : split leave 0 list with
      | none =>
          rw [split_eq_none parts]
          apply Returns.pure.followed
          apply freeAll_returns.followed
          exact Triple.pure ⟨rfl, rfl⟩
      | some parts' =>
          obtain ⟨front, ⟨place, device⟩, back⟩ := parts'
          rw [chosen_of_split parts, split_eq_some parts]
          apply unlink_returns.followed
          have others := @Returns.frame _ _ _ _ [(place, ⟨device, none⟩)] _ _ (@freeAll_returns _ (front ++ back))
          apply (Returns.perm others (@List.perm_append_comm _ [_] _) (.refl _)).followed
          exact Triple.pure ⟨place, rfl, rfl⟩

theorem createDeviceName_returns :
    Returns [] (createDeviceName (getDev leave bus)) ((lookup leave bus).map rsct_usbdev_t.path) [] := by
  apply Triple.bind getDev_returns
  intro d left found
  cases here : lookup leave bus with
  | none =>
      rw [here] at found
      obtain ⟨rfl, rfl⟩ := found
      exact Returns.pure
  | some device =>
      rw [here] at found
      obtain ⟨place, rfl, rfl⟩ := found
      exact (Returns.load (.head _)).bind (Returns.delete.bind Returns.pure)

namespace CUSBUnix

variable {com : CUSBUnix}

/-- What `Open` does, by the device that the look-up finds. -/
def opens (com : CUSBUnix) (bus : Bus) (ausb : Ausb) : Int × CUSBUnix :=
  match lookup (byName com.m_cDeviceName) bus with
  | none => (0, com.withoutPipes)
  | some device => com.withoutPipes.withHandle device ausb

/-- What `BuildReaderObject` makes of a device, and the device as it stays behind. -/
def buildsFor (com : CUSBUnix) (device : rsct_usbdev_t) : (Option ReaderClass × CUSBUnix) × rsct_usbdev_t :=
  if device.vendorId ≠ AUSB_CYBERJACK_VENDOR_ID then ((none, com), device)
  else
    match products device.productId with
    | none => ((none, com), device)
    | some known =>
        let (reader, name) := readerFor known device.productName
        ((some reader, com.built reader name device.productId), { device with productName := name })

def builds (com : CUSBUnix) (bus : Bus) : (Option ReaderClass × CUSBUnix) × Option rsct_usbdev_t :=
  match lookup (byName com.m_cDeviceName) bus with
  | none => ((none, com), none)
  | some device => ((com.buildsFor device).1, some (com.buildsFor device).2)

theorem Open_returns (ausb : Ausb) : Triple [] (com.Open bus ausb) fun result left =>
    result = com.opens bus ausb ∧ ∃ d, Left (lookup (byName com.m_cDeviceName) bus) d left := by
  apply Triple.bind getDev_returns
  intro d left found
  have same : com.withoutPipes.m_cDeviceName = com.m_cDeviceName := rfl
  rw [same] at found
  rw [opens]
  cases here : lookup (byName com.m_cDeviceName) bus with
  | none =>
      rw [here] at found
      obtain ⟨rfl, rfl⟩ := found
      exact Triple.pure ⟨rfl, none, rfl, rfl⟩
  | some device =>
      rw [here] at found
      obtain ⟨place, rfl, rfl⟩ := found
      apply (Returns.load (.head _)).followed
      exact Triple.pure ⟨rfl, some place, place, rfl, rfl⟩

theorem BuildReaderObject_returns : Triple [] (com.BuildReaderObject bus) fun result left =>
    result = (com.builds bus).1 ∧ ∃ d, Left (com.builds bus).2 d left := by
  apply Triple.bind getDev_returns
  intro d left found
  rw [builds]
  cases here : lookup (byName com.m_cDeviceName) bus with
  | none =>
      rw [here] at found
      obtain ⟨rfl, rfl⟩ := found
      exact Triple.pure ⟨rfl, none, rfl, rfl⟩
  | some device =>
      rw [here] at found
      obtain ⟨place, rfl, rfl⟩ := found
      apply (Returns.load (.head _)).followed
      simp only [buildsFor]
      split
      · exact Triple.pure ⟨rfl, some place, place, rfl, rfl⟩
      · cases products device.productId with
        | none => exact Triple.pure ⟨rfl, some place, place, rfl, rfl⟩
        | some known =>
            apply Returns.store.followed
            exact Triple.pure ⟨rfl, some place, place, rfl, rfl⟩

end CUSBUnix

end Lookups

/-! ## Whole runs -/

inductive Request where
  | createDeviceName (num : Int)
  | createDeviceNameAt (busId devId : Int)
  | Open (ausb : Ausb)
  | BuildReaderObject
  | Close

inductive Answer where
  | name (devName : Option Text)
  | result (res : Int)
  | reader (created : Option ReaderClass)
  | nothing

/-- One call; the bus is as the call finds it. -/
def usbStep (com : CUSBUnix) (call : Request × Bus) : Nodes (Answer × CUSBUnix) :=
  match call.1 with
  | .createDeviceName num => do
      let devName ← createDeviceName (rsct_usbdev_getDevByIdx num call.2)
      pure (.name devName, com)
  | .createDeviceNameAt busId devId => do
      let devName ← createDeviceName (rsct_usbdev_getDevByBusPos busId devId call.2)
      pure (.name devName, com)
  | .Open ausb => do
      let (res, com) ← com.Open call.2 ausb
      pure (.result res, com)
  | .BuildReaderObject => do
      let (created, com) ← com.BuildReaderObject call.2
      pure (.reader created, com)
  | .Close => pure (.nothing, com.Close)

/-- What a call answers and makes of the communicator, with the device it forgets. -/
def outcome (com : CUSBUnix) (call : Request × Bus) : (Answer × CUSBUnix) × Option rsct_usbdev_t :=
  match call.1 with
  | .createDeviceName num => ((.name ((lookup (byIdx num) call.2).map rsct_usbdev_t.path), com), none)
  | .createDeviceNameAt busId devId =>
      ((.name ((lookup (byBusPos busId devId) call.2).map rsct_usbdev_t.path), com), none)
  | .Open ausb =>
      ((.result (com.opens call.2 ausb).1, (com.opens call.2 ausb).2), lookup (byName com.m_cDeviceName) call.2)
  | .BuildReaderObject => ((.reader (com.builds call.2).1.1, (com.builds call.2).1.2), (com.builds call.2).2)
  | .Close => ((.nothing, com.Close), none)

theorem usbStep_returns {com : CUSBUnix} {call : Request × Bus} :
    Triple [] (usbStep com call) fun result left =>
      result = (outcome com call).1 ∧ ∃ d, Left (outcome com call).2 d left := by
  obtain ⟨request, bus⟩ := call
  cases request with
  | createDeviceName num =>
      apply createDeviceName_returns.followed
      exact Triple.pure ⟨rfl, none, rfl, rfl⟩
  | createDeviceNameAt busId devId =>
      apply createDeviceName_returns.followed
      exact Triple.pure ⟨rfl, none, rfl, rfl⟩
  | Open ausb =>
      apply Triple.bind (CUSBUnix.Open_returns ausb)
      rintro _ left ⟨rfl, forgotten⟩
      exact Triple.pure ⟨rfl, forgotten⟩
  | BuildReaderObject =>
      apply Triple.bind CUSBUnix.BuildReaderObject_returns
      rintro _ left ⟨rfl, forgotten⟩
      exact Triple.pure ⟨rfl, forgotten⟩
  | Close => exact Triple.pure ⟨rfl, none, rfl, rfl⟩

def usbMachine : Machine (CUSBUnix × Heap (Link rsct_usbdev_t)) (Request × Bus) (Except Fault Answer) :=
  heapMachine usbStep

/-- Beside the communicator stand the devices that it has forgotten. -/
def usbObserver : Observer (CUSBUnix × List rsct_usbdev_t) (Request × Bus) (Except Fault Answer) where
  right known call answer := answer = .ok (outcome known.1 call).1.1
  learn known call _ := ((outcome known.1 call).1.2, (outcome known.1 call).2.toList ++ known.2)

/-- The forgotten devices are all there is; each stands alone. -/
def Represents (state : CUSBUnix × Heap (Link rsct_usbdev_t)) (known : CUSBUnix × List rsct_usbdev_t) : Prop :=
  state.1 = known.1 ∧ ∃ cells, state.2.Holds cells ∧ cells.map Prod.snd = known.2.map fun device => ⟨device, none⟩

theorem Left.forgotten {found : Option rsct_usbdev_t} {d : Pointer} {left : List (Nat × Link rsct_usbdev_t)}
    (leaves : Left found d left) : left.map Prod.snd = found.toList.map fun device => ⟨device, none⟩ := by
  cases found with
  | none =>
      obtain ⟨-, rfl⟩ := leaves
      rfl
  | some device =>
      obtain ⟨place, -, rfl⟩ := leaves
      rfl

theorem usbMachine_represents {state : CUSBUnix × Heap (Link rsct_usbdev_t)}
    {known : CUSBUnix × List rsct_usbdev_t} (call : Request × Bus) (holds : Represents state known) :
    (usbMachine state call).1 = .ok (outcome known.1 call).1.1 ∧
      Represents (usbMachine state call).2
        ((outcome known.1 call).1.2, (outcome known.1 call).2.toList ++ known.2) := by
  obtain ⟨com, heap⟩ := state
  obtain ⟨before, lost⟩ := known
  obtain ⟨same, cells, there, devices⟩ := holds
  change com = before at same
  subst same
  obtain ⟨answer, next, later, left, ran, kept, same, d, leaves⟩ :=
    @heapMachine_step _ _ _ _ _ com call heap [] cells _ usbStep_returns there
  rw [usbMachine, ran, ← same]
  refine ⟨rfl, rfl, left ++ cells, kept, ?_⟩
  rw [List.map_append, List.map_append, leaves.forgotten, devices]

theorem usb_agrees : Agrees usbMachine usbObserver Represents fun _ _ => True where
  answers _ _ call holds _ := (usbMachine_represents call holds).1
  follows _ _ call holds _ := (usbMachine_represents call holds).2

/-- A communicator and the list of devices as they are at first. -/
def atFirst (cDeviceName : Text) :
    (CUSBUnix × Heap (Link rsct_usbdev_t)) × CUSBUnix × List rsct_usbdev_t :=
  ((.create cDeviceName, .empty), .create cDeviceName, [])

/-- In every run of a communicator each look-up ends, finds the first device of the bus that it asks for, and frees
every other one; nothing is read behind its end.  In the end there are just the devices that `Open` and
`BuildReaderObject` have forgotten. -/
theorem lookups_right (cDeviceName : Text) (calls : List (Request × Bus)) :
    (∀ entry ∈ history (observed usbMachine usbObserver) (atFirst cDeviceName) calls,
      entry.answer = .ok (outcome entry.before.2.1 entry.input).1.1) ∧
    Represents (final (observed usbMachine usbObserver) (atFirst cDeviceName) calls).1
      (final (observed usbMachine usbObserver) (atFirst cDeviceName) calls).2 := by
  have start : Represents (atFirst cDeviceName).1 (atFirst cDeviceName).2 := ⟨rfl, [], Heap.empty_holds, rfl⟩
  constructor
  · exact Agrees.history usb_agrees start (by simp [Keeps])
  · exact Agrees.final usb_agrees start (by simp [Keeps])

/-- A hub, a reader with a display and one with a key pad. -/
def attachedDevices : Bus :=
  some [⟨some ⟨0x409, 0x5a⟩, 1, 2, none⟩,
    ⟨some ⟨0xc4b, 0x401⟩, 1, 4, some (some (CUSBUnix.ecom ++ ['(', 'f', ')', ' ', '2']), some ['7'])⟩,
    ⟨some ⟨0xc4b, 0x300⟩, 1, 5, some (none, some ['8'])⟩]

/-- `usb:0c4b/0401:libusb:001:004` -/
def attachedName : Text :=
  usbName ⟨1, 4, 0xc4b, 0x401, -1, ['7'], []⟩

/-- The reader is built for the beginning of its name. -/
theorem lookups_right_attached :
    ((observed usbMachine usbObserver).entry
      (final (observed usbMachine usbObserver) (atFirst attachedName) [(.Open ⟨true, 0, 0, 0⟩, attachedDevices)])
      (.BuildReaderObject, attachedDevices)).answer = .ok (.reader (some .CECFReader)) :=
  ((lookups_right attachedName [(.Open ⟨true, 0, 0, 0⟩, attachedDevices), (.BuildReaderObject, attachedDevices)]).1
    _ (.tail _ (.head _))).trans rfl

end Cyberjack.Ctapi.Usb
