import Cyberjack.Ctapi.UsbDevices
import Cyberjack.Foundation.Numerals
import Mathlib.Data.List.Find
import Mathlib.Data.List.TakeWhile

namespace Cyberjack.Ctapi.Usb

open Foundation Foundation.Chain

/-! # The names of USB devices

A name tells the numbers of a device.  The CT-API makes it, the list of the
CT-API and the look-up of the communicator read it, and both find the device that
it was made for.
-/

/-! ## Numbers in a name -/

section Numbers

variable {width number : Nat}

theorem padded_digits (base width number : Nat) : padded base width number = paddedDigits base width number := rfl

theorem length_padded {base : Nat} (large : 1 < base) (wide : 0 < width) (fits : number < base ^ width) :
    (padded base width number).length = width := length_paddedDigits large wide fits

theorem digitChar_plain : ∀ place < 16, (Nat.digitChar place).isWhitespace = false ∧
    Nat.digitChar place ≠ '-' ∧ Nat.digitChar place ≠ '+' ∧ (Nat.digitChar place).toLower ≠ 'x' ∧
    (Nat.digitChar place).toLower = Nat.digitChar place ∧ Nat.digitChar place ≠ '/' := by
  decide

theorem digitValue_digitChar {base : Nat} (known : base = 10 ∨ base = 16) :
    ∀ place < base, digitValue base (Nat.digitChar place) = some place := by
  cases known with
  | inl ten =>
      subst ten
      decide
  | inr sixteen =>
      subst sixteen
      decide

/-- `sscanf` reads a number back, and goes on behind it. -/
theorem scanNumber_padded {base : Nat} (known : base = 10 ∨ base = 16) (wide : 0 < width)
    (fits : number < base ^ width) (rest : Text) :
    scanNumber base width (padded base width number ++ rest) = some ((number : Int), rest) := by
  have large : 1 < base := by omega
  have below := paddedDigits_below large width number
  have length := length_paddedDigits large wide fits
  have value := @readDigits_padded base large (fun digit => (digitValue base digit).getD 0)
    (fun place small => by rw [digitValue_digitChar known place small]; rfl) width number
  have digits : ∀ digit ∈ paddedDigits base width number, (digitValue base digit).isSome = true := by
    intro digit member
    obtain ⟨place, small, rfl⟩ := below digit member
    rw [digitValue_digitChar known place small]
    rfl
  rw [padded_digits]
  cases text : paddedDigits base width number with
  | nil =>
      rw [text] at length
      exact absurd length (Nat.ne_of_lt wide)
  | cons head tail =>
      rw [text] at below length value digits
      obtain ⟨place, small, first⟩ := below head (.head _)
      obtain ⟨space, minus, plus, -⟩ := digitChar_plain place (by omega)
      rw [← first] at space minus plus
      have unmarked : ¬ (base = 16 ∧ 2 ≤ width ∧ SameIgnoringCase ((head :: tail ++ rest).take 2) ['0', 'x']) := by
        rintro ⟨-, two, same⟩
        cases tail with
        | nil => exact absurd length (by simpa using Nat.ne_of_lt two)
        | cons second others =>
            obtain ⟨place, small, next⟩ := below second (.tail _ (.head _))
            have letter := (digitChar_plain place (by omega)).2.2.2.1
            simp only [SameIgnoringCase, List.cons_append, List.take_succ_cons, List.map_cons, List.cons.injEq] at same
            exact letter (next ▸ same.2.1)
      have unsigned : ¬ ((head :: tail ++ rest).head? = some '-' ∨ (head :: tail ++ rest).head? = some '+') := by
        rintro (same | same)
        · exact minus (Option.some.inj same)
        · exact plus (Option.some.inj same)
      have start : (head :: tail ++ rest).dropWhile Char.isWhitespace = head :: tail ++ rest := by
        simp [space]
      have taken : ((head :: tail ++ rest).take width).takeWhile (fun digit => (digitValue base digit).isSome) =
          head :: tail := by
        rw [List.take_left' length]
        exact List.takeWhile_eq_self_iff.mpr digits
      simp only [scanNumber]
      rw [start]
      simp only [unsigned, unmarked, decide_false, Bool.false_eq_true, if_false, taken]
      have positive : ¬ (head :: tail ++ rest).head? = some '-' := fun same => unsigned (.inl same)
      rw [readDigits] at value
      simp only [positive, decide_false, Bool.false_eq_true, List.cons_ne_nil, if_false, List.drop_left, value]

theorem scanText_append (expected rest : Text) : scanText expected (expected ++ rest) = some rest := by
  simp [scanText]

end Numbers

/-! ## Names of devices -/

section Names

variable {d e : Ctapi.rsct_usbdev_t}

/-- What a name has room for. -/
structure Numbered (d : Ctapi.rsct_usbdev_t) : Prop where
  vendorId : d.vendorId.toNat < 16 ^ 4
  productId : d.productId.toNat < 16 ^ 4
  busId : d.busId.toNat < 10 ^ 3
  busPos : d.busPos.toNat < 10 ^ 3

structure SameNumbers (d e : Ctapi.rsct_usbdev_t) : Prop where
  vendorId : d.vendorId = e.vendorId
  productId : d.productId = e.productId
  busId : d.busId = e.busId
  busPos : d.busPos = e.busPos

instance (d e : Ctapi.rsct_usbdev_t) : Decidable (SameNumbers d e) :=
  decidable_of_iff
    (d.busId = e.busId ∧ d.busPos = e.busPos ∧ d.vendorId = e.vendorId ∧ d.productId = e.productId)
    ⟨fun same => ⟨same.2.2.1, same.2.2.2, same.1, same.2.1⟩,
      fun same => ⟨same.busId, same.busPos, same.vendorId, same.productId⟩⟩

theorem scanUsbName_usbName (numbered : Numbered d) :
    scanUsbName (usbName d) =
      some ((d.vendorId.toNat : Int), (d.productId.toNat : Int), (d.busId.toNat : Int), (d.busPos.toNat : Int)) := by
  have ends := scanNumber_padded (.inl rfl) (by decide) numbered.busPos []
  rw [List.append_nil] at ends
  simp only [scanUsbName, usbName, List.append_assoc, scanText_append,
    scanNumber_padded (.inr rfl) (by decide) numbered.vendorId,
    scanNumber_padded (.inr rfl) (by decide) numbered.productId,
    scanNumber_padded (.inl rfl) (by decide) numbered.busId, ends, Option.bind_eq_bind, Option.bind_some,
    Option.pure_def]

theorem lower_padded {base : Nat} (large : 1 < base) (small : base ≤ 16) (width number : Nat) :
    (padded base width number).map Char.toLower = padded base width number := by
  have same : ∀ digit ∈ padded base width number, digit.toLower = id digit := by
    intro digit member
    obtain ⟨place, below, rfl⟩ := paddedDigits_below large width number digit member
    exact (digitChar_plain place (by omega)).2.2.2.2.1
  rw [List.map_congr_left same, List.map_id]

/-- There are no capitals in a name. -/
theorem lower_usbName (d : Ctapi.rsct_usbdev_t) : (usbName d).map Char.toLower = usbName d := by
  simp only [usbName, List.map_append, lower_padded (show 1 < 16 by decide) (by decide),
    lower_padded (show 1 < 10 by decide) (by decide)]
  rfl

/-- Two names are the same where the numbers are. -/
theorem usbName_same_iff (first : Numbered d) (second : Numbered e) :
    SameIgnoringCase (usbName d) (usbName e) ↔ SameNumbers d e := by
  rw [SameIgnoringCase, lower_usbName, lower_usbName]
  constructor
  · intro same
    have read := scanUsbName_usbName first
    rw [same, scanUsbName_usbName second] at read
    simp only [Option.some.injEq, Prod.mk.injEq, Int.natCast_inj, UInt32.toNat_inj] at read
    exact ⟨read.1.symm, read.2.1.symm, read.2.2.1.symm, read.2.2.2.symm⟩
  · rintro ⟨vendorId, productId, busId, busPos⟩
    rw [usbName, usbName, vendorId, productId, busId, busPos]

theorem behindText_isSome (needle text : Text) : (behindText needle text).isSome = true ↔ needle <:+: text := by
  induction text with
  | nil => by_cases empty : needle = [] <;> simp [behindText, empty]
  | cons head rest ih =>
      rw [List.infix_cons_iff, ← ih]
      by_cases here : needle <+: head :: rest <;> simp [behindText, here]

/-- The list of the CT-API is asked for the numbers. -/
theorem findUsbDevByName_usbName (numbered : Numbered d) (devs : List Ctapi.rsct_usbdev_t) :
    _findUsbDevByName devs (usbName d) = devs.find? fun other => SameNumbers other d := by
  have named : (behindText [':', 'l', 'i', 'b', 'u', 's', 'b', ':'] (usbName d)).isSome = true := by
    rw [behindText_isSome]
    exact ⟨['u', 's', 'b', ':'] ++ padded 16 4 d.vendorId.toNat ++ ['/'] ++ padded 16 4 d.productId.toNat,
      padded 10 3 d.busId.toNat ++ [':'] ++ padded 10 3 d.busPos.toNat, by simp only [usbName, List.append_assoc]⟩
  obtain ⟨back, found⟩ := Option.isSome_iff_exists.mp named
  simp only [_findUsbDevByName, found, scanUsbName_usbName numbered]
  refine congrArg (fun test => devs.find? test) (funext fun other => ?_)
  rw [decide_eq_decide]
  simp only [Int.natCast_inj, UInt32.toNat_inj]
  constructor
  · rintro ⟨busId, busPos, vendorId, productId⟩
    exact ⟨vendorId, productId, busId, busPos⟩
  · rintro ⟨vendorId, productId, busId, busPos⟩
    exact ⟨busId, busPos, vendorId, productId⟩

/-- Text with one slash is cut there in one way. -/
theorem cut_at_slash {front front' back back' : Text} (same : front ++ '/' :: back = front' ++ '/' :: back')
    (before : '/' ∉ front') (behind : '/' ∉ back') : back = back' := by
  induction front generalizing front' with
  | nil =>
      cases front' with
      | nil => exact (List.cons.inj same).2
      | cons head rest => exact absurd (List.cons.inj same).1 fun here => before (here ▸ .head _)
  | cons head rest ih =>
      cases front' with
      | nil =>
          refine absurd ?_ behind
          rw [← (List.cons.inj same).2]
          exact List.mem_append_right _ (.head _)
      | cons head' rest' => exact ih (List.cons.inj same).2 fun member => before (.tail _ member)

theorem slash_padded {base : Nat} (large : 1 < base) (small : base ≤ 16) (width number : Nat) :
    '/' ∉ padded base width number := by
  intro member
  obtain ⟨place, below, same⟩ := paddedDigits_below large width number '/' member
  exact (digitChar_plain place (by omega)).2.2.2.2.2 same.symm

theorem padded_inj {base width number other : Nat} (known : base = 10 ∨ base = 16) (wide : 0 < width)
    (fits : number < base ^ width) (fits' : other < base ^ width)
    (same : padded base width number = padded base width other) : number = other := by
  have read := scanNumber_padded known wide fits []
  rw [same, scanNumber_padded known wide fits' []] at read
  simp only [Option.some.injEq, Prod.mk.injEq, Int.natCast_inj] at read
  exact read.1.symm

/-- `strstr` finds a product number where the device has it. -/
theorem behindText_product (numbered : Numbered d) (cyberJack : d.vendorId = 0xc4b) {productId : Nat}
    (small : productId < 16 ^ 4) :
    (behindText (['0', 'c', '4', 'b', '/'] ++ padded 16 4 productId) (usbName d)).isSome = true ↔
      d.productId.toNat = productId := by
  have split : usbName d = ['u', 's', 'b', ':', '0', 'c', '4', 'b'] ++ '/' :: (padded 16 4 d.productId.toNat ++
      ([':', 'l', 'i', 'b', 'u', 's', 'b', ':'] ++ padded 10 3 d.busId.toNat ++ [':'] ++
        padded 10 3 d.busPos.toNat)) := by
    rw [usbName, cyberJack]
    simp only [List.append_assoc]
    rfl
  rw [behindText_isSome]
  constructor
  · rintro ⟨front, back, same⟩
    rw [split] at same
    have cut : (front ++ ['0', 'c', '4', 'b']) ++ '/' :: (padded 16 4 productId ++ back) =
        front ++ (['0', 'c', '4', 'b', '/'] ++ padded 16 4 productId) ++ back := by
      simp only [List.append_assoc]
      rfl
    have ends := cut_at_slash (cut.trans same) (by decide) (by
      simp only [List.mem_append, not_or]
      exact ⟨slash_padded (by decide) (by decide) _ _, ⟨⟨by decide, slash_padded (by decide) (by decide) _ _⟩,
        by decide⟩, slash_padded (by decide) (by decide) _ _⟩)
    have product := congrArg (List.take 4) ends
    rw [List.take_left' (length_padded (by decide) (by decide) small),
      List.take_left' (length_padded (by decide) (by decide) numbered.productId)] at product
    exact (padded_inj (.inr rfl) (by decide) small numbered.productId product).symm
  · rintro rfl
    exact ⟨['u', 's', 'b', ':'], [':', 'l', 'i', 'b', 'u', 's', 'b', ':'] ++ padded 10 3 d.busId.toNat ++ [':'] ++
        padded 10 3 d.busPos.toNat, by rw [split]; simp only [List.append_assoc]; rfl⟩

end Names

/-! ## Devices of a bus -/

section Bus

variable {bus : Bus} {d : rsct_usbdev_t}

/-- What the scan writes about every device. -/
structure Listed (d : rsct_usbdev_t) : Prop where
  cyberJack : d.vendorId = 0xc4b
  port : d.port = -1
  path : d.path = usbName d.torsct_usbdev_t
  halPath : d.halPath = []
  numbered : Numbered d.torsct_usbdev_t

theorem scanned_listed : ∀ d ∈ scanned bus, Listed d := by
  intro d member
  obtain ⟨dev, -, found⟩ := List.mem_filterMap.mp member
  rw [libusb_device.cyberJack?] at found
  cases known : dev.libusb_get_device_descriptor with
  | none =>
      rw [known] at found
      cases found
  | some descr =>
      simp only [known] at found
      split at found
      · rename_i cyberJack
        cases found
        have product := descr.idProduct.toNat_lt
        have busId := dev.libusb_get_bus_number.toNat_lt
        have busPos := dev.libusb_get_device_address.toNat_lt
        refine ⟨?_, rfl, rfl, rfl, ?_, ?_, ?_, ?_⟩
        · simp [libusb_device.described, cyberJack]
        · simp [libusb_device.described, cyberJack]
        · simp only [libusb_device.described, UInt16.toNat_toUInt32]
          omega
        · simp only [libusb_device.described, UInt8.toNat_toUInt32]
          omega
        · simp only [libusb_device.described, UInt8.toNat_toUInt32]
          omega
      · cases found

/-- No two devices of a bus have one address. -/
def Addressed (bus : Bus) : Prop :=
  ((bus.getD []).map fun dev => (dev.libusb_get_bus_number, dev.libusb_get_device_address)).Nodup

instance (bus : Bus) : Decidable (Addressed bus) := inferInstanceAs (Decidable (List.Nodup _))

theorem address_of_cyberJack {dev : libusb_device} (found : dev.cyberJack? = some d) :
    d.busId = dev.libusb_get_bus_number.toUInt32 ∧ d.busPos = dev.libusb_get_device_address.toUInt32 := by
  rw [libusb_device.cyberJack?] at found
  cases known : dev.libusb_get_device_descriptor with
  | none =>
      rw [known] at found
      cases found
  | some descr =>
      simp only [known] at found
      split at found
      · cases found
        exact ⟨rfl, rfl⟩
      · cases found

theorem scanned_apart (addressed : Addressed bus) : (scanned bus).Pairwise fun d e =>
    ¬ SameNumbers d.torsct_usbdev_t e.torsct_usbdev_t := by
  refine List.Pairwise.filterMap libusb_device.cyberJack? ?_ (List.pairwise_map.mp addressed)
  intro dev dev' apart d found e found' same
  have first := address_of_cyberJack found
  have second := address_of_cyberJack found'
  apply apart
  rw [Prod.mk.injEq, ← UInt8.toUInt32_inj, ← UInt8.toUInt32_inj]
  exact ⟨first.1 ▸ second.1 ▸ same.busId, first.2 ▸ second.2 ▸ same.busPos⟩

/-- Among devices with different numbers, each is the first one with its own. -/
theorem find_same {devs : List rsct_usbdev_t} (member : d ∈ devs)
    (apart : devs.Pairwise fun d e => ¬ SameNumbers d.torsct_usbdev_t e.torsct_usbdev_t) :
    (devs.find? fun e => SameNumbers e.torsct_usbdev_t d.torsct_usbdev_t) = some d := by
  induction devs with
  | nil => cases member
  | cons head rest ih =>
      cases member with
      | head => simp [show SameNumbers d.torsct_usbdev_t d.torsct_usbdev_t from ⟨rfl, rfl, rfl, rfl⟩]
      | tail _ there =>
          have other := (List.pairwise_cons.mp apart).1 d there
          simp [other, ih there (List.pairwise_cons.mp apart).2]

theorem lookup_byName (name : Text) : lookup (byName name) bus =
    (scanned bus).find? fun d => SameIgnoringCase d.halPath name ∨ SameIgnoringCase d.path name :=
  chosen_by 0 (scanned bus)

/-- The look-up for the name of a device asks for its numbers, too. -/
theorem lookup_usbName (numbered : Numbered d.torsct_usbdev_t) :
    lookup (byName (usbName d.torsct_usbdev_t)) bus =
      (scanned bus).find? fun e => SameNumbers e.torsct_usbdev_t d.torsct_usbdev_t := by
  rw [lookup_byName]
  have named : ¬ SameIgnoringCase [] (usbName d.torsct_usbdev_t) := by
    intro same
    exact absurd (congrArg List.length same) (by simp [usbName])
  have asks : ∀ e ∈ scanned bus, (SameIgnoringCase e.halPath (usbName d.torsct_usbdev_t) ∨
      SameIgnoringCase e.path (usbName d.torsct_usbdev_t)) ↔ SameNumbers e.torsct_usbdev_t d.torsct_usbdev_t := by
    intro e member
    have listed := scanned_listed e member
    rw [listed.halPath, listed.path, usbName_same_iff listed.numbered numbered]
    exact or_iff_right named
  exact List.find?_congr fun e member => decide_eq_decide.mpr (asks e member)

/-- A member of the list for `chosen` is one of its items. -/
theorem mem_of_lookup {leave : Nat → rsct_usbdev_t → Bool} (found : lookup leave bus = some d) : d ∈ scanned bus := by
  rw [lookup] at found
  generalize 0 = count at found
  generalize scanned bus = devs at found
  induction devs generalizing count with
  | nil => cases found
  | cons head rest ih =>
      rw [chosen] at found
      split at found
      · cases found
        exact .head _
      · exact .tail _ (ih (count + 1) found)

end Bus

/-! ## From a port to a device -/

section Ports

variable {surroundings : Surroundings} {bus : Bus} {d : rsct_usbdev_t}

/-- The driver for a product number. -/
def driverFor (surroundings : Surroundings) (productId : UInt32) : Except Int Driver :=
  if productId = 0x100 then
    if surroundings.ecomKernel = true then .error (-127)
    else if surroundings.cjecom_CT_initUser2 ≠ 0 then .error surroundings.cjecom_CT_initUser2
    else .ok .oldEcom
  else if productId = 0x300 then if surroundings.ctapiInit = true then .ok .ppa else .error (-127)
  else if surroundings.Connect = true then .ok .reader
  else .error (-127)

/-- A name leads to a device, wherever it is looked up. -/
structure Reaches (surroundings : Surroundings) (bus : Bus) (name : Text) (d : rsct_usbdev_t) : Prop where
  listed : _findUsbDevByName surroundings.rsct_usbdev_scan.2 name = some d.torsct_usbdev_t
  driver : openDevice surroundings name = driverFor surroundings d.productId
  opened : ∀ (com : CUSBUnix) ausb, com.m_cDeviceName = name →
    com.opens bus ausb = com.withoutPipes.withHandle d ausb
  built : ∀ com : CUSBUnix, com.m_cDeviceName = name → (com.builds bus).1 = (com.buildsFor d).1

/-- The place of a serial number in the file. -/
def relpn (pn : UInt16) : Nat := if pn ≥ 0x9000 then (pn - 0x8fff).toNat else (pn - 999).toNat

/-- The device that a port number means. -/
def portDevice (surroundings : Surroundings) (bus : Bus) (pn : UInt16) : Option rsct_usbdev_t :=
  if (pn ≥ 0x9000 ∧ pn ≤ 0x9fff) ∨ (pn ≥ 1000 ∧ pn ≤ 1999) then
    match surroundings.rsct_get_serial_for_port (relpn pn) with
    | none => none
    | some serial => (scanned bus).find? fun d => d.serial ≠ [] ∧ SameIgnoringCase serial d.serial
  else if pn ≥ 0x8000 then none
  else (scanned bus)[pn.toNat - 1]?

/-- The CT-API and the communicators see one bus. -/
def Sees (surroundings : Surroundings) (bus : Bus) : Prop :=
  surroundings.rsct_usbdev_scan.2 = (scanned bus).map rsct_usbdev_t.torsct_usbdev_t

theorem openDevice_usbName (sees : Sees surroundings bus) (addressed : Addressed bus) (member : d ∈ scanned bus) :
    _findUsbDevByName surroundings.rsct_usbdev_scan.2 (usbName d.torsct_usbdev_t) = some d.torsct_usbdev_t ∧
    openDevice surroundings (usbName d.torsct_usbdev_t) = driverFor surroundings d.productId := by
  have listed := scanned_listed d member
  have found : _findUsbDevByName surroundings.rsct_usbdev_scan.2 (usbName d.torsct_usbdev_t) =
      some d.torsct_usbdev_t := by
    rw [findUsbDevByName_usbName listed.numbered, sees, List.find?_map]
    have first := find_same member (scanned_apart addressed)
    simp only [Function.comp_def]
    rw [first]
    rfl
  have begins : StartsWith (usbName d.torsct_usbdev_t) ['u', 's', 'b', ':'] := by
    simp only [StartsWith, usbName, List.append_assoc]
    rfl
  have old : (behindText ['0', 'c', '4', 'b', '/', '0', '1', '0', '0'] (usbName d.torsct_usbdev_t)).isSome = true ↔
      d.productId = 0x100 := by
    rw [← UInt32.toNat_inj]
    exact @behindText_product d.torsct_usbdev_t listed.numbered listed.cyberJack 0x100 (by decide)
  have pinpad : (behindText ['0', 'c', '4', 'b', '/', '0', '3', '0', '0'] (usbName d.torsct_usbdev_t)).isSome = true ↔
      d.productId = 0x300 := by
    rw [← UInt32.toNat_inj]
    exact @behindText_product d.torsct_usbdev_t listed.numbered listed.cyberJack 0x300 (by decide)
  refine ⟨found, ?_⟩
  simp only [openDevice, driverFor, begins, old, pinpad, found, listed.port, if_true]

theorem reaches_of_mem (sees : Sees surroundings bus) (addressed : Addressed bus) (member : d ∈ scanned bus) :
    Reaches surroundings bus (usbName d.torsct_usbdev_t) d := by
  have listed := scanned_listed d member
  have found : lookup (byName (usbName d.torsct_usbdev_t)) bus = some d := by
    rw [lookup_usbName listed.numbered]
    exact find_same member (scanned_apart addressed)
  have looked := openDevice_usbName sees addressed member
  refine ⟨looked.1, looked.2, ?_, ?_⟩
  · rintro com ausb same
    rw [CUSBUnix.opens, same, found]
  · rintro com same
    rw [CUSBUnix.builds, same, found]

theorem nameOfPort_device (sees : Sees surroundings bus) {pn : UInt16} (usb : pn < 0xa000) :
    nameOfPort surroundings pn = (portDevice surroundings bus pn).map fun d => usbName d.torsct_usbdev_t := by
  have asks : ∀ serial, (surroundings.rsct_usbdev_scan.2.find? fun d =>
      d.vendorId = 0xc4b ∧ d.serial ≠ [] ∧ SameIgnoringCase serial d.serial) =
      ((scanned bus).find? fun d => d.serial ≠ [] ∧ SameIgnoringCase serial d.serial).map
        rsct_usbdev_t.torsct_usbdev_t := by
    intro serial
    rw [sees, List.find?_map]
    refine congrArg _ (List.find?_congr fun d member => ?_)
    simp [(scanned_listed d member).cyberJack]
  have unplugged : ∀ port : Nat, (surroundings.rsct_usbdev_scan.2.find? fun d =>
      d.vendorId = 0xc4b ∧ d.port = (port : Int)) = none := by
    intro port
    rw [sees, List.find?_eq_none]
    intro other member
    obtain ⟨d, scanned, rfl⟩ := List.mem_map.mp member
    have away := (scanned_listed d scanned).port
    simp only [away, decide_eq_true_eq, not_and]
    omega
  have all : (surroundings.rsct_usbdev_scan.2.filter fun d => d.vendorId = 0xc4b) =
      (scanned bus).map rsct_usbdev_t.torsct_usbdev_t := by
    rw [sees, List.filter_eq_self]
    intro other member
    obtain ⟨d, scanned, rfl⟩ := List.mem_map.mp member
    exact decide_eq_true (scanned_listed d scanned).cyberJack
  rw [nameOfPort, portDevice, if_neg (UInt16.not_le.mpr usb)]
  split
  · change (match surroundings.rsct_get_serial_for_port (relpn pn) with | none => none | some serial => _) = _
    cases surroundings.rsct_get_serial_for_port (relpn pn) with
    | none => rfl
    | some serial =>
        simp only [asks, Option.map_map]
        rfl
  · split
    · rw [unplugged]
      rfl
    · rw [all, List.getElem?_map, Option.map_map]
      cases here : (scanned bus)[pn.toNat - 1]? with
      | none => rfl
      | some d => simp [(scanned_listed d (List.mem_of_getElem? here)).port]

theorem mem_of_portDevice {pn : UInt16} (found : portDevice surroundings bus pn = some d) : d ∈ scanned bus := by
  simp only [portDevice] at found
  split at found
  · split at found
    · cases found
    · exact List.mem_of_find?_eq_some found
  · split at found
    · cases found
    · exact List.mem_of_getElem? found

/-- On a bus whose devices have different addresses, every port number of the CT-API means one device or none; the
name that is made for it leads to that device in the CT-API, for the choice of the driver, and in every look-up of
a communicator; and so does every name that a communicator hands out. -/
theorem names_lead_back (sees : Sees surroundings bus) (addressed : Addressed bus) :
    (∀ pn : UInt16, pn < 0xa000 →
      nameOfPort surroundings pn = (portDevice surroundings bus pn).map rsct_usbdev_t.path ∧
      ∀ d, portDevice surroundings bus pn = some d → Reaches surroundings bus d.path d) ∧
    ∀ leave d, lookup leave bus = some d → Reaches surroundings bus d.path d := by
  have leads : ∀ d ∈ scanned bus, Reaches surroundings bus d.path d := by
    intro d member
    rw [(scanned_listed d member).path]
    exact reaches_of_mem sees addressed member
  refine ⟨fun pn usb => ⟨?_, fun d found => leads d (mem_of_portDevice found)⟩,
    fun leave d found => leads d (mem_of_lookup found)⟩
  rw [nameOfPort_device sees usb]
  cases found : portDevice surroundings bus pn with
  | none => rfl
  | some d => simp [(scanned_listed d (mem_of_portDevice found)).path]

end Ports

/-- Everything answers, and the attached devices are seen. -/
def attachedSurroundings : Surroundings :=
  ⟨0, 0, false, (0, (scanned attachedDevices).map rsct_usbdev_t.torsct_usbdev_t), fun _ => none, 0, 0, true, true, 0⟩

/-- The hub has no port. -/
theorem names_lead_back_attached : ∃ d, portDevice attachedSurroundings attachedDevices 1 = some d ∧
    d.path = attachedName ∧ Reaches attachedSurroundings attachedDevices d.path d := by
  have leads := ((@names_lead_back attachedSurroundings attachedDevices rfl (by decide)).1 1 (by decide)).2
  exact ⟨_, rfl, rfl, leads _ rfl⟩

end Cyberjack.Ctapi.Usb
