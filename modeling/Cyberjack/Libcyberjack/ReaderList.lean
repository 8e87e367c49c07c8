import Cyberjack.Foundation.History
import Cyberjack.Libcyberjack.UploadClient
import Mathlib.Data.List.Nodup

namespace Cyberjack.Libcyberjack

open Cyberjack.Foundation

/-! # The list of readers

`driver_ctapi.cpp` and `driver.cpp` keep a list of reader objects, and the main window of the client keeps
pointers to them.
-/

/-- A device that `rsct_usbdev_scan` finds. -/
structure UsbDevice where
  busId : Nat
  busPos : Nat
  vendorId : Nat
  productId : Nat
  productName : List UInt8
  serial : List UInt8
  deviceNodePath : List UInt8
  halPath : List UInt8
deriving DecidableEq

/-- A `ReaderCtapi`; `object` tells the objects apart that have been created. -/
structure ReaderCtapi where
  object : Nat
  name : List UInt8
  productString : List UInt8
  serial : List UInt8
  vendorId : Nat
  productId : Nat
  devicePos : Nat
  busId : Nat
  deviceId : Nat
  path : List UInt8
  halPath : List UInt8
  updateCounter : Nat
deriving DecidableEq

/-- The driver and the icons of the main window.  `dangling` is set where a reader is deleted that an icon
points to. -/
structure MainWindow where
  readerList : List ReaderCtapi
  updateCounter : Nat
  created : Nat
  items : List Nat
  dangling : Bool
deriving DecidableEq

def asciiText (text : String) : List UInt8 := text.toList.map fun letter => UInt8.ofNat letter.toNat

/-- `%03d` -/
def threeDigits (number : Nat) : List UInt8 :=
  (List.leftpad 3 '0' (Nat.toDigits 10 number)).map fun digit => UInt8.ofNat digit.toNat

/-- `snprintf(pbuff, sizeof(pbuff), "%s an %03d:%03d", ..)` -/
def readerName (device : UsbDevice) : List UInt8 :=
  ((if device.productName ≠ [] then device.productName else asciiText "Leser") ++ asciiText " an " ++
    threeDigits device.busId ++ asciiText ":" ++ threeDigits device.busPos).take 255

def newReader (object count : Nat) (device : UsbDevice) : ReaderCtapi where
  object := object
  name := readerName device
  productString := device.productName
  serial := device.serial
  vendorId := device.vendorId
  productId := device.productId
  devicePos := count
  busId := device.busId
  deviceId := device.busPos
  path := device.deviceNodePath
  halPath := device.halPath
  updateCounter := 0

/-! ## The driver -/

def ReaderCtapi.address (reader : ReaderCtapi) : Nat × Nat := (reader.busId, reader.deviceId)

def UsbDevice.address (device : UsbDevice) : Nat × Nat := (device.busId, device.busPos)

def setUpdateCounter (counter : Nat) (reader : ReaderCtapi) : ReaderCtapi := { reader with updateCounter := counter }

/-- The first reader at an address, where `findReader` finds one, with a new counter. -/
def foundReader (address : Nat × Nat) (counter : Nat) : List ReaderCtapi → Option (List ReaderCtapi)
  | [] => none
  | reader :: rest =>
      if reader.address = address then some (setUpdateCounter counter reader :: rest)
      else (foundReader address counter rest).map (reader :: ·)

/-- The devices one after the other; `created` counts the objects, `count` those of this call. -/
def enumDevices (counter : Nat) : List UsbDevice → Nat → Nat → List ReaderCtapi → Nat × List ReaderCtapi
  | [], created, _, readers => (created, readers)
  | device :: rest, created, count, readers =>
      match foundReader device.address counter readers with
      | some readers => enumDevices counter rest created count readers
      | none => enumDevices counter rest (created + 1) (count + 1) (readers ++ [newReader created count device])

/-- `scan` is missing where `rsct_usbdev_scan` fails. -/
def enumReaders (window : MainWindow) (scan : Option (List UsbDevice)) : ErrorCode × MainWindow :=
  let readers := window.readerList.map fun reader =>
    if reader.updateCounter = 0 then setUpdateCounter window.updateCounter reader else reader
  let counter := (window.updateCounter + 1) % 4294967296
  match scan with
  | none => (.InOut, { window with readerList := readers, updateCounter := counter })
  | some devices =>
      let (created, readers) := enumDevices counter devices window.created 0 readers
      (.Ok, { window with readerList := readers, updateCounter := counter, created := created })

def deleteReader (window : MainWindow) (reader : ReaderCtapi) : MainWindow :=
  { window with dangling := window.dangling || decide (reader.object ∈ window.items) }

/-- `Driver::clearReaderList` -/
def clearReaders (window : MainWindow) : MainWindow :=
  { window.readerList.foldl deleteReader window with readerList := [] }

def Old (counter : Nat) (reader : ReaderCtapi) : Prop := reader.updateCounter > 0 ∧ reader.updateCounter < counter

instance (counter : Nat) (reader : ReaderCtapi) : Decidable (Old counter reader) := inferInstanceAs (Decidable (_ ∧ _))

/-- The list is gone through again from its beginning behind every reader that is deleted. -/
def removeOldReaders : Nat → MainWindow → MainWindow
  | 0, window => window
  | passes + 1, window =>
      match window.readerList.find? fun reader => Old window.updateCounter reader with
      | none => window
      | some reader =>
          let deleted := deleteReader window reader
          removeOldReaders passes
            { deleted with readerList := window.readerList.eraseP fun reader => Old window.updateCounter reader }

/-! ## The window -/

/-- One reader in `applyReaderList`; its icon is removed where it is the first that points to it. -/
def applyReader (counter : Nat) (reader : ReaderCtapi) (items : List Nat) : ReaderCtapi × List Nat :=
  if reader.updateCounter = 0 then (setUpdateCounter counter reader, items ++ [reader.object])
  else if reader.updateCounter < counter then (reader, items.erase reader.object)
  else (reader, items)

def applyReaderList (counter : Nat) : List ReaderCtapi → List Nat → List ReaderCtapi × List Nat
  | [], items => ([], items)
  | reader :: rest, items =>
      let applied := applyReader counter reader items
      let later := applyReaderList counter rest applied.2
      (applied.1 :: later.1, later.2)

inductive WindowCall where
  | updateReaderList (force : Bool) (scan : Option (List UsbDevice))
  | closeDriver

def updateReaderList (force : Bool) (scan : Option (List UsbDevice)) (window : MainWindow) : ErrorCode × MainWindow :=
  let window := if force then clearReaders { window with items := [] } else window
  match enumReaders window scan with
  | (.Ok, window) =>
      let applied := applyReaderList window.updateCounter window.readerList window.items
      let window := { window with readerList := applied.1, items := applied.2 }
      (.Ok, removeOldReaders (window.readerList.length + 1) window)
  | (rv, window) => (rv, clearReaders { window with items := [] })

/-- The driver is closed, and a new one is opened. -/
def closeDriver (window : MainWindow) : MainWindow :=
  { clearReaders { window with items := [] } with updateCounter := 0 }

def mainWindow : Machine MainWindow WindowCall ErrorCode := fun window call =>
  match call with
  | .updateReaderList force scan => updateReaderList force scan window
  | .closeDriver => (.Ok, closeDriver window)

def newWindow : MainWindow := ⟨[], 0, 0, [], false⟩

/-! ## What the window should show -/

/-- No icon points to a reader that has been deleted, the icons are those of the list, and the list is that of
the devices: one reader for each address, and the same object while a device stays. -/
structure ListRight (before : MainWindow) (call : WindowCall) (rv : ErrorCode) (after : MainWindow) : Prop where
  safe : after.dangling = false
  shown : after.items = after.readerList.map ReaderCtapi.object
  objects : (after.readerList.map ReaderCtapi.object).Nodup
  addresses : (after.readerList.map ReaderCtapi.address).Nodup
  attached : ∀ force devices, call = .updateReaderList force (some devices) → rv = .Ok ∧
    ∀ address, address ∈ after.readerList.map ReaderCtapi.address ↔ address ∈ devices.map UsbDevice.address
  kept : ∀ devices, call = .updateReaderList false (some devices) → ∀ reader ∈ before.readerList,
    reader.address ∈ devices.map UsbDevice.address → setUpdateCounter after.updateCounter reader ∈ after.readerList
  failed : (∀ force devices, call ≠ .updateReaderList force (some devices)) → after.readerList = []

/-- The devices of a scan have different addresses. -/
def Distinct : WindowCall → Prop
  | .updateReaderList _ (some devices) => (devices.map UsbDevice.address).Nodup
  | _ => True

/-! ## Finding readers -/

variable {window : MainWindow} {readers olds : List ReaderCtapi} {devices : List UsbDevice} {counter created count : Nat}
  {address : Nat × Nat} {items kept : List Nat}

@[simp] theorem address_setUpdateCounter (counter : Nat) (reader : ReaderCtapi) :
    (setUpdateCounter counter reader).address = reader.address := rfl

@[simp] theorem object_setUpdateCounter (counter : Nat) (reader : ReaderCtapi) :
    (setUpdateCounter counter reader).object = reader.object := rfl

@[simp] theorem counter_setUpdateCounter (counter : Nat) (reader : ReaderCtapi) :
    (setUpdateCounter counter reader).updateCounter = counter := rfl

@[simp] theorem address_newReader (object count : Nat) (device : UsbDevice) :
    (newReader object count device).address = device.address := rfl

/-- The readers with the addresses of a scan get the counter of this round. -/
def refresh (counter : Nat) (addresses : List (Nat × Nat)) (reader : ReaderCtapi) : ReaderCtapi :=
  if reader.address ∈ addresses then setUpdateCounter counter reader else reader

@[simp] theorem address_refresh (addresses : List (Nat × Nat)) (reader : ReaderCtapi) :
    (refresh counter addresses reader).address = reader.address := by
  unfold refresh
  split <;> rfl

@[simp] theorem object_refresh (addresses : List (Nat × Nat)) (reader : ReaderCtapi) :
    (refresh counter addresses reader).object = reader.object := by
  unfold refresh
  split <;> rfl

theorem addresses_refresh (addresses : List (Nat × Nat)) :
    (readers.map (refresh counter addresses)).map ReaderCtapi.address = readers.map ReaderCtapi.address := by
  simp

theorem objects_refresh (addresses : List (Nat × Nat)) :
    (readers.map (refresh counter addresses)).map ReaderCtapi.object = readers.map ReaderCtapi.object := by
  simp

theorem foundReader_none (absent : address ∉ readers.map ReaderCtapi.address) :
    foundReader address counter readers = none := by
  induction readers with
  | nil => rfl
  | cons reader rest ih =>
      rw [List.map_cons, List.mem_cons, not_or] at absent
      rw [foundReader, if_neg (Ne.symm absent.1), ih absent.2, Option.map_none]

theorem refresh_other {reader : ReaderCtapi} {addresses : List (Nat × Nat)} (other : reader.address ∉ addresses) :
    refresh counter addresses reader = reader := if_neg other

theorem foundReader_some (distinct : (readers.map ReaderCtapi.address).Nodup)
    (present : address ∈ readers.map ReaderCtapi.address) :
    foundReader address counter readers = some (readers.map (refresh counter [address])) := by
  induction readers with
  | nil => contradiction
  | cons reader rest ih =>
      rw [List.map_cons, List.nodup_cons] at distinct
      rw [List.map_cons, List.mem_cons] at present
      rw [foundReader]
      by_cases here : reader.address = address
      · have same : rest.map (refresh counter [address]) = rest := by
          conv_rhs => rw [← List.map_id rest]
          apply List.map_congr_left
          intro other member
          apply refresh_other
          rw [List.mem_singleton]
          intro equal
          apply distinct.1
          rw [here, ← equal]
          exact List.mem_map_of_mem member
        rw [if_pos here, List.map_cons, same, refresh, if_pos (by simp [here])]
      · rw [if_neg here, ih distinct.2 (present.resolve_left (Ne.symm here)), Option.map_some, List.map_cons,
          refresh_other (by simpa using here)]

/-- The objects of a call, numbered from the next ones on. -/
def newReaders (created count : Nat) : List UsbDevice → List ReaderCtapi
  | [] => []
  | device :: rest => newReader created count device :: newReaders (created + 1) (count + 1) rest

theorem refresh_refresh (first second : List (Nat × Nat)) (reader : ReaderCtapi) :
    refresh counter second (refresh counter first reader) = refresh counter (first ++ second) reader := by
  unfold refresh
  by_cases one : reader.address ∈ first <;> by_cases other : reader.address ∈ second <;>
    simp [one, other, setUpdateCounter]

/-- The devices whose addresses are not listed. -/
def unlisted (readers : List ReaderCtapi) (devices : List UsbDevice) : List UsbDevice :=
  devices.filter fun device => device.address ∉ readers.map ReaderCtapi.address

theorem enumDevices_eq (listed : (readers.map ReaderCtapi.address).Nodup)
    (distinct : (devices.map UsbDevice.address).Nodup) :
    enumDevices counter devices created count readers =
      (created + (unlisted readers devices).length,
        readers.map (refresh counter (devices.map UsbDevice.address)) ++
          newReaders created count (unlisted readers devices)) := by
  induction devices generalizing created count readers with
  | nil =>
      have same : readers.map (refresh counter []) = readers := by
        conv_rhs => rw [← List.map_id readers]
        exact List.map_congr_left fun reader _ => refresh_other List.not_mem_nil
      simp [enumDevices, unlisted, newReaders, same]
  | cons device rest ih =>
      rw [List.map_cons, List.nodup_cons] at distinct
      rw [enumDevices]
      by_cases present : device.address ∈ readers.map ReaderCtapi.address
      · have others : unlisted readers (device :: rest) = unlisted readers rest := by
          simp only [unlisted, List.filter_cons, present, not_true_eq_false, decide_false, Bool.false_eq_true, if_false]
        have unchanged : unlisted (readers.map (refresh counter [device.address])) rest = unlisted readers rest := by
          rw [unlisted, addresses_refresh]
          rfl
        rw [foundReader_some listed present]
        simp only
        rw [ih (by rwa [addresses_refresh]) distinct.2, others, unchanged, List.map_map]
        congr 2
        apply List.map_congr_left
        exact fun reader _ => refresh_refresh [device.address] _ reader
      · have grown : ((readers ++ [newReader created count device]).map ReaderCtapi.address).Nodup := by
          rw [List.map_append, List.map_singleton, List.nodup_append]
          refine ⟨listed, by simp, ?_⟩
          intro one member other last equal
          rw [List.mem_singleton] at last
          exact present (by rw [← address_newReader created count device, ← last, ← equal]; exact member)
        have others : unlisted (readers ++ [newReader created count device]) rest = unlisted readers rest := by
          apply List.filter_congr
          intro other member
          have apart : other.address ≠ device.address :=
            fun equal => distinct.1 (equal ▸ List.mem_map_of_mem member)
          simp [apart]
        have first : unlisted readers (device :: rest) = device :: unlisted readers rest := by
          simp only [unlisted, List.filter_cons, present, not_false_eq_true, decide_true, if_true]
        have before : readers.map (refresh counter (rest.map UsbDevice.address)) =
            readers.map (refresh counter ((device :: rest).map UsbDevice.address)) := by
          apply List.map_congr_left
          intro reader member
          have apart : reader.address ≠ device.address :=
            fun equal => present (equal ▸ List.mem_map_of_mem member)
          simp [refresh, apart]
        rw [foundReader_none present]
        simp only
        rw [ih grown distinct.2, others, first, List.map_append, before, List.map_singleton,
          refresh_other (by simpa using distinct.1)]
        simp [newReaders, Nat.add_assoc, Nat.add_comm 1]

theorem addresses_newReaders (created count : Nat) (devices : List UsbDevice) :
    (newReaders created count devices).map ReaderCtapi.address = devices.map UsbDevice.address := by
  induction devices generalizing created count with
  | nil => rfl
  | cons device rest ih => rw [newReaders, List.map_cons, ih, address_newReader, List.map_cons]

theorem objects_newReaders (created count : Nat) (devices : List UsbDevice) :
    (newReaders created count devices).map ReaderCtapi.object = List.range' created devices.length := by
  induction devices generalizing created count with
  | nil => rfl
  | cons device rest ih =>
      rw [newReaders, List.map_cons, ih, List.length_cons, List.range'_succ]
      rfl

theorem counter_newReaders {reader : ReaderCtapi} (member : reader ∈ newReaders created count devices) :
    reader.updateCounter = 0 := by
  induction devices generalizing created count with
  | nil => contradiction
  | cons device rest ih =>
      rw [newReaders, List.mem_cons] at member
      rcases member with rfl | later
      · rfl
      · exact ih later

/-! ## The icons -/

theorem applyReaderList_append (front back : List ReaderCtapi) (items : List Nat) :
    applyReaderList counter (front ++ back) items =
      ((applyReaderList counter front items).1 ++
          (applyReaderList counter back (applyReaderList counter front items).2).1,
        (applyReaderList counter back (applyReaderList counter front items).2).2) := by
  induction front generalizing items with
  | nil => rfl
  | cons reader rest ih => simp [applyReaderList, ih]

/-- The icons of the readers that are gone are removed. -/
theorem applyReaderList_olds (counted : ∀ reader ∈ olds, reader.updateCounter > 0)
    (distinct : (kept ++ olds.map ReaderCtapi.object).Nodup) :
    applyReaderList counter olds (kept ++ olds.map ReaderCtapi.object) =
      (olds, kept ++ (olds.filter fun reader => ¬ Old counter reader).map ReaderCtapi.object) := by
  induction olds generalizing kept with
  | nil => rfl
  | cons reader rest ih =>
      rw [List.forall_mem_cons] at counted
      have some : ¬ reader.updateCounter = 0 := Nat.ne_of_gt counted.1
      rw [applyReaderList, applyReader, if_neg some]
      by_cases old : reader.updateCounter < counter
      · have gone : Old counter reader := ⟨counted.1, old⟩
        have apart : reader.object ∉ kept := by
          rw [List.nodup_append] at distinct
          exact fun member => distinct.2.2 _ member _ (by simp) rfl
        have removed : (kept ++ (reader :: rest).map ReaderCtapi.object).erase reader.object =
            kept ++ rest.map ReaderCtapi.object := by
          rw [List.erase_append_right _ apart, List.map_cons, List.erase_cons_head]
        have smaller : (kept ++ rest.map ReaderCtapi.object).Nodup := by
          rw [← removed]
          exact distinct.erase _
        rw [if_pos old]
        simp only [removed, ih counted.2 smaller, List.filter_cons, gone, not_true_eq_false, decide_false,
          Bool.false_eq_true, if_false]
      · have stays : ¬ Old counter reader := fun gone => old gone.2
        have shifted : kept ++ (reader :: rest).map ReaderCtapi.object =
            (kept ++ [reader.object]) ++ rest.map ReaderCtapi.object := by
          simp
        rw [if_neg old]
        rw [shifted] at distinct ⊢
        simp only [ih counted.2 distinct, List.filter_cons, stays, not_false_eq_true, decide_true, if_true]
        simp

theorem applyReaderList_news {news : List ReaderCtapi} (fresh : ∀ reader ∈ news, reader.updateCounter = 0)
    (items : List Nat) :
    applyReaderList counter news items =
      (news.map (setUpdateCounter counter), items ++ news.map ReaderCtapi.object) := by
  induction news generalizing items with
  | nil => simp [applyReaderList]
  | cons reader rest ih =>
      rw [List.forall_mem_cons] at fresh
      simp [applyReaderList, applyReader, fresh.1, ih fresh.2]

/-! ## Deleting readers -/

theorem deleteReader_free {reader : ReaderCtapi} (free : reader.object ∉ window.items) :
    deleteReader window reader = window := by
  simp [deleteReader, free]

theorem filter_eraseP {α : Type} (gone : α → Bool) (list : List α) :
    (list.eraseP gone).filter (fun item => ! gone item) = list.filter fun item => ! gone item := by
  induction list with
  | nil => rfl
  | cons item rest ih =>
      cases here : gone item with
      | true => simp [here]
      | false => simp [here, ih]

/-- Deleting readers that no icon points to. -/
theorem removeOldReaders_eq {passes : Nat} (enough : window.readerList.length < passes)
    (free : ∀ reader ∈ window.readerList, Old window.updateCounter reader → reader.object ∉ window.items) :
    removeOldReaders passes window =
      { window with readerList := window.readerList.filter fun reader => ¬ Old window.updateCounter reader } := by
  induction passes generalizing window with
  | zero => contradiction
  | succ passes ih =>
      rw [removeOldReaders]
      cases found : window.readerList.find? fun reader => Old window.updateCounter reader with
      | none =>
          have none : ∀ reader ∈ window.readerList, ¬ Old window.updateCounter reader := by
            simpa using List.find?_eq_none.mp found
          rw [List.filter_eq_self.mpr (by simpa using none)]
      | some reader =>
          have member := List.mem_of_find?_eq_some found
          have old : Old window.updateCounter reader := by simpa using List.find?_some found
          simp only [deleteReader_free (free reader member old)]
          have shorter := List.length_eraseP_of_mem (p := fun reader => decide (Old window.updateCounter reader)) member
            (by simpa using old)
          have positive := List.length_pos_of_mem member
          rw [ih]
          · have same := filter_eraseP (fun reader => decide (Old window.updateCounter reader)) window.readerList
            simp only [decide_not] at same ⊢
            rw [same]
          · dsimp only
            omega
          · intro other inside
            exact free other (List.mem_of_mem_eraseP inside)

theorem foldl_deleteReader (empty : window.items = []) (readers : List ReaderCtapi) :
    readers.foldl deleteReader window = window := by
  induction readers with
  | nil => rfl
  | cons reader rest ih => rw [List.foldl_cons, deleteReader_free (by simp [empty]), ih]

theorem clearReaders_eq (window : MainWindow) :
    clearReaders { window with items := [] } = { window with readerList := [], items := [] } := by
  rw [clearReaders, foldl_deleteReader rfl]

theorem object_unique {list : List ReaderCtapi} {wanted : ReaderCtapi → Bool}
    (objects : (list.map ReaderCtapi.object).Nodup) {reader : ReaderCtapi} (member : reader ∈ list)
    (unwanted : wanted reader = false) : reader.object ∉ (list.filter wanted).map ReaderCtapi.object := by
  intro there
  obtain ⟨other, inside, same⟩ := List.mem_map.mp there
  rw [List.mem_filter] at inside
  have equal := List.inj_on_of_nodup_map objects inside.1 member same
  rw [equal, unwanted] at inside
  exact absurd inside.2 (by decide)

/-! ## One call -/

/-- What holds between the calls: every reader is one of the last round, and has an icon. -/
structure Settled (window : MainWindow) : Prop where
  safe : window.dangling = false
  shown : window.items = window.readerList.map ReaderCtapi.object
  objects : (window.readerList.map ReaderCtapi.object).Nodup
  created : ∀ reader ∈ window.readerList, reader.object < window.created
  addresses : (window.readerList.map ReaderCtapi.address).Nodup
  current : ∀ reader ∈ window.readerList, reader.updateCounter = window.updateCounter
  counted : window.readerList ≠ [] → 0 < window.updateCounter

theorem settled_empty (safe : window.dangling = false) :
    Settled { window with readerList := [], items := [] } :=
  ⟨safe, rfl, List.nodup_nil, by simp, List.nodup_nil, by simp, fun some => absurd rfl some⟩

/-- The readers behind a scan. -/
def nextReaders (window : MainWindow) (devices : List UsbDevice) : List ReaderCtapi :=
  (window.readerList.filter fun reader => reader.address ∈ devices.map UsbDevice.address).map
      (setUpdateCounter (window.updateCounter + 1)) ++
    (newReaders window.created 0 (unlisted window.readerList devices)).map
      (setUpdateCounter (window.updateCounter + 1))

variable {addresses : List (Nat × Nat)}

theorem old_refresh {reader : ReaderCtapi} (counted : 0 < reader.updateCounter) (past : reader.updateCounter < counter) :
    Old counter (refresh counter addresses reader) ↔ reader.address ∉ addresses := by
  unfold refresh Old
  split
  · rename_i present
    simp [present]
  · rename_i absent
    simp [absent, counted, past]

theorem stays_refresh (counted : ∀ reader ∈ readers, 0 < reader.updateCounter ∧ reader.updateCounter < counter) :
    ((readers.map (refresh counter addresses)).filter fun reader => ¬ Old counter reader) =
      (readers.filter fun reader => reader.address ∈ addresses).map (setUpdateCounter counter) := by
  rw [List.filter_map]
  have same : (readers.filter ((fun reader => decide (¬ Old counter reader)) ∘ refresh counter addresses)) =
      readers.filter fun reader => reader.address ∈ addresses := by
    apply List.filter_congr
    intro reader member
    simp [old_refresh (counted reader member).1 (counted reader member).2]
  rw [same]
  apply List.map_congr_left
  intro reader member
  exact if_pos (by simpa using (List.mem_filter.mp member).2)

/-- A round of a window that is settled. -/
theorem update_settled (settled : Settled window) (few : window.updateCounter + 1 < 4294967296)
    (distinct : (devices.map UsbDevice.address).Nodup) :
    updateReaderList false (some devices) window = (.Ok,
      { window with
        readerList := nextReaders window devices
        updateCounter := window.updateCounter + 1
        created := window.created + (unlisted window.readerList devices).length
        items := (nextReaders window devices).map ReaderCtapi.object }) := by
  have same : window.readerList.map (fun reader =>
      if reader.updateCounter = 0 then setUpdateCounter window.updateCounter reader else reader) =
        window.readerList := by
    conv_rhs => rw [← List.map_id window.readerList]
    apply List.map_congr_left
    intro reader member
    have counted := settled.counted (List.ne_nil_of_mem member)
    rw [settled.current reader member, if_neg (by omega)]
    rfl
  generalize next : window.updateCounter + 1 = counter at few ⊢
  generalize fresh : newReaders window.created 0 (unlisted window.readerList devices) = news
  generalize refreshed : window.readerList.map (refresh counter (devices.map UsbDevice.address)) = olds
  have news_objects : news.map ReaderCtapi.object =
      List.range' window.created (unlisted window.readerList devices).length := by
    rw [← fresh, objects_newReaders]
  have news_counters : ∀ reader ∈ news, reader.updateCounter = 0 := by
    rw [← fresh]
    exact fun reader member => counter_newReaders member
  have olds_objects : olds.map ReaderCtapi.object = window.readerList.map ReaderCtapi.object := by
    rw [← refreshed, objects_refresh]
  have past : ∀ reader ∈ window.readerList, 0 < reader.updateCounter ∧ reader.updateCounter < counter := by
    intro reader member
    have counted := settled.counted (List.ne_nil_of_mem member)
    rw [settled.current reader member]
    omega
  have olds_counters : ∀ reader ∈ olds, reader.updateCounter > 0 := by
    rw [← refreshed]
    intro reader member
    obtain ⟨old, inside, rfl⟩ := List.mem_map.mp member
    unfold refresh
    split
    · simp only [counter_setUpdateCounter]
      omega
    · exact (past old inside).1
  have stay : (olds.filter fun reader => ¬ Old counter reader) =
      (window.readerList.filter fun reader => reader.address ∈ devices.map UsbDevice.address).map
        (setUpdateCounter counter) := by
    rw [← refreshed, stays_refresh past]
  have news_stay : ((news.map (setUpdateCounter counter)).filter fun reader => ¬ Old counter reader) =
      news.map (setUpdateCounter counter) := by
    rw [List.filter_eq_self]
    intro reader member
    obtain ⟨old, inside, rfl⟩ := List.mem_map.mp member
    simp [Old]
  have all_objects : ((olds ++ news.map (setUpdateCounter counter)).map ReaderCtapi.object).Nodup := by
    have same_objects : (news.map (setUpdateCounter counter)).map ReaderCtapi.object = news.map ReaderCtapi.object := by
      simp
    rw [List.map_append, same_objects, olds_objects, news_objects, List.nodup_append]
    refine ⟨settled.objects, List.nodup_range', ?_⟩
    intro one first other second equal
    obtain ⟨reader, member, rfl⟩ := List.mem_map.mp first
    have below := settled.created reader member
    have above := (List.mem_range'_1.mp second).1
    omega
  have enumerated : enumReaders window (some devices) = (.Ok,
      { window with
        readerList := olds ++ news
        updateCounter := counter
        created := window.created + (unlisted window.readerList devices).length }) := by
    simp only [enumReaders, same, next, Nat.mod_eq_of_lt few, enumDevices_eq settled.addresses distinct, refreshed, fresh]
  have icons : applyReaderList counter (olds ++ news) window.items =
      (olds ++ news.map (setUpdateCounter counter),
        (olds.filter fun reader => ¬ Old counter reader).map ReaderCtapi.object ++ news.map ReaderCtapi.object) := by
    have first := @applyReaderList_olds olds counter [] olds_counters (by
      rw [List.nil_append, olds_objects]
      exact settled.objects)
    rw [settled.shown, ← olds_objects, applyReaderList_append]
    simp only [List.nil_append] at first
    rw [first, applyReaderList_news news_counters]
  have left : ((olds ++ news.map (setUpdateCounter counter)).filter fun reader => ¬ Old counter reader) =
      nextReaders window devices := by
    rw [List.filter_append, stay, news_stay, nextReaders, next, fresh]
  have shown : (olds.filter fun reader => ¬ Old counter reader).map ReaderCtapi.object ++
      news.map ReaderCtapi.object = (nextReaders window devices).map ReaderCtapi.object := by
    rw [← left, List.filter_append, news_stay, List.map_append, List.map_map]
    rfl
  rw [updateReaderList, if_neg (by decide), enumerated]
  simp only [icons, shown]
  refine congrArg _ ((removeOldReaders_eq (Nat.lt_succ_self _) ?_).trans ?_)
  · intro reader member old
    dsimp only at member old ⊢
    rw [← left]
    exact object_unique all_objects member (by simpa using old)
  · simp only [left]

theorem address_nextReaders (window : MainWindow) (devices : List UsbDevice) (address : Nat × Nat) :
    address ∈ (nextReaders window devices).map ReaderCtapi.address ↔ address ∈ devices.map UsbDevice.address := by
  have news : ((newReaders window.created 0 (unlisted window.readerList devices)).map
      (setUpdateCounter (window.updateCounter + 1))).map ReaderCtapi.address =
        (unlisted window.readerList devices).map UsbDevice.address := by
    rw [List.map_map, ← addresses_newReaders window.created 0]
    rfl
  rw [nextReaders, List.map_append, List.mem_append, news]
  constructor
  · rintro (stays | fresh)
    · obtain ⟨reader, member, rfl⟩ := List.mem_map.mp stays
      obtain ⟨old, inside, rfl⟩ := List.mem_map.mp member
      simpa using (List.mem_filter.mp inside).2
    · obtain ⟨device, member, rfl⟩ := List.mem_map.mp fresh
      exact List.mem_map_of_mem (List.mem_filter.mp member).1
  · intro attached
    by_cases listed : address ∈ window.readerList.map ReaderCtapi.address
    · obtain ⟨reader, member, rfl⟩ := List.mem_map.mp listed
      refine .inl (List.mem_map.mpr ⟨setUpdateCounter (window.updateCounter + 1) reader, ?_, rfl⟩)
      exact List.mem_map_of_mem (List.mem_filter.mpr ⟨member, by simpa using attached⟩)
    · obtain ⟨device, member, rfl⟩ := List.mem_map.mp attached
      exact .inr (List.mem_map_of_mem (List.mem_filter.mpr ⟨member, by simpa using listed⟩))

theorem settled_next (settled : Settled window) (distinct : (devices.map UsbDevice.address).Nodup) :
    Settled
      { window with
        readerList := nextReaders window devices
        updateCounter := window.updateCounter + 1
        created := window.created + (unlisted window.readerList devices).length
        items := (nextReaders window devices).map ReaderCtapi.object } := by
  have split : (nextReaders window devices).map ReaderCtapi.object =
      ((window.readerList.filter fun reader => reader.address ∈ devices.map UsbDevice.address).map
          ReaderCtapi.object) ++ List.range' window.created (unlisted window.readerList devices).length := by
    rw [nextReaders, List.map_append, List.map_map, List.map_map, ← objects_newReaders window.created 0]
    rfl
  have places : (nextReaders window devices).map ReaderCtapi.address =
      ((window.readerList.filter fun reader => reader.address ∈ devices.map UsbDevice.address).map
          ReaderCtapi.address) ++ (unlisted window.readerList devices).map UsbDevice.address := by
    rw [nextReaders, List.map_append, List.map_map, List.map_map,
      ← addresses_newReaders window.created 0 (unlisted window.readerList devices)]
    rfl
  refine ⟨settled.safe, rfl, ?_, ?_, ?_, ?_, fun _ => Nat.succ_pos _⟩
  · dsimp only
    rw [split, List.nodup_append]
    refine ⟨settled.objects.sublist (List.filter_sublist.map _), List.nodup_range', ?_⟩
    intro one first other second equal
    obtain ⟨reader, member, rfl⟩ := List.mem_map.mp first
    have below := settled.created reader (List.mem_filter.mp member).1
    have above := (List.mem_range'_1.mp second).1
    omega
  · intro reader member
    have object : reader.object ∈ (nextReaders window devices).map ReaderCtapi.object := List.mem_map_of_mem member
    rw [split, List.mem_append] at object
    rcases object with old | fresh
    · obtain ⟨before, inside, same⟩ := List.mem_map.mp old
      have below := settled.created before (List.mem_filter.mp inside).1
      dsimp only
      omega
    · have inside := (List.mem_range'_1.mp fresh).2
      exact inside
  · dsimp only
    rw [places, List.nodup_append]
    refine ⟨settled.addresses.sublist (List.filter_sublist.map _), distinct.sublist (List.filter_sublist.map _), ?_⟩
    intro one first other second equal
    obtain ⟨reader, member, rfl⟩ := List.mem_map.mp first
    obtain ⟨device, inside, rfl⟩ := List.mem_map.mp second
    have absent := (List.mem_filter.mp inside).2
    rw [← equal] at absent
    simp only [decide_eq_true_eq] at absent
    exact absent (List.mem_map_of_mem (List.mem_filter.mp member).1)
  · intro reader member
    rw [nextReaders, List.mem_append] at member
    rcases member with old | fresh
    · obtain ⟨_, _, rfl⟩ := List.mem_map.mp old
      rfl
    · obtain ⟨_, _, rfl⟩ := List.mem_map.mp fresh
      rfl

/-- What the client may do: the devices have different addresses, and the counter of the rounds does not
overflow. -/
def Allowed (window : MainWindow) (call : WindowCall) : Prop :=
  window.updateCounter + 1 < 4294967296 ∧ Distinct call

instance (call : WindowCall) : Decidable (Distinct call) :=
  match call with
  | .updateReaderList _ (some devices) => inferInstanceAs (Decidable (devices.map UsbDevice.address).Nodup)
  | .updateReaderList _ none => .isTrue trivial
  | .closeDriver => .isTrue trivial

instance (window : MainWindow) (call : WindowCall) : Decidable (Allowed window call) :=
  inferInstanceAs (Decidable (_ ∧ _))

theorem updateReaderList_force (scan : Option (List UsbDevice)) (window : MainWindow) :
    updateReaderList true scan window = updateReaderList false scan { window with readerList := [], items := [] } := by
  simp only [updateReaderList, if_true, clearReaders_eq, Bool.false_eq_true, if_false]

theorem updateReaderList_none (settled : Settled window) :
    (updateReaderList false none window).2.readerList = [] ∧ Settled (updateReaderList false none window).2 := by
  have cleared : (updateReaderList false none window).2 =
      clearReaders { (enumReaders window none).2 with items := [] } := rfl
  rw [cleared, clearReaders_eq]
  exact ⟨rfl, settled_empty (show (enumReaders window none).2.dangling = false from settled.safe)⟩

/-- A call that empties the list. -/
theorem emptied_right {before after : MainWindow} {call : WindowCall} {rv : ErrorCode} (settled : Settled after)
    (empty : after.readerList = []) (other : ∀ force devices, call ≠ .updateReaderList force (some devices)) :
    ListRight before call rv after where
  safe := settled.safe
  shown := settled.shown
  objects := settled.objects
  addresses := settled.addresses
  attached force devices same := absurd same (other force devices)
  kept devices same := absurd same (other false devices)
  failed _ := empty

theorem scanned_right (settled : Settled window) (few : window.updateCounter + 1 < 4294967296)
    (distinct : (devices.map UsbDevice.address).Nodup) (force : Bool) (before : MainWindow)
    (same : force = false → before = window) :
    ListRight before (.updateReaderList force (some devices)) (updateReaderList false (some devices) window).1
        (updateReaderList false (some devices) window).2 ∧
      Settled (updateReaderList false (some devices) window).2 := by
  have next := settled_next settled distinct
  rw [update_settled settled few distinct]
  refine ⟨⟨next.safe, next.shown, next.objects, next.addresses, ?_, ?_, ?_⟩, next⟩
  · intro _ _ call
    cases call
    exact ⟨rfl, address_nextReaders window devices⟩
  · intro _ call reader member attached
    cases call
    rw [same rfl] at member
    refine List.mem_append_left _ (List.mem_map_of_mem (List.mem_filter.mpr ⟨member, ?_⟩))
    simpa using attached
  · intro other
    exact absurd rfl (other force devices)

theorem mainWindow_right (settled : Settled window) {call : WindowCall} (allowed : Allowed window call) :
    ListRight window call (mainWindow window call).1 (mainWindow window call).2 ∧
      Settled (mainWindow window call).2 := by
  obtain ⟨few, distinct⟩ := allowed
  cases call with
  | closeDriver =>
      simp only [mainWindow, closeDriver, clearReaders_eq]
      have empty : Settled { window with readerList := [], items := [], updateCounter := 0 } :=
        ⟨settled.safe, rfl, List.nodup_nil, by simp, List.nodup_nil, by simp, fun some => absurd rfl some⟩
      exact ⟨emptied_right empty rfl nofun, empty⟩
  | updateReaderList force scan =>
      cases scan with
      | none =>
          cases force with
          | true =>
              simp only [mainWindow, updateReaderList_force]
              obtain ⟨empty, next⟩ := updateReaderList_none (settled_empty settled.safe)
              exact ⟨emptied_right next empty nofun, next⟩
          | false =>
              obtain ⟨empty, next⟩ := updateReaderList_none settled
              exact ⟨emptied_right next empty nofun, next⟩
      | some devices =>
          cases force with
          | true =>
              simp only [mainWindow, updateReaderList_force]
              exact scanned_right (settled_empty settled.safe) few distinct true window nofun
          | false => exact scanned_right settled few distinct false window fun _ => rfl

/-- Over all runs of the client: no icon ever points to a deleted reader, and behind every round that succeeds the
list is that of the devices. -/
theorem lists_right (calls : List WindowCall) (allowed : Keeps Allowed (history mainWindow newWindow calls)) :
    ∀ entry ∈ history mainWindow newWindow calls,
      ListRight entry.before entry.input entry.answer entry.after := by
  have start : Settled newWindow :=
    ⟨rfl, rfl, List.nodup_nil, by simp [newWindow], List.nodup_nil, by simp [newWindow], by simp [newWindow]⟩
  exact @history_good _ _ _ mainWindow Settled Allowed
    (fun entry => ListRight entry.before entry.input entry.answer entry.after)
    (fun window call settled permitted => mainWindow_right settled permitted) newWindow start calls allowed

/-- A device at an address. -/
def deviceAt (busId busPos : Nat) : UsbDevice := ⟨busId, busPos, 0x0c4b, 0x0400, [], [], [], []⟩

/-- One device stays, one is unplugged and another one plugged in, and then a scan fails. -/
def pluggedCalls : List WindowCall :=
  [.updateReaderList true (some [deviceAt 1 4, deviceAt 1 5]),
    .updateReaderList false (some [deviceAt 2 3, deviceAt 1 4]), .updateReaderList false none]

/-- The second round. -/
def pluggedEntry : Entry MainWindow WindowCall ErrorCode :=
  mainWindow.entry (final mainWindow newWindow (pluggedCalls.take 1)) (.updateReaderList false (some
    [deviceAt 2 3, deviceAt 1 4]))

theorem lists_right_plugged :
    ListRight pluggedEntry.before pluggedEntry.input pluggedEntry.answer pluggedEntry.after :=
  lists_right pluggedCalls (by decide) pluggedEntry (.tail _ (.head _))

/-- Readers of different rounds may get one position, and with it the same number of a card terminal. -/
example : pluggedEntry.after.readerList.map (fun reader => (reader.object, reader.devicePos)) = [(0, 0), (2, 0)] := by
  decide

end Cyberjack.Libcyberjack
