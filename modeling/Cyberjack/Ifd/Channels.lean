import Mathlib.Data.Fintype.Card
import Cyberjack.Foundation.History

namespace Cyberjack.Ifd

open Cyberjack.Foundation

/-! # The channels of the IFD handler

`IFDHCreateChannel`, `IFDHCreateChannelByName` and `IFDHCloseChannel` of
`ifdhandler.c`, with the count and the table of units they share.  What
`CT_init`, `rsct_init_name`, `malloc` and `CT_close` return comes with the request.
-/

def IFDH_MAX_READERS : Nat := 32

def IFDH_MAX_SLOTS : Nat := 1

def PATHMAX : Nat := 256

inductive RESPONSECODE where
  | IFD_SUCCESS
  | IFD_COMMUNICATION_ERROR
deriving Repr, DecidableEq

/-- `deviceName` up to its zero; `memset` clears it. -/
structure IFDH_Status where
  deviceName : List UInt8
deriving Repr, DecidableEq

abbrev LogicalUnit := Fin IFDH_MAX_READERS

structure IfdDriver where
  rsct_ifd_driver_initialized : Int
  ifdh_status : LogicalUnit → Option IFDH_Status

/-- The static variables of the library. -/
def IfdDriver.loaded : IfdDriver := ⟨0, fun _ => none⟩

def initDriver (driver : IfdDriver) : Int × IfdDriver :=
  let driver := { driver with rsct_ifd_driver_initialized := driver.rsct_ifd_driver_initialized + 1 }
  if driver.rsct_ifd_driver_initialized > 1 then (0, driver)
  else (0, { driver with ifdh_status := fun _ => none })

def deinitDriver (driver : IfdDriver) : Int × IfdDriver :=
  if driver.rsct_ifd_driver_initialized < 1 then (-1, driver)
  else
    let driver := { driver with rsct_ifd_driver_initialized := driver.rsct_ifd_driver_initialized - 1 }
    if driver.rsct_ifd_driver_initialized < 1 then (0, { driver with ifdh_status := fun _ => none })
    else (0, driver)

/-- The unit a logical unit number names. -/
def unitOf (Lun : Nat) : Option LogicalUnit :=
  let ctn := Lun / 65536 % 65536
  let slot := Lun % 65536 % IFDH_MAX_SLOTS
  if valid : ctn < IFDH_MAX_READERS ∧ slot < IFDH_MAX_SLOTS then some ⟨ctn, valid.1⟩ else none

/-- What the reader library and `malloc` return. -/
structure Opening where
  ret : Int
  allocated : Bool

inductive Request where
  | createChannel (Lun Channel : Nat) (opening : Opening)
  | createChannelByName (Lun : Nat) (devName : List UInt8) (opening : Opening)
  | closeChannel (Lun : Nat) (ret : Int)

/-- The calls of the reader library. -/
inductive CtApiCall where
  | CT_init (ctn pn : Nat)
  | rsct_init_name (ctn : Nat) (devName : List UInt8)
  | CT_close (ctn : Nat)
deriving Repr, DecidableEq

structure Response where
  rv : RESPONSECODE
  calls : List CtApiCall
deriving Repr, DecidableEq

/-- Where the two functions differ: the call that opens the reader, the status set up for
it, and whether an open unit is given to the caller. -/
structure Creation where
  opens : CtApiCall
  created : IFDH_Status
  accepts : IFDH_Status → Bool

/-- A failure takes the initialisation back. -/
def failedCreation (driver : IfdDriver) (calls : List CtApiCall) : Response × IfdDriver :=
  (⟨.IFD_COMMUNICATION_ERROR, calls⟩, (deinitDriver driver).2)

/-- The body of both functions; `initDriver` always returns 0. -/
def createUnit (driver : IfdDriver) (ctn : LogicalUnit) (opening : Opening) (creation : Creation) :
    Response × IfdDriver :=
  let driver := (initDriver driver).2
  match driver.ifdh_status ctn with
  | none =>
      if opening.ret = 0 ∧ opening.allocated = true then
        (⟨.IFD_SUCCESS, [creation.opens]⟩,
          { driver with ifdh_status := Function.update driver.ifdh_status ctn (some creation.created) })
      else failedCreation driver [creation.opens]
  | some status =>
      if creation.accepts status = true then (⟨.IFD_SUCCESS, []⟩, driver) else failedCreation driver []

def IFDHCreateChannel (driver : IfdDriver) (Lun Channel : Nat) (opening : Opening) :
    Response × IfdDriver :=
  match unitOf Lun with
  | none => (⟨.IFD_COMMUNICATION_ERROR, []⟩, driver)
  | some ctn =>
      createUnit driver ctn opening {
        opens := .CT_init ctn ((Channel % 65536 + 1) % 65536)
        created := ⟨[]⟩
        accepts := fun _ => true }

/-- `strncpy` cuts a name off; an open unit is given to the caller that names it as before. -/
def IFDHCreateChannelByName (driver : IfdDriver) (Lun : Nat) (devName : List UInt8) (opening : Opening) :
    Response × IfdDriver :=
  match unitOf Lun with
  | none => (⟨.IFD_COMMUNICATION_ERROR, []⟩, driver)
  | some ctn =>
      createUnit driver ctn opening {
        opens := .rsct_init_name ctn devName
        created := ⟨devName.take PATHMAX⟩
        accepts := fun status => status.deviceName = [] ∨ status.deviceName = devName }

/-- The initialisation is taken back also where `CT_close` fails. -/
def IFDHCloseChannel (driver : IfdDriver) (Lun : Nat) (ret : Int) : Response × IfdDriver :=
  match unitOf Lun with
  | none => (⟨.IFD_COMMUNICATION_ERROR, []⟩, driver)
  | some ctn =>
      match driver.ifdh_status ctn with
      | none => (⟨.IFD_COMMUNICATION_ERROR, []⟩, driver)
      | some _ =>
          if ret = 0 then
            (⟨.IFD_SUCCESS, [.CT_close ctn]⟩, (deinitDriver { driver with
              ifdh_status := Function.update driver.ifdh_status ctn none }).2)
          else (⟨.IFD_COMMUNICATION_ERROR, [.CT_close ctn]⟩, (deinitDriver driver).2)

def ifdRequest : Machine IfdDriver Request Response
  | driver, .createChannel Lun Channel opening => IFDHCreateChannel driver Lun Channel opening
  | driver, .createChannelByName Lun devName opening => IFDHCreateChannelByName driver Lun devName opening
  | driver, .closeChannel Lun ret => IFDHCloseChannel driver Lun ret

/-! ## The bookkeeping -/

/-- The units that are open. -/
def IfdDriver.openUnits (driver : IfdDriver) : Finset LogicalUnit :=
  Finset.univ.filter fun unit => (driver.ifdh_status unit).isSome = true

/-- The count is that of the open units. -/
def IfdDriver.Counts (driver : IfdDriver) : Prop :=
  driver.rsct_ifd_driver_initialized = driver.openUnits.card

instance (driver : IfdDriver) : Decidable driver.Counts :=
  inferInstanceAs (Decidable (_ = _))

namespace Request

def Lun : Request → Nat
  | createChannel Lun _ _ => Lun
  | createChannelByName Lun _ _ => Lun
  | closeChannel Lun _ => Lun

def Closes : Request → Prop
  | closeChannel _ _ => True
  | _ => False

end Request

/-- What the bookkeeping promises of one call. -/
structure BooksKept (entry : Entry IfdDriver Request Response) : Prop where
  counted : entry.after.Counts
  others : entry.input.Closes ∨ entry.answer.rv ≠ .IFD_SUCCESS →
    ∀ unit, unitOf entry.input.Lun ≠ some unit → entry.after.ifdh_status unit = entry.before.ifdh_status unit
  closed : entry.input.Closes → entry.answer.rv = .IFD_SUCCESS →
    ∀ unit, unitOf entry.input.Lun = some unit → entry.after.ifdh_status unit = none
  reopened : ¬ entry.input.Closes →
    ∀ unit, unitOf entry.input.Lun = some unit → (entry.before.ifdh_status unit).isSome = true →
      entry.after.rsct_ifd_driver_initialized = entry.before.rsct_ifd_driver_initialized

/-- An open unit is not given out once more, and `CT_close` does not fail while another unit is open. -/
def BooksAllowed (driver : IfdDriver) : Request → Prop
  | .createChannel Lun _ _ => ∀ unit, unitOf Lun = some unit → driver.ifdh_status unit = none
  | .createChannelByName Lun devName _ =>
      ∀ unit status, unitOf Lun = some unit → driver.ifdh_status unit = some status →
        status.deviceName ≠ [] ∧ status.deviceName ≠ devName
  | .closeChannel Lun ret =>
      ∀ unit, unitOf Lun = some unit → (driver.ifdh_status unit).isSome = true →
        ret = 0 ∨ driver.openUnits.card = 1

variable {driver : IfdDriver} {unit ctn : LogicalUnit} {request : Request}

theorem mem_openUnits : unit ∈ driver.openUnits ↔ (driver.ifdh_status unit).isSome = true := by
  simp [IfdDriver.openUnits]

theorem closed_of_zero (counts : driver.Counts) (zero : driver.rsct_ifd_driver_initialized = 0)
    (unit : LogicalUnit) : driver.ifdh_status unit = none := by
  have empty : driver.openUnits.card = 0 := by
    have count : driver.rsct_ifd_driver_initialized = driver.openUnits.card := counts
    omega
  have absent : unit ∉ driver.openUnits := by
    rw [Finset.card_eq_zero.mp empty]
    exact Finset.notMem_empty unit
  rwa [mem_openUnits, Bool.not_eq_true, Option.isSome_eq_false_iff, Option.isNone_iff_eq_none] at absent

theorem counts_nonneg (counts : driver.Counts) : 0 ≤ driver.rsct_ifd_driver_initialized := by
  have count : driver.rsct_ifd_driver_initialized = driver.openUnits.card := counts
  omega

theorem counts_pos (counts : driver.Counts) (opened : (driver.ifdh_status unit).isSome = true) :
    1 ≤ driver.rsct_ifd_driver_initialized := by
  have count : driver.rsct_ifd_driver_initialized = driver.openUnits.card := counts
  have some : 0 < driver.openUnits.card := Finset.card_pos.mpr ⟨unit, mem_openUnits.mpr opened⟩
  omega

/-- The first initialisation finds the table empty. -/
theorem initDriver_of_counts (counts : driver.Counts) :
    (initDriver driver).2 =
      { driver with rsct_ifd_driver_initialized := driver.rsct_ifd_driver_initialized + 1 } := by
  simp only [initDriver]
  by_cases later : driver.rsct_ifd_driver_initialized + 1 > 1
  · rw [if_pos later]
  · have zero : driver.rsct_ifd_driver_initialized = 0 := by
      have nonneg := counts_nonneg counts
      omega
    have table : driver.ifdh_status = fun _ => none := funext (closed_of_zero counts zero)
    rw [if_neg later, table]

theorem deinitDriver_of_two (several : 2 ≤ driver.rsct_ifd_driver_initialized) :
    (deinitDriver driver).2 =
      { driver with rsct_ifd_driver_initialized := driver.rsct_ifd_driver_initialized - 1 } := by
  rw [deinitDriver, if_neg (by omega)]
  simp only
  rw [if_neg (by omega)]

theorem deinitDriver_of_one (single : driver.rsct_ifd_driver_initialized = 1) :
    (deinitDriver driver).2 = ⟨0, fun _ => none⟩ := by
  rw [deinitDriver, if_neg (by omega)]
  simp only
  rw [if_pos (by omega)]
  simp [single]

/-- A failed creation leaves the count and the table as they were. -/
theorem deinitDriver_initDriver (counts : driver.Counts) :
    (deinitDriver (initDriver driver).2).2 = driver := by
  rw [initDriver_of_counts counts]
  by_cases zero : driver.rsct_ifd_driver_initialized = 0
  · have table : driver.ifdh_status = fun _ => none := funext (closed_of_zero counts zero)
    rw [deinitDriver_of_one (by simp [zero])]
    cases driver
    simp_all
  · have nonneg := counts_nonneg counts
    rw [deinitDriver_of_two (by simp only; omega)]
    cases driver
    simp

theorem counts_of_opened (counts : driver.Counts) (free : driver.ifdh_status ctn = none)
    (status : IFDH_Status) :
    IfdDriver.Counts ⟨driver.rsct_ifd_driver_initialized + 1,
      Function.update driver.ifdh_status ctn (some status)⟩ := by
  have units : IfdDriver.openUnits ⟨driver.rsct_ifd_driver_initialized + 1,
      Function.update driver.ifdh_status ctn (some status)⟩ = insert ctn driver.openUnits := by
    ext unit
    rw [mem_openUnits, Finset.mem_insert, mem_openUnits]
    by_cases same : unit = ctn
    · simp [same]
    · simp [same]
  have absent : ctn ∉ driver.openUnits := by
    rw [mem_openUnits, free]
    simp
  have count : driver.rsct_ifd_driver_initialized = driver.openUnits.card := counts
  rw [IfdDriver.Counts, units, Finset.card_insert_of_notMem absent]
  simp only
  omega

theorem openUnits_closed (count : Int) :
    IfdDriver.openUnits ⟨count, Function.update driver.ifdh_status ctn none⟩ = driver.openUnits.erase ctn := by
  ext unit
  rw [mem_openUnits, Finset.mem_erase, mem_openUnits]
  by_cases same : unit = ctn
  · simp [same]
  · simp [same]

/-- What `CT_close` leaves where it succeeds: the unit is gone from the table and the count. -/
theorem deinitDriver_closed (counts : driver.Counts) (opened : (driver.ifdh_status ctn).isSome = true) :
    (deinitDriver { driver with ifdh_status := Function.update driver.ifdh_status ctn none }).2 =
      ⟨driver.rsct_ifd_driver_initialized - 1, Function.update driver.ifdh_status ctn none⟩ := by
  have positive := counts_pos counts opened
  by_cases single : driver.rsct_ifd_driver_initialized = 1
  · have count : driver.rsct_ifd_driver_initialized = driver.openUnits.card := counts
    have only : driver.openUnits = {ctn} := by
      obtain ⟨unit, units⟩ := Finset.card_eq_one.mp (by omega : driver.openUnits.card = 1)
      have member := mem_openUnits.mpr opened
      rw [units, Finset.mem_singleton] at member
      rw [units, member]
    have table : Function.update driver.ifdh_status ctn none = fun _ => none := by
      funext unit
      by_cases same : unit = ctn
      · rw [same, Function.update_self]
      · have absent : unit ∉ driver.openUnits := by
          rwa [only, Finset.mem_singleton]
        rw [mem_openUnits, Bool.not_eq_true, Option.isSome_eq_false_iff, Option.isNone_iff_eq_none] at absent
        rw [Function.update_of_ne same, absent]
    rw [deinitDriver_of_one (by simpa using single), single, table]
    rfl
  · rw [deinitDriver_of_two (by simp only; omega)]

theorem counts_of_closed (counts : driver.Counts) (opened : (driver.ifdh_status ctn).isSome = true) :
    IfdDriver.Counts ⟨driver.rsct_ifd_driver_initialized - 1, Function.update driver.ifdh_status ctn none⟩ := by
  have count : driver.rsct_ifd_driver_initialized = driver.openUnits.card := counts
  have positive := counts_pos counts opened
  rw [IfdDriver.Counts, openUnits_closed, Finset.card_erase_of_mem (mem_openUnits.mpr opened)]
  simp only
  omega

/-! ## One call -/

theorem booksKept_unchanged (counts : driver.Counts) {answer : Response}
    (failed : request.Closes → answer.rv ≠ .IFD_SUCCESS) : BooksKept ⟨driver, request, answer, driver⟩ where
  counted := counts
  others := fun _ _ _ => rfl
  closed := fun closes success => absurd success (failed closes)
  reopened := fun _ _ _ _ => rfl

theorem createUnit_kept (counts : driver.Counts) (names : unitOf request.Lun = some ctn)
    (creates : ¬ request.Closes) (opening : Opening) (creation : Creation) :
    BooksKept ⟨driver, request, (createUnit driver ctn opening creation).1,
        (createUnit driver ctn opening creation).2⟩ ↔
      ∀ status, driver.ifdh_status ctn = some status → creation.accepts status = false := by
  have failed : (deinitDriver { driver with
      rsct_ifd_driver_initialized := driver.rsct_ifd_driver_initialized + 1 }).2 = driver := by
    rw [← initDriver_of_counts counts, deinitDriver_initDriver counts]
  simp only [createUnit, initDriver_of_counts counts, failedCreation, failed]
  cases found : driver.ifdh_status ctn with
  | none =>
      simp only [reduceCtorEq, false_implies, implies_true, iff_true]
      by_cases opened : opening.ret = 0 ∧ opening.allocated = true
      · rw [if_pos opened]
        exact {
          counted := counts_of_opened counts found creation.created
          others := by
            intro failure
            rcases failure with closes | unsuccessful
            · exact absurd closes creates
            · exact absurd rfl unsuccessful
          closed := fun closes => absurd closes creates
          reopened := by
            intro _ unit named opened
            rw [names, Option.some.injEq] at named
            rw [← named, found] at opened
            contradiction }
      · rw [if_neg opened]
        exact booksKept_unchanged counts fun closes => absurd closes creates
  | some status =>
      simp only [Option.some.injEq, forall_eq']
      by_cases accepted : creation.accepts status = true
      · rw [if_pos accepted, accepted]
        constructor
        · intro kept
          have same := kept.reopened creates ctn names (by rw [found]; rfl)
          simp only at same
          omega
        · intro refused
          contradiction
      · rw [if_neg accepted]
        exact iff_of_true (booksKept_unchanged counts fun closes => absurd closes creates)
          (Bool.not_eq_true _ ▸ accepted)

theorem closeChannel_kept (counts : driver.Counts) (Lun : Nat) (ret : Int) :
    BooksKept (ifdRequest.entry driver (.closeChannel Lun ret)) ↔
      BooksAllowed driver (.closeChannel Lun ret) := by
  have unsuccessful : RESPONSECODE.IFD_COMMUNICATION_ERROR ≠ .IFD_SUCCESS := by decide
  simp only [Machine.entry, ifdRequest, IFDHCloseChannel, BooksAllowed]
  cases names : unitOf Lun with
  | none =>
      simp only [reduceCtorEq, false_implies, implies_true, iff_true]
      exact booksKept_unchanged counts fun _ => unsuccessful
  | some ctn =>
      simp only [Option.some.injEq, forall_eq']
      cases found : driver.ifdh_status ctn with
      | none =>
          simp only [Option.isSome_none, Bool.false_eq_true, false_implies, iff_true]
          exact booksKept_unchanged counts fun _ => unsuccessful
      | some status =>
          have opened : (driver.ifdh_status ctn).isSome = true := by
            rw [found]
            rfl
          simp only [Option.isSome_some, forall_const]
          by_cases closes : ret = 0
          · rw [if_pos closes, deinitDriver_closed counts opened]
            refine iff_of_true ?_ (.inl closes)
            exact {
              counted := counts_of_closed counts opened
              others := by
                intro _ unit other
                have different : unit ≠ ctn := by
                  intro same
                  rw [same] at other
                  exact other names
                exact Function.update_of_ne different _ _
              closed := by
                intro _ _ unit named
                change unitOf Lun = some unit at named
                rw [names, Option.some.injEq] at named
                rw [← named]
                exact Function.update_self _ _ _
              reopened := fun creates => absurd trivial creates }
          · have count : driver.rsct_ifd_driver_initialized = driver.openUnits.card := counts
            rw [if_neg closes]
            by_cases single : driver.openUnits.card = 1
            · rw [deinitDriver_of_one (by omega)]
              refine iff_of_true ?_ (.inr single)
              exact {
                counted := by simp [IfdDriver.Counts, IfdDriver.openUnits]
                others := by
                  intro _ unit other
                  obtain ⟨only, units⟩ := Finset.card_eq_one.mp single
                  have first := mem_openUnits.mpr opened
                  have absent : unit ∉ driver.openUnits := by
                    intro second
                    rw [units, Finset.mem_singleton] at first second
                    rw [second, ← first] at other
                    exact other names
                  rw [mem_openUnits, Bool.not_eq_true, Option.isSome_eq_false_iff,
                    Option.isNone_iff_eq_none] at absent
                  exact absent.symm
                closed := fun _ success => absurd success unsuccessful
                reopened := fun creates => absurd trivial creates }
            · have positive := counts_pos counts opened
              rw [deinitDriver_of_two (by omega)]
              constructor
              · intro kept
                have after : driver.rsct_ifd_driver_initialized - 1 = driver.openUnits.card := kept.counted
                omega
              · intro allowed
                rcases allowed with zero | one
                · exact absurd zero closes
                · exact absurd one single

theorem booksKept_iff (counts : driver.Counts) (request : Request) :
    BooksKept (ifdRequest.entry driver request) ↔ BooksAllowed driver request := by
  cases request with
  | createChannel Lun Channel opening =>
      cases names : unitOf Lun with
      | none =>
          simp only [Machine.entry, ifdRequest, IFDHCreateChannel, BooksAllowed, names, reduceCtorEq,
            false_implies, implies_true, iff_true]
          exact booksKept_unchanged counts fun closes => closes.elim
      | some ctn =>
          have kept := @createUnit_kept _ _ (.createChannel Lun Channel opening) counts names
            (fun closes => closes) opening
            ⟨.CT_init ctn ((Channel % 65536 + 1) % 65536), ⟨[]⟩, fun _ => true⟩
          simp only [Machine.entry, ifdRequest, IFDHCreateChannel, BooksAllowed, names, kept,
            Option.some.injEq, forall_eq']
          cases found : driver.ifdh_status ctn with
          | none => simp
          | some status => simp
  | createChannelByName Lun devName opening =>
      cases names : unitOf Lun with
      | none =>
          simp only [Machine.entry, ifdRequest, IFDHCreateChannelByName, BooksAllowed, names, reduceCtorEq,
            false_implies, implies_true, iff_true]
          exact booksKept_unchanged counts fun closes => closes.elim
      | some ctn =>
          have kept := @createUnit_kept _ _ (.createChannelByName Lun devName opening) counts names
            (fun closes => closes) opening ⟨.rsct_init_name ctn devName, ⟨devName.take PATHMAX⟩,
              fun status => status.deviceName = [] ∨ status.deviceName = devName⟩
          simp only [Machine.entry, ifdRequest, IFDHCreateChannelByName, BooksAllowed, names, kept,
            Option.some.injEq, decide_eq_false_iff_not, not_or]
          constructor
          · intro refused unit status named
            rw [← named]
            exact refused status
          · intro allowed status
            exact allowed ctn status rfl
  | closeChannel Lun ret => exact closeChannel_kept counts Lun ret

/-- In every sequence of calls the books are kept exactly when no open unit is given out once
more and `CT_close` fails at most for the last unit that is open. -/
theorem books_kept_iff (requests : List Request) :
    (∀ entry ∈ history ifdRequest .loaded requests, BooksKept entry) ↔
      Keeps BooksAllowed (history ifdRequest .loaded requests) :=
  history_iff (fun _ request counts => booksKept_iff counts request)
    (fun _ request counts allowed => ((booksKept_iff counts request).mpr allowed).counted)
    (by simp [IfdDriver.Counts, IfdDriver.openUnits, IfdDriver.loaded]) requests

/-- Unit 0 is opened twice. -/
theorem reopened_not_kept :
    ¬ ∀ entry ∈ history ifdRequest .loaded
      [.createChannel 0 0 ⟨0, true⟩, .createChannel 0 0 ⟨0, true⟩], BooksKept entry := by
  intro kept
  have second := (kept _ (List.mem_cons_of_mem _ List.mem_cons_self)).reopened (fun closes => closes)
    ⟨0, by decide⟩ rfl rfl
  contradiction

end Cyberjack.Ifd
