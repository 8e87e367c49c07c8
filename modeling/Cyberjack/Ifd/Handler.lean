import Cyberjack.Ifd.Channels
import Cyberjack.Ctapi.Registry

namespace Cyberjack.Ifd.Handler

open Foundation

/-! # The handler over the CT-API

The handler keeps a table of units, the CT-API a list of contexts.  Both stand
here behind one another: a channel is a unit of the one and a context of the
other, and a command goes through both.
-/

structure Driver where
  units : IfdDriver
  contexts : Ctapi.Registry

def Driver.loaded : Driver := ⟨.loaded, .loaded⟩

def ctnOf (unit : LogicalUnit) : UInt16 := UInt16.ofNat unit

inductive RESPONSECODE where
  | IFD_SUCCESS
  | IFD_COMMUNICATION_ERROR
  | IFD_ICC_PRESENT
  | IFD_ICC_NOT_PRESENT
deriving Repr, DecidableEq

def codeOf : Ifd.RESPONSECODE → RESPONSECODE
  | .IFD_SUCCESS => .IFD_SUCCESS
  | .IFD_COMMUNICATION_ERROR => .IFD_COMMUNICATION_ERROR

/-- No result is a call that waits for ever. -/
abbrev Result := Option RESPONSECODE

/-! ## Channels -/

/-- `call` opens the reader where the unit has none; `create` is what the handler makes of the result. -/
def createChannelWith (driver : Driver) (Lun : Nat) (call : LogicalUnit → Ctapi.Answer × Ctapi.Registry)
    (create : Int → Ifd.Response × IfdDriver) : Result × Driver :=
  match unitOf Lun with
  | none => (some .IFD_COMMUNICATION_ERROR, driver)
  | some ctn =>
      match (initDriver driver.units).2.ifdh_status ctn with
      | some _ => (some (codeOf (create 0).1.rv), { driver with units := (create 0).2 })
      | none =>
          match (call ctn).1.returned with
          | none => (none, ⟨(initDriver driver.units).2, (call ctn).2⟩)
          | some ret => (some (codeOf (create ret).1.rv), ⟨(create ret).2, (call ctn).2⟩)

def channelPort (Channel : Nat) : UInt16 := UInt16.ofNat ((Channel % 65536 + 1) % 65536)

/-- `allocated` tells whether `malloc` returns a status. -/
def IFDHCreateChannel (nonSerial : Ctapi.NonSerial) (driver : Driver) (Lun Channel : Nat)
    (surroundings : Ctapi.Surroundings) (allocated : Bool) : Result × Driver :=
  createChannelWith driver Lun
    (fun ctn => Ctapi.CT_init nonSerial surroundings driver.contexts (ctnOf ctn) (channelPort Channel))
    fun ret => Ifd.IFDHCreateChannel driver.units Lun Channel ⟨ret, allocated⟩

def textOf (devName : List UInt8) : Ctapi.Text := devName.map fun byte => Char.ofNat byte.toNat

def IFDHCreateChannelByName (nonSerial : Ctapi.NonSerial) (driver : Driver) (Lun : Nat) (devName : List UInt8)
    (surroundings : Ctapi.Surroundings) (allocated : Bool) : Result × Driver :=
  createChannelWith driver Lun
    (fun ctn => Ctapi.rsct_init_name nonSerial surroundings driver.contexts (ctnOf ctn) (some (textOf devName)))
    fun ret => Ifd.IFDHCreateChannelByName driver.units Lun devName ⟨ret, allocated⟩

def IFDHCloseChannel (driver : Driver) (Lun : Nat) : Result × Driver :=
  match unitOf Lun with
  | none => (some .IFD_COMMUNICATION_ERROR, driver)
  | some ctn =>
      match driver.units.ifdh_status ctn with
      | none => (some .IFD_COMMUNICATION_ERROR, driver)
      | some _ =>
          let closed := Ctapi.CT_close driver.contexts (ctnOf ctn)
          match closed.1.returned with
          | none => (none, { driver with contexts := closed.2 })
          | some ret =>
              let made := Ifd.IFDHCloseChannel driver.units Lun ret
              (some (codeOf made.1.rv), ⟨made.2, closed.2⟩)

/-! ## Commands -/

/-- A command for an open unit; `res` is what the driver of the reader returns for it. -/
def command (driver : Driver) (Lun : Nat) (dad : UInt8) (lc lr : UInt16) (res : Int) : Result × Driver :=
  match unitOf Lun with
  | none => (some .IFD_COMMUNICATION_ERROR, driver)
  | some ctn =>
      match driver.units.ifdh_status ctn with
      | none => (some .IFD_ICC_NOT_PRESENT, driver)
      | some _ =>
          let sent := Ctapi.CT_data driver.contexts (ctnOf ctn) dad lc lr res
          (some (if sent.1 = 0 then .IFD_SUCCESS else .IFD_COMMUNICATION_ERROR), { driver with contexts := sent.2 })

/-- What a 16-bit length becomes of the room for an answer. -/
def roomOf (RxLength : Nat) : UInt16 := UInt16.ofNat (min RxLength 65535)

/-- The length of a command is cut down to 16 bits. -/
def IFDHTransmitToICC (driver : Driver) (Lun : Nat) (TxBuffer : List UInt8) (RxLength : Nat) (res : Int) :
    Result × Driver :=
  command driver Lun (if TxBuffer.head? = some 0x20 then 0x01 else 0x00) (UInt16.ofNat TxBuffer.length)
    (roomOf RxLength) res

/-- `controlCode` is 0, or that of `IOCTL_FEATURE_MCT_READER_DIRECT`. -/
def IFDHControl (driver : Driver) (Lun : Nat) (TxBuffer : List UInt8) (RxLength : Nat) (res : Int) :
    Result × Driver :=
  command driver Lun 0x01 (UInt16.ofNat TxBuffer.length) (roomOf RxLength) res

def CTBCS_DATA_STATUS_NOCARD : UInt8 := 0x00

/-- Nobody looks whether the unit is open; `rsp` is the response where the driver returns one. -/
def IFDHICCPresence (driver : Driver) (Lun : Nat) (res : Int) (rsp : List UInt8) : Result × Driver :=
  match unitOf Lun with
  | none => (some .IFD_COMMUNICATION_ERROR, driver)
  | some ctn =>
      let sent := Ctapi.CT_data driver.contexts (ctnOf ctn) 0x01 5 256 res
      (some (if sent.1 = 0 then
          if 0 < (rsp.length : Int) - 2 then
            if rsp[2]? = some CTBCS_DATA_STATUS_NOCARD then .IFD_ICC_NOT_PRESENT else .IFD_ICC_PRESENT
          else .IFD_ICC_NOT_PRESENT
        else .IFD_COMMUNICATION_ERROR), { driver with contexts := sent.2 })

inductive Request where
  | createChannel (Lun Channel : Nat) (surroundings : Ctapi.Surroundings) (allocated : Bool)
  | createChannelByName (Lun : Nat) (devName : List UInt8) (surroundings : Ctapi.Surroundings) (allocated : Bool)
  | closeChannel (Lun : Nat)
  | transmitToICC (Lun : Nat) (TxBuffer : List UInt8) (RxLength : Nat) (res : Int)
  | control (Lun : Nat) (TxBuffer : List UInt8) (RxLength : Nat) (res : Int)
  | presence (Lun : Nat) (res : Int) (rsp : List UInt8)

def handlerRequest (nonSerial : Ctapi.NonSerial) : Machine Driver Request Result
  | driver, .createChannel Lun Channel surroundings allocated =>
      IFDHCreateChannel nonSerial driver Lun Channel surroundings allocated
  | driver, .createChannelByName Lun devName surroundings allocated =>
      IFDHCreateChannelByName nonSerial driver Lun devName surroundings allocated
  | driver, .closeChannel Lun => IFDHCloseChannel driver Lun
  | driver, .transmitToICC Lun TxBuffer RxLength res => IFDHTransmitToICC driver Lun TxBuffer RxLength res
  | driver, .control Lun TxBuffer RxLength res => IFDHControl driver Lun TxBuffer RxLength res
  | driver, .presence Lun res rsp => IFDHICCPresence driver Lun res rsp

/-! ## Units and contexts -/

/-- A unit is open exactly where it has a context, and all contexts are those of units. -/
structure Matched (driver : Driver) : Prop where
  registered : Ctapi.Registered driver.contexts
  released : driver.contexts.locked = false
  counts : driver.units.Counts
  opened : ∀ unit, (driver.units.ifdh_status unit).isSome = true ↔
    ∃ ctx ∈ driver.contexts.ct_context_list, ctx.ctn = ctnOf unit
  owned : ∀ ctx ∈ driver.contexts.ct_context_list, ∃ unit, ctx.ctn = ctnOf unit

/-- What is expected of one call. -/
structure Kept (entry : Entry Driver Request Result) : Prop where
  matched : Matched entry.after
  returned : entry.answer.isSome = true

/-- Behind `CT_init` the reader tells what it is, and there is memory for its status. -/
def Comes (nonSerial : Ctapi.NonSerial) (surroundings : Ctapi.Surroundings) (allocated : Bool)
    (contexts : Ctapi.Registry) (ctn pn : UInt16) (dname : Ctapi.Text) : Prop :=
  Ctapi.Opens nonSerial surroundings contexts ctn pn dname →
    surroundings.readerInformation = 0 ∧ allocated = true

/-- An open unit is not given out once more; a reader that is opened comes with all it needs; and a unit whose
device is lost is only closed where no other one is open. -/
def Allowed (nonSerial : Ctapi.NonSerial) (driver : Driver) : Request → Prop
  | .createChannel Lun Channel surroundings allocated => ∀ unit, unitOf Lun = some unit →
      driver.units.ifdh_status unit = none ∧ (channelPort Channel ≠ 0 →
        Comes nonSerial surroundings allocated driver.contexts (ctnOf unit) (channelPort Channel) [])
  | .createChannelByName Lun devName surroundings allocated => ∀ unit, unitOf Lun = some unit →
      (∀ status, driver.units.ifdh_status unit = some status →
        status.deviceName ≠ [] ∧ status.deviceName ≠ devName) ∧
      (driver.units.ifdh_status unit = none →
        Comes nonSerial surroundings allocated driver.contexts (ctnOf unit) 0 (textOf devName))
  | .closeChannel Lun => ∀ unit, unitOf Lun = some unit →
      ∀ ctx ∈ driver.contexts.ct_context_list, ctx.ctn = ctnOf unit →
        ctx.driver ≠ none ∨ driver.units.openUnits.card = 1
  | _ => True

/-! ## What an opening does to the contexts -/

section Openings

open Ctapi

variable {nonSerial : NonSerial} {surroundings : Surroundings} {contexts : Registry} {ctn pn : UInt16} {dname : Text}

/-- What a call that opens a reader gives; `opens` tells whether there is a reader to be opened. -/
inductive Gives (contexts : Registry) (ctn pn : UInt16) (opens : Prop) (told : Int) : Answer × Registry → Prop
  | opened (driver : Ctapi.Driver) (events : List MutexEvent) (here : opens) (tells : told = 0)
      (unused : findContextByCtn contexts ctn = none) (free : pn ≠ 0 → findContextByPort contexts pn = none) :
      Gives contexts ctn pn opens told (⟨some 0, events⟩, { contexts with
        _ctapi_init_count := contexts._ctapi_init_count + 1
        ct_context_list := contexts.ct_context_list ++ [⟨ctn, pn, some driver⟩] })
  | waits (result : Answer × Registry) (here : opens) (silent : told ≠ 0) (never : result.1.returned = none) :
      Gives contexts ctn pn opens told result
  | refused (rv : Int) (events : List MutexEvent) (closed : ¬ opens) (error : rv ≠ 0) :
      Gives contexts ctn pn opens told (⟨some rv, events⟩, contexts)

theorem opening_gives (holds : Registered contexts) (released : contexts.locked = false) :
    Gives contexts ctn pn (Opens nonSerial surroundings contexts ctn pn dname) surroundings.readerInformation
      (locking contexts fun registry => _init_common2 nonSerial surroundings registry ctn pn dname) := by
  have unlocked : ¬ contexts.locked = true := by simp [released]
  have same : { contexts with locked := false } = contexts := by rw [← released]
  rcases @_init_common1_cases nonSerial surroundings _ ctn pn dname (registered_locked holds true) with
    ⟨opens, driver, made⟩ | ⟨closed, rv, error, made⟩
  · have here := (opens_locked true).mp opens
    by_cases tells : surroundings.readerInformation = 0
    · have result : _init_common2 nonSerial surroundings { contexts with locked := true } ctn pn dname =
          (⟨some 0, []⟩, { contexts with
            _ctapi_init_count := contexts._ctapi_init_count + 1
            ct_context_list := contexts.ct_context_list ++ [⟨ctn, pn, some driver⟩]
            locked := true }) := by
        simp only [_init_common2, made, if_true]
        have data := @CT_data_opened { contexts with locked := true } ctn pn opens.unused driver
          (contexts._ctapi_init_count + 1) surroundings.readerInformation
        simp only at data
        rw [data]
        simp [CT_internal, tells]
      simp only [locking, if_neg unlocked, result]
      have gives := @Gives.opened contexts ctn pn _ _ driver [.lock, .unlock] here tells here.unused here.free
      simpa [released] using gives
    · refine .waits _ here tells ?_
      rcases @_init_common2_cases nonSerial surroundings _ ctn pn dname (registered_locked holds true) rfl with
        ⟨_, _, _, _, told⟩ | ⟨never, _, _⟩
      · exact absurd (told opens) tells
      · simp only [locking, if_neg unlocked, never]
  · have result : _init_common2 nonSerial surroundings { contexts with locked := true } ctn pn dname =
        (⟨some rv, []⟩, { contexts with locked := true }) := by
      simp only [_init_common2, made, if_neg error]
    simp only [locking, if_neg unlocked, result]
    have gives := @Gives.refused contexts ctn pn _ surroundings.readerInformation rv [.lock, .unlock]
      (fun opens => closed ((opens_locked true).mpr opens)) error
    simpa [released, same] using gives

/-- `CT_init` asks for a port first. -/
theorem CT_init_gives (holds : Registered contexts) (released : contexts.locked = false) :
    Gives contexts ctn pn (pn ≠ 0 ∧ Opens nonSerial surroundings contexts ctn pn [])
      surroundings.readerInformation (CT_init nonSerial surroundings contexts ctn pn) := by
  rw [CT_init]
  split
  · rename_i invalid
    refine .refused _ _ ?_ (by decide)
    rintro ⟨numbered, opens⟩
    cases invalid with
    | inl zero => exact numbered zero
    | inr unknown => exact opens.valid unknown
  · rename_i valid
    have numbered : pn ≠ 0 := fun zero => valid (.inl zero)
    rw [and_iff_right numbered]
    exact opening_gives holds released

theorem rsct_init_name_gives (holds : Registered contexts) (released : contexts.locked = false) :
    Gives contexts ctn 0 (Opens nonSerial surroundings contexts ctn 0 dname) surroundings.readerInformation
      (rsct_init_name nonSerial surroundings contexts ctn (some dname)) := by
  simp only [rsct_init_name]
  split
  · rename_i invalid
    exact .refused _ _ (fun opens => opens.valid invalid) (by decide)
  · exact opening_gives holds released

end Openings

/-! ## One call -/

section Calls

variable {nonSerial : Ctapi.NonSerial} {driver : Driver} {unit ctn : LogicalUnit}

theorem ctnOf_inj : ∀ unit other : LogicalUnit, ctnOf unit = ctnOf other → unit = other := by
  decide

/-- What `createUnit` does where the count is right. -/
theorem createUnit_closed {units : IfdDriver} (counts : units.Counts) (closed : units.ifdh_status ctn = none)
    (opening : Opening) (creation : Creation) : createUnit units ctn opening creation =
      if opening.ret = 0 ∧ opening.allocated = true then
        (⟨.IFD_SUCCESS, [creation.opens]⟩, ⟨units.rsct_ifd_driver_initialized + 1,
          Function.update units.ifdh_status ctn (some creation.created)⟩)
      else (⟨.IFD_COMMUNICATION_ERROR, [creation.opens]⟩, units) := by
  have failed := deinitDriver_initDriver counts
  rw [initDriver_of_counts counts] at failed
  simp only [createUnit, initDriver_of_counts counts, closed, failedCreation, failed]

theorem createUnit_open {units : IfdDriver} (counts : units.Counts) {status : IFDH_Status}
    (opened : units.ifdh_status ctn = some status) (opening : Opening) (creation : Creation) :
    createUnit units ctn opening creation =
      if creation.accepts status = true then
        (⟨.IFD_SUCCESS, []⟩, ⟨units.rsct_ifd_driver_initialized + 1, units.ifdh_status⟩)
      else (⟨.IFD_COMMUNICATION_ERROR, []⟩, units) := by
  have failed := deinitDriver_initDriver counts
  rw [initDriver_of_counts counts] at failed
  simp only [createUnit, initDriver_of_counts counts, opened, failedCreation, failed]

/-- A unit that is opened gets its context. -/
theorem Matched.added (holds : Matched driver) {pn : UInt16} {behind : Ctapi.Driver} {status : IFDH_Status}
    (closed : driver.units.ifdh_status ctn = none)
    (unused : Ctapi.findContextByCtn driver.contexts (ctnOf ctn) = none)
    (free : pn ≠ 0 → Ctapi.findContextByPort driver.contexts pn = none) :
    Matched ⟨⟨driver.units.rsct_ifd_driver_initialized + 1,
        Function.update driver.units.ifdh_status ctn (some status)⟩,
      { driver.contexts with
        _ctapi_init_count := driver.contexts._ctapi_init_count + 1
        ct_context_list := driver.contexts.ct_context_list ++ [⟨ctnOf ctn, pn, some behind⟩] }⟩ where
  registered := Ctapi.registered_opened holds.registered unused free (some behind)
  released := holds.released
  counts := counts_of_opened holds.counts closed status
  opened unit := by
    have before := holds.opened unit
    by_cases same : unit = ctn
    · subst unit
      simp
    · have apart : ctnOf ctn ≠ ctnOf unit := fun equal => same (ctnOf_inj ctn unit equal).symm
      simpa [same, apart] using before
  owned ctx member := by
    cases List.mem_append.mp member with
    | inl there => exact holds.owned ctx there
    | inr here => exact ⟨ctn, by rw [List.mem_singleton.mp here]⟩

/-- Both functions that create a channel. -/
theorem createChannelWith_kept (holds : Matched driver) {Lun : Nat} {request : Request}
    (named : unitOf Lun = some ctn) {pn : UInt16} {opens : Prop} {told : Int} {allocated : Bool}
    {call : LogicalUnit → Ctapi.Answer × Ctapi.Registry} {creation : Creation}
    (gives : Gives driver.contexts (ctnOf ctn) pn opens told (call ctn)) :
    Kept ⟨driver, request,
      (createChannelWith driver Lun call fun ret => createUnit driver.units ctn ⟨ret, allocated⟩ creation).1,
      (createChannelWith driver Lun call fun ret => createUnit driver.units ctn ⟨ret, allocated⟩ creation).2⟩ ↔
    (∀ status, driver.units.ifdh_status ctn = some status → creation.accepts status = false) ∧
      (driver.units.ifdh_status ctn = none → opens → told = 0 ∧ allocated = true) := by
  have unchanged : ∀ code, Kept ⟨driver, request, some code, driver⟩ := fun code => ⟨holds, rfl⟩
  simp only [createChannelWith, named, initDriver_of_counts holds.counts]
  cases found : driver.units.ifdh_status ctn with
  | some status =>
      simp only [createUnit_open holds.counts found, Option.some.injEq, forall_eq', reduceCtorEq,
        false_implies, and_true]
      by_cases accepted : creation.accepts status = true
      · rw [if_pos accepted, accepted]
        refine iff_of_false ?_ (by decide)
        intro kept
        have before : driver.units.rsct_ifd_driver_initialized = driver.units.openUnits.card := holds.counts
        have after : driver.units.rsct_ifd_driver_initialized + 1 = driver.units.openUnits.card :=
          kept.matched.counts
        omega
      · rw [if_neg accepted]
        exact iff_of_true (unchanged _) (Bool.not_eq_true _ ▸ accepted)
  | none =>
      simp only [createUnit_closed holds.counts found, reduceCtorEq, false_implies, implies_true, true_and,
        forall_const]
      generalize call ctn = outcome at gives
      cases gives with
      | opened behind events here tells unused free =>
          cases allocated with
          | true => exact iff_of_true ⟨holds.added found unused free, rfl⟩ fun _ => ⟨tells, rfl⟩
          | false =>
              refine iff_of_false ?_ fun comes => absurd (comes here).2 (by decide)
              intro kept
              have opened := (kept.matched.opened ctn).mpr
                ⟨_, List.mem_append_right _ (.head _), rfl⟩
              simp [found] at opened
      | waits _ here silent never =>
          rw [never]
          exact iff_of_false (fun kept => Bool.false_ne_true kept.returned) fun comes => silent (comes here).1
      | refused rv events closed error =>
          simp only [error, false_and, if_false]
          exact iff_of_true (unchanged _) fun opens => absurd opens closed

/-- No two contexts have one number, so that all with it are erased. -/
theorem eraseP_ctn {list : List Ctapi.Ctapi_Context} (ctns : (list.map Ctapi.Ctapi_Context.ctn).Nodup)
    (number : UInt16) : list.eraseP (fun ctx => ctx.ctn = number) = list.filter fun ctx => ctx.ctn ≠ number := by
  induction list with
  | nil => rfl
  | cons head rest ih =>
      rw [List.map_cons, List.nodup_cons] at ctns
      by_cases here : head.ctn = number
      · rw [List.eraseP_cons_of_pos (by simpa using here), List.filter_cons_of_neg (by simpa using here)]
        symm
        rw [List.filter_eq_self]
        intro ctx member
        have apart : ctx.ctn ≠ head.ctn := fun same => ctns.1 (same ▸ List.mem_map_of_mem member)
        simpa [here] using apart
      · rw [List.eraseP_cons_of_neg (by simpa using here), List.filter_cons_of_pos (by simpa using here), ih ctns.2]

theorem nt_close_context {contexts : Ctapi.Registry} (registered : Ctapi.Registered contexts)
    {ctx : Ctapi.Ctapi_Context} (member : ctx ∈ contexts.ct_context_list) : Ctapi.nt_close contexts ctx.ctn =
      (if ctx.driver = none then -127 else 0, { contexts with
        _ctapi_init_count := contexts._ctapi_init_count - 1
        ct_context_list := contexts.ct_context_list.filter fun other => other.ctn ≠ ctx.ctn }) := by
  have found : Ctapi.findContextByCtn contexts ctx.ctn = some ctx := by
    cases searched : Ctapi.findContextByCtn contexts ctx.ctn with
    | none => exact absurd rfl (Ctapi.findContextByCtn_none.mp searched ctx member)
    | some other =>
        have same : other.ctn = ctx.ctn := by simpa using List.find?_some searched
        rw [List.inj_on_of_nodup_map registered.ctns (List.mem_of_find?_eq_some searched) member same]
  have positive : contexts._ctapi_init_count > 0 := by
    have some := List.length_pos_of_mem member
    have counted := registered.counted
    omega
  simp only [Ctapi.nt_close, found, Ctapi.fini, if_pos positive, eraseP_ctn registered.ctns]

theorem CT_close_context (holds : Matched driver) {ctx : Ctapi.Ctapi_Context}
    (member : ctx ∈ driver.contexts.ct_context_list) (named : ctx.ctn = ctnOf ctn) :
    Ctapi.CT_close driver.contexts (ctnOf ctn) =
      (⟨some (if ctx.driver = none then -127 else 0), [.lock, .unlock]⟩,
        { driver.contexts with
          _ctapi_init_count := driver.contexts._ctapi_init_count - 1
          ct_context_list := driver.contexts.ct_context_list.filter fun ctx => ctx.ctn ≠ ctnOf ctn }) := by
  have unlocked : ¬ driver.contexts.locked = true := by simp [holds.released]
  have closed := @nt_close_context _ (Ctapi.registered_locked holds.registered true) ctx member
  rw [named] at closed
  simp only [Ctapi.CT_close, Ctapi.locking, if_neg unlocked, closed]
  simp [holds.released]

/-- What stays where the context of a unit is taken out. -/
theorem Matched.erased (holds : Matched driver) {units : IfdDriver} {ctx : Ctapi.Ctapi_Context}
    (member : ctx ∈ driver.contexts.ct_context_list) (named : ctx.ctn = ctnOf ctn) (counts : units.Counts)
    (closed : units.ifdh_status ctn = none)
    (others : ∀ unit, unit ≠ ctn → units.ifdh_status unit = driver.units.ifdh_status unit) :
    Matched ⟨units, { driver.contexts with
      _ctapi_init_count := driver.contexts._ctapi_init_count - 1
      ct_context_list := driver.contexts.ct_context_list.filter fun ctx => ctx.ctn ≠ ctnOf ctn }⟩ where
  registered := by
    have closed := (Ctapi.nt_close_registered holds.registered ctx.ctn).1
    rwa [nt_close_context holds.registered member, named] at closed
  released := holds.released
  counts := counts
  opened unit := by
    by_cases same : unit = ctn
    · subst unit
      simp [closed]
    · have apart : ctnOf unit ≠ ctnOf ctn := fun equal => same (ctnOf_inj unit ctn equal)
      have before := holds.opened unit
      simp only [others unit same, before, List.mem_filter, decide_eq_true_eq]
      constructor
      · rintro ⟨other, there, its⟩
        exact ⟨other, ⟨there, its ▸ apart⟩, its⟩
      · rintro ⟨other, ⟨there, -⟩, its⟩
        exact ⟨other, there, its⟩
  owned other there := holds.owned other (List.mem_of_mem_filter there)

theorem closeChannel_kept (holds : Matched driver) (Lun : Nat) :
    Kept ((handlerRequest nonSerial).entry driver (.closeChannel Lun)) ↔
      Allowed nonSerial driver (.closeChannel Lun) := by
  have unchanged : ∀ code, Kept ⟨driver, .closeChannel Lun, some code, driver⟩ := fun code => ⟨holds, rfl⟩
  simp only [Machine.entry, handlerRequest, IFDHCloseChannel, Allowed]
  cases named : unitOf Lun with
  | none => exact iff_of_true (unchanged _) fun unit absent => by cases absent
  | some ctn =>
      simp only [Option.some.injEq, forall_eq']
      cases found : driver.units.ifdh_status ctn with
      | none =>
          refine iff_of_true (unchanged _) fun ctx member its => ?_
          have opened := (holds.opened ctn).mpr ⟨ctx, member, its⟩
          simp [found] at opened
      | some status =>
          have opened : (driver.units.ifdh_status ctn).isSome = true := by simp [found]
          obtain ⟨ctx, member, its⟩ := (holds.opened ctn).mp opened
          have unique : ∀ other ∈ driver.contexts.ct_context_list, other.ctn = ctnOf ctn → other = ctx := by
            intro other there same
            exact List.inj_on_of_nodup_map holds.registered.ctns there member (same.trans its.symm)
          simp only [CT_close_context holds member its, Ifd.IFDHCloseChannel, named, found]
          by_cases lost : ctx.driver = none
          · have count : driver.units.rsct_ifd_driver_initialized = driver.units.openUnits.card := holds.counts
            rw [if_pos lost, if_neg (by decide)]
            by_cases single : driver.units.openUnits.card = 1
            · rw [deinitDriver_of_one (by omega)]
              refine iff_of_true ⟨?_, rfl⟩ fun _ _ _ => .inr single
              refine holds.erased member its (by simp [IfdDriver.Counts, IfdDriver.openUnits]) rfl ?_
              intro unit apart
              obtain ⟨only, units⟩ := Finset.card_eq_one.mp single
              have first := mem_openUnits.mpr opened
              cases there : driver.units.ifdh_status unit with
              | none => rfl
              | some other =>
                  have second := mem_openUnits.mpr (show (driver.units.ifdh_status unit).isSome = true by simp [there])
                  rw [units, Finset.mem_singleton] at first second
                  exact absurd (second.trans first.symm) apart
            · have positive := counts_pos holds.counts opened
              rw [deinitDriver_of_two (by omega)]
              refine iff_of_false ?_ ?_
              · intro kept
                have after : driver.units.rsct_ifd_driver_initialized - 1 = driver.units.openUnits.card :=
                  kept.matched.counts
                omega
              · intro allowed
                cases allowed ctx member its with
                | inl there => exact there lost
                | inr one => exact single one
          · rw [if_neg lost, if_pos rfl, deinitDriver_closed holds.counts opened]
            refine iff_of_true ⟨?_, rfl⟩ fun other there same => .inl (unique other there same ▸ lost)
            apply holds.erased member its (counts_of_closed holds.counts opened) (Function.update_self _ _ _)
            intro unit apart
            exact Function.update_of_ne apart _ _

theorem CT_data_ctns (contexts : Ctapi.Registry) (number : UInt16) (dad : UInt8) (lc lr : UInt16) (res : Int) :
    (Ctapi.CT_data contexts number dad lc lr res).2.ct_context_list.map Ctapi.Ctapi_Context.ctn =
      contexts.ct_context_list.map Ctapi.Ctapi_Context.ctn := by
  simp only [Ctapi.CT_data, Ctapi.CT_internal]
  repeat' split
  all_goals try rfl
  rw [List.map_map]
  apply List.map_congr_left
  intro other _
  rw [Function.comp_apply]
  split
  · rfl
  · rfl

theorem ctn_of_mem {first second : List Ctapi.Ctapi_Context}
    (same : first.map Ctapi.Ctapi_Context.ctn = second.map Ctapi.Ctapi_Context.ctn) {ctx : Ctapi.Ctapi_Context}
    (member : ctx ∈ first) : ∃ other ∈ second, other.ctn = ctx.ctn := by
  have listed := List.mem_map_of_mem (f := Ctapi.Ctapi_Context.ctn) member
  rw [same] at listed
  exact List.mem_map.mp listed

/-- A command changes the driver of a context at most. -/
theorem Matched.sent (holds : Matched driver) (number : UInt16) (dad : UInt8) (lc lr : UInt16) (res : Int) :
    Matched { driver with contexts := (Ctapi.CT_data driver.contexts number dad lc lr res).2 } := by
  have registered := Ctapi.CT_data_registered holds.registered number dad lc lr res
  have ctns := CT_data_ctns driver.contexts number dad lc lr res
  refine ⟨registered.1, registered.2.trans holds.released, holds.counts, fun unit => ?_, fun ctx member => ?_⟩
  · rw [holds.opened]
    constructor
    · rintro ⟨ctx, member, named⟩
      obtain ⟨other, there, same⟩ := ctn_of_mem ctns.symm member
      exact ⟨other, there, same.trans named⟩
    · rintro ⟨ctx, member, named⟩
      obtain ⟨other, there, same⟩ := ctn_of_mem ctns member
      exact ⟨other, there, same.trans named⟩
  · obtain ⟨other, there, same⟩ := ctn_of_mem ctns member
    rw [← same]
    exact holds.owned other there

theorem command_kept (holds : Matched driver) (request : Request) (Lun : Nat) (dad : UInt8) (lc lr : UInt16)
    (res : Int) : Kept ⟨driver, request, (command driver Lun dad lc lr res).1, (command driver Lun dad lc lr res).2⟩ := by
  simp only [command]
  split
  · exact ⟨holds, rfl⟩
  · split
    · exact ⟨holds, rfl⟩
    · exact ⟨holds.sent _ _ _ _ _, rfl⟩

theorem kept_iff (holds : Matched driver) (request : Request) :
    Kept ((handlerRequest nonSerial).entry driver request) ↔ Allowed nonSerial driver request := by
  cases request with
  | createChannel Lun Channel surroundings allocated =>
      cases named : unitOf Lun with
      | none =>
          simp only [Machine.entry, handlerRequest, IFDHCreateChannel, createChannelWith, named, Allowed]
          exact iff_of_true ⟨holds, rfl⟩ fun unit absent => by cases absent
      | some ctn =>
          have gives := @CT_init_gives nonSerial surroundings driver.contexts (ctnOf ctn) (channelPort Channel)
            holds.registered holds.released
          have kept := @createChannelWith_kept driver ctn holds Lun
            (.createChannel Lun Channel surroundings allocated) named _ _ _ allocated
            (fun ctn => Ctapi.CT_init nonSerial surroundings driver.contexts (ctnOf ctn) (channelPort Channel))
            ⟨.CT_init ctn ((Channel % 65536 + 1) % 65536), ⟨[]⟩, fun _ => true⟩ gives
          simp only [Machine.entry, handlerRequest, IFDHCreateChannel, Ifd.IFDHCreateChannel, named, Allowed, kept,
            Option.some.injEq, forall_eq', Comes]
          cases found : driver.units.ifdh_status ctn with
          | none => simp
          | some status => simp
  | createChannelByName Lun devName surroundings allocated =>
      cases named : unitOf Lun with
      | none =>
          simp only [Machine.entry, handlerRequest, IFDHCreateChannelByName, createChannelWith, named, Allowed]
          exact iff_of_true ⟨holds, rfl⟩ fun unit absent => by cases absent
      | some ctn =>
          have gives := @rsct_init_name_gives nonSerial surroundings driver.contexts (ctnOf ctn) (textOf devName)
            holds.registered holds.released
          have kept := @createChannelWith_kept driver ctn holds Lun
            (.createChannelByName Lun devName surroundings allocated) named _ _ _ allocated
            (fun ctn => Ctapi.rsct_init_name nonSerial surroundings driver.contexts (ctnOf ctn)
              (some (textOf devName)))
            ⟨.rsct_init_name ctn devName, ⟨devName.take PATHMAX⟩,
              fun status => status.deviceName = [] ∨ status.deviceName = devName⟩ gives
          simp only [Machine.entry, handlerRequest, IFDHCreateChannelByName, Ifd.IFDHCreateChannelByName, named,
            Allowed, kept, Option.some.injEq, forall_eq', Comes, decide_eq_false_iff_not, not_or]
  | closeChannel Lun => exact closeChannel_kept holds Lun
  | transmitToICC Lun TxBuffer RxLength res => exact iff_of_true (command_kept holds _ _ _ _ _ _) trivial
  | control Lun TxBuffer RxLength res => exact iff_of_true (command_kept holds _ _ _ _ _ _) trivial
  | presence Lun res rsp =>
      refine iff_of_true ?_ trivial
      simp only [Machine.entry, handlerRequest, IFDHICCPresence]
      split
      · exact ⟨holds, rfl⟩
      · exact ⟨holds.sent _ _ _ _ _, rfl⟩

end Calls

/-! ## Whole runs -/

theorem loaded_matched : Matched .loaded where
  registered := ⟨List.nodup_nil, List.Pairwise.nil, rfl⟩
  released := rfl
  counts := by simp [IfdDriver.Counts, IfdDriver.openUnits, Driver.loaded, IfdDriver.loaded]
  opened unit := by simp [Driver.loaded, IfdDriver.loaded, Ctapi.Registry.loaded]
  owned ctx member := by cases member

/-- In every run of the handler over the CT-API, the open units are those with a context, and no call waits for
ever, exactly as long as no open unit is given out once more, every reader that is opened tells what it is and
gets its status, and no lost device is closed beside another open one. -/
theorem handler_matched_iff (nonSerial : Ctapi.NonSerial) (requests : List Request) :
    (∀ entry ∈ history (handlerRequest nonSerial) .loaded requests, Kept entry) ↔
      Keeps (Allowed nonSerial) (history (handlerRequest nonSerial) .loaded requests) :=
  history_iff (fun _ request holds => kept_iff holds request)
    (fun _ request holds allowed => ((kept_iff holds request).mpr allowed).matched) loaded_matched requests

end Cyberjack.Ifd.Handler
