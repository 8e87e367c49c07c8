import Cyberjack.Ifd.Handler

namespace Cyberjack.Ifd.Handler

open Foundation

/-! # Units without a context

`CT_close` takes out the context of a lost device, and reports an error; the unit
stays in the table of the handler.  Such a unit is given out without a reader, and
stays so until the count of initialisations falls to 0.
-/

/-- The unit is open, and there is no context for it. -/
structure Stranded (driver : Driver) (unit : LogicalUnit) : Prop where
  opened : (driver.units.ifdh_status unit).isSome = true
  started : 1 ≤ driver.units.rsct_ifd_driver_initialized
  absent : ∀ ctx ∈ driver.contexts.ct_context_list, ctx.ctn ≠ ctnOf unit

/-- No unit is open. -/
def Cleared (driver : Driver) : Prop := driver.units.ifdh_status = fun _ => none

/-! ## The contexts behind a call -/

section Contexts

open Ctapi

variable {nonSerial : NonSerial} {surroundings : Surroundings} {contexts : Registry} {ctn pn : UInt16} {dname : Text}

/-- Every context behind a call has the number of one before it, or the one of the call. -/
def Among (contexts after : Registry) (ctn : UInt16) : Prop :=
  ∀ ctx ∈ after.ct_context_list, ctx.ctn = ctn ∨ ∃ other ∈ contexts.ct_context_list, other.ctn = ctx.ctn

theorem Among.same {after : Registry} (same : after.ct_context_list = contexts.ct_context_list) :
    Among contexts after ctn := by
  intro ctx member
  rw [same] at member
  exact .inr ⟨ctx, member, rfl⟩

theorem Among.trans {middle after : Registry} (first : Among contexts middle ctn) (second : Among middle after ctn) :
    Among contexts after ctn := by
  intro ctx member
  cases second ctx member with
  | inl its => exact .inl its
  | inr before =>
      obtain ⟨other, there, named⟩ := before
      rw [← named]
      exact first other there

theorem fini_list (contexts : Registry) : (fini contexts).ct_context_list = contexts.ct_context_list := by
  rw [fini]
  split
  · rfl
  · rfl

theorem _init_common1_among :
    Among contexts (_init_common1 nonSerial surroundings contexts ctn pn dname).2 ctn := by
  rw [_init_common1]
  cases initialised : init nonSerial surroundings contexts with
  | none => exact .same rfl
  | some started =>
      have same : started.ct_context_list = contexts.ct_context_list := by rw [(init_eq_some initialised).1]
      have ended : Among contexts (fini started) ctn := .same ((fini_list started).trans same)
      simp only
      repeat' split
      all_goals try exact ended
      intro ctx member
      rw [addContext, same] at member
      cases List.mem_append.mp member with
      | inl there => exact .inr ⟨ctx, there, rfl⟩
      | inr here => exact .inl (by rw [List.mem_singleton.mp here])

theorem CT_data_among (dad : UInt8) (lc lr : UInt16) (res : Int) :
    Among contexts (CT_data contexts ctn dad lc lr res).2 ctn := by
  intro ctx member
  exact .inr (ctn_of_mem (CT_data_ctns contexts ctn dad lc lr res) member)

theorem nt_close_among (number : UInt16) : Among contexts (nt_close contexts number).2 ctn := by
  rw [nt_close]
  split
  · exact .same rfl
  · intro ctx member
    rw [fini_list] at member
    exact .inr ⟨ctx, List.mem_of_mem_eraseP member, rfl⟩

theorem locking_among {body : Registry → Answer × Registry}
    (runs : ∀ registry, Among registry (body registry).2 ctn) : Among contexts (locking contexts body).2 ctn := by
  rw [locking]
  split
  · exact .same rfl
  · have made := runs { contexts with locked := true }
    simp only
    split
    · exact made
    · exact made

theorem CT_close_among (number : UInt16) : Among contexts (CT_close contexts number).2 ctn :=
  locking_among fun _ => nt_close_among number

theorem _init_common2_among :
    Among contexts (_init_common2 nonSerial surroundings contexts ctn pn dname).2 ctn := by
  have first := @_init_common1_among nonSerial surroundings contexts ctn pn dname
  simp only [_init_common2]
  split
  · split
    · exact (first.trans (CT_data_among _ _ _ _)).trans (CT_close_among _)
    · exact first.trans (CT_data_among _ _ _ _)
  · exact first

theorem CT_init_among : Among contexts (CT_init nonSerial surroundings contexts ctn pn).2 ctn := by
  rw [CT_init]
  split
  · exact .same rfl
  · exact locking_among fun _ => _init_common2_among

theorem rsct_init_name_among (devName : Option Text) :
    Among contexts (rsct_init_name nonSerial surroundings contexts ctn devName).2 ctn := by
  cases devName with
  | none => exact .same rfl
  | some dname =>
      simp only [rsct_init_name]
      split
      · exact .same rfl
      · exact locking_among fun _ => _init_common2_among

end Contexts

/-! ## One call -/

section Calls

variable {nonSerial : Ctapi.NonSerial} {driver : Driver} {unit ctn : LogicalUnit}

theorem Stranded.later (stranded : Stranded driver unit) {units : IfdDriver} {contexts : Ctapi.Registry}
    (others : ctn ≠ unit) (among : Among driver.contexts contexts (ctnOf ctn))
    (opened : (units.ifdh_status unit).isSome = true) (started : 1 ≤ units.rsct_ifd_driver_initialized) :
    Stranded ⟨units, contexts⟩ unit where
  opened := opened
  started := started
  absent := by
    intro ctx member named
    cases among ctx member with
    | inl its => exact others (ctnOf_inj ctn unit (its.symm.trans named))
    | inr before =>
        obtain ⟨other, there, same⟩ := before
        exact stranded.absent other there (same.trans named)

/-- Either the table is cleared, or nothing changes but the count. -/
theorem deinitDriver_cases {units : IfdDriver} (started : 1 ≤ units.rsct_ifd_driver_initialized) :
    (deinitDriver units).2.ifdh_status = (fun _ => none) ∨
      ((deinitDriver units).2.ifdh_status = units.ifdh_status ∧
        (deinitDriver units).2.rsct_ifd_driver_initialized = units.rsct_ifd_driver_initialized - 1 ∧
        1 ≤ (deinitDriver units).2.rsct_ifd_driver_initialized) := by
  cases Int.lt_or_eq_of_le started with
  | inl several =>
      rw [deinitDriver_of_two (by omega)]
      exact .inr ⟨rfl, rfl, by simp only; omega⟩
  | inr single =>
      rw [deinitDriver_of_one single.symm]
      exact .inl rfl

theorem initDriver_started {units : IfdDriver} (started : 1 ≤ units.rsct_ifd_driver_initialized) :
    (initDriver units).2 = { units with
      rsct_ifd_driver_initialized := units.rsct_ifd_driver_initialized + 1 } := by
  rw [initDriver]
  simp only
  rw [if_pos (by omega)]

/-- `createUnit` leaves the other units alone, and takes nothing back that was there. -/
theorem createUnit_started {units : IfdDriver} (started : 1 ≤ units.rsct_ifd_driver_initialized)
    (opening : Opening) (creation : Creation) :
    1 ≤ (createUnit units ctn opening creation).2.rsct_ifd_driver_initialized ∧
      ∀ unit, (units.ifdh_status unit).isSome = true ∨ ctn ≠ unit →
        (createUnit units ctn opening creation).2.ifdh_status unit = units.ifdh_status unit := by
  have back := @deinitDriver_of_two { units with
    rsct_ifd_driver_initialized := units.rsct_ifd_driver_initialized + 1 } (by simp only; omega)
  simp only [createUnit, initDriver_started started, failedCreation, back]
  cases found : units.ifdh_status ctn with
  | none =>
      simp only
      split
      · refine ⟨by simp only; omega, fun unit there => Function.update_of_ne ?_ _ _⟩
        rintro rfl
        simp [found] at there
      · exact ⟨by simp only; omega, fun unit there => rfl⟩
  | some status =>
      simp only
      split
      · exact ⟨by simp only; omega, fun unit there => rfl⟩
      · exact ⟨by simp only; omega, fun unit there => rfl⟩

/-- The channel of a stranded unit is created without a call of the CT-API. -/
theorem createChannelWith_stranded (stranded : Stranded driver unit) {Lun : Nat}
    {call : LogicalUnit → Ctapi.Answer × Ctapi.Registry} {create : Int → Ifd.Response × IfdDriver}
    {allocated : Bool} {creation : LogicalUnit → Creation}
    (creates : ∀ ctn ret, unitOf Lun = some ctn → create ret = createUnit driver.units ctn ⟨ret, allocated⟩ (creation ctn))
    (among : ∀ ctn, Among driver.contexts (call ctn).2 (ctnOf ctn)) :
    Stranded (createChannelWith driver Lun call create).2 unit := by
  cases named : unitOf Lun with
  | none => simpa only [createChannelWith, named] using stranded
  | some ctn =>
      have kept := fun ret => @createUnit_started ctn _ stranded.started ⟨ret, allocated⟩ (creation ctn)
      have there : ∀ ret, ((create ret).2.ifdh_status unit).isSome = true ∧
          1 ≤ (create ret).2.rsct_ifd_driver_initialized := by
        intro ret
        rw [creates ctn ret named, (kept ret).2 unit (.inl stranded.opened)]
        exact ⟨stranded.opened, (kept ret).1⟩
      simp only [createChannelWith, named, initDriver_started stranded.started]
      cases found : driver.units.ifdh_status ctn with
      | some status => exact ⟨(there 0).1, (there 0).2, stranded.absent⟩
      | none =>
          have others : ctn ≠ unit := by
            rintro rfl
            simpa [found] using stranded.opened
          have counted : 1 ≤ driver.units.rsct_ifd_driver_initialized + 1 := by
            have started := stranded.started
            omega
          simp only
          split
          · exact stranded.later others (among ctn) stranded.opened counted
          · exact stranded.later others (among ctn) (there _).1 (there _).2

theorem invalid_not_unit : ∀ unit : LogicalUnit, Ctapi.CT_INVALID_CTN ≠ ctnOf unit := by
  decide

theorem CT_close_absent {contexts : Ctapi.Registry} {number : UInt16}
    (absent : ∀ ctx ∈ contexts.ct_context_list, ctx.ctn ≠ number) :
    (Ctapi.CT_close contexts number).2.ct_context_list = contexts.ct_context_list ∧
      ∀ ret, (Ctapi.CT_close contexts number).1.returned = some ret → ret = -128 := by
  have unknown : Ctapi.findContextByCtn { contexts with locked := true } number = none :=
    Ctapi.findContextByCtn_none.mpr absent
  simp only [Ctapi.CT_close, Ctapi.locking, Ctapi.nt_close, unknown]
  split
  · exact ⟨rfl, fun ret returned => by cases returned⟩
  · exact ⟨rfl, fun ret returned => (Option.some.inj returned).symm⟩

theorem Stranded.ended (stranded : Stranded driver unit) {units : IfdDriver} {contexts : Ctapi.Registry}
    (absent : ∀ ctx ∈ contexts.ct_context_list, ctx.ctn ≠ ctnOf unit)
    (opened : units.ifdh_status unit = driver.units.ifdh_status unit)
    (same : units.rsct_ifd_driver_initialized = driver.units.rsct_ifd_driver_initialized) :
    Cleared ⟨(deinitDriver units).2, contexts⟩ ∨ Stranded ⟨(deinitDriver units).2, contexts⟩ unit := by
  cases deinitDriver_cases (same ▸ stranded.started) with
  | inl cleared => exact .inl cleared
  | inr kept => exact .inr ⟨by rw [kept.1, opened]; exact stranded.opened, kept.2.2, absent⟩

/-- The end of a channel does not end a stranded one, but for the last that is counted. -/
theorem closeChannel_stranded (stranded : Stranded driver unit) (Lun : Nat) :
    Cleared (IFDHCloseChannel driver Lun).2 ∨ Stranded (IFDHCloseChannel driver Lun).2 unit := by
  simp only [IFDHCloseChannel, Ifd.IFDHCloseChannel]
  cases named : unitOf Lun with
  | none => exact .inr stranded
  | some ctn =>
      simp only
      cases found : driver.units.ifdh_status ctn with
      | none => exact .inr stranded
      | some status =>
          have absent : ∀ ctx ∈ (Ctapi.CT_close driver.contexts (ctnOf ctn)).2.ct_context_list,
              ctx.ctn ≠ ctnOf unit := by
            intro ctx member
            cases @CT_close_among driver.contexts Ctapi.CT_INVALID_CTN (ctnOf ctn) ctx member with
            | inl invalid =>
                rw [invalid]
                exact invalid_not_unit unit
            | inr before =>
                obtain ⟨other, there, same⟩ := before
                rw [← same]
                exact stranded.absent other there
          simp only
          cases returned : (Ctapi.CT_close driver.contexts (ctnOf ctn)).1.returned with
          | none => exact .inr ⟨stranded.opened, stranded.started, absent⟩
          | some ret =>
              simp only
              by_cases closes : ret = 0
              · have others : unit ≠ ctn := by
                  rintro rfl
                  have error := (CT_close_absent stranded.absent).2 ret returned
                  omega
                rw [if_pos closes]
                exact stranded.ended absent (Function.update_of_ne others _ _) rfl
              · rw [if_neg closes]
                exact stranded.ended absent rfl rfl

theorem sent_stranded (stranded : Stranded driver unit) (number : UInt16) (dad : UInt8) (lc lr : UInt16) (res : Int) :
    Stranded { driver with contexts := (Ctapi.CT_data driver.contexts number dad lc lr res).2 } unit where
  opened := stranded.opened
  started := stranded.started
  absent := by
    intro ctx member
    obtain ⟨other, there, same⟩ := ctn_of_mem (CT_data_ctns driver.contexts number dad lc lr res) member
    rw [← same]
    exact stranded.absent other there

theorem command_stranded (stranded : Stranded driver unit) (Lun : Nat) (dad : UInt8) (lc lr : UInt16) (res : Int) :
    Stranded (command driver Lun dad lc lr res).2 unit := by
  simp only [command]
  split
  · exact stranded
  · split
    · exact stranded
    · exact sent_stranded stranded _ _ _ _ _

theorem request_stranded (stranded : Stranded driver unit) (request : Request) :
    Cleared (handlerRequest nonSerial driver request).2 ∨ Stranded (handlerRequest nonSerial driver request).2 unit := by
  cases request with
  | createChannel Lun Channel surroundings allocated =>
      refine .inr (@createChannelWith_stranded driver unit stranded Lun _ _ allocated
        (fun ctn => ⟨.CT_init ctn ((Channel % 65536 + 1) % 65536), ⟨[]⟩, fun _ => true⟩) ?_ fun ctn => CT_init_among)
      intro ctn ret named
      simp only [Ifd.IFDHCreateChannel, named]
  | createChannelByName Lun devName surroundings allocated =>
      refine .inr (@createChannelWith_stranded driver unit stranded Lun _ _ allocated
        (fun ctn => ⟨.rsct_init_name ctn devName, ⟨devName.take PATHMAX⟩,
          fun status => status.deviceName = [] ∨ status.deviceName = devName⟩) ?_ fun ctn => rsct_init_name_among _)
      intro ctn ret named
      simp only [Ifd.IFDHCreateChannelByName, named]
  | closeChannel Lun => exact closeChannel_stranded stranded Lun
  | transmitToICC Lun TxBuffer RxLength res => exact .inr (command_stranded stranded _ _ _ _ _)
  | control Lun TxBuffer RxLength res => exact .inr (command_stranded stranded _ _ _ _ _)
  | presence Lun res rsp =>
      refine .inr ?_
      simp only [handlerRequest, IFDHICCPresence]
      split
      · exact stranded
      · exact sent_stranded stranded _ _ _ _ _

/-- What a stranded unit answers: it is given out, and then no command gets through. -/
def Deaf (unit : LogicalUnit) (request : Request) (answer : Result) : Prop :=
  match request with
  | .createChannel Lun _ _ _ => unitOf Lun = some unit → answer = some .IFD_SUCCESS
  | .createChannelByName _ _ _ _ => True
  | .closeChannel Lun => unitOf Lun = some unit → answer ≠ some .IFD_SUCCESS
  | .transmitToICC Lun _ _ _ => unitOf Lun = some unit → answer = some .IFD_COMMUNICATION_ERROR
  | .control Lun _ _ _ => unitOf Lun = some unit → answer = some .IFD_COMMUNICATION_ERROR
  | .presence Lun _ _ => unitOf Lun = some unit → answer = some .IFD_COMMUNICATION_ERROR

theorem CT_data_absent {contexts : Ctapi.Registry} {number : UInt16}
    (absent : ∀ ctx ∈ contexts.ct_context_list, ctx.ctn ≠ number) (dad : UInt8) (lc lr : UInt16) (res : Int) :
    Ctapi.CT_data contexts number dad lc lr res = (-128, contexts) := by
  simp only [Ctapi.CT_data, Ctapi.findContextByCtn_none.mpr absent]

theorem request_deaf (stranded : Stranded driver unit) (request : Request) :
    Deaf unit request (handlerRequest nonSerial driver request).1 := by
  obtain ⟨status, found⟩ := Option.isSome_iff_exists.mp stranded.opened
  have data := fun dad lc lr res => CT_data_absent stranded.absent dad lc lr res
  cases request with
  | createChannel Lun Channel surroundings allocated =>
      intro named
      simp [handlerRequest, IFDHCreateChannel, createChannelWith, named, initDriver_started stranded.started, found,
        Ifd.IFDHCreateChannel, createUnit, codeOf]
  | createChannelByName Lun devName surroundings allocated => trivial
  | closeChannel Lun =>
      intro named
      simp only [handlerRequest, IFDHCloseChannel, named, found]
      cases returned : (Ctapi.CT_close driver.contexts (ctnOf unit)).1.returned with
      | none => simp
      | some ret =>
          have error := (CT_close_absent stranded.absent).2 ret returned
          simp [Ifd.IFDHCloseChannel, named, found, error, codeOf]
  | transmitToICC Lun TxBuffer RxLength res =>
      intro named
      simp [handlerRequest, IFDHTransmitToICC, command, named, found, data]
  | control Lun TxBuffer RxLength res =>
      intro named
      simp [handlerRequest, IFDHControl, command, named, found, data]
  | presence Lun res rsp =>
      intro named
      simp [handlerRequest, IFDHICCPresence, named, data]

end Calls

/-! ## Whole runs -/

/-- Over every run from a unit that is open without a context, its channel is created with success, no command for
it gets through and its end fails, and all this until the table of the handler is cleared. -/
theorem stranded_until_cleared {nonSerial : Ctapi.NonSerial} {driver : Driver} {unit : LogicalUnit}
    (stranded : Stranded driver unit) {requests : List Request}
    (standing : ∀ entry ∈ history (handlerRequest nonSerial) driver requests, ¬ Cleared entry.after) :
    ∀ entry ∈ history (handlerRequest nonSerial) driver requests,
      Deaf unit entry.input entry.answer ∧ Stranded entry.after unit := by
  induction requests generalizing driver with
  | nil =>
      intro entry member
      cases member
  | cons request rest ih =>
      rw [history_cons, List.forall_mem_cons] at standing ⊢
      have after : Stranded (handlerRequest nonSerial driver request).2 unit := by
        cases request_stranded stranded request with
        | inl cleared => exact absurd cleared standing.1
        | inr kept => exact kept
      exact ⟨⟨request_deaf stranded request, after⟩, ih after standing.2⟩

/-- A reader on a serial port that answers. -/
def answeringReader : Ctapi.Surroundings where
  rsct_config_init := 0
  rsct_usbdev_init := 0
  ecomKernel := false
  rsct_usbdev_scan := (0, [])
  rsct_get_serial_for_port := fun _ => none
  cjecom_CT_initKernel := 0
  cjecom_CT_initUser2 := 0
  ctapiInit := true
  Connect := true
  readerInformation := 0

/-- Two readers are opened, the first one is lost and its channel is closed. -/
def unplugged : Driver :=
  final (handlerRequest false) .loaded
    [.createChannelByName 0 [0x61] answeringReader true, .createChannelByName 0x10000 [0x62] answeringReader true,
      .transmitToICC 0 [0x00, 0xb0, 0x00, 0x00] 258 (-128), .closeChannel 0]

/-- Behind the lost reader another one is attached, and its channel is created. -/
theorem stranded_until_cleared_unplugged :
    (handlerRequest false (handlerRequest false unplugged (.createChannel 0 0xa000 answeringReader true)).2
      (.transmitToICC 0 [0x00, 0xb0, 0x00, 0x00] 258 0)).1 = some .IFD_COMMUNICATION_ERROR := by
  have stranded : Stranded unplugged ⟨0, by decide⟩ := ⟨by decide, by decide, by decide⟩
  have standing : ∀ entry ∈ history (handlerRequest false) unplugged
      [.createChannel 0 0xa000 answeringReader true, .transmitToICC 0 [0x00, 0xb0, 0x00, 0x00] 258 0],
      ¬ Cleared entry.after := by
    refine List.forall_mem_cons.mpr ⟨fun cleared => ?_, List.forall_mem_cons.mpr ⟨fun cleared => ?_, by simp⟩⟩
    · exact absurd (congrFun cleared ⟨0, by decide⟩) (by decide)
    · exact absurd (congrFun cleared ⟨0, by decide⟩) (by decide)
  exact (stranded_until_cleared stranded standing _ (.tail _ (.head _))).1 rfl

end Cyberjack.Ifd.Handler
