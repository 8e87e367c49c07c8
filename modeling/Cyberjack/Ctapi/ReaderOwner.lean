import Cyberjack.Ctapi.Registry
import Cyberjack.Eca.ReaderObject

namespace Cyberjack.Ctapi.Owner

open Cyberjack.Foundation Cyberjack.Eca.ReaderObject

/-! # Who owns the reader objects

The calls of the CT-API with the `CReader` objects their contexts point to.  Beside
the list of contexts runs the heap; the other two drivers have no object here.
-/

def CT_API_RV_ERR_CT : Int := -8

/-- The error of the IFD handler where there is no such reader. -/
def IFD_COMMUNICATION_ERROR : Int := 612

/-- `old` is the pointer to one of the older drivers. -/
structure Ctapi_Context where
  ctn : UInt16
  port : UInt16
  reader : Pointer
  old : Option Driver
deriving Repr, DecidableEq

structure Session where
  _ctapi_init_count : Int
  ct_context_list : List Ctapi_Context
  locked : Bool
deriving Repr, DecidableEq

def Session.loaded : Session := ⟨0, [], false⟩

/-- The context without its pointer. -/
def Ctapi_Context.forget (ctx : Ctapi_Context) : Ctapi.Ctapi_Context :=
  ⟨ctx.ctn, ctx.port, if ctx.reader.isSome then some .reader else ctx.old⟩

def Session.registry (session : Session) : Registry :=
  ⟨session._ctapi_init_count, session.ct_context_list.map Ctapi_Context.forget, session.locked⟩

def fini (session : Session) : Session :=
  if session._ctapi_init_count > 0 then
    { session with _ctapi_init_count := session._ctapi_init_count - 1 }
  else session

def findContextByCtn (session : Session) (ctn : UInt16) : Option Ctapi_Context :=
  session.ct_context_list.find? fun ctx => ctx.ctn = ctn

def findContextByPort (session : Session) (pn : UInt16) : Option Ctapi_Context :=
  session.ct_context_list.find? fun ctx => ctx.port = pn

def addContext (session : Session) (ctx : Ctapi_Context) : Session :=
  { session with ct_context_list := session.ct_context_list ++ [ctx] }

/-- What the readers do in one call of the CT-API: while one is connected, asked what it is, and given up. -/
structure Doings where
  device : Device
  information : Call
  deleted : List Access
deriving Repr, DecidableEq

/-- Which driver a name is for, were it to work. -/
def driverFor (nonSerial : NonSerial) (surroundings : Surroundings) (devName : Text) : Except Int Driver :=
  openDriver nonSerial { surroundings with Connect := true } devName

def _init_common1 (nonSerial : NonSerial) (surroundings : Surroundings) (doings : Doings) (session : Session)
    (ctn pn : UInt16) (dname : Text) : Objects (Int × Session) :=
  match init nonSerial surroundings session.registry with
  | none => pure (CT_API_RV_ERR_MEMORY, session)
  | some counted => do
      let session := { session with _ctapi_init_count := counted._ctapi_init_count }
      if nonSerial = true ∧ surroundings.rsct_usbdev_scan.1 < 0 then pure (-10, fini session)
      else if ctn = CT_INVALID_CTN then pure (-127, fini session)
      else if (findContextByCtn session ctn).isSome then pure (-127, fini session)
      else if pn ≠ 0 ∧ (findContextByPort session pn).isSome then pure (-127, fini session)
      else
        match deviceName nonSerial surroundings pn dname with
        | none => pure (-127, fini session)
        | some devName =>
            match driverFor nonSerial surroundings devName with
            | .error rv => pure (rv, fini session)
            | .ok .reader =>
                let r ← CReader.new
                let rv ← CReader.Connect r doings.device
                if rv ≠ CJ_SUCCESS then
                  CReader.delete r doings.deleted
                  pure (-127, fini session)
                else
                  let _ ← CReader.plain r .SetKeyInterruptCallback
                  pure (0, addContext session ⟨ctn, pn, r, none⟩)
            | .ok driver => pure (0, addContext session ⟨ctn, pn, none, some driver⟩)

/-- The session with something done to the context of a number. -/
def Session.change (session : Session) (ctn : UInt16) (f : Ctapi_Context → Ctapi_Context) : Session :=
  { session with
    ct_context_list := session.ct_context_list.map fun other => if other.ctn = ctn then f other else other }

/-- `call` is what the driver does. -/
def CT_internal (session : Session) (ctx : Ctapi_Context) (call : Call) (deleted : List Access) :
    Objects (Int × Session) := do
  if ctx.reader ≠ none then
    let answer ← CReader.CtData ctx.reader call
    if answer.result = 0 ∨ answer.result = -1 ∨ answer.result = -11 then pure (answer.result, session)
    else
      CReader.delete ctx.reader deleted
      pure (answer.result, session.change ctx.ctn fun other => { other with reader := none })
  else if ctx.old ≠ none then
    if call.result = 0 ∨ call.result = -1 ∨ call.result = -11 then pure (call.result, session)
    else pure (call.result, session.change ctx.ctn fun other => { other with old := none })
  else pure (-127, session)

/-- A handler of `CT_special`: the method of the reader it calls, and what it returns where that works. -/
structure Special where
  called : Option (CtMethod × Call)
  res : Int
deriving Repr, DecidableEq

def CT_special (ctx : Ctapi_Context) (special : Special) : Objects Int :=
  match special.called with
  | none => pure special.res
  | some (called, call) => do
      if ctx.reader = none then pure special.res
      else
        let answer ← CReader.ct ctx.reader called call
        if answer.result = CJ_SUCCESS then pure special.res else pure CT_API_RV_ERR_CT

def CT_data (session : Session) (ctn : UInt16) (dad : UInt8) (cmd_len response_len : UInt16) (special : Special)
    (call : Call) (deleted : List Access) : Objects (Int × Session) :=
  match findContextByCtn session ctn with
  | none => pure (-128, session)
  | some ctx => do
      if cmd_len < 4 then pure (CT_API_RV_ERR_INVALID, session)
      else if response_len < 2 then pure (CT_API_RV_ERR_MEMORY, session)
      else if dad = CT_API_AD_DRIVER then
        let res ← CT_special ctx special
        pure (res, session)
      else CT_internal session ctx call deleted

/-- Deleting the context deletes its reader. -/
def nt_close (session : Session) (ctn : UInt16) (accesses : List Access) : Objects (Int × Session) :=
  match findContextByCtn session ctn with
  | none => pure (-128, session)
  | some ctx => do
      let rest := { session with
        ct_context_list := session.ct_context_list.eraseP fun other => other.ctn = ctn }
      if ctx.reader ≠ none then
        let _ ← CReader.Disonnect ctx.reader accesses
        CReader.delete ctx.reader []
        pure (0, fini rest)
      else pure (if ctx.old = none then -127 else 0, fini rest)

/-- `pthread_mutex_lock`, a body, and `pthread_mutex_unlock`. -/
def locking (session : Session) (body : Session → Objects (Ctapi.Answer × Session)) :
    Objects (Ctapi.Answer × Session) := do
  if session.locked = true then pure (⟨none, [.lock]⟩, session)
  else
    let made ← body { session with locked := true }
    match made.1.returned with
    | none => pure (⟨none, .lock :: made.1.events⟩, made.2)
    | some rv => pure (⟨some rv, .lock :: made.1.events ++ [.unlock]⟩, { made.2 with locked := false })

def CT_close (session : Session) (ctn : UInt16) (accesses : List Access) : Objects (Ctapi.Answer × Session) :=
  locking session fun session => do
    let closed ← nt_close session ctn accesses
    pure (⟨some closed.1, []⟩, closed.2)

/-- A reader that does not tell what it is, is closed again with `CT_close`. -/
def _init_common2 (nonSerial : NonSerial) (surroundings : Surroundings) (doings : Doings) (session : Session)
    (ctn pn : UInt16) (dname : Text) : Objects (Ctapi.Answer × Session) := do
  let opened ← _init_common1 nonSerial surroundings doings session ctn pn dname
  if opened.1 = 0 then
    let told ← CT_data opened.2 ctn CT_API_AD_CT 5 300 ⟨none, 0⟩ doings.information doings.deleted
    if told.1 ≠ 0 then
      let closed ← CT_close told.2 ctn doings.deleted
      pure (⟨closed.1.returned.map fun _ => told.1, closed.1.events⟩, closed.2)
    else pure (⟨some told.1, []⟩, told.2)
  else pure (⟨some opened.1, []⟩, opened.2)

def CT_init (nonSerial : NonSerial) (surroundings : Surroundings) (doings : Doings) (session : Session)
    (ctn pn : UInt16) : Objects (Ctapi.Answer × Session) :=
  if pn = 0 ∨ ctn = CT_INVALID_CTN then pure (⟨some (-127), []⟩, session)
  else locking session fun session => _init_common2 nonSerial surroundings doings session ctn pn []

/-- `devName` is NULL where there is none. -/
def rsct_init_name (nonSerial : NonSerial) (surroundings : Surroundings) (doings : Doings) (session : Session)
    (ctn : UInt16) (devName : Option Text) : Objects (Ctapi.Answer × Session) :=
  match devName with
  | none => pure (⟨some (-127), []⟩, session)
  | some devName =>
      if ctn = CT_INVALID_CTN then pure (⟨some (-127), []⟩, session)
      else locking session fun session => _init_common2 nonSerial surroundings doings session ctn 0 devName

def rsct_ifd_ioctl (session : Session) (ctn : UInt16) (call : Call) : Objects Int :=
  match findContextByCtn session ctn with
  | none => pure IFD_COMMUNICATION_ERROR
  | some ctx => do
      if ctx.reader = none then pure IFD_COMMUNICATION_ERROR
      else
        let answer ← CReader.ifd ctx.reader .IfdIoControl call
        pure answer.result

/-! ## The registry without pointers -/

section Forgetting

variable {session : Session} {ctn pn : UInt16} {ctx : Ctapi_Context}

theorem findContextByCtn_registry :
    Ctapi.findContextByCtn session.registry ctn = (findContextByCtn session ctn).map Ctapi_Context.forget := by
  simp only [Ctapi.findContextByCtn, findContextByCtn, Session.registry, List.find?_map]
  rfl

theorem findContextByPort_registry :
    Ctapi.findContextByPort session.registry pn = (findContextByPort session pn).map Ctapi_Context.forget := by
  simp only [Ctapi.findContextByPort, findContextByPort, Session.registry, List.find?_map]
  rfl

theorem registry_fini : (fini session).registry = Ctapi.fini session.registry := by
  by_cases counted : session._ctapi_init_count > 0
  · simp [fini, Ctapi.fini, Session.registry, counted]
  · simp [fini, Ctapi.fini, Session.registry, counted]

theorem registry_addContext :
    (addContext session ctx).registry = Ctapi.addContext session.registry ctx.forget := by
  simp [addContext, Ctapi.addContext, Session.registry]

/-- A driver other than that of `Connect` is opened with every result of `Connect`. -/
theorem openDriver_driverFor (nonSerial : NonSerial) (surroundings : Surroundings) (connects : Bool)
    (information : Int) (devName : Text) :
    openDriver nonSerial { surroundings with Connect := connects, readerInformation := information } devName =
      match driverFor nonSerial surroundings devName with
      | .ok .reader => if connects then .ok .reader else .error (-127)
      | other => other := by
  cases connects
  all_goals
    simp only [driverFor, openDriver, openDevice, if_true, Bool.false_eq_true, if_false]
    split_ifs
  all_goals try rfl
  all_goals
    cases _findUsbDevByName surroundings.rsct_usbdev_scan.2 devName with
    | none => rfl
    | some d =>
        dsimp only
        split_ifs
        all_goals rfl

end Forgetting

/-! ## What the contexts own -/

/-- A context, and the reader below its `CReader`. -/
abbrev Holding := Ctapi_Context × Option Attached

def Holding.cells (holding : Holding) : List (Nat × Object) :=
  match holding.1.reader with
  | none => []
  | some reader => Eca.ReaderObject.cells reader holding.2

def owned (holdings : List Holding) : List (Nat × Object) := holdings.flatMap Holding.cells

/-- The holdings are those of the session, and it is known what they hold. -/
structure Knows (session : Session) (holdings : List Holding) (held : UInt16 → Option Bool) : Prop where
  contexts : session.ct_context_list = holdings.map Prod.fst
  exclusive : ∀ holding ∈ holdings, holding.1.reader ≠ none → holding.1.old = none
  older : ∀ holding ∈ holdings, holding.1.old ≠ some .reader
  told : ∀ holding ∈ holdings, holding.1.reader ≠ none → held holding.1.ctn = known holding.2

/-- The holding of a number among the others. -/
structure Found (holdings : List Holding) (ctn : UInt16) (ctx : Ctapi_Context) (attached : Option Attached)
    (before behind : List Holding) : Prop where
  split : holdings = before ++ (ctx, attached) :: behind
  named : ctx.ctn = ctn
  others : ∀ holding ∈ before ++ behind, holding.1.ctn ≠ ctn

section Holdings

variable {session next : Session} {holdings before behind : List Holding} {held : UInt16 → Option Bool}
  {ctn : UInt16} {ctx now : Ctapi_Context} {attached after : Option Attached}

theorem found_of (knows : Knows session holdings held) (registered : Registered session.registry)
    (found : findContextByCtn session ctn = some ctx) :
    ∃ attached before behind, Found holdings ctn ctx attached before behind := by
  rw [findContextByCtn, knows.contexts, List.find?_map] at found
  obtain ⟨⟨other, attached⟩, picked, rfl⟩ := Option.map_eq_some_iff.mp found
  obtain ⟨named, before, behind, rfl, _⟩ := List.find?_eq_some_iff_append.mp picked
  have name : other.ctn = ctn := by simpa using named
  refine ⟨attached, before, behind, rfl, name, ?_⟩
  have distinct := registered.ctns
  simp only [Session.registry, knows.contexts, List.map_map, List.map_append, List.map_cons] at distinct
  have apart := (List.nodup_cons.mp (List.nodup_middle.mp distinct)).1
  rw [← List.map_append] at apart
  intro holding member same
  exact apart (List.mem_map.mpr ⟨holding, member, same.trans name.symm⟩)

theorem owned_split : (owned (before ++ (ctx, attached) :: behind)).Perm
    (Holding.cells (ctx, attached) ++ owned (before ++ behind)) := by
  simp only [owned, List.flatMap_append, List.flatMap_cons]
  exact List.perm_append_comm_assoc _ _ _

/-- What is done to the objects of one context leaves those of the others alone. -/
theorem owned_returns {A : Type} {program : Objects A} {result : A}
    (runs : Returns (Holding.cells (ctx, attached)) program result (Holding.cells (now, after))) :
    Returns (owned (before ++ (ctx, attached) :: behind)) program result
      (owned (before ++ (now, after) :: behind)) :=
  Returns.perm (Returns.frame runs) owned_split owned_split.symm

theorem Knows.changed (knows : Knows session holdings held)
    (found : Found holdings ctn ctx attached before behind)
    (contexts : next.ct_context_list = (before ++ (now, after) :: behind).map Prod.fst) (named : now.ctn = ctn)
    (exclusive : now.reader ≠ none → now.old = none) (older : now.old ≠ some .reader) {value : Option Bool}
    (told : now.reader ≠ none → value = known after) :
    Knows next (before ++ (now, after) :: behind) (Function.update held ctn value) := by
  have kept : ∀ holding ∈ before ++ behind, holding ∈ holdings := by
    intro holding member
    rw [found.split]
    simp only [List.mem_append, List.mem_cons] at member ⊢
    tauto
  refine ⟨contexts, ?_, ?_, ?_⟩
  · intro holding member reader
    rcases List.mem_append.mp member with first | rest
    · exact knows.exclusive holding (kept holding (List.mem_append_left _ first)) reader
    · rcases List.mem_cons.mp rest with rfl | last
      · exact exclusive reader
      · exact knows.exclusive holding (kept holding (List.mem_append_right _ last)) reader
  · intro holding member
    rcases List.mem_append.mp member with first | rest
    · exact knows.older holding (kept holding (List.mem_append_left _ first))
    · rcases List.mem_cons.mp rest with rfl | last
      · exact older
      · exact knows.older holding (kept holding (List.mem_append_right _ last))
  · intro holding member reader
    have other : holding ∈ before ++ behind → Function.update held ctn value holding.1.ctn =
        known holding.2 := by
      intro among
      rw [Function.update_of_ne (found.others holding among)]
      exact knows.told holding (kept holding among) reader
    rcases List.mem_append.mp member with first | rest
    · exact other (List.mem_append_left _ first)
    · rcases List.mem_cons.mp rest with rfl | last
      · simpa [named] using told reader
      · exact other (List.mem_append_right _ last)

/-- Only the context of the number is changed. -/
theorem Found.change (found : Found holdings ctn ctx attached before behind)
    (contexts : session.ct_context_list = holdings.map Prod.fst) (f : Ctapi_Context → Ctapi_Context) :
    (session.change ctn f).ct_context_list = (before ++ (f ctx, after) :: behind).map Prod.fst := by
  have apart : ∀ holding ∈ before ++ behind, ¬ holding.1.ctn = ctn := found.others
  simp only [List.mem_append, or_imp, forall_and] at apart
  have first : (before.map Prod.fst).map (fun other => if other.ctn = ctn then f other else other) =
      before.map Prod.fst := by
    rw [List.map_map]
    exact List.map_congr_left fun holding member => if_neg (apart.1 holding member)
  have last : (behind.map Prod.fst).map (fun other => if other.ctn = ctn then f other else other) =
      behind.map Prod.fst := by
    rw [List.map_map]
    exact List.map_congr_left fun holding member => if_neg (apart.2 holding member)
  rw [Session.change, contexts, found.split]
  simp only [List.map_append, List.map_cons, first, last, if_pos found.named]

theorem Knows.driver (knows : Knows session holdings held)
    (found : Found holdings ctn ctx attached before behind) :
    ctx.forget.driver = some .reader ↔ ctx.reader ≠ none := by
  have member : (ctx, attached) ∈ holdings := by simp [found.split]
  have older := knows.older _ member
  cases reader : ctx.reader with
  | none => simpa [Ctapi_Context.forget, reader] using older
  | some place => simp [Ctapi_Context.forget, reader]

theorem Knows.reader_held (knows : Knows session holdings held)
    (found : Found holdings ctn ctx attached before behind) (reader : ctx.reader ≠ none) :
    held ctn = known attached := by
  rw [← found.named]
  exact knows.told (ctx, attached) (by simp [found.split]) reader

theorem Found.unique (found : Found holdings ctn ctx attached before behind)
    (contexts : session.ct_context_list = holdings.map Prod.fst) {other : Ctapi_Context}
    (member : other ∈ session.ct_context_list) (named : other.ctn = ctn) : other = ctx := by
  rw [contexts, found.split] at member
  obtain ⟨holding, among, rfl⟩ := List.mem_map.mp member
  rcases List.mem_append.mp among with first | rest
  · exact absurd named (found.others holding (List.mem_append_left _ first))
  · rcases List.mem_cons.mp rest with rfl | last
    · rfl
    · exact absurd named (found.others holding (List.mem_append_right _ last))

theorem registry_change (found : Found holdings ctn ctx attached before behind)
    (contexts : session.ct_context_list = holdings.map Prod.fst) (f : Ctapi_Context → Ctapi_Context)
    (lost : (f ctx).forget = { ctx.forget with driver := none }) :
    (session.change ctn f).registry = { session.registry with
      ct_context_list := session.registry.ct_context_list.map fun other =>
        if other.ctn = ctn then { other with driver := none } else other } := by
  simp only [Session.change, Session.registry, List.map_map, Registry.mk.injEq, true_and, and_true]
  apply List.map_congr_left
  intro other member
  by_cases named : other.ctn = ctn
  · obtain rfl := found.unique contexts member named
    have forgotten : other.forget.ctn = ctn := named
    simp only [Function.comp_apply, if_pos named, if_pos forgotten, lost]
  · have forgotten : ¬ other.forget.ctn = ctn := named
    simp only [Function.comp_apply, if_neg named, if_neg forgotten]

/-- The contexts are those of another session too. -/
theorem Knows.kept (knows : Knows session holdings held)
    (same : next.ct_context_list = session.ct_context_list) : Knows next holdings held :=
  ⟨same.trans knows.contexts, knows.exclusive, knows.older, knows.told⟩

end Holdings

/-! ## What the calls do -/

/-- What a call of the reader returns, and what is known of it then. -/
def calling (missing : Int) (stays : Int → Bool) (call : Call) : Option Bool → Int × Option Bool
  | none => (missing, none)
  | some communicator =>
      (call.result, if stays call.result then some (communicator && call.accesses.all Access.keeps) else none)

theorem calling_known (missing : Eca.ReaderObject.Answer) (stays : Int → Bool) (call : Call) (attached : Option Attached) :
    calling missing.result stays call (known attached) =
      ((settled missing stays call attached).1.result, known (settled missing stays call attached).2) := by
  have same := @settled_known attached missing stays call 0
  cases attached with
  | none => rfl
  | some attached =>
      simp only [Known.settled, known, Option.map_some, Prod.mk.injEq, Known.mk.injEq, and_true] at same
      simp only [calling, known, Option.map_some, settled, Prod.mk.injEq, true_and]
      exact same.2

/-- What the driver returns for a command, and what is known of the reader then. -/
def commanded (dad : UInt8) (special : Special) (call : Call) (driver : Option Driver) (reader : Option Bool) :
    Int × Option Bool :=
  if driver ≠ some .reader then (if dad = CT_API_AD_DRIVER then special.res else call.result, reader)
  else if dad = CT_API_AD_DRIVER then
    match special.called with
    | none => (special.res, reader)
    | some (_, called) =>
        let answer := calling CJ_ERR_DEVICE_LOST checkStays called reader
        (if answer.1 = CJ_SUCCESS then special.res else CT_API_RV_ERR_CT, answer.2)
  else calling (-128) dataStays call reader

/-- The contexts own what is left, but for some objects that nobody refers to. -/
def Leaves (next : Session) (held : UInt16 → Option Bool) (lost : Nat) (left : List (Nat × Object)) : Prop :=
  ∃ holdings dropped, left = owned holdings ++ dropped ∧ dropped.length = lost ∧ Knows next holdings held

section Calls

variable {session : Session} {holdings before behind : List Holding} {held : UInt16 → Option Bool}
  {ctn : UInt16} {ctx : Ctapi_Context} {attached : Option Attached}

theorem leaves_owned {next : Session} (knows : Knows next holdings held) : Leaves next held 0 (owned holdings) :=
  ⟨holdings, [], by simp, rfl, knows⟩

theorem settled_lost {missing : Eca.ReaderObject.Answer} {stays : Int → Bool} {call : Call}
    (lost : stays (settled missing stays call attached).1.result = false) :
    (settled missing stays call attached).2 = none := by
  cases attached with
  | none => rfl
  | some attached =>
      have gone : stays call.result = false := lost
      simp [settled, gone]

/-- A command that goes to the driver. -/
theorem CT_internal_runs (knows : Knows session holdings held)
    (found : Found holdings ctn ctx attached before behind) {dad : UInt8} (other : dad ≠ CT_API_AD_DRIVER)
    (special : Special) (call : Call) (deleted : List Access) :
    Triple (owned holdings) (CT_internal session ctx call deleted) fun result left =>
      (result.1, result.2.registry) = Ctapi.CT_internal session.registry ctx.forget
        (commanded dad special call ctx.forget.driver (held ctn)).1 ∧
      Leaves result.2 (Function.update held ctn (commanded dad special call ctx.forget.driver (held ctn)).2) 0 left := by
  have member : (ctx, attached) ∈ holdings := by simp [found.split]
  obtain rfl := found.named
  cases reader : ctx.reader with
  | some place =>
      have driver : ctx.forget.driver = some .reader := by simp [Ctapi_Context.forget, reader]
      have old : ctx.old = none := knows.exclusive _ member (by simp [reader])
      have told := knows.reader_held found (by simp [reader])
      have called := calling_known ⟨-128, []⟩ dataStays call attached
      have made : commanded dad special call ctx.forget.driver (held ctx.ctn) =
          ((settled ⟨-128, []⟩ dataStays call attached).1.result,
            known (settled ⟨-128, []⟩ dataStays call attached).2) := by
        rw [← called]
        simp [commanded, driver, other, told]
      have lost := @settled_lost attached ⟨-128, []⟩ dataStays call
      have data := @CtData_returns place attached call
      rw [made]
      generalize settled ⟨-128, []⟩ dataStays call attached = answer at data lost
      have first : Returns (owned holdings) (CReader.CtData ctx.reader call) answer.1
          (owned (before ++ (ctx, answer.2) :: behind)) := by
        rw [found.split]
        apply owned_returns
        simpa [Holding.cells, reader] using data
      simp only [CT_internal, if_pos (show ctx.reader ≠ none by simp [reader])]
      apply Returns.followed first
      by_cases stays : answer.1.result = 0 ∨ answer.1.result = -1 ∨ answer.1.result = -11
      · rw [if_pos stays]
        apply Triple.pure
        refine ⟨?_, leaves_owned (knows.changed found (by rw [knows.contexts, found.split]; simp) rfl ?_ ?_ fun _ => rfl)⟩
        · simp [Ctapi.CT_internal, driver, stays]
        · exact fun _ => old
        · simp [old]
      · have gone : answer.2 = none := lost (by simpa [dataStays, and_assoc] using stays)
        rw [if_neg stays]
        have second : Returns (owned (before ++ (ctx, answer.2) :: behind)) (CReader.delete ctx.reader deleted) ()
            (owned (before ++ ({ ctx with reader := none }, none) :: behind)) := by
          apply owned_returns
          simpa [Holding.cells, reader] using @CReader_delete_returns place answer.2 deleted
        apply Returns.followed second
        apply Triple.pure
        have changed := @registry_change session holdings before behind _ ctx attached found knows.contexts
          (fun other => { other with reader := none }) (by simp [Ctapi_Context.forget, old])
        have contexts := @Found.change session holdings before behind _ ctx attached none found knows.contexts
          (fun other => { other with reader := none })
        refine ⟨?_, ?_⟩
        · rw [changed]
          simp only [Ctapi.CT_internal, driver, reduceCtorEq, if_false, if_neg stays]
          rfl
        · rw [gone]
          exact leaves_owned (knows.changed found contexts rfl (by simp) (by simp [old]) fun _ => rfl)
  | none =>
      have driver : ctx.forget.driver = ctx.old := by simp [Ctapi_Context.forget, reader]
      have older := knows.older _ member
      have made : commanded dad special call ctx.forget.driver (held ctx.ctn) = (call.result, held ctx.ctn) := by
        simp [commanded, driver, older, other]
      rw [made]
      simp only [CT_internal, reader, ne_eq, not_true_eq_false, if_false, Function.update_eq_self]
      cases old : ctx.old with
      | none =>
          apply Triple.pure
          exact ⟨by simp [Ctapi.CT_internal, driver, old], leaves_owned knows⟩
      | some previous =>
          simp only [reduceCtorEq, not_false_eq_true, if_true]
          by_cases stays : call.result = 0 ∨ call.result = -1 ∨ call.result = -11
          · rw [if_pos stays]
            exact Triple.pure ⟨by simp [Ctapi.CT_internal, driver, old, stays], leaves_owned knows⟩
          · rw [if_neg stays]
            have changed := @registry_change session holdings before behind _ ctx attached found knows.contexts
              (fun other => { other with old := none }) (by simp [Ctapi_Context.forget, reader])
            have contexts := @Found.change session holdings before behind _ ctx attached attached found
              knows.contexts (fun other => { other with old := none })
            have same : owned holdings = owned (before ++ ({ ctx with old := none }, attached) :: behind) := by
              rw [found.split]
              simp [owned, Holding.cells]
            have after : Knows _ _ (Function.update held ctx.ctn (held ctx.ctn)) :=
              knows.changed found contexts rfl (by simp) (by simp) (by simp [reader])
            apply Triple.pure
            refine ⟨?_, ?_⟩
            · rw [changed]
              simp only [Ctapi.CT_internal, driver, old, reduceCtorEq, if_false, if_neg stays]
              rfl
            · rw [same]
              simpa using leaves_owned after

/-- A command for the library itself. -/
theorem CT_special_runs (knows : Knows session holdings held)
    (found : Found holdings ctn ctx attached before behind) (special : Special) (call : Call) :
    Triple (owned holdings) (CT_special ctx special) fun result left =>
      result = (commanded CT_API_AD_DRIVER special call ctx.forget.driver (held ctn)).1 ∧
      Leaves session
        (Function.update held ctn (commanded CT_API_AD_DRIVER special call ctx.forget.driver (held ctn)).2) 0 left := by
  have member : (ctx, attached) ∈ holdings := by simp [found.split]
  obtain rfl := found.named
  cases reader : ctx.reader with
  | none =>
      have driver : ctx.forget.driver ≠ some .reader := by
        simpa [Ctapi_Context.forget, reader] using knows.older _ member
      have made : commanded CT_API_AD_DRIVER special call ctx.forget.driver (held ctx.ctn) =
          (special.res, held ctx.ctn) := by
        simp [commanded, driver]
      rw [made]
      simp only [CT_special, reader, if_true, Function.update_eq_self]
      cases special.called with
      | none => exact Triple.pure ⟨rfl, leaves_owned knows⟩
      | some called => exact Triple.pure ⟨rfl, leaves_owned knows⟩
  | some place =>
      have driver : ctx.forget.driver = some .reader := by simp [Ctapi_Context.forget, reader]
      have old : ctx.old = none := knows.exclusive _ member (by simp [reader])
      have told := knows.reader_held found (by simp [reader])
      cases special with
      | mk called res =>
          cases called with
          | none =>
              simp only [CT_special, commanded, driver, ne_eq, not_true_eq_false, if_false, if_true,
                Function.update_eq_self]
              exact Triple.pure ⟨rfl, leaves_owned knows⟩
          | some method =>
              obtain ⟨called, doing⟩ := method
              have settles := calling_known ⟨CJ_ERR_DEVICE_LOST, called.cleared⟩ checkStays doing attached
              have runs := @ct_returns place attached called doing
              simp only [CT_special, commanded, driver, ne_eq, not_true_eq_false, if_false, if_true, reader,
                reduceCtorEq, told, settles]
              generalize settled ⟨CJ_ERR_DEVICE_LOST, called.cleared⟩ checkStays doing attached = answer at runs
              have first : Returns (owned holdings) (CReader.ct (some place) called doing) answer.1
                  (owned (before ++ (ctx, answer.2) :: behind)) := by
                rw [found.split]
                apply owned_returns
                simpa [Holding.cells, reader] using runs
              apply Returns.followed first
              have contexts : session.ct_context_list = (before ++ (ctx, answer.2) :: behind).map Prod.fst := by
                rw [knows.contexts, found.split]
                simp
              have after := leaves_owned (knows.changed found contexts rfl (fun _ => old) (by simp [old]) fun _ => rfl)
              by_cases works : answer.1.result = CJ_SUCCESS
              · simp only [works, if_true]
                exact Triple.pure ⟨rfl, after⟩
              · simp only [works, if_false]
                exact Triple.pure ⟨rfl, after⟩

/-- A command changes what is known of the reader of its context, where it is long enough. -/
def commandedHeld (held : UInt16 → Option Bool) (registry : Registry) (ctn : UInt16) (dad : UInt8)
    (cmd_len response_len : UInt16) (special : Special) (call : Call) : UInt16 → Option Bool :=
  match Ctapi.findContextByCtn registry ctn with
  | none => held
  | some ctx =>
      if cmd_len < 4 ∨ response_len < 2 then held
      else Function.update held ctn (commanded dad special call ctx.driver (held ctn)).2

/-- What `CT_special` or the driver returns. -/
def commandedResult (held : UInt16 → Option Bool) (registry : Registry) (ctn : UInt16) (dad : UInt8)
    (special : Special) (call : Call) : Int :=
  match Ctapi.findContextByCtn registry ctn with
  | none => 0
  | some ctx => (commanded dad special call ctx.driver (held ctn)).1

theorem CT_data_runs (knows : Knows session holdings held) (registered : Registered session.registry)
    (ctn : UInt16) (dad : UInt8) (cmd_len response_len : UInt16) (special : Special) (call : Call)
    (deleted : List Access) :
    Triple (owned holdings) (CT_data session ctn dad cmd_len response_len special call deleted) fun result left =>
      (result.1, result.2.registry) = Ctapi.CT_data session.registry ctn dad cmd_len response_len
        (commandedResult held session.registry ctn dad special call) ∧
      Leaves result.2 (commandedHeld held session.registry ctn dad cmd_len response_len special call) 0 left := by
  cases find : findContextByCtn session ctn with
  | none =>
      have absent : Ctapi.findContextByCtn session.registry ctn = none := by
        simp [findContextByCtn_registry, find]
      simp only [CT_data, Ctapi.CT_data, commandedHeld, find, absent]
      exact Triple.pure ⟨rfl, leaves_owned knows⟩
  | some ctx =>
      have present : Ctapi.findContextByCtn session.registry ctn = some ctx.forget := by
        simp [findContextByCtn_registry, find]
      obtain ⟨attached, before, behind, found⟩ := found_of knows registered find
      simp only [CT_data, Ctapi.CT_data, commandedHeld, commandedResult, find, present]
      by_cases short : cmd_len < 4
      · simp only [short, true_or, if_true]
        exact Triple.pure ⟨rfl, leaves_owned knows⟩
      · by_cases small : response_len < 2
        · simp only [short, small, or_true, if_true, if_false]
          exact Triple.pure ⟨rfl, leaves_owned knows⟩
        · simp only [short, small, or_self, if_false]
          by_cases library : dad = CT_API_AD_DRIVER
          · subst library
            simp only [if_true]
            apply Triple.bind (CT_special_runs knows found special call)
            rintro result left ⟨rfl, leaves⟩
            exact Triple.pure ⟨rfl, leaves⟩
          · simp only [if_neg library]
            exact CT_internal_runs knows found library special call deleted

theorem Found.erase (found : Found holdings ctn ctx attached before behind)
    (contexts : session.ct_context_list = holdings.map Prod.fst) :
    session.ct_context_list.eraseP (fun other => other.ctn = ctn) = (before ++ behind).map Prod.fst := by
  have apart : ∀ other ∈ before.map Prod.fst, ¬ decide (other.ctn = ctn) = true := by
    intro other member
    obtain ⟨holding, among, rfl⟩ := List.mem_map.mp member
    simpa using found.others holding (List.mem_append_left _ among)
  rw [contexts, found.split, List.map_append, List.map_cons, List.eraseP_append_right _ apart,
    List.eraseP_cons_of_pos (by simpa using found.named), ← List.map_append]

/-- The others stay known. -/
theorem Knows.others (knows : Knows session holdings held) (found : Found holdings ctn ctx attached before behind)
    {next : Session} (contexts : next.ct_context_list = (before ++ behind).map Prod.fst) :
    Knows next (before ++ behind) held := by
  have kept : ∀ holding ∈ before ++ behind, holding ∈ holdings := by
    intro holding member
    rw [found.split]
    simp only [List.mem_append, List.mem_cons] at member ⊢
    tauto
  exact ⟨contexts, fun holding member => knows.exclusive holding (kept holding member),
    fun holding member => knows.older holding (kept holding member),
    fun holding member => knows.told holding (kept holding member)⟩

theorem registry_erase (rest : List Ctapi_Context)
    (erased : rest = session.ct_context_list.eraseP fun other => other.ctn = ctn) :
    (fini { session with ct_context_list := rest }).registry = Ctapi.fini { session.registry with
      ct_context_list := session.registry.ct_context_list.eraseP fun other => other.ctn = ctn } := by
  rw [registry_fini, erased]
  simp only [Session.registry, List.eraseP_map]
  rfl

theorem fini_contexts : (fini session).ct_context_list = session.ct_context_list := by
  simp only [fini]
  split <;> rfl

theorem nt_close_runs (knows : Knows session holdings held) (registered : Registered session.registry)
    (ctn : UInt16) (accesses : List Access) :
    Triple (owned holdings) (nt_close session ctn accesses) fun result left =>
      (result.1, result.2.registry) = Ctapi.nt_close session.registry ctn ∧ Leaves result.2 held 0 left := by
  cases find : findContextByCtn session ctn with
  | none =>
      have absent : Ctapi.findContextByCtn session.registry ctn = none := by
        simp [findContextByCtn_registry, find]
      simp only [nt_close, Ctapi.nt_close, find, absent]
      exact Triple.pure ⟨rfl, leaves_owned knows⟩
  | some ctx =>
      have present : Ctapi.findContextByCtn session.registry ctn = some ctx.forget := by
        simp [findContextByCtn_registry, find]
      obtain ⟨attached, before, behind, found⟩ := found_of knows registered find
      have member : (ctx, attached) ∈ holdings := by simp [found.split]
      have contexts := found.erase knows.contexts
      have after : Leaves (fini { session with
          ct_context_list := session.ct_context_list.eraseP fun other => other.ctn = ctn }) held 0
          (owned (before ++ behind)) :=
        leaves_owned (knows.others found (fini_contexts.trans contexts))
      have forgotten := @registry_erase session ctn _ rfl
      simp only [nt_close, Ctapi.nt_close, find, present]
      cases reader : ctx.reader with
      | some place =>
          have freed : Returns (Holding.cells (ctx, attached))
              (do let _ ← CReader.Disonnect (some place) accesses; CReader.delete (some place) []) () [] := by
            simp only [Holding.cells, reader]
            exact Returns.bind (Disonnect_returns accesses) (CReader_delete_returns [])
          have all : Returns (owned holdings)
              (do let _ ← CReader.Disonnect (some place) accesses; CReader.delete (some place) []) ()
              (owned (before ++ behind)) := by
            rw [found.split]
            exact Returns.perm (Returns.frame freed) owned_split (.refl _)
          have driver : ctx.forget.driver ≠ none := by simp [Ctapi_Context.forget, reader]
          simp only [ne_eq, reduceCtorEq, not_false_eq_true, if_true]
          rw [← bind_assoc]
          apply Returns.followed all
          exact Triple.pure ⟨by rw [forgotten, if_neg driver], after⟩
      | none =>
          have driver : ctx.forget.driver = ctx.old := by simp [Ctapi_Context.forget, reader]
          have same : owned holdings = owned (before ++ behind) := by
            rw [found.split]
            simp [owned, Holding.cells, reader]
          simp only [ne_eq, not_true_eq_false, if_false, driver]
          rw [same]
          exact Triple.pure ⟨by rw [forgotten], after⟩

end Calls

/-! ## Opening -/

/-- The registry does not see more of the readers than what `Connect` and GET STATUS 46 return. -/
def Doings.met (doings : Doings) (surroundings : Surroundings) : Surroundings :=
  { surroundings with
    Connect := decide (doings.device.result = CJ_SUCCESS)
    readerInformation := doings.information.result }

/-- An opening comes to `Connect`. -/
def reachesReader (nonSerial : NonSerial) (surroundings : Surroundings) (registry : Registry) (ctn pn : UInt16)
    (dname : Text) : Bool :=
  (init nonSerial surroundings registry).isSome && !(nonSerial && surroundings.rsct_usbdev_scan.1 < 0) &&
    ctn ≠ CT_INVALID_CTN && (Ctapi.findContextByCtn registry ctn).isNone &&
    (pn = 0 || (Ctapi.findContextByPort registry pn).isNone) &&
    match deviceName nonSerial surroundings pn dname with
    | none => false
    | some devName => match driverFor nonSerial surroundings devName with
      | .ok .reader => true
      | _ => false

theorem reaches_of {nonSerial : NonSerial} {surroundings : Surroundings} {registry counted : Registry}
    {ctn pn : UInt16} {dname devName : Text} (initialised : init nonSerial surroundings registry = some counted)
    (scans : ¬ (nonSerial = true ∧ surroundings.rsct_usbdev_scan.1 < 0)) (valid : ctn ≠ CT_INVALID_CTN)
    (unused : Ctapi.findContextByCtn registry ctn = none)
    (free : ¬ (pn ≠ 0 ∧ (Ctapi.findContextByPort registry pn).isSome = true))
    (named : deviceName nonSerial surroundings pn dname = some devName)
    (driver : driverFor nonSerial surroundings devName = .ok .reader) :
    reachesReader nonSerial surroundings registry ctn pn dname = true := by
  have port : pn = 0 ∨ Ctapi.findContextByPort registry pn = none := by
    by_cases none : pn = 0
    · exact .inl none
    · exact .inr (by simpa [none] using free)
  simp only [not_and, Int.not_lt] at scans
  cases nonSerial with
  | false => simp [reachesReader, initialised, valid, unused, port, named, driver]
  | true => simpa [reachesReader, initialised, valid, unused, port, named, driver] using scans rfl

section Opening

variable {session : Session} {holdings : List Holding} {held : UInt16 → Option Bool} {nonSerial : NonSerial}
  {surroundings : Surroundings} {doings : Doings} {ctn pn : UInt16} {dname : Text}

/-- A context comes behind the others. -/
theorem Knows.added (knows : Knows session holdings held) (unused : findContextByCtn session ctn = none)
    {ctx : Ctapi_Context} {attached : Option Attached} {next : Session} {value : Option Bool}
    (contexts : next.ct_context_list = session.ct_context_list ++ [ctx]) (named : ctx.ctn = ctn)
    (exclusive : ctx.reader ≠ none → ctx.old = none) (older : ctx.old ≠ some .reader)
    (told : ctx.reader ≠ none → value = known attached) :
    Knows next (holdings ++ [(ctx, attached)]) (Function.update held ctn value) := by
  have apart : ∀ holding ∈ holdings, holding.1.ctn ≠ ctn := by
    intro holding member same
    simp only [findContextByCtn, knows.contexts, List.find?_eq_none, List.mem_map] at unused
    exact absurd same (by simpa using unused holding.1 ⟨holding, member, rfl⟩)
  refine ⟨by rw [contexts, knows.contexts]; simp, ?_, ?_, ?_⟩
  · intro holding member reader
    rcases List.mem_append.mp member with first | last
    · exact knows.exclusive holding first reader
    · cases List.mem_singleton.mp last
      exact exclusive reader
  · intro holding member
    rcases List.mem_append.mp member with first | last
    · exact knows.older holding first
    · cases List.mem_singleton.mp last
      exact older
  · intro holding member reader
    rcases List.mem_append.mp member with first | last
    · rw [Function.update_of_ne (apart holding first)]
      exact knows.told holding first reader
    · cases List.mem_singleton.mp last
      simpa [named] using told reader

/-- What is known of a number without a context does not matter. -/
theorem Knows.unused (knows : Knows session holdings held) (unused : findContextByCtn session ctn = none)
    (value : Option Bool) : Knows session holdings (Function.update held ctn value) := by
  refine ⟨knows.contexts, knows.exclusive, knows.older, ?_⟩
  intro holding member reader
  have apart : holding.1.ctn ≠ ctn := by
    intro same
    simp only [findContextByCtn, knows.contexts, List.find?_eq_none, List.mem_map] at unused
    exact absurd same (by simpa using unused holding.1 ⟨holding, member, rfl⟩)
  rw [Function.update_of_ne apart]
  exact knows.told holding member reader

/-- A `CReader` is made for a new context, and given up where it does not connect. -/
theorem opening_runs (knows : Knows session holdings held) (unused : findContextByCtn session ctn = none)
    (count : Int) :
    let counted := { session with _ctapi_init_count := count }
    Triple (owned holdings)
      (do
        let r ← CReader.new
        let rv ← CReader.Connect r doings.device
        if rv ≠ CJ_SUCCESS then
          CReader.delete r doings.deleted
          pure (-127, fini counted)
        else
          let _ ← CReader.plain r .SetKeyInterruptCallback
          pure ((0 : Int), addContext counted ⟨ctn, pn, r, none⟩)) fun result left =>
      (result.1, result.2.registry) =
        (if doings.device.result = CJ_SUCCESS then
          (0, Ctapi.addContext counted.registry ⟨ctn, pn, some .reader⟩)
        else (-127, Ctapi.fini counted.registry)) ∧
      Leaves result.2 (Function.update held ctn (doings.device.connected none)) (doings.device.loses none) left := by
  intro counted
  apply Triple.bind Triple.new
  rintro made left ⟨place, rfl, rfl⟩
  have connected := @Triple.frame _ _ _ (owned holdings) _ _ (@Connect_runs place none doings.device)
  apply Triple.bind connected
  rintro result left ⟨own, rfl, now, lost, rfl, rfl, same, count⟩
  by_cases works : doings.device.result = CJ_SUCCESS
  · have success := Device.connected_of_success works
    have nothing : lost = [] := by
      rw [← List.length_eq_zero_iff, count]
      simpa [known] using success.2
    subst nothing
    cases now with
    | none => simp [known, success.1] at same
    | some attached =>
        simp only [works, ne_eq, not_true_eq_false, if_false, if_true]
        apply Returns.followed (Returns.frame (Returns.frame (plain_returns _)))
        have all : List.Perm (cells place (some attached) ++ [] ++ owned holdings)
            (owned (holdings ++ [(⟨ctn, pn, some place, none⟩, some attached)])) := by
          simpa [owned, Holding.cells] using List.perm_append_comm
        apply Triple.pure_perm all
        refine ⟨by rw [registry_addContext]; rfl, holdings ++ [(⟨ctn, pn, some place, none⟩, some attached)], [],
          by simp, by simp [success.2], ?_⟩
        exact knows.added unused rfl rfl (by simp) (by simp) fun _ => same.symm
  · simp only [works, ne_eq, not_false_eq_true, if_true, if_false]
    apply Returns.followed (Returns.frame (Returns.frame (CReader_delete_returns _)))
    apply Triple.pure_perm List.perm_append_comm
    refine ⟨by rw [registry_fini], holdings, lost, by simp, by simpa [known] using count, ?_⟩
    exact (knows.unused unused _).kept fini_contexts

/-- What is known of the reader of a number behind an opening. -/
def openedHeld (nonSerial : NonSerial) (surroundings : Surroundings) (doings : Doings) (held : UInt16 → Option Bool)
    (registry : Registry) (ctn pn : UInt16) (dname : Text) : UInt16 → Option Bool :=
  if reachesReader nonSerial surroundings registry ctn pn dname then
    Function.update held ctn (doings.device.connected none)
  else held

/-- The communicators that an opening leaves behind. -/
def openedLost (nonSerial : NonSerial) (surroundings : Surroundings) (doings : Doings) (registry : Registry)
    (ctn pn : UInt16) (dname : Text) : Nat :=
  if reachesReader nonSerial surroundings registry ctn pn dname then doings.device.loses none else 0

theorem opened_otherwise (held : UInt16 → Option Bool) (registry : Registry)
    (never : reachesReader nonSerial surroundings registry ctn pn dname = false) :
    openedHeld nonSerial surroundings doings held registry ctn pn dname = held ∧
      openedLost nonSerial surroundings doings registry ctn pn dname = 0 := by
  simp [openedHeld, openedLost, never]

/-- A context of an older driver owns nothing here. -/
theorem older_runs (knows : Knows session holdings held) (unused : findContextByCtn session ctn = none)
    (count : Int) {driver : Driver} (older : driver ≠ .reader) :
    Triple (owned holdings)
      (pure ((0 : Int), addContext { session with _ctapi_init_count := count } ⟨ctn, pn, none, some driver⟩) :
        Objects (Int × Session)) fun result left =>
      (result.1, result.2.registry) =
        (0, Ctapi.addContext { session.registry with _ctapi_init_count := count } ⟨ctn, pn, some driver⟩) ∧
      Leaves result.2 held 0 left := by
  have added : Knows (addContext { session with _ctapi_init_count := count } ⟨ctn, pn, none, some driver⟩)
      (holdings ++ [(⟨ctn, pn, none, some driver⟩, none)]) (Function.update held ctn (held ctn)) :=
    knows.added unused rfl rfl (by simp) (by simpa using older) (by simp)
  rw [Function.update_eq_self] at added
  have same : owned holdings = owned (holdings ++ [(⟨ctn, pn, none, some driver⟩, none)]) := by
    simp [owned, Holding.cells]
  rw [same]
  exact Triple.pure ⟨by rw [registry_addContext]; rfl, leaves_owned added⟩

theorem _init_common1_runs (knows : Knows session holdings held) :
    Triple (owned holdings) (_init_common1 nonSerial surroundings doings session ctn pn dname) fun result left =>
      (result.1, result.2.registry) =
        Ctapi._init_common1 nonSerial (doings.met surroundings) session.registry ctn pn dname ∧
      Leaves result.2 (openedHeld nonSerial surroundings doings held session.registry ctn pn dname)
        (openedLost nonSerial surroundings doings session.registry ctn pn dname) left := by
  have back : ∀ (rv : Int) (count : Int), reachesReader nonSerial surroundings session.registry ctn pn dname = false →
      Triple (owned holdings)
        (pure (rv, fini { session with _ctapi_init_count := count }) : Objects (Int × Session)) fun result left =>
          (result.1, result.2.registry) = (rv, Ctapi.fini { session.registry with _ctapi_init_count := count }) ∧
          Leaves result.2 (openedHeld nonSerial surroundings doings held session.registry ctn pn dname)
            (openedLost nonSerial surroundings doings session.registry ctn pn dname) left := by
    intro rv count never
    rw [(opened_otherwise held session.registry never).1, (opened_otherwise held session.registry never).2]
    exact Triple.pure ⟨by rw [registry_fini]; rfl, leaves_owned (knows.kept fini_contexts)⟩
  have same : init nonSerial (doings.met surroundings) session.registry =
      init nonSerial surroundings session.registry := rfl
  have named : deviceName nonSerial (doings.met surroundings) pn dname =
      deviceName nonSerial surroundings pn dname := rfl
  have scanned : (doings.met surroundings).rsct_usbdev_scan = surroundings.rsct_usbdev_scan := rfl
  cases counted : init nonSerial surroundings session.registry with
  | none =>
      have never : reachesReader nonSerial surroundings session.registry ctn pn dname = false := by
        simp [reachesReader, counted]
      simp only [Owner._init_common1, Ctapi._init_common1, same, counted]
      rw [(opened_otherwise held session.registry never).1, (opened_otherwise held session.registry never).2]
      exact Triple.pure ⟨rfl, leaves_owned knows⟩
  | some registry =>
      have kept := (init_eq_some counted).1
      subst kept
      simp only [Owner._init_common1, Ctapi._init_common1, same, counted, scanned]
      by_cases scans : nonSerial = true ∧ surroundings.rsct_usbdev_scan.1 < 0
      · simp only [if_pos scans]
        exact back _ _ (by simp [reachesReader, scans])
      · by_cases invalid : ctn = CT_INVALID_CTN
        · simp only [if_neg scans, if_pos invalid]
          exact back _ _ (by simp [reachesReader, invalid])
        · simp only [if_neg scans, if_neg invalid]
          have ctnThere : Ctapi.findContextByCtn { session.registry with
              _ctapi_init_count := session.registry._ctapi_init_count + 1 } ctn =
                (findContextByCtn session ctn).map Ctapi_Context.forget := findContextByCtn_registry
          have ctnHere : findContextByCtn { session with
              _ctapi_init_count := session.registry._ctapi_init_count + 1 } ctn = findContextByCtn session ctn := rfl
          have portThere : Ctapi.findContextByPort { session.registry with
              _ctapi_init_count := session.registry._ctapi_init_count + 1 } pn =
                (findContextByPort session pn).map Ctapi_Context.forget := findContextByPort_registry
          have portHere : findContextByPort { session with
              _ctapi_init_count := session.registry._ctapi_init_count + 1 } pn = findContextByPort session pn := rfl
          simp only [ctnThere, ctnHere, portThere, portHere, Option.isSome_map]
          by_cases used : (findContextByCtn session ctn).isSome = true
          · simp only [used, if_true]
            exact back _ _ (by
              simp [reachesReader, findContextByCtn_registry, Option.isSome_iff_ne_none.mp used])
          · by_cases taken : pn ≠ 0 ∧ (findContextByPort session pn).isSome = true
            · simp only [used, if_pos taken]
              exact back _ _ (by
                simp [reachesReader, findContextByPort_registry, taken.1, Option.isSome_iff_ne_none.mp taken.2])
            · have unused : findContextByCtn session ctn = none := by simpa using used
              simp only [used, if_neg taken, named]
              cases devName : deviceName nonSerial surroundings pn dname with
              | none => exact back _ _ (by simp [reachesReader, devName])
              | some name =>
                  have opens : openDriver nonSerial (doings.met surroundings) name = _ :=
                    openDriver_driverFor nonSerial surroundings _ _ name
                  cases driver : driverFor nonSerial surroundings name with
                  | error rv =>
                      simp only [opens, driver]
                      exact back _ _ (by simp [reachesReader, devName, driver])
                  | ok driven =>
                      simp only [opens, driver]
                      have reaches : reachesReader nonSerial surroundings session.registry ctn pn dname =
                          match driven with
                          | .reader => true
                          | _ => false := by
                        cases driven with
                        | reader =>
                            exact reaches_of counted scans invalid (by simp [findContextByCtn_registry, unused])
                              (by simpa [findContextByPort_registry] using taken) devName driver
                        | oldEcom => simp [reachesReader, devName, driver]
                        | ppa => simp [reachesReader, devName, driver]
                      cases driven with
                      | reader =>
                          simp only [openedHeld, openedLost, reaches, if_true]
                          apply Triple.weaken (opening_runs knows unused (session.registry._ctapi_init_count + 1))
                          rintro result left ⟨made, leaves⟩
                          refine ⟨made.trans ?_, leaves⟩
                          by_cases works : doings.device.result = CJ_SUCCESS
                          · simp only [works, if_true, decide_true]
                            rfl
                          · simp only [works, if_false, decide_false, Bool.false_eq_true]
                            rfl
                      | oldEcom =>
                          simp only [openedHeld, openedLost, reaches, Bool.false_eq_true, if_false]
                          exact older_runs knows unused _ (by simp)
                      | ppa =>
                          simp only [openedHeld, openedLost, reaches, Bool.false_eq_true, if_false]
                          exact older_runs knows unused _ (by simp)

theorem _init_common1_registered {registry : Registry} (registered : Registered registry) :
    Registered (Ctapi._init_common1 nonSerial surroundings registry ctn pn dname).2 := by
  rcases @_init_common1_cases nonSerial surroundings registry ctn pn dname registered with opened | failed
  · obtain ⟨opens, driver, made⟩ := opened
    rw [made]
    exact registered_opened registered opens.unused opens.free (some driver)
  · obtain ⟨_, rv, _, made⟩ := failed
    rw [made]
    exact registered

/-- What the registry holds behind a call, and what is left to the contexts. -/
def Made (answer : Ctapi.Answer × Registry) (held : UInt16 → Option Bool) (lost : Nat)
    (result : Ctapi.Answer × Session) (left : List (Nat × Object)) : Prop :=
  (result.1, result.2.registry) = answer ∧ Leaves result.2 held lost left

/-- Where the mutex is held the call waits, and nothing is done. -/
theorem locking_runs (body : Session → Objects (Ctapi.Answer × Session)) (inner : Registry → Ctapi.Answer × Registry)
    {after : UInt16 → Option Bool} {lost : Nat} (knows : Knows session holdings held)
    (runs : Triple (owned holdings) (body { session with locked := true })
      (Made (inner { session.registry with locked := true }) after lost)) :
    Triple (owned holdings) (locking session body)
      (Made (Ctapi.locking session.registry inner) (if session.locked then held else after)
        (if session.locked then 0 else lost)) := by
  cases locked : session.locked with
  | true =>
      have there : session.registry.locked = true := locked
      simp only [locking, Ctapi.locking, locked, there, if_true]
      exact Triple.pure ⟨rfl, leaves_owned knows⟩
  | false =>
      have there : session.registry.locked = false := locked
      simp only [locking, Ctapi.locking, locked, there, Bool.false_eq_true, if_false]
      apply Triple.bind runs
      rintro ⟨answer, next⟩ left ⟨same, leaves⟩
      simp only [← same]
      cases returned : answer.returned with
      | none => exact Triple.pure ⟨rfl, leaves⟩
      | some rv =>
          obtain ⟨others, dropped, shape, counted, after⟩ := leaves
          exact Triple.pure ⟨rfl, others, dropped, shape, counted, after.kept rfl⟩

theorem CT_close_runs (knows : Knows session holdings held) (registered : Registered session.registry)
    (ctn : UInt16) (accesses : List Access) :
    Triple (owned holdings) (CT_close session ctn accesses)
      (Made (Ctapi.CT_close session.registry ctn) held 0) := by
  have closes := @nt_close_runs { session with locked := true } holdings held (knows.kept rfl)
    (registered_locked registered true) ctn accesses
  have inner : Triple (owned holdings)
      (do
        let closed ← nt_close { session with locked := true } ctn accesses
        pure ((⟨some closed.1, []⟩ : Ctapi.Answer), closed.2))
      (Made (⟨some (Ctapi.nt_close { session.registry with locked := true } ctn).1, []⟩,
        (Ctapi.nt_close { session.registry with locked := true } ctn).2) held 0) := by
    apply Triple.bind closes
    rintro ⟨rv, next⟩ left ⟨same, leaves⟩
    have equal : (rv, next.registry) = Ctapi.nt_close { session.registry with locked := true } ctn := same
    exact Triple.pure ⟨by rw [← equal], leaves⟩
  have runs := locking_runs
    (fun session => do
      let closed ← nt_close session ctn accesses
      pure (⟨some closed.1, []⟩, closed.2))
    (fun registry => (⟨some (Ctapi.nt_close registry ctn).1, []⟩, (Ctapi.nt_close registry ctn).2)) knows inner
  simp only [ite_self] at runs
  exact runs

/-- A reader that has been opened answers GET STATUS 46 itself. -/
theorem information_returned (special : Special) (call : Call) {registry : Registry}
    (opened : (Ctapi._init_common1 nonSerial (doings.met surroundings) registry ctn pn dname).1 = 0) :
    commandedResult (openedHeld nonSerial surroundings doings held registry ctn pn dname)
      (Ctapi._init_common1 nonSerial (doings.met surroundings) registry ctn pn dname).2 ctn CT_API_AD_CT
      special call = call.result := by
  have same : init nonSerial (doings.met surroundings) registry = init nonSerial surroundings registry := rfl
  have named : deviceName nonSerial (doings.met surroundings) pn dname =
      deviceName nonSerial surroundings pn dname := rfl
  have scanned : (doings.met surroundings).rsct_usbdev_scan = surroundings.rsct_usbdev_scan := rfl
  rcases made : Ctapi._init_common1 nonSerial (doings.met surroundings) registry ctn pn dname with ⟨rv, next⟩
  rw [made] at opened
  cases opened
  simp only [Ctapi._init_common1, same, named, scanned] at made
  split at made
  · simp [CT_API_RV_ERR_MEMORY] at made
  · rename_i counted initialised
    repeat' split at made
    all_goals try (simp at made; done)
    · rename_i failed
      simp only [Prod.mk.injEq] at made
      exact absurd made.1 (openDriver_error failed)
    · rename_i scans invalid used taken _ name naming _ driver opens
      simp only [Prod.mk.injEq] at made
      obtain ⟨-, rfl⟩ := made
      have found : Ctapi.findContextByCtn (Ctapi.addContext counted ⟨ctn, pn, some driver⟩) ctn =
          some ⟨ctn, pn, some driver⟩ := by
        have before : Ctapi.findContextByCtn counted ctn = none := by simpa using used
        simp only [Ctapi.findContextByCtn] at before
        simp [Ctapi.findContextByCtn, Ctapi.addContext, List.find?_append, before]
      have other : CT_API_AD_CT ≠ CT_API_AD_DRIVER := by decide
      simp only [commandedResult, found, commanded]
      cases driver with
      | oldEcom => simp [other]
      | ppa => simp [other]
      | reader =>
          rw [Doings.met, openDriver_driverFor] at opens
          have driver : driverFor nonSerial surroundings name = .ok .reader := by
            cases which : driverFor nonSerial surroundings name with
            | error rv => simp [which] at opens
            | ok driven => cases driven <;> simp_all
          have works : doings.device.result = CJ_SUCCESS := by
            simpa [driver] using opens
          have kept := (init_eq_some initialised).1
          subst kept
          have reaches : reachesReader nonSerial surroundings registry ctn pn dname = true :=
            reaches_of initialised scans invalid (Option.not_isSome_iff_eq_none.mp used) taken naming driver
          simp [other, openedHeld, reaches, (Device.connected_of_success works).1, calling]

/-- What is known behind an opening that has asked the reader what it is. -/
def introducedHeld (nonSerial : NonSerial) (surroundings : Surroundings) (doings : Doings)
    (held : UInt16 → Option Bool) (registry : Registry) (ctn pn : UInt16) (dname : Text) : UInt16 → Option Bool :=
  let opened := Ctapi._init_common1 nonSerial (doings.met surroundings) registry ctn pn dname
  let after := openedHeld nonSerial surroundings doings held registry ctn pn dname
  if opened.1 = 0 then commandedHeld after opened.2 ctn CT_API_AD_CT 5 300 ⟨none, 0⟩ doings.information else after

/-- Objects that nobody refers to stay behind a call. -/
theorem Leaves.framed {next : Session} {lost : Nat} {own : List (Nat × Object)} (leaves : Leaves next held lost own)
    (dropped : List (Nat × Object)) : Leaves next held (lost + dropped.length) (own ++ dropped) := by
  obtain ⟨holdings, others, rfl, counted, knows⟩ := leaves
  exact ⟨holdings, others ++ dropped, by simp, by simp [counted], knows⟩

theorem _init_common2_runs (knows : Knows session holdings held) (registered : Registered session.registry) :
    Triple (owned holdings) (_init_common2 nonSerial surroundings doings session ctn pn dname)
      (Made (Ctapi._init_common2 nonSerial (doings.met surroundings) session.registry ctn pn dname)
        (introducedHeld nonSerial surroundings doings held session.registry ctn pn dname)
        (openedLost nonSerial surroundings doings session.registry ctn pn dname)) := by
  have added := @_init_common1_registered nonSerial (doings.met surroundings) ctn pn dname _ registered
  have told := @information_returned held nonSerial surroundings doings ctn pn dname ⟨none, 0⟩ doings.information
    session.registry
  apply Triple.bind (_init_common1_runs knows)
  rintro ⟨rv, next⟩ left ⟨same, others, dropped, rfl, counted, knows⟩
  have equal : Ctapi._init_common1 nonSerial (doings.met surroundings) session.registry ctn pn dname =
      (rv, next.registry) := same.symm
  rw [equal] at added told
  simp only [Ctapi._init_common2, introducedHeld, equal]
  by_cases opened : rv = 0
  · simp only [opened, if_true]
    have data := CT_data_runs knows added ctn CT_API_AD_CT 5 300 ⟨none, 0⟩ doings.information doings.deleted
    rw [told opened] at data
    apply Triple.bind (@Triple.frame _ _ _ dropped _ _ data)
    rintro ⟨res, asked⟩ left ⟨own, rfl, same, leaves⟩
    have answered : Ctapi.CT_data next.registry ctn CT_API_AD_CT 5 300 (doings.met surroundings).readerInformation =
        (res, asked.registry) := same.symm
    simp only [answered]
    have kept := (CT_data_registered added ctn CT_API_AD_CT 5 300 (doings.met surroundings).readerInformation).1
    rw [answered] at kept
    by_cases refused : res = 0
    · simp only [refused, ne_eq, not_true_eq_false, if_false]
      exact Triple.pure ⟨rfl, by simpa [counted] using leaves.framed dropped⟩
    · simp only [refused, ne_eq, not_false_eq_true, if_true]
      obtain ⟨holders, more, rfl, none, knows⟩ := leaves
      have closes := @Triple.frame _ _ _ (more ++ dropped) _ _ (CT_close_runs knows kept ctn doings.deleted)
      rw [List.append_assoc]
      apply Triple.bind closes
      rintro ⟨answer, closed⟩ left ⟨own, rfl, same, leaves⟩
      have finished : Ctapi.CT_close asked.registry ctn = (answer, closed.registry) := same.symm
      simp only [finished]
      exact Triple.pure ⟨rfl, by simpa [counted, none] using leaves.framed (more ++ dropped)⟩
  · simp only [opened, if_false]
    exact Triple.pure ⟨rfl, others, dropped, rfl, counted, knows⟩

/-- An opening with the mutex. -/
theorem locked_opening_runs (knows : Knows session holdings held) (registered : Registered session.registry) :
    Triple (owned holdings)
      (locking session fun session => _init_common2 nonSerial surroundings doings session ctn pn dname)
      (Made (Ctapi.locking session.registry fun registry =>
          Ctapi._init_common2 nonSerial (doings.met surroundings) registry ctn pn dname)
        (if session.locked then held else introducedHeld nonSerial surroundings doings held
          { session.registry with locked := true } ctn pn dname)
        (if session.locked then 0 else openedLost nonSerial surroundings doings
          { session.registry with locked := true } ctn pn dname)) := by
  have runs := @_init_common2_runs { session with locked := true } holdings held nonSerial surroundings doings
    ctn pn dname (knows.kept rfl) (registered_locked registered true)
  exact locking_runs _
    (fun registry => Ctapi._init_common2 nonSerial (doings.met surroundings) registry ctn pn dname) knows runs

end Opening

theorem rsct_ifd_ioctl_runs {session : Session} {holdings : List Holding} {held : UInt16 → Option Bool}
    (knows : Knows session holdings held) (registered : Registered session.registry) (ctn : UInt16) (call : Call) :
    Triple (owned holdings) (rsct_ifd_ioctl session ctn call) fun result left =>
      match Ctapi.findContextByCtn session.registry ctn with
      | none => result = IFD_COMMUNICATION_ERROR ∧ Leaves session held 0 left
      | some ctx =>
          if ctx.driver = some .reader then
            result = (calling STATUS_DEVICE_NOT_CONNECTED ifdStays call (held ctn)).1 ∧
            Leaves session
              (Function.update held ctn (calling STATUS_DEVICE_NOT_CONNECTED ifdStays call (held ctn)).2) 0 left
          else result = IFD_COMMUNICATION_ERROR ∧ Leaves session held 0 left := by
  cases find : findContextByCtn session ctn with
  | none =>
      simp only [rsct_ifd_ioctl, find, findContextByCtn_registry, Option.map_none]
      exact Triple.pure ⟨rfl, leaves_owned knows⟩
  | some ctx =>
      obtain ⟨attached, before, behind, found⟩ := found_of knows registered find
      have member : (ctx, attached) ∈ holdings := by simp [found.split]
      have driver := knows.driver found
      simp only [rsct_ifd_ioctl, find, findContextByCtn_registry, Option.map_some]
      cases reader : ctx.reader with
      | none =>
          have other : ¬ ctx.forget.driver = some .reader := by simp [driver, reader]
          simp only [if_true, if_neg other]
          exact Triple.pure ⟨rfl, leaves_owned knows⟩
      | some place =>
          have same : ctx.forget.driver = some .reader := by simp [driver, reader]
          have old : ctx.old = none := knows.exclusive _ member (by simp [reader])
          have told := knows.reader_held found (by simp [reader])
          have settles := calling_known ⟨STATUS_DEVICE_NOT_CONNECTED, IfdMethod.IfdIoControl.cleared⟩ ifdStays call
            attached
          have runs := @ifd_returns place attached .IfdIoControl call
          simp only [reduceCtorEq, if_false, if_pos same, told, settles]
          generalize settled ⟨STATUS_DEVICE_NOT_CONNECTED, IfdMethod.IfdIoControl.cleared⟩ ifdStays call attached =
            answer at runs
          have first : Returns (owned holdings) (CReader.ifd (some place) .IfdIoControl call) answer.1
              (owned (before ++ (ctx, answer.2) :: behind)) := by
            rw [found.split]
            apply owned_returns
            simpa [Holding.cells, reader] using runs
          have contexts : session.ct_context_list = (before ++ (ctx, answer.2) :: behind).map Prod.fst := by
            rw [knows.contexts, found.split]
            simp
          apply Returns.followed first
          exact Triple.pure ⟨rfl, leaves_owned
            (knows.changed found contexts found.named (fun _ => old) (by simp [old]) fun _ => rfl)⟩

/-! ## Runs -/

inductive Request where
  | init (surroundings : Surroundings) (doings : Doings) (ctn pn : UInt16)
  | initName (surroundings : Surroundings) (doings : Doings) (ctn : UInt16) (devName : Option Text)
  | data (ctn : UInt16) (dad : UInt8) (cmd_len response_len : UInt16) (special : Special) (call : Call)
      (deleted : List Access)
  | close (ctn : UInt16) (accesses : List Access)
  | ioctl (ctn : UInt16) (call : Call)

def ownerStep (nonSerial : NonSerial) (session : Session) : Request → Objects (Ctapi.Answer × Session)
  | .init surroundings doings ctn pn => CT_init nonSerial surroundings doings session ctn pn
  | .initName surroundings doings ctn devName => rsct_init_name nonSerial surroundings doings session ctn devName
  | .data ctn dad cmd_len response_len special call deleted => do
      let result ← CT_data session ctn dad cmd_len response_len special call deleted
      pure (⟨some result.1, []⟩, result.2)
  | .close ctn accesses => CT_close session ctn accesses
  | .ioctl ctn call => do
      let result ← rsct_ifd_ioctl session ctn call
      pure (⟨some result, []⟩, session)

/-- The library with its heap. -/
def ownerMachine (nonSerial : NonSerial) : Machine (Session × Heap Object) Request (Except Fault Ctapi.Answer) :=
  heapMachine (ownerStep nonSerial)

/-- The registry without pointers, what is known of the reader of each number, and how many objects are lost. -/
structure Owners where
  registry : Registry
  held : UInt16 → Option Bool
  lost : Nat

namespace Owners

/-- An opening where the mutex is free. -/
def opened (nonSerial : NonSerial) (owners : Owners) (surroundings : Surroundings) (doings : Doings)
    (ctn pn : UInt16) (dname : Text) (registry : Registry) : Owners :=
  if owners.registry.locked then { owners with registry }
  else
    let locked := { owners.registry with locked := true }
    ⟨registry, introducedHeld nonSerial surroundings doings owners.held locked ctn pn dname,
      owners.lost + openedLost nonSerial surroundings doings locked ctn pn dname⟩

def step (nonSerial : NonSerial) (owners : Owners) : Request → Ctapi.Answer × Owners
  | .init surroundings doings ctn pn =>
      let made := Ctapi.CT_init nonSerial (doings.met surroundings) owners.registry ctn pn
      if pn = 0 ∨ ctn = CT_INVALID_CTN then (made.1, owners)
      else (made.1, owners.opened nonSerial surroundings doings ctn pn [] made.2)
  | .initName surroundings doings ctn devName =>
      let made := Ctapi.rsct_init_name nonSerial (doings.met surroundings) owners.registry ctn devName
      match devName with
      | none => (made.1, owners)
      | some devName =>
          if ctn = CT_INVALID_CTN then (made.1, owners)
          else (made.1, owners.opened nonSerial surroundings doings ctn 0 devName made.2)
  | .data ctn dad cmd_len response_len special call _ =>
      let made := Ctapi.CT_data owners.registry ctn dad cmd_len response_len
        (commandedResult owners.held owners.registry ctn dad special call)
      (⟨some made.1, []⟩, { owners with
        registry := made.2
        held := commandedHeld owners.held owners.registry ctn dad cmd_len response_len special call })
  | .close ctn _ =>
      let made := Ctapi.CT_close owners.registry ctn
      (made.1, { owners with registry := made.2 })
  | .ioctl ctn call =>
      match Ctapi.findContextByCtn owners.registry ctn with
      | none => (⟨some IFD_COMMUNICATION_ERROR, []⟩, owners)
      | some ctx =>
          if ctx.driver = some .reader then
            let made := calling STATUS_DEVICE_NOT_CONNECTED ifdStays call (owners.held ctn)
            (⟨some made.1, []⟩, { owners with held := Function.update owners.held ctn made.2 })
          else (⟨some IFD_COMMUNICATION_ERROR, []⟩, owners)

end Owners

/-- The heap has what the contexts own, and what nobody refers to any more. -/
def Represents (state : Session × Heap Object) (owners : Owners) : Prop :=
  ∃ holdings lost, owners.registry = state.1.registry ∧ Registered state.1.registry ∧
    Knows state.1 holdings owners.held ∧ state.2.Holds (owned holdings ++ lost) ∧ lost.length = owners.lost

section Steps

variable {nonSerial : NonSerial} {surroundings : Surroundings} {registry : Registry}

theorem CT_close_registered (registered : Registered registry) (ctn : UInt16) :
    Registered (Ctapi.CT_close registry ctn).2 := by
  simp only [Ctapi.CT_close, Ctapi.locking]
  split
  · exact registered
  · exact registered_locked (nt_close_registered (registered_locked registered true) ctn).1 false

theorem _init_common2_registered (registered : Registered registry) (ctn pn : UInt16) (dname : Text) :
    Registered (Ctapi._init_common2 nonSerial surroundings registry ctn pn dname).2 := by
  have added := @_init_common1_registered nonSerial surroundings ctn pn dname registry registered
  have told := (CT_data_registered added ctn CT_API_AD_CT 5 300 surroundings.readerInformation).1
  simp only [Ctapi._init_common2]
  split
  · split
    · exact CT_close_registered told ctn
    · exact told
  · exact added

theorem opening_registered (registered : Registered registry) (ctn pn : UInt16) (dname : Text) :
    Registered (Ctapi.locking registry fun registry =>
      Ctapi._init_common2 nonSerial surroundings registry ctn pn dname).2 := by
  have made := @_init_common2_registered nonSerial surroundings _ (registered_locked registered true) ctn pn dname
  simp only [Ctapi.locking]
  split
  · exact registered
  · split
    · exact made
    · exact registered_locked made false

/-- What a step leaves is what is known behind it. -/
def Follows (nonSerial : NonSerial) (owners : Owners) (request : Request) (result : Ctapi.Answer × Session)
    (left : List (Nat × Object)) : Prop :=
  (owners.step nonSerial request).1 = result.1 ∧
  (owners.step nonSerial request).2.registry = result.2.registry ∧ Registered result.2.registry ∧
  ∃ lost, (owners.step nonSerial request).2.lost = owners.lost + lost ∧
    Leaves result.2 (owners.step nonSerial request).2.held lost left

theorem opened_follows {session : Session} {holdings : List Holding} {owners : Owners} {doings : Doings}
    {ctn pn : UInt16} {dname : Text} {request : Request} (same : owners.registry = session.registry)
    (registered : Registered session.registry) (knows : Knows session holdings owners.held)
    (steps : owners.step nonSerial request =
      ((Ctapi.locking owners.registry fun registry =>
          Ctapi._init_common2 nonSerial (doings.met surroundings) registry ctn pn dname).1,
        owners.opened nonSerial surroundings doings ctn pn dname (Ctapi.locking owners.registry fun registry =>
          Ctapi._init_common2 nonSerial (doings.met surroundings) registry ctn pn dname).2)) :
    Triple (owned holdings)
      (locking session fun session => _init_common2 nonSerial surroundings doings session ctn pn dname)
      (Follows nonSerial owners request) := by
  have kept := @opening_registered nonSerial (doings.met surroundings) _ registered ctn pn dname
  apply Triple.weaken (locked_opening_runs knows registered)
  rintro ⟨answer, next⟩ left ⟨made, leaves⟩
  rw [same] at steps
  simp only [Follows, steps, ← made]
  rw [← made] at kept
  have shut : owners.registry.locked = session.locked := by rw [same]; rfl
  cases locked : session.locked with
  | true =>
      simp only [Owners.opened, shut, locked, if_true] at leaves ⊢
      exact ⟨trivial, trivial, kept, 0, rfl, leaves⟩
  | false =>
      have free : session.registry.locked = false := locked
      simp only [Owners.opened, same, free, locked, Bool.false_eq_true, if_false] at leaves ⊢
      exact ⟨trivial, trivial, kept, _, rfl, leaves⟩

theorem ownerStep_follows {session : Session} {holdings : List Holding} {owners : Owners}
    (same : owners.registry = session.registry) (registered : Registered session.registry)
    (knows : Knows session holdings owners.held) (request : Request) :
    Triple (owned holdings) (ownerStep nonSerial session request) (Follows nonSerial owners request) := by
  have stays : ∀ answer : Ctapi.Answer, owners.step nonSerial request = (answer, owners) →
      Triple (owned holdings) (pure (answer, session)) (Follows nonSerial owners request) := by
    intro answer steps
    exact Triple.pure ⟨by rw [steps], by rw [steps, same], registered, 0, by rw [steps]; rfl,
      by rw [steps]; exact leaves_owned knows⟩
  cases request with
  | init surroundings doings ctn pn =>
      simp only [ownerStep, CT_init]
      split
      · rename_i invalid
        exact stays _ (by simp [Owners.step, Ctapi.CT_init, invalid])
      · rename_i valid
        exact opened_follows same registered knows (by simp only [Owners.step, Ctapi.CT_init, if_neg valid])
  | initName surroundings doings ctn devName =>
      cases devName with
      | none => exact stays _ rfl
      | some devName =>
          simp only [ownerStep, rsct_init_name]
          split
          · rename_i invalid
            exact stays _ (by simp [Owners.step, Ctapi.rsct_init_name, invalid])
          · rename_i valid
            exact opened_follows same registered knows
              (by simp only [Owners.step, Ctapi.rsct_init_name, if_neg valid])
  | data ctn dad cmd_len response_len special call deleted =>
      have runs := CT_data_runs knows registered ctn dad cmd_len response_len special call deleted
      have kept := (CT_data_registered registered ctn dad cmd_len response_len
        (commandedResult owners.held session.registry ctn dad special call)).1
      apply Triple.bind runs
      rintro ⟨res, next⟩ left ⟨made, leaves⟩
      rw [← made] at kept
      refine Triple.pure ⟨?_, ?_, kept, 0, rfl, ?_⟩
      · simp only [Owners.step, same, ← made]
      · simp only [Owners.step, same, ← made]
      · simpa only [Owners.step, same] using leaves
  | close ctn accesses =>
      have kept := CT_close_registered registered ctn
      apply Triple.weaken (CT_close_runs knows registered ctn accesses)
      rintro ⟨answer, next⟩ left ⟨made, leaves⟩
      rw [← made] at kept
      refine ⟨?_, ?_, kept, 0, rfl, ?_⟩
      · simp only [Owners.step, same, ← made]
      · simp only [Owners.step, same, ← made]
      · simpa only [Owners.step, same] using leaves
  | ioctl ctn call =>
      apply Triple.bind (rsct_ifd_ioctl_runs knows registered ctn call)
      intro result left made
      apply Triple.pure
      simp only [Follows, Owners.step, same]
      cases find : Ctapi.findContextByCtn session.registry ctn with
      | none =>
          simp only [find] at made ⊢
          exact ⟨by rw [made.1], same, registered, 0, rfl, made.2⟩
      | some ctx =>
          simp only [find] at made ⊢
          by_cases driver : ctx.driver = some .reader
          · simp only [if_pos driver] at made ⊢
            exact ⟨by rw [made.1], trivial, registered, 0, rfl, made.2⟩
          · simp only [if_neg driver] at made ⊢
            exact ⟨by rw [made.1], same, registered, 0, rfl, made.2⟩

theorem ownerMachine_represents {state : Session × Heap Object} {owners : Owners} (request : Request)
    (holds : Represents state owners) :
    (ownerMachine nonSerial state request).1 = .ok (owners.step nonSerial request).1 ∧
      Represents (ownerMachine nonSerial state request).2 (owners.step nonSerial request).2 := by
  obtain ⟨session, heap⟩ := state
  obtain ⟨holdings, lost, same, registered, knows, there, counted⟩ := holds
  obtain ⟨answer, next, later, left, ran, kept, answers, forgotten, after, more, total, others, dropped, rfl, number,
    known⟩ := heapMachine_step (@ownerStep_follows nonSerial _ _ _ same registered knows request) there
  rw [ownerMachine, ran]
  refine ⟨by rw [answers], others, dropped ++ lost, forgotten, after, known, by simpa using kept, ?_⟩
  simp [total, counted, number, Nat.add_comm]

end Steps

def ownerObserver (nonSerial : NonSerial) : Observer Owners Request (Except Fault Ctapi.Answer) where
  right owners request answer := answer = .ok (owners.step nonSerial request).1
  learn owners request _ := (owners.step nonSerial request).2

theorem owners_agree (nonSerial : NonSerial) :
    Agrees (ownerMachine nonSerial) (ownerObserver nonSerial) Represents fun _ _ => True where
  answers _ _ request holds _ := (ownerMachine_represents request holds).1
  follows _ _ request holds _ := (ownerMachine_represents request holds).2

/-- The library that has just been loaded, and what is known of it. -/
def loaded : (Session × Heap Object) × Owners :=
  ((.loaded, .empty), ⟨.loaded, fun _ => none, 0⟩)

theorem loaded_represents : Represents loaded.1 loaded.2 :=
  ⟨[], [], rfl, ⟨by simp [loaded, Session.registry, Session.loaded], by simp [loaded, Session.registry, Session.loaded],
    rfl⟩, ⟨rfl, by simp, by simp, by simp⟩, Heap.empty_holds, rfl⟩

/-- In every run of the library no call goes through NULL or to a deleted reader, whatever the readers do; each
answers what the registry answers that knows nothing of pointers, and the objects there are at last are those
of the open contexts, and one communicator for each opening that came to one and got no reader of it. -/
theorem owners_right (nonSerial : NonSerial) (requests : List Request) :
    (∀ entry ∈ history (observed (ownerMachine nonSerial) (ownerObserver nonSerial)) loaded requests,
      entry.answer = .ok (entry.before.2.step nonSerial entry.input).1) ∧
    Represents (final (observed (ownerMachine nonSerial) (ownerObserver nonSerial)) loaded requests).1
      (final (observed (ownerMachine nonSerial) (ownerObserver nonSerial)) loaded requests).2 :=
  ⟨Agrees.history (owners_agree nonSerial) loaded_represents (by simp [Keeps]),
    Agrees.final (owners_agree nonSerial) loaded_represents (by simp [Keeps])⟩

/-- A serial port that cannot be opened. -/
def closedPort : Doings := ⟨⟨true, false, false, ⟨[], 0⟩⟩, ⟨[], 0⟩, []⟩

theorem owners_right_closed :
    ((observed (ownerMachine true) (ownerObserver true)).entry loaded (.init silentReader closedPort 1 0xa000)).answer =
      .ok ⟨some (-127), [.lock, .unlock]⟩ :=
  ((owners_right true [.init silentReader closedPort 1 0xa000]).1 _ (.head _)).trans (congrArg Except.ok (by decide))

end Cyberjack.Ctapi.Owner
