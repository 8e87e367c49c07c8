import Cyberjack.Foundation.Heap
import Cyberjack.Foundation.Refinement

namespace Cyberjack.Eca.ReaderObject

open Cyberjack.Foundation

/-! # The reader object

`CReader` of `Reader.cpp` with the objects it holds: the reader of a class below
`CBaseReader`, and the communicator of that one.  What the device answers comes
with the call.
-/

abbrev CJ_RESULT := Int

def CJ_SUCCESS : CJ_RESULT := 0

def CJ_ERR_OPENING_DEVICE : CJ_RESULT := -1

def CJ_ERR_DEVICE_LOST : CJ_RESULT := -3

def CJ_ERR_SEQ : CJ_RESULT := -5

def CJ_ERR_INTERNAL_BUFFER_OVERFLOW : CJ_RESULT := -24

def CJ_ERR_CONNECT_TIMEOUT : CJ_RESULT := -29

abbrev RSCT_IFD_RESULT := Int

def STATUS_DEVICE_NOT_CONNECTED : RSCT_IFD_RESULT := 0xC000009D

inductive Object where
  | CReader (m_Reader : Pointer)
  | CBaseReader (m_pCommunicator : Pointer)
  | CBaseCommunication
deriving Repr, DecidableEq

abbrev Objects := HeapM Object

/-- The member of a `CReader`. -/
def m_Reader (this : Pointer) : Objects Pointer := do
  match ← HeapM.load this with
  | .CReader reader => pure reader
  | _ => throw .dangling

/-- The member of a `CBaseReader`. -/
def m_pCommunicator (this : Pointer) : Objects Pointer := do
  match ← HeapM.load this with
  | .CBaseReader communicator => pure communicator
  | _ => throw .dangling

/-- A virtual method of the communicator is called. -/
def communicate (communicator : Pointer) : Objects Unit := do
  match ← HeapM.load communicator with
  | .CBaseCommunication => pure ()
  | _ => throw .dangling

/-! ## The methods of the readers -/

namespace CBaseReader

def ConnectionError (this : Pointer) : Objects Unit := do
  let communicator ← m_pCommunicator this
  if communicator = none then pure ()
  else
    HeapM.delete communicator
    HeapM.store this (.CBaseReader none)

/-- `fits` tells that the message is no longer than the buffer of the reader. -/
def Write (this : Pointer) (fits : Bool) (res : CJ_RESULT) : Objects CJ_RESULT := do
  let communicator ← m_pCommunicator this
  if communicator = none then pure CJ_ERR_DEVICE_LOST
  else if fits = false then pure CJ_ERR_INTERNAL_BUFFER_OVERFLOW
  else
    communicate communicator
    if res = CJ_SUCCESS then pure res
    else
      ConnectionError this
      pure res

def IsConnected (this : Pointer) (connected : Bool) : Objects Bool := do
  let communicator ← m_pCommunicator this
  if communicator = none then pure false
  else
    communicate communicator
    pure connected

def Unconnect (this : Pointer) : Objects Unit := do
  let merk ← m_pCommunicator this
  HeapM.store this (.CBaseReader none)
  HeapM.delete merk

/-- The destructor, and the object is gone. -/
def delete (this : Pointer) : Objects Unit := do
  Unconnect this
  HeapM.delete this

end CBaseReader

/-- How the device answers one message: as many replies to other messages as `foreign` tells come first. -/
structure Exchange where
  fits : Bool
  written : CJ_RESULT
  foreign : Nat
  read : CJ_RESULT
deriving Repr, DecidableEq

namespace CCCIDReader

/-- The replies to other messages. -/
def skip (this : Pointer) : Nat → Objects Unit
  | 0 => pure ()
  | foreign + 1 => do
      communicate (← m_pCommunicator this)
      skip this foreign

def Transfer (this : Pointer) (exchange : Exchange) : Objects CJ_RESULT := do
  let communicator ← m_pCommunicator this
  if communicator = none then pure CJ_ERR_DEVICE_LOST
  else
    let Res ← CBaseReader.Write this exchange.fits exchange.written
    if Res ≠ CJ_SUCCESS then pure Res
    else
      skip this exchange.foreign
      communicate (← m_pCommunicator this)
      if exchange.read = CJ_SUCCESS then pure CJ_SUCCESS
      else if exchange.foreign = 0 then pure exchange.read
      else pure CJ_ERR_SEQ

/-- `CCID_Escape` and `CEC30Reader::Escape`: for a reply that is `refused` the communicator is deleted. -/
def Escape (this : Pointer) (exchange : Exchange) (refused : Bool) : Objects Unit := do
  let Res ← Transfer this exchange
  if Res = CJ_SUCCESS ∧ refused = true then
    HeapM.delete (← m_pCommunicator this)
    HeapM.store this (.CBaseReader none)
  else pure ()

/-- `CEC30Reader::BuildReaderInfo`, behind the message it sends. -/
def BuildReaderInfo (this : Pointer) : Objects Unit := do
  let communicator ← m_pCommunicator this
  if communicator = none then pure () else communicate communicator

end CCCIDReader

/-- What a method of a reader does with its communicator. -/
inductive Access where
  | Transfer (exchange : Exchange)
  | Escape (exchange : Exchange) (refused : Bool)
  | BuildReaderInfo
  | IsConnected (connected : Bool)
deriving Repr, DecidableEq

def Access.perform (this : Pointer) : Access → Objects Unit
  | .Transfer exchange => do
      let _ ← CCCIDReader.Transfer this exchange
      pure ()
  | .Escape exchange refused => CCCIDReader.Escape this exchange refused
  | .BuildReaderInfo => CCCIDReader.BuildReaderInfo this
  | .IsConnected connected => do
      let _ ← CBaseReader.IsConnected this connected
      pure ()

/-- A method of the reader is called on an object that is there. -/
def method (this : Pointer) : List Access → Objects Unit
  | [] => do
      let _ ← m_pCommunicator this
      pure ()
  | access :: rest => do
      access.perform this
      method this rest

/-! ## The methods of `CReader` -/

/-- The outputs that are set to 0 where there is no reader. -/
inductive Output where
  | ATR_Length
  | Protocol
  | State
  | Attribute
  | OutputLength
  | response_len
  | Count
  | EstimatedUpdateTime
  | ID
  | ResponseLen
  | Result
deriving Repr, DecidableEq

/-- What a method returns, and the outputs it has cleared by itself. -/
structure Answer where
  result : Int
  cleared : List Output
deriving Repr, DecidableEq

/-- What a reader does in one call, and what it returns. -/
structure Call where
  accesses : List Access
  result : Int
deriving Repr, DecidableEq

inductive IfdMethod where
  | IfdSetProtocol
  | IfdGetState
  | IfdSetAttribute
  | IfdGetAttribute
  | IfdSwallow
  | IfdEject
  | IfdVendor
  | IfdTransmit
  | IfdIoControl
deriving Repr, DecidableEq

def IfdMethod.cleared : IfdMethod → List Output
  | .IfdSetProtocol => [.Protocol]
  | .IfdGetState => [.State]
  | .IfdSetAttribute => []
  | .IfdGetAttribute => [.Attribute]
  | .IfdSwallow => []
  | .IfdEject => []
  | .IfdVendor => [.OutputLength]
  | .IfdTransmit => [.response_len]
  | .IfdIoControl => [.OutputLength]

inductive CtMethod where
  | CtLoadModule
  | CtDeleteModule
  | CtSelfTest
  | CtShowAuth
  | CtActivateModule
  | CtDeactivateModule
  | CtSetSilentMode
  | CtGetSilentMode
  | CtSetModulestoreInfo
  | CtGetModulestoreInfo
  | CtDeleteALLModules
  | CtListModules
  | CtGetModuleInfoFromFile
  | CtFreeModuleInfoList
  | CtKeyUpdate
  | CtIsKeyUpdateRecommended
  | CtIsModuleUpdateRecommended
  | CtGetActiveModuleID
  | CtGetActivationID
  | CtApplicationData
  | CtApplicationDataEx
  | CtSetContrast
  | InstallAndStartIFDHandler
  | StopIFDHandler
  | IntroduceReaderGroups
  | CtGetReaderInfo
deriving Repr, DecidableEq

def CtMethod.cleared : CtMethod → List Output
  | .CtListModules => [.Count]
  | .CtGetModuleInfoFromFile => [.EstimatedUpdateTime]
  | .CtIsKeyUpdateRecommended => [.EstimatedUpdateTime]
  | .CtIsModuleUpdateRecommended => [.EstimatedUpdateTime]
  | .CtGetActiveModuleID => [.ID]
  | .CtGetActivationID => [.ID]
  | .CtApplicationData => [.ResponseLen, .Result]
  | .CtApplicationDataEx => [.ResponseLen, .Result]
  | .CtSetContrast => [.Result]
  | _ => []

/-- The methods that do not look whether there is a reader. -/
inductive PlainMethod where
  | SetChangeInterruptCallback
  | SetKeyInterruptCallback
  | CtSetAPDUNorm
deriving Repr, DecidableEq

/-- What `Connect` meets: the communicator is made, opened, and builds a reader whose `PostCreate` returns. -/
structure Device where
  created : Bool
  opened : Bool
  built : Bool
  PostCreate : Call
deriving Repr, DecidableEq

namespace CReader

/-- `m_Reader->Unconnect(); delete m_Reader; m_Reader=NULL;` -/
def drop (this : Pointer) : Objects Unit := do
  let reader ← m_Reader this
  CBaseReader.Unconnect reader
  CBaseReader.delete reader
  HeapM.store this (.CReader none)

def new : Objects Pointer := HeapM.new (.CReader none)

def CheckcJResult (this : Pointer) (Result : CJ_RESULT) : Objects Unit :=
  if Result = CJ_ERR_DEVICE_LOST ∨ Result = CJ_ERR_CONNECT_TIMEOUT then drop this else pure ()

def Connect (this : Pointer) (device : Device) : Objects CJ_RESULT := do
  if device.created = false then pure CJ_ERR_OPENING_DEVICE
  else
    let com ← HeapM.new .CBaseCommunication
    communicate com
    if device.opened = false then pure CJ_ERR_OPENING_DEVICE
    else
      communicate com
      if device.built = false then
        HeapM.store this (.CReader none)
        pure CJ_ERR_DEVICE_LOST
      else
        let reader ← HeapM.new (.CBaseReader com)
        HeapM.store this (.CReader reader)
        method reader device.PostCreate.accesses
        CheckcJResult this device.PostCreate.result
        pure device.PostCreate.result

/-- `known` tells that the name is that of an e-com(a). -/
def CreateVirtualReaderObject (this : Pointer) (known : Bool) : Objects CJ_RESULT := do
  if known = true then
    let reader ← HeapM.new (.CBaseReader none)
    HeapM.store this (.CReader reader)
    pure CJ_SUCCESS
  else pure CJ_ERR_OPENING_DEVICE

/-- `accesses` is what `IfdPower` does. -/
def Disonnect (this : Pointer) (accesses : List Access) : Objects CJ_RESULT := do
  let reader ← m_Reader this
  if reader = none then pure ()
  else
    method reader accesses
    CBaseReader.Unconnect reader
    CBaseReader.delete reader
  HeapM.store this (.CReader none)
  pure CJ_SUCCESS

/-- The destructor, and the object is gone. -/
def delete (this : Pointer) (accesses : List Access) : Objects Unit := do
  let _ ← Disonnect this accesses
  HeapM.delete this

def CtData (this : Pointer) (call : Call) : Objects Answer := do
  let reader ← m_Reader this
  if reader = none then pure ⟨-128, []⟩
  else
    method reader call.accesses
    if call.result = 0 ∨ call.result = -1 ∨ call.result = -11 then pure ⟨call.result, []⟩
    else
      drop this
      pure ⟨call.result, []⟩

/-- A lost reader is kept here. -/
def IfdPower (this : Pointer) (call : Call) : Objects Answer := do
  let reader ← m_Reader this
  if reader = none then pure ⟨STATUS_DEVICE_NOT_CONNECTED, [.ATR_Length]⟩
  else
    method reader call.accesses
    pure ⟨call.result, []⟩

def ifd (this : Pointer) (called : IfdMethod) (call : Call) : Objects Answer := do
  let reader ← m_Reader this
  if reader = none then pure ⟨STATUS_DEVICE_NOT_CONNECTED, called.cleared⟩
  else
    method reader call.accesses
    if call.result = STATUS_DEVICE_NOT_CONNECTED then
      drop this
      pure ⟨call.result, []⟩
    else pure ⟨call.result, []⟩

def ct (this : Pointer) (called : CtMethod) (call : Call) : Objects Answer := do
  let reader ← m_Reader this
  if reader = none then pure ⟨CJ_ERR_DEVICE_LOST, called.cleared⟩
  else
    method reader call.accesses
    CheckcJResult this call.result
    pure ⟨call.result, []⟩

def plain (this : Pointer) (_called : PlainMethod) : Objects Answer := do
  method (← m_Reader this) []
  pure ⟨CJ_SUCCESS, []⟩

end CReader

/-! ## What the objects become -/

/-- The communicator is still there behind the access. -/
def Access.keeps : Access → Bool
  | .Transfer exchange => !exchange.fits || exchange.written = CJ_SUCCESS
  | .Escape exchange refused =>
      !exchange.fits || (exchange.written = CJ_SUCCESS && !(exchange.read = CJ_SUCCESS && refused))
  | .BuildReaderInfo => true
  | .IsConnected _ => true

/-- A reader and its communicator, where it has one. -/
structure Attached where
  base : Nat
  com : Option Nat
deriving Repr, DecidableEq

def Attached.cells (attached : Attached) : List (Nat × Object) :=
  (attached.base, .CBaseReader attached.com) :: attached.com.toList.map fun com => (com, .CBaseCommunication)

/-- The reader behind what a method does. -/
def Attached.behind (attached : Attached) (accesses : List Access) : Attached :=
  if accesses.all Access.keeps then attached else { attached with com := none }

/-- A `CReader` with all that belongs to it. -/
def cells (this : Nat) (held : Option Attached) : List (Nat × Object) :=
  (this, .CReader (held.map Attached.base)) :: (held.map Attached.cells).getD []

section Methods

variable {base com : Nat} {attached : Attached} {others : List (Nat × Object)}

theorem m_pCommunicator_returns (communicator : Pointer) :
    Returns ((base, .CBaseReader communicator) :: others) (m_pCommunicator (some base)) communicator
      ((base, .CBaseReader communicator) :: others) :=
  Returns.bind (Returns.load (.head _)) Returns.pure

theorem communicate_returns (member : (com, .CBaseCommunication) ∈ others) :
    Returns others (communicate (some com)) () others :=
  Returns.bind (Returns.load member) Returns.pure

theorem ConnectionError_returns :
    Returns (Attached.cells ⟨base, some com⟩) (CBaseReader.ConnectionError (some base)) ()
      (Attached.cells ⟨base, none⟩) := by
  apply Returns.bind (m_pCommunicator_returns _)
  simp only [reduceCtorEq, if_false]
  apply Returns.bind
  · exact Returns.perm Returns.delete (.swap _ _ _) (.refl _)
  · exact Returns.store

theorem Write_returns (fits : Bool) (res : CJ_RESULT) :
    Returns (Attached.cells ⟨base, some com⟩) (CBaseReader.Write (some base) fits res)
      (if fits then res else CJ_ERR_INTERNAL_BUFFER_OVERFLOW)
      (Attached.cells ⟨base, if !fits || res = CJ_SUCCESS then some com else none⟩) := by
  apply Returns.bind (m_pCommunicator_returns _)
  cases fits with
  | false => exact Returns.pure
  | true =>
      simp only [reduceCtorEq, if_false, Bool.true_eq_false, if_true, Bool.not_true, Bool.false_or,
        decide_eq_true_eq]
      apply Returns.bind (communicate_returns (by simp))
      split
      · exact Returns.pure
      · exact Returns.bind ConnectionError_returns Returns.pure

theorem skip_returns (foreign : Nat) :
    Returns (Attached.cells ⟨base, some com⟩) (CCCIDReader.skip (some base) foreign) ()
      (Attached.cells ⟨base, some com⟩) := by
  induction foreign with
  | zero => exact Returns.pure
  | succ foreign ih =>
      apply Returns.bind (m_pCommunicator_returns _)
      exact Returns.bind (communicate_returns (by simp)) ih

/-- What `Transfer` returns while there is a communicator. -/
def Exchange.result (exchange : Exchange) : CJ_RESULT :=
  if exchange.fits = false then CJ_ERR_INTERNAL_BUFFER_OVERFLOW
  else if exchange.written ≠ CJ_SUCCESS then exchange.written
  else if exchange.read = CJ_SUCCESS then CJ_SUCCESS
  else if exchange.foreign = 0 then exchange.read
  else CJ_ERR_SEQ

theorem Transfer_returns (exchange : Exchange) :
    Returns (Attached.cells ⟨base, some com⟩) (CCCIDReader.Transfer (some base) exchange) exchange.result
      (Attached.cells ⟨base, if (Access.Transfer exchange).keeps then some com else none⟩) := by
  have wrote := @Write_returns base com exchange.fits exchange.written
  apply Returns.bind (m_pCommunicator_returns _)
  simp only [reduceCtorEq, if_false]
  apply Returns.bind wrote
  cases fits : exchange.fits with
  | false => simpa [Exchange.result, Access.keeps, fits, CJ_SUCCESS, CJ_ERR_INTERNAL_BUFFER_OVERFLOW] using Returns.pure
  | true =>
      by_cases written : exchange.written = CJ_SUCCESS
      · simp only [written, Access.keeps, fits, Exchange.result, if_true, ne_eq, not_true_eq_false, if_false,
          Bool.not_true, Bool.false_or, decide_true, Bool.true_eq_false]
        apply Returns.bind (skip_returns _)
        apply Returns.bind (m_pCommunicator_returns _)
        apply Returns.bind (communicate_returns (by simp))
        split
        · exact Returns.pure
        · split
          · exact Returns.pure
          · exact Returns.pure
      · simpa [Exchange.result, Access.keeps, fits, written] using Returns.pure

/-- Nothing is done without a communicator. -/
theorem perform_without (access : Access) :
    Returns (Attached.cells ⟨base, none⟩) (access.perform (some base)) () (Attached.cells ⟨base, none⟩) := by
  have looked := @m_pCommunicator_returns base ([] : List (Nat × Object)) none
  cases access with
  | Transfer exchange => exact Returns.bind (Returns.bind looked Returns.pure) Returns.pure
  | Escape exchange refused => exact Returns.bind (Returns.bind looked Returns.pure) Returns.pure
  | BuildReaderInfo => exact Returns.bind looked Returns.pure
  | IsConnected connected => exact Returns.bind (Returns.bind looked Returns.pure) Returns.pure

theorem Escape_returns (exchange : Exchange) (refused : Bool) :
    Returns (Attached.cells ⟨base, some com⟩) (CCCIDReader.Escape (some base) exchange refused) ()
      (Attached.cells ⟨base, if (Access.Escape exchange refused).keeps then some com else none⟩) := by
  apply Returns.bind (Transfer_returns exchange)
  cases fits : exchange.fits with
  | false => simpa [Exchange.result, Access.keeps, fits, CJ_SUCCESS, CJ_ERR_INTERNAL_BUFFER_OVERFLOW] using Returns.pure
  | true =>
      by_cases written : exchange.written = CJ_SUCCESS
      · by_cases read : exchange.read = CJ_SUCCESS
        · cases refused with
          | false => simpa [Exchange.result, Access.keeps, fits, written, read] using Returns.pure
          | true =>
              simp only [Exchange.result, Access.keeps, fits, written, read, if_true, if_false, ne_eq,
                not_true_eq_false, Bool.not_true, Bool.false_or, decide_true, Bool.true_and, Bool.true_eq_false,
                and_self, Bool.false_eq_true]
              apply Returns.bind (m_pCommunicator_returns _)
              apply Returns.bind
              · exact Returns.perm Returns.delete (.swap _ _ _) (.refl _)
              · exact Returns.store
        · have failed : ¬ (exchange.result = CJ_SUCCESS ∧ refused = true) := by
            simp only [Exchange.result, fits, written, read, Bool.true_eq_false, if_false, ne_eq,
              not_true_eq_false]
            split
            · simp [read]
            · simp [CJ_ERR_SEQ, CJ_SUCCESS]
          rw [if_neg failed]
          simpa [Access.keeps, fits, written, read] using Returns.pure
      · have failed : ¬ (exchange.result = CJ_SUCCESS ∧ refused = true) := by
          simp [Exchange.result, fits, written]
        rw [if_neg failed]
        simpa [Access.keeps, fits, written] using Returns.pure

theorem perform_with (access : Access) :
    Returns (Attached.cells ⟨base, some com⟩) (access.perform (some base)) ()
      (Attached.cells ⟨base, if access.keeps then some com else none⟩) := by
  cases access with
  | Transfer exchange => exact Returns.bind (Transfer_returns exchange) Returns.pure
  | Escape exchange refused => exact Escape_returns exchange refused
  | BuildReaderInfo => exact Returns.bind (m_pCommunicator_returns _) (communicate_returns (by simp))
  | IsConnected connected =>
      exact Returns.bind
        (Returns.bind (m_pCommunicator_returns _) (Returns.bind (communicate_returns (by simp)) Returns.pure))
        Returns.pure

theorem method_returns (accesses : List Access) :
    Returns attached.cells (method (some attached.base) accesses) () (attached.behind accesses).cells := by
  induction accesses generalizing attached with
  | nil => exact Returns.bind (m_pCommunicator_returns _) Returns.pure
  | cons access rest ih =>
      obtain ⟨base, com⟩ := attached
      cases com with
      | none =>
          have after := @ih ⟨base, none⟩
          apply Returns.bind (perform_without access)
          simpa [Attached.behind] using after
      | some com =>
          apply Returns.bind (perform_with access)
          cases kept : access.keeps with
          | true =>
              have after := @ih ⟨base, some com⟩
              simpa [Attached.behind, kept] using after
          | false =>
              have after := @ih ⟨base, none⟩
              simpa [Attached.behind, kept] using after

theorem Unconnect_returns :
    Returns attached.cells (CBaseReader.Unconnect (some attached.base)) ()
      (Attached.cells ⟨attached.base, none⟩) := by
  obtain ⟨base, com⟩ := attached
  apply Returns.bind (m_pCommunicator_returns _)
  apply Returns.bind Returns.store
  cases com with
  | none => exact Returns.delete_null
  | some com => exact Returns.perm Returns.delete (.swap _ _ _) (.refl _)

theorem delete_returns : Returns attached.cells (CBaseReader.delete (some attached.base)) () [] :=
  Returns.bind Unconnect_returns Returns.delete

end Methods

/-! ## What the reader object becomes -/

section Object

variable {this : Nat} {held : Option Attached} {attached : Attached}

theorem m_Reader_returns (held : Option Attached) :
    Returns (cells this held) (m_Reader (some this)) (held.map Attached.base) (cells this held) :=
  Returns.bind (Returns.load (.head _)) Returns.pure

/-- A program for the reader leaves the `CReader` alone. -/
theorem below {A : Type} {program : Objects A} {result : A} {after : List (Nat × Object)}
    (runs : Returns attached.cells program result after) :
    Returns (cells this (some attached)) program result ((this, .CReader (some attached.base)) :: after) := by
  have framed := @Returns.frame _ _ _ _ [(this, .CReader (some attached.base))] _ _ runs
  apply Returns.perm framed
  · exact @List.perm_append_comm _ [(this, .CReader (some attached.base))] attached.cells
  · exact List.perm_append_comm

theorem method_below (accesses : List Access) :
    Returns (cells this (some attached)) (method (some attached.base) accesses) ()
      (cells this (some (attached.behind accesses))) := by
  have same : (attached.behind accesses).base = attached.base := by
    simp only [Attached.behind]
    split <;> rfl
  have runs := @below this attached _ _ _ _ (method_returns accesses)
  simpa only [cells, Option.map_some, Option.getD_some, same] using runs

theorem drop_returns : Returns (cells this (some attached)) (CReader.drop (some this)) () (cells this none) := by
  apply Returns.bind (m_Reader_returns _)
  apply Returns.bind (below Unconnect_returns)
  have deleted := @below this ⟨attached.base, none⟩ _ _ _ _ delete_returns
  exact Returns.bind deleted Returns.store

/-- What a call returns and leaves, where a reader stays for some results only. -/
def settled (missing : Answer) (stays : Int → Bool) (call : Call) : Option Attached → Answer × Option Attached
  | none => (missing, none)
  | some attached =>
      (⟨call.result, []⟩, if stays call.result then some (attached.behind call.accesses) else none)

/-- The results of `CtData` with which the reader stays. -/
def dataStays (res : Int) : Bool := res = 0 || res = -1 || res = -11

/-- The results with which `CheckcJResult` leaves the reader alone. -/
def checkStays (res : Int) : Bool := !(res = CJ_ERR_DEVICE_LOST || res = CJ_ERR_CONNECT_TIMEOUT)

def ifdStays (res : Int) : Bool := !(res = STATUS_DEVICE_NOT_CONNECTED)

theorem CtData_returns (call : Call) :
    Returns (cells this held) (CReader.CtData (some this) call) (settled ⟨-128, []⟩ dataStays call held).1
      (cells this (settled ⟨-128, []⟩ dataStays call held).2) := by
  apply Returns.bind (m_Reader_returns held)
  cases held with
  | none => exact Returns.pure
  | some attached =>
      apply Returns.bind (method_below call.accesses)
      simp only [settled, dataStays, Bool.or_eq_true, decide_eq_true_eq, or_assoc]
      split
      · exact Returns.pure
      · exact Returns.bind drop_returns Returns.pure

theorem IfdPower_returns (call : Call) :
    Returns (cells this held) (CReader.IfdPower (some this) call)
      (settled ⟨STATUS_DEVICE_NOT_CONNECTED, [.ATR_Length]⟩ (fun _ => true) call held).1
      (cells this (settled ⟨STATUS_DEVICE_NOT_CONNECTED, [.ATR_Length]⟩ (fun _ => true) call held).2) := by
  apply Returns.bind (m_Reader_returns held)
  cases held with
  | none => exact Returns.pure
  | some attached => exact Returns.bind (method_below call.accesses) Returns.pure

theorem ifd_returns (called : IfdMethod) (call : Call) :
    Returns (cells this held) (CReader.ifd (some this) called call)
      (settled ⟨STATUS_DEVICE_NOT_CONNECTED, called.cleared⟩ ifdStays call held).1
      (cells this (settled ⟨STATUS_DEVICE_NOT_CONNECTED, called.cleared⟩ ifdStays call held).2) := by
  apply Returns.bind (m_Reader_returns held)
  cases held with
  | none => exact Returns.pure
  | some attached =>
      apply Returns.bind (method_below call.accesses)
      by_cases lost : call.result = STATUS_DEVICE_NOT_CONNECTED
      · simp only [settled, ifdStays, lost, if_true, decide_true, Bool.not_true, Bool.false_eq_true, if_false]
        exact Returns.bind drop_returns Returns.pure
      · simp only [settled, ifdStays, lost, if_true, decide_false, Bool.not_false, if_false]
        exact Returns.pure

theorem CheckcJResult_returns (Result : CJ_RESULT) :
    Returns (cells this (some attached)) (CReader.CheckcJResult (some this) Result) ()
      (cells this (if checkStays Result then some attached else none)) := by
  simp only [CReader.CheckcJResult, checkStays, Bool.not_eq_true', Bool.or_eq_false_iff, decide_eq_false_iff_not]
  by_cases lost : Result = CJ_ERR_DEVICE_LOST ∨ Result = CJ_ERR_CONNECT_TIMEOUT
  · rw [if_pos lost, if_neg (by tauto)]
    exact drop_returns
  · rw [if_neg lost, if_pos (by tauto)]
    exact Returns.pure

theorem ct_returns (called : CtMethod) (call : Call) :
    Returns (cells this held) (CReader.ct (some this) called call)
      (settled ⟨CJ_ERR_DEVICE_LOST, called.cleared⟩ checkStays call held).1
      (cells this (settled ⟨CJ_ERR_DEVICE_LOST, called.cleared⟩ checkStays call held).2) := by
  apply Returns.bind (m_Reader_returns held)
  cases held with
  | none => exact Returns.pure
  | some attached =>
      apply Returns.bind (method_below call.accesses)
      exact Returns.bind (CheckcJResult_returns call.result) Returns.pure

theorem plain_returns (called : PlainMethod) :
    Returns (cells this (some attached)) (CReader.plain (some this) called) ⟨CJ_SUCCESS, []⟩
      (cells this (some attached)) := by
  apply Returns.bind (m_Reader_returns _)
  exact Returns.bind (below (Returns.bind (m_pCommunicator_returns _) Returns.pure)) Returns.pure

theorem Disonnect_returns (accesses : List Access) :
    Returns (cells this held) (CReader.Disonnect (some this) accesses) CJ_SUCCESS (cells this none) := by
  apply Returns.bind (m_Reader_returns held)
  cases held with
  | none => exact Returns.bind Returns.store Returns.pure
  | some attached =>
      have same : (attached.behind accesses).base = attached.base := by
        simp only [Attached.behind]
        split <;> rfl
      have unconnected := @below this (attached.behind accesses) _ _ _ _ Unconnect_returns
      rw [same] at unconnected
      have deleted := @below this ⟨attached.base, none⟩ _ _ _ _ delete_returns
      simp only [Option.map_some, reduceCtorEq, if_false]
      apply Returns.bind (method_below accesses)
      apply Returns.bind unconnected
      apply Returns.bind deleted
      exact Returns.bind Returns.store Returns.pure

theorem CReader_delete_returns (accesses : List Access) :
    Returns (cells this held) (CReader.delete (some this) accesses) () [] :=
  Returns.bind (Disonnect_returns accesses) Returns.delete

/-- The number of objects below a `CReader`, by what is known of its reader. -/
def objects : Option Bool → Nat
  | none => 0
  | some false => 1
  | some true => 2

/-- Whether there is a reader, and whether that one has its communicator. -/
def known (held : Option Attached) : Option Bool := held.map fun attached => attached.com.isSome

theorem objects_known : ((held.map Attached.cells).getD []).length = objects (known held) := by
  cases held with
  | none => rfl
  | some attached =>
      obtain ⟨base, com⟩ := attached
      cases com <;> rfl

namespace Device

def result (device : Device) : CJ_RESULT :=
  if !device.created || !device.opened then CJ_ERR_OPENING_DEVICE
  else if !device.built then CJ_ERR_DEVICE_LOST
  else device.PostCreate.result

/-- What is known of the reader behind `Connect`. -/
def connected (device : Device) (before : Option Bool) : Option Bool :=
  if !device.created || !device.opened then before
  else if !device.built then none
  else if checkStays device.PostCreate.result then some (device.PostCreate.accesses.all Access.keeps)
  else none

/-- The number of objects that nobody refers to behind `Connect`. -/
def loses (device : Device) (before : Option Bool) : Nat :=
  if !device.created then 0
  else if !device.opened then 1
  else if !device.built then objects before + 1
  else objects before

theorem connected_of_success {device : Device} (connects : device.result = CJ_SUCCESS) :
    device.connected none = some (device.PostCreate.accesses.all Access.keeps) ∧ device.loses none = 0 := by
  obtain ⟨created, opened, built, call⟩ := device
  cases created with
  | false => contradiction
  | true =>
      cases opened with
      | false => contradiction
      | true =>
          cases built with
          | false => contradiction
          | true =>
              have returned : call.result = CJ_SUCCESS := connects
              refine ⟨?_, rfl⟩
              simp [connected, returned, checkStays, CJ_SUCCESS, CJ_ERR_DEVICE_LOST, CJ_ERR_CONNECT_TIMEOUT]

end Device

theorem Connect_runs (device : Device) :
    Triple (cells this held) (CReader.Connect (some this) device) fun result left => ∃ now lost,
      left = cells this now ++ lost ∧ result = device.result ∧ known now = device.connected (known held) ∧
        lost.length = device.loses (known held) := by
  cases created : device.created with
  | false =>
      simp only [CReader.Connect, created, if_true]
      exact Triple.pure ⟨held, [], by simp, by simp [Device.result, created], by simp [Device.connected, created],
        by simp [Device.loses, created]⟩
  | true =>
      simp only [CReader.Connect, created, Bool.true_eq_false, if_false]
      apply Triple.bind Triple.new
      rintro result left ⟨com, rfl, rfl⟩
      apply Returns.followed (communicate_returns (.head _))
      cases opened : device.opened with
      | false =>
          apply Triple.pure_perm (@List.perm_append_comm _ [(com, Object.CBaseCommunication)] (cells this held))
          refine ⟨held, _, rfl, ?_⟩
          simp [Device.result, Device.connected, Device.loses, created, opened]
      | true =>
          simp only [Bool.true_eq_false, if_false]
          apply Returns.followed (communicate_returns (.head _))
          cases built : device.built with
          | false =>
              simp only [if_true]
              apply Returns.followed (Returns.perm Returns.store (.swap _ _ _) (.refl _))
              refine Triple.pure ⟨none, (com, .CBaseCommunication) :: (held.map Attached.cells).getD [], rfl, ?_⟩
              simp [Device.result, Device.connected, Device.loses, created, opened, built, objects_known, known]
          | true =>
              simp only [Bool.true_eq_false, if_false]
              apply Triple.bind Triple.new
              rintro made left ⟨base, rfl, rfl⟩
              let old := (held.map Attached.cells).getD []
              let fresh : Attached := ⟨base, some com⟩
              have first : List.Perm
                  ((base, Object.CBaseReader (some com)) :: (com, .CBaseCommunication) :: cells this held)
                  ((this, .CReader (held.map Attached.base)) :: (fresh.cells ++ old)) :=
                @List.perm_middle _ (this, Object.CReader (held.map Attached.base)) fresh.cells old
              have stored : Returns
                  ((base, .CBaseReader (some com)) :: (com, .CBaseCommunication) :: cells this held)
                  (HeapM.store (some this) (.CReader (some base))) () (cells this (some fresh) ++ old) :=
                Returns.perm Returns.store first (.refl _)
              apply Returns.followed stored
              apply Returns.followed (Returns.frame (method_below device.PostCreate.accesses))
              apply Returns.followed (Returns.frame (CheckcJResult_returns device.PostCreate.result))
              refine Triple.pure ⟨_, old, rfl, ?_, ?_, ?_⟩
              · simp [Device.result, created, opened, built]
              · simp only [Device.connected, created, opened, built, known, Bool.not_true, Bool.or_self,
                  Bool.false_eq_true, if_false, fresh]
                cases checkStays device.PostCreate.result with
                | false => rfl
                | true =>
                    simp only [if_true, Option.map_some, Attached.behind]
                    split <;> simp_all
              · simp only [Device.loses, created, opened, built, Bool.not_true, Bool.false_eq_true, if_false, old]
                exact objects_known

/-- A reader without communicator comes in, and nobody refers to the one before it any more. -/
theorem CreateVirtualReaderObject_runs (named : Bool) :
    Triple (cells this held) (CReader.CreateVirtualReaderObject (some this) named) fun result left =>
      ∃ now lost, left = cells this now ++ lost ∧
        result = (if named then CJ_SUCCESS else CJ_ERR_OPENING_DEVICE) ∧
        known now = (if named then some false else known held) ∧
        lost.length = if named then objects (known held) else 0 := by
  cases named with
  | false => exact Triple.pure ⟨held, [], by simp, by simp, by simp, by simp⟩
  | true =>
      apply Triple.bind Triple.new
      rintro made left ⟨base, rfl, rfl⟩
      apply Returns.followed (Returns.perm Returns.store (.swap _ _ _) (.refl _))
      exact Triple.pure ⟨some ⟨base, none⟩, (held.map Attached.cells).getD [], rfl, rfl, rfl, objects_known⟩

end Object

/-! ## Runs -/

inductive Request where
  | Connect (device : Device)
  | CreateVirtualReaderObject (named : Bool)
  | Disonnect (accesses : List Access)
  | CtData (call : Call)
  | IfdPower (call : Call)
  | ifd (called : IfdMethod) (call : Call)
  | ct (called : CtMethod) (call : Call)
  | plain (called : PlainMethod)
deriving Repr, DecidableEq

def resulting (program : Objects CJ_RESULT) : Objects Answer := do
  let result ← program
  pure ⟨result, []⟩

def CReader.perform (this : Pointer) : Request → Objects Answer
  | .Connect device => resulting (CReader.Connect this device)
  | .CreateVirtualReaderObject named => resulting (CReader.CreateVirtualReaderObject this named)
  | .Disonnect accesses => resulting (CReader.Disonnect this accesses)
  | .CtData call => CReader.CtData this call
  | .IfdPower call => CReader.IfdPower this call
  | .ifd called call => CReader.ifd this called call
  | .ct called call => CReader.ct this called call
  | .plain called => CReader.plain this called

def readerStep (this : Pointer) (request : Request) : Objects (Answer × Pointer) := do
  let answer ← CReader.perform this request
  pure (answer, this)

/-- A `CReader` that is asked for one thing after the other. -/
def readerMachine : Machine (Pointer × Heap Object) Request (Except Fault Answer) := heapMachine readerStep

/-- What is known of a `CReader`: its reader and communicator, and how many objects nobody refers to. -/
structure Known where
  held : Option Bool
  lost : Nat
deriving Repr, DecidableEq

namespace Known

/-- What a call of the reader answers, and whether there still is a reader. -/
def settled (missing : Answer) (stays : Int → Bool) (call : Call) (known : Known) : Except Fault Answer × Known :=
  match known.held with
  | none => (.ok missing, known)
  | some communicator =>
      (.ok ⟨call.result, []⟩, { known with
        held := if stays call.result then some (communicator && call.accesses.all Access.keeps) else none })

def step (known : Known) : Request → Except Fault Answer × Known
  | .Connect device =>
      (.ok ⟨device.result, []⟩, ⟨device.connected known.held, known.lost + device.loses known.held⟩)
  | .CreateVirtualReaderObject named =>
      if named then (.ok ⟨CJ_SUCCESS, []⟩, ⟨some false, known.lost + objects known.held⟩)
      else (.ok ⟨CJ_ERR_OPENING_DEVICE, []⟩, known)
  | .Disonnect _ => (.ok ⟨CJ_SUCCESS, []⟩, { known with held := none })
  | .CtData call => known.settled ⟨-128, []⟩ dataStays call
  | .IfdPower call => known.settled ⟨STATUS_DEVICE_NOT_CONNECTED, [.ATR_Length]⟩ (fun _ => true) call
  | .ifd called call => known.settled ⟨STATUS_DEVICE_NOT_CONNECTED, called.cleared⟩ ifdStays call
  | .ct called call => known.settled ⟨CJ_ERR_DEVICE_LOST, called.cleared⟩ checkStays call
  | .plain _ => if known.held.isSome then (.ok ⟨CJ_SUCCESS, []⟩, known) else (.error .null, known)

end Known

def readerObserver : Observer Known Request (Except Fault Answer) where
  right known request answer := answer = (known.step request).1
  learn known request _ := (known.step request).2

/-- The objects that are there: the `CReader`, what is known of it, and those that nobody refers to. -/
def Represents (state : Pointer × Heap Object) (of : Known) : Prop :=
  ∃ this held lost, state.1 = some this ∧ state.2.Holds (cells this held ++ lost) ∧
    of.held = known held ∧ of.lost = lost.length

section Steps

variable {this : Nat} {held : Option Attached} {heap : Heap Object}

theorem settled_known (missing : Answer) (stays : Int → Bool) (call : Call) (count : Nat) :
    Known.settled missing stays call ⟨known held, count⟩ =
      (.ok (settled missing stays call held).1, ⟨known (settled missing stays call held).2, count⟩) := by
  cases held with
  | none => rfl
  | some attached =>
      simp only [Known.settled, known, settled, Option.map_some]
      cases stays call.result with
      | false => rfl
      | true =>
          simp only [if_true, Option.map_some, Attached.behind]
          cases call.accesses.all Access.keeps <;> simp

/-- What a step leaves is what is known behind it. -/
def Follows (count : Nat) (request : Request) (held : Option Attached) (answer : Answer) (this : Nat)
    (left : List (Nat × Object)) : Prop :=
  ∃ now dropped, left = cells this now ++ dropped ∧
    Known.step ⟨known held, count⟩ request = (.ok answer, ⟨known now, count + dropped.length⟩)

theorem follows_of_settled {missing : Answer} {stays : Int → Bool} {call : Call} {program : Objects Answer}
    {request : Request} {count : Nat}
    (runs : Returns (cells this held) program (settled missing stays call held).1
      (cells this (settled missing stays call held).2))
    (steps : Known.step ⟨known held, count⟩ request = Known.settled missing stays call ⟨known held, count⟩) :
    Triple (cells this held) program fun answer left => Follows count request held answer this left := by
  apply Triple.weaken runs
  rintro answer left ⟨rfl, rfl⟩
  exact ⟨(settled missing stays call held).2, [], by simp, by simp [steps, settled_known]⟩

/-- Without a reader the plain methods are not called. -/
theorem perform_follows (count : Nat) (request : Request)
    (looked : known held = none → ∀ called, request ≠ .plain called) :
    Triple (cells this held) (CReader.perform (some this) request) fun answer left =>
      Follows count request held answer this left := by
  cases request with
  | Connect device =>
      apply Triple.bind (Connect_runs device)
      rintro result left ⟨now, dropped, rfl, rfl, same, lost⟩
      exact Triple.pure ⟨now, dropped, rfl, by simp [Known.step, same, lost]⟩
  | CreateVirtualReaderObject named =>
      apply Triple.bind (CreateVirtualReaderObject_runs named)
      rintro result left ⟨now, dropped, rfl, rfl, same, lost⟩
      cases named with
      | false => exact Triple.pure ⟨now, dropped, rfl, by simp_all [Known.step]⟩
      | true => exact Triple.pure ⟨now, dropped, rfl, by simp_all [Known.step]⟩
  | Disonnect accesses =>
      apply Returns.followed (Disonnect_returns accesses)
      exact Triple.pure ⟨none, [], by simp, rfl⟩
  | CtData call => exact follows_of_settled (CtData_returns call) rfl
  | IfdPower call => exact follows_of_settled (IfdPower_returns call) rfl
  | ifd called call => exact follows_of_settled (ifd_returns called call) rfl
  | ct called call => exact follows_of_settled (ct_returns called call) rfl
  | plain called =>
      cases held with
      | none => exact absurd rfl (looked rfl called)
      | some attached =>
          apply Triple.weaken (plain_returns called)
          rintro answer left ⟨rfl, rfl⟩
          exact ⟨some attached, [], by simp, rfl⟩

/-- Without a reader a plain method goes through NULL. -/
theorem plain_null {lost : List (Nat × Object)} (holds : heap.Holds (cells this none ++ lost))
    (called : PlainMethod) : readerMachine (some this, heap) (.plain called) = (.error .null, some this, heap) := by
  have found : heap.get this = some (.CReader none) := by simp [holds.get_iff, cells]
  have looked : m_Reader (some this) heap = .ok (none, heap) := by
    simp only [m_Reader, HeapM.load, Bind.bind, StateT.bind, found, Except.bind]
    rfl
  have failed : CReader.plain (some this) called heap = .error .null := by
    simp only [CReader.plain, Bind.bind, StateT.bind, looked, Except.bind]
    rfl
  simp only [readerMachine, heapMachine, readerStep, CReader.perform, Bind.bind, StateT.bind, failed, Except.bind]

theorem readerMachine_represents {known : Known} {state : Pointer × Heap Object} (request : Request)
    (holds : Represents state known) :
    (readerMachine state request).1 = (known.step request).1 ∧
      Represents (readerMachine state request).2 (known.step request).2 := by
  obtain ⟨pointer, heap⟩ := state
  obtain ⟨this, held, lost, rfl, there, same, counted⟩ := holds
  obtain ⟨reader, count⟩ := known
  subst same counted
  by_cases looked : ReaderObject.known held = none → ∀ called, request ≠ .plain called
  · have runs : Triple (cells this held) (readerStep (some this) request)
        fun result left => Follows lost.length request held result.1 this left ∧ result.2 = some this := by
      apply Triple.bind (perform_follows lost.length request looked)
      intro answer left follows
      exact Triple.pure ⟨follows, rfl⟩
    obtain ⟨answer, next, later, left, ran, kept, ⟨now, dropped, rfl, stepped⟩, rfl⟩ :=
      heapMachine_step runs there
    rw [readerMachine, ran, stepped]
    refine ⟨rfl, this, now, dropped ++ lost, rfl, by simpa using kept, rfl, ?_⟩
    simp [Nat.add_comm]
  · simp only [not_forall, not_not] at looked
    obtain ⟨without, called, rfl⟩ := looked
    have nothing : held = none := by simpa [ReaderObject.known] using without
    subst nothing
    rw [plain_null there called]
    exact ⟨rfl, this, none, lost, rfl, there, rfl, rfl⟩

end Steps

/-- A new `CReader` in an empty heap. -/
def newReader : Pointer × Heap Object :=
  (some 0, ⟨(Heap.empty.set 0 (some (Object.CReader none))).get, 1⟩)

theorem newReader_represents : Represents newReader ⟨none, 0⟩ :=
  ⟨0, none, [], rfl, Heap.empty_holds.added, rfl, rfl⟩

theorem reader_agrees : Agrees readerMachine readerObserver Represents fun _ _ => True where
  answers _ _ request holds _ := (readerMachine_represents request holds).1
  follows _ _ request holds _ := (readerMachine_represents request holds).2

/-- The machine beside what is known of it. -/
def readerRun (requests : List Request) : (Pointer × Heap Object) × Known :=
  final (observed readerMachine readerObserver) (newReader, ⟨none, 0⟩) requests

/-- In every run of a `CReader` each call answers what is known, goes through NULL only where a plain method is
called without a reader, and never through a pointer to a deleted object; and when it is deleted in the end,
of all its objects only those stay that a `Connect` has lost. -/
theorem reader_right (requests : List Request) (accesses : List Access) :
    (∀ entry ∈ history (observed readerMachine readerObserver) (newReader, ⟨none, 0⟩) requests,
      entry.answer = (entry.before.2.step entry.input).1) ∧
    ∃ later lost, CReader.delete (readerRun requests).1.1 accesses (readerRun requests).1.2 = .ok ((), later) ∧
      later.Holds lost ∧ lost.length = (readerRun requests).2.lost := by
  constructor
  · exact Agrees.history reader_agrees newReader_represents (by simp [Keeps])
  · obtain ⟨this, held, lost, placed, there, _, counted⟩ :=
      @Agrees.final _ _ _ _ _ _ _ _ _ _ reader_agrees newReader_represents requests (by simp [Keeps])
    obtain ⟨made, later, left, ran, kept, rfl, rfl⟩ := @CReader_delete_returns this held accesses lost _ there
    refine ⟨later, lost, ?_, by simpa using kept, counted.symm⟩
    rw [readerRun, placed]
    exact ran

/-- A device that is opened, and whose reader loses its communicator when it writes the first message. -/
def unpluggedDevice : Device :=
  ⟨true, true, true, ⟨[.Transfer ⟨true, CJ_ERR_DEVICE_LOST, 0, CJ_SUCCESS⟩], CJ_ERR_DEVICE_LOST⟩⟩

/-- `Connect` deletes the reader again, and then there is none for a callback. -/
theorem reader_right_unplugged :
    ((observed readerMachine readerObserver).entry (readerRun [.Connect unpluggedDevice])
      (.plain .SetKeyInterruptCallback)).answer = .error .null :=
  (reader_right [.Connect unpluggedDevice, .plain .SetKeyInterruptCallback] []).1 _ (.tail _ (.head _))

end Cyberjack.Eca.ReaderObject
