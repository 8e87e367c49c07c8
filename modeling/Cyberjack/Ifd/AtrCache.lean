import Cyberjack.Ifd.Channels

namespace Cyberjack.Ifd.Power

open Cyberjack.Foundation

/-! # The cached ATR of a unit

`IFDHPowerICC` and the ATR of `IFDHGetCapabilities`.  What `CT_data` returns comes with the
request, and a unit is open for the whole run.
-/

def MAX_ATR_SIZE : Nat := 33

inductive RESPONSECODE where
  | IFD_SUCCESS
  | IFD_ERROR_TAG
  | IFD_ERROR_POWER_ACTION
  | IFD_COMMUNICATION_ERROR
  | IFD_NOT_SUPPORTED
  | IFD_ICC_NOT_PRESENT
deriving Repr, DecidableEq

inductive PowerAction where
  | IFD_POWER_UP
  | IFD_POWER_DOWN
  | IFD_RESET
  | unknown
deriving Repr, DecidableEq

/-- The cache in `IFDH_Status`. -/
structure AtrStatus where
  ATR_Length : Nat
  ATR : List UInt8
  size : ATR.length = MAX_ATR_SIZE
  inside : ATR_Length ≤ MAX_ATR_SIZE
deriving DecidableEq

/-- Behind `memset` -/
def AtrStatus.created : AtrStatus := ⟨0, List.replicate MAX_ATR_SIZE 0, rfl, by decide⟩

/-- What `CT_data` returns, with `lr` bytes in `rsp`. -/
structure CtReply where
  ret : Int
  rsp : List UInt8
  fits : rsp.length ≤ 256

def CtReply.answered (reply : CtReply) : Prop := reply.ret = 0 ∧ 2 ≤ reply.rsp.length

instance (reply : CtReply) : Decidable reply.answered := inferInstanceAs (Decidable (_ ∧ _))

/-- The answer in front of its status word. -/
def CtReply.atr (reply : CtReply) : List UInt8 := reply.rsp.take (reply.rsp.length - 2)

def CtReply.sw1 (reply : CtReply) : Option UInt8 := reply.rsp[reply.rsp.length - 2]?

structure PowerRequest where
  Lun : Nat
  Action : PowerAction
  AtrLength : Nat
  reply : CtReply

/-- The command given to `CT_data`, and what the caller gets; `Atr` is what is copied. -/
structure PowerResponse where
  rv : RESPONSECODE
  cmd : Option (List UInt8)
  Atr : List UInt8
  AtrLength : Nat
deriving Repr, DecidableEq

/-- `memcpy` of the bytes that there is room for. -/
def AtrStatus.store (status : AtrStatus) (atr : List UInt8) : AtrStatus where
  ATR_Length := min atr.length MAX_ATR_SIZE
  ATR := atr.take MAX_ATR_SIZE ++ status.ATR.drop (min atr.length MAX_ATR_SIZE)
  size := by
    have size := status.size
    rw [List.length_append, List.length_take, List.length_drop]
    omega
  inside := Nat.min_le_right _ _

/-- The body of a power up and of a reset, which differ in the command and in `refused`. -/
def activate (status : AtrStatus) (request : PowerRequest) (cmd : List UInt8) (refused : RESPONSECODE) :
    PowerResponse × AtrStatus :=
  if request.reply.answered then
    if request.reply.sw1 = some 0x90 then
      let copied := request.reply.atr.take request.AtrLength
      (⟨.IFD_SUCCESS, some cmd, copied, copied.length⟩, status.store request.reply.atr)
    else (⟨refused, some cmd, [], request.AtrLength⟩, status)
  else (⟨.IFD_COMMUNICATION_ERROR, some cmd, [], request.AtrLength⟩, status)

def powerOf (status : AtrStatus) (request : PowerRequest) : PowerResponse × AtrStatus :=
  let slot := UInt8.ofNat (request.Lun % 65536 % IFDH_MAX_SLOTS + 1)
  match request.Action with
  | .IFD_POWER_UP => activate status request [0x20, 0x12, slot, 0x01, 0x00] .IFD_ERROR_POWER_ACTION
  | .IFD_POWER_DOWN =>
      let rv := if request.reply.answered then .IFD_SUCCESS else .IFD_COMMUNICATION_ERROR
      (⟨rv, some [0x20, 0x15, slot, 0x00], [], request.AtrLength⟩, { status with ATR_Length := 0, inside := Nat.zero_le _ })
  | .IFD_RESET => activate status request [0x20, 0x11, slot, 0x01, 0x00] .IFD_ICC_NOT_PRESENT
  | .unknown => (⟨.IFD_NOT_SUPPORTED, none, [], request.AtrLength⟩, status)

/-- The units that are open. -/
abbrev Units := LogicalUnit → Option AtrStatus

def IFDHPowerICC (ifdh_status : Units) (request : PowerRequest) : PowerResponse × Units :=
  match unitOf request.Lun with
  | none => (⟨.IFD_COMMUNICATION_ERROR, none, [], request.AtrLength⟩, ifdh_status)
  | some ctn =>
      match ifdh_status ctn with
      | none => (⟨.IFD_ICC_NOT_PRESENT, none, [], request.AtrLength⟩, ifdh_status)
      | some status =>
          ((powerOf status request).1, Function.update ifdh_status ctn (some (powerOf status request).2))

/-- With `TAG_IFD_ATR`: the result, and what is copied to `Value` where that is no null pointer. -/
def IFDHGetCapabilities (ifdh_status : Units) (Lun Length : Nat) (Value : Bool) : RESPONSECODE × List UInt8 :=
  match unitOf Lun with
  | none => (.IFD_COMMUNICATION_ERROR, [])
  | some ctn =>
      match ifdh_status ctn with
      | none => (.IFD_ICC_NOT_PRESENT, [])
      | some status =>
          if status.ATR_Length ≤ Length ∧ Value = true then (.IFD_SUCCESS, status.ATR.take status.ATR_Length)
          else (.IFD_ERROR_TAG, [])

/-! ## What is reported -/

/-- Whatever room the caller has, `atr` is what it is given. -/
def Reports (ifdh_status : Units) (Lun : Nat) (atr : List UInt8) : Prop :=
  ∀ Length, IFDHGetCapabilities ifdh_status Lun Length true =
    if atr.length ≤ Length then (.IFD_SUCCESS, atr) else (.IFD_ERROR_TAG, [])

/-- The unit that a request is for is open. -/
def IsOpen (ifdh_status : Units) (Lun : Nat) : Prop := ∃ ctn status, unitOf Lun = some ctn ∧ ifdh_status ctn = some status

/-- The ATR that an action leaves: what it gave to the caller if it succeeded in activating the
card, else none. -/
def delivered (Action : PowerAction) (response : PowerResponse) : List UInt8 :=
  if (Action = .IFD_POWER_UP ∨ Action = .IFD_RESET) ∧ response.rv = .IFD_SUCCESS then response.Atr else []

abbrev Step := Entry Units PowerRequest PowerResponse

/-- The unit reports the ATR of its last action, and the others report what they did before. -/
structure Reported (entry : Step) : Prop where
  last : IsOpen entry.before entry.input.Lun → entry.input.Action ≠ .unknown →
    Reports entry.after entry.input.Lun (delivered entry.input.Action entry.answer)
  others : ∀ Lun Length Value, unitOf Lun ≠ unitOf entry.input.Lun →
    IFDHGetCapabilities entry.after Lun Length Value = IFDHGetCapabilities entry.before Lun Length Value

/-- The card is activated. -/
def PowerRequest.activated (request : PowerRequest) : Prop :=
  request.reply.answered ∧ request.reply.sw1 = some 0x90

instance (request : PowerRequest) : Decidable request.activated := inferInstanceAs (Decidable (_ ∧ _))

/-- An activation that fails finds nothing in the cache, and one that succeeds delivers as much as
the cache has room for. -/
def Fitting (ifdh_status : Units) (request : PowerRequest) : Prop :=
  ∀ ctn status, unitOf request.Lun = some ctn → ifdh_status ctn = some status →
    request.Action = .IFD_POWER_UP ∨ request.Action = .IFD_RESET →
      if request.activated then min request.reply.atr.length request.AtrLength = min request.reply.atr.length MAX_ATR_SIZE
      else status.ATR_Length = 0

/-! ## One action -/

def AtrStatus.cached (status : AtrStatus) : List UInt8 := status.ATR.take status.ATR_Length

theorem AtrStatus.cached_length (status : AtrStatus) : status.cached.length = status.ATR_Length := by
  have inside := status.inside
  rw [cached, List.length_take, status.size]
  omega

theorem AtrStatus.cached_store (status : AtrStatus) (atr : List UInt8) :
    (status.store atr).cached = atr.take MAX_ATR_SIZE := by
  unfold cached store
  dsimp only
  rw [List.take_append_of_le_length (by rw [List.length_take]; omega), List.take_take]
  exact List.take_eq_take_iff.mpr (by omega)

theorem AtrStatus.cached_eq_nil {status : AtrStatus} : status.cached = [] ↔ status.ATR_Length = 0 := by
  rw [← List.length_eq_zero_iff, status.cached_length]

theorem capabilities_open {ifdh_status : Units} {Lun : Nat} {ctn : LogicalUnit} {status : AtrStatus}
    (unit : unitOf Lun = some ctn) (isOpen : ifdh_status ctn = some status) (Length : Nat) :
    IFDHGetCapabilities ifdh_status Lun Length true =
      if status.cached.length ≤ Length then (.IFD_SUCCESS, status.cached) else (.IFD_ERROR_TAG, []) := by
  simp only [IFDHGetCapabilities, unit, isOpen, and_true, status.cached_length]
  rfl

theorem reports_iff {ifdh_status : Units} {Lun : Nat} {ctn : LogicalUnit} {status : AtrStatus}
    (unit : unitOf Lun = some ctn) (isOpen : ifdh_status ctn = some status) {atr : List UInt8} :
    Reports ifdh_status Lun atr ↔ status.cached = atr := by
  constructor
  · intro reports
    have roomy := reports (max status.cached.length atr.length)
    rw [capabilities_open unit isOpen, if_pos (Nat.le_max_left _ _), if_pos (Nat.le_max_right _ _)] at roomy
    exact congrArg Prod.snd roomy
  · intro same Length
    rw [capabilities_open unit isOpen, same]

/-- What a power up and a reset leave in the cache is what they deliver. -/
theorem activate_cached (status : AtrStatus) (request : PowerRequest) (cmd : List UInt8) {refused : RESPONSECODE}
    (fails : refused ≠ .IFD_SUCCESS) :
    ((activate status request cmd refused).2.cached =
        if (activate status request cmd refused).1.rv = .IFD_SUCCESS then (activate status request cmd refused).1.Atr else []) ↔
      if request.activated then min request.reply.atr.length request.AtrLength = min request.reply.atr.length MAX_ATR_SIZE
      else status.ATR_Length = 0 := by
  unfold activate PowerRequest.activated
  by_cases answered : request.reply.answered
  · by_cases accepted : request.reply.sw1 = some 0x90
    · simp only [answered, accepted, and_self, if_true, status.cached_store]
      rw [List.take_eq_take_iff, Nat.min_comm MAX_ATR_SIZE, Nat.min_comm request.AtrLength]
      exact eq_comm
    · simp only [answered, accepted, and_false, if_true, if_false, fails]
      exact AtrStatus.cached_eq_nil
  · have failed : RESPONSECODE.IFD_COMMUNICATION_ERROR ≠ .IFD_SUCCESS := by decide
    simp only [answered, false_and, if_false, failed]
    exact AtrStatus.cached_eq_nil

theorem powerOf_cached (status : AtrStatus) (request : PowerRequest) (known : request.Action ≠ .unknown) :
    (powerOf status request).2.cached = delivered request.Action (powerOf status request).1 ↔
      (request.Action = .IFD_POWER_UP ∨ request.Action = .IFD_RESET →
        if request.activated then min request.reply.atr.length request.AtrLength = min request.reply.atr.length MAX_ATR_SIZE
        else status.ATR_Length = 0) := by
  unfold powerOf delivered
  cases action : request.Action with
  | IFD_POWER_UP | IFD_RESET => simpa using activate_cached status request _ (by decide)
  | IFD_POWER_DOWN => simp [AtrStatus.cached_eq_nil]
  | unknown => contradiction

theorem power_others (ifdh_status : Units) (request : PowerRequest) (Lun Length : Nat) (Value : Bool)
    (other : unitOf Lun ≠ unitOf request.Lun) :
    IFDHGetCapabilities (IFDHPowerICC ifdh_status request).2 Lun Length Value =
      IFDHGetCapabilities ifdh_status Lun Length Value := by
  unfold IFDHPowerICC
  cases unit : unitOf request.Lun with
  | none => rfl
  | some ctn =>
      dsimp only
      cases ifdh_status ctn with
      | none => rfl
      | some status =>
          unfold IFDHGetCapabilities
          cases asked : unitOf Lun with
          | none => rfl
          | some another =>
              have apart : another ≠ ctn := by
                intro same
                exact other (by rw [asked, unit, same])
              simp only [Function.update_of_ne apart]

theorem reports_last {ifdh_status : Units} {request : PowerRequest} {ctn : LogicalUnit} {status : AtrStatus}
    (unit : unitOf request.Lun = some ctn) (isOpen : ifdh_status ctn = some status) {atr : List UInt8} :
    Reports (IFDHPowerICC ifdh_status request).2 request.Lun atr ↔ (powerOf status request).2.cached = atr := by
  apply reports_iff unit
  simp [IFDHPowerICC, unit, isOpen]

theorem powerICC_answer {ifdh_status : Units} {request : PowerRequest} {ctn : LogicalUnit} {status : AtrStatus}
    (unit : unitOf request.Lun = some ctn) (isOpen : ifdh_status ctn = some status) :
    (IFDHPowerICC ifdh_status request).1 = (powerOf status request).1 := by
  simp [IFDHPowerICC, unit, isOpen]

theorem reported_iff (ifdh_status : Units) (request : PowerRequest) :
    Reported (Machine.entry IFDHPowerICC ifdh_status request) ↔ Fitting ifdh_status request := by
  constructor
  · intro reported ctn status unit isOpen activates
    have known : request.Action ≠ .unknown := by
      intro unknown
      rw [unknown] at activates
      simp at activates
    have reports : Reports (IFDHPowerICC ifdh_status request).2 request.Lun
        (delivered request.Action (IFDHPowerICC ifdh_status request).1) :=
      reported.last ⟨ctn, status, unit, isOpen⟩ known
    rw [reports_last unit isOpen, powerICC_answer unit isOpen] at reports
    exact (powerOf_cached status request known).mp reports activates
  · intro fitting
    constructor
    · dsimp only [Machine.entry]
      intro opened known
      obtain ⟨ctn, status, unit, isOpen⟩ := opened
      rw [reports_last unit isOpen, powerICC_answer unit isOpen]
      exact (powerOf_cached status request known).mpr (fitting ctn status unit isOpen)
    · exact fun Lun Length Value other => power_others ifdh_status request Lun Length Value other

/-- In every run the unit of each action reports what the action delivered, if and only if every
action is a fitting one. -/
theorem atr_reported_iff (ifdh_status : Units) (requests : List PowerRequest) :
    (∀ entry ∈ history IFDHPowerICC ifdh_status requests, Reported entry) ↔
      Keeps Fitting (history IFDHPowerICC ifdh_status requests) := by
  apply @history_iff _ _ _ IFDHPowerICC (fun _ => True)
  · exact fun state request _ => reported_iff state request
  · exact fun _ _ _ _ => trivial
  · exact trivial

/-- Every unit is open, and no card has been activated. -/
def createdUnits : Units := fun _ => some AtrStatus.created

/-- A card is activated, and the reset of the next one fails. -/
def exchangedCard : List PowerRequest :=
  [⟨0, .IFD_POWER_UP, MAX_ATR_SIZE, ⟨0, [0x3b, 0x02, 0x14, 0x50, 0x90, 0x00], by decide⟩⟩,
    ⟨0, .IFD_RESET, MAX_ATR_SIZE, ⟨0, [0x64, 0xa1], by decide⟩⟩]

/-- The ATR of the first card is still reported. -/
theorem exchangedCard_stale :
    (history IFDHPowerICC createdUnits exchangedCard).map (fun entry => entry.answer.rv) =
        [.IFD_SUCCESS, .IFD_ICC_NOT_PRESENT] ∧
      IFDHGetCapabilities (final IFDHPowerICC createdUnits exchangedCard) 0 MAX_ATR_SIZE true =
        (.IFD_SUCCESS, [0x3b, 0x02, 0x14, 0x50]) ∧
      ¬ ∀ entry ∈ history IFDHPowerICC createdUnits exchangedCard, Reported entry := by
  refine ⟨by decide, by decide, ?_⟩
  intro every
  have stale := (every _ (List.mem_cons_of_mem _ List.mem_cons_self)).last ⟨⟨0, by decide⟩, _, rfl, rfl⟩ (by decide) MAX_ATR_SIZE
  exact absurd stale (by decide)

end Cyberjack.Ifd.Power
