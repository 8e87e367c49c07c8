import Cyberjack.Eca.LoadModule
import Cyberjack.Libcyberjack.UploadClient

namespace Cyberjack.Libcyberjack

open Cyberjack.Foundation Cyberjack.Ctapi

/-! # Sessions of the client library

An application that uploads, updates keys and flashes in any order.  What it has
been told is enough to say what a module that is flashed consists of.
-/

inductive ClientCall where
  | sendModuleToFlash (pdata : List UInt8) (deliveries : List Delivery)
  | sendSignatureToFlash (pdata : List UInt8) (deliveries : List Delivery)
  | updateKeys (pdata : List UInt8) (deliveries : List Delivery)
  | flash (delivery : Delivery)

/-- `returned` is missing where the call still waits for an answer. -/
structure ClientAnswer where
  returned : Option ErrorCode
  calls : List ReaderCall
deriving DecidableEq

/-- The module and the signature that the driver holds, as far as the application knows. -/
structure Staged where
  module : Option (List UInt8)
  signature : Option (List UInt8)

/-- Behind an upload its string is known if it succeeds; an empty one sends nothing. -/
def uploadedString (before : Option (List UInt8)) (pdata : List UInt8) (returned : Option ErrorCode) :
    Option (List UInt8) :=
  if pdata = [] then before else if returned = some .Ok then some pdata else none

/-- A call hands this to the reader once or not at all, and once where it succeeds. -/
structure HandsOver (call : ReaderCall) (answer : ClientAnswer) : Prop where
  only : answer.calls = [] ∨ answer.calls = [call]
  succeeded : answer.returned = some .Ok → answer.calls = [call]

/-- What is known of the driver, and which calls of the reader are right. -/
def application : Observer Staged ClientCall ClientAnswer where
  right known call answer :=
    match call with
    | .sendModuleToFlash _ _ => answer.calls = []
    | .sendSignatureToFlash _ _ => answer.calls = []
    | .updateKeys pdata _ => if pdata = [] then answer.calls = [] else HandsOver (.CtKeyUpdate pdata) answer
    | .flash _ => ∀ module signature, known.module = some module → known.signature = some signature →
        if module = [] ∨ signature = [] then answer.calls = [] ∧ answer.returned ≠ some .Ok
        else HandsOver (.CtLoadModule module signature) answer
  learn known call answer :=
    match call with
    | .sendModuleToFlash pdata _ =>
        { known with module := uploadedString known.module pdata answer.returned }
    | .sendSignatureToFlash pdata _ =>
        { known with signature := uploadedString known.signature pdata answer.returned }
    -- keys and modules are gathered in one string
    | .updateKeys pdata _ => { known with module := if pdata = [] then known.module else none }
    | .flash _ => known

/-- The context of a driver with a reader of which this is known. -/
structure Represents (context : FlashContext) (known : Staged) : Prop where
  reader : context.reader = true
  module : ∀ module, known.module = some module → context.dataToFlash = module
  signature : ∀ signature, known.signature = some signature → context.signatureToFlash = signature

variable {context : FlashContext} {known : Staged} {pdata : List UInt8} {deliveries : List Delivery}

/-- What `CT_special` does with UPLOADFLASH. -/
theorem special_flash (reader : context.reader = true) (delivery : Delivery) :
    CT_special context (delivery.command [CJ_SPECIAL_CLA, CJ_SPECIAL_INS_UPLOADFLASH, 0x00, 0x00]) =
      (if context.dataToFlash = [] ∨ context.signatureToFlash = [] then invalid 0
       else ⟨if delivery.success = true then 0 else -8, if delivery.success = true then [0x90, 0x00] else [],
        [.CtLoadModule context.dataToFlash context.signatureToFlash], 0⟩, context) := by
  have present : ¬ context.reader = false := by simp [reader]
  have made : CT_special context (delivery.command [CJ_SPECIAL_CLA, CJ_SPECIAL_INS_UPLOADFLASH, 0x00, 0x00]) =
      _specialUploadFlash context
        (delivery.command [CJ_SPECIAL_CLA, CJ_SPECIAL_INS_UPLOADFLASH, 0x00, 0x00]) := rfl
  have empty (string : List UInt8) : string.length < 1 ↔ string = [] := by
    cases string <;> simp
  rw [made, _specialUploadFlash, if_neg present]
  simp only [empty]
  split
  · rfl
  · cases success : delivery.success <;> simp [Delivery.command, success]

/-- What is in the strings is handed over as a module and its signature. -/
theorem flash_filled (reader : context.reader = true)
    (filled : ¬ (context.dataToFlash = [] ∨ context.signatureToFlash = [])) (delivery : Delivery) :
    (flash context delivery).1 =
        (if delivery.fate = .lost then [] else [.CtLoadModule context.dataToFlash context.signatureToFlash]) ∧
      ((flash context delivery).2.1 = .Ok ↔ delivery.fate = .answered ∧ delivery.success = true) := by
  cases fate : delivery.fate with
  | lost => simp [flash, sendApdu, fate]
  | unanswered => simp [flash, sendApdu, fate, special_flash reader, filled]
  | answered =>
      cases success : delivery.success <;>
        simp [flash, sendApdu, fate, special_flash reader, filled, success, refuses]

/-! ## The session -/

section Reader

open Eca.Module

/-- What `CtLoadModule` finds in its fields and is answered by the device. -/
structure Device where
  Data : Buffer UInt8 256
  Sign : Buffer UInt8 768
  Result : UInt32
  first : StepReply
  replies : List StepReply

def Device.load (device : Device) (pData pSgn : List UInt8) : Call LoadState StepReply Sent LoadEnd :=
  CtLoadModule pData pSgn device.Data device.Sign device.Result device.first device.replies

def Device.loads (device : Device) (pData pSgn : List UInt8) : Bool :=
  match (device.load pData pSgn).outcome with
  | .done (.returned none _) => true
  | _ => false

/-- The pieces that reach the device when the reader is called. -/
def Device.pieces (device : Device) : ReaderCall → List Piece
  | .CtKeyUpdate _ => []
  | .CtLoadModule data signature => Eca.Module.pieces (device.load data signature).trace

/-- `flash`, where the reader's result is that of `CtLoadModule`. -/
def Device.flash (device : Device) (context : FlashContext) (fate : Fate) (behind : Nat → UInt8) :
    List Piece × ErrorCode :=
  let made := Libcyberjack.flash context
    ⟨fate, device.loads context.dataToFlash context.signatureToFlash, behind⟩
  (made.1.flatMap device.pieces, made.2.1)

def moduleBytes : Piece → List UInt8
  | .header bytes => bytes
  | .chunk _ bytes => bytes
  | _ => []

def signatureBytes : Piece → List UInt8
  | .signature _ bytes => bytes
  | _ => []

variable {module signature : List UInt8} {device : Device} {sent : List Piece}

/-- What the device is meant to receive. -/
def wholePlan (module signature : List UInt8) : List Piece :=
  .mask :: .header (module.take 256) :: transmission (chunks 256 (module.drop 256)) signature

theorem moduleBytes_chunks (rest : List (List UInt8)) :
    (rest.flatMap fun chunk => [.mask, .chunk chunk.length chunk]).flatMap moduleBytes = rest.flatten := by
  induction rest with
  | nil => rfl
  | cons chunk rest ih =>
      rw [List.flatMap_cons, List.flatMap_append, ih, List.flatten_cons]
      simp [moduleBytes]

theorem signatureBytes_chunks (rest : List (List UInt8)) :
    (rest.flatMap fun chunk => [.mask, .chunk chunk.length chunk]).flatMap signatureBytes = [] := by
  induction rest with
  | nil => rfl
  | cons chunk rest ih =>
      rw [List.flatMap_cons, List.flatMap_append, ih]
      rfl

theorem moduleBytes_plan : (wholePlan module signature).flatMap moduleBytes = module := by
  simp only [wholePlan, transmission, List.flatMap_cons, List.flatMap_append, moduleBytes_chunks,
    flatten_chunks (show 0 < 256 by decide), moduleBytes, List.flatMap_nil]
  simp

theorem signatureBytes_plan : (wholePlan module signature).flatMap signatureBytes = signature := by
  simp only [wholePlan, transmission, List.flatMap_cons, List.flatMap_append, signatureBytes_chunks,
    signatureBytes, List.flatMap_nil]
  simp

theorem load_sends (enough : 258 ≤ module.length) (fits : signature.length ≤ 768) :
    Sends (wholePlan module signature) (device.load module signature).trace
      (device.load module signature).outcome := by
  obtain ⟨state, placed, started⟩ := @loadStart_header module device.Data device.Sign device.Result device.first enough
  by_cases succeeds : device.first.Succeeds
  · have later := @run_sends module signature _ state device.replies placed fun _ => fits
    rw [masked_succeeded succeeds] at started
    rw [Device.load, CtLoadModule, started]
    exact (later.cons (.updateStart (module.take 256))).cons .SetFlashMask
  · obtain ⟨trace, ended, stopped, sends⟩ :=
      @masked_failed device.first (.updateStart (module.take 256)) succeeds device.Result ([], .again state)
    rw [Device.load, CtLoadModule, started, stopped]
    have whole : (call (loadBody module signature) (trace, .done ended) device.replies).trace = trace :=
      List.append_nil trace
    rw [whole]
    exact sends _

theorem load_short (short : module.length < 258) :
    (device.load module signature).trace = [] ∧ device.loads module signature = false := by
  simp only [Device.loads, Device.load, CtLoadModule, loadStart_short _ _ _ _ short]
  exact ⟨rfl, rfl⟩

/-- What reaches the device of a module and its signature. -/
structure Received (module signature : List UInt8) (sent : List Piece) (Res : ErrorCode) : Prop where
  moduleBegins : sent.flatMap moduleBytes <+: module
  signatureBegins : sent.flatMap signatureBytes <+: signature
  whole : Res = .Ok → sent.flatMap moduleBytes = module ∧ sent.flatMap signatureBytes = signature

theorem received_nothing {Res : ErrorCode} (failed : Res ≠ .Ok) : Received module signature [] Res :=
  ⟨List.nil_prefix, List.nil_prefix, fun ok => absurd ok failed⟩

theorem received_of_begins {Res : ErrorCode} (begins : sent <+: wholePlan module signature)
    (whole : Res = .Ok → sent = wholePlan module signature) : Received module signature sent Res where
  moduleBegins := by
    obtain ⟨rest, split⟩ := begins
    refine ⟨rest.flatMap moduleBytes, ?_⟩
    rw [← List.flatMap_append, split, moduleBytes_plan]
  signatureBegins := by
    obtain ⟨rest, split⟩ := begins
    refine ⟨rest.flatMap signatureBytes, ?_⟩
    rw [← List.flatMap_append, split, signatureBytes_plan]
  whole ok := by
    rw [whole ok]
    exact ⟨moduleBytes_plan, signatureBytes_plan⟩

theorem device_flash (reader : context.reader = true) (data : context.dataToFlash ≠ [])
    (sign : context.signatureToFlash ≠ []) (fits : context.signatureToFlash.length ≤ 768) (fate : Fate)
    (behind : Nat → UInt8) :
    Received context.dataToFlash context.signatureToFlash (device.flash context fate behind).1
      (device.flash context fate behind).2 := by
  have made := flash_filled reader (by simp [data, sign])
    ⟨fate, device.loads context.dataToFlash context.signatureToFlash, behind⟩
  simp only [Device.flash, made.1]
  by_cases lost : fate = .lost
  · simp only [if_pos lost, List.flatMap_nil]
    apply received_nothing
    rw [ne_eq, made.2, lost]
    simp
  · simp only [if_neg lost, List.flatMap_cons, List.flatMap_nil, List.append_nil, Device.pieces]
    by_cases short : context.dataToFlash.length < 258
    · have nothing := @load_short context.dataToFlash context.signatureToFlash device short
      rw [nothing.1]
      apply received_nothing
      rw [ne_eq, made.2, nothing.2]
      simp
    · have sends := @load_sends context.dataToFlash context.signatureToFlash device (Nat.not_lt.mp short) fits
      apply received_of_begins sends.begins
      intro ok
      have succeeded := (made.2.mp ok).2
      simp only [Device.loads] at succeeded
      split at succeeded
      · rename_i Result returned
        exact sends.whole Result returned
      · contradiction

/-- From the client down to the device: where both uploads have been answered with success, nothing but the
beginning of that module and of that signature reaches the device, and all of both where `flash` succeeds. -/
theorem module_reaches_device (reader : context.reader = true) (someModule : module ≠ [])
    (someSignature : signature ≠ []) (fits : signature.length ≤ 768) (device : Device)
    (moduleDeliveries signatureDeliveries : List Delivery) (fate : Fate) (behind : Nat → UInt8)
    {uploaded signed : FlashContext}
    (moduleSent : (sendModuleToFlash context module moduleDeliveries).outcome = .done (.Ok, uploaded))
    (signatureSent :
      (sendSignatureToFlash uploaded signature signatureDeliveries).outcome = .done (.Ok, signed)) :
    Received module signature (device.flash signed fate behind).1 (device.flash signed fate behind).2 := by
  have first : uploaded = holding .uploadMod context module :=
    (sendBlocks_sent (sendData_marks .uploadMod (by decide)) reader someModule).holds uploaded moduleSent
  have present : uploaded.reader = true := by rw [first, reader_holding, reader]
  have second : signed = holding .uploadSig uploaded signature :=
    (sendBlocks_sent (sendData_marks .uploadSig (by decide)) present someSignature).holds signed signatureSent
  have data : signed.dataToFlash = module := by rw [second, first]; rfl
  have sign : signed.signatureToFlash = signature := by rw [second]; rfl
  have connected : signed.reader = true := by rw [second, reader_holding, present]
  have received := @device_flash signed device connected (by rwa [data]) (by rwa [sign]) (by rwa [sign]) fate behind
  rwa [data, sign] at received

/-- A device that accepts a header, a rest of one chunk and the signature. -/
def acceptingDevice : Device :=
  ⟨.filled 256 0, .filled 768 0, 0, ⟨none, ⟨none, 0⟩⟩, [⟨none, ⟨none, 0⟩⟩, ⟨none, ⟨none, 0⟩⟩, ⟨none, ⟨none, 0⟩⟩]⟩

/-- A header and four bytes behind it. -/
def smallModule : List UInt8 := List.replicate 260 0x5A

set_option maxRecDepth 4000 in
theorem module_reaches_device_small :
    Received smallModule [0x07] (acceptingDevice.flash ⟨true, smallModule, [0x07]⟩ .answered fun _ => 0).1
      (acceptingDevice.flash ⟨true, smallModule, [0x07]⟩ .answered fun _ => 0).2 :=
  @module_reaches_device startedContext smallModule [0x07] rfl (by decide) (by decide) (by decide)
    acceptingDevice [⟨.answered, true, fun _ => 0⟩, ⟨.answered, true, fun _ => 0⟩]
    [⟨.answered, true, fun _ => 0⟩] .answered (fun _ => 0)
    ⟨true, smallModule, [0x99]⟩ ⟨true, smallModule, [0x07]⟩ rfl rfl

end Reader

end Cyberjack.Libcyberjack
