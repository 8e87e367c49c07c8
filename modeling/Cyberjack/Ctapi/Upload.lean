import Cyberjack.Eca.CtData
import Cyberjack.Foundation.History
import Mathlib.Data.List.Induction

namespace Cyberjack.Ctapi

open Cyberjack.Foundation Cyberjack.Eca

/-! # Uploads

The special commands of `ctapi_special.cpp` that gather keys, a module and a
signature in two strings of a context and hand them to the reader.
-/

/-- The members of a context that the commands use; `reader` tells whether there is one. -/
structure FlashContext where
  reader : Bool
  dataToFlash : List UInt8
  signatureToFlash : List UInt8
deriving Repr, DecidableEq

/-- A special command of at least four bytes; `success` is whether the reader returns
`CJ_SUCCESS`, `other` what the commands return that do not know the two strings. -/
structure SpecialCommand where
  cmd : Nat → UInt8
  cmd_len : Nat
  success : Bool
  other : Int

inductive ReaderCall where
  | CtKeyUpdate (data : List UInt8)
  | CtLoadModule (data signature : List UInt8)
deriving Repr, DecidableEq

/-- `response` is what is written there, `payload` how many bytes are read at `cmd+5`. -/
structure SpecialAnswer where
  rv : Int
  response : List UInt8
  calls : List ReaderCall
  payload : Nat
deriving Repr, DecidableEq

def CJ_SPECIAL_CLA : UInt8 := 0x30

def CJ_SPECIAL_INS_KEYUPDATE : UInt8 := 0x10

def CJ_SPECIAL_INS_UPLOADMOD : UInt8 := 0x21

def CJ_SPECIAL_INS_UPLOADSIG : UInt8 := 0x22

def CJ_SPECIAL_INS_UPLOADFLASH : UInt8 := 0x23

def invalid (payload : Nat) : SpecialAnswer := ⟨-1, [], [], payload⟩

namespace SpecialCommand

def First (command : SpecialCommand) : Prop := command.cmd 2 &&& 0x20 ≠ 0

def Abort (command : SpecialCommand) : Prop := command.cmd 2 &&& 0x40 ≠ 0

def Last (command : SpecialCommand) : Prop := command.cmd 2 &&& 0x80 ≠ 0

instance (command : SpecialCommand) : Decidable command.First := inferInstanceAs (Decidable (_ ≠ _))

instance (command : SpecialCommand) : Decidable command.Abort := inferInstanceAs (Decidable (_ ≠ _))

instance (command : SpecialCommand) : Decidable command.Last := inferInstanceAs (Decidable (_ ≠ _))

end SpecialCommand

/-- What a block does to its string. -/
inductive Block where
  | aborted
  | tooShort (string : List UInt8)
  | added (string : List UInt8) (dataLen : Nat)

def takeBlock (string : List UInt8) (command : SpecialCommand) : Block :=
  let string := if command.First then [] else string
  if command.Abort then .aborted
  else if command.cmd_len < 5 then .tooShort string
  else .added (string ++ bytesAt command.cmd 5 (command.cmd 4).toNat) (command.cmd 4).toNat

def _specialKeyUpdate (context : FlashContext) (command : SpecialCommand) : SpecialAnswer × FlashContext :=
  if context.reader = false then (invalid 0, context)
  else
    match takeBlock context.dataToFlash command with
    | .aborted => (⟨0, [0x90, 0x00], [], 0⟩, { context with dataToFlash := [] })
    | .tooShort dataToFlash => (invalid 0, { context with dataToFlash })
    | .added dataToFlash dataLen =>
        if command.Last then
          if command.success = true then
            (⟨0, [0x90, 0x00], [.CtKeyUpdate dataToFlash], dataLen⟩, { context with dataToFlash })
          else (⟨-8, [], [.CtKeyUpdate dataToFlash], dataLen⟩, { context with dataToFlash })
        else (⟨0, [0x90, 0x00], [], dataLen⟩, { context with dataToFlash })

def _specialUploadMod (context : FlashContext) (command : SpecialCommand) : SpecialAnswer × FlashContext :=
  if context.reader = false then (invalid 0, context)
  else
    match takeBlock context.dataToFlash command with
    | .aborted => (⟨0, [0x90, 0x00], [], 0⟩, { context with dataToFlash := [] })
    | .tooShort dataToFlash => (invalid 0, { context with dataToFlash })
    | .added dataToFlash dataLen => (⟨0, [0x90, 0x00], [], dataLen⟩, { context with dataToFlash })

def _specialUploadSig (context : FlashContext) (command : SpecialCommand) : SpecialAnswer × FlashContext :=
  if context.reader = false then (invalid 0, context)
  else
    match takeBlock context.signatureToFlash command with
    | .aborted => (⟨0, [0x90, 0x00], [], 0⟩, { context with signatureToFlash := [] })
    | .tooShort signatureToFlash => (invalid 0, { context with signatureToFlash })
    | .added signatureToFlash dataLen =>
        (⟨0, [0x90, 0x00], [], dataLen⟩, { context with signatureToFlash })

def _specialUploadFlash (context : FlashContext) (command : SpecialCommand) :
    SpecialAnswer × FlashContext :=
  if context.reader = false then (invalid 0, context)
  else if context.dataToFlash.length < 1 ∨ context.signatureToFlash.length < 1 then (invalid 0, context)
  else
    let call := ReaderCall.CtLoadModule context.dataToFlash context.signatureToFlash
    (if command.success = true then ⟨0, [0x90, 0x00], [call], 0⟩ else ⟨-8, [], [call], 0⟩, context)

def CT_special (context : FlashContext) (command : SpecialCommand) : SpecialAnswer × FlashContext :=
  if command.cmd 0 ≠ CJ_SPECIAL_CLA then (invalid 0, context)
  else if command.cmd 1 = CJ_SPECIAL_INS_KEYUPDATE then _specialKeyUpdate context command
  else if command.cmd 1 = CJ_SPECIAL_INS_UPLOADMOD then _specialUploadMod context command
  else if command.cmd 1 = CJ_SPECIAL_INS_UPLOADSIG then _specialUploadSig context command
  else if command.cmd 1 = CJ_SPECIAL_INS_UPLOADFLASH then _specialUploadFlash context command
  else (⟨command.other, [], [], 0⟩, context)

/-- The commands one after the other, with those made before. -/
def specialCommands : Machine (FlashContext × List SpecialCommand) SpecialCommand SpecialAnswer
  | (context, past), command =>
      ((CT_special context command).1, (CT_special context command).2, past ++ [command])

/-- A new context. -/
def freshContext (reader : Bool) : FlashContext × List SpecialCommand := (⟨reader, [], []⟩, [])

/-! ## What the commands have uploaded -/

/-- The commands that upload, by the INS of their family. -/
inductive Family where
  | keyUpdate
  | uploadMod
  | uploadSig
deriving Repr, DecidableEq

def Family.ins : Family → UInt8
  | keyUpdate => CJ_SPECIAL_INS_KEYUPDATE
  | uploadMod => CJ_SPECIAL_INS_UPLOADMOD
  | uploadSig => CJ_SPECIAL_INS_UPLOADSIG

namespace SpecialCommand

def Of (family : Family) (command : SpecialCommand) : Prop :=
  command.cmd 0 = CJ_SPECIAL_CLA ∧ command.cmd 1 = family.ins

instance (family : Family) (command : SpecialCommand) : Decidable (command.Of family) :=
  inferInstanceAs (Decidable (_ ∧ _))

def payload (command : SpecialCommand) : List UInt8 :=
  if command.Abort ∨ command.cmd_len < 5 then [] else bytesAt command.cmd 5 (command.cmd 4).toNat

def Flashes (command : SpecialCommand) : Prop :=
  command.cmd 0 = CJ_SPECIAL_CLA ∧ command.cmd 1 = CJ_SPECIAL_INS_UPLOADFLASH

instance (command : SpecialCommand) : Decidable command.Flashes := inferInstanceAs (Decidable (_ ∧ _))

end SpecialCommand

/-- The payloads of a family since its last command with the first or the abort flag. -/
def uploaded (family : Family) (past : List SpecialCommand) : List UInt8 :=
  past.foldl (fun collected command =>
    if command.Of family then
      (if command.First ∨ command.Abort then [] else collected) ++ command.payload
    else collected) []

/-- The family whose payload `dataToFlash` was last given, or emptied for. -/
def owner (past : List SpecialCommand) : Option Family :=
  past.foldl (fun last command =>
    if command.First ∨ command.Abort ∨ command.payload ≠ [] then
      if command.Of .keyUpdate then some .keyUpdate
      else if command.Of .uploadMod then some .uploadMod
      else last
    else last) none

/-- What the reader is handed for a command, and what is read of the command. -/
structure UploadKept (entry : Entry (FlashContext × List SpecialCommand) SpecialCommand SpecialAnswer) :
    Prop where
  keys : ∀ data, .CtKeyUpdate data ∈ entry.answer.calls → data = uploaded .keyUpdate entry.after.2
  modules : ∀ data signature, .CtLoadModule data signature ∈ entry.answer.calls →
    data = uploaded .uploadMod entry.after.2 ∧ signature = uploaded .uploadSig entry.after.2
  inside : entry.answer.payload ≠ 0 → 5 + entry.answer.payload ≤ entry.input.cmd_len

/-- A block goes on with what the last block of its family began, or there is nothing yet. -/
def Continues (family : Family) (context : FlashContext) (past : List SpecialCommand) : Prop :=
  owner past = some family ∨ (context.dataToFlash = [] ∧ uploaded family past = [])

instance (family : Family) (context : FlashContext) (past : List SpecialCommand) :
    Decidable (Continues family context past) :=
  inferInstanceAs (Decidable (_ ∨ _))

/-- The payload lies inside the command, and keys and modules are not mixed. -/
structure UploadInOrder (state : FlashContext × List SpecialCommand) (command : SpecialCommand) : Prop where
  inside : ∀ family, command.Of family → ¬ command.Abort → 5 ≤ command.cmd_len →
    5 + (command.cmd 4).toNat ≤ command.cmd_len
  keys : command.Of .keyUpdate → ¬ command.First → ¬ command.Abort →
    (command.payload ≠ [] ∨ (command.Last ∧ 5 ≤ command.cmd_len)) → Continues .keyUpdate state.1 state.2
  modules : command.Of .uploadMod → ¬ command.First → ¬ command.Abort → command.payload ≠ [] →
    Continues .uploadMod state.1 state.2
  flashed : command.Flashes → state.1.dataToFlash ≠ [] → state.1.signatureToFlash ≠ [] →
    owner state.2 ≠ some .keyUpdate

/-- Without a reader nothing is gathered. -/
def UploadAllowed (state : FlashContext × List SpecialCommand) (command : SpecialCommand) : Prop :=
  state.1.reader = true → UploadInOrder state command

set_option synthInstance.maxSize 512 in
instance (state : FlashContext × List SpecialCommand) (command : SpecialCommand) :
    Decidable (UploadInOrder state command) :=
  decidable_of_iff
    ((∀ family ∈ [Family.keyUpdate, .uploadMod, .uploadSig], command.Of family → ¬ command.Abort →
        5 ≤ command.cmd_len → 5 + (command.cmd 4).toNat ≤ command.cmd_len) ∧
      (command.Of .keyUpdate → ¬ command.First → ¬ command.Abort →
        (command.payload ≠ [] ∨ (command.Last ∧ 5 ≤ command.cmd_len)) →
        Continues .keyUpdate state.1 state.2) ∧
      (command.Of .uploadMod → ¬ command.First → ¬ command.Abort → command.payload ≠ [] →
        Continues .uploadMod state.1 state.2) ∧
      (command.Flashes → state.1.dataToFlash ≠ [] → state.1.signatureToFlash ≠ [] →
        owner state.2 ≠ some .keyUpdate))
    ⟨fun all => ⟨fun family => all.1 family (by cases family <;> simp), all.2.1, all.2.2.1, all.2.2.2⟩,
      fun order => ⟨fun family _ => order.inside family, order.keys, order.modules, order.flashed⟩⟩

instance (state : FlashContext × List SpecialCommand) (command : SpecialCommand) :
    Decidable (UploadAllowed state command) :=
  inferInstanceAs (Decidable (_ → _))

/-! ## The strings -/

variable {context : FlashContext} {past : List SpecialCommand} {command : SpecialCommand} {family : Family}
  {string : List UInt8}

/-- What a block leaves of its string. -/
def gathered (string : List UInt8) (command : SpecialCommand) : List UInt8 :=
  (if command.First ∨ command.Abort then [] else string) ++ command.payload

theorem uploaded_snoc :
    uploaded family (past ++ [command]) =
      if command.Of family then gathered (uploaded family past) command else uploaded family past := by
  rw [uploaded, List.foldl_append]
  rfl

theorem owner_snoc :
    owner (past ++ [command]) =
      if command.First ∨ command.Abort ∨ command.payload ≠ [] then
        if command.Of .keyUpdate then some .keyUpdate
        else if command.Of .uploadMod then some .uploadMod
        else owner past
      else owner past := by
  rw [owner, List.foldl_append]
  rfl

theorem not_of_other {other : Family} (of : command.Of family) (different : other ≠ family) :
    ¬ command.Of other := by
  intro again
  have ins : other.ins = family.ins := again.2.symm.trans of.2
  cases family <;> cases other <;> first | exact different rfl | exact absurd ins (by decide)

theorem takeBlock_aborted (abort : command.Abort) : takeBlock string command = .aborted := by
  simp only [takeBlock, if_pos abort]

theorem payload_aborted (abort : command.Abort) : command.payload = [] := if_pos (.inl abort)

theorem payload_tooShort (short : command.cmd_len < 5) : command.payload = [] := if_pos (.inr short)

theorem payload_added (abort : ¬ command.Abort) (enough : ¬ command.cmd_len < 5) :
    command.payload = bytesAt command.cmd 5 (command.cmd 4).toNat := by
  rw [SpecialCommand.payload, if_neg (not_or.mpr ⟨abort, enough⟩)]

theorem takeBlock_tooShort (abort : ¬ command.Abort) (short : command.cmd_len < 5) :
    takeBlock string command = .tooShort (gathered string command) := by
  simp only [takeBlock, if_pos short, gathered, payload_tooShort short, abort, or_false, if_false,
    List.append_nil]

theorem takeBlock_added (abort : ¬ command.Abort) (enough : ¬ command.cmd_len < 5) :
    takeBlock string command = .added (gathered string command) (command.cmd 4).toNat := by
  simp only [takeBlock, if_neg enough, gathered, payload_added abort enough, abort, or_false, if_false]

theorem gathered_aborted (abort : command.Abort) : gathered string command = [] := by
  rw [gathered, if_pos (.inr abort), payload_aborted abort]
  rfl

/-- What the handlers do with a block, apart from what KEYUPDATE hands to the reader. -/
structure Gathers (command : SpecialCommand) (made : SpecialAnswer × FlashContext) (after : FlashContext)
    (calls : List ReaderCall) : Prop where
  left : made.2 = after
  calls : made.1.calls = calls
  payload : made.1.payload = 0 ∨
    (made.1.payload = (command.cmd 4).toNat ∧ ¬ command.Abort ∧ 5 ≤ command.cmd_len)

theorem uploadMod_gathers (reader : context.reader = true) :
    Gathers command (_specialUploadMod context command)
      { context with dataToFlash := gathered context.dataToFlash command } [] := by
  have present : ¬ context.reader = false := by
    rw [reader]
    decide
  by_cases abort : command.Abort
  · simp only [_specialUploadMod, if_neg present, takeBlock_aborted abort, gathered_aborted abort]
    exact ⟨rfl, rfl, .inl rfl⟩
  · by_cases short : command.cmd_len < 5
    · simp only [_specialUploadMod, if_neg present, takeBlock_tooShort abort short]
      exact ⟨rfl, rfl, .inl rfl⟩
    · simp only [_specialUploadMod, if_neg present, takeBlock_added abort short]
      exact ⟨rfl, rfl, .inr ⟨rfl, abort, by omega⟩⟩

theorem uploadSig_gathers (reader : context.reader = true) :
    Gathers command (_specialUploadSig context command)
      { context with signatureToFlash := gathered context.signatureToFlash command } [] := by
  have present : ¬ context.reader = false := by
    rw [reader]
    decide
  by_cases abort : command.Abort
  · simp only [_specialUploadSig, if_neg present, takeBlock_aborted abort, gathered_aborted abort]
    exact ⟨rfl, rfl, .inl rfl⟩
  · by_cases short : command.cmd_len < 5
    · simp only [_specialUploadSig, if_neg present, takeBlock_tooShort abort short]
      exact ⟨rfl, rfl, .inl rfl⟩
    · simp only [_specialUploadSig, if_neg present, takeBlock_added abort short]
      exact ⟨rfl, rfl, .inr ⟨rfl, abort, by omega⟩⟩

theorem keyUpdate_gathers (reader : context.reader = true) :
    Gathers command (_specialKeyUpdate context command)
      { context with dataToFlash := gathered context.dataToFlash command }
      (if command.Last ∧ ¬ command.Abort ∧ 5 ≤ command.cmd_len then
        [.CtKeyUpdate (gathered context.dataToFlash command)] else []) := by
  have present : ¬ context.reader = false := by
    rw [reader]
    decide
  by_cases abort : command.Abort
  · simp only [_specialKeyUpdate, if_neg present, takeBlock_aborted abort, gathered_aborted abort, abort]
    exact ⟨rfl, by simp, .inl rfl⟩
  · by_cases short : command.cmd_len < 5
    · have few : ¬ 5 ≤ command.cmd_len := by omega
      simp only [_specialKeyUpdate, if_neg present, takeBlock_tooShort abort short, few]
      exact ⟨rfl, by simp [invalid], .inl rfl⟩
    · have enough : 5 ≤ command.cmd_len := by omega
      simp only [_specialKeyUpdate, if_neg present, takeBlock_added abort short, abort, enough,
        not_false_eq_true, and_true]
      by_cases last : command.Last
      · simp only [if_pos last]
        split
        · exact ⟨rfl, rfl, .inr ⟨rfl, abort, enough⟩⟩
        · exact ⟨rfl, rfl, .inr ⟨rfl, abort, enough⟩⟩
      · simp only [if_neg last]
        exact ⟨rfl, rfl, .inr ⟨rfl, abort, enough⟩⟩

/-! ## A run -/

/-- The two strings hold what has been uploaded. -/
structure Holds (context : FlashContext) (past : List SpecialCommand) : Prop where
  signature : context.signatureToFlash = uploaded .uploadSig past
  data : ∀ family, owner past = some family → context.dataToFlash = uploaded family past
  nothing : owner past = none → context.dataToFlash = [] ∧ uploaded .keyUpdate past = [] ∧
    uploaded .uploadMod past = []

theorem owner_ne_uploadSig : owner past ≠ some .uploadSig := by
  induction past using List.reverseRecOn with
  | nil => simp [owner]
  | append_singleton past command ih =>
      rw [owner_snoc]
      split
      · split
        · simp
        · split
          · simp
          · exact ih
      · exact ih

theorem gathered_own (holds : Holds context past)
    (continues : ¬ command.First → ¬ command.Abort → Continues family context past) :
    gathered context.dataToFlash command = gathered (uploaded family past) command := by
  by_cases flagged : command.First ∨ command.Abort
  · simp only [gathered, if_pos flagged]
  · have plain := not_or.mp flagged
    rcases continues plain.1 plain.2 with owns | empty
    · rw [holds.data family owns]
    · rw [empty.1, empty.2]

theorem holds_data (holds : Holds context past) (of : command.Of family)
    (shared : family = .keyUpdate ∨ family = .uploadMod)
    (continues : ¬ command.First → ¬ command.Abort → command.payload ≠ [] → Continues family context past) :
    Holds { context with dataToFlash := gathered context.dataToFlash command } (past ++ [command]) := by
  have others (other : Family) (different : other ≠ family) :
      uploaded other (past ++ [command]) = uploaded other past := by
    rw [uploaded_snoc, if_neg (not_of_other of different)]
  have own : uploaded family (past ++ [command]) = gathered (uploaded family past) command := by
    rw [uploaded_snoc, if_pos of]
  have signature : uploaded .uploadSig (past ++ [command]) = uploaded .uploadSig past := by
    apply others
    rcases shared with keys | modules
    · rw [keys]
      decide
    · rw [modules]
      decide
  by_cases effective : command.First ∨ command.Abort ∨ command.payload ≠ []
  · have owned : owner (past ++ [command]) = some family := by
      rw [owner_snoc, if_pos effective]
      rcases shared with keys | modules
      · rw [keys] at of
        rw [if_pos of, keys]
      · rw [modules] at of
        rw [if_neg (not_of_other of (by decide)), if_pos of, modules]
    refine ⟨holds.signature.trans signature.symm, ?_, fun unowned => by rw [owned] at unowned; contradiction⟩
    intro other named
    rw [owned, Option.some.injEq] at named
    rw [← named, own]
    apply gathered_own holds
    intro first abort
    exact continues first abort ((effective.resolve_left first).resolve_left abort)
  · have plain : ¬ (command.First ∨ command.Abort) := fun flagged =>
      effective (flagged.imp_right .inl)
    have nothing : command.payload = [] := by
      by_contra some
      exact effective (.inr (.inr some))
    have unchanged (string : List UInt8) : gathered string command = string := by
      rw [gathered, if_neg plain, nothing, List.append_nil]
    have uploads (other : Family) : uploaded other (past ++ [command]) = uploaded other past := by
      by_cases same : other = family
      · rw [same, own, unchanged]
      · exact others other same
    have owned : owner (past ++ [command]) = owner past := by
      rw [owner_snoc, if_neg effective]
    rw [unchanged]
    refine ⟨holds.signature.trans (uploads _).symm, ?_, ?_⟩
    · intro other named
      rw [owned] at named
      rw [uploads]
      exact holds.data other named
    · rw [owned, uploads, uploads]
      exact holds.nothing

theorem holds_signature (holds : Holds context past) (of : command.Of .uploadSig) :
    Holds { context with signatureToFlash := gathered context.signatureToFlash command } (past ++ [command]) := by
  have others (other : Family) (different : other ≠ .uploadSig) :
      uploaded other (past ++ [command]) = uploaded other past := by
    rw [uploaded_snoc, if_neg (not_of_other of different)]
  have owned : owner (past ++ [command]) = owner past := by
    rw [owner_snoc, if_neg (not_of_other of (by decide)), if_neg (not_of_other of (by decide)), ite_self]
  refine ⟨?_, ?_, ?_⟩
  · rw [uploaded_snoc, if_pos of, ← holds.signature]
  · intro family named
    rw [owned] at named
    have shared : family ≠ .uploadSig := by
      intro sig
      rw [sig] at named
      exact owner_ne_uploadSig named
    rw [others family shared]
    exact holds.data family named
  · rw [owned, others _ (by decide), others _ (by decide)]
    exact holds.nothing

theorem holds_other (holds : Holds context past) (other : ∀ family, ¬ command.Of family) :
    Holds context (past ++ [command]) := by
  have uploads (family : Family) : uploaded family (past ++ [command]) = uploaded family past := by
    rw [uploaded_snoc, if_neg (other family)]
  have owned : owner (past ++ [command]) = owner past := by
    rw [owner_snoc, if_neg (other _), if_neg (other _), ite_self]
  refine ⟨holds.signature.trans (uploads _).symm, ?_, ?_⟩
  · intro family named
    rw [owned] at named
    rw [uploads]
    exact holds.data family named
  · rw [owned, uploads, uploads]
    exact holds.nothing

/-! ## A run -/

/-- The strings of a context with a reader hold what has been uploaded. -/
def Gathered (state : FlashContext × List SpecialCommand) : Prop :=
  state.1.reader = true → Holds state.1 state.2

theorem inside_of_gathers {made : SpecialAnswer × FlashContext} {after : FlashContext}
    {calls : List ReaderCall} (gathers : Gathers command made after calls) (of : command.Of family)
    (order : UploadInOrder (context, past) command) (read : made.1.payload ≠ 0) :
    5 + made.1.payload ≤ command.cmd_len := by
  rcases gathers.payload with none | ⟨length, abort, enough⟩
  · contradiction
  · rw [length]
    exact order.inside family of abort enough

theorem CT_special_unread (reader : context.reader = false) :
    (CT_special context command).1.calls = [] ∧ (CT_special context command).1.payload = 0 ∧
      (CT_special context command).2 = context := by
  simp only [CT_special, _specialKeyUpdate, _specialUploadMod, _specialUploadSig, _specialUploadFlash, reader,
    if_true]
  split
  · exact ⟨rfl, rfl, rfl⟩
  · split
    · exact ⟨rfl, rfl, rfl⟩
    · split
      · exact ⟨rfl, rfl, rfl⟩
      · split
        · exact ⟨rfl, rfl, rfl⟩
        · split
          · exact ⟨rfl, rfl, rfl⟩
          · exact ⟨rfl, rfl, rfl⟩

/-- The family of a command decides what becomes of it. -/
inductive Dispatch (context : FlashContext) (command : SpecialCommand) : Prop where
  | keys (of : command.Of .keyUpdate) (made : CT_special context command = _specialKeyUpdate context command)
  | modules (of : command.Of .uploadMod) (made : CT_special context command = _specialUploadMod context command)
  | signature (of : command.Of .uploadSig)
      (made : CT_special context command = _specialUploadSig context command)
  | flash (of : command.Flashes) (made : CT_special context command = _specialUploadFlash context command)
  | otherwise (other : ∀ family, ¬ command.Of family) (calls : (CT_special context command).1.calls = [])
      (payload : (CT_special context command).1.payload = 0) (left : (CT_special context command).2 = context)

theorem dispatched (context : FlashContext) (command : SpecialCommand) : Dispatch context command := by
  by_cases cla : command.cmd 0 = CJ_SPECIAL_CLA
  · have entered : ¬ command.cmd 0 ≠ CJ_SPECIAL_CLA := not_not.mpr cla
    by_cases keys : command.cmd 1 = CJ_SPECIAL_INS_KEYUPDATE
    · exact .keys ⟨cla, keys⟩ (by rw [CT_special, if_neg entered, if_pos keys])
    · by_cases modules : command.cmd 1 = CJ_SPECIAL_INS_UPLOADMOD
      · exact .modules ⟨cla, modules⟩ (by rw [CT_special, if_neg entered, if_neg keys, if_pos modules])
      · by_cases signature : command.cmd 1 = CJ_SPECIAL_INS_UPLOADSIG
        · exact .signature ⟨cla, signature⟩
            (by rw [CT_special, if_neg entered, if_neg keys, if_neg modules, if_pos signature])
        · by_cases flash : command.cmd 1 = CJ_SPECIAL_INS_UPLOADFLASH
          · exact .flash ⟨cla, flash⟩
              (by rw [CT_special, if_neg entered, if_neg keys, if_neg modules, if_neg signature, if_pos flash])
          · have made : CT_special context command = (⟨command.other, [], [], 0⟩, context) := by
              rw [CT_special, if_neg entered, if_neg keys, if_neg modules, if_neg signature, if_neg flash]
            refine .otherwise ?_ (by rw [made]) (by rw [made]) (by rw [made])
            intro family of
            cases family
            · exact keys of.2
            · exact modules of.2
            · exact signature of.2
  · have made : CT_special context command = (invalid 0, context) := by
      rw [CT_special, if_pos cla]
    exact .otherwise (fun _ of => cla of.1) (by rw [made, invalid]) (by rw [made, invalid]) (by rw [made])

/-- A command as an entry of a run. -/
def entryOf (context : FlashContext) (past : List SpecialCommand) (command : SpecialCommand)
    (made : SpecialAnswer × FlashContext) :
    Entry (FlashContext × List SpecialCommand) SpecialCommand SpecialAnswer :=
  ⟨(context, past), command, made.1, (made.2, past ++ [command])⟩

theorem kept_uncalled {made : SpecialAnswer × FlashContext} (calls : made.1.calls = [])
    (inside : made.1.payload ≠ 0 → 5 + made.1.payload ≤ command.cmd_len) :
    UploadKept (entryOf context past command made) := by
  constructor
  · intro data handed
    simp only [entryOf, calls, List.not_mem_nil] at handed
  · intro data signature handed
    simp only [entryOf, calls, List.not_mem_nil] at handed
  · exact inside

theorem kept_of_nothing {made : SpecialAnswer × FlashContext} (calls : made.1.calls = [])
    (payload : made.1.payload = 0) : UploadKept (entryOf context past command made) :=
  kept_uncalled calls fun read => absurd payload read

theorem keyUpdate_kept (holds : Holds context past) (order : UploadInOrder (context, past) command)
    (of : command.Of .keyUpdate) (reader : context.reader = true) :
    UploadKept (entryOf context past command (_specialKeyUpdate context command)) ∧
      Holds (_specialKeyUpdate context command).2 (past ++ [command]) := by
  have gathers := @keyUpdate_gathers context command reader
  constructor
  · refine ⟨?_, ?_, fun read => inside_of_gathers gathers of order read⟩
    · intro data handed
      simp only [entryOf, gathers.calls] at handed
      split at handed
      · rename_i last
        rw [List.mem_singleton, ReaderCall.CtKeyUpdate.injEq] at handed
        simp only [entryOf]
        rw [handed, uploaded_snoc, if_pos of]
        apply gathered_own holds
        intro first abort
        exact order.keys of first abort (.inr ⟨last.1, last.2.2⟩)
      · contradiction
    · intro data signature handed
      simp only [entryOf, gathers.calls] at handed
      split at handed <;> simp at handed
  · rw [gathers.left]
    apply holds_data holds of (.inl rfl)
    intro first abort some
    exact order.keys of first abort (.inl some)

theorem uploadMod_kept (holds : Holds context past) (order : UploadInOrder (context, past) command)
    (of : command.Of .uploadMod) (reader : context.reader = true) :
    UploadKept (entryOf context past command (_specialUploadMod context command)) ∧
      Holds (_specialUploadMod context command).2 (past ++ [command]) := by
  have gathers := @uploadMod_gathers context command reader
  constructor
  · exact kept_uncalled gathers.calls (inside_of_gathers gathers of order)
  · rw [gathers.left]
    exact holds_data holds of (.inr rfl) (order.modules of)

theorem uploadSig_kept (holds : Holds context past) (order : UploadInOrder (context, past) command)
    (of : command.Of .uploadSig) (reader : context.reader = true) :
    UploadKept (entryOf context past command (_specialUploadSig context command)) ∧
      Holds (_specialUploadSig context command).2 (past ++ [command]) := by
  have gathers := @uploadSig_gathers context command reader
  constructor
  · exact kept_uncalled gathers.calls (inside_of_gathers gathers of order)
  · rw [gathers.left]
    exact holds_signature holds of

theorem not_of_flashes (flashes : command.Flashes) : ¬ command.Of family := by
  intro of
  have ins := of.2.symm.trans flashes.2
  cases family <;> exact absurd ins (by decide)

theorem uploadFlash_kept (holds : Holds context past) (order : UploadInOrder (context, past) command)
    (of : command.Flashes) (reader : context.reader = true) :
    UploadKept (entryOf context past command (_specialUploadFlash context command)) ∧
      Holds (_specialUploadFlash context command).2 (past ++ [command]) := by
  have present : ¬ context.reader = false := by
    rw [reader]
    decide
  have left : Holds context (past ++ [command]) := holds_other holds fun _ => not_of_flashes of
  by_cases empty : context.dataToFlash.length < 1 ∨ context.signatureToFlash.length < 1
  · have made : _specialUploadFlash context command = (invalid 0, context) := by
      rw [_specialUploadFlash, if_neg present, if_pos empty]
    rw [made]
    exact ⟨kept_of_nothing rfl rfl, left⟩
  · have filled := not_or.mp empty
    have data : context.dataToFlash ≠ [] := by
      intro none
      simp [none] at filled
    have signature : context.signatureToFlash ≠ [] := by
      intro none
      simp [none] at filled
    -- what stands there is a module, since nothing else than keys could be
    have modules : context.dataToFlash = uploaded .uploadMod past := by
      cases named : owner past with
      | none => exact absurd (holds.nothing named).1 data
      | some family =>
          cases family with
          | keyUpdate => exact absurd named (order.flashed of data signature)
          | uploadMod => exact holds.data .uploadMod named
          | uploadSig => exact absurd named owner_ne_uploadSig
    have answer : (_specialUploadFlash context command).2 = context ∧
        (_specialUploadFlash context command).1.calls =
          [.CtLoadModule context.dataToFlash context.signatureToFlash] ∧
        (_specialUploadFlash context command).1.payload = 0 := by
      rw [_specialUploadFlash, if_neg present, if_neg empty]
      by_cases success : command.success = true
      · simp only [if_pos success, and_self]
      · simp only [if_neg success, and_self]
    rw [answer.1]
    refine ⟨⟨?_, ?_, fun read => absurd answer.2.2 read⟩, left⟩
    · intro keys handed
      simp [entryOf, answer.2.1] at handed
    · intro handedData handedSignature handed
      simp only [entryOf, answer.2.1, List.mem_singleton, ReaderCall.CtLoadModule.injEq] at handed
      simp only [entryOf, uploaded_snoc, if_neg (not_of_flashes of)]
      rw [handed.1, handed.2]
      exact ⟨modules, holds.signature⟩

/-- A command in order hands over what was uploaded, and the strings hold what is. -/
theorem specialCommands_kept {state : FlashContext × List SpecialCommand} (gathered : Gathered state)
    (allowed : UploadAllowed state command) :
    UploadKept (specialCommands.entry state command) ∧ Gathered (specialCommands state command).2 := by
  obtain ⟨context, past⟩ := state
  by_cases reader : context.reader = true
  · have holds : Holds context past := gathered reader
    have order : UploadInOrder (context, past) command := allowed reader
    have both : UploadKept (entryOf context past command (CT_special context command)) ∧
        Holds (CT_special context command).2 (past ++ [command]) := by
      cases dispatched context command with
      | keys of made =>
          rw [made]
          exact keyUpdate_kept holds order of reader
      | modules of made =>
          rw [made]
          exact uploadMod_kept holds order of reader
      | signature of made =>
          rw [made]
          exact uploadSig_kept holds order of reader
      | flash of made =>
          rw [made]
          exact uploadFlash_kept holds order of reader
      | otherwise other calls payload left =>
          rw [left]
          exact ⟨kept_of_nothing calls payload, holds_other holds other⟩
    exact ⟨both.1, fun _ => both.2⟩
  · have unread := @CT_special_unread context command (Bool.eq_false_iff.mpr reader)
    refine ⟨kept_of_nothing unread.1 unread.2.1, fun present => absurd ?_ reader⟩
    change (CT_special context command).2.reader = true at present
    rw [← unread.2.2]
    exact present

theorem gathered_fresh (reader : Bool) : Gathered (freshContext reader) := by
  intro _
  refine ⟨rfl, ?_, fun _ => ⟨rfl, rfl, rfl⟩⟩
  intro family named
  simp [freshContext, owner] at named

/-- Commands in order: modules, signatures and keys reach the reader as they were uploaded. -/
theorem uploads_kept (reader : Bool) (commands : List SpecialCommand)
    (allowed : Keeps UploadAllowed (history specialCommands (freshContext reader) commands)) :
    ∀ entry ∈ history specialCommands (freshContext reader) commands, UploadKept entry :=
  history_good (fun _ _ => specialCommands_kept) (gathered_fresh reader) allowed

/-- A command with its INS, its flags and its payload. -/
def specialCommand (ins flags : UInt8) (payload : List UInt8) : SpecialCommand :=
  ⟨fun place => (CJ_SPECIAL_CLA :: ins :: flags :: 0 :: payload.length.toUInt8 :: payload).getD place 0,
    5 + payload.length, true, 0⟩

/-- A module of two blocks and its signature. -/
def moduleCommands : List SpecialCommand :=
  [specialCommand CJ_SPECIAL_INS_UPLOADMOD 0x20 [1, 2], specialCommand CJ_SPECIAL_INS_UPLOADMOD 0 [3],
    specialCommand CJ_SPECIAL_INS_UPLOADSIG 0x20 [7], specialCommand CJ_SPECIAL_INS_UPLOADFLASH 0 []]

theorem moduleCommands_kept :
    Keeps UploadAllowed (history specialCommands (freshContext true) moduleCommands) ∧
      ∀ entry ∈ history specialCommands (freshContext true) moduleCommands, UploadKept entry :=
  ⟨by decide, uploads_kept true moduleCommands (by decide)⟩

/-- A block of keys behind a module and its signature. -/
def mixedCommands : List SpecialCommand :=
  [specialCommand CJ_SPECIAL_INS_UPLOADMOD 0x20 [1, 2], specialCommand CJ_SPECIAL_INS_UPLOADSIG 0x20 [7],
    specialCommand CJ_SPECIAL_INS_KEYUPDATE 0x20 [9], specialCommand CJ_SPECIAL_INS_UPLOADFLASH 0 []]

/-- The keys are flashed as a module. -/
theorem mixedCommands_not_kept :
    ¬ ∀ entry ∈ history specialCommands (freshContext true) mixedCommands, UploadKept entry := by
  intro all
  have flashed := all
    (specialCommands.entry (final specialCommands (freshContext true) (mixedCommands.take 3))
      (specialCommand CJ_SPECIAL_INS_UPLOADFLASH 0 []))
    (.tail _ (.tail _ (.tail _ (.head _))))
  have handed := flashed.modules [9] [7] (by decide)
  exact absurd handed.1 (by decide)

end Cyberjack.Ctapi
