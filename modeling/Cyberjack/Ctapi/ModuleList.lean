import Cyberjack.Ctapi.Upload

namespace Cyberjack.Ctapi

open Cyberjack.Foundation Cyberjack.Eca

/-! # The modules of the reader

`_specialGetModuleCount`, `_specialGetModuleInfo` and the commands that change the
modules, on the copy of the module table that a context keeps.
-/

def SCARD_AUTOALLOCATE : UInt32 := 0xffffffff

/-- `sizeof(cj_ModuleInfo)`: twelve words and 35 characters, with a byte behind them. -/
def sizeofModuleInfo : Nat := 12 * 4 + (17 + 12 + 6) + 1

structure ModuleInfo where
  bytes : List UInt8
  size : bytes.length = sizeofModuleInfo
deriving DecidableEq

/-- `m_Reader` is the module table of the reader, none where the device is lost. -/
structure ModuleContext where
  flash : FlashContext
  m_Reader : Option (List ModuleInfo)
  moduleCount : UInt32
  moduleList : Option (List ModuleInfo)

/-- `rebuilt` is the module table behind a call that flashes or deletes. -/
structure ModuleCommand where
  special : SpecialCommand
  response_len : Nat
  rebuilt : Option (List ModuleInfo)

/-- `outside` is a read behind the list. -/
inductive ModuleAnswer where
  | answer (rv : Int) (response : List UInt8)
  | outside
deriving Repr, DecidableEq

def CJ_SPECIAL_INS_DELETEALLMODS : UInt8 := 0x20

def CJ_SPECIAL_INS_GETMODCOUNT : UInt8 := 0x31

def CJ_SPECIAL_INS_GETMODINFO : UInt8 := 0x32

/-- Whether it succeeds, `*Count`, and the list that is filled. -/
def CtListModules (m_Reader : Option (List ModuleInfo)) (Count : UInt32) (moduleList : Option (List ModuleInfo)) :
    Bool × UInt32 × Option (List ModuleInfo) :=
  match m_Reader with
  | none => (false, 0, moduleList)
  | some table =>
      let m_ModuleInfoCount := UInt32.ofNat table.length
      if Count = SCARD_AUTOALLOCATE then (true, m_ModuleInfoCount, some table)
      else if Count < m_ModuleInfoCount then (false, m_ModuleInfoCount, moduleList)
      else (true, m_ModuleInfoCount, some table)

/-- The list is asked for where the count says that there is none. -/
def refreshed (context : ModuleContext) : Bool × ModuleContext :=
  if context.moduleCount = SCARD_AUTOALLOCATE then
    let (success, moduleCount, moduleList) := CtListModules context.m_Reader context.moduleCount none
    (success, { context with moduleCount, moduleList })
  else (true, context)

def _specialGetModuleCount (context : ModuleContext) (command : ModuleCommand) : ModuleAnswer × ModuleContext :=
  if command.response_len < 3 then (.answer (-11) [], context)
  else if context.flash.reader = true then
    match refreshed context with
    | (false, context) => (.answer (-8) [], context)
    | (true, context) =>
        let count := if context.moduleCount < 256 then UInt8.ofNat context.moduleCount.toNat else 255
        (.answer 0 [count, 0x90, 0x00], context)
  else (.answer 0 [0, 0x90, 0x00], context)

def _specialGetModuleInfo (context : ModuleContext) (command : ModuleCommand) : ModuleAnswer × ModuleContext :=
  if context.flash.reader = false then (.answer (-1) [], context)
  else
    match refreshed context with
    | (false, context) => (.answer (-8) [], context)
    | (true, context) =>
        let idx := (command.special.cmd 2).toNat
        if context.moduleCount.toNat ≤ idx then (.answer 0 [0x62, 0x82], context)
        else if command.response_len < 2 + sizeofModuleInfo then (.answer (-11) [], context)
        else
          match (context.moduleList.getD [])[idx]? with
          | none => (.outside, context)
          | some info => (.answer 0 (info.bytes ++ [0x90, 0x00]), context)

def _specialDeleteAllMods (context : ModuleContext) (command : ModuleCommand) : ModuleAnswer × ModuleContext :=
  if context.flash.reader = false then (.answer (-1) [], context)
  else
    let answer := if command.special.success = true then ModuleAnswer.answer 0 [0x90, 0x00] else .answer (-8) []
    (answer, { context with m_Reader := command.rebuilt })

/-- The commands that do not know the list; the table is built again where the reader is called. -/
def otherCommand (context : ModuleContext) (command : ModuleCommand) : ModuleAnswer × ModuleContext :=
  let (answer, flash) := CT_special context.flash command.special
  let m_Reader := if answer.calls ≠ [] then command.rebuilt else context.m_Reader
  (.answer answer.rv answer.response, { context with flash, m_Reader })

def listCommands : Machine ModuleContext ModuleCommand ModuleAnswer := fun context command =>
  if command.special.cmd 0 ≠ CJ_SPECIAL_CLA then otherCommand context command
  else if command.special.cmd 1 = CJ_SPECIAL_INS_DELETEALLMODS then _specialDeleteAllMods context command
  else if command.special.cmd 1 = CJ_SPECIAL_INS_GETMODCOUNT then _specialGetModuleCount context command
  else if command.special.cmd 1 = CJ_SPECIAL_INS_GETMODINFO then _specialGetModuleInfo context command
  else otherCommand context command

/-- `Ctapi_Context()`, with the reader that `CT_init` gives it. -/
def newContext (modules : List ModuleInfo) : ModuleContext := ⟨⟨true, [], []⟩, some modules, 0, none⟩

namespace ModuleCommand

def Counts (command : ModuleCommand) : Prop :=
  command.special.cmd 0 = CJ_SPECIAL_CLA ∧ command.special.cmd 1 = CJ_SPECIAL_INS_GETMODCOUNT

def AsksInfo (command : ModuleCommand) : Prop :=
  command.special.cmd 0 = CJ_SPECIAL_CLA ∧ command.special.cmd 1 = CJ_SPECIAL_INS_GETMODINFO

/-- The index that is asked for. -/
def idx (command : ModuleCommand) : Nat := (command.special.cmd 2).toNat

end ModuleCommand

/-- The module table of the reader. -/
def ModuleContext.table (context : ModuleContext) : List ModuleInfo := context.m_Reader.getD []

/-- The count and the entries are those of the reader, where the caller has room for them. -/
structure Listed (entry : Entry ModuleContext ModuleCommand ModuleAnswer) : Prop where
  count : entry.input.Counts → 3 ≤ entry.input.response_len →
    entry.answer = .answer 0 [UInt8.ofNat (min entry.before.table.length 255), 0x90, 0x00]
  behind : entry.input.AsksInfo →
    (entry.answer = .answer 0 [0x62, 0x82] ↔ entry.before.table.length ≤ entry.input.idx)
  info : entry.input.AsksInfo → 2 + sizeofModuleInfo ≤ entry.input.response_len →
    ∀ info, entry.before.table[entry.input.idx]? = some info → entry.answer = .answer 0 (info.bytes ++ [0x90, 0x00])

/-- There is nothing to list. -/
structure NothingListed (context : ModuleContext) (command : ModuleCommand) : Prop where
  count : command.Counts → 3 ≤ command.response_len → context.table = []
  info : command.AsksInfo → context.table.length ≤ command.idx

/-- The count of a new context, which is not the value that asks for the list. -/
structure Unlisted (context : ModuleContext) : Prop where
  reader : context.flash.reader = true
  count : context.moduleCount = 0

/-! ## The list is never asked for -/

section Commands

variable {context : ModuleContext} {command : ModuleCommand}

theorem special_reader (flash : FlashContext) (special : SpecialCommand) :
    (CT_special flash special).2.reader = flash.reader := by
  have keys : (_specialKeyUpdate flash special).2.reader = flash.reader := by
    unfold _specialKeyUpdate
    split
    · rfl
    · cases takeBlock flash.dataToFlash special with
      | aborted | tooShort => rfl
      | added =>
          dsimp only
          split
          · split <;> rfl
          · rfl
  have modules : (_specialUploadMod flash special).2.reader = flash.reader := by
    unfold _specialUploadMod
    cases takeBlock flash.dataToFlash special <;> split <;> rfl
  have signature : (_specialUploadSig flash special).2.reader = flash.reader := by
    unfold _specialUploadSig
    cases takeBlock flash.signatureToFlash special <;> split <;> rfl
  have flashes : (_specialUploadFlash flash special).2.reader = flash.reader := by
    unfold _specialUploadFlash
    split
    · rfl
    · split <;> rfl
  unfold CT_special
  split
  · rfl
  · split
    · exact keys
    · split
      · exact modules
      · split
        · exact signature
        · split
          · exact flashes
          · rfl

theorem refreshed_unlisted (unlisted : Unlisted context) : refreshed context = (true, context) := by
  unfold refreshed
  rw [unlisted.count, if_neg (by decide)]

theorem getModuleCount_unlisted (unlisted : Unlisted context) (room : 3 ≤ command.response_len) :
    _specialGetModuleCount context command = (.answer 0 [0, 0x90, 0x00], context) := by
  unfold _specialGetModuleCount
  rw [if_neg (Nat.not_lt.mpr room), if_pos unlisted.reader, refreshed_unlisted unlisted]
  dsimp only
  rw [unlisted.count]
  rfl

theorem getModuleInfo_unlisted (unlisted : Unlisted context) :
    _specialGetModuleInfo context command = (.answer 0 [0x62, 0x82], context) := by
  have reader : ¬ context.flash.reader = false := by
    rw [unlisted.reader]
    decide
  unfold _specialGetModuleInfo
  rw [if_neg reader, refreshed_unlisted unlisted]
  dsimp only
  rw [unlisted.count, if_pos]
  exact Nat.zero_le _

theorem listCommands_unlisted (unlisted : Unlisted context) : Unlisted (listCommands context command).2 := by
  have other : Unlisted (otherCommand context command).2 :=
    ⟨(special_reader context.flash command.special).trans unlisted.reader, unlisted.count⟩
  unfold listCommands
  split
  · exact other
  · split
    · unfold _specialDeleteAllMods
      split
      · exact unlisted
      · exact ⟨unlisted.reader, unlisted.count⟩
    · split
      · by_cases room : 3 ≤ command.response_len
        · rw [getModuleCount_unlisted unlisted room]
          exact unlisted
        · rw [_specialGetModuleCount, if_pos (by omega)]
          exact unlisted
      · split
        · rw [getModuleInfo_unlisted unlisted]
          exact unlisted
        · exact other

theorem listCommands_counts (counts : command.Counts) :
    listCommands context command = _specialGetModuleCount context command := by
  unfold listCommands
  rw [if_neg (not_not.mpr counts.1), counts.2, if_neg (by decide), if_pos rfl]

theorem listCommands_info (asks : command.AsksInfo) :
    listCommands context command = _specialGetModuleInfo context command := by
  unfold listCommands
  rw [if_neg (not_not.mpr asks.1), asks.2, if_neg (by decide), if_neg (by decide), if_pos rfl]

theorem count_zero_iff (table : List ModuleInfo) :
    (0 : UInt8) = UInt8.ofNat (min table.length 255) ↔ table = [] := by
  constructor
  · intro same
    have numbers := congrArg UInt8.toNat same
    rw [UInt8.toNat_ofNat'] at numbers
    change 0 = _ at numbers
    exact List.length_eq_zero_iff.mp (by omega)
  · intro none
    rw [none]
    rfl

theorem listed_iff (unlisted : Unlisted context) :
    Listed (listCommands.entry context command) ↔ NothingListed context command := by
  constructor
  · intro listed
    constructor
    · intro counts room
      have answered : (listCommands context command).1 = _ := listed.count counts room
      rw [listCommands_counts counts, getModuleCount_unlisted unlisted room] at answered
      simp only [ModuleAnswer.answer.injEq, List.cons.injEq] at answered
      exact (count_zero_iff context.table).mp answered.2.1
    · intro asks
      apply (listed.behind asks).mp
      change (listCommands context command).1 = _
      rw [listCommands_info asks, getModuleInfo_unlisted unlisted]
  · intro nothing
    constructor
    · dsimp only [Machine.entry]
      intro counts room
      rw [listCommands_counts counts, getModuleCount_unlisted unlisted room,
        ← (count_zero_iff context.table).mpr (nothing.count counts room)]
    · dsimp only [Machine.entry]
      intro asks
      rw [listCommands_info asks, getModuleInfo_unlisted unlisted]
      exact ⟨fun _ => nothing.info asks, fun _ => rfl⟩
    · dsimp only [Machine.entry]
      intro asks room info found
      rw [List.getElem?_eq_none (nothing.info asks)] at found
      contradiction

end Commands

/-- In every run on a new context the modules of the reader are listed if and only if there is
nothing to list. -/
theorem modules_listed_iff (modules : List ModuleInfo) (commands : List ModuleCommand) :
    (∀ entry ∈ history listCommands (newContext modules) commands, Listed entry) ↔
      Keeps NothingListed (history listCommands (newContext modules) commands) := by
  apply history_iff (fun context command unlisted => listed_iff unlisted)
  · exact fun context command unlisted _ => listCommands_unlisted unlisted
  · exact ⟨rfl, rfl⟩

/-- The entry of the kernel. -/
def kernelInfo : ModuleInfo := ⟨List.replicate sizeofModuleInfo 0x01, rfl⟩

/-- GETMODCOUNT, and GETMODINFO with index 0. -/
def listing : List ModuleCommand :=
  [0x31, 0x32].map fun ins =>
    ⟨⟨fun offset => if offset = 0 then 0x30 else if offset = 1 then ins else 0, 4, true, 0⟩, 256, none⟩

/-- The reader has its kernel, and yet there is nothing in the list. -/
theorem kernel_not_listed :
    (history listCommands (newContext [kernelInfo]) listing).map (fun entry => entry.answer) =
        [.answer 0 [0, 0x90, 0x00], .answer 0 [0x62, 0x82]] ∧
      ¬ ∀ entry ∈ history listCommands (newContext [kernelInfo]) listing, Listed entry := by
  refine ⟨rfl, ?_⟩
  intro every
  have counted := (every _ List.mem_cons_self).count ⟨rfl, rfl⟩ (by decide)
  exact absurd counted (by decide)

end Cyberjack.Ctapi
