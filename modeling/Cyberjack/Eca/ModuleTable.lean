import Cyberjack.Eca.CtData
import Cyberjack.Eca.Transfer

namespace Cyberjack.Eca.Modules

open Cyberjack.Foundation

/-! # The module table

`BuildModuleInfo` of `EC30Reader.cpp` and the functions of `BaseReader.cpp` that
search and copy the table.
-/

/-- The answer to CCID_ESCAPE_MODULE_INFO. -/
structure cjeca_ModuleInfo where
  Status : UInt32
  ModuleID : UInt32
  ModuleBaseAddr : UInt32
  ModuleCodeSize : UInt32
  ProductionDate : List UInt8
  ProductionTime : List UInt8
  Version : UInt8
  Revision : UInt8
  RequieredKernelVersion : UInt8
  RequieredKernelRevision : UInt8
  GlobalHeapSize : UInt8
  Variante : UInt8
  Description : List UInt8
deriving Repr, DecidableEq

structure cj_ModuleInfo where
  SizeOfStruct : UInt32
  ContentsMask : UInt32
  Status : UInt32
  ID : UInt32
  Variant : UInt32
  BaseAddr : UInt32
  CodeSize : UInt32
  Version : UInt32
  Revision : UInt32
  RequieredKernelVersion : UInt32
  RequieredKernelRevision : UInt32
  HeapSize : UInt32
  Description : List UInt8
  Date : List UInt8
  Time : List UInt8
deriving Repr, DecidableEq

/-- An entry that a request has filled, one that only `memset` has, and one that nothing has. -/
inductive Slot where
  | filled (Info : cj_ModuleInfo)
  | blank
  | unset (ID : UInt32)
deriving Repr, DecidableEq

def Slot.ID : Slot → UInt32
  | .filled Info => Info.ID
  | .blank => 0xffffffff
  | .unset ID => ID

def Slot.Filled (slot : Slot) : Prop := ∃ Info, slot = .filled Info

/-- The answers of the reader: the words in `help`, and the information by number and ID. -/
structure Reader where
  help : Except CjError (Nat → UInt32)
  info : Nat → UInt32 → Except CjError cjeca_ModuleInfo

structure Table where
  m_pModuleInfo : Option (List Slot)
  m_ModuleInfoCount : Nat

def MODULE_ID_KERNEL : UInt32 := 0x01000001

/-- At most 32 modules, behind their number. -/
def GetModuleIDs (reader : Reader) : Except CjError (List UInt32) :=
  match reader.help with
  | .error Res => .error Res
  | .ok help => .ok ((List.range (min (help 0).toNat 32)).map fun index => help (index + 1))

/-- `memcpy` of characters, and a zero. -/
def text (characters : List UInt8) (count : Nat) : List UInt8 := bytesAt (inMemory characters) 0 count ++ [0]

/-- The entry for an answer. -/
def GetModuleInfo (ModuleInfo : cjeca_ModuleInfo) : cj_ModuleInfo where
  SizeOfStruct := 84
  ContentsMask := 0xfff
  Status := ModuleInfo.Status
  ID := ModuleInfo.ModuleID
  Variant := ModuleInfo.Variante.toUInt32
  BaseAddr := ModuleInfo.ModuleBaseAddr
  CodeSize := ModuleInfo.ModuleCodeSize
  Version := ModuleInfo.Version.toUInt32
  Revision := ModuleInfo.Revision.toUInt32
  RequieredKernelVersion := ModuleInfo.RequieredKernelVersion.toUInt32
  RequieredKernelRevision := ModuleInfo.RequieredKernelRevision.toUInt32
  HeapSize := ModuleInfo.GlobalHeapSize.toUInt32
  Description := text ModuleInfo.Description 16
  Date := text ModuleInfo.ProductionDate 11
  Time := text ModuleInfo.ProductionTime 5

/-- The loop over the IDs, with what stands in the new array behind the first failure. -/
def fill (reader : Reader) (fresh : Nat → UInt32) : Nat → List UInt32 → List Slot × Option CjError
  | _, [] => ([], none)
  | i, ID :: rest =>
      match reader.info i ID with
      | .error Res => (.blank :: (List.range rest.length).map fun index => .unset (fresh (i + 1 + index)), some Res)
      | .ok ModuleInfo =>
          let later := fill reader fresh (i + 1) rest
          (.filled (GetModuleInfo ModuleInfo) :: later.1, later.2)

/-- The table afterwards, and the result. -/
def BuildModuleInfo (table : Table) (reader : Reader) (fresh : Nat → UInt32) : Table × Option CjError :=
  match GetModuleIDs reader with
  | .error Res => ({ table with m_ModuleInfoCount := 0 }, some Res)
  | .ok IDs =>
      let filled := fill reader fresh 0 (MODULE_ID_KERNEL :: IDs)
      (⟨some filled.1, IDs.length + 1⟩, filled.2)

/-! ## Looking at the table -/

/-- The first of `count` entries with the ID; no result where one behind the array is looked at. -/
def search (wanted : UInt32 → Bool) : Nat → List Slot → Option (Option Slot)
  | 0, _ => some none
  | _ + 1, [] => none
  | count + 1, slot :: rest => if wanted slot.ID then some (some slot) else search wanted count rest

def searchTable (table : Table) (wanted : UInt32 → Bool) : Option (Option Slot) :=
  match table.m_pModuleInfo with
  | none => some none
  | some entries => search wanted table.m_ModuleInfoCount entries

def FindModule (table : Table) (ModuleID : UInt32) : Option (Option Slot) := searchTable table fun ID => ID == ModuleID

def FindModuleWithMask (table : Table) (ModuleID Mask : UInt32) : Option (Option Slot) :=
  searchTable table fun ID => ID &&& Mask == ModuleID

def SCARD_AUTOALLOCATE : Nat := 0xffffffff

/-- Whether it succeeds, `*Count`, and the entries copied; no result where one behind the array is copied. -/
def CtListModules (table : Table) (Count : Nat) : Option (Bool × Nat × List Slot) :=
  let entries := table.m_pModuleInfo.getD []
  if Count ≠ SCARD_AUTOALLOCATE ∧ Count < table.m_ModuleInfoCount then some (false, table.m_ModuleInfoCount, [])
  else if table.m_ModuleInfoCount ≤ entries.length then
    some (true, table.m_ModuleInfoCount, entries.take table.m_ModuleInfoCount)
  else none

/-- The entries that the table says it has. -/
def Table.entries (table : Table) : List Slot := (table.m_pModuleInfo.getD []).take table.m_ModuleInfoCount

/-- No other memory is looked at, and what is found is filled. -/
def Shown (found : Option (Option Slot)) : Prop :=
  ∃ result, found = some result ∧ ∀ slot, result = some slot → slot.Filled

/-- Nothing but filled entries is there and comes out, and no other memory is looked at; the table is the first
`m_ModuleInfoCount` entries of the array. -/
structure Consistent (table : Table) : Prop where
  filled : ∀ slot ∈ table.entries, slot.Filled
  counted : table.entries.length = table.m_ModuleInfoCount
  found : ∀ ModuleID, Shown (FindModule table ModuleID)
  masked : ∀ ModuleID Mask, Shown (FindModuleWithMask table ModuleID Mask)
  listed : ∀ Count, ∃ success left copied, CtListModules table Count = some (success, left, copied) ∧
    left = table.m_ModuleInfoCount ∧ (∀ slot ∈ copied, slot.Filled) ∧ (success = true → copied.length = left)

/-- The modules cannot be enumerated, or every request for one is successful. -/
def Complete (reader : Reader) : Prop :=
  ∀ IDs, GetModuleIDs reader = .ok IDs → ∀ i ID, (MODULE_ID_KERNEL :: IDs)[i]? = some ID →
    ∃ ModuleInfo, reader.info i ID = .ok ModuleInfo

/-! ## Filled tables -/

variable {reader : Reader} {fresh : Nat → UInt32} {table : Table} {slots : List Slot} {wanted : UInt32 → Bool} {count : Nat}

theorem fill_length (reader : Reader) (fresh : Nat → UInt32) (i : Nat) (IDs : List UInt32) :
    (fill reader fresh i IDs).1.length = IDs.length := by
  induction IDs generalizing i with
  | nil => rfl
  | cons ID rest ih =>
      rw [fill]
      cases reader.info i ID with
      | error Res => simp only [List.length_cons, List.length_map, List.length_range]
      | ok ModuleInfo => simp only [List.length_cons, ih]

/-- All entries are filled exactly where no request fails; behind a failure none is. -/
theorem fill_filled_iff (i : Nat) (IDs : List UInt32) :
    (∀ slot ∈ (fill reader fresh i IDs).1, slot.Filled) ↔
      ∀ index ID, IDs[index]? = some ID → ∃ ModuleInfo, reader.info (i + index) ID = .ok ModuleInfo := by
  induction IDs generalizing i with
  | nil => exact iff_of_true nofun nofun
  | cons ID rest ih =>
      rw [fill]
      cases asked : reader.info i ID with
      | error Res =>
          refine iff_of_false ?_ ?_
          · intro all
            obtain ⟨Info, filled⟩ := all .blank List.mem_cons_self
            contradiction
          · intro all
            obtain ⟨ModuleInfo, answered⟩ := all 0 ID rfl
            rw [Nat.add_zero, asked] at answered
            contradiction
      | ok ModuleInfo =>
          dsimp only
          rw [List.forall_mem_cons, and_iff_right ⟨_, rfl⟩, ih (i + 1)]
          constructor
          · intro later index other found
            cases index with
            | zero =>
                cases found
                exact ⟨ModuleInfo, asked⟩
            | succ index =>
                have answered := later index other found
                rw [Nat.add_assoc, Nat.add_comm 1] at answered
                exact answered
          · intro all index other found
            have answered := all (index + 1) other found
            rw [Nat.add_comm index, ← Nat.add_assoc] at answered
            exact answered

theorem search_inside (inside : count ≤ slots.length) :
    ∃ result, search wanted count slots = some result ∧ ∀ slot, result = some slot → slot ∈ slots.take count := by
  induction slots generalizing count with
  | nil =>
      cases Nat.le_zero.mp inside
      exact ⟨none, rfl, nofun⟩
  | cons first rest ih =>
      cases count with
      | zero => exact ⟨none, rfl, nofun⟩
      | succ count =>
          rw [search]
          by_cases here : wanted first.ID = true
          · rw [if_pos here]
            refine ⟨some first, rfl, ?_⟩
            intro slot same
            cases same
            exact List.mem_cons_self
          · rw [if_neg here]
            obtain ⟨result, found, member⟩ := ih (Nat.le_of_succ_le_succ inside)
            exact ⟨result, found, fun slot same => List.mem_cons_of_mem _ (member slot same)⟩

/-- A table whose entries are there and filled shows nothing else. -/
theorem consistent_of_filled (inside : table.m_ModuleInfoCount ≤ (table.m_pModuleInfo.getD []).length)
    (filled : ∀ slot ∈ table.entries, slot.Filled) : Consistent table := by
  have counted : table.entries.length = table.m_ModuleInfoCount := by
    rw [Table.entries, List.length_take, Nat.min_eq_left inside]
  have shown (wanted : UInt32 → Bool) : Shown (searchTable table wanted) := by
    rw [searchTable]
    cases array : table.m_pModuleInfo with
    | none => exact ⟨none, rfl, nofun⟩
    | some entries =>
        rw [array] at inside
        obtain ⟨result, found, member⟩ := @search_inside entries wanted table.m_ModuleInfoCount inside
        refine ⟨result, found, ?_⟩
        intro slot same
        apply filled
        rw [Table.entries, array]
        exact member slot same
  refine ⟨filled, counted, fun _ => shown _, fun _ _ => shown _, ?_⟩
  intro Count
  rw [CtListModules]
  split
  · exact ⟨_, _, _, rfl, rfl, nofun, nofun⟩
  · exact ⟨_, _, _, rfl, rfl, filled, fun _ => counted⟩

/-- The table is consistent behind a build exactly where the build is complete. -/
theorem build_consistent_iff (table : Table) (reader : Reader) (fresh : Nat → UInt32) :
    Consistent (BuildModuleInfo table reader fresh).1 ↔ Complete reader := by
  rw [BuildModuleInfo, Complete]
  cases enumerated : GetModuleIDs reader with
  | error Res =>
      refine iff_of_true (consistent_of_filled (Nat.zero_le _) ?_) nofun
      intro slot member
      rw [Table.entries, List.take_zero] at member
      contradiction
  | ok IDs =>
      have length := fill_length reader fresh 0 (MODULE_ID_KERNEL :: IDs)
      have decided := @fill_filled_iff reader fresh 0 (MODULE_ID_KERNEL :: IDs)
      dsimp only
      generalize fill reader fresh 0 (MODULE_ID_KERNEL :: IDs) = filled at length decided
      rw [List.length_cons] at length
      have entries : Table.entries ⟨some filled.1, IDs.length + 1⟩ = filled.1 := by
        rw [Table.entries, Option.getD_some, ← length, List.take_length]
      have complete : (∀ others, Except.ok IDs = (Except.ok others : Except CjError (List UInt32)) →
          ∀ i ID, (MODULE_ID_KERNEL :: others)[i]? = some ID → ∃ ModuleInfo, reader.info i ID = .ok ModuleInfo) ↔
          ∀ slot ∈ filled.1, slot.Filled := by
        rw [decided]
        constructor
        · intro all index ID found
          rw [Nat.zero_add]
          exact all IDs rfl index ID found
        · intro all others same index ID found
          cases same
          have answered := all index ID found
          rw [Nat.zero_add] at answered
          exact answered
      rw [complete]
      constructor
      · intro consistent
        rw [← entries]
        exact consistent.filled
      · intro all
        apply consistent_of_filled
        · exact Nat.le_of_eq length.symm
        · rw [entries]
          exact all

/-- A reader with two modules that answers for its kernel only. -/
def halfAnswering : Reader where
  help := .ok fun index => if index = 0 then 2 else UInt32.ofNat index
  info := fun i ID => if i = 0 then .ok ⟨0, ID, 0, 0, [], [], 0, 0, 0, 0, 0, 0, []⟩ else .error .timeout

/-- The two entries without an answer are listed, and the one that is not even written can be found. -/
theorem halfAnswering_not_consistent :
    let built := BuildModuleInfo ⟨none, 0⟩ halfAnswering fun _ => 7
    built.2 = some .timeout ∧ built.1.m_ModuleInfoCount = 3 ∧
      FindModule built.1 7 = some (some (.unset 7)) ∧
      (CtListModules built.1 3).map (fun listed => listed.2.2.drop 1) = some [.blank, .unset 7] ∧
      ¬ Consistent built.1 := by
  intro built
  have found : FindModule built.1 7 = some (some (.unset 7)) := by decide +kernel
  refine ⟨by decide +kernel, by decide +kernel, found, by decide +kernel, ?_⟩
  intro consistent
  obtain ⟨result, same, filled⟩ := consistent.found 7
  rw [found] at same
  cases same
  obtain ⟨Info, same⟩ := filled _ rfl
  contradiction

end Cyberjack.Eca.Modules
