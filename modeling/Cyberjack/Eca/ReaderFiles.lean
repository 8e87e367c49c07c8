import Cyberjack.Foundation.Buffer
import Cyberjack.Foundation.Loop
import Cyberjack.Eca.CtData

namespace Cyberjack.Eca

open Cyberjack.Foundation

/-! # The files of the reader

SELECT and READ BINARY of `_CtData` of `CCIDReader.cpp`.  The reader has a master
file with two directories; which of its files is selected is kept in three
members.
-/

structure ReaderFiles where
  m_reader_path : Buffer UInt8 10
  m_reader_path_len : UInt8
  m_reader_file : Buffer UInt8 2
deriving DecidableEq

/-- The arguments of `CtData`: `cmd` is the command buffer, `response` the memory of
the caller and `lenr` its size. -/
structure CtCall where
  sad : UInt8
  dad : UInt8
  cmd : Nat → UInt8
  lenc : Nat
  response : Nat → UInt8
  lenr : Nat

/-- What `CtData` leaves in them. -/
structure CtReturn where
  ret : Int
  sad : UInt8
  dad : UInt8
  response : Nat → UInt8
  lenr : Nat

def CtReturn.bytes (answer : CtReturn) : List UInt8 := commandBytes answer.response answer.lenr

/-- `memcpy (memory, data, length)` -/
def written (memory : Nat → UInt8) (data : List UInt8) (index : Nat) : UInt8 :=
  data.getD index (memory index)

namespace CtCall

def ToReader (call : CtCall) : Prop := call.dad = 1 ∧ call.sad = 2

instance (call : CtCall) : Decidable call.ToReader :=
  inferInstanceAs (Decidable (call.dad = 1 ∧ call.sad = 2))

/-- The bytes copied to the response, and the length set behind the copy. -/
def answers (call : CtCall) (copied : List UInt8) (length : Nat) : CtReturn :=
  ⟨0, 1, 2, written call.response copied, length⟩

def status (call : CtCall) (sw1 sw2 : UInt8) : CtReturn := call.answers [sw1, sw2] 2

/-- `return -11` of a handler; `*lenr` is left as it is. -/
def noRoom (call : CtCall) : CtReturn := ⟨-11, 1, 2, call.response, call.lenr⟩

/-- What `data_ptr` points to. -/
def data (call : CtCall) (lengths : Lengths) : List UInt8 :=
  match lengths.data_ptr with
  | none => []
  | some offset => (List.range lengths.Lc.toNat).map fun index => call.cmd (offset + index)

end CtCall

/-- `m_reader_path_len==length && memcmp(m_reader_path,path,length)==0` -/
def ReaderFiles.PathIs (files : ReaderFiles) (path : List UInt8) : Prop :=
  files.m_reader_path_len.toNat = path.length ∧ files.m_reader_path.cells.take path.length = path

instance (files : ReaderFiles) (path : List UInt8) : Decidable (files.PathIs path) :=
  inferInstanceAs (Decidable (_ ∧ _))

/-- A branch of SELECT: the file it compares with, the path it asks for, whether the
file is a directory, and the answer. -/
structure SelectBranch where
  file : List UInt8
  path : Option (List UInt8)
  directory : Bool
  answer : List UInt8
deriving DecidableEq

def SelectBranch.Applies (branch : SelectBranch) (files : ReaderFiles) (data : List UInt8) : Prop :=
  data = branch.file ∧ ∀ path ∈ branch.path, files.PathIs path

instance (branch : SelectBranch) (files : ReaderFiles) (data : List UInt8) :
    Decidable (branch.Applies files data) :=
  inferInstanceAs (Decidable (_ ∧ ∀ path ∈ branch.path, files.PathIs path))

/-- The members behind a SELECT; `first` and `second` stand at `cmd+5`. -/
def SelectBranch.enter (branch : SelectBranch) (files : ReaderFiles) (first second : UInt8) :
    ReaderFiles :=
  if branch.directory = true then
    match branch.path with
    | none => ⟨files.m_reader_path.store 0 [first, second] (by simp), 2, Buffer.filled 2 0⟩
    | some _ => ⟨files.m_reader_path.store 2 [first, second] (by simp), 4, Buffer.filled 2 0⟩
  else { files with m_reader_file := ⟨[first, second], rfl⟩ }

/-- The branches of SELECT in their order. -/
def selectBranches : List SelectBranch :=
  [⟨[0x3f, 0x00], none, true,
      [0x00, 0x2d, 0x00, 0x2d, 0x88, 0x00, 0x00, 0x00, 0x00, 0x00, 0x90, 0x00]⟩,
    ⟨[0x00, 0x20], some [0x3f, 0x00], false,
      [0x00, 0x0e, 0x00, 0x0e, 0x08, 0x00, 0x00, 0x00, 0x00, 0x00, 0x90, 0x00]⟩,
    ⟨[0x7f, 0x60], some [0x3f, 0x00], true,
      [0x00, 0x05, 0x00, 0x05, 0x88, 0x00, 0x00, 0x00, 0x00, 0x00, 0x90, 0x00]⟩,
    ⟨[0x60, 0x20], some [0x3f, 0x00, 0x7f, 0x60], false,
      [0x00, 0x10, 0x00, 0x10, 0x08, 0x00, 0x00, 0x00, 0x00, 0x00, 0x90, 0x00]⟩,
    ⟨[0x60, 0x21], some [0x3f, 0x00, 0x7f, 0x60], false,
      [0x00, 0x10, 0x00, 0x10, 0x08, 0x00, 0x00, 0x00, 0x00, 0x00, 0x90, 0x00]⟩,
    ⟨[0x60, 0x30], some [0x3f, 0x00, 0x7f, 0x60], false,
      [0x00, 0x04, 0x00, 0x04, 0x08, 0x00, 0x00, 0x00, 0x00, 0x00, 0x90, 0x00]⟩,
    ⟨[0x60, 0x31], some [0x3f, 0x00, 0x7f, 0x60], false,
      [0x00, 0x03, 0x00, 0x03, 0x08, 0x00, 0x00, 0x00, 0x00, 0x00, 0x90, 0x00]⟩,
    ⟨[0x7f, 0x70], some [0x3f, 0x00], true,
      [0x00, 0x19, 0x00, 0x19, 0x88, 0x00, 0x00, 0x00, 0x00, 0x00, 0x90, 0x00]⟩,
    ⟨[0x70, 0x20], some [0x3f, 0x00, 0x7f, 0x70], false,
      [0x00, 0x0f, 0x00, 0x0f, 0x08, 0x00, 0x00, 0x00, 0x00, 0x00, 0x90, 0x00]⟩,
    ⟨[0x70, 0x21], some [0x3f, 0x00, 0x7f, 0x70], false,
      [0x00, 0x10, 0x00, 0x10, 0x08, 0x00, 0x00, 0x00, 0x00, 0x00, 0x90, 0x00]⟩]

/-- `cmd[1]==0xa4` -/
def selectFile (files : ReaderFiles) (call : CtCall) (lengths : Lengths) : ReaderFiles × CtReturn :=
  if call.cmd 2 ≠ 0 ∨ call.cmd 3 ≠ 0 then (files, call.status 0x6A 0x00)
  else if lengths.Lc ≠ 2 then (files, call.status 0x67 0x00)
  else
    match selectBranches.find? fun branch => branch.Applies files (call.data lengths) with
    | none => (files, call.status 0x6A 0x82)
    | some branch =>
        if call.lenr < 12 then (files, call.noRoom)
        else (branch.enter files (call.cmd 5) (call.cmd 6), call.answers branch.answer 12)

/-- A branch of READ BINARY: path and file it asks for, the room it needs, the
bytes it copies and the length it sets. -/
structure ReadBranch where
  path : List UInt8
  file : List UInt8
  room : Nat
  copied : List UInt8
  length : Nat
deriving DecidableEq

def ReadBranch.Applies (branch : ReadBranch) (files : ReaderFiles) : Prop :=
  files.PathIs branch.path ∧ files.m_reader_file.cells = branch.file

instance (branch : ReadBranch) (files : ReaderFiles) : Decidable (branch.Applies files) :=
  inferInstanceAs (Decidable (_ ∧ _))

/-- The branches of READ BINARY in their order; the last one copies 17 bytes of 18. -/
def readBranches : List ReadBranch :=
  [⟨[0x3f, 0x00], [0x00, 0x20], 16,
      [0x01, 0x05, 0x43, 0x4a, 0x50, 0x50, 0x41, 0x02, 0x01, 0x00, 0x03, 0x02, 0x20, 0x00, 0x90,
        0x00], 16⟩,
    ⟨[0x3f, 0x00, 0x7f, 0x60], [0x60, 0x20], 18,
      [0x03, 0x02, 0x20, 0x00, 0x10, 0x01, 0x00, 0x11, 0x01, 0x00, 0x12, 0x01, 0x00, 0x13, 0x01,
        0x00, 0x90, 0x00], 18⟩,
    ⟨[0x3f, 0x00, 0x7f, 0x60], [0x60, 0x21], 18,
      [0x03, 0x02, 0x20, 0x00, 0x10, 0x01, 0x00, 0x11, 0x01, 0x00, 0x12, 0x01, 0x00, 0x13, 0x01,
        0x00, 0x90, 0x00], 18⟩,
    ⟨[0x3f, 0x00, 0x7f, 0x60], [0x60, 0x30], 6, [0x30, 0x02, 0x01, 0x03, 0x90, 0x00], 6⟩,
    ⟨[0x3f, 0x00, 0x7f, 0x60], [0x60, 0x31], 5, [0x30, 0x01, 0xff, 0x90, 0x00], 5⟩,
    ⟨[0x3f, 0x00, 0x7f, 0x70], [0x70, 0x20], 17,
      [0x03, 0x02, 0x20, 0x00, 0x20, 0x01, 0x81, 0x22, 0x06, 0x01, 0x02, 0x03, 0x80, 0x81, 0x82,
        0x90, 0x00], 17⟩,
    ⟨[0x3f, 0x00, 0x7f, 0x70], [0x70, 0x21], 18,
      [0x03, 0x02, 0x20, 0x00, 0x21, 0x02, 0x01, 0x89, 0x22, 0x06, 0x01, 0x02, 0x03, 0x80, 0x81,
        0x82, 0x90], 18⟩]

/-- `cmd[1]==0xb0` -/
def readBinary (files : ReaderFiles) (call : CtCall) : CtReturn :=
  match readBranches.find? fun branch => branch.Applies files with
  | none => call.status 0x69 0x82
  | some branch =>
      if call.lenr < branch.room then call.noRoom else call.answers branch.copied branch.length

/-- `_CtData` behind its head. -/
def readerCommand (files : ReaderFiles) (call : CtCall) (lengths : Lengths) (elsewhere : CtReturn) :
    ReaderFiles × CtReturn :=
  if call.cmd 0 = 0x00 then
    if call.cmd 1 = 0xA4 then selectFile files call lengths
    else if call.cmd 1 = 0xB0 then (files, readBinary files call)
    else (files, call.status 0x6D 0x00)
  else (files, elsewhere)

/-- `_CtData`, with what the handlers that do not know the three members answer. -/
def ctData (linux : Bool) (files : ReaderFiles) (call : CtCall) (elsewhere : CtReturn) :
    ReaderFiles × CtReturn :=
  if call.ToReader then
    if call.lenr < 2 then (files, ⟨-11, call.sad, call.dad, call.response, 0⟩)
    else
      match parseLengths linux call.cmd call.lenc with
      | none => (files, ⟨0, call.sad, call.dad, written call.response [0x67, 0x00], 2⟩)
      | some lengths => readerCommand files call lengths elsewhere
  else (files, elsewhere)

/-- One command after the other; every one of them returns. -/
def ctDataBody (linux : Bool) (files : ReaderFiles) (input : CtCall × CtReturn) :
    List CtReturn × Next ReaderFiles Empty :=
  ([(ctData linux files input.1 input.2).2], .again (ctData linux files input.1 input.2).1)

/-! ## What is selected -/

inductive Directory where
  | root
  | df7F60
  | df7F70
deriving Repr, DecidableEq

namespace Directory

def id : Directory → List UInt8
  | root => [0x3f, 0x00]
  | df7F60 => [0x7f, 0x60]
  | df7F70 => [0x7f, 0x70]

def path : Directory → List UInt8
  | root => root.id
  | df7F60 => root.id ++ df7F60.id
  | df7F70 => root.id ++ df7F70.id

def parent : Directory → Option Directory
  | root => none
  | df7F60 => some root
  | df7F70 => some root

def size : Directory → UInt8
  | root => 0x2d
  | df7F60 => 0x05
  | df7F70 => 0x19

theorem path_injective : ∀ first second : Directory, first.path = second.path → first = second := by
  intro first second same
  cases first <;> cases second <;> first | rfl | exact absurd same (by decide)

theorem two_le_path (directory : Directory) : 2 ≤ directory.path.length := by
  cases directory <;> decide

end Directory

inductive ElementaryFile where
  | ef0020
  | ef6020
  | ef6021
  | ef6030
  | ef6031
  | ef7020
  | ef7021
deriving Repr, DecidableEq

namespace ElementaryFile

def id : ElementaryFile → List UInt8
  | ef0020 => [0x00, 0x20]
  | ef6020 => [0x60, 0x20]
  | ef6021 => [0x60, 0x21]
  | ef6030 => [0x60, 0x30]
  | ef6031 => [0x60, 0x31]
  | ef7020 => [0x70, 0x20]
  | ef7021 => [0x70, 0x21]

def directory : ElementaryFile → Directory
  | ef0020 => .root
  | ef6020 => .df7F60
  | ef6021 => .df7F60
  | ef6030 => .df7F60
  | ef6031 => .df7F60
  | ef7020 => .df7F70
  | ef7021 => .df7F70

def content : ElementaryFile → List UInt8
  | ef0020 => [0x01, 0x05, 0x43, 0x4a, 0x50, 0x50, 0x41, 0x02, 0x01, 0x00, 0x03, 0x02, 0x20, 0x00]
  | ef6020 =>
      [0x03, 0x02, 0x20, 0x00, 0x10, 0x01, 0x00, 0x11, 0x01, 0x00, 0x12, 0x01, 0x00, 0x13, 0x01, 0x00]
  | ef6021 =>
      [0x03, 0x02, 0x20, 0x00, 0x10, 0x01, 0x00, 0x11, 0x01, 0x00, 0x12, 0x01, 0x00, 0x13, 0x01, 0x00]
  | ef6030 => [0x30, 0x02, 0x01, 0x03]
  | ef6031 => [0x30, 0x01, 0xff]
  | ef7020 =>
      [0x03, 0x02, 0x20, 0x00, 0x20, 0x01, 0x81, 0x22, 0x06, 0x01, 0x02, 0x03, 0x80, 0x81, 0x82]
  | ef7021 =>
      [0x03, 0x02, 0x20, 0x00, 0x21, 0x02, 0x01, 0x89, 0x22, 0x06, 0x01, 0x02, 0x03, 0x80, 0x81, 0x82]

def all : List ElementaryFile := [ef0020, ef6020, ef6021, ef6030, ef6031, ef7020, ef7021]

theorem id_injective : ∀ first second : ElementaryFile, first.id = second.id → first = second := by
  intro first second same
  cases first <;> cases second <;> first | rfl | exact absurd same (by decide)

theorem id_ne_zero (file : ElementaryFile) : file.id ≠ [0x00, 0x00] := by
  cases file <;> decide

end ElementaryFile

/-- A directory, and one of its files or none. -/
structure Selection where
  directory : Directory
  file : Option ElementaryFile
  inside : ∀ selected ∈ file, selected.directory = directory

namespace Selection

def ofDirectory (directory : Directory) : Selection :=
  ⟨directory, none, fun _ selected => nomatch selected⟩

def ofFile (file : ElementaryFile) : Selection where
  directory := file.directory
  file := some file
  inside := by
    intro selected same
    rw [Option.mem_some_iff.mp same]

/-- The identifier of what has been selected last. -/
def id (selection : Selection) : List UInt8 :=
  match selection.file with
  | none => selection.directory.id
  | some file => file.id

/-- The directory it is selected from; the master file is found everywhere. -/
def parent (selection : Selection) : Option Directory :=
  match selection.file with
  | none => selection.directory.parent
  | some file => some file.directory

def size (selection : Selection) : UInt8 :=
  match selection.file with
  | none => selection.directory.size
  | some file => UInt8.ofNat file.content.length

def From (selection : Selection) (current : Option Selection) : Prop :=
  ∀ directory ∈ selection.parent, current.map Selection.directory = some directory

instance (selection : Selection) (current : Option Selection) : Decidable (selection.From current) :=
  inferInstanceAs (Decidable (∀ directory ∈ selection.parent, _))

/-- Everything there is to select. -/
def all : List Selection :=
  [ofDirectory .root, ofFile .ef0020, ofDirectory .df7F60, ofFile .ef6020, ofFile .ef6021,
    ofFile .ef6030, ofFile .ef6031, ofDirectory .df7F70, ofFile .ef7020, ofFile .ef7021]

end Selection

/-- The file of a name as the current directory has it. -/
def findFile (current : Option Selection) (name : List UInt8) : Option Selection :=
  Selection.all.find? fun selection => name = selection.id ∧ selection.From current

/-- The content of `m_reader_file`. -/
def Selection.fileId (selection : Selection) : List UInt8 :=
  match selection.file with
  | none => [0x00, 0x00]
  | some file => file.id

/-- The three members stand for a selection, or for nothing selected. -/
def ReaderFiles.Holds (files : ReaderFiles) : Option Selection → Prop
  | none => files.m_reader_path_len = 0
  | some selection =>
      files.PathIs selection.directory.path ∧ files.m_reader_file.cells = selection.fileId

instance (files : ReaderFiles) (current : Option Selection) : Decidable (files.Holds current) :=
  match current with
  | none => inferInstanceAs (Decidable (files.m_reader_path_len = 0))
  | some _ => inferInstanceAs (Decidable (_ ∧ _))

/-- The branch of SELECT that selects it. -/
def Selection.branch (selection : Selection) : SelectBranch where
  file := selection.id
  path := selection.parent.map Directory.path
  directory := selection.file.isNone
  answer := [0x00, selection.size, 0x00, selection.size, if selection.file.isNone then 0x88 else 0x08,
    0x00, 0x00, 0x00, 0x00, 0x00, 0x90, 0x00]

/-- The branch of READ BINARY that reads it. -/
def ElementaryFile.branch (file : ElementaryFile) : ReadBranch where
  path := file.directory.path
  file := file.id
  room := file.content.length + 2
  copied := if file = ef7021 then file.content ++ [0x90] else file.content ++ [0x90, 0x00]
  length := file.content.length + 2

theorem selectBranches_eq : selectBranches = Selection.all.map Selection.branch := by decide

theorem readBranches_eq : readBranches = ElementaryFile.all.map ElementaryFile.branch := by decide

variable {linux : Bool} {files : ReaderFiles} {current : Option Selection} {call : CtCall}
  {elsewhere : CtReturn} {lengths : Lengths}

theorem pathIs_iff (holds : files.Holds current) (directory : Directory) :
    files.PathIs directory.path ↔ current.map Selection.directory = some directory := by
  cases current with
  | none =>
      have empty : files.m_reader_path_len = 0 := holds
      have long := directory.two_le_path
      simp only [ReaderFiles.PathIs, empty, Option.map_none, reduceCtorEq, iff_false, not_and]
      intro length
      rw [← length] at long
      exact absurd long (by decide)
  | some selection =>
      obtain ⟨path, -⟩ := holds
      simp only [Option.map_some, Option.some.injEq]
      constructor
      · intro other
        have length : selection.directory.path.length = directory.path.length :=
          path.1.symm.trans other.1
        refine Directory.path_injective _ _ ?_
        rw [← path.2, ← other.2, length]
      · rintro rfl
        exact path

theorem branch_applies (holds : files.Holds current) (selection : Selection) (name : List UInt8) :
    selection.branch.Applies files name ↔ name = selection.id ∧ selection.From current := by
  simp only [SelectBranch.Applies, Selection.branch, Selection.From, Option.mem_def,
    Option.map_eq_some_iff, forall_exists_index, and_imp, forall_apply_eq_imp_iff₂,
    pathIs_iff holds]

theorem find_branch (holds : files.Holds current) (name : List UInt8) :
    (selectBranches.find? fun branch => branch.Applies files name) =
      (findFile current name).map Selection.branch := by
  rw [selectBranches_eq, List.find?_map, findFile]
  simp only [Function.comp_def, branch_applies holds]

/-- The path behind SELECT of a directory below the master file. -/
theorem take_entered (path : files.PathIs Directory.root.path) (first second : UInt8)
    (room : 2 + [first, second].length ≤ 10) :
    (files.m_reader_path.store 2 [first, second] room).cells.take 4 =
      Directory.root.id ++ [first, second] := by
  have stored := Buffer.take_store files.m_reader_path room
  have front : files.m_reader_path.cells.take 2 = Directory.root.id := path.2
  rwa [front] at stored

/-- What is copied is the name that has been found exactly when it is the file found. -/
theorem enter_holds (holds : files.Holds current) {selection : Selection}
    (reached : selection.From current) (first second : UInt8) :
    (selection.branch.enter files first second).Holds (some selection) ↔
      [first, second] = selection.id := by
  obtain ⟨directory, file, inside⟩ := selection
  cases file with
  | some file =>
      have same : file.directory = directory := inside file rfl
      have path := (pathIs_iff holds file.directory).mpr (reached file.directory rfl)
      rw [same] at path
      exact ⟨fun entered => entered.2, fun named => ⟨path, named⟩⟩
  | none =>
      cases directory with
      | root =>
          have stored : (files.m_reader_path.store 0 [first, second] (by simp)).cells.take 2 =
              [first, second] :=
            Buffer.take_store_zero files.m_reader_path (by simp : 0 + [first, second].length ≤ 10)
          exact ⟨fun entered => stored.symm.trans entered.1.2,
            fun named => ⟨⟨rfl, stored.trans named⟩, rfl⟩⟩
      | df7F60 =>
          have path := (pathIs_iff holds .root).mpr (reached .root rfl)
          have stored := take_entered path first second (by simp)
          exact ⟨fun entered => List.append_cancel_left (stored.symm.trans entered.1.2),
            fun named => ⟨⟨rfl, stored.trans (congrArg _ named)⟩, rfl⟩⟩
      | df7F70 =>
          have path := (pathIs_iff holds .root).mpr (reached .root rfl)
          have stored := take_entered path first second (by simp)
          exact ⟨fun entered => List.append_cancel_left (stored.symm.trans entered.1.2),
            fun named => ⟨⟨rfl, stored.trans (congrArg _ named)⟩, rfl⟩⟩

theorem file_branch_applies (holds : files.Holds current) (file : ElementaryFile) :
    file.branch.Applies files ↔ current.bind Selection.file = some file := by
  cases current with
  | none =>
      have path := pathIs_iff holds file.directory
      simp [ReadBranch.Applies, ElementaryFile.branch, path]
  | some selection =>
      have path := pathIs_iff holds file.directory
      have cells := holds.2
      obtain ⟨directory, selected, inside⟩ := selection
      simp only [ReadBranch.Applies, ElementaryFile.branch, path, Option.map_some,
        Option.some.injEq, Option.bind_some, cells]
      cases selected with
      | none => simp [Selection.fileId, file.id_ne_zero.symm]
      | some selected =>
          constructor
          · intro applies
            rw [ElementaryFile.id_injective selected file applies.2]
          · rintro ⟨⟩
            exact ⟨(inside file rfl).symm, rfl⟩

theorem find_file_branch (holds : files.Holds current) :
    (readBranches.find? fun branch => branch.Applies files) =
      (current.bind Selection.file).map ElementaryFile.branch := by
  have every : ∀ selected : Option ElementaryFile,
      (ElementaryFile.all.find? fun file => selected = some file) = selected := by
    intro selected
    cases selected with
    | none => rfl
    | some file => cases file <;> rfl
  rw [readBranches_eq, List.find?_map]
  simp only [Function.comp_def, file_branch_applies holds, every]

/-! ## What the answers say -/

/-- The call returns 0 and its answer ends with 90 00. -/
def CtReturn.Success (answer : CtReturn) : Prop := answer.ret = 0 ∧ [0x90, 0x00] <:+ answer.bytes

instance (answer : CtReturn) : Decidable answer.Success :=
  inferInstanceAs (Decidable (answer.ret = 0 ∧ [0x90, 0x00] <:+ answer.bytes))

theorem commandBytes_succ (memory : Nat → UInt8) (count : Nat) :
    commandBytes memory (count + 1) = commandBytes memory count ++ [memory count] := by
  rw [commandBytes, commandBytes, List.range_succ, List.map_append, List.map_singleton]

@[simp] theorem commandBytes_written (memory : Nat → UInt8) (data : List UInt8) :
    commandBytes (written memory data) data.length = data := by
  refine List.ext_getElem (by simp) fun index _ inside => ?_
  simp [commandBytes, written, inside]

theorem bytes_answers (call : CtCall) (copied : List UInt8) :
    (call.answers copied copied.length).bytes = copied :=
  commandBytes_written call.response copied

/-- The byte that is announced but not copied is the caller's. -/
theorem bytes_answers_succ (call : CtCall) (copied : List UInt8) :
    (call.answers copied (copied.length + 1)).bytes = copied ++ [call.response copied.length] := by
  have untouched : written call.response copied copied.length = call.response copied.length := by
    simp [written]
  change commandBytes (written call.response copied) (copied.length + 1) = _
  rw [commandBytes_succ, commandBytes_written, untouched]

theorem not_success_status {sw1 : UInt8} (error : sw1 ≠ 0x90) (sw2 : UInt8) :
    ¬ (call.status sw1 sw2).Success := by
  rintro ⟨-, ends⟩
  rw [CtCall.status, show 2 = [sw1, sw2].length from rfl, bytes_answers] at ends
  have same := ends.eq_of_length rfl
  exact error (List.cons.inj same).1.symm

theorem not_success_noRoom : ¬ call.noRoom.Success := by
  rintro ⟨returned, -⟩
  have failed : call.noRoom.ret = -11 := rfl
  omega

theorem success_branch (selection : Selection) : (call.answers selection.branch.answer 12).Success := by
  refine ⟨rfl, ?_⟩
  have bytes := bytes_answers call selection.branch.answer
  rw [show selection.branch.answer.length = 12 from rfl] at bytes
  rw [bytes]
  exact ⟨selection.branch.answer.take 10, rfl⟩

/-- The file a SELECT names in its data field. -/
def namedFile (linux : Bool) (call : CtCall) : Option (List UInt8) :=
  if call.ToReader ∧ call.cmd 0 = 0x00 ∧ call.cmd 1 = 0xA4 then
    (parseLengths linux call.cmd call.lenc).map call.data
  else none

/-- What is selected behind a call: a SELECT that succeeds selects what it names. -/
def nextSelection (linux : Bool) (current : Option Selection) (call : CtCall) (answer : CtReturn) :
    Option Selection :=
  match namedFile linux call with
  | none => current
  | some name => if answer.Success then findFile current name else current

def CtCall.IsRead (linux : Bool) (call : CtCall) : Prop :=
  call.ToReader ∧ call.cmd 0 = 0x00 ∧ call.cmd 1 = 0xB0 ∧
    (parseLengths linux call.cmd call.lenc).isSome = true

/-- READ BINARY answers with the content of the file, if there is one and room for it. -/
def ReadsFile (selected : Option ElementaryFile) (call : CtCall) (answer : CtReturn) : Prop :=
  match selected with
  | none => ¬ answer.Success
  | some file =>
      if call.lenr < file.content.length + 2 then ¬ answer.Success
      else answer.ret = 0 ∧ answer.bytes = file.content ++ [0x90, 0x00]

/-- What a call does to the selected file, and what it says of it. -/
structure Served (linux : Bool) (current : Option Selection) (files : ReaderFiles) (call : CtCall)
    (elsewhere : CtReturn) : Prop where
  unchanged : (∀ name ∈ namedFile linux call, ¬ (ctData linux files call elsewhere).2.Success) →
    (ctData linux files call elsewhere).1 = files
  found : ∀ name ∈ namedFile linux call, (ctData linux files call elsewhere).2.Success →
    (findFile current name).isSome
  selects : (ctData linux files call elsewhere).1.Holds
    (nextSelection linux current call (ctData linux files call elsewhere).2)
  reads : call.IsRead linux →
    ReadsFile (current.bind Selection.file) call (ctData linux files call elsewhere).2

/-- SELECT has the two bytes of Lc copied, not the name. -/
def CtCall.Misplaced (files : ReaderFiles) (call : CtCall) (lengths : Lengths) : Prop :=
  call.cmd 2 = 0 ∧ call.cmd 3 = 0 ∧ lengths.Lc = 2 ∧ lengths.data_ptr = some 7 ∧ 12 ≤ call.lenr ∧
    ∃ branch ∈ selectBranches, branch.Applies files (call.data lengths)

/-- READ BINARY leaves out the last byte of what it announces, and it is not 00 by chance. -/
def CtCall.Unterminated (files : ReaderFiles) (call : CtCall) : Prop :=
  files.PathIs [0x3f, 0x00, 0x7f, 0x70] ∧ files.m_reader_file.cells = [0x70, 0x21] ∧
    18 ≤ call.lenr ∧ call.response 17 ≠ 0

instance (files : ReaderFiles) (call : CtCall) (lengths : Lengths) :
    Decidable (call.Misplaced files lengths) :=
  inferInstanceAs (Decidable (_ ∧ _ ∧ _ ∧ _ ∧ _ ∧ ∃ branch ∈ selectBranches, _))

instance (files : ReaderFiles) (call : CtCall) : Decidable (call.Unterminated files) :=
  inferInstanceAs (Decidable (_ ∧ _ ∧ _ ∧ _))

def Orderly (linux : Bool) (files : ReaderFiles) (call : CtCall) : Prop :=
  call.ToReader → ∀ lengths ∈ parseLengths linux call.cmd call.lenc, call.cmd 0 = 0x00 →
    (call.cmd 1 = 0xA4 → ¬ call.Misplaced files lengths) ∧
      (call.cmd 1 = 0xB0 → ¬ call.Unterminated files)

instance decidableOrderlyCall (files : ReaderFiles) (call : CtCall) :
    Decidable (Orderly linux files call) :=
  inferInstanceAs (Decidable (call.ToReader → ∀ lengths ∈ parseLengths linux call.cmd call.lenc, _))

theorem data_ptr_of_lc (parsed : parseLengths linux call.cmd call.lenc = some lengths)
    (announced : 0 ≤ lengths.Lc) :
    lengths.data_ptr = some 5 ∨ (lengths.data_ptr = some 7 ∧ lengths.Lc = wordAt call.cmd 5) := by
  simp only [parseLengths] at parsed
  grind

/-- Two bytes of command data stand at `cmd+5`, or Lc does. -/
theorem data_of_two (parsed : parseLengths linux call.cmd call.lenc = some lengths)
    (two : lengths.Lc = 2) :
    (lengths.data_ptr = some 5 ∧ call.data lengths = [call.cmd 5, call.cmd 6]) ∨
      (lengths.data_ptr = some 7 ∧ call.cmd 5 = 0x00 ∧ call.cmd 6 = 0x02) := by
  rcases data_ptr_of_lc parsed (by omega) with short | ⟨extended, word⟩
  · refine .inl ⟨short, ?_⟩
    rw [CtCall.data, short, two]
    rfl
  · rw [two] at word
    have bytes := ofNat_extendedLength (call.cmd 5) (call.cmd 6)
    have count : extendedLength (call.cmd 5) (call.cmd 6) = 2 := Int.ofNat.inj word.symm
    rw [count] at bytes
    exact .inr ⟨extended, bytes.1.symm, bytes.2.symm⟩

theorem id_ne_lc (selection : Selection) : [0x00, 0x02] ≠ selection.id := by
  have ofDirectory : ∀ directory : Directory, [0x00, 0x02] ≠ directory.id := by
    intro directory
    cases directory <;> decide
  have ofFile : ∀ file : ElementaryFile, [0x00, 0x02] ≠ file.id := by
    intro file
    cases file <;> decide
  obtain ⟨directory, file, inside⟩ := selection
  cases file with
  | none => exact ofDirectory directory
  | some file => exact ofFile file

theorem served_of_unchanged (holds : files.Holds current)
    (same : (ctData linux files call elsewhere).1 = files)
    (refused : ∀ name ∈ namedFile linux call, ¬ (ctData linux files call elsewhere).2.Success)
    (reads : call.IsRead linux →
      ReadsFile (current.bind Selection.file) call (ctData linux files call elsewhere).2) :
    Served linux current files call elsewhere where
  unchanged := fun _ => same
  found := fun name named success => absurd success (refused name named)
  selects := by
    have kept : nextSelection linux current call (ctData linux files call elsewhere).2 = current := by
      cases named : namedFile linux call with
      | none => simp only [nextSelection, named]
      | some name => simp only [nextSelection, named, if_neg (refused name named)]
    rw [kept, same]
    exact holds
  reads := reads

theorem selectFile_cases (holds : files.Holds current) (lengths : Lengths) :
    (∃ answer, selectFile files call lengths = (files, answer) ∧ ¬ answer.Success ∧
        ¬ call.Misplaced files lengths) ∨
      (∃ selection, findFile current (call.data lengths) = some selection ∧ lengths.Lc = 2 ∧
        selectFile files call lengths = (selection.branch.enter files (call.cmd 5) (call.cmd 6),
          call.answers selection.branch.answer 12) ∧
        (lengths.data_ptr = some 7 → call.Misplaced files lengths)) := by
  by_cases parameters : call.cmd 2 ≠ 0 ∨ call.cmd 3 ≠ 0
  · refine .inl ⟨_, if_pos parameters, not_success_status (by decide) _, ?_⟩
    rintro ⟨p1, p2, -⟩
    exact parameters.elim (absurd p1) (absurd p2)
  · rw [selectFile, if_neg parameters]
    by_cases two : lengths.Lc = 2
    · rw [if_neg (not_not.mpr two), find_branch holds]
      cases found : findFile current (call.data lengths) with
      | none =>
          refine .inl ⟨_, rfl, not_success_status (by decide) _, ?_⟩
          rintro ⟨-, -, -, -, -, branch, listed, applies⟩
          have absent := find_branch holds (call.data lengths)
          rw [found, Option.map_none, List.find?_eq_none] at absent
          exact absent branch listed (decide_eq_true applies)
      | some selection =>
          by_cases room : call.lenr < 12
          · refine .inl ⟨_, if_pos room, not_success_noRoom, ?_⟩
            rintro ⟨-, -, -, -, enough, -⟩
            omega
          · refine .inr ⟨selection, rfl, two, if_neg room, fun extended => ?_⟩
            rw [not_or, not_not, not_not] at parameters
            have hit := find_branch holds (call.data lengths)
            rw [found, Option.map_some] at hit
            have applies := List.find?_some hit
            exact ⟨parameters.1, parameters.2, two, extended, by omega, selection.branch,
              List.mem_of_find?_eq_some hit, of_decide_eq_true applies⟩
    · refine .inl ⟨_, if_pos two, not_success_status (by decide) _, ?_⟩
      rintro ⟨-, -, lc, -⟩
      exact two lc

/-- The last byte of an answer of READ BINARY. -/
def ElementaryFile.closing (file : ElementaryFile) (response : Nat → UInt8) : UInt8 :=
  if file = ef7021 then response 17 else 0x00

theorem branch_bytes (call : CtCall) (file : ElementaryFile) :
    (call.answers file.branch.copied file.branch.length).bytes =
      file.content ++ [0x90, file.closing call.response] := by
  cases file with
  | ef7021 => exact bytes_answers_succ call (ElementaryFile.branch .ef7021).copied
  | ef0020 => exact bytes_answers call (ElementaryFile.branch .ef0020).copied
  | ef6020 => exact bytes_answers call (ElementaryFile.branch .ef6020).copied
  | ef6021 => exact bytes_answers call (ElementaryFile.branch .ef6021).copied
  | ef6030 => exact bytes_answers call (ElementaryFile.branch .ef6030).copied
  | ef6031 => exact bytes_answers call (ElementaryFile.branch .ef6031).copied
  | ef7020 => exact bytes_answers call (ElementaryFile.branch .ef7020).copied

/-- The answer is complete unless the byte left out is not zero. -/
theorem closing_eq_zero {file : ElementaryFile}
    (applies : ElementaryFile.ef7021.branch.Applies files ↔ file = .ef7021)
    (room : ¬ call.lenr < file.content.length + 2) :
    file.closing call.response = 0x00 ↔ ¬ call.Unterminated files := by
  by_cases incomplete : file = .ef7021
  · have inside := applies.mpr incomplete
    rw [incomplete] at room
    have enough : 18 ≤ call.lenr := Nat.le_of_not_lt room
    rw [ElementaryFile.closing, if_pos incomplete]
    constructor
    · rintro zero ⟨-, -, -, dirty⟩
      exact dirty zero
    · intro terminated
      by_contra dirty
      exact terminated ⟨inside.1, inside.2, enough, dirty⟩
  · refine iff_of_true (if_neg incomplete) ?_
    rintro ⟨path, cells, -⟩
    exact incomplete (applies.mp ⟨path, cells⟩)

theorem readBinary_reads (holds : files.Holds current) :
    ReadsFile (current.bind Selection.file) call (readBinary files call) ↔
      ¬ call.Unterminated files := by
  have last := file_branch_applies holds .ef7021
  rw [readBinary, find_file_branch holds]
  cases selected : current.bind Selection.file with
  | none =>
      refine iff_of_true (not_success_status (by decide) _) ?_
      rintro ⟨path, file, -⟩
      rw [selected] at last
      exact absurd (last.mp ⟨path, file⟩) (by simp)
  | some file =>
      rw [selected, Option.some.injEq] at last
      by_cases room : call.lenr < file.content.length + 2
      · have small : ¬ call.Unterminated files := by
          rintro ⟨path, cells, enough, -⟩
          rw [last.mp ⟨path, cells⟩] at room
          exact absurd room (Nat.not_lt.mpr enough)
        have short : call.lenr < file.branch.room := room
        simp only [Option.map_some, ReadsFile, if_pos room, if_pos short, not_success_noRoom, small,
          not_false_eq_true]
      · have short : ¬ call.lenr < file.branch.room := room
        have returned : (call.answers file.branch.copied file.branch.length).ret = 0 := rfl
        simp only [Option.map_some, ReadsFile, if_neg room, if_neg short, branch_bytes, returned,
          true_and, List.append_cancel_left_eq, List.cons.injEq, and_true]
        exact closing_eq_zero last room

theorem ctData_parsed (toReader : call.ToReader) (room : 2 ≤ call.lenr)
    (parsed : parseLengths linux call.cmd call.lenc = some lengths) :
    ctData linux files call elsewhere = readerCommand files call lengths elsewhere := by
  rw [ctData, if_pos toReader, if_neg (by omega), parsed]

theorem served_select (holds : files.Holds current) (toReader : call.ToReader) (room : 2 ≤ call.lenr)
    (parsed : parseLengths linux call.cmd call.lenc = some lengths) (cla : call.cmd 0 = 0x00)
    (ins : call.cmd 1 = 0xA4) :
    Served linux current files call elsewhere ↔ ¬ call.Misplaced files lengths := by
  have made : ctData linux files call elsewhere = selectFile files call lengths := by
    rw [ctData_parsed toReader room parsed, readerCommand, if_pos cla, if_pos ins]
  have named : namedFile linux call = some (call.data lengths) := by
    rw [namedFile, if_pos ⟨toReader, cla, ins⟩, parsed]
    rfl
  have noRead : ¬ call.IsRead linux := by
    rintro ⟨-, -, read, -⟩
    rw [ins] at read
    exact absurd read (by decide)
  rcases selectFile_cases holds lengths with
    ⟨answer, stepped, error, placed⟩ | ⟨selection, found, two, stepped, misplaced⟩
  · rw [stepped] at made
    refine iff_of_true ?_ placed
    refine served_of_unchanged holds (by rw [made]) (fun name _ => by rw [made]; exact error)
      fun read => absurd read noRead
  · rw [stepped] at made
    have success : (ctData linux files call elsewhere).2.Success := by
      rw [made]
      exact success_branch selection
    have hit := List.find?_some found
    have applies := of_decide_eq_true hit
    have next : nextSelection linux current call (ctData linux files call elsewhere).2 =
        some selection := by
      simp only [nextSelection, named, if_pos success, found]
    have entered := enter_holds holds applies.2 (call.cmd 5) (call.cmd 6)
    constructor
    · rintro served ⟨-, -, -, extended, -⟩
      have selects := served.selects
      rw [next, made] at selects
      have copied := entered.mp selects
      rcases data_of_two parsed two with ⟨short, -⟩ | ⟨-, high, low⟩
      · rw [extended] at short
        exact absurd short (by decide)
      · rw [high, low] at copied
        exact id_ne_lc selection copied
    · intro placed
      have copied : [call.cmd 5, call.cmd 6] = selection.id := by
        rcases data_of_two parsed two with ⟨-, data⟩ | ⟨extended, -⟩
        · rw [← data]
          exact applies.1
        · exact absurd (misplaced extended) placed
      exact {
        unchanged := fun refused => absurd success (refused _ named)
        found := by
          intro name same _
          rw [named, Option.mem_some_iff] at same
          rw [← same, found]
          rfl
        selects := by
          rw [next, made]
          exact entered.mpr copied
        reads := fun read => absurd read noRead }

theorem served_read (holds : files.Holds current) (toReader : call.ToReader) (room : 2 ≤ call.lenr)
    (parsed : parseLengths linux call.cmd call.lenc = some lengths) (cla : call.cmd 0 = 0x00)
    (ins : call.cmd 1 = 0xB0) :
    Served linux current files call elsewhere ↔ ¬ call.Unterminated files := by
  have noSelect : ¬ call.cmd 1 = 0xA4 := by
    rw [ins]
    decide
  have made : ctData linux files call elsewhere = (files, readBinary files call) := by
    rw [ctData_parsed toReader room parsed, readerCommand, if_pos cla, if_neg noSelect, if_pos ins]
  have unnamed : namedFile linux call = none := if_neg fun select => noSelect select.2.2
  rw [← readBinary_reads holds]
  constructor
  · intro served
    have reads := served.reads ⟨toReader, cla, ins, by rw [parsed]; rfl⟩
    rwa [made] at reads
  · intro reads
    refine served_of_unchanged holds (by rw [made]) (fun name named => ?_) fun _ => by rwa [made]
    rw [unnamed] at named
    contradiction

theorem served_small (holds : files.Holds current) (toReader : call.ToReader) (small : call.lenr < 2) :
    Served linux current files call elsewhere := by
  have made : ctData linux files call elsewhere =
      (files, ⟨-11, call.sad, call.dad, call.response, 0⟩) := by
    rw [ctData, if_pos toReader, if_pos small]
  have error : ¬ (ctData linux files call elsewhere).2.Success := by
    rw [made]
    rintro ⟨returned, -⟩
    cases returned
  refine served_of_unchanged holds (by rw [made]) (fun _ _ => error) fun _ => ?_
  cases current.bind Selection.file with
  | none => exact error
  | some file =>
      have short : call.lenr < file.content.length + 2 := by omega
      rwa [ReadsFile, if_pos short]

theorem served_elsewhere (holds : files.Holds current)
    (same : (ctData linux files call elsewhere).1 = files) (unnamed : namedFile linux call = none)
    (unread : ¬ call.IsRead linux) : Served linux current files call elsewhere := by
  refine served_of_unchanged holds same (fun name named => ?_) fun read => absurd read unread
  rw [unnamed] at named
  contradiction

/-- One call serves the files exactly when it is orderly. -/
theorem served_iff (holds : files.Holds current) :
    Served linux current files call elsewhere ↔ Orderly linux files call := by
  by_cases toReader : call.ToReader
  · by_cases small : call.lenr < 2
    · refine iff_of_true (served_small holds toReader small) ?_
      intro _ lengths _ _
      refine ⟨fun _ misplaced => ?_, fun _ unterminated => ?_⟩
      · have enough := misplaced.2.2.2.2.1
        omega
      · have enough := unterminated.2.2.1
        omega
    · have room : 2 ≤ call.lenr := by omega
      cases parsed : parseLengths linux call.cmd call.lenc with
      | none =>
          have orderly : Orderly linux files call := by
            simp [Orderly, parsed]
          refine iff_of_true (served_elsewhere holds ?_ ?_ ?_) orderly
          · rw [ctData, if_pos toReader, if_neg small, parsed]
          · simp [namedFile, parsed]
          · simp [CtCall.IsRead, parsed]
      | some lengths =>
          have orderly : Orderly linux files call ↔ (call.cmd 0 = 0x00 →
              (call.cmd 1 = 0xA4 → ¬ call.Misplaced files lengths) ∧
                (call.cmd 1 = 0xB0 → ¬ call.Unterminated files)) := by
            simp only [Orderly, parsed, toReader, Option.mem_some_iff, forall_eq', forall_const]
          rw [orderly]
          by_cases select : call.cmd 0 = 0x00 ∧ call.cmd 1 = 0xA4
          · rw [served_select holds toReader room parsed select.1 select.2]
            simp [select]
          · by_cases read : call.cmd 0 = 0x00 ∧ call.cmd 1 = 0xB0
            · rw [served_read holds toReader room parsed read.1 read.2]
              simp [read]
            · refine iff_of_true (served_elsewhere holds ?_ ?_ ?_) fun cla =>
                ⟨fun ins => absurd ⟨cla, ins⟩ select, fun ins => absurd ⟨cla, ins⟩ read⟩
              · rw [ctData_parsed toReader room parsed]
                simp only [readerCommand]
                grind
              · exact if_neg fun named => select named.2
              · exact fun isRead => read ⟨isRead.2.1, isRead.2.2.1⟩
  · refine iff_of_true (served_elsewhere holds ?_ ?_ ?_) fun reached => absurd reached toReader
    · rw [ctData, if_neg toReader]
    · exact if_neg fun named => toReader named.1
    · exact fun isRead => toReader isRead.1

/-- What the calls made so far have selected. -/
def selectedBy (linux : Bool) (start : Option Selection)
    (past : List (Turn ReaderFiles (CtCall × CtReturn) CtReturn)) : Option Selection :=
  past.foldl (fun current turn =>
    turn.output.foldl (fun selected answer => nextSelection linux selected turn.input.1 answer) current)
    start

/-- In front of every call and behind the last one the members stand for what the calls
before have selected, and every call serves the files. -/
def FilesServed (linux : Bool) (start : Option Selection)
    (made : Run ReaderFiles (CtCall × CtReturn) CtReturn Empty) : Prop :=
  MeetsAlong (fun past files input => files.Holds (selectedBy linux start past) ∧
      Served linux (selectedBy linux start past) files input.1 input.2) made.turns ∧
    made.outcome.Satisfies (fun files => files.Holds (selectedBy linux start made.turns))
      fun _ => True

/-- The files are served all along exactly when the members stood for something at first
and every call of the run is orderly. -/
theorem files_served_iff (linux : Bool) (start : Option Selection) (files : ReaderFiles)
    (inputs : List (CtCall × CtReturn)) :
    FilesServed linux start (run (ctDataBody linux) files inputs) ↔
      files.Holds start ∧ Meets (fun files input => Orderly linux files input.1)
        (run (ctDataBody linux) files inputs).turns := by
  induction inputs generalizing start files with
  | nil =>
      rw [run_nil]
      exact ⟨fun served => ⟨served.2, meets_nil⟩, fun held => ⟨meetsAlong_nil, held.1⟩⟩
  | cons input rest ih =>
      have stepped : ctDataBody linux files input = ([(ctData linux files input.1 input.2).2],
        .again (ctData linux files input.1 input.2).1) := rfl
      rw [run_again stepped, FilesServed, meetsAlong_cons, meets_cons]
      have later := ih (nextSelection linux start input.1 (ctData linux files input.1 input.2).2)
        (ctData linux files input.1 input.2).1
      constructor
      · rintro ⟨⟨⟨holds, served⟩, along⟩, final⟩
        exact ⟨holds, (served_iff holds).mp served, (later.mp ⟨along, final⟩).2⟩
      · rintro ⟨holds, orderly, meets⟩
        have served : Served linux start files input.1 input.2 := (served_iff holds).mpr orderly
        obtain ⟨along, final⟩ := later.mpr ⟨served.selects, meets⟩
        exact ⟨⟨⟨holds, served⟩, along⟩, final⟩

/-- The three members as 0 in `m_reader_path_len` leaves them: nothing is selected. -/
def nothingSelected : ReaderFiles := ⟨Buffer.filled 10 0, 0, Buffer.filled 2 0⟩

/-- A command to the reader with 18 bytes of room for its answer. -/
def readerCall (command : List UInt8) : CtCall where
  sad := 2
  dad := 1
  cmd := inMemory command
  lenc := command.length
  response := fun _ => 0
  lenr := 18

/-- SELECT of the master file with an extended length leaves the directory 00 02. -/
theorem extendedSelect_not_served :
    nothingSelected.Holds none ∧
      ¬ FilesServed false none (run (ctDataBody false) nothingSelected
        [(readerCall [0x00, 0xA4, 0x00, 0x00, 0x00, 0x00, 0x02, 0x3f, 0x00],
          (readerCall []).noRoom)]) := by
  refine ⟨rfl, fun served => ?_⟩
  have holds : ReaderFiles.Holds ⟨⟨[0x00, 0x02, 0, 0, 0, 0, 0, 0, 0, 0], rfl⟩, 2, Buffer.filled 2 0⟩
      (some (Selection.ofDirectory .root)) := served.2
  exact absurd holds.1 (by decide)

end Cyberjack.Eca
