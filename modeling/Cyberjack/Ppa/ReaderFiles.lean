import Cyberjack.Eca.ReaderFiles
import Cyberjack.Foundation.Refinement
import Cyberjack.Ppa.I2c

namespace Cyberjack.Ppa.ReaderFiles

open Cyberjack.Foundation Cyberjack.Eca

/-! # The files of the reader, in both drivers

SELECT and READ BINARY of `ctapiData_inner` in `cjdata.c`, beside those of `_CtData` in `CCIDReader.cpp`.  An
application that goes through the CT-API is served by one or the other, as its reader is.
-/

/-- The members of the device that say what is selected. -/
structure Files where
  reader_path : Buffer UInt8 10
  reader_path_len : Nat
  reader_file : Buffer UInt8 2
deriving DecidableEq

/-- As `ctapiInit` leaves them. -/
def Files.initial : Files := ⟨(Buffer.filled 10 0).store 0 [0x3f, 0x00] (by simp), 2, .filled 2 0⟩

/-- `reader_path_len==length && memcmp(reader_path,path,length)==0` -/
def Files.PathIs (files : Files) (path : List UInt8) : Prop :=
  files.reader_path_len = path.length ∧ files.reader_path.cells.take path.length = path

instance (files : Files) (path : List UInt8) : Decidable (files.PathIs path) :=
  inferInstanceAs (Decidable (_ ∧ _))

def Applies (branch : SelectBranch) (files : Files) (data : List UInt8) : Prop :=
  data = branch.file ∧ ∀ path ∈ branch.path, files.PathIs path

instance (branch : SelectBranch) (files : Files) (data : List UInt8) : Decidable (Applies branch files data) :=
  inferInstanceAs (Decidable (_ ∧ ∀ path ∈ branch.path, files.PathIs path))

theorem room_root (first second : UInt8) : 0 + [first, second].length ≤ 10 := by simp

theorem room_directory (first second : UInt8) : 2 + [first, second].length ≤ 10 := by simp

theorem length_file (first second : UInt8) : [first, second].length = 2 := rfl

def enter (branch : SelectBranch) (files : Files) (first second : UInt8) : Files :=
  if branch.directory = true then
    branch.path.elim ⟨files.reader_path.store 0 [first, second] (room_root first second), 2, .filled 2 0⟩
      fun _ => ⟨files.reader_path.store 2 [first, second] (room_directory first second), 4, .filled 2 0⟩
  else { files with reader_file := ⟨[first, second], length_file first second⟩ }

/-- The branches of SELECT in their order. -/
def selectBranches : List SelectBranch :=
  [⟨[0x3f, 0x00], none, true,
      [0x00, 0x2d, 0x00, 0x2d, 0x88, 0x00, 0x00, 0x00, 0x00, 0x00, 0x90, 0x00]⟩,
    ⟨[0x00, 0x20], some [0x3f, 0x00], false,
      [0x00, 0x0e, 0x00, 0x0e, 0x08, 0x00, 0x00, 0x00, 0x00, 0x00, 0x90, 0x00]⟩,
    ⟨[0x7f, 0x60], some [0x3f, 0x00], true,
      [0x00, 0x05, 0x00, 0x05, 0x88, 0x00, 0x00, 0x00, 0x00, 0x00, 0x90, 0x00]⟩,
    ⟨[0x60, 0x20], some [0x3f, 0x00, 0x7f, 0x60], false,
      [0x00, 0x10, 0x00, 0x10, 0x08, 0x00, 0x00, 0x00, 0x00, 0x00, 0x90, 0x00]⟩,
    ⟨[0x60, 0x21], some [0x3f, 0x00, 0x7f, 0x60], false,
      [0x00, 0x10, 0x00, 0x10, 0x08, 0x00, 0x00, 0x00, 0x00, 0x00, 0x90, 0x00]⟩,
    ⟨[0x60, 0x30], some [0x3f, 0x00, 0x7f, 0x60], false,
      [0x00, 0x04, 0x00, 0x04, 0x08, 0x00, 0x00, 0x00, 0x00, 0x00, 0x90, 0x00]⟩,
    ⟨[0x60, 0x31], some [0x3f, 0x00, 0x7f, 0x60], false,
      [0x00, 0x03, 0x00, 0x03, 0x08, 0x00, 0x00, 0x00, 0x00, 0x00, 0x90, 0x00]⟩,
    ⟨[0x7f, 0x70], some [0x3f, 0x00], true,
      [0x00, 0x19, 0x00, 0x19, 0x88, 0x00, 0x00, 0x00, 0x00, 0x00, 0x90, 0x00]⟩,
    ⟨[0x70, 0x20], some [0x3f, 0x00, 0x7f, 0x70], false,
      [0x00, 0x0f, 0x00, 0x0f, 0x08, 0x00, 0x00, 0x00, 0x00, 0x00, 0x90, 0x00]⟩,
    ⟨[0x70, 0x21], some [0x3f, 0x00, 0x7f, 0x70], false,
      [0x00, 0x10, 0x00, 0x10, 0x08, 0x00, 0x00, 0x00, 0x00, 0x00, 0x90, 0x00]⟩]

/-- `cmd[1]==0xa4`; the bytes behind a command that ends earlier are read, too. -/
def selectFile (files : Files) (call : CtCall) : CtReturn × Files :=
  if call.cmd 2 ≠ 0 ∨ call.cmd 3 ≠ 0 then (call.status 0x6A 0x00, files)
  else if call.cmd 4 ≠ 2 then (call.status 0x67 0x00, files)
  else
    match selectBranches.find? fun branch => Applies branch files (bytesAt call.cmd 5 2) with
    | none => (call.status 0x6A 0x82, files)
    | some branch =>
        if call.lenr < 12 then (call.noRoom, files)
        else (call.answers branch.answer 12, enter branch files (call.cmd 5) (call.cmd 6))

def ReadApplies (branch : ReadBranch) (files : Files) : Prop :=
  files.PathIs branch.path ∧ files.reader_file.cells = branch.file

instance (branch : ReadBranch) (files : Files) : Decidable (ReadApplies branch files) :=
  inferInstanceAs (Decidable (_ ∧ _))

/-- The branches of READ BINARY in their order; the last one copies 17 bytes of 18. -/
def readBranches : List ReadBranch :=
  [⟨[0x3f, 0x00], [0x00, 0x20], 16,
      [0x01, 0x05, 0x43, 0x4a, 0x50, 0x50, 0x41, 0x02, 0x01, 0x00, 0x03, 0x02, 0x20, 0x00, 0x90, 0x00], 16⟩,
    ⟨[0x3f, 0x00, 0x7f, 0x60], [0x60, 0x20], 18,
      [0x03, 0x02, 0x20, 0x00, 0x10, 0x01, 0x00, 0x11, 0x01, 0x00, 0x12, 0x01, 0x00, 0x13, 0x01, 0x00, 0x90, 0x00],
      18⟩,
    ⟨[0x3f, 0x00, 0x7f, 0x60], [0x60, 0x21], 18,
      [0x03, 0x02, 0x20, 0x00, 0x10, 0x01, 0x00, 0x11, 0x01, 0x00, 0x12, 0x01, 0x00, 0x13, 0x01, 0x00, 0x90, 0x00],
      18⟩,
    ⟨[0x3f, 0x00, 0x7f, 0x60], [0x60, 0x30], 6, [0x30, 0x02, 0x01, 0x03, 0x90, 0x00], 6⟩,
    ⟨[0x3f, 0x00, 0x7f, 0x60], [0x60, 0x31], 5, [0x30, 0x01, 0xff, 0x90, 0x00], 5⟩,
    ⟨[0x3f, 0x00, 0x7f, 0x70], [0x70, 0x20], 17,
      [0x03, 0x02, 0x20, 0x00, 0x20, 0x01, 0x81, 0x22, 0x06, 0x01, 0x02, 0x03, 0x80, 0x81, 0x82, 0x90, 0x00], 17⟩,
    ⟨[0x3f, 0x00, 0x7f, 0x70], [0x70, 0x21], 18,
      [0x03, 0x02, 0x20, 0x00, 0x21, 0x02, 0x01, 0x89, 0x22, 0x06, 0x01, 0x02, 0x03, 0x80, 0x81, 0x82, 0x90], 18⟩]

/-- `cmd[1]==0xb0` -/
def readBinary (files : Files) (call : CtCall) : CtReturn :=
  match readBranches.find? fun branch => ReadApplies branch files with
  | none => call.status 0x69 0x82
  | some branch =>
      if call.lenr < branch.room then call.noRoom else call.answers branch.copied branch.length

/-- A command with the class of the files, to the reader. -/
structure FileCall where
  call : CtCall
  toReader : call.ToReader
  cla : call.cmd 0 = 0x00

/-- `ctapiData_inner` for such a command. -/
def ctapiData_inner : Machine Files FileCall CtReturn := fun files ⟨call, _, _⟩ =>
  if call.lenc < 4 then (⟨-1, call.sad, call.dad, call.response, 0⟩, files)
  else if call.lenr < 2 then (⟨-11, call.sad, call.dad, call.response, 0⟩, files)
  else if WrongLength call.lenc call.cmd then (call.status 0x67 0x00, files)
  else if call.cmd 1 = 0xA4 then selectFile files call
  else if call.cmd 1 = 0xB0 then (readBinary files call, files)
  else (call.status 0x6D 0x00, files)

/-- `_CtData` for one; what it answers to other classes does not matter. -/
def _CtData (linux : Bool) (elsewhere : CtReturn) : Machine Eca.ReaderFiles FileCall CtReturn := fun files made =>
  ((ctData linux files made.call elsewhere).2, (ctData linux files made.call elsewhere).1)

/-! ## The same selected in both -/

structure Same (files : Eca.ReaderFiles) (members : Files) : Prop where
  length : files.m_reader_path_len.toNat = members.reader_path_len
  path : files.m_reader_path.cells.take members.reader_path_len =
    members.reader_path.cells.take members.reader_path_len
  file : files.m_reader_file = members.reader_file

variable {linux : Bool} {elsewhere : CtReturn} {files : Eca.ReaderFiles} {members : Files} {call : CtCall}
  {lengths : Lengths}

theorem selectBranches_eq : selectBranches = Eca.selectBranches := by decide

theorem readBranches_eq : readBranches = Eca.readBranches := by decide

theorem Same.pathIs (same : Same files members) (path : List UInt8) : members.PathIs path ↔ files.PathIs path := by
  have cells := same.path
  rw [Files.PathIs, ReaderFiles.PathIs, same.length]
  refine and_congr_right fun length => ?_
  rw [length] at cells
  rw [cells]

theorem Same.find_select (same : Same files members) (data : List UInt8) :
    (selectBranches.find? fun branch => Applies branch members data) =
      Eca.selectBranches.find? fun branch => branch.Applies files data := by
  have applies : ∀ branch : SelectBranch, Applies branch members data ↔ branch.Applies files data := by
    intro branch
    simp only [Applies, SelectBranch.Applies, same.pathIs]
  simp only [selectBranches_eq, applies]

theorem Same.find_read (same : Same files members) :
    (readBranches.find? fun branch => ReadApplies branch members) =
      Eca.readBranches.find? fun branch => branch.Applies files := by
  have applies : ∀ branch : ReadBranch, ReadApplies branch members ↔ branch.Applies files := by
    intro branch
    simp only [ReadApplies, ReadBranch.Applies, same.pathIs, same.file]
  simp only [readBranches_eq, applies]

/-- What is copied behind a path both have is the same path in both. -/
theorem take_store_same {first second : Buffer UInt8 10} {offset : Nat} {data : List UInt8}
    (room : offset + data.length ≤ 10) (before : first.cells.take offset = second.cells.take offset) :
    (first.store offset data room).cells.take (offset + data.length) =
      (second.store offset data room).cells.take (offset + data.length) := by
  rw [Buffer.take_store, Buffer.take_store, before]

/-- The master file is entered from anywhere. -/
theorem same_root (files : Eca.ReaderFiles) (members : Files) (first second : UInt8) :
    Same ⟨files.m_reader_path.store 0 [first, second] (room_root first second), 2, .filled 2 0⟩
      ⟨members.reader_path.store 0 [first, second] (room_root first second), 2, .filled 2 0⟩ where
  length := rfl
  path := take_store_same (room_root first second) rfl
  file := rfl

theorem parent_of_directory : ∀ branch ∈ Eca.selectBranches, branch.directory = true →
    ∀ path ∈ branch.path, path.length = 2 := by
  decide

theorem Same.enter (same : Same files members) {branch : SelectBranch} (listed : branch ∈ Eca.selectBranches)
    {data : List UInt8} (applies : branch.Applies files data) (first second : UInt8) :
    Same (branch.enter files first second) (ReaderFiles.enter branch members first second) := by
  obtain ⟨file, path, directory, answer⟩ := branch
  cases directory with
  | false => exact ⟨same.length, same.path, rfl⟩
  | true =>
      cases path with
      | none => exact same_root files members first second
      | some path =>
          have two : path.length = 2 := parent_of_directory _ listed rfl path rfl
          have here := (same.pathIs path).mpr (applies.2 path rfl)
          have before := same.path
          rw [here.1, two] at before
          exact ⟨rfl, take_store_same (room_directory first second) before, rfl⟩

/-! ## A command answered -/

/-- Where both have the same length of data, or both have not the one of a file. -/
theorem Same.select (same : Same files members)
    (agree : call.cmd 2 = 0x00 → call.cmd 3 = 0x00 →
      (call.cmd 4 = 2 ↔ lengths.Lc = 2) ∧ (lengths.Lc = 2 → lengths.data_ptr = some 5)) :
    (Eca.selectFile files call lengths).2 = (selectFile members call).1 ∧
      Same (Eca.selectFile files call lengths).1 (selectFile members call).2 := by
  rw [Eca.selectFile, selectFile]
  split
  case isTrue parameters => exact ⟨rfl, same⟩
  case isFalse parameters =>
    rw [not_or, not_not, not_not] at parameters
    obtain ⟨count, behind⟩ := agree parameters.1 parameters.2
    by_cases two : lengths.Lc = 2
    · have data : call.data lengths = bytesAt call.cmd 5 2 := by
        simp only [CtCall.data, behind two, two]
        rfl
      rw [if_neg (not_not.mpr two), if_neg (not_not.mpr (count.mpr two)), data, same.find_select]
      cases found : Eca.selectBranches.find? fun branch => branch.Applies files (bytesAt call.cmd 5 2) with
      | none => exact ⟨rfl, same⟩
      | some branch =>
          have applies := List.find?_some found
          dsimp only
          split
          · exact ⟨rfl, same⟩
          · exact ⟨rfl, same.enter (List.mem_of_find?_eq_some found) (of_decide_eq_true applies) _ _⟩
    · rw [if_pos two, if_pos (mt count.mp two)]
      exact ⟨rfl, same⟩

theorem Same.read (same : Same files members) : Eca.readBinary files call = readBinary members call := by
  cases found : Eca.readBranches.find? fun branch => branch.Applies files with
  | none => simp [Eca.readBinary, readBinary, same.find_read, found]
  | some branch => simp [Eca.readBinary, readBinary, same.find_read, found]

/-! ## A length refused -/

theorem status_injective {sw1 sw2 other1 other2 : UInt8} (answered : call.status sw1 sw2 = call.status other1 other2) :
    sw1 = other1 ∧ sw2 = other2 := by
  have bytes := congrArg CtReturn.response answered
  exact ⟨congrFun bytes 0, congrFun bytes 1⟩

theorem noRoom_ne_status (call : CtCall) (sw1 sw2 : UInt8) : call.noRoom ≠ call.status sw1 sw2 := by
  intro answered
  cases congrArg CtReturn.ret answered

theorem answers_ne_status {copied : List UInt8} {length : Nat} (longer : length ≠ 2) (sw1 sw2 : UInt8) :
    call.answers copied length ≠ call.status sw1 sw2 :=
  fun answered => longer (congrArg CtReturn.lenr answered)

theorem status_not_refused {sw1 sw2 : UInt8} (other : sw1 ≠ 0x67) : call.status sw1 sw2 ≠ call.status 0x67 0x00 :=
  fun answered => other (status_injective answered).1

theorem granted_not_refused (branch : SelectBranch) :
    (if call.lenr < 12 then call.noRoom else call.answers branch.answer 12) ≠ call.status 0x67 0x00 := by
  split
  · exact noRoom_ne_status call _ _
  · exact answers_ne_status (by decide) _ _

/-- Only the length is answered with 67 00, where what is found never is. -/
theorem head_refused_iff {wrong : Prop} [Decidable wrong] {found : CtReturn} (other : found ≠ call.status 0x67 0x00) :
    (if call.cmd 2 ≠ 0x00 ∨ call.cmd 3 ≠ 0x00 then call.status 0x6A 0x00
        else if wrong then call.status 0x67 0x00 else found) = call.status 0x67 0x00 ↔
      (call.cmd 2 = 0x00 ∧ call.cmd 3 = 0x00) ∧ wrong := by
  split
  case isTrue parameters =>
    refine iff_of_false (status_not_refused (by decide)) fun refused => ?_
    exact parameters.elim (absurd refused.1.1) (absurd refused.1.2)
  case isFalse parameters =>
    rw [not_or, not_not, not_not] at parameters
    split
    case isTrue wrong => exact iff_of_true rfl ⟨parameters, wrong⟩
    case isFalse right => exact iff_of_false other fun refused => right refused.2

theorem select_refused_iff :
    (Eca.selectFile files call lengths).2 = call.status 0x67 0x00 ↔
      (call.cmd 2 = 0x00 ∧ call.cmd 3 = 0x00) ∧ lengths.Lc ≠ 2 := by
  rw [Eca.selectFile, apply_ite Prod.snd, apply_ite Prod.snd]
  refine head_refused_iff ?_
  cases Eca.selectBranches.find? fun branch => branch.Applies files (call.data lengths) with
  | none => exact status_not_refused (by decide)
  | some branch =>
      rw [apply_ite Prod.snd]
      exact granted_not_refused branch

theorem select_refused (zero : call.cmd 2 = 0x00 ∧ call.cmd 3 = 0x00) (other : lengths.Lc ≠ 2) :
    Eca.selectFile files call lengths = (files, call.status 0x67 0x00) := by
  simp only [Eca.selectFile, zero, other, ne_eq, not_true_eq_false, or_self, if_false, not_false_eq_true, if_true]

theorem ppa_select_refused_iff :
    (selectFile members call).1 = call.status 0x67 0x00 ↔
      (call.cmd 2 = 0x00 ∧ call.cmd 3 = 0x00) ∧ call.cmd 4 ≠ 2 := by
  rw [selectFile, apply_ite Prod.fst, apply_ite Prod.fst]
  refine head_refused_iff ?_
  cases selectBranches.find? fun branch => Applies branch members (bytesAt call.cmd 5 2) with
  | none => exact status_not_refused (by decide)
  | some branch =>
      rw [apply_ite Prod.fst]
      exact granted_not_refused branch

theorem read_length : ∀ branch ∈ Eca.readBranches, branch.length ≠ 2 := by decide

theorem read_not_refused : Eca.readBinary files call ≠ call.status 0x67 0x00 := by
  rw [Eca.readBinary]
  cases found : Eca.readBranches.find? fun branch => branch.Applies files with
  | none => exact status_not_refused (by decide)
  | some branch =>
      dsimp only
      split
      · exact noRoom_ne_status call _ _
      · exact answers_ne_status (read_length branch (List.mem_of_find?_eq_some found)) _ _

/-! ## The lengths of a command -/

/-- A length the older driver takes is a short one. -/
theorem parse_of_right (linux : Bool) (right : ¬ WrongLength call.lenc call.cmd) :
    ∃ lengths, parseLengths linux call.cmd call.lenc = some lengths ∧
      (call.lenc ≤ 5 ∧ lengths.Lc = -1 ∨
        5 < call.lenc ∧ lengths.Lc = (call.cmd 4).toNat ∧ lengths.data_ptr = some 5) := by
  have zero : call.cmd 4 = 0 ↔ (call.cmd 4).toNat = 0 := UInt8.toNat_inj.symm
  rw [WrongLength, zero] at right
  rw [parseLengths]
  split
  case isTrue five => exact ⟨_, rfl, .inl ⟨by omega, rfl⟩⟩
  case isFalse five =>
    split
    case isTrue data => exact ⟨_, rfl, .inr ⟨by omega, rfl, rfl⟩⟩
    case isFalse data =>
      split
      case isTrue expected => exact ⟨_, rfl, .inr ⟨by omega, rfl, rfl⟩⟩
      case isFalse expected =>
        have four : call.lenc = 4 := by
          rw [ne_eq, zero] at expected
          omega
        rw [if_neg (by omega), if_neg (by omega)]
        exact ⟨_, rfl, .inl ⟨by omega, rfl⟩⟩

theorem parse_of_short (short : call.lenc < 4) : parseLengths linux call.cmd call.lenc = none := by
  simp only [parseLengths]
  grind

/-! ## A call -/

def Selects (call : CtCall) : Prop := call.cmd 1 = 0xA4 ∧ call.cmd 2 = 0x00 ∧ call.cmd 3 = 0x00

/-- The commands both drivers answer alike: of those the older one has the length of, all but a SELECT without data
whose next byte in memory is 2; of the others, SELECT with an extended length that is not 2. -/
def Alike (linux : Bool) (call : CtCall) : Prop :=
  4 ≤ call.lenc ∧ (2 ≤ call.lenr →
    (¬ WrongLength call.lenc call.cmd → ¬ (Selects call ∧ call.lenc ≤ 5 ∧ call.cmd 4 = 2)) ∧
      (WrongLength call.lenc call.cmd → Selects call ∧
        ∃ lengths ∈ parseLengths linux call.cmd call.lenc, lengths.Lc ≠ 2))

instance (call : CtCall) : Decidable (Selects call) := inferInstanceAs (Decidable (_ ∧ _))

instance (linux : Bool) (call : CtCall) : Decidable (Alike linux call) := inferInstanceAs (Decidable (_ ∧ (_ → _)))

theorem short_alike (short : call.lenc < 4) (toReader : call.ToReader) (cla : call.cmd 0 = 0x00) :
    (_CtData linux elsewhere files ⟨call, toReader, cla⟩).1 ≠ (ctapiData_inner members ⟨call, toReader, cla⟩).1 := by
  intro answered
  have returned := congrArg CtReturn.ret answered
  simp only [_CtData, ctData, if_pos toReader, ctapiData_inner, if_pos short, parse_of_short short] at returned
  split at returned <;> simp at returned

/-- A command of a length the older driver has. -/
theorem right_alike (same : Same files members) (made : FileCall) (long : 4 ≤ made.call.lenc)
    (room : 2 ≤ made.call.lenr) (right : ¬ WrongLength made.call.lenc made.call.cmd) :
    ((_CtData linux elsewhere files made).1 = (ctapiData_inner members made).1 ↔
        ¬ (Selects made.call ∧ made.call.lenc ≤ 5 ∧ made.call.cmd 4 = 2)) ∧
      (¬ (Selects made.call ∧ made.call.lenc ≤ 5 ∧ made.call.cmd 4 = 2) →
        Same (_CtData linux elsewhere files made).2 (ctapiData_inner members made).2) := by
  obtain ⟨call, toReader, cla⟩ := made
  dsimp only at long room right
  obtain ⟨lengths, parsed, data⟩ := parse_of_right linux right
  simp only [_CtData, ctData_parsed toReader room parsed, readerCommand, if_pos cla, ctapiData_inner,
    if_neg (Nat.not_lt.mpr long), if_neg (Nat.not_lt.mpr room), if_neg right]
  split
  case isTrue select =>
    by_cases slip : Selects call ∧ call.lenc ≤ 5 ∧ call.cmd 4 = 2
    · refine ⟨iff_of_false (fun answered => ?_) (not_not.mpr slip), absurd slip⟩
      have none : lengths.Lc = -1 := data.elim And.right fun behind => absurd slip.2.1 (Nat.not_le.mpr behind.1)
      have refused : (Eca.selectFile files call lengths).2 = call.status 0x67 0x00 :=
        select_refused_iff.mpr ⟨slip.1.2, by omega⟩
      exact (ppa_select_refused_iff.mp (answered.symm.trans refused)).2 slip.2.2
    · have agree : call.cmd 2 = 0x00 → call.cmd 3 = 0x00 →
          (call.cmd 4 = 2 ↔ lengths.Lc = 2) ∧ (lengths.Lc = 2 → lengths.data_ptr = some 5) := by
        intro p1 p2
        have byte : call.cmd 4 = 2 ↔ (call.cmd 4).toNat = 2 := UInt8.toNat_inj.symm
        rcases data with ⟨without, none⟩ | ⟨behind, count, place⟩
        · exact ⟨iff_of_false (fun two => slip ⟨⟨select, p1, p2⟩, without, two⟩) (by omega), by omega⟩
        · exact ⟨by rw [byte]; omega, fun _ => place⟩
      obtain ⟨answered, after⟩ := same.select agree
      exact ⟨iff_of_true answered slip, fun _ => after⟩
  case isFalse other =>
    have selects : ¬ (Selects call ∧ call.lenc ≤ 5 ∧ call.cmd 4 = 2) := fun select => other select.1.1
    split
    · exact ⟨iff_of_true same.read selects, fun _ => same⟩
    · exact ⟨iff_of_true rfl selects, fun _ => same⟩

/-- One of another length: the older driver answers 67 00. -/
theorem wrong_alike (same : Same files members) (made : FileCall) (long : 4 ≤ made.call.lenc)
    (room : 2 ≤ made.call.lenr) (wrong : WrongLength made.call.lenc made.call.cmd) :
    ((_CtData linux elsewhere files made).1 = (ctapiData_inner members made).1 ↔ Selects made.call ∧
        ∃ lengths ∈ parseLengths linux made.call.cmd made.call.lenc, lengths.Lc ≠ 2) ∧
      ((_CtData linux elsewhere files made).1 = (ctapiData_inner members made).1 →
        Same (_CtData linux elsewhere files made).2 (ctapiData_inner members made).2) := by
  obtain ⟨call, toReader, cla⟩ := made
  simp only [ctapiData_inner, if_neg (Nat.not_lt.mpr long), if_neg (Nat.not_lt.mpr room), if_pos wrong]
  cases parsed : parseLengths linux call.cmd call.lenc with
  | none =>
      have differ : (_CtData linux elsewhere files ⟨call, toReader, cla⟩).1 ≠ call.status 0x67 0x00 := by
        intro answered
        have sad := congrArg CtReturn.sad answered
        simp only [_CtData, ctData, if_pos toReader, if_neg (Nat.not_lt.mpr room), parsed, toReader.2] at sad
        exact absurd sad (by decide : ¬ (2 : UInt8) = 1)
      exact ⟨iff_of_false differ (by simp), fun answered => absurd answered differ⟩
  | some lengths =>
      simp only [_CtData, ctData_parsed toReader room parsed, readerCommand, if_pos cla, Option.mem_some_iff,
        exists_eq_left']
      split
      case isTrue select =>
        have parameters : Selects call ↔ call.cmd 2 = 0x00 ∧ call.cmd 3 = 0x00 := and_iff_right select
        rw [parameters]
        refine ⟨select_refused_iff, fun answered => ?_⟩
        obtain ⟨zero, other⟩ := select_refused_iff.mp answered
        rw [select_refused zero other]
        exact same
      case isFalse other =>
        have selects : ¬ (Selects call ∧ lengths.Lc ≠ 2) := fun select => other select.1.1
        split
        · exact ⟨iff_of_false read_not_refused selects, fun _ => same⟩
        · exact ⟨iff_of_false (status_not_refused (by decide)) selects, fun _ => same⟩

/-- One call, where the same is selected in both. -/
theorem Same.step (same : Same files members) (made : FileCall) :
    ((_CtData linux elsewhere files made).1 = (ctapiData_inner members made).1 ↔ Alike linux made.call) ∧
      (Alike linux made.call → Same (_CtData linux elsewhere files made).2 (ctapiData_inner members made).2) := by
  obtain short | long := Nat.lt_or_ge made.call.lenc 4
  · have differ : ¬ Alike linux made.call := fun alike => absurd alike.1 (Nat.not_le.mpr short)
    exact ⟨iff_of_false (short_alike short made.toReader made.cla) differ, fun alike => absurd alike differ⟩
  · obtain small | room := Nat.lt_or_ge made.call.lenr 2
    · have alike : Alike linux made.call := ⟨long, fun room => absurd room (Nat.not_le.mpr small)⟩
      simp only [_CtData, ctData, if_pos made.toReader, if_pos small, ctapiData_inner, if_neg (Nat.not_lt.mpr long)]
      exact ⟨iff_of_true trivial alike, fun _ => same⟩
    · by_cases wrong : WrongLength made.call.lenc made.call.cmd
      · have alike : Alike linux made.call ↔ Selects made.call ∧
            ∃ lengths ∈ parseLengths linux made.call.cmd made.call.lenc, lengths.Lc ≠ 2 := by
          simp only [Alike, long, room, wrong, true_and, forall_const, not_true_eq_false, false_imp_iff]
        obtain ⟨answered, after⟩ := wrong_alike same made long room wrong
        exact ⟨answered.trans alike.symm, fun served => after (answered.mpr (alike.mp served))⟩
      · have alike : Alike linux made.call ↔
            ¬ (Selects made.call ∧ made.call.lenc ≤ 5 ∧ made.call.cmd 4 = 2) := by
          simp only [Alike, long, room, wrong, true_and, forall_const, not_false_eq_true, false_imp_iff, and_true]
        obtain ⟨answered, after⟩ := right_alike same made long room wrong
        exact ⟨answered.trans alike.symm, fun served => after (alike.mp served)⟩

/-! ## A run -/

/-- SELECT of the master file, with room for the answer. -/
def EntersRoot (call : CtCall) : Prop :=
  (call.lenc = 7 ∨ call.lenc = 8) ∧ bytesAt call.cmd 1 6 = [0xA4, 0x00, 0x00, 0x02, 0x3F, 0x00] ∧ 12 ≤ call.lenr

instance (call : CtCall) : Decidable (EntersRoot call) := inferInstanceAs (Decidable (_ ∧ _))

theorem bytes_of_root (root : EntersRoot call) :
    call.cmd 1 = 0xA4 ∧ call.cmd 2 = 0x00 ∧ call.cmd 3 = 0x00 ∧ call.cmd 4 = 2 ∧ call.cmd 5 = 0x3F ∧
      call.cmd 6 = 0x00 := by
  have bytes := root.2.1
  simpa only [bytesAt, List.range_succ, List.range_zero, List.nil_append, List.cons_append, List.map_cons,
    List.map_nil, Nat.add_zero, Nat.reduceAdd, List.cons.injEq, and_true] using bytes

theorem right_of_root (root : EntersRoot call) : ¬ WrongLength call.lenc call.cmd := by
  obtain ⟨-, -, -, lc, -, -⟩ := bytes_of_root root
  simp only [WrongLength, lc]
  rcases root.1 with seven | eight
  · simp [seven]
  · simp [eight]

theorem parse_of_root (linux : Bool) (root : EntersRoot call) :
    ∃ lengths, parseLengths linux call.cmd call.lenc = some lengths ∧ lengths.Lc = 2 ∧
      call.data lengths = [0x3f, 0x00] := by
  obtain ⟨-, -, -, lc, high, low⟩ := bytes_of_root root
  obtain ⟨lengths, parsed, short | ⟨-, count, behind⟩⟩ := parse_of_right linux (right_of_root root)
  · have lenc := root.1
    omega
  · have two : lengths.Lc = 2 := by
      rw [count, lc]
      rfl
    refine ⟨lengths, parsed, two, ?_⟩
    simp [CtCall.data, behind, two, List.range_succ, high, low]

/-- The master file is found whatever is selected. -/
theorem find_root (files : Eca.ReaderFiles) :
    Eca.selectBranches.find? (fun branch => branch.Applies files [0x3f, 0x00]) =
      some ⟨[0x3f, 0x00], none, true,
        [0x00, 0x2d, 0x00, 0x2d, 0x88, 0x00, 0x00, 0x00, 0x00, 0x00, 0x90, 0x00]⟩ :=
  List.find?_cons_of_pos (decide_eq_true ⟨rfl, fun _ named => nomatch named⟩)

theorem ppa_find_root (members : Files) :
    selectBranches.find? (fun branch => Applies branch members [0x3f, 0x00]) =
      some ⟨[0x3f, 0x00], none, true,
        [0x00, 0x2d, 0x00, 0x2d, 0x88, 0x00, 0x00, 0x00, 0x00, 0x00, 0x90, 0x00]⟩ :=
  List.find?_cons_of_pos (decide_eq_true ⟨rfl, fun _ named => nomatch named⟩)

/-- It makes the same selected, whatever the members were. -/
theorem enters_root {first : FileCall} (root : EntersRoot first.call) :
    (_CtData linux elsewhere files first).1 = (ctapiData_inner members first).1 ∧
      Same (_CtData linux elsewhere files first).2 (ctapiData_inner members first).2 := by
  obtain ⟨call, toReader, cla⟩ := first
  dsimp only at root
  obtain ⟨ins, p1, p2, lc, high, low⟩ := bytes_of_root root
  obtain ⟨lengths, parsed, two, data⟩ := parse_of_root linux root
  have named : bytesAt call.cmd 5 2 = [0x3f, 0x00] := by
    simp [bytesAt, List.range_succ, high, low]
  have long : ¬ call.lenc < 4 := by
    have lenc := root.1
    omega
  have room : 2 ≤ call.lenr := Nat.le_trans (by decide) root.2.2
  simp only [_CtData, ctData_parsed toReader room parsed, readerCommand, if_pos cla, if_pos ins, Eca.selectFile, p1, p2,
    two, data, find_root, ctapiData_inner, if_neg long, if_neg (Nat.not_lt.mpr room), if_neg (right_of_root root),
    selectFile, lc, named, ppa_find_root, if_neg (Nat.not_lt.mpr root.2.2), ne_eq, not_true_eq_false, or_self, if_false,
    true_and]
  exact same_root files members _ _

/-- Behind a SELECT of the master file both drivers answer a run of commands the same exactly if they are all of those
both answer alike. -/
theorem drivers_alike_iff (linux : Bool) (elsewhere : CtReturn) (files : Eca.ReaderFiles) (members : Files)
    {first : FileCall} (root : EntersRoot first.call) (requests : List FileCall) :
    (history (_CtData linux elsewhere) files (first :: requests)).map Entry.answer =
        (history ctapiData_inner members (first :: requests)).map Entry.answer ↔
      ∀ request ∈ requests, Alike linux request.call := by
  obtain ⟨answered, same⟩ := enters_root root
  rw [history_cons, history_cons, List.map_cons, List.map_cons, List.cons.injEq]
  refine (and_iff_right answered).trans ?_
  exact answers_eq_iff (fun _ _ request same => (same.step request).1) (fun _ _ request same => (same.step request).2)
    same requests

/-- A command at the start of a memory of zeros, with 18 bytes of room for its answer. -/
def fileCall (command : List UInt8) (cla : inMemory command 0 = 0x00) : FileCall := ⟨readerCall command, ⟨rfl, rfl⟩, cla⟩

/-- The members of the newer driver hold anything at first; 60 30 is selected and read. -/
theorem drivers_alike_selected :
    (history (_CtData true (readerCall []).noRoom) ⟨.filled 10 0x5A, 4, .filled 2 0x5A⟩
        [fileCall [0x00, 0xA4, 0x00, 0x00, 0x02, 0x3F, 0x00] rfl,
          fileCall [0x00, 0xA4, 0x00, 0x00, 0x02, 0x7F, 0x60] rfl,
          fileCall [0x00, 0xA4, 0x00, 0x00, 0x02, 0x60, 0x30] rfl,
          fileCall [0x00, 0xB0, 0x00, 0x00, 0x00] rfl]).map Entry.answer =
      (history ctapiData_inner .initial
        [fileCall [0x00, 0xA4, 0x00, 0x00, 0x02, 0x3F, 0x00] rfl,
          fileCall [0x00, 0xA4, 0x00, 0x00, 0x02, 0x7F, 0x60] rfl,
          fileCall [0x00, 0xA4, 0x00, 0x00, 0x02, 0x60, 0x30] rfl,
          fileCall [0x00, 0xB0, 0x00, 0x00, 0x00] rfl]).map Entry.answer :=
  (drivers_alike_iff true _ _ _ (by decide) _).mpr (by decide)

end Cyberjack.Ppa.ReaderFiles
