import Cyberjack.Eca.PromptTexts
import Cyberjack.Foundation.Word

namespace Cyberjack.Ctapi.ShowDialog

open Cyberjack.Foundation Cyberjack.Eca

/-! # What is shown with a command

`showDialogIfRequired` of `ctapi.cpp`, which looks at a command before any driver does.  It goes through the
data objects up to Lc, whatever the length of the command is.
-/

/-- The arrays that texts are copied to. -/
inductive Destination where
  | customDisplayText1
  | customDisplayText2
  | customDisplayText3
  | title
  | textStage0
  | textStage1
  | textStage2
deriving Repr, DecidableEq

def Destination.size : Destination → Nat
  | .customDisplayText1 => 256
  | .customDisplayText2 => 256
  | .customDisplayText3 => 256
  | .title => 128
  | .textStage0 => 512
  | .textStage1 => 512
  | .textStage2 => 512

/-- How many bytes are written from the beginning of an array. -/
structure Copy where
  destination : Destination
  count : Nat
deriving Repr, DecidableEq

/-- What the function knows, and the bytes of the command it has looked at. -/
structure Inspection where
  customDisplayText1 : List UInt8
  customDisplayText2 : List UInt8
  customDisplayText3 : List UInt8
  timeOut : Int
  variablePINLength : Bool
  noOfStages : Nat
  inspected : List Nat
  copies : List Copy
deriving Repr, DecidableEq

/-- `ctCmd[i+1]` -/
def cmdLen (command : Nat → UInt8) (i : Nat) : Nat := (command (5 + i + 1)).toNat

/-- A C string in an array. -/
def cString (bytes : List UInt8) : List UInt8 := bytes.takeWhile (· ≠ 0)

/-- The bytes behind the header of an object that its tag makes the function look at. -/
def neededBytes (command : Nat → UInt8) (i : Nat) : Nat :=
  match command (5 + i) with
  | 0x50 => cmdLen command i
  | 0x61 => cmdLen command i
  | 0x62 => cmdLen command i
  | 0x80 => cmdLen command i
  | 0x52 => if command 1 = 0x19 then 3 else 1
  | _ => 0

/-- A pass of the loop. -/
def inspect (command : Nat → UInt8) (i : Nat) (seen : Inspection) : Inspection :=
  let data := bytesAt command (5 + i + 2) (cmdLen command i)
  let seen := { seen with inspected := seen.inspected ++ List.range' (5 + i) (2 + neededBytes command i) }
  match command (5 + i) with
  | 0x50 =>
      { seen with
        customDisplayText1 := cString data
        copies := seen.copies ++ [⟨.customDisplayText1, cmdLen command i + 1⟩] }
  | 0x61 =>
      { seen with
        customDisplayText2 := cString data
        copies := seen.copies ++ [⟨.customDisplayText2, cmdLen command i + 1⟩] }
  | 0x62 =>
      { seen with
        customDisplayText3 := cString data
        copies := seen.copies ++ [⟨.customDisplayText3, cmdLen command i + 1⟩] }
  | 0x80 => { seen with timeOut := data.foldl (fun timeOut byte => int32 (timeOut * 256 + byte.toNat)) 0 }
  | 0x52 =>
      { seen with
        variablePINLength := seen.variablePINLength || decide (command (5 + i + 2) &&& 0x80 = 0)
        noOfStages :=
          if command 1 = 0x19 then if command (5 + i + 3) = command (5 + i + 4) then 2 else 3 else 1 }
  | _ => seen

/-- The loop; `none` where the passes do not suffice. -/
def scan (command : Nat → UInt8) : Nat → Nat → Inspection → Option Inspection
  | 0, _, _ => none
  | passes + 1, i, seen =>
      if i < (command 4).toNat then scan command passes (i + (cmdLen command i + 2)) (inspect command i seen)
      else some seen

/-- The `strncpy` calls of `rsct_dialog_open` for what `rsct_dialog_new` has kept. -/
def rsct_dialog_open (seen : Inspection) : Inspection :=
  let stage (index : Nat) (text : List UInt8) (destination : Destination) : List Copy :=
    if seen.noOfStages > index ∧ text ≠ [] then [⟨destination, 512 - 1⟩] else []
  { seen with
    copies := seen.copies ++ [⟨.title, 128 - 1⟩] ++ stage 0 seen.customDisplayText1 .textStage0 ++
      stage 1 seen.customDisplayText2 .textStage1 ++ stage 2 seen.customDisplayText3 .textStage2 }

/-- What the function begins with. -/
def nothingSeen (inspected : List Nat) : Inspection := ⟨[], [], [], 15, false, 1, inspected, []⟩

def showDialogIfRequired (passes : Nat) (dad sad : UInt8) (lenc : Nat) (command : Nat → UInt8) : Option Inspection :=
  if lenc > 4 ∧ dad = 1 ∧ sad = 2 then
    if command 0 = 0x20 then
      if command 1 = 0x18 ∨ command 1 = 0x19 then
        (scan command passes 0 (nothingSeen [0, 1, 4])).map rsct_dialog_open
      else some (nothingSeen [0, 1])
    else some (nothingSeen [0])
  else some (nothingSeen [])

/-! ## What should be looked at -/

/-- The function ends, nothing outside the command is looked at and no array is left. -/
def InspectionRight (dad sad : UInt8) (lenc : Nat) (command : Nat → UInt8) : Prop :=
  ∃ passes seen, showDialogIfRequired passes dad sad lenc command = some seen ∧
    (∀ index ∈ seen.inspected, index < lenc) ∧ ∀ copy ∈ seen.copies, copy.count ≤ copy.destination.size

/-- The commands that are gone through. -/
def Searched (dad sad : UInt8) (lenc : Nat) (command : Nat → UInt8) : Prop :=
  lenc > 4 ∧ dad = 1 ∧ sad = 2 ∧ command 0 = 0x20 ∧ (command 1 = 0x18 ∨ command 1 = 0x19)

/-- Every object that begins within Lc, the data field being taken as one object behind the other, lies in the
command with its header and the bytes its tag is looked at for. -/
def ObjectsCovered (lenc : Nat) (command : Nat → UInt8) : Prop :=
  ∀ objects, Eca.Stands command 5 objects → (DataObject.encodeAll objects).length < (command 4).toNat →
    5 + (DataObject.encodeAll objects).length + 2 + neededBytes command (DataObject.encodeAll objects).length ≤ lenc

/-! ## One pass -/

variable {command : Nat → UInt8} {passes i lenc : Nat} {seen final : Inspection}

theorem inspect_inspected :
    (inspect command i seen).inspected = seen.inspected ++ List.range' (5 + i) (2 + neededBytes command i) := by
  unfold inspect
  split <;> rfl

theorem inspect_inside :
    (∀ index ∈ (inspect command i seen).inspected, index < lenc) ↔
      (∀ index ∈ seen.inspected, index < lenc) ∧ 5 + i + 2 + neededBytes command i ≤ lenc := by
  simp only [inspect_inspected, List.mem_append, List.mem_range'_1, or_imp, forall_and]
  apply and_congr_right
  intro _
  constructor
  · intro all
    have last := all (5 + i + 1 + neededBytes command i) (by omega)
    omega
  · intro fits index member
    omega

theorem inspect_copies (fits : ∀ copy ∈ seen.copies, copy.count ≤ copy.destination.size) :
    ∀ copy ∈ (inspect command i seen).copies, copy.count ≤ copy.destination.size := by
  have text (destination : Destination) (size : destination.size = 256) :
      ∀ copy ∈ seen.copies ++ [⟨destination, cmdLen command i + 1⟩], copy.count ≤ copy.destination.size := by
    have bound : cmdLen command i < 256 := UInt8.toNat_lt _
    refine List.forall_mem_append.mpr ⟨fits, List.forall_mem_singleton.mpr ?_⟩
    rw [size]
    exact bound
  unfold inspect
  split
  · exact text .customDisplayText1 rfl
  · exact text .customDisplayText2 rfl
  · exact text .customDisplayText3 rfl
  · exact fits
  · exact fits
  · exact fits

/-! ## The loop -/

/-- The objects that begin behind an offset, within Lc. -/
def CoveredFrom (lenc : Nat) (command : Nat → UInt8) (i : Nat) : Prop :=
  ∀ objects, Eca.Stands command (5 + i) objects → i + (DataObject.encodeAll objects).length < (command 4).toNat →
    5 + (i + (DataObject.encodeAll objects).length) + 2 +
      neededBytes command (i + (DataObject.encodeAll objects).length) ≤ lenc

theorem covered_end (ends : ¬ i < (command 4).toNat) : CoveredFrom lenc command i := by
  intro objects _ begins
  omega

/-- The object at an offset, and those behind it. -/
theorem covered_next (more : i < (command 4).toNat) :
    CoveredFrom lenc command i ↔
      5 + i + 2 + neededBytes command i ≤ lenc ∧ CoveredFrom lenc command (i + (cmdLen command i + 2)) := by
  constructor
  · intro covered
    constructor
    · exact covered [] rfl more
    · intro objects stands begins
      have bounded : (bytesAt command (5 + i + 2) (cmdLen command i)).length < 256 := by
        rw [length_bytesAt]
        exact UInt8.toNat_lt _
      have length := length_bytesAt command (5 + i + 2) (cmdLen command i)
      have here : Eca.Stands command (5 + i)
          (⟨command (5 + i), bytesAt command (5 + i + 2) (cmdLen command i), bounded⟩ :: objects) := by
        apply stands_cons.mpr
        refine ⟨rfl, length.symm, by rw [length], ?_⟩
        rw [length]
        have place : 5 + i + 2 + cmdLen command i = 5 + (i + (cmdLen command i + 2)) := by omega
        rw [place]
        exact stands
      have whole := covered _ here
      rw [encodeAll_length_cons, length] at whole
      rw [Nat.add_assoc i] at begins ⊢
      exact whole begins
  · intro both objects stands begins
    cases objects with
    | nil => exact both.1
    | cons object rest =>
        obtain ⟨_, length, _, behind⟩ := stands_cons.mp stands
        have later := both.2 rest
        rw [cmdLen, length] at later
        rw [encodeAll_length_cons] at begins ⊢
        have place : 5 + i + 2 + object.value.length = 5 + (i + (object.value.length + 2)) := by omega
        rw [place] at behind
        rw [← Nat.add_assoc i] at begins ⊢
        exact later behind begins

theorem scan_inside_iff (scanned : scan command passes i seen = some final) :
    (∀ index ∈ final.inspected, index < lenc) ↔
      (∀ index ∈ seen.inspected, index < lenc) ∧ CoveredFrom lenc command i := by
  induction passes generalizing i seen with
  | zero => contradiction
  | succ passes ih =>
      rw [scan] at scanned
      split at scanned
      · rename_i more
        rw [ih scanned, inspect_inside, covered_next more, and_assoc]
      · rename_i ends
        cases scanned
        exact (and_iff_left (covered_end ends)).symm

theorem scan_copies (scanned : scan command passes i seen = some final)
    (fits : ∀ copy ∈ seen.copies, copy.count ≤ copy.destination.size) :
    ∀ copy ∈ final.copies, copy.count ≤ copy.destination.size := by
  induction passes generalizing i seen with
  | zero => contradiction
  | succ passes ih =>
      rw [scan] at scanned
      split at scanned
      · exact ih scanned (inspect_copies fits)
      · cases scanned
        exact fits

/-- Every pass goes on behind a header at least. -/
theorem scan_ends (enough : (command 4).toNat ≤ i + passes) (seen : Inspection) :
    ∃ final, scan command (passes + 1) i seen = some final := by
  induction passes generalizing i seen with
  | zero =>
      rw [scan, if_neg (by omega)]
      exact ⟨seen, rfl⟩
  | succ passes ih =>
      rw [scan]
      split
      · exact ih (by omega) _
      · exact ⟨seen, rfl⟩

theorem rsct_dialog_open_copies (fits : ∀ copy ∈ seen.copies, copy.count ≤ copy.destination.size) :
    ∀ copy ∈ (rsct_dialog_open seen).copies, copy.count ≤ copy.destination.size := by
  have stage {index : Nat} {text : List UInt8} {destination : Destination} (size : destination.size = 512) :
      ∀ copy ∈ (if seen.noOfStages > index ∧ text ≠ [] then [⟨destination, 512 - 1⟩] else [] : List Copy),
        copy.count ≤ copy.destination.size := by
    split
    · intro copy member
      rw [List.mem_singleton.mp member]
      dsimp only
      rw [size]
      decide
    · exact List.forall_mem_nil _
  simp only [rsct_dialog_open, List.forall_mem_append]
  exact ⟨⟨⟨⟨fits, List.forall_mem_singleton.mpr (by decide)⟩, stage rfl⟩, stage rfl⟩, stage rfl⟩

/-- A command that is not gone through shows no more than its first two bytes. -/
theorem right_of_header {dad sad : UInt8} {inspected : List Nat}
    (shown : showDialogIfRequired 0 dad sad lenc command = some (nothingSeen inspected))
    (inside : ∀ index ∈ inspected, index < lenc) : InspectionRight dad sad lenc command :=
  ⟨0, _, shown, inside, List.forall_mem_nil _⟩

theorem right_of_unsearched {dad sad : UInt8} (other : ¬ Searched dad sad lenc command) :
    InspectionRight dad sad lenc command := by
  by_cases addressed : lenc > 4 ∧ dad = 1 ∧ sad = 2
  · have long : 4 < lenc := addressed.1
    by_cases cla : command 0 = 0x20
    · have ins : ¬ (command 1 = 0x18 ∨ command 1 = 0x19) :=
        fun ins => other ⟨addressed.1, addressed.2.1, addressed.2.2, cla, ins⟩
      apply @right_of_header _ _ _ _ [0, 1]
      · rw [showDialogIfRequired, if_pos addressed, if_pos cla, if_neg ins]
      · intro index member
        simp only [List.mem_cons, List.not_mem_nil, or_false] at member
        omega
    · apply @right_of_header _ _ _ _ [0]
      · rw [showDialogIfRequired, if_pos addressed, if_neg cla]
      · intro index member
        simp only [List.mem_cons, List.not_mem_nil, or_false] at member
        omega
  · apply @right_of_header _ _ _ _ []
    · rw [showDialogIfRequired, if_neg addressed]
    · exact List.forall_mem_nil _

theorem show_searched {dad sad : UInt8} (searched : Searched dad sad lenc command) (passes : Nat) :
    showDialogIfRequired passes dad sad lenc command =
      (scan command passes 0 (nothingSeen [0, 1, 4])).map rsct_dialog_open := by
  obtain ⟨long, dad, sad, cla, ins⟩ := searched
  rw [showDialogIfRequired, if_pos ⟨long, dad, sad⟩, if_pos cla, if_pos ins]

theorem covered_zero : CoveredFrom lenc command 0 ↔ ObjectsCovered lenc command := by
  simp only [CoveredFrom, ObjectsCovered, Nat.zero_add, Nat.add_zero]

theorem right_iff_of_searched {dad sad : UInt8} (searched : Searched dad sad lenc command) :
    InspectionRight dad sad lenc command ↔ ObjectsCovered lenc command := by
  have long : 4 < lenc := searched.1
  have header : ∀ index ∈ (nothingSeen [0, 1, 4]).inspected, index < lenc := by
    intro index member
    simp only [nothingSeen, List.mem_cons, List.not_mem_nil, or_false] at member
    omega
  rw [← covered_zero]
  constructor
  · intro right
    obtain ⟨passes, seen, shown, inside, _⟩ := right
    rw [show_searched searched, Option.map_eq_some_iff] at shown
    obtain ⟨final, scanned, rfl⟩ := shown
    exact ((scan_inside_iff scanned).mp inside).2
  · intro covered
    obtain ⟨final, scanned⟩ := scan_ends (Nat.le_add_left _ 0) (nothingSeen [0, 1, 4])
    refine ⟨(command 4).toNat + 1, rsct_dialog_open final, ?_, ?_, ?_⟩
    · rw [show_searched searched, scanned, Option.map_some]
    · exact (scan_inside_iff scanned).mpr ⟨header, covered⟩
    · exact rsct_dialog_open_copies (scan_copies scanned (List.forall_mem_nil _))

/-- Only the command is looked at exactly where it covers the objects that begin within Lc. -/
theorem show_dialog_right_iff (dad sad : UInt8) (lenc : Nat) (command : Nat → UInt8) :
    InspectionRight dad sad lenc command ↔ (Searched dad sad lenc command → ObjectsCovered lenc command) := by
  by_cases searched : Searched dad sad lenc command
  · rw [right_iff_of_searched searched]
    exact ⟨fun covered _ => covered, fun covered => covered searched⟩
  · exact ⟨fun _ other => absurd other searched, fun _ => right_of_unsearched searched⟩

/-- PERFORM VERIFICATION with an Lc of sixteen and no data field. -/
def onlyHeader : Nat → UInt8 := inMemory [0x20, 0x18, 0x01, 0x00, 0x10]

theorem show_dialog_not_right :
    (showDialogIfRequired 9 1 2 5 onlyHeader).map Inspection.inspected =
        some ([0, 1, 4] ++ [5, 6, 7, 8, 9, 10, 11, 12, 13, 14, 15, 16, 17, 18, 19, 20]) ∧
      ¬ InspectionRight 1 2 5 onlyHeader := by
  refine ⟨by decide, ?_⟩
  rw [right_iff_of_searched (by unfold Searched; decide)]
  intro covered
  have beyond := covered [] rfl (by decide)
  contradiction

end Cyberjack.Ctapi.ShowDialog
