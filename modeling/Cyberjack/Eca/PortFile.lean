import Cyberjack.Foundation.Numbering
import Cyberjack.Foundation.TextFile
import Mathlib.Data.List.TakeWhile

namespace Cyberjack.Eca

open Cyberjack.Foundation

/-! # Ports by serial number

`rsct_get_serial_for_port`, `rsct_get_port_for_serial` and
`rsct_enum_serials_with_devs`.  The port of a serial number is the number of its
line in a file to which lines are only added.  `int` is unbounded.
-/

/-- In the C locale. -/
def tolower (c : UInt8) : UInt8 := if 0x41 ≤ c ∧ c ≤ 0x5a then c + 0x20 else c

def strcasecmp (first second : List UInt8) : Bool := decide (first.map tolower = second.map tolower)

/-- The same serial number up to letter case. -/
abbrev SameLetters (first second : List UInt8) : Prop := first.map tolower = second.map tolower

/-! ## Reading -/

/-- An open file: the bytes that can be read, and whether an error comes behind them. -/
structure Stream where
  bytes : List UInt8
  error : Bool
deriving Repr, DecidableEq

/-- What `char lbuf[256]` has room for. -/
def lbufRoom : Nat := 254 + 1

def newline : UInt8 := 0x0a

/-- `fgets(lbuf, sizeof(lbuf), f)`.  An error inside a line leaves no line. -/
def fgets (f : Stream) : Option (List UInt8 × Stream) :=
  match f.bytes with
  | [] => none
  | bytes =>
      let (lbuf, rest) := takeLine newline lbufRoom bytes
      if f.error ∧ rest = [] ∧ lbuf.length < lbufRoom ∧ lbuf.getLast? ≠ some newline then none
      else some (lbuf, { f with bytes := rest })

/-- The string in `lbuf`, without a newline at its end. -/
def chomped (lbuf : List UInt8) : List UInt8 :=
  let string := lbuf.takeWhile (· ≠ 0)
  if string.getLast? = some newline then string.dropLast else string

theorem fgets_shorter {f rest : Stream} {lbuf : List UInt8} (read : fgets f = some (lbuf, rest)) :
    rest.bytes.length < f.bytes.length := by
  rcases f with ⟨_ | ⟨byte, bytes⟩, error⟩
  · cases read
  · unfold fgets at read
    dsimp only at read
    split at read
    · contradiction
    · cases read
      exact takeLine_shorter 254 byte bytes

/-- How a loop over the lines ends. -/
inductive Scan (ρ : Type) where
  | hit (result : ρ)
  | error
  | ended
deriving Repr, DecidableEq

/-- The loop of both lookups: `idx` counts the lines, and `hit?` tells what is returned at a line. -/
def scan {ρ : Type} (hit? : Nat → List UInt8 → Option ρ) (idx : Nat) (f : Stream) : Scan ρ :=
  match _ : fgets f with
  | none => if f.error then .error else .ended
  | some (lbuf, rest) =>
      match hit? idx (chomped lbuf) with
      | some result => .hit result
      | none => scan hit? (idx + 1) rest
termination_by f.bytes.length
decreasing_by exact fgets_shorter ‹_›

/-- A comparison with a `size_t` takes an `int` for one. -/
def size_t (n : Int) : Nat := (n % 0x10000000000000000).toNat

/-- The result, and what is copied to `sbuff`. -/
def rsct_get_serial_for_port (port : Int) (f : Option Stream) (blen : Int) : Int × Option (List UInt8) :=
  match f with
  | none => (-1, none)
  | some f =>
      match scan (fun idx lbuf => if (idx : Int) = port then some lbuf else none) 1 f with
      | .error => (-1, none)
      | .ended => (1, none)
      | .hit lbuf => if size_t blen < lbuf.length + 1 then (-1, none) else (0, some lbuf)

def rsct_get_port_for_serial (f : Option Stream) (serial : List UInt8) : Int :=
  match f with
  | none => 0
  | some f =>
      match scan (fun idx lbuf => if strcasecmp serial lbuf then some idx else none) 1 f with
      | .error => -1
      | .ended => 0
      | .hit idx => idx

/-! ## Enumerations -/

/-- The fields of a device that are used; `serial` is the string in `char serial[128]`. -/
structure UsbDev where
  vendorId : UInt32
  serial : List UInt8
  string : 0 ∉ serial
  room : serial.length ≤ 127

/-- What the file system does when the file is opened to read. -/
inductive Reading where
  | refused
  | whole
  | cut (count : Nat)
deriving Repr, DecidableEq

/-- What the file system does when a line is added; a line arrives as a whole or not at all. -/
inductive Adding where
  | refused
  | closed
  | notClosed (arrived : Bool)
deriving Repr, DecidableEq

structure Access where
  reading : Reading
  adding : Adding
deriving Repr, DecidableEq

abbrev File := Option (List UInt8)

def Reading.fopen (reading : Reading) (file : File) : Option Stream :=
  match reading with
  | .refused => none
  | .whole => file.map fun bytes => ⟨bytes, false⟩
  | .cut count => file.map fun bytes => ⟨bytes.take count, true⟩

/-- `fprintf(f, "%s\n", serial)` to a file opened with `a+` -/
def added (file : File) (serial : List UInt8) : File := some (file.getD [] ++ (serial ++ [newline]))

def rsct_enum_serials_with_devs : File → List (UsbDev × Access) → File × Int
  | file, [] => (file, 0)
  | file, (d, access) :: rest =>
      if d.vendorId = 0xc4b ∧ d.serial ≠ [] then
        let rv := rsct_get_port_for_serial (access.reading.fopen file) d.serial
        if rv = 0 then
          match access.adding with
          | .refused => (file, -1)
          | .notClosed arrived => (if arrived then added file d.serial else some (file.getD []), -1)
          | .closed => rsct_enum_serials_with_devs (added file d.serial) rest
        else rsct_enum_serials_with_devs file rest
      else rsct_enum_serials_with_devs file rest

/-! ## Runs -/

abbrev Enumeration := List (UsbDev × Access)

/-- The file behind the enumerations. -/
def after (file : File) (enumerations : List Enumeration) : File :=
  enumerations.foldl (fun file devs => (rsct_enum_serials_with_devs file devs).1) file

/-- No file, or one that enumerations have written. -/
def PortFile (file : File) : Prop := ∃ enumerations, file = after none enumerations

def port (file : File) (serial : List UInt8) : Int :=
  rsct_get_port_for_serial (Reading.whole.fopen file) serial

/-- With the buffer of `CT_init`: `sizeof(serial)-1` of `char serial[128]`. -/
def serialOf (file : File) (port : Int) : Int × Option (List UInt8) :=
  rsct_get_serial_for_port port (Reading.whole.fopen file) 127

/-- The device is one whose serial number is looked up. -/
def UsbDev.Counts (d : UsbDev) : Prop := d.vendorId = 0xc4b ∧ d.serial ≠ []

/-- The file system does what it is asked for. -/
def Undisturbed (devs : Enumeration) : Prop := ∀ entry ∈ devs, entry.2 = ⟨.whole, .closed⟩

/-- The lookup of the serial number, and the lookup of its port. -/
structure Placed (file : File) (serial : List UInt8) : Prop where
  port : 0 < port file serial
  back : ∃ found, serialOf file (Eca.port file serial) = (0, some found) ∧ SameLetters found serial

structure PortsKept (file : File) (enumerations : List Enumeration) : Prop where
  kept : ∀ front back, enumerations = front ++ back → ∀ serial,
    0 < port (after file front) serial →
      port (after file (front ++ back)) serial = port (after file front) serial
  apart : ∀ front back, enumerations = front ++ back → ∀ first second,
    0 < port (after file front) first →
      port (after file front) first = port (after file front) second → SameLetters first second
  placed : ∀ front devs middle back, enumerations = front ++ devs :: (middle ++ back) → Undisturbed devs →
    ∀ entry ∈ devs, entry.1.Counts → Placed (after file (front ++ devs :: middle)) entry.1.serial

/-- A serial number on one line that the buffer has room for. -/
def PlainSerial (serial : List UInt8) : Prop := newline ∉ serial ∧ serial.length < 127

instance (serial : List UInt8) : Decidable (PlainSerial serial) := inferInstanceAs (Decidable (_ ∧ _))

/-- Of every device that is enumerated. -/
def PlainSerials (enumerations : List Enumeration) : Prop :=
  ∀ devs ∈ enumerations, Undisturbed devs → ∀ entry ∈ devs, entry.1.Counts → PlainSerial entry.1.serial

/-! ## The lines of the file -/

def linesOf (file : File) : List (List UInt8) := (lines newline 254 (file.getD [])).map chomped

/-- `scan` over lines that have been read. -/
def scanLines {ρ : Type} (hit? : Nat → List UInt8 → Option ρ) : Nat → List (List UInt8) → Scan ρ
  | _, [] => .ended
  | idx, line :: rest =>
      match hit? idx line with
      | some result => .hit result
      | none => scanLines hit? (idx + 1) rest

theorem fgets_whole (byte : UInt8) (bytes : List UInt8) :
    fgets ⟨byte :: bytes, false⟩ =
      some ((takeLine newline lbufRoom (byte :: bytes)).1, ⟨(takeLine newline lbufRoom (byte :: bytes)).2, false⟩) := by
  simp [fgets]

theorem scan_whole {ρ : Type} (hit? : Nat → List UInt8 → Option ρ) (idx : Nat) (bytes : List UInt8) :
    scan hit? idx ⟨bytes, false⟩ = scanLines hit? idx ((lines newline 254 bytes).map chomped) := by
  induction bytes using lines.induct newline 254 generalizing idx with
  | case1 =>
      rw [scan, lines]
      rfl
  | case2 byte bytes ih =>
      rw [scan, fgets_whole, lines]
      simp only [List.map_cons, scanLines, ih, lbufRoom]

theorem scanLines_serial (serial : List UInt8) (idx : Nat) (rows : List (List UInt8)) :
    scanLines (fun idx lbuf => if strcasecmp serial lbuf then some idx else none) idx rows =
      match number? (List.map tolower) rows serial with
      | some position => .hit (idx + position)
      | none => .ended := by
  induction rows generalizing idx with
  | nil => rfl
  | cons line rest ih =>
      by_cases same : line.map tolower = serial.map tolower
      · simp [scanLines, strcasecmp, number?, List.findIdx?_cons, same]
      · have differs : strcasecmp serial line = false := by simpa [strcasecmp] using Ne.symm same
        simp only [scanLines, differs, Bool.false_eq_true, if_false, ih, number?, List.findIdx?_cons, same, decide_false]
        cases rest.findIdx? fun entry => decide (entry.map tolower = serial.map tolower) with
        | none => rfl
        | some position =>
            simp only [Option.map_some, Scan.hit.injEq]
            omega

theorem scanLines_port (position idx : Nat) (rows : List (List UInt8)) :
    scanLines (fun count lbuf => if (count : Int) = (idx + position : Nat) then some lbuf else none) idx rows =
      match rows[position]? with
      | some line => .hit line
      | none => .ended := by
  induction rows generalizing idx position with
  | nil => rfl
  | cons line rest ih =>
      cases position with
      | zero => simp [scanLines]
      | succ position =>
          have other : ¬ (idx : Int) = (idx + (position + 1) : Nat) := by omega
          rw [scanLines, if_neg other, List.getElem?_cons_succ, ← ih position (idx + 1),
            show idx + (position + 1) = idx + 1 + position from by omega]

theorem port_eq (file : File) (serial : List UInt8) :
    port file serial =
      (number? (List.map tolower) (linesOf file) serial).elim 0 fun position => (position : Int) + 1 := by
  cases file with
  | none =>
      rw [linesOf, Option.getD_none, lines]
      rfl
  | some bytes =>
      have scanned := scanLines_serial serial 1 (linesOf (some bytes))
      rw [linesOf, Option.getD_some, ← scan_whole] at scanned
      unfold port rsct_get_port_for_serial Reading.fopen
      simp only [Option.map_some, scanned]
      rw [linesOf, Option.getD_some]
      cases number? (List.map tolower) ((lines newline 254 bytes).map chomped) serial with
      | none => rfl
      | some position =>
          simp only [Option.elim_some]
          omega

theorem port_of_number {file : File} {serial : List UInt8} {position : Nat}
    (found : number? (List.map tolower) (linesOf file) serial = some position) :
    port file serial = (position : Int) + 1 := by
  rw [port_eq, found, Option.elim_some]

theorem number_of_port {file : File} {serial : List UInt8} (assigned : 0 < port file serial) :
    ∃ position, number? (List.map tolower) (linesOf file) serial = some position := by
  rw [port_eq] at assigned
  cases found : number? (List.map tolower) (linesOf file) serial with
  | none =>
      rw [found] at assigned
      simp at assigned
  | some position => exact ⟨position, rfl⟩

theorem serialOf_line {file : File} {position : Nat} {line : List UInt8}
    (stands : (linesOf file)[position]? = some line) :
    serialOf file ((position : Int) + 1) = if 127 < line.length + 1 then (-1, none) else (0, some line) := by
  cases file with
  | none =>
      rw [linesOf, Option.getD_none, lines] at stands
      simp at stands
  | some bytes =>
      have scanned := scanLines_port position 1 (linesOf (some bytes))
      rw [stands] at scanned
      rw [linesOf, Option.getD_some, ← scan_whole] at scanned
      have counted : ((1 + position : Nat) : Int) = (position : Int) + 1 := by omega
      rw [counted] at scanned
      unfold serialOf rsct_get_serial_for_port Reading.fopen
      simp only [Option.map_some, scanned]
      rfl

/-! ## Strings on a line -/

theorem chomped_line {serial : List UInt8} (string : 0 ∉ serial) : chomped (serial ++ [newline]) = serial := by
  have whole : (serial ++ [newline]).takeWhile (· ≠ 0) = serial ++ [newline] := by
    rw [List.takeWhile_eq_self_iff]
    intro byte member
    rcases List.mem_append.mp member with inside | last
    · exact decide_eq_true fun zero => string (zero ▸ inside)
    · rw [List.mem_singleton.mp last]
      rfl
  unfold chomped
  rw [whole]
  simp

theorem newline_chomped {lbuf : List UInt8} (line : ∀ front last, lbuf = front ++ [last] → newline ∉ front) :
    newline ∉ chomped lbuf := by
  obtain ⟨rest, split⟩ := List.takeWhile_prefix (l := lbuf) (fun byte => decide (byte ≠ 0))
  unfold chomped
  generalize lbuf.takeWhile (fun byte => decide (byte ≠ 0)) = string at split ⊢
  rcases List.eq_nil_or_concat string with empty | ⟨front, last, ends⟩
  · simp [empty]
  · have inFront : newline ∉ front := by
      rcases List.eq_nil_or_concat rest with nothing | ⟨between, final, ending⟩
      · exact line front last (by rw [← split, nothing, ends]; simp)
      · have outside := line (string ++ between) final (by rw [← split, ending]; simp)
        intro member
        exact outside (by simp [ends, member])
    rw [ends]
    simp only [List.concat_eq_append, List.getLast?_append, List.getLast?_singleton, Option.some_or,
      Option.some.injEq, List.dropLast_concat]
    split
    · exact inFront
    · case isFalse other =>
        rw [List.mem_append, List.mem_singleton, not_or]
        exact ⟨inFront, Ne.symm other⟩

theorem tolower_newline {c : UInt8} (same : tolower c = newline) : c = newline := by
  unfold tolower at same
  split at same
  · case isTrue letter =>
      have low : 0x41 ≤ c.toNat := UInt8.le_iff_toNat_le.mp letter.1
      have high : c.toNat ≤ 0x5a := UInt8.le_iff_toNat_le.mp letter.2
      have sum := congrArg UInt8.toNat same
      rw [UInt8.toNat_add] at sum
      change (c.toNat + 0x20) % 256 = 0x0a at sum
      omega
  · exact same

/-- A serial number with a newline inside is on no line. -/
theorem port_of_newline {serial : List UInt8} (broken : newline ∈ serial) (file : File) :
    port file serial = 0 := by
  rw [port_eq]
  cases found : number? (List.map tolower) (linesOf file) serial with
  | none => rfl
  | some position =>
      obtain ⟨entry, stands, same⟩ := number_entry found
      obtain ⟨line, member, read⟩ := List.mem_map.mp (List.mem_of_getElem? stands)
      have lowered : newline ∈ entry.map tolower := by
        rw [same]
        exact List.mem_map.mpr ⟨newline, broken, rfl⟩
      obtain ⟨byte, inside, lower⟩ := List.mem_map.mp lowered
      rw [tolower_newline lower, ← read] at inside
      exact absurd inside (newline_chomped fun front last => newline_lines member)

/-! ## Enumerations add lines -/

/-- The file ends with a newline. -/
def Closed (file : File) : Prop := Ended newline (file.getD [])

structure Grows (file next : File) : Prop where
  closed : Closed next
  lines : linesOf file <+: linesOf next

theorem Grows.refl {file : File} (closed : Closed file) : Grows file file := ⟨closed, List.prefix_refl _⟩

theorem Grows.trans {file next last : File} (first : Grows file next) (second : Grows next last) :
    Grows file last := ⟨second.closed, first.lines.trans second.lines⟩

theorem linesOf_added {file : File} (closed : Closed file) (serial : List UInt8) :
    linesOf (added file serial) = linesOf file ++ linesOf (some (serial ++ [newline])) := by
  simp only [linesOf, added, Option.getD_some, lines_append 254 closed, List.map_append]

theorem linesOf_plain {file : File} (closed : Closed file) {d : UsbDev} (inLine : newline ∉ d.serial) :
    linesOf (added file d.serial) = linesOf file ++ [d.serial] := by
  have fits : d.serial.length ≤ 254 := d.room.trans (by decide)
  have alone : linesOf (some (d.serial ++ [newline])) = [d.serial] := by
    rw [linesOf, Option.getD_some, lines_entry inLine fits, List.map_singleton, chomped_line d.string]
  rw [linesOf_added closed, alone]

theorem closed_added (file : File) (serial : List UInt8) : Closed (added file serial) := by
  unfold Closed added
  rw [Option.getD_some, ← List.append_assoc]
  exact ended_snoc _

theorem added_grows {file : File} (closed : Closed file) (serial : List UInt8) :
    Grows file (added file serial) := by
  constructor
  · exact closed_added file serial
  · rw [linesOf_added closed]
    exact List.prefix_append _ _

theorem created_grows {file : File} (closed : Closed file) : Grows file (some (file.getD [])) :=
  ⟨closed, List.prefix_refl _⟩

/-- Whatever the file system does. -/
theorem enum_grows {file : File} (closed : Closed file) (devs : Enumeration) :
    Grows file (rsct_enum_serials_with_devs file devs).1 := by
  induction devs generalizing file with
  | nil => exact Grows.refl closed
  | cons entry rest ih =>
      obtain ⟨d, reading, adding⟩ := entry
      unfold rsct_enum_serials_with_devs
      dsimp only
      split
      · split
        · cases adding with
          | refused => exact Grows.refl closed
          | notClosed arrived =>
              cases arrived with
              | false => exact created_grows closed
              | true => exact added_grows closed d.serial
          | closed =>
              have grown := added_grows closed d.serial
              exact grown.trans (ih grown.closed)
        · exact ih closed
      · exact ih closed

theorem after_grows {file : File} (closed : Closed file) (enumerations : List Enumeration) :
    Grows file (after file enumerations) := by
  induction enumerations generalizing file with
  | nil => exact Grows.refl closed
  | cons devs rest ih =>
      have grown := enum_grows closed devs
      exact grown.trans (ih grown.closed)

theorem portFile_closed {file : File} (written : PortFile file) : Closed file := by
  obtain ⟨enumerations, rfl⟩ := written
  have empty : Closed none := .inl rfl
  exact (after_grows empty enumerations).closed

theorem after_append (file : File) (front back : List Enumeration) :
    after file (front ++ back) = after (after file front) back := List.foldl_append

/-- A port stays what it is. -/
theorem Grows.port {file next : File} (grown : Grows file next) {serial : List UInt8}
    (assigned : 0 < port file serial) : port next serial = Eca.port file serial := by
  obtain ⟨position, found⟩ := number_of_port assigned
  rw [port_of_number found, port_of_number (number_grown grown.lines found)]

theorem port_apart {file : File} {first second : List UInt8} (assigned : 0 < port file first)
    (same : port file first = port file second) : SameLetters first second := by
  obtain ⟨position, found⟩ := number_of_port assigned
  obtain ⟨other, foundToo⟩ := number_of_port (same ▸ assigned)
  rw [port_of_number found, port_of_number foundToo] at same
  have equal : position = other := by omega
  exact number_inj found (equal ▸ foundToo)

/-! ## Enumerations register -/

instance (d : UsbDev) : Decidable d.Counts := inferInstanceAs (Decidable (_ ∧ _))

def serials (devs : Enumeration) : List (List UInt8) :=
  devs.filterMap fun entry => if entry.1.Counts then some entry.1.serial else none

theorem register_known {file : File} {serial : List UInt8} (known : port file serial ≠ 0) :
    register (List.map tolower) (linesOf file) serial = linesOf file := by
  rw [port_eq] at known
  cases found : number? (List.map tolower) (linesOf file) serial with
  | none =>
      rw [found] at known
      contradiction
  | some position =>
      unfold register
      rw [found]
      rfl

theorem register_new {file : File} {serial : List UInt8} (new : port file serial = 0) :
    register (List.map tolower) (linesOf file) serial = linesOf file ++ [serial] := by
  cases found : number? (List.map tolower) (linesOf file) serial with
  | none =>
      unfold register
      rw [found]
      rfl
  | some position =>
      rw [port_of_number found] at new
      omega

section Step

variable {file : File} {d : UsbDev} {rest : Enumeration}

theorem enum_other (other : ¬ d.Counts) (access : Access) :
    rsct_enum_serials_with_devs file ((d, access) :: rest) = rsct_enum_serials_with_devs file rest :=
  if_neg other

theorem enum_known (counts : d.Counts) (known : port file d.serial ≠ 0) :
    rsct_enum_serials_with_devs file ((d, ⟨.whole, .closed⟩) :: rest) = rsct_enum_serials_with_devs file rest :=
  (if_pos counts).trans (if_neg known)

theorem enum_new (counts : d.Counts) (new : port file d.serial = 0) :
    rsct_enum_serials_with_devs file ((d, ⟨.whole, .closed⟩) :: rest) =
      rsct_enum_serials_with_devs (added file d.serial) rest :=
  (if_pos counts).trans (if_pos new)

end Step

theorem enum_registers {file : File} (closed : Closed file) {devs : Enumeration}
    (undisturbed : Undisturbed devs) (plain : ∀ entry ∈ devs, entry.1.Counts → newline ∉ entry.1.serial) :
    linesOf (rsct_enum_serials_with_devs file devs).1 =
      registerAll (List.map tolower) (linesOf file) (serials devs) := by
  induction devs generalizing file with
  | nil => rfl
  | cons entry rest ih =>
      have ih := fun {file} (closed : Closed file) =>
        ih closed (fun other member => undisturbed other (List.mem_cons_of_mem _ member))
          fun other member => plain other (List.mem_cons_of_mem _ member)
      have inLine := plain entry List.mem_cons_self
      have access := undisturbed entry List.mem_cons_self
      obtain ⟨d, reading, adding⟩ := entry
      cases access
      by_cases counts : d.Counts
      · have listed : serials ((d, ⟨.whole, .closed⟩) :: rest) = d.serial :: serials rest := by
          simp [serials, counts]
        rw [listed, registerAll_cons]
        by_cases new : port file d.serial = 0
        · rw [enum_new counts new, register_new new, ← linesOf_plain closed (inLine counts)]
          exact ih (closed_added file d.serial)
        · rw [enum_known counts new, register_known new]
          exact ih closed
      · have listed : serials ((d, ⟨.whole, .closed⟩) :: rest) = serials rest := by
          simp [serials, counts]
        rw [enum_other counts, listed]
        exact ih closed

/-! ## Runs keep the ports -/

theorem placed_of_number {file : File} {serial : List UInt8} {position : Nat} (short : serial.length < 127)
    (found : number? (List.map tolower) (linesOf file) serial = some position) : Placed file serial := by
  obtain ⟨line, stands, same⟩ := number_entry found
  have length := congrArg List.length same
  rw [List.length_map, List.length_map] at length
  have assigned := port_of_number found
  constructor
  · omega
  · refine ⟨line, ?_, same⟩
    rw [assigned, serialOf_line stands, if_neg (by omega)]

theorem plain_of_placed {file : File} {serial : List UInt8} (placed : Placed file serial) :
    PlainSerial serial := by
  obtain ⟨assigned, line, looked, same⟩ := placed
  constructor
  · intro broken
    rw [port_of_newline broken] at assigned
    contradiction
  · obtain ⟨position, found⟩ := number_of_port assigned
    obtain ⟨entry, stands, -⟩ := number_entry found
    have length := congrArg List.length same
    rw [List.length_map, List.length_map] at length
    rw [port_of_number found, serialOf_line stands] at looked
    split at looked
    · cases looked
    · cases looked
      omega

theorem mem_serials {devs : Enumeration} {entry : UsbDev × Access} (member : entry ∈ devs)
    (counts : entry.1.Counts) : entry.1.serial ∈ serials devs :=
  List.mem_filterMap.mpr ⟨entry, member, if_pos counts⟩

theorem ports_kept_iff {file : File} (written : PortFile file) (enumerations : List Enumeration) :
    PortsKept file enumerations ↔ PlainSerials enumerations := by
  have closed := portFile_closed written
  constructor
  · intro kept devs member undisturbed entry inDevs counts
    obtain ⟨front, back, split⟩ := List.append_of_mem member
    exact plain_of_placed (kept.placed front devs [] back (by simpa using split) undisturbed entry inDevs counts)
  · intro plain
    constructor
    · intro front back split serial assigned
      rw [after_append]
      exact (after_grows (after_grows closed front).closed back).port assigned
    · intro front back split first second assigned same
      exact port_apart assigned same
    · intro front devs middle back split undisturbed entry inDevs counts
      have plainHere := plain devs (by simp [split]) undisturbed
      have here := (after_grows closed front).closed
      have registered := enum_registers here undisturbed fun other member counts => (plainHere other member counts).1
      have known : (number? (List.map tolower) (linesOf (rsct_enum_serials_with_devs (after file front) devs).1)
          entry.1.serial).isSome := by
        rw [registered]
        exact isSome_registerAll (mem_serials inDevs counts)
      obtain ⟨position, found⟩ := Option.isSome_iff_exists.mp known
      have later := after_grows (enum_grows here devs).closed middle
      rw [after_append]
      exact placed_of_number (plainHere entry inDevs counts).2 (number_grown later.lines found)

/-- `A1`, later `B2` in front of `a1` -/
def attached : List Enumeration :=
  let access : Access := ⟨.whole, .closed⟩
  [[(⟨0xc4b, [0x41, 0x31], by decide, by decide⟩, access)],
    [(⟨0xc4b, [0x42, 0x32], by decide, by decide⟩, access), (⟨0xc4b, [0x61, 0x31], by decide, by decide⟩, access)]]

theorem attached_kept : PortsKept none attached :=
  (ports_kept_iff ⟨[], rfl⟩ attached).mpr fun devs member _ entry inDevs _ =>
    (show ∀ devs ∈ attached, ∀ entry ∈ devs, PlainSerial entry.1.serial from by decide) devs member entry inDevs

/-- A serial number with a newline inside -/
def brokenSerial : UsbDev := ⟨0xc4b, [0x41, 0x0a, 0x42], by decide, by decide⟩

theorem brokenSerial_not_kept : ¬ PortsKept none [[(brokenSerial, ⟨.whole, .closed⟩)]] := by
  intro kept
  have placed := kept.placed [] [(brokenSerial, ⟨.whole, .closed⟩)] [] [] rfl (by simp [Undisturbed])
    (brokenSerial, ⟨.whole, .closed⟩) List.mem_cons_self (by decide)
  have found := placed.port
  have broken : newline ∈ brokenSerial.serial := by decide
  rw [port_of_newline broken] at found
  contradiction

end Cyberjack.Eca
