import Mathlib.Algebra.Group.Nat.Defs
import Cyberjack.Eca.PortFile
import Cyberjack.Foundation.OrderedMap
import Cyberjack.Foundation.Word

namespace Cyberjack.Eca

open Cyberjack.Foundation

/-! # The configuration file

`config_write_file` and `_readConfig`.  The messages to `stderr` are left out.
-/

/-- In the C locale. -/
def isspace (c : UInt8) : Bool := decide (c = 0x20 ∨ 0x09 ≤ c ∧ c ≤ 0x0d)

def carriageReturn : UInt8 := 0x0d
def numberSign : UInt8 := 0x23
def equalsSign : UInt8 := 0x3d
def openBracket : UInt8 := 0x5b

/-- `flags` -/
def flagsName : List UInt8 := [0x66, 0x6c, 0x61, 0x67, 0x73]

/-- `debugFile` -/
def debugFileName : List UInt8 := [0x64, 0x65, 0x62, 0x75, 0x67, 0x46, 0x69, 0x6c, 0x65]

/-- `serialFile` -/
def serialFileName : List UInt8 := [0x73, 0x65, 0x72, 0x69, 0x61, 0x6c, 0x46, 0x69, 0x6c, 0x65]

/-- `[generic]` -/
def genericHeading : List UInt8 := [0x5b, 0x67, 0x65, 0x6e, 0x65, 0x72, 0x69, 0x63, 0x5d]

/-- `[vars]` -/
def varsHeading : List UInt8 := [0x5b, 0x76, 0x61, 0x72, 0x73, 0x5d]

/-- `# This file has been automatically created` -/
def createdComment : List UInt8 :=
  [0x23, 0x20, 0x54, 0x68, 0x69, 0x73, 0x20, 0x66, 0x69, 0x6c, 0x65, 0x20, 0x68, 0x61, 0x73, 0x20, 0x62, 0x65,
   0x65, 0x6e, 0x20, 0x61, 0x75, 0x74, 0x6f, 0x6d, 0x61, 0x74, 0x69, 0x63, 0x61, 0x6c, 0x6c, 0x79, 0x20, 0x63,
   0x72, 0x65, 0x61, 0x74, 0x65, 0x64]

/-- `/tmp/cj.log` -/
def defaultDebugFile : List UInt8 := [0x2f, 0x74, 0x6d, 0x70, 0x2f, 0x63, 0x6a, 0x2e, 0x6c, 0x6f, 0x67]

abbrev CFG_VARMAP := OrderedMap (List UInt8) (List UInt8)

def CFG_VARMAP.insert (vars : CFG_VARMAP) (varName value : List UInt8) : CFG_VARMAP :=
  OrderedMap.insert vars varName value

structure CYBERJACK_CONFIG where
  flags : UInt32
  debugFile : List UInt8
  serialFile : List UInt8
  vars : CFG_VARMAP
deriving DecidableEq

/-! ## Numbers -/

def digit? (c : UInt8) : Option Nat :=
  if 0x30 ≤ c ∧ c ≤ 0x39 then some (c.toNat - 0x30)
  else if 0x61 ≤ tolower c ∧ tolower c ≤ 0x66 then some ((tolower c).toNat - 0x57)
  else none

/-- The digits in front. -/
def digits (base : Nat) : List UInt8 → List Nat
  | [] => []
  | c :: rest =>
      match digit? c with
      | some digit => if digit < base then digit :: digits base rest else []
      | none => []

/-- `%i` tells the base by what the number begins with. -/
def baseOf (text : List UInt8) : Nat × List UInt8 :=
  if text.head? = some 0x30 then
    if text.tail.head?.map tolower = some 0x78 then (16, text.tail.tail) else (8, text)
  else (10, text)

/-- `sscanf(value, "%i", &j)` with the number in a `long` that does not go beyond its limits. -/
def scanInt (LONG_MAX : Nat) (value : List UInt8) : Option UInt32 :=
  let negative := value.head? = some 0x2d
  let text := if negative ∨ value.head? = some 0x2b then value.tail else value
  match digits (baseOf text).1 (baseOf text).2 with
  | [] => none
  | found =>
      let number := found.foldl (fun number digit => number * (baseOf text).1 + digit) 0
      some (UInt32.ofNat (uint32 (if negative then -(min number (LONG_MAX + 1) : Nat) else (min number LONG_MAX : Nat))))

/-! ## Reading -/

inductive Group where
  | generic
  | vars
  | unknown
deriving Repr, DecidableEq

/-- What a line of the file says. -/
inductive Line where
  | nothing
  | group (group : Group)
  | pair (varName value : List UInt8)
deriving Repr, DecidableEq

/-- The string in `lbuf`, without a newline or carriage return at its end. -/
def chopped (lbuf : List UInt8) : List UInt8 :=
  let string := lbuf.takeWhile (· ≠ 0)
  if string.getLast? = some newline ∨ string.getLast? = some carriageReturn then string.dropLast else string

/-- `strncasecmp(p, heading, n) == 0` for a heading of `n` bytes -/
def hasHeading (p heading : List UInt8) : Bool := strcasecmp (p.take heading.length) heading

def groupOf (p : List UInt8) : Group :=
  if hasHeading p genericHeading then .generic
  else if hasHeading p varsHeading then .vars
  else .unknown

/-- A byte of a variable's name. -/
def nameByte (c : UInt8) : Bool := !isspace c && decide (c ≠ equalsSign)

def assignment (p : List UInt8) : Line :=
  match (p.dropWhile nameByte).dropWhile isspace with
  | [] => .nothing
  | sign :: rest =>
      if sign ≠ equalsSign then .nothing
      else
        match rest.dropWhile isspace with
        | [] => .nothing
        | value => .pair (p.takeWhile nameByte) (value.takeWhile fun c => !isspace c)

def lineOf (text : List UInt8) : Line :=
  match (text.takeWhile (· ≠ numberSign)).dropWhile isspace with
  | [] => .nothing
  | first :: rest => if first = openBracket then .group (groupOf (first :: rest)) else assignment (first :: rest)

def CYBERJACK_CONFIG.assign (LONG_MAX : Nat) (group : Group) (varName value : List UInt8) (cfg : CYBERJACK_CONFIG) :
    CYBERJACK_CONFIG :=
  match group with
  | .generic =>
      if strcasecmp varName flagsName then
        match scanInt LONG_MAX value with
        | some j => { cfg with flags := j }
        | none => cfg
      else if strcasecmp varName debugFileName then { cfg with debugFile := value }
      else if strcasecmp varName serialFileName then { cfg with serialFile := value }
      else cfg
  | .vars => { cfg with vars := cfg.vars.insert varName value }
  | .unknown => cfg

structure Reader where
  currentGroup : Group
  cfg : CYBERJACK_CONFIG

def Reader.take (LONG_MAX : Nat) (reader : Reader) : Line → Reader
  | .nothing => reader
  | .group group => { reader with currentGroup := group }
  | .pair varName value => { reader with cfg := reader.cfg.assign LONG_MAX reader.currentGroup varName value }

def readLoop (LONG_MAX : Nat) (f : Stream) (reader : Reader) : Int × Reader :=
  match _ : fgets f with
  | none => (if f.error then -1 else 0, reader)
  | some (lbuf, rest) => readLoop LONG_MAX rest (reader.take LONG_MAX (lineOf (chopped lbuf)))
termination_by f.bytes.length
decreasing_by exact fgets_shorter ‹_›

def readConfig (LONG_MAX : Nat) (f : Stream) (cfg : CYBERJACK_CONFIG) : Int × CYBERJACK_CONFIG :=
  let (rv, reader) := readLoop LONG_MAX f ⟨.generic, cfg⟩
  (rv, reader.cfg)

/-- The file, and the file of defaults beside it. -/
def config_read_file (LONG_MAX : Nat) (file defaults : Option Stream) (cfg : CYBERJACK_CONFIG) :
    Int × CYBERJACK_CONFIG :=
  match file.or defaults with
  | none => (0, cfg)
  | some f => readConfig LONG_MAX f cfg

/-- What is in the configuration before the file is read. -/
def initialConfig (noBeep ecomKernel : Bool) : CYBERJACK_CONFIG where
  flags := (if noBeep then 0x00010000 else 0) ||| (if ecomKernel then 0x00200000 else 0)
  debugFile := defaultDebugFile
  serialFile := []
  vars := .empty

def rsct_config_init (LONG_MAX : Nat) (noBeep ecomKernel : Bool) (file defaults : Option Stream) : CYBERJACK_CONFIG :=
  (config_read_file LONG_MAX file defaults (initialConfig noBeep ecomKernel)).2

/-! ## Writing -/

def hexDigit (digit : Nat) : UInt8 := UInt8.ofNat (if digit < 10 then 0x30 + digit else 0x57 + digit)

/-- `%08x` -/
def hex8 (n : UInt32) : List UInt8 :=
  [7, 6, 5, 4, 3, 2, 1, 0].map fun place => hexDigit (n.toNat / 16 ^ place % 16)

def c_str (string : List UInt8) : List UInt8 := string.takeWhile (· ≠ 0)

/-- `name=value` -/
def pairText (name value : List UInt8) : List UInt8 := name ++ equalsSign :: value

/-- The line is left out for an empty string. -/
def fileLine (name file : List UInt8) : List UInt8 :=
  if file ≠ [] then pairText name (c_str file) ++ [newline] else []

def varLine (entry : List UInt8 × List UInt8) : List UInt8 :=
  if entry.1 ≠ [] ∧ entry.2 ≠ [] then pairText (c_str entry.1) (c_str entry.2) ++ [newline] else []

def varLines (vars : CFG_VARMAP) : List UInt8 :=
  if vars.entries ≠ [] then newline :: (varsHeading ++ newline :: vars.entries.flatMap varLine) else []

def writtenText (cfg : CYBERJACK_CONFIG) : List UInt8 :=
  (createdComment ++ [newline]) ++ (pairText flagsName (0x30 :: 0x78 :: hex8 cfg.flags) ++ [newline]) ++
    fileLine debugFileName cfg.debugFile ++ fileLine serialFileName cfg.serialFile ++ varLines cfg.vars

/-- What the file system does when the configuration is saved. -/
inductive Saving where
  | refused
  | closed
  | notClosed (arrived : Nat)
deriving Repr, DecidableEq

/-- The file behind it, and the result. -/
def config_write_file (saving : Saving) (file : File) (cfg : CYBERJACK_CONFIG) : File × Int :=
  match saving with
  | .refused => (file, -1)
  | .closed => (some (writtenText cfg), 0)
  | .notClosed arrived => (some ((writtenText cfg).take arrived), -1)

end Cyberjack.Eca
