import Mathlib.Data.List.Basic
import Cyberjack.Foundation.Checksum

namespace Cyberjack.Ecom

open Cyberjack.Foundation

/-! # T=1 blocks of the e-com driver

The block functions of `cjt1.c`.  A block is the list of the bytes that are
sent or were received; the arrays around them hold 3 + 255 + 1 bytes, which is
what a length byte can announce.
-/

/-- The return codes `CJ_EXIT_*`. -/
inductive Exit where
  | ok
  | undefError
  | badParam
  | ioError
  | fileNotExist
  | fileError
  | protocolError
  | timeout
deriving Repr, DecidableEq

/-- `CJ_T1_INFO`: the protocol state kept between commands.  The code stores
only 0 and 1 in N(S) and N(R). -/
structure T1Info where
  nad : UInt8
  ns : UInt8
  nr : UInt8
  ifsc : UInt8
  wtx : Nat
  nsBit : ns = 0 ∨ ns = 1
  nrBit : nr = 0 ∨ nr = 1
deriving DecidableEq

namespace T1Info

/-- What `cjIoOpen` leaves behind. -/
def opened : T1Info where
  nad := 0
  ns := 0
  nr := 0
  ifsc := 0xFF
  wtx := 0
  nsBit := .inl rfl
  nrBit := .inl rfl

private theorem flip_bit {bit : UInt8} (binary : bit = 0 ∨ bit = 1) :
    bit ^^^ 1 = 0 ∨ bit ^^^ 1 = 1 := by
  rcases binary with rfl | rfl
  · exact .inr rfl
  · exact .inl rfl

/-- `t1->ns ^= 1` -/
def flipNs (t1 : T1Info) : T1Info :=
  { t1 with ns := t1.ns ^^^ 1, nsBit := flip_bit t1.nsBit }

/-- `t1->nr ^= 1` -/
def flipNr (t1 : T1Info) : T1Info :=
  { t1 with nr := t1.nr ^^^ 1, nrBit := flip_bit t1.nrBit }

/-- `t1->nr = 0; t1->ns = 0` -/
def resynch (t1 : T1Info) : T1Info :=
  { t1 with ns := 0, nr := 0, nsBit := .inl rfl, nrBit := .inl rfl }

variable (t1 : T1Info)

@[simp] theorem flipNs_ns : t1.flipNs.ns = t1.ns ^^^ 1 := rfl
@[simp] theorem flipNs_nr : t1.flipNs.nr = t1.nr := rfl
@[simp] theorem flipNs_ifsc : t1.flipNs.ifsc = t1.ifsc := rfl
@[simp] theorem flipNr_ns : t1.flipNr.ns = t1.ns := rfl
@[simp] theorem flipNr_nr : t1.flipNr.nr = t1.nr ^^^ 1 := rfl
@[simp] theorem flipNr_ifsc : t1.flipNr.ifsc = t1.ifsc := rfl
@[simp] theorem resynch_ns : t1.resynch.ns = 0 := rfl
@[simp] theorem resynch_nr : t1.resynch.nr = 0 := rfl
@[simp] theorem resynch_ifsc : t1.resynch.ifsc = t1.ifsc := rfl

end T1Info

/-- The kinds of S-block `cjT1SBlock` knows, the last two of them reader specific. -/
inductive SType where
  | resynch
  | ifs
  | abort
  | wtx
  | key
  | card
deriving Repr, DecidableEq

inductive Direction where
  | request
  | response
deriving Repr, DecidableEq

inductive RType where
  | ok
  | edcError
  | otherError
deriving Repr, DecidableEq

/-- `CJ_T1_S_NAD_VALUE` -/
def sNadValue : UInt8 := 0xE2

def cjT1Lrc (data : List UInt8) : UInt8 := xorSum data

def cjT1AppendRc (data : List UInt8) : List UInt8 := data ++ [cjT1Lrc data]

/-- The length test comes first: a block it accepts has at least four bytes, so
the bytes compared afterwards were all received. -/
def cjT1CheckRc (data : List UInt8) : Bool :=
  if (data.getD 2 0).toNat + 3 + 1 ≠ data.length then false
  else data.getD (data.length - 1) 0 == cjT1Lrc (data.take (data.length - 1))

def cjT1SBlock (type : SType) (dir : Direction) (param : UInt8) : List UInt8 :=
  match type with
  | .resynch => cjT1AppendRc [sNadValue, if dir = .request then 0xC0 else 0xE0, 0x00]
  | .ifs => cjT1AppendRc [sNadValue, if dir = .request then 0xC1 else 0xE1, 0x01, param]
  | .abort => cjT1AppendRc [sNadValue, if dir = .request then 0xC2 else 0xE2, 0x00]
  | .wtx =>
      let pcb := if dir = .request then 0xC3 else 0xE3
      if param ≠ 0 then cjT1AppendRc [sNadValue, pcb, 0x01, param]
      else cjT1AppendRc [sNadValue, pcb, 0x00]
  | .key => cjT1AppendRc [sNadValue, if dir = .request then 0xC4 else 0xE4, 0x00]
  | .card => cjT1AppendRc [sNadValue, if dir = .request then 0xC5 else 0xD5, 0x00]

/-- The positive R-block always carries 0x80, whatever N(R) is. -/
def cjT1RBlock (t1 : T1Info) (type : RType) : List UInt8 :=
  match type with
  | .ok => cjT1AppendRc [t1.nad, 0x80, 0x00]
  | .edcError => cjT1AppendRc [t1.nad, if t1.nr ≠ 0 then 0x91 else 0x81, 0x00]
  | .otherError => cjT1AppendRc [t1.nad, if t1.nr ≠ 0 then 0x92 else 0x82, 0x00]

/-- The second byte of an I-block. -/
def iPcb (ns : UInt8) (more : Bool) : UInt8 :=
  (if ns ≠ 0 then 0x40 else 0x00) ||| (if more then 0x20 else 0x00)

def cjT1IBlock (t1 : T1Info) (more : Bool) (data : List UInt8) : Except Exit (List UInt8) :=
  if data.length > t1.ifsc.toNat then .error .badParam
  else .ok (cjT1AppendRc ([t1.nad, iPcb t1.ns more, UInt8.ofNat data.length] ++ data))

/-- N(R) of an R-block, N(S) of an I-block, 0 of any other block. -/
def cjT1GetN (block : List UInt8) : UInt8 :=
  if block.getD 1 0 &&& 0xC0 = 0x80 then (block.getD 1 0 >>> 4) &&& 0x01
  else if block.getD 1 0 &&& 0x80 = 0x00 then (block.getD 1 0 >>> 6) &&& 0x01
  else 0

/-- The bytes between the header and the checksum. -/
def inf (block : List UInt8) : List UInt8 := (block.drop 3).take (block.getD 2 0).toNat

def IsIBlock (block : List UInt8) : Prop := block.getD 1 0 &&& 0x80 = 0x00

def IsRBlock (block : List UInt8) : Prop := block.getD 1 0 &&& 0xC0 = 0x80

/-- The M bit: the sender has more data. -/
def HasMore (block : List UInt8) : Prop := block.getD 1 0 &&& 0x20 ≠ 0x00

/-- The N(S) an I-block carries is the given one. -/
def CarriesNs (ns : UInt8) (block : List UInt8) : Prop := block.getD 1 0 &&& 0x40 ≠ 0x00 ↔ ns ≠ 0

instance (block : List UInt8) : Decidable (IsIBlock block) := by unfold IsIBlock; infer_instance
instance (block : List UInt8) : Decidable (IsRBlock block) := by unfold IsRBlock; infer_instance
instance (block : List UInt8) : Decidable (HasMore block) := by unfold HasMore; infer_instance
instance (ns : UInt8) (block : List UInt8) : Decidable (CarriesNs ns block) := by
  unfold CarriesNs
  infer_instance

/-- The third byte counts the INF bytes and the last byte is the exclusive or
of those before it. -/
structure WellFormed (block : List UInt8) : Prop where
  header : 4 ≤ block.length
  counted : (block.getD 2 0).toNat = block.length - 4
  checked : block.getLast? = some (cjT1Lrc block.dropLast)

theorem cjT1CheckRc_iff {block : List UInt8} : cjT1CheckRc block = true ↔ WellFormed block := by
  have last (header : 4 ≤ block.length) :
      block.getLast? = some (block.getD (block.length - 1) 0) := by
    rw [List.getLast?_eq_getElem?, List.getD_eq_getElem?_getD,
      List.getElem?_eq_getElem (by omega), Option.getD_some]
  unfold cjT1CheckRc
  constructor
  · intro accepted
    split at accepted
    · contradiction
    · rename_i counted
      have header : 4 ≤ block.length := by omega
      refine ⟨header, by omega, ?_⟩
      rw [last header, List.dropLast_eq_take]
      rw [beq_iff_eq] at accepted
      rw [accepted]
  · intro wellFormed
    have header := wellFormed.header
    have counted := wellFormed.counted
    have checked := wellFormed.checked
    rw [last header, List.dropLast_eq_take, Option.some.injEq] at checked
    rw [if_neg (by omega), checked, beq_iff_eq]

instance (block : List UInt8) : Decidable (WellFormed block) := decidable_of_iff _ cjT1CheckRc_iff

/-- Every builder writes a header, the INF bytes it counts there and the checksum. -/
theorem appendRc_wellFormed {nad pcb len : UInt8} {data : List UInt8}
    (counted : len.toNat = data.length) :
    WellFormed (cjT1AppendRc (nad :: pcb :: len :: data)) where
  header := by simp [cjT1AppendRc]
  counted := by
    simp only [cjT1AppendRc, List.cons_append, List.getD_cons_succ, List.getD_cons_zero,
      List.length_cons, List.length_append, List.length_nil]
    omega
  checked := by
    simp only [cjT1AppendRc, List.getLast?_append, List.getLast?_singleton, Option.some_or,
      List.dropLast_concat]

@[simp] theorem pcb_appendRc {nad pcb : UInt8} {data : List UInt8} :
    (cjT1AppendRc (nad :: pcb :: data)).getD 1 0 = pcb := rfl

theorem inf_appendRc {nad pcb len : UInt8} {data : List UInt8}
    (counted : len.toNat = data.length) :
    inf (cjT1AppendRc (nad :: pcb :: len :: data)) = data := by
  simp [inf, cjT1AppendRc, counted]

theorem cjT1SBlock_wellFormed (type : SType) (dir : Direction) (param : UInt8) :
    WellFormed (cjT1SBlock type dir param) := by
  cases type with
  | wtx =>
      simp only [cjT1SBlock]
      split
      · exact appendRc_wellFormed rfl
      · exact appendRc_wellFormed rfl
  | _ => exact appendRc_wellFormed rfl

theorem cjT1SBlock_not_iBlock (type : SType) (dir : Direction) (param : UInt8) :
    ¬ IsIBlock (cjT1SBlock type dir param) := by
  cases type with
  | wtx =>
      simp only [cjT1SBlock]
      split <;> cases dir <;> simp only [IsIBlock, pcb_appendRc] <;> decide
  | _ => cases dir <;> simp only [cjT1SBlock, IsIBlock, pcb_appendRc] <;> decide

theorem cjT1RBlock_wellFormed (t1 : T1Info) (type : RType) : WellFormed (cjT1RBlock t1 type) := by
  cases type <;> exact appendRc_wellFormed rfl

theorem cjT1RBlock_not_iBlock (t1 : T1Info) (type : RType) : ¬ IsIBlock (cjT1RBlock t1 type) := by
  cases type <;> simp only [cjT1RBlock, IsIBlock, pcb_appendRc]
  case ok => decide
  all_goals split <;> decide

/-- An I-block in the form `cjT1IBlock` gives it. -/
structure BuiltBlock (ns : UInt8) (more : Bool) (data : List UInt8) (block : List UInt8) : Prop where
  wellFormed : WellFormed block
  iBlock : IsIBlock block
  number : CarriesNs ns block
  moreBit : HasMore block ↔ more = true
  content : inf block = data

theorem iPcb_bits (ns : UInt8) (more : Bool) :
    iPcb ns more &&& 0x80 = 0x00 ∧ (iPcb ns more &&& 0x40 ≠ 0x00 ↔ ns ≠ 0) ∧
      (iPcb ns more &&& 0x20 ≠ 0x00 ↔ more = true) := by
  by_cases zero : ns = 0 <;> cases more <;> simp [iPcb, zero] <;> decide

theorem cjT1IBlock_built {t1 : T1Info} {more : Bool} {data block : List UInt8}
    (built : cjT1IBlock t1 more data = .ok block) : BuiltBlock t1.ns more data block := by
  unfold cjT1IBlock at built
  split at built
  · contradiction
  · rename_i room
    have small : data.length < 256 := by
      have ifsc := t1.ifsc.toNat_lt
      omega
    have counted : (UInt8.ofNat data.length).toNat = data.length := by
      rw [UInt8.toNat_ofNat']
      omega
    cases built
    exact {
      wellFormed := appendRc_wellFormed counted
      iBlock := (iPcb_bits t1.ns more).1
      number := (iPcb_bits t1.ns more).2.1
      moreBit := (iPcb_bits t1.ns more).2.2
      content := inf_appendRc counted }

theorem cjT1IBlock_of_room {t1 : T1Info} {more : Bool} {data : List UInt8}
    (room : data.length ≤ t1.ifsc.toNat) : ∃ block, cjT1IBlock t1 more data = .ok block := by
  unfold cjT1IBlock
  rw [if_neg (by omega)]
  exact ⟨_, rfl⟩

end Cyberjack.Ecom
