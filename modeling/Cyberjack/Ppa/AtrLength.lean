import Cyberjack.Eca.AtrLength
import Cyberjack.Ppa.CardReset

namespace Cyberjack.Ppa.Reset

open Cyberjack.Foundation Cyberjack.Eca

/-! # The length of an ATR in both drivers

`check_len` of this driver has the loop of the other one, with the same result for an ATR of a
protocol other than T=0.
-/

/-- An ATR in the array of `ctBcsReset`. -/
structure ArrayAtr where
  atr : Buffer UInt8 260
  length : Nat
  short : length ≤ 33

def ArrayAtr.stored (array : ArrayAtr) : StoredAtr := ⟨array.atr.get, array.length, array.short⟩

/-- What an accepted ATR should be. -/
def ArrayAtr.LengthRight (array : ArrayAtr) : Prop :=
  ∃ checked, check_len array.atr array.length = some checked ∧
    (checked.code = 1 → ∃ named behind,
      array.stored.Complete checked.historical checked.hist_len.toNat named behind)

/-! ## The loop -/

variable {atr : Buffer UInt8 260} {length : Nat}

theorem walk_eq (short : length ≤ 33) {passes len : Nat} (enough : length < passes + len) (start : len ≤ length) (t1 : Bool) :
    walk atr length passes (1 + len) (UInt8.ofNat len) t1 =
      some ⟨historicalAt atr.get length passes len, UInt8.ofNat (interfaceBytes atr.get length passes len t1).1,
        (interfaceBytes atr.get length passes len t1).2⟩ := by
  induction passes generalizing len t1 with
  | zero => omega
  | succ passes ih =>
      have few := getBits_le (atr.get (1 + len))
      have sum : UInt8.ofNat len + UInt8.ofNat (GetBits (atr.get (1 + len) &&& 0xf0)) =
          UInt8.ofNat (len + GetBits (atr.get (1 + len) &&& 0xf0)) := (UInt8.ofNat_add _ _).symm
      have small : (UInt8.ofNat (len + GetBits (atr.get (1 + len) &&& 0xf0))).toNat =
          len + GetBits (atr.get (1 + len) &&& 0xf0) := by
        rw [UInt8.toNat_ofNat']
        omega
      rw [walk, historicalAt, interfaceBytes, if_pos (by omega)]
      dsimp only
      rw [sum, small]
      by_cases both : length ≥ len + GetBits (atr.get (1 + len) &&& 0xf0) ∧ atr.get (1 + len) &&& 0x80 ≠ 0
      · have positive := getBits_pos both.2
        rw [if_pos both, if_pos both, if_pos both, if_pos (Or.inr (by omega)), Nat.add_assoc]
        by_cases again : length > len + GetBits (atr.get (1 + len) &&& 0xf0)
        · rw [if_pos again, if_pos again, if_pos again]
          exact ih (by omega) (by omega) _
        · rw [if_neg again, if_neg again, if_neg again]
      · rw [if_neg both, if_neg both, if_neg both]
        have place : 1 + len + GetBits (atr.get (1 + len) &&& 0xf0) + 1 = 2 + (len + GetBits (atr.get (1 + len) &&& 0xf0)) := by
          omega
        rw [place]

theorem xorSum_bytes (array : ArrayAtr) : xorSum ((array.atr.cells.take array.length).drop 1) = array.stored.sum := by
  have same : array.atr.cells.take array.length = array.stored.bytes := by
    have size := array.atr.length_cells
    have short := array.short
    apply List.ext_getElem
    · simp [StoredAtr.bytes, ArrayAtr.stored, size]
      omega
    · intro index first second
      simp only [List.length_take, size] at first
      simp [StoredAtr.bytes, ArrayAtr.stored, Buffer.get, size, show index < 260 by omega]
  rw [StoredAtr.sum, same]

/-- What `check_len` of this driver makes of the loop. -/
theorem check_len_eq (array : ArrayAtr) :
    ∃ checked, check_len array.atr array.length = some checked ∧
      checked.historical = historicalAt array.stored.memory array.length 260 0 ∧ checked.hist_len.toNat = array.stored.K ∧
        (checked.code = 1 ↔
          if (interfaceBytes array.stored.memory array.length 260 0 false).2 = true then array.stored.sum = 0
          else array.length = (interfaceBytes array.stored.memory array.length 260 0 false).1 + (array.stored.K + 2)) := by
  have short := array.short
  have loop := @walk_eq array.atr array.length short 260 0 (by omega) (by omega) false
  change walk array.atr array.length 260 1 0 false = _ at loop
  rw [check_len, loop]
  refine ⟨_, rfl, rfl, rfl, ?_⟩
  dsimp only
  rw [xorSum_bytes]
  change _ ↔ if (interfaceBytes array.atr.get array.length 260 0 false).2 = true then array.stored.sum = 0 else
    array.length = (interfaceBytes array.atr.get array.length 260 0 false).1 + ((array.atr.get 1 &&& 0x0f).toNat + 2)
  have bound := @interfaceBytes_le array.atr.get array.length 260 0 (by omega) false
  have low := low_le (array.atr.get 1)
  generalize interfaceBytes array.atr.get array.length 260 0 false = loop at bound
  obtain ⟨len, t1⟩ := loop
  dsimp only at bound ⊢
  cases t1 with
  | true => simp
  | false =>
      have sum : ((array.atr.get 1 &&& 0x0f) + 2 + 0).toNat = (array.atr.get 1 &&& 0x0f).toNat + 2 := by
        rw [UInt8.add_zero, UInt8.toNat_add]
        change ((array.atr.get 1 &&& 0x0f).toNat + 2) % 256 = _
        omega
      have length : (UInt8.ofNat len).toNat = len := by
        rw [UInt8.toNat_ofNat']
        omega
      rw [if_neg Bool.false_ne_true, if_neg Bool.false_ne_true, if_neg Bool.false_ne_true, sum, length]
      simp

theorem ArrayAtr.lengthRight_iff (array : ArrayAtr) : array.LengthRight ↔ array.stored.ChecksumTells := by
  obtain ⟨checked, made, place, count, code⟩ := check_len_eq array
  have loop := @interfaceBytes_announced array.stored.memory array.length 260 0 (by have := array.short; omega) (by omega) false
  have names := @interfaceBytes_names array.stored.memory array.length 260 0 (by have := array.short; omega) (by omega) false
  rw [show bytesFrom array.stored.memory array.length (1 + 0) = array.stored.bytes.drop 1 from rfl] at loop
  constructor
  · intro right names_ sum
    obtain ⟨other, same, whole⟩ := right
    cases made.symm.trans same
    have t1 := names.mpr (.inr names_)
    rw [if_pos t1] at code
    obtain ⟨named, behind, complete⟩ := whole (code.mpr sum)
    have t1_ := (array.stored.named_iff complete.announcement).mpr names_
    exact ⟨named, behind, complete.announcement, (complete.checked t1_).1⟩
  · intro tells
    refine ⟨checked, made, fun accepted => ?_⟩
    have parts := code.mp accepted
    cases found : announcedBytes (array.stored.bytes.drop 1) with
    | none =>
        rw [found] at loop
        dsimp only at loop
        split at parts
        · case isTrue t1 =>
            have names_ := names.mp t1
            simp only [Bool.false_eq_true, false_or] at names_
            obtain ⟨named, behind, announcement, _⟩ := tells names_ parts
            rw [announcement] at found
            contradiction
        · omega
    | some more =>
        obtain ⟨named, behind⟩ := more
        rw [found] at loop
        obtain ⟨total, t1, start⟩ := loop
        rw [Bool.false_or] at t1
        rw [t1] at parts
        rw [count]
        refine ⟨named, behind, array.stored.complete found (place.trans start) ?_ ?_⟩
        · intro named_
          rw [if_pos named_] at parts
          obtain ⟨_, rest, announcement, length⟩ := tells ((array.stored.named_iff found).mp named_) parts
          cases announcement.symm.trans found
          exact ⟨length, parts⟩
        · intro unnamed
          rw [unnamed, if_neg Bool.false_ne_true] at parts
          exact .inl (by omega)

/-- In both drivers an accepted ATR is complete, unless one of a protocol other than T=0 has a checksum
that is right for a wrong length. -/
theorem accepted_lengths_iff (atr : StoredAtr) (array : ArrayAtr) :
    (atr.LengthRight ↔ atr.ChecksumTells) ∧ (array.LengthRight ↔ array.stored.ChecksumTells) :=
  ⟨atr.lengthRight_iff, array.lengthRight_iff⟩

/-- One of the 15 historical bytes of a T=1 card, and no check byte. -/
def truncated : List UInt8 := [0x3b, 0x8f, 0x81, 0x01, 0x0f]

def truncatedAtr : StoredAtr := ⟨fun index => truncated.getD index 0, truncated.length, by decide⟩

def truncatedArray : ArrayAtr := ⟨(Buffer.filled 260 0).store 0 truncated (by decide), truncated.length, by decide⟩

theorem truncated_not_complete {atr : StoredAtr} (bytes : atr.bytes = truncated) : ¬ atr.ChecksumTells := by
  have size : atr.length = 5 := by
    rw [← show atr.bytes.length = 5 by rw [bytes]; rfl]
    simp [StoredAtr.bytes]
  have one : atr.memory 1 = 0x8f := atr.cell (by rw [bytes]; rfl)
  have two : atr.memory 2 = 0x81 := atr.cell (by rw [bytes]; rfl)
  have last : announcedBytes [0x01, 0x0f] = some (false, [0x0f]) := by
    rw [announcedBytes, if_neg (by decide), if_neg (by decide)]
    rfl
  have second : announcedBytes [0x81, 0x01, 0x0f] = some (true, [0x0f]) := by
    rw [announcedBytes, if_neg (by decide), if_pos (by decide)]
    change (announcedBytes [0x01, 0x0f]).map _ = _
    rw [last]
    rfl
  have whole : announcedBytes (atr.bytes.drop 1) = some (true, [0x0f]) := by
    rw [bytes, truncated, List.drop_succ_cons, List.drop_zero, announcedBytes, if_neg (by decide), if_pos (by decide)]
    change (announcedBytes [0x81, 0x01, 0x0f]).map _ = _
    rw [second]
    rfl
  intro tells
  have names : NamesOther atr.memory atr.length 1 := by
    apply NamesOther.here
    · rw [one]
      decide
    · rw [one, size]
      decide
    · rw [one]
      change atr.memory 2 &&& 0x0f ≠ 0
      rw [two]
      decide
  have sum : atr.sum = 0 := by
    rw [StoredAtr.sum, bytes]
    decide
  obtain ⟨named, behind, announcement, length⟩ := tells names sum
  cases whole.symm.trans announcement
  rw [StoredAtr.K, one] at length
  contradiction

theorem truncated_accepted : ¬ truncatedAtr.LengthRight ∧ ¬ truncatedArray.LengthRight := by
  constructor
  · rw [truncatedAtr.lengthRight_iff]
    exact truncated_not_complete (by decide)
  · rw [truncatedArray.lengthRight_iff]
    exact truncated_not_complete (by decide)

end Cyberjack.Ppa.Reset
