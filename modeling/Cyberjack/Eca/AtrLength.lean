import Cyberjack.Foundation.Checksum
import Cyberjack.Eca.AtrScan
import Cyberjack.Eca.HistoricalBytes

namespace Cyberjack.Eca

open Cyberjack.Foundation

/-! # The length of an ATR

What an ATR announces, and what `check_len` accepts.
-/

/-- The interface bytes of an ATR, from T0 or a TDi on: whether one behind it names a protocol other
than T=0, and the bytes behind all of them; no result where the ATR ends among them. -/
def announcedBytes : List UInt8 → Option (Bool × List UInt8)
  | [] => none
  | Dx :: rest =>
      let v := GetBits (Dx &&& 0xf0)
      if rest.length < v then none
      else if Dx &&& 0x80 ≠ 0 then
        -- the last of them is the next TDi
        (announcedBytes (rest.drop (v - 1))).map fun more => (rest.getD (v - 1) 0 &&& 0x0f != 0 || more.1, more.2)
      else some (false, rest.drop v)
termination_by bytes => bytes.length
decreasing_by
  simp only [List.length_drop, List.length_cons]
  omega

/-- An ATR in memory that goes on behind it. -/
structure StoredAtr where
  memory : Nat → UInt8
  length : Nat
  short : length ≤ 33

def StoredAtr.bytes (atr : StoredAtr) : List UInt8 := (List.range atr.length).map atr.memory

/-- The number of historical bytes in T0. -/
def StoredAtr.K (atr : StoredAtr) : Nat := (atr.memory 1 &&& 0x0f).toNat

/-- The exclusive or of all bytes behind TS. -/
def StoredAtr.sum (atr : StoredAtr) : UInt8 := xorSum (atr.bytes.drop 1)

/-- All that is announced is there and nothing else, and the historical bytes are where `check_len`
has them. -/
structure StoredAtr.Complete (atr : StoredAtr) (historical : Option Nat) (hist_len : Nat) (named : Bool)
    (behind : List UInt8) : Prop where
  announcement : announcedBytes (atr.bytes.drop 1) = some (named, behind)
  place : historical = some (atr.length - behind.length)
  count : hist_len = atr.K
  inside : hist_len ≤ behind.length
  checked : named = true → behind.length = atr.K + 1 ∧ atr.sum = 0
  unchecked : named = false → behind.length = atr.K ∨ (behind.length = atr.K + 1 ∧ atr.sum = 0)

/-- What an accepted ATR should be; the interface bytes are read from its bytes alone. -/
def StoredAtr.LengthRight (atr : StoredAtr) : Prop :=
  check_len atr.memory atr.length = 1 →
    (∃ named behind,
      atr.Complete (historicalAt atr.memory atr.length (atr.length + 1) 0) (atr.memory 1 &&& 0x0f).toNat named behind) ∧
    ∀ m_ApduNorm warm, ∃ scan, scanInterface? atr.bytes m_ApduNorm warm = some scan ∧
      scanATR atr.memory atr.length m_ApduNorm warm = scan.found

/-- A TDi behind `place` names a protocol other than T=0; the pointer may come to the second byte behind
the last one of the ATR. -/
inductive NamesOther (memory : Nat → UInt8) (length : Nat) : Nat → Prop where
  | here {place : Nat} (more : memory place &&& 0x80 ≠ 0) (near : place + GetBits (memory place &&& 0xf0) ≤ length + 1)
      (other : memory (place + GetBits (memory place &&& 0xf0)) &&& 0x0f ≠ 0) : NamesOther memory length place
  | further {place : Nat} (more : memory place &&& 0x80 ≠ 0) (near : place + GetBits (memory place &&& 0xf0) ≤ length + 1)
      (names : NamesOther memory length (place + GetBits (memory place &&& 0xf0))) : NamesOther memory length place

/-- There are K bytes and a check byte behind the announced ones. -/
def StoredAtr.EndsWithCheck (atr : StoredAtr) : Prop :=
  ∃ named behind, announcedBytes (atr.bytes.drop 1) = some (named, behind) ∧ behind.length = atr.K + 1

/-- An ATR whose checksum hides no wrong length. -/
def StoredAtr.ChecksumTells (atr : StoredAtr) : Prop :=
  NamesOther atr.memory atr.length 1 → atr.sum = 0 → atr.EndsWithCheck

/-! ## Announced bytes -/

variable {memory : Nat → UInt8} {length place : Nat} {named : Bool} {behind : List UInt8}

/-- The bytes from `place` on. -/
def bytesFrom (memory : Nat → UInt8) (length place : Nat) : List UInt8 := ((List.range length).map memory).drop place

theorem bytesFrom_cons (inside : place < length) :
    bytesFrom memory length place = memory place :: bytesFrom memory length (place + 1) := by
  unfold bytesFrom
  rw [List.drop_eq_getElem_cons (by rw [List.length_map, List.length_range]; exact inside)]
  simp

theorem bytesFrom_nil (outside : length ≤ place) : bytesFrom memory length place = [] := by
  unfold bytesFrom
  rw [List.drop_eq_nil_iff, List.length_map, List.length_range]
  exact outside

@[simp] theorem bytesFrom_length : (bytesFrom memory length place).length = length - place := by
  simp [bytesFrom]

theorem bytesFrom_drop (count : Nat) :
    (bytesFrom memory length place).drop count = bytesFrom memory length (place + count) := by
  rw [bytesFrom, List.drop_drop, bytesFrom]

theorem bytesFrom_getD {count : Nat} (inside : place + count < length) (default : UInt8) :
    (bytesFrom memory length place).getD count default = memory (place + count) := by
  simp [bytesFrom, List.getD_eq_getElem?_getD, inside]

/-- One step of `announcedBytes` in the memory. -/
theorem announcedBytes_from (inside : place + GetBits (memory place &&& 0xf0) < length) :
    announcedBytes (bytesFrom memory length place) =
      if memory place &&& 0x80 ≠ 0 then
        (announcedBytes (bytesFrom memory length (place + GetBits (memory place &&& 0xf0)))).map fun more =>
          (memory (place + GetBits (memory place &&& 0xf0)) &&& 0x0f != 0 || more.1, more.2)
      else some (false, bytesFrom memory length (place + 1 + GetBits (memory place &&& 0xf0))) := by
  rw [bytesFrom_cons (by omega), announcedBytes, if_neg (by rw [bytesFrom_length]; omega), bytesFrom_drop, bytesFrom_drop]
  by_cases more : memory place &&& 0x80 ≠ 0
  · have positive := getBits_pos more
    have next : place + 1 + (GetBits (memory place &&& 0xf0) - 1) = place + GetBits (memory place &&& 0xf0) := by omega
    rw [if_pos more, if_pos more, bytesFrom_getD (by omega), next]
  · rw [if_neg more, if_neg more]

theorem announcedBytes_outside (outside : length ≤ place + GetBits (memory place &&& 0xf0)) :
    announcedBytes (bytesFrom memory length place) = none := by
  by_cases there : place < length
  · rw [bytesFrom_cons there, announcedBytes, if_pos (by rw [bytesFrom_length]; omega)]
  · rw [bytesFrom_nil (by omega), announcedBytes]

/-! ## The loop -/

/-- The loop ends behind the announced bytes where they are there, else behind the end of the ATR. -/
theorem interfaceBytes_announced {passes len : Nat} (enough : length < passes + len) (start : len ≤ length) (t1 : Bool) :
    match announcedBytes (bytesFrom memory length (1 + len)) with
    | some (named, behind) =>
        (interfaceBytes memory length passes len t1).1 + 2 + behind.length = length ∧
          (interfaceBytes memory length passes len t1).2 = (t1 || named) ∧
            historicalAt memory length passes len = some (length - behind.length)
    | none => length < (interfaceBytes memory length passes len t1).1 + 2 := by
  induction passes generalizing len t1 with
  | zero => omega
  | succ passes ih =>
      rw [interfaceBytes, historicalAt]
      dsimp only
      by_cases inside : 1 + len + GetBits (memory (1 + len) &&& 0xf0) < length
      · rw [announcedBytes_from inside]
        by_cases more : memory (1 + len) &&& 0x80 ≠ 0
        · have positive := getBits_pos more
          have rest := @ih (len + GetBits (memory (1 + len) &&& 0xf0)) (by omega) (by omega)
            (t1 || memory (1 + (len + GetBits (memory (1 + len) &&& 0xf0))) &&& 0x0f != 0)
          rw [if_pos more, if_pos ⟨by omega, more⟩, if_pos (by omega), if_pos ⟨by omega, more⟩, if_pos (by omega),
            Nat.add_assoc]
          cases found : announcedBytes (bytesFrom memory length (1 + (len + GetBits (memory (1 + len) &&& 0xf0)))) with
          | none =>
              rw [found] at rest
              exact rest
          | some more =>
              rw [found] at rest
              dsimp only [Option.map_some] at rest ⊢
              rw [← Bool.or_assoc]
              exact rest
        · rw [if_neg more, if_neg fun both => more both.2, if_neg fun both => more both.2]
          dsimp only
          rw [bytesFrom_length, Bool.or_false]
          have place : 2 + (len + GetBits (memory (1 + len) &&& 0xf0)) =
              length - (length - (1 + len + 1 + GetBits (memory (1 + len) &&& 0xf0))) := by omega
          exact ⟨by omega, rfl, congrArg some place⟩
      · rw [announcedBytes_outside (by omega)]
        dsimp only
        split
        · case isTrue both =>
            split
            · case isTrue again =>
                have positive := getBits_pos both.2
                have rest := @ih (len + GetBits (memory (1 + len) &&& 0xf0)) (by omega) (by omega)
                  (t1 || memory (1 + (len + GetBits (memory (1 + len) &&& 0xf0))) &&& 0x0f != 0)
                rw [announcedBytes_outside (by omega)] at rest
                exact rest
            · case isFalse last =>
                dsimp only
                omega
        · case isFalse last =>
            dsimp only
            omega

/-- `t1` is set where a TDi on the way names another protocol. -/
theorem interfaceBytes_names {passes len : Nat} (enough : length < passes + len) (start : len ≤ length) (t1 : Bool) :
    (interfaceBytes memory length passes len t1).2 = true ↔ t1 = true ∨ NamesOther memory length (1 + len) := by
  induction passes generalizing len t1 with
  | zero => omega
  | succ passes ih =>
      have place : 1 + len + GetBits (memory (1 + len) &&& 0xf0) = 1 + (len + GetBits (memory (1 + len) &&& 0xf0)) := by
        omega
      have step : NamesOther memory length (1 + len) ↔
          (length ≥ len + GetBits (memory (1 + len) &&& 0xf0) ∧ memory (1 + len) &&& 0x80 ≠ 0) ∧
            (memory (1 + (len + GetBits (memory (1 + len) &&& 0xf0))) &&& 0x0f ≠ 0 ∨
              NamesOther memory length (1 + (len + GetBits (memory (1 + len) &&& 0xf0)))) := by
        constructor
        · intro names
          cases names with
          | here more near other =>
              rw [place] at near other
              exact ⟨⟨by omega, more⟩, .inl other⟩
          | further more near names =>
              rw [place] at near names
              exact ⟨⟨by omega, more⟩, .inr names⟩
        · intro ⟨⟨near, more⟩, found⟩
          rw [← place] at found
          cases found with
          | inl other => exact .here more (by omega) other
          | inr names => exact .further more (by omega) names
      rw [interfaceBytes, step]
      dsimp only
      by_cases both : length ≥ len + GetBits (memory (1 + len) &&& 0xf0) ∧ memory (1 + len) &&& 0x80 ≠ 0
      · have positive := getBits_pos both.2
        rw [if_pos both, and_iff_right both]
        by_cases again : length > len + GetBits (memory (1 + len) &&& 0xf0)
        · rw [if_pos again, ih (by omega) (by omega), Bool.or_eq_true, bne_iff_ne, or_assoc]
        · have ended : ¬ NamesOther memory length (1 + (len + GetBits (memory (1 + len) &&& 0xf0))) := by
            intro names
            cases names with
            | here more near other =>
                have further := getBits_pos more
                omega
            | further more near names =>
                have further := getBits_pos more
                omega
          rw [if_neg again, or_iff_left ended, Bool.or_eq_true, bne_iff_ne]
      · rw [if_neg both]
        simp [both]

theorem interfaceBytes_le (passes : Nat) {len : Nat} (start : len ≤ length) (t1 : Bool) :
    (interfaceBytes memory length passes len t1).1 ≤ length + 4 := by
  induction passes generalizing len t1 with
  | zero =>
      rw [interfaceBytes]
      dsimp only
      omega
  | succ passes ih =>
      have few := getBits_le (memory (1 + len))
      rw [interfaceBytes]
      dsimp only
      split
      · split
        · exact ih (by omega) _
        · dsimp only
          omega
      · dsimp only
        omega

/-! ## What is accepted -/

theorem StoredAtr.sum_eq (atr : StoredAtr) :
    (List.range (atr.length - 1)).foldl (fun lrc index => lrc ^^^ atr.memory (1 + index)) 0 = atr.sum := by
  have tail : atr.bytes.drop 1 = (List.range (atr.length - 1)).map fun index => atr.memory (1 + index) := by
    apply List.ext_getElem
    · simp [StoredAtr.bytes]
    · intro index first second
      simp [StoredAtr.bytes, Nat.add_comm]
  rw [StoredAtr.sum, tail, xorSum, List.foldl_map]

variable {atr : StoredAtr}

theorem StoredAtr.announced_iff (found : announcedBytes (atr.bytes.drop 1) = some (named, behind)) :
    check_len atr.memory atr.length = 1 ↔
      (named = true ∧ atr.sum = 0) ∨
        (named = false ∧ (behind.length = atr.K ∨ (behind.length = atr.K + 1 ∧ atr.sum = 0))) := by
  have loop := @interfaceBytes_announced atr.memory atr.length (atr.length + 1) 0 (by omega) (by omega) false
  change announcedBytes (bytesFrom atr.memory atr.length (1 + 0)) = _ at found
  rw [found] at loop
  obtain ⟨total, t1, _⟩ := loop
  rw [Bool.false_or] at t1
  rw [check_len, atr.sum_eq]
  dsimp only
  rw [t1]
  cases named with
  | true => simp
  | false =>
      rw [if_neg Bool.false_ne_true]
      have exact_ : atr.length = (interfaceBytes atr.memory atr.length (atr.length + 1) 0 false).1 +
          ((atr.memory 1 &&& 0x0f).toNat + 2) ↔ behind.length = atr.K := by
        unfold StoredAtr.K
        omega
      have longer : atr.length = (interfaceBytes atr.memory atr.length (atr.length + 1) 0 false).1 +
          ((atr.memory 1 &&& 0x0f).toNat + 2) + 1 ↔ behind.length = atr.K + 1 := by
        unfold StoredAtr.K
        omega
      simp only [ne_eq, exact_, longer]
      by_cases whole : behind.length = atr.K
      · simp [whole]
      · by_cases extra : behind.length = atr.K + 1
        · simp [extra]
        · simp [whole, extra]

theorem StoredAtr.truncated_iff (missing : announcedBytes (atr.bytes.drop 1) = none) :
    check_len atr.memory atr.length = 1 ↔ NamesOther atr.memory atr.length 1 ∧ atr.sum = 0 := by
  have loop := @interfaceBytes_announced atr.memory atr.length (atr.length + 1) 0 (by omega) (by omega) false
  have names := @interfaceBytes_names atr.memory atr.length (atr.length + 1) 0 (by omega) (by omega) false
  change announcedBytes (bytesFrom atr.memory atr.length (1 + 0)) = _ at missing
  rw [missing] at loop
  rw [Nat.add_zero] at names
  rw [check_len, atr.sum_eq]
  dsimp only at loop ⊢
  by_cases t1 : (interfaceBytes atr.memory atr.length (atr.length + 1) 0 false).2 = true
  · have named := names.mp t1
    rw [if_pos t1]
    simp at named
    simp [named]
  · have unnamed : ¬ NamesOther atr.memory atr.length 1 := fun named => t1 (names.mpr (.inr named))
    rw [if_neg t1, if_pos (by omega), if_neg (by omega)]
    simp [unnamed]

/-- In an ATR with all its announced bytes these are the names. -/
theorem StoredAtr.named_iff (found : announcedBytes (atr.bytes.drop 1) = some (named, behind)) :
    named = true ↔ NamesOther atr.memory atr.length 1 := by
  have loop := @interfaceBytes_announced atr.memory atr.length (atr.length + 1) 0 (by omega) (by omega) false
  have names := @interfaceBytes_names atr.memory atr.length (atr.length + 1) 0 (by omega) (by omega) false
  change announcedBytes (bytesFrom atr.memory atr.length (1 + 0)) = _ at found
  rw [found] at loop
  rw [loop.2.1] at names
  simpa using names

theorem StoredAtr.complete {historical : Option Nat} (found : announcedBytes (atr.bytes.drop 1) = some (named, behind))
    (place : historical = some (atr.length - behind.length))
    (checked : named = true → behind.length = atr.K + 1 ∧ atr.sum = 0)
    (unchecked : named = false → behind.length = atr.K ∨ (behind.length = atr.K + 1 ∧ atr.sum = 0)) :
    atr.Complete historical atr.K named behind := by
  have inside : atr.K ≤ behind.length := by
    cases named with
    | true =>
        have length := (checked rfl).1
        omega
    | false =>
        cases unchecked rfl with
        | inl length => omega
        | inr longer => omega
  exact ⟨found, place, rfl, inside, checked, unchecked⟩

theorem announcedBytes_inside {more : Bool × List UInt8} (found : announcedBytes (bytesFrom memory length place) = some more) :
    place + GetBits (memory place &&& 0xf0) < length ∧
      (memory place &&& 0x80 ≠ 0 →
        ∃ more, announcedBytes (bytesFrom memory length (place + GetBits (memory place &&& 0xf0))) = some more) := by
  by_cases outside : length ≤ place + GetBits (memory place &&& 0xf0)
  · rw [announcedBytes_outside outside] at found
    contradiction
  · rw [announcedBytes_from (by omega)] at found
    constructor
    · omega
    · intro set
      rw [if_pos set, Option.map_eq_some_iff] at found
      obtain ⟨more, rest, _⟩ := found
      exact ⟨more, rest⟩

theorem StoredAtr.cell (atr : StoredAtr) {index : Nat} {byte : UInt8} (found : atr.bytes[index]? = some byte) :
    atr.memory index = byte := by
  obtain ⟨inside, same⟩ := List.getElem?_eq_some_iff.mp found
  simpa [StoredAtr.bytes] using same

/-- The interface bytes of a complete ATR are read from its own bytes. -/
theorem StoredAtr.scan_inside (found : announcedBytes (atr.bytes.drop 1) = some (named, behind)) (m_ApduNorm : ApduNorm)
    (warm : Bool) : ∃ scan, scanInterface? atr.bytes m_ApduNorm warm = some scan ∧
      scanInterface atr.memory m_ApduNorm warm = scan.found := by
  change announcedBytes (bytesFrom atr.memory atr.length 1) = _ at found
  obtain ⟨inside, further⟩ := announcedBytes_inside found
  have size : atr.bytes.length = atr.length := by simp [StoredAtr.bytes]
  have place : atr.bytes[1]? = some (atr.memory 1) := by
    simp [StoredAtr.bytes, show 1 < atr.length by omega]
  have there : (scanInterface? atr.bytes m_ApduNorm warm).isSome := by
    apply scanInterface?_inside place
    · rw [size]
      exact inside
    · intro set TD1 cell
      obtain ⟨more, rest⟩ := further set
      obtain ⟨room, last⟩ := announcedBytes_inside rest
      rw [← atr.cell cell, size]
      constructor
      · exact room
      · intro set TD2 cell
        obtain ⟨more, rest⟩ := last set
        rw [← atr.cell cell]
        exact (announcedBytes_inside rest).1
  obtain ⟨scan, scanned⟩ := Option.isSome_iff_exists.mp there
  exact ⟨scan, scanned, scanInterface?_shown (fun _ _ found => atr.cell found) scanned⟩

/-- An accepted ATR is complete unless its checksum hides a wrong length. -/
theorem StoredAtr.lengthRight_iff (atr : StoredAtr) : atr.LengthRight ↔ atr.ChecksumTells := by
  constructor
  · intro right names sum
    cases found : announcedBytes (atr.bytes.drop 1) with
    | none =>
        obtain ⟨⟨named, behind, complete⟩, _⟩ := right ((atr.truncated_iff found).mpr ⟨names, sum⟩)
        rw [complete.announcement] at found
        contradiction
    | some more =>
        obtain ⟨named, behind⟩ := more
        have named_ := (atr.named_iff found).mpr names
        obtain ⟨⟨other, rest, complete⟩, _⟩ := right ((atr.announced_iff found).mpr (.inl ⟨named_, sum⟩))
        have same := complete.announcement.symm.trans found
        cases same
        exact ⟨named, behind, found, (complete.checked named_).1⟩
  · intro tells accepted
    cases found : announcedBytes (atr.bytes.drop 1) with
    | none =>
        obtain ⟨names, sum⟩ := (atr.truncated_iff found).mp accepted
        obtain ⟨named, behind, announcement, _⟩ := tells names sum
        rw [announcement] at found
        contradiction
    | some more =>
        obtain ⟨named, behind⟩ := more
        have parts := (atr.announced_iff found).mp accepted
        have loop := @interfaceBytes_announced atr.memory atr.length (atr.length + 1) 0 (by omega) (by omega) false
        have parsed : announcedBytes (bytesFrom atr.memory atr.length (1 + 0)) = some (named, behind) := found
        rw [parsed] at loop
        constructor
        · refine ⟨named, behind, atr.complete found loop.2.2 ?_ ?_⟩
          · intro named_
            rw [named_] at parts
            have sum : atr.sum = 0 := by simpa using parts
            obtain ⟨_, rest, announcement, length⟩ := tells ((atr.named_iff found).mp named_) sum
            cases announcement.symm.trans found
            exact ⟨length, sum⟩
          · intro unnamed
            rw [unnamed] at parts
            simpa using parts
        · intro m_ApduNorm warm
          rw [scanATR]
          rw [if_pos accepted]
          exact atr.scan_inside found m_ApduNorm warm

end Cyberjack.Eca
