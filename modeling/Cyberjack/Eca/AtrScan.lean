import Cyberjack.Eca.CardState

namespace Cyberjack.Eca

open Cyberjack.Foundation

/-! # The interface bytes of an ATR

The part of `AnalyseATR` behind `check_len`, with the members that it sets.  It
reads from the bytes of the ATR alone: there is no result where one is missing.
-/

/-- The members for the interface bytes. -/
structure InterfaceBytes where
  m_TA1 : UInt8
  m_TC1 : UInt8
  m_TC2 : UInt8
  m_TA3 : UInt8
  m_TB3 : UInt8
  m_TC3 : UInt8
deriving Repr, DecidableEq

/-- What `AnalyseATR` begins with. -/
def InterfaceBytes.default : InterfaceBytes := ⟨0x11, 0, 10, 0x20, 0x4d, 0⟩

structure InterfaceScan where
  members : InterfaceBytes
  found : AtrScan
deriving Repr, DecidableEq

/-- A byte that is there if its bit is set, and `ptr` behind it. -/
def interfaceByte? (data : List UInt8) (Dx mask : UInt8) (ptr : Nat) (default : UInt8) : Option (UInt8 × Nat) :=
  if Dx &&& mask ≠ 0 then data[ptr]?.map fun byte => (byte, ptr + 1) else some (default, ptr)

/-- The bytes for T=1 behind TD2, and whether one of them is wrong. -/
def scanT1? (data : List UInt8) (m_ApduNorm : ApduNorm) (Dx : UInt8) (members : InterfaceBytes) (ptr : Nat) :
    Option (InterfaceBytes × Bool) := do
  let (m_TA3, ptr) ← interfaceByte? data Dx 0x10 ptr members.m_TA3
  let wrongTA3 := Dx &&& 0x10 != 0 && (m_TA3 < 0x10 || m_TA3 == 0xff)
  let (m_TB3, ptr) ← interfaceByte? data Dx 0x20 ptr members.m_TB3
  let wrongTB3 :=
    if Dx &&& 0x20 ≠ 0 then
      m_ApduNorm == .emv && (m_TB3 > 0x45 || m_TB3 &&& 0x0f > 0x05 ||
        (1 <<< (m_TB3 &&& 0x0f).toNat ≤ members.m_TC1.toNat + 1 && members.m_TC1 != 0xff))
    else m_ApduNorm == .emv
  let (m_TC3, _) ← interfaceByte? data Dx 0x40 ptr members.m_TC3
  let wrongTC3 := Dx &&& 0x40 != 0 && m_TC3 != 0
  return ({ members with m_TA3, m_TB3, m_TC3 }, wrongTA3 || wrongTB3 || wrongTC3)

/-- The interface bytes from TD1 on. -/
def scanTD1? (data : List UInt8) (m_ApduNorm : ApduNorm) (members : InterfaceBytes) (error : Bool) (ptr : Nat) :
    Option InterfaceScan := do
  let TD1 ← data[ptr]?
  let protocol := 1 <<< (TD1 &&& 0x0f).toNat
  let specific := TD1 &&& 0x10 != 0
  let (TA2, ptr) ← interfaceByte? data TD1 0x10 (ptr + 1) 0
  let wrongTA2 := specific && TA2 &&& 0x10 != 0
  -- TB2 is not looked at
  let ptr := if TD1 &&& 0x20 ≠ 0 then ptr + 1 else ptr
  let (m_TC2, ptr) ← interfaceByte? data TD1 0x40 ptr members.m_TC2
  let wrongTC2 := TD1 &&& 0x40 != 0 && m_TC2 == 0
  let members := { members with m_TC2 }
  let error := error || TD1 &&& 0x0f > 1 || wrongTA2 || TD1 &&& 0x20 != 0 || wrongTC2
  if TD1 &&& 0x80 ≠ 0 then
    let Dx ← data[ptr]?
    let wrongTD2 := Dx &&& 0x0f != 1 && (protocol != 1 || Dx &&& 0x0e != 0x0e)
    let protocol := protocol ||| 1 <<< (Dx &&& 0x0f).toNat
    if Dx &&& 0x0f = 1 then
      let (members, wrong) ← scanT1? data m_ApduNorm Dx members (ptr + 1)
      return ⟨members, ⟨(error || wrongTD2 || wrong).toNat, protocol, specific, TD1⟩⟩
    else return ⟨members, ⟨(error || wrongTD2).toNat, protocol, specific, TD1⟩⟩
  else return ⟨members, ⟨(error || protocol &&& 2 != 0).toNat, protocol, specific, TD1⟩⟩

/-- The interface bytes of an ATR whose length is right. -/
def scanInterface? (data : List UInt8) (m_ApduNorm : ApduNorm) (warm : Bool) : Option InterfaceScan := do
  let members := InterfaceBytes.default
  let T0 ← data[1]?
  let (m_TA1, ptr) ← interfaceByte? data T0 0x10 2 members.m_TA1
  let (TB1, ptr) ← interfaceByte? data T0 0x20 ptr 0
  let error := if T0 &&& 0x20 ≠ 0 then TB1 != 0 && !warm else !warm
  let (m_TC1, ptr) ← interfaceByte? data T0 0x40 ptr members.m_TC1
  let members := { members with m_TA1, m_TC1 }
  if T0 &&& 0x80 ≠ 0 then scanTD1? data m_ApduNorm members error ptr
  else return ⟨members, ⟨error.toNat, 1, false, 0⟩⟩

/-! ## What is read -/

variable {data : List UInt8} {m_ApduNorm : ApduNorm} {Dx mask default byte : UInt8} {ptr behind : Nat}
  {members : InterfaceBytes} {atr : Nat → UInt8}

/-- How many bytes a bit stands for. -/
def bit (Dx mask : UInt8) : Nat := if Dx &&& mask ≠ 0 then 1 else 0

theorem getBits_bits (Dx : UInt8) :
    GetBits (Dx &&& 0xf0) = bit Dx 0x10 + bit Dx 0x20 + bit Dx 0x40 + bit Dx 0x80 := by
  revert Dx
  decide +kernel

/-- The memory that the ATR is read from. -/
def Shows (atr : Nat → UInt8) (data : List UInt8) : Prop := ∀ index byte, data[index]? = some byte → atr index = byte

theorem interfaceByte?_some (found : interfaceByte? data Dx mask ptr default = some (byte, behind)) :
    behind = ptr + bit Dx mask ∧ (Dx &&& mask ≠ 0 → data[ptr]? = some byte) ∧ (Dx &&& mask = 0 → byte = default) := by
  unfold interfaceByte? at found
  unfold bit
  split at found
  · case isTrue there =>
      rw [Option.map_eq_some_iff] at found
      obtain ⟨read, cell, same⟩ := found
      cases same
      rw [if_pos there]
      exact ⟨rfl, fun _ => cell, fun absent => absurd absent there⟩
  · case isFalse absent =>
      cases found
      rw [if_neg absent]
      exact ⟨rfl, fun there => absurd there absent, fun _ => rfl⟩

theorem interfaceByte?_inside (inside : ptr + bit Dx mask ≤ data.length) (default : UInt8) :
    ∃ byte, interfaceByte? data Dx mask ptr default = some (byte, ptr + bit Dx mask) := by
  unfold interfaceByte?
  unfold bit at inside ⊢
  split
  · case isTrue there =>
      rw [if_pos there] at inside
      rw [List.getElem?_eq_getElem (show ptr < data.length by omega)]
      exact ⟨_, rfl⟩
  · exact ⟨_, rfl⟩

theorem scanT1?_inside (inside : ptr + bit Dx 0x10 + bit Dx 0x20 + bit Dx 0x40 ≤ data.length) :
    (scanT1? data m_ApduNorm Dx members ptr).isSome := by
  obtain ⟨m_TA3, first⟩ := @interfaceByte?_inside data Dx 0x10 ptr (by omega) members.m_TA3
  obtain ⟨m_TB3, second⟩ := @interfaceByte?_inside data Dx 0x20 (ptr + bit Dx 0x10) (by omega) members.m_TB3
  obtain ⟨m_TC3, third⟩ := @interfaceByte?_inside data Dx 0x40 (ptr + bit Dx 0x10 + bit Dx 0x20) inside members.m_TC3
  simp [scanT1?, first, second, third]

/-- The bytes of TD1 are there, and those of TD2 where it stands for T=1. -/
theorem scanTD1?_inside {TD1 : UInt8} {error : Bool} (place : data[ptr]? = some TD1)
    (inside : ptr + GetBits (TD1 &&& 0xf0) < data.length)
    (further : TD1 &&& 0x80 ≠ 0 → ∀ Dx, data[ptr + GetBits (TD1 &&& 0xf0)]? = some Dx →
      ptr + GetBits (TD1 &&& 0xf0) + GetBits (Dx &&& 0xf0) < data.length) :
    (scanTD1? data m_ApduNorm members error ptr).isSome := by
  have count := getBits_bits TD1
  obtain ⟨TA2, first⟩ := @interfaceByte?_inside data TD1 0x10 (ptr + 1) (by omega) 0
  obtain ⟨m_TC2, second⟩ :=
    @interfaceByte?_inside data TD1 0x40 (ptr + 1 + bit TD1 0x10 + bit TD1 0x20) (by omega) members.m_TC2
  have skipped : (if TD1 &&& 0x20 ≠ 0 then ptr + 1 + bit TD1 0x10 + 1 else ptr + 1 + bit TD1 0x10) =
      ptr + 1 + bit TD1 0x10 + bit TD1 0x20 := by
    unfold bit
    split <;> rfl
  simp only [scanTD1?, place, first, skipped, second, Option.bind_eq_bind, Option.bind_some]
  split
  · case isTrue more =>
      have last : bit TD1 0x80 = 1 := if_pos more
      have here : ptr + 1 + bit TD1 0x10 + bit TD1 0x20 + bit TD1 0x40 = ptr + GetBits (TD1 &&& 0xf0) := by omega
      obtain ⟨Dx, cell⟩ : ∃ Dx, data[ptr + GetBits (TD1 &&& 0xf0)]? = some Dx := ⟨_, List.getElem?_eq_getElem inside⟩
      have room := further more Dx cell
      have bits := getBits_bits Dx
      rw [here, cell]
      simp only [Option.bind_some]
      split
      · obtain ⟨scanned, found⟩ := Option.isSome_iff_exists.mp
          (@scanT1?_inside data m_ApduNorm Dx (ptr + GetBits (TD1 &&& 0xf0) + 1) { members with m_TC2 } (by omega))
        rw [found]
        rfl
      · rfl
  · rfl

/-- The interface bytes of T0 are there, those of TD1 and those of TD2. -/
theorem scanInterface?_inside {T0 : UInt8} {warm : Bool} (place : data[1]? = some T0)
    (inside : 1 + GetBits (T0 &&& 0xf0) < data.length)
    (further : T0 &&& 0x80 ≠ 0 → ∀ TD1, data[1 + GetBits (T0 &&& 0xf0)]? = some TD1 →
      1 + GetBits (T0 &&& 0xf0) + GetBits (TD1 &&& 0xf0) < data.length ∧
        (TD1 &&& 0x80 ≠ 0 → ∀ TD2, data[1 + GetBits (T0 &&& 0xf0) + GetBits (TD1 &&& 0xf0)]? = some TD2 →
          1 + GetBits (T0 &&& 0xf0) + GetBits (TD1 &&& 0xf0) + GetBits (TD2 &&& 0xf0) < data.length)) :
    (scanInterface? data m_ApduNorm warm).isSome := by
  have count := getBits_bits T0
  obtain ⟨TA1, first⟩ := @interfaceByte?_inside data T0 0x10 2 (by omega) InterfaceBytes.default.m_TA1
  obtain ⟨TB1, second⟩ := @interfaceByte?_inside data T0 0x20 (2 + bit T0 0x10) (by omega) 0
  obtain ⟨TC1, third⟩ :=
    @interfaceByte?_inside data T0 0x40 (2 + bit T0 0x10 + bit T0 0x20) (by omega) InterfaceBytes.default.m_TC1
  simp only [scanInterface?, place, first, second, third, Option.bind_eq_bind, Option.bind_some]
  split
  · case isTrue more =>
      have last : bit T0 0x80 = 1 := if_pos more
      have here : 2 + bit T0 0x10 + bit T0 0x20 + bit T0 0x40 = 1 + GetBits (T0 &&& 0xf0) := by omega
      rw [here]
      have cell := List.getElem?_eq_getElem inside
      obtain ⟨room, behind⟩ := further more _ cell
      exact scanTD1?_inside cell room behind
  · rfl

/-! ## The scan of the memory -/

theorem interfaceByte?_shown (shows : Shows atr data) (found : interfaceByte? data Dx mask ptr default = some (byte, behind)) :
    behind = (if Dx &&& mask ≠ 0 then ptr + 1 else ptr) ∧ (Dx &&& mask ≠ 0 → atr ptr = byte) := by
  obtain ⟨end_, there, _⟩ := interfaceByte?_some found
  refine ⟨?_, fun set => shows ptr byte (there set)⟩
  rw [end_, bit]
  split <;> rfl

/-- A test that is only made of a byte that is there. -/
theorem guarded (cell : Dx &&& mask ≠ 0 → atr ptr = byte) (test : UInt8 → Bool) :
    (Dx &&& mask != 0 && test (atr ptr)) = (Dx &&& mask != 0 && test byte) := by
  by_cases absent : Dx &&& mask = 0
  · rw [absent]
    rfl
  · rw [cell absent]

theorem guardedElse (cell : Dx &&& mask ≠ 0 → atr ptr = byte) (test : UInt8 → Bool) (other : Bool) :
    (if Dx &&& mask ≠ 0 then test (atr ptr) else other) = if Dx &&& mask ≠ 0 then test byte else other := by
  by_cases absent : Dx &&& mask = 0
  · rw [if_neg (not_not.mpr absent), if_neg (not_not.mpr absent)]
  · rw [cell absent]

theorem scanT1?_shown (shows : Shows atr data) {after : InterfaceBytes} {wrong : Bool}
    (found : scanT1? data m_ApduNorm Dx members ptr = some (after, wrong)) :
    wrongT1 atr m_ApduNorm Dx members.m_TC1 ptr = wrong := by
  simp only [scanT1?, Option.bind_eq_bind, Option.bind_eq_some_iff, Prod.exists, Option.pure_def, Option.some.injEq,
    Prod.mk.injEq] at found
  obtain ⟨TA3, place2, first, TB3, place3, second, TC3, place4, third, _, same⟩ := found
  obtain ⟨rfl, cell1⟩ := interfaceByte?_shown shows first
  obtain ⟨rfl, cell2⟩ := interfaceByte?_shown shows second
  obtain ⟨rfl, cell3⟩ := interfaceByte?_shown shows third
  have one := guarded cell1 fun TA3 => TA3 < 0x10 || TA3 == 0xff
  have two := guardedElse cell2 (fun TB3 => m_ApduNorm == .emv && (TB3 > 0x45 || TB3 &&& 0x0f > 0x05 ||
    (1 <<< (TB3 &&& 0x0f).toNat ≤ members.m_TC1.toNat + 1 && members.m_TC1 != 0xff))) (m_ApduNorm == .emv)
  have three := guarded cell3 fun TC3 => TC3 != 0
  rw [← same, wrongT1, one, two, three]

theorem scanTD1?_shown (shows : Shows atr data) {error : Bool} {scan : InterfaceScan}
    (found : scanTD1? data m_ApduNorm members error ptr = some scan) :
    scanTD1 atr m_ApduNorm members.m_TC1 error ptr = scan.found := by
  simp only [scanTD1?, Option.bind_eq_bind, Option.bind_eq_some_iff, Prod.exists] at found
  obtain ⟨TD1, place, TA2, place2, first, TC2, place3, second, rest⟩ := found
  obtain ⟨rfl, cell1⟩ := interfaceByte?_shown shows first
  obtain ⟨rfl, cell2⟩ := interfaceByte?_shown shows second
  have one := guarded cell1 fun TA2 => TA2 &&& 0x10 != 0
  have two := guarded cell2 fun TC2 => TC2 == 0
  have here := shows ptr TD1 place
  rw [scanTD1, here, one]
  simp only [bne_iff_ne]
  rw [two]
  by_cases more : TD1 &&& 0x80 ≠ 0
  · rw [if_pos more] at rest ⊢
    rw [Option.bind_eq_some_iff] at rest
    obtain ⟨Dx, cell, rest⟩ := rest
    rw [shows _ Dx cell]
    split at rest
    · case isTrue t1 =>
        rw [Option.bind_eq_some_iff] at rest
        obtain ⟨⟨after, wrong⟩, second, same⟩ := rest
        rw [Option.pure_def, Option.some.injEq] at same
        have wrongs := scanT1?_shown shows second
        rw [← same, wrongs, beq_iff_eq.mpr t1, Bool.true_and]
    · case isFalse other =>
        rw [Option.pure_def, Option.some.injEq] at rest
        rw [← rest, beq_eq_false_iff_ne.mpr other, Bool.false_and, Bool.or_false]
  · rw [if_neg more] at rest ⊢
    rw [Option.pure_def, Option.some.injEq] at rest
    rw [← rest]

theorem scanInterface?_shown (shows : Shows atr data) {warm : Bool} {scan : InterfaceScan}
    (found : scanInterface? data m_ApduNorm warm = some scan) :
    scanInterface atr m_ApduNorm warm = scan.found := by
  simp only [scanInterface?, Option.bind_eq_bind, Option.bind_eq_some_iff, Prod.exists] at found
  obtain ⟨T0, place, TA1, place2, first, TB1, place3, second, TC1, place4, third, rest⟩ := found
  obtain ⟨rfl, cell1⟩ := interfaceByte?_shown shows first
  obtain ⟨place3_eq, cell2⟩ := interfaceByte?_shown shows second
  obtain ⟨behind, cell3⟩ := interfaceByte?_shown shows third
  obtain ⟨_, _, missing⟩ := interfaceByte?_some third
  have one := guardedElse cell2 (fun TB1 => TB1 != 0 && !warm) (!warm)
  have guard : (if T0 &&& 0x40 ≠ 0 then atr place3 else 0) = TC1 := by
    by_cases absent : T0 &&& 0x40 = 0
    · rw [if_neg (not_not.mpr absent)]
      exact (missing absent).symm
    · rw [if_pos absent, cell3 absent]
  subst place3
  simp only [Nat.reduceAdd] at one guard behind
  rw [scanInterface, shows 1 T0 place, one, guard, ← behind]
  split at rest
  · case isTrue more =>
      rw [if_pos more]
      have found := scanTD1?_shown shows rest
      dsimp only at found
      exact found
  · case isFalse last =>
      rw [if_neg last]
      rw [Option.pure_def, Option.some.injEq] at rest
      rw [← rest]

end Cyberjack.Eca
