import Cyberjack.Ecom.T1Block

namespace Cyberjack.Ecom

open Cyberjack.Foundation

/-! # What the T=1 block check detects

The checker of `cjt1.c` against its three builders.  The exclusive or over a
whole well-formed block is zero, and a change of one byte, be it the length
byte or the checksum itself, always shows in it.
-/

/-- Accepted as it is and rejected after a change of any one byte. -/
def Protected (block : List UInt8) : Prop :=
  cjT1CheckRc block = true ∧
    ∀ index value, index < block.length → value ≠ block.getD index 0 →
      cjT1CheckRc (block.set index value) = false

theorem WellFormed.sum_zero {block : List UInt8} (wellFormed : WellFormed block) :
    xorSum block = 0 := by
  have checked := wellFormed.checked
  have header := wellFormed.header
  have nonempty : block ≠ [] := by
    intro empty
    simp [empty] at header
  rw [List.getLast?_eq_some_getLast nonempty, Option.some.injEq] at checked
  have parts := List.dropLast_append_getLast nonempty
  rw [← parts, checked, xorSum_append, xorSum_cons, xorSum_nil, UInt8.xor_zero, cjT1Lrc,
    UInt8.xor_self]

theorem WellFormed.protected {block : List UInt8} (wellFormed : WellFormed block) :
    Protected block := by
  constructor
  · exact cjT1CheckRc_iff.mpr wellFormed
  · intro index value inside changed
    cases accepted : cjT1CheckRc (block.set index value) with
    | false => rfl
    | true =>
        have sum := (cjT1CheckRc_iff.mp accepted).sum_zero
        rw [← wellFormed.sum_zero] at sum
        exact absurd (xorSum_set inside sum) changed

theorem cjT1GetN_of_pcb {block : List UInt8} {pcb : UInt8} (second : block.getD 1 0 = pcb) :
    cjT1GetN block =
      if pcb &&& 0xC0 = 0x80 then (pcb >>> 4) &&& 0x01
      else if pcb &&& 0x80 = 0x00 then (pcb >>> 6) &&& 0x01
      else 0 := by
  subst pcb
  rfl

theorem cjT1GetN_iBlock {ns nad : UInt8} {more : Bool} {data : List UInt8}
    (binary : ns = 0 ∨ ns = 1) :
    cjT1GetN (cjT1AppendRc (nad :: iPcb ns more :: data)) = ns := by
  rw [cjT1GetN_of_pcb pcb_appendRc]
  rcases binary with rfl | rfl <;> cases more <;> decide

theorem cjT1GetN_rBlock (t1 : T1Info) {type : RType} (negative : type ≠ .ok) :
    cjT1GetN (cjT1RBlock t1 type) = t1.nr := by
  cases type with
  | ok => exact absurd rfl negative
  | edcError =>
      rw [cjT1RBlock, cjT1GetN_of_pcb pcb_appendRc]
      rcases t1.nrBit with clear | set
      · rw [clear]; decide
      · rw [set]; decide
  | otherError =>
      rw [cjT1RBlock, cjT1GetN_of_pcb pcb_appendRc]
      rcases t1.nrBit with clear | set
      · rw [clear]; decide
      · rw [set]; decide

theorem cjT1IBlock_protected {t1 : T1Info} {more : Bool} {data : List UInt8}
    (room : data.length ≤ t1.ifsc.toNat) :
    ∃ block, cjT1IBlock t1 more data = .ok block ∧ Protected block ∧ cjT1GetN block = t1.ns := by
  obtain ⟨block, built⟩ := @cjT1IBlock_of_room t1 more data room
  have wellFormed := (cjT1IBlock_built built).wellFormed
  have number : cjT1GetN block = t1.ns := by
    unfold cjT1IBlock at built
    rw [if_neg (by omega)] at built
    cases built
    exact cjT1GetN_iBlock t1.nsBit
  exact ⟨block, built, wellFormed.protected, number⟩

/-- Every block the three builders produce is protected, and the number it
was built with is read back from it. -/
theorem block_codec (t1 : T1Info) :
    (∀ more data, data.length ≤ t1.ifsc.toNat →
      ∃ block, cjT1IBlock t1 more data = .ok block ∧ Protected block ∧
        cjT1GetN block = t1.ns) ∧
    (∀ type, Protected (cjT1RBlock t1 type) ∧
      (type ≠ .ok → cjT1GetN (cjT1RBlock t1 type) = t1.nr)) ∧
    (∀ type dir param, Protected (cjT1SBlock type dir param)) := by
  constructor
  · intro more data room
    exact cjT1IBlock_protected room
  constructor
  · intro type
    exact ⟨(cjT1RBlock_wellFormed t1 type).protected, cjT1GetN_rBlock t1⟩
  · intro type dir param
    exact (cjT1SBlock_wellFormed type dir param).protected

theorem block_codec_select :
    (∃ block, cjT1IBlock T1Info.opened true [0x00, 0xA4, 0x04, 0x00] = .ok block ∧
      Protected block ∧ cjT1GetN block = 0) ∧
    cjT1GetN (cjT1RBlock T1Info.opened.flipNr .edcError) = 1 :=
  ⟨(block_codec T1Info.opened).1 true [0x00, 0xA4, 0x04, 0x00] (by decide),
    ((block_codec T1Info.opened.flipNr).2.1 .edcError).2 (by decide)⟩

end Cyberjack.Ecom
