import Mathlib.Data.Int.Basic
import Mathlib.Data.List.Basic

namespace Cyberjack.Foundation

/-! # Machine integers -/

/-- The value a 32-bit `int` holds: the addition of the target machine wraps around. -/
def int32 (value : Int) : Int := Int.bmod value 4294967296

theorem int32_of_range {value : Int} (low : -2147483648 ≤ value) (high : value < 2147483648) :
    int32 value = value := by
  rw [int32, Int.bmod_def]
  split <;> omega

theorem int32_bounds (value : Int) : -2147483648 ≤ int32 value ∧ int32 value < 2147483648 := by
  rw [int32, Int.bmod_def]
  split <;> omega

theorem toNat_pos {byte : UInt8} (some : byte ≠ 0) : 0 < byte.toNat :=
  Nat.pos_of_ne_zero fun zero => some (UInt8.toNat_inj.mp zero)

/-- The value a `short` holds. -/
def int16 (value : Int) : Int := Int.bmod value 65536

theorem int16_of_range {value : Int} (low : -32768 ≤ value) (high : value < 32768) :
    int16 value = value := by
  rw [int16, Int.bmod_def]
  split <;> omega

/-- The value an `unsigned short` holds. -/
def uint16 (value : Int) : Nat := (value % 65536).toNat

theorem uint16_of_range {value : Nat} (high : value < 65536) : uint16 value = value := by
  rw [uint16]
  omega

/-- The value an `unsigned int` holds. -/
def uint32 (value : Int) : Nat := (value % 4294967296).toNat

theorem uint32_of_range {value : Nat} (high : value < 4294967296) : uint32 value = value := by
  rw [uint32]
  omega

theorem uint32_add (first second : Int) :
    uint32 (uint32 first + second) = uint32 (first + second) := by
  have nonnegative := Int.emod_nonneg first (b := 4294967296) (by decide)
  rw [uint32, uint32, uint32, Int.toNat_of_nonneg nonnegative, Int.emod_add_emod]

/-- A statement about every byte is decided by going through the bytes. -/
instance decidableForallUInt8 (p : UInt8 → Prop) [DecidablePred p] : Decidable (∀ byte, p byte) :=
  decidable_of_iff (∀ bits : BitVec 8, p ⟨bits⟩)
    ⟨fun every byte => every byte.toBitVec, fun every bits => every ⟨bits⟩⟩

end Cyberjack.Foundation
