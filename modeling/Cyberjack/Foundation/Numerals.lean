import Mathlib.Data.Nat.Digits.Defs

namespace Cyberjack.Foundation

/-! # Numbers as texts

The digits of a number in some base, with zeros in front of them, and what a
reader of digits makes of them again.
-/

variable {base width number : Nat}

theorem toDigits_below (large : 1 < base) (number : Nat) :
    ∀ digit ∈ Nat.toDigits base number, ∃ place < base, digit = Nat.digitChar place := by
  induction number using Nat.strongRecOn with
  | ind number ih =>
      intro digit member
      rw [Nat.toDigits_eq_if large] at member
      split at member
      · rename_i small
        exact ⟨number, small, List.mem_singleton.mp member⟩
      · rename_i more
        cases List.mem_append.mp member with
        | inl front => exact ih (number / base) (Nat.div_lt_self (by omega) large) digit front
        | inr last => exact ⟨number % base, Nat.mod_lt _ (by omega), List.mem_singleton.mp last⟩

/-- Digits are read from the front. -/
def readDigits (base : Nat) (value : Char → Nat) (digits : List Char) : Nat :=
  digits.foldl (fun sum digit => sum * base + value digit) 0

theorem readDigits_toDigits (large : 1 < base) {value : Char → Nat}
    (reads : ∀ place < base, value (Nat.digitChar place) = place) (number : Nat) :
    readDigits base value (Nat.toDigits base number) = number := by
  induction number using Nat.strongRecOn with
  | ind number ih =>
      rw [Nat.toDigits_eq_if large]
      split
      · rename_i small
        simp [readDigits, reads number small]
      · rename_i more
        have front := ih (number / base) (Nat.div_lt_self (by omega) large)
        have last := reads (number % base) (Nat.mod_lt _ (by omega))
        rw [readDigits] at front
        rw [readDigits, List.foldl_append, front, List.foldl_cons, List.foldl_nil, last, Nat.mul_comm]
        exact Nat.div_add_mod number base

/-- Zeros in front, up to a width. -/
def paddedDigits (base width number : Nat) : List Char :=
  List.replicate (width - (Nat.toDigits base number).length) '0' ++ Nat.toDigits base number

theorem length_paddedDigits (large : 1 < base) (wide : 0 < width) (fits : number < base ^ width) :
    (paddedDigits base width number).length = width := by
  have short := (Nat.length_toDigits_le_iff large wide).mpr fits
  rw [paddedDigits, List.length_append, List.length_replicate]
  omega

theorem paddedDigits_below (large : 1 < base) (width number : Nat) :
    ∀ digit ∈ paddedDigits base width number, ∃ place < base, digit = Nat.digitChar place := by
  intro digit member
  cases List.mem_append.mp member with
  | inl zero => exact ⟨0, by omega, List.eq_of_mem_replicate zero⟩
  | inr other => exact toDigits_below large number digit other

theorem readDigits_padded (large : 1 < base) {value : Char → Nat}
    (reads : ∀ place < base, value (Nat.digitChar place) = place) (width number : Nat) :
    readDigits base value (paddedDigits base width number) = number := by
  have zero : value '0' = 0 := reads 0 (by omega)
  have zeros : ∀ count, (List.replicate count '0').foldl (fun sum digit => sum * base + value digit) 0 = 0 := by
    intro count
    induction count with
    | zero => rfl
    | succ count ih => simpa [List.replicate_succ, zero] using ih
  rw [paddedDigits, readDigits, List.foldl_append, zeros]
  exact readDigits_toDigits large reads number

end Cyberjack.Foundation
