import Mathlib.Data.List.Basic

namespace Cyberjack.Foundation

/-! # Checksums -/

/-- The sum of all bytes. -/
def byteSum (bytes : List UInt8) : UInt8 := bytes.foldl (· + ·) 0

/-- The exclusive or of all bytes. -/
def xorSum (bytes : List UInt8) : UInt8 := bytes.foldl (· ^^^ ·) 0

theorem foldl_xor (bytes : List UInt8) (start : UInt8) :
    bytes.foldl (· ^^^ ·) start = start ^^^ xorSum bytes := by
  unfold xorSum
  induction bytes generalizing start with
  | nil => simp
  | cons byte rest ih =>
      simp only [List.foldl_cons]
      rw [ih (start ^^^ byte), ih (0 ^^^ byte), UInt8.zero_xor, UInt8.xor_assoc]

@[simp] theorem xorSum_nil : xorSum [] = 0 := rfl

@[simp] theorem xorSum_cons (byte : UInt8) (bytes : List UInt8) :
    xorSum (byte :: bytes) = byte ^^^ xorSum bytes := by
  rw [xorSum, List.foldl_cons, foldl_xor, UInt8.zero_xor]

@[simp] theorem xorSum_append (front back : List UInt8) :
    xorSum (front ++ back) = xorSum front ^^^ xorSum back := by
  induction front with
  | nil => simp
  | cons byte rest ih => simp [ih, UInt8.xor_assoc]

theorem xor_left_cancel {a b c : UInt8} (same : a ^^^ b = a ^^^ c) : b = c := by
  have cancelled := congrArg (a ^^^ ·) same
  simpa [← UInt8.xor_assoc] using cancelled

theorem xor_right_cancel {a b c : UInt8} (same : a ^^^ c = b ^^^ c) : a = b := by
  apply xor_left_cancel
  rw [UInt8.xor_comm c a, UInt8.xor_comm c b]
  exact same

/-- One byte of a list cannot change alone without changing the sum. -/
theorem xorSum_set {bytes : List UInt8} {index : Nat} {value : UInt8}
    (inside : index < bytes.length) (same : xorSum (bytes.set index value) = xorSum bytes) :
    value = bytes.getD index 0 := by
  induction bytes generalizing index with
  | nil => simp at inside
  | cons byte rest ih =>
      cases index with
      | zero =>
          simp only [List.set_cons_zero, xorSum_cons] at same
          exact xor_right_cancel same
      | succ index =>
          simp only [List.set_cons_succ, xorSum_cons] at same
          simp only [List.length_cons] at inside
          exact ih (by omega) (xor_left_cancel same)

end Cyberjack.Foundation
