import Mathlib.Data.List.Basic

namespace Cyberjack.Foundation

/-! # Reading a byte string

A parser goes through memory with a pointer.  It ends with a value or with an
error of its own, or it has read a byte that does not belong to its input.
-/

inductive Stop (ε : Type) where
  | outside
  | refused (error : ε)
deriving Repr, DecidableEq

abbrev Reads (ε α : Type) := Except (Stop ε) α

variable {ε α β : Type} {data chunk first second : List UInt8} {offset count value : Nat}
  {octet : UInt8} {stop : Stop ε}

namespace Reads

def byte (data : List UInt8) (offset : Nat) : Reads ε UInt8 :=
  match data[offset]? with
  | some octet => .ok octet
  | none => .error .outside

/-- Two bytes as a number, the low one first. -/
def short (data : List UInt8) (offset : Nat) : Reads ε Nat := do
  let low ← byte data offset
  let high ← byte data (offset + 1)
  return low.toNat + 256 * high.toNat

/-- A copy or a comparison of no bytes reads nothing. -/
def bytes (data : List UInt8) (offset count : Nat) : Reads ε (List UInt8) :=
  if count = 0 ∨ offset + count ≤ data.length then .ok ((data.drop offset).take count)
  else .error .outside

def refuseIf (error : ε) (condition : Prop) [Decidable condition] : Reads ε Unit :=
  if condition then .error (.refused error) else .ok ()

/-- The comparison with a text that has to stand there. -/
def expect (error : ε) (data : List UInt8) (offset : Nat) (text : List UInt8) : Reads ε Unit := do
  let found ← bytes data offset text.length
  refuseIf error (found ≠ text)

end Reads

def shortBytes (value : Nat) : List UInt8 := [UInt8.ofNat value, UInt8.ofNat (value / 256)]

@[simp] theorem length_shortBytes : (shortBytes value).length = 2 := rfl

/-- The chunk is what the data hold from the offset on. -/
def Stands (data : List UInt8) (offset : Nat) (chunk : List UInt8) : Prop := chunk <+: data.drop offset

instance : Decidable (Stands data offset chunk) :=
  inferInstanceAs (Decidable (chunk <+: data.drop offset))

@[simp] theorem stands_nil : Stands data offset [] := List.nil_prefix

theorem stands_append :
    Stands data offset (first ++ second) ↔
      Stands data offset first ∧ Stands data (offset + first.length) second := by
  constructor
  · rintro ⟨rest, split⟩
    refine ⟨⟨second ++ rest, by rw [← split, List.append_assoc]⟩, rest, ?_⟩
    rw [← List.drop_drop, ← split, List.append_assoc, List.drop_left]
  · rintro ⟨⟨rest, split⟩, behind⟩
    rw [Stands, ← List.drop_drop, ← split, List.drop_left] at behind
    obtain ⟨tail, rfl⟩ := behind
    exact ⟨tail, by rw [← split, List.append_assoc]⟩

theorem stands_singleton : Stands data offset [octet] ↔ data[offset]? = some octet := by
  rw [Stands, ← List.head?_drop]
  cases data.drop offset with
  | nil => simp
  | cons head tail => simp [eq_comm]

theorem stands_pair {low high : UInt8} :
    Stands data offset [low, high] ↔ Stands data offset [low] ∧ Stands data (offset + 1) [high] := by
  rw [← List.singleton_append, stands_append, List.length_singleton]

theorem Stands.inside (stands : Stands data offset chunk) (nonempty : chunk ≠ []) :
    offset + chunk.length ≤ data.length := by
  have bounded := stands.length_le
  have positive := List.length_pos_iff.mpr nonempty
  rw [List.length_drop] at bounded
  omega

theorem exists_stands (inside : offset < data.length) : ∃ octet, Stands data offset [octet] :=
  ⟨data[offset], stands_singleton.mpr (List.getElem?_eq_getElem inside)⟩

theorem exists_stands_slice (inside : offset + count ≤ data.length) :
    ∃ chunk : List UInt8, chunk.length = count ∧ Stands data offset chunk := by
  refine ⟨(data.drop offset).take count, ?_, List.take_prefix _ _⟩
  rw [List.length_take, List.length_drop]
  omega

namespace Reads

theorem bind_eq_ok {action : Reads ε α} {next : α → Reads ε β} {result : β} :
    action >>= next = .ok result ↔ ∃ value, action = .ok value ∧ next value = .ok result := by
  cases action with
  | error stop => simp [bind, Except.bind]
  | ok value => simp [bind, Except.bind]

theorem bind_eq_error {action : Reads ε α} {next : α → Reads ε β} :
    action >>= next = .error stop ↔
      action = .error stop ∨ ∃ value, action = .ok value ∧ next value = .error stop := by
  cases action with
  | error other => simp [bind, Except.bind]
  | ok value => simp [bind, Except.bind]

theorem ok_bind {value : α} {next : α → Reads ε β} : (.ok value : Reads ε α) >>= next = next value := rfl

theorem pure_eq_ok {value result : α} :
    (pure value : Reads ε α) = .ok result ↔ value = result := by
  simp [pure, Except.pure]

theorem pure_ne_error {value : α} : (pure value : Reads ε α) ≠ .error stop := by
  simp [pure, Except.pure]

theorem refuseIf_eq_ok {error : ε} {condition : Prop} [Decidable condition] {result : Unit} :
    refuseIf error condition = .ok result ↔ ¬ condition := by
  rw [refuseIf]
  split <;> simp_all

theorem refuseIf_eq_error {error : ε} {condition : Prop} [Decidable condition] :
    refuseIf error condition = .error stop ↔ condition ∧ stop = .refused error := by
  rw [refuseIf]
  split <;> simp_all [eq_comm]

theorem byte_eq_ok : (byte data offset : Reads ε UInt8) = .ok octet ↔ Stands data offset [octet] := by
  rw [byte, stands_singleton]
  cases data[offset]? with
  | none => simp
  | some found => simp

theorem byte_eq_error :
    (byte data offset : Reads ε UInt8) = .error stop ↔ data.length ≤ offset ∧ stop = .outside := by
  rw [byte, ← List.getElem?_eq_none_iff]
  cases data[offset]? with
  | none => simp [eq_comm]
  | some found => simp

theorem shortBytes_eq (low high : UInt8) :
    shortBytes (low.toNat + 256 * high.toNat) = [low, high] := by
  have lowByte := low.toNat_lt
  have highByte := high.toNat_lt
  rw [shortBytes, List.cons.injEq, List.cons.injEq, ← UInt8.toNat_inj, ← UInt8.toNat_inj,
    UInt8.toNat_ofNat', UInt8.toNat_ofNat']
  refine ⟨by omega, by omega, rfl⟩

theorem short_eq_ok :
    (short data offset : Reads ε Nat) = .ok value ↔
      value < 65536 ∧ Stands data offset (shortBytes value) := by
  simp only [short, bind_eq_ok, pure_eq_ok, byte_eq_ok]
  constructor
  · rintro ⟨low, first, high, second, rfl⟩
    have lowByte := low.toNat_lt
    have highByte := high.toNat_lt
    refine ⟨by omega, ?_⟩
    rw [shortBytes_eq, ← List.singleton_append, stands_append]
    exact ⟨first, second⟩
  · rintro ⟨bounded, stands⟩
    rw [shortBytes, ← List.singleton_append, stands_append] at stands
    refine ⟨_, stands.1, _, stands.2, ?_⟩
    rw [UInt8.toNat_ofNat', UInt8.toNat_ofNat']
    omega

theorem short_eq_error :
    (short data offset : Reads ε Nat) = .error stop ↔ data.length < offset + 2 ∧ stop = .outside := by
  simp only [short, bind_eq_error, byte_eq_error, pure_ne_error, and_false, exists_false,
    or_false]
  constructor
  · rintro (⟨short, rfl⟩ | ⟨low, _, short, rfl⟩)
    · exact ⟨by omega, rfl⟩
    · exact ⟨by omega, rfl⟩
  · rintro ⟨short, rfl⟩
    by_cases first : data.length ≤ offset
    · exact .inl ⟨first, rfl⟩
    · have inside : offset < data.length := by omega
      refine .inr ⟨data[offset], ?_, by omega, rfl⟩
      rw [byte_eq_ok, stands_singleton, List.getElem?_eq_getElem inside]

theorem bytes_eq_ok :
    (bytes data offset count : Reads ε (List UInt8)) = .ok chunk ↔
      chunk.length = count ∧ Stands data offset chunk := by
  rw [bytes]
  split
  · rename_i inside
    rw [Except.ok.injEq]
    constructor
    · rintro rfl
      refine ⟨?_, List.take_prefix _ _⟩
      rw [List.length_take, List.length_drop]
      omega
    · rintro ⟨rfl, stands⟩
      exact (List.prefix_iff_eq_take.mp stands).symm
  · rename_i outside
    rw [not_or] at outside
    refine iff_of_false (by simp) ?_
    rintro ⟨rfl, stands⟩
    exact outside.2 (stands.inside (List.length_pos_iff.mp (Nat.pos_of_ne_zero outside.1)))

theorem bytes_eq_error :
    (bytes data offset count : Reads ε (List UInt8)) = .error stop ↔
      (count ≠ 0 ∧ data.length < offset + count) ∧ stop = .outside := by
  rw [bytes]
  split
  · rename_i inside
    refine iff_of_false (by simp) ?_
    omega
  · rename_i outside
    rw [Except.error.injEq, eq_comm]
    exact ⟨fun same => ⟨by omega, same⟩, fun same => same.2⟩

theorem expect_eq_ok {error : ε} {text : List UInt8} {result : Unit} :
    expect error data offset text = .ok result ↔ Stands data offset text := by
  simp only [expect, bind_eq_ok, bytes_eq_ok, refuseIf_eq_ok, not_not]
  constructor
  · rintro ⟨found, ⟨_, stands⟩, rfl⟩
    exact stands
  · intro stands
    exact ⟨text, ⟨rfl, stands⟩, rfl⟩

/-- The parser stays inside its input. -/
def Inside (action : Reads ε α) : Prop := action ≠ .error .outside

theorem inside_ok {value : α} : Inside (.ok value : Reads ε α) := by
  simp [Inside]

theorem inside_pure {value : α} : Inside (pure value : Reads ε α) := inside_ok

theorem inside_bind {action : Reads ε α} {next : α → Reads ε β} (first : Inside action)
    (rest : ∀ value, action = .ok value → Inside (next value)) : Inside (action >>= next) := by
  intro outside
  rcases bind_eq_error.mp outside with outside | ⟨value, found, outside⟩
  · exact first outside
  · exact rest value found outside

theorem inside_byte (inside : offset < data.length) : Inside (byte data offset : Reads ε UInt8) := by
  intro outside
  have beyond := (byte_eq_error.mp outside).1
  omega

theorem inside_short (inside : offset + 2 ≤ data.length) : Inside (short data offset : Reads ε Nat) := by
  intro outside
  have beyond := (short_eq_error.mp outside).1
  omega

theorem inside_bytes (inside : offset + count ≤ data.length) :
    Inside (bytes data offset count : Reads ε (List UInt8)) := by
  intro outside
  have beyond := (bytes_eq_error.mp outside).1.2
  omega

theorem inside_refuseIf {error : ε} {condition : Prop} [Decidable condition] :
    Inside (refuseIf error condition) := by
  intro outside
  exact absurd (refuseIf_eq_error.mp outside).2 (by simp)

theorem inside_expect {error : ε} {text : List UInt8} (inside : offset + text.length ≤ data.length) :
    Inside (expect error data offset text) := by
  exact inside_bind (inside_bytes inside) fun _ _ => inside_refuseIf

end Reads

end Cyberjack.Foundation
