import Mathlib.Data.List.Basic

namespace Cyberjack.Foundation

/-! # Arrays of a fixed size

A C array is a list of cells whose length never changes.  Offsets and lengths
are signed, as in the code that computes them; a copy that does not stay inside
the array has no result.
-/

universe u

structure Buffer (α : Type u) (size : Nat) where
  cells : List α
  length_cells : cells.length = size
deriving DecidableEq

namespace Buffer

variable {α : Type u} {size offset count : Nat} {buffer after : Buffer α size} {data : List α}

instance [Inhabited α] : Inhabited (Buffer α size) :=
  ⟨⟨List.replicate size default, List.length_replicate⟩⟩

/-- An array all of whose cells hold the same value. -/
def filled (size : Nat) (value : α) : Buffer α size :=
  ⟨List.replicate size value, List.length_replicate⟩

def get [Inhabited α] (buffer : Buffer α size) (index : Nat) : α := buffer.cells.getD index default

/-- Overwrite the cells from `offset` on. -/
def store (buffer : Buffer α size) (offset : Nat) (data : List α)
    (room : offset + data.length ≤ size) : Buffer α size where
  cells := buffer.cells.take offset ++ data ++ buffer.cells.drop (offset + data.length)
  length_cells := by
    have size_eq := buffer.length_cells
    simp only [List.length_append, List.length_take, List.length_drop]
    omega

/-- `memcpy (buffer + offset, data, length)`: no result when a cell outside the array is written. -/
def store? (buffer : Buffer α size) (offset : Int) (data : List α) : Option (Buffer α size) :=
  if room : 0 ≤ offset ∧ offset.toNat + data.length ≤ size then
    some (buffer.store offset.toNat data room.2)
  else
    none

theorem store?_of_room (buffer : Buffer α size) (room : offset + data.length ≤ size) :
    buffer.store? offset data = some (buffer.store offset data room) := by
  have inside : 0 ≤ (offset : Int) ∧ (offset : Int).toNat + data.length ≤ size := by
    simpa using room
  rw [store?, dif_pos inside]
  rfl

theorem store?_eq_none {start : Int} :
    buffer.store? start data = none ↔ ¬ (0 ≤ start ∧ start.toNat + data.length ≤ size) := by
  unfold store?
  split <;> simp_all

/-- `memcpy` from the array: no result when a cell outside it is read. -/
def load? (buffer : Buffer α size) (offset : Int) (count : Nat) : Option (List α) :=
  if 0 ≤ offset ∧ offset.toNat + count ≤ size then some ((buffer.cells.drop offset.toNat).take count) else none

theorem load?_of_room (buffer : Buffer α size) (room : offset + count ≤ size) :
    buffer.load? offset count = some ((buffer.cells.drop offset).take count) := by
  have inside : 0 ≤ (offset : Int) ∧ (offset : Int).toNat + count ≤ size := by
    simpa using room
  rw [load?, if_pos inside]
  rfl

/-- The cells up to the end of a copy are those before it and the data. -/
theorem take_store (buffer : Buffer α size) (room : offset + data.length ≤ size) :
    (buffer.store offset data room).cells.take (offset + data.length) =
      buffer.cells.take offset ++ data := by
  have prefixLength : (buffer.cells.take offset ++ data).length = offset + data.length := by
    have size_eq := buffer.length_cells
    simp only [List.length_append, List.length_take]
    omega
  simp only [store]
  rw [← prefixLength, List.take_left']
  rfl

theorem take_store_of_le (room : offset + data.length ≤ size) (before : count ≤ offset) :
    (buffer.store offset data room).cells.take count = buffer.cells.take count := by
  have size_eq := buffer.length_cells
  have reach : (buffer.cells.take offset).length = offset := by
    simp only [List.length_take]
    omega
  simp only [store, List.append_assoc]
  rw [List.take_append_of_le_length (by omega), List.take_take, Nat.min_eq_left before]

theorem take_store_of_ge (buffer : Buffer α size) (room : offset + data.length ≤ size)
    (behind : offset + data.length ≤ count) :
    (buffer.store offset data room).cells.take count =
      buffer.cells.take offset ++ data ++ (buffer.cells.take count).drop (offset + data.length) := by
  have reach : (buffer.cells.take offset ++ data).length = offset + data.length := by
    have size_eq := buffer.length_cells
    simp only [List.length_append, List.length_take]
    omega
  rw [store, List.take_append, List.take_of_length_le (by omega), reach, List.drop_take]

theorem getD_of_take {known : List α} (default : α) (begins : buffer.cells.take count = known)
    (inside : offset < known.length) : buffer.cells.getD offset default = known.getD offset default := by
  subst begins
  rw [List.length_take] at inside
  have short : offset < count := by omega
  simp only [List.getD_eq_getElem?_getD, List.getElem?_take, if_pos short]

/-- Two arrays that begin alike have the same cells there. -/
theorem get_of_take [Inhabited α] {first second : Buffer α size}
    (same : first.cells.take count = second.cells.take count) (inside : offset < count) :
    first.get offset = second.get offset := by
  have cell : ∀ buffer : Buffer α size,
      buffer.get offset = ((buffer.cells.take count)[offset]?).getD default := by
    intro buffer
    simp only [get, List.getD_eq_getElem?_getD, List.getElem?_take, if_pos inside]
  rw [cell, cell, same]

theorem take_store_zero (buffer : Buffer α size) (room : 0 + data.length ≤ size) :
    (buffer.store 0 data room).cells.take data.length = data := by
  have stored := take_store buffer room
  rwa [Nat.zero_add, List.take_zero, List.nil_append] at stored

theorem get_store [Inhabited α] (buffer : Buffer α size) (room : offset + data.length ≤ size)
    (index : Nat) :
    (buffer.store offset data room).get index =
      if index < offset then buffer.get index
      else if index < offset + data.length then data.getD (index - offset) default
      else buffer.get index := by
  have size_eq := buffer.length_cells
  have reach : (buffer.cells.take offset).length = offset := by
    rw [List.length_take]
    omega
  simp only [get, store, List.append_assoc, List.getD_eq_getElem?_getD]
  by_cases front : index < offset
  · rw [if_pos front, List.getElem?_append_left (by omega), List.getElem?_take, if_pos front]
  · rw [if_neg front, List.getElem?_append_right (by omega), reach]
    by_cases middle : index < offset + data.length
    · rw [if_pos middle, List.getElem?_append_left (by omega)]
    · rw [if_neg middle, List.getElem?_append_right (by omega), List.getElem?_drop]
      congr 2
      omega

/-- A copy to the beginning leaves what is behind it. -/
theorem store?_zero [Inhabited α] (buffer : Buffer α size) (room : data.length ≤ size) :
    ∃ after, buffer.store? 0 data = some after ∧ after.cells.take data.length = data ∧
      ∀ index, data.length ≤ index → after.get index = buffer.get index := by
  have fits : 0 + data.length ≤ size := by omega
  refine ⟨buffer.store 0 data fits, store?_of_room buffer fits, take_store_zero buffer fits, ?_⟩
  intro index behind
  rw [get_store, if_neg (by omega), if_neg (by omega)]

@[simp] theorem store_nil (room : offset + ([] : List α).length ≤ size) :
    buffer.store offset [] room = buffer := by
  cases buffer
  simp [store]

end Buffer

end Cyberjack.Foundation
