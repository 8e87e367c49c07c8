import Cyberjack.Foundation.History
import Mathlib.Data.List.Nodup

namespace Cyberjack.Foundation

/-! # Objects of a heap

Objects are made, read, written and deleted through pointers.  An access through
NULL, or to an object that is no longer there, is a fault.  What a program does
with the objects it owns is said by a triple; every other object is left alone.
-/

universe u w

variable {V A B : Type}

/-- No number is NULL. -/
abbrev Pointer := Option Nat

structure Heap (V : Type) where
  get : Nat → Option V
  next : Nat

/-- What keeps a program from going on. -/
inductive Fault where
  | null
  | dangling
  | endless
deriving Repr, DecidableEq

abbrev HeapM (V : Type) := StateT (Heap V) (Except Fault)

namespace Heap

def empty : Heap V := ⟨fun _ => none, 0⟩

def set (heap : Heap V) (place : Nat) (value : Option V) : Heap V :=
  ⟨fun other => if other = place then value else heap.get other, heap.next⟩

/-- The heap has these objects and no others. -/
structure Holds (heap : Heap V) (cells : List (Nat × V)) : Prop where
  distinct : (cells.map Prod.fst).Nodup
  get_iff : ∀ place value, heap.get place = some value ↔ (place, value) ∈ cells
  bounded : ∀ cell ∈ cells, cell.1 < heap.next

variable {heap : Heap V} {cells others : List (Nat × V)} {place : Nat} {value next : V}

theorem empty_holds : (empty : Heap V).Holds [] where
  distinct := by simp
  get_iff := by simp [empty]
  bounded := by simp

theorem Holds.perm (holds : heap.Holds cells) (same : cells.Perm others) : heap.Holds others where
  distinct := (same.map Prod.fst).nodup_iff.mp holds.distinct
  get_iff place value := by rw [holds.get_iff, same.mem_iff]
  bounded cell member := holds.bounded cell (same.mem_iff.mpr member)

/-- No other object has the place of the first one. -/
theorem Holds.apart (holds : heap.Holds ((place, value) :: cells)) : ∀ other, (place, other) ∉ cells := by
  intro other member
  have distinct := holds.distinct
  simp only [List.map_cons, List.nodup_cons] at distinct
  exact distinct.1 (List.mem_map.mpr ⟨(place, other), member, rfl⟩)

theorem Holds.replaced (holds : heap.Holds ((place, value) :: cells)) :
    (heap.set place (some next)).Holds ((place, next) :: cells) where
  distinct := by simpa using holds.distinct
  get_iff other content := by
    have apart := holds.apart
    have before := holds.get_iff other content
    by_cases same : other = place
    · subst other
      simp [set, apart content, eq_comm]
    · simpa [set, same] using before
  bounded cell member := by
    have before := holds.bounded
    simp only [List.mem_cons, forall_eq_or_imp] at before member
    cases member with
    | inl here => exact here ▸ before.1
    | inr there => exact before.2 cell there

theorem Holds.removed (holds : heap.Holds ((place, value) :: cells)) :
    (heap.set place none).Holds cells where
  distinct := by
    have distinct := holds.distinct
    simp only [List.map_cons, List.nodup_cons] at distinct
    exact distinct.2
  get_iff other content := by
    have apart := holds.apart
    have before := holds.get_iff other content
    by_cases same : other = place
    · subst other
      simp [set, apart content]
    · simpa [set, same] using before
  bounded cell member := holds.bounded cell (.tail _ member)

theorem Holds.added (holds : heap.Holds cells) :
    Holds ⟨(heap.set heap.next (some value)).get, heap.next + 1⟩ ((heap.next, value) :: cells) where
  distinct := by
    simp only [List.map_cons, List.nodup_cons, List.mem_map, not_exists, not_and]
    refine ⟨?_, holds.distinct⟩
    intro cell member same
    exact absurd (holds.bounded cell member) (by omega)
  get_iff other content := by
    have before := holds.get_iff other content
    by_cases same : other = heap.next
    · subst other
      have absent : (heap.next, content) ∉ cells := by
        intro member
        exact absurd (holds.bounded _ member) (by simp)
      simp [set, absent, eq_comm]
    · simpa [set, same] using before
  bounded cell member := by
    cases member with
    | head => simp
    | tail _ there => exact Nat.lt_succ_of_lt (holds.bounded cell there)

end Heap

namespace HeapM

def new (value : V) : HeapM V Pointer := fun heap =>
  .ok (some heap.next, ⟨(heap.set heap.next (some value)).get, heap.next + 1⟩)

def load : Pointer → HeapM V V
  | none, _ => .error .null
  | some place, heap =>
      match heap.get place with
      | none => .error .dangling
      | some value => .ok (value, heap)

def store : Pointer → V → HeapM V Unit
  | none, _, _ => .error .null
  | some place, value, heap =>
      match heap.get place with
      | none => .error .dangling
      | some _ => .ok ((), heap.set place (some value))

/-- Nothing is done for NULL. -/
def delete : Pointer → HeapM V Unit
  | none, heap => .ok ((), heap)
  | some place, heap =>
      match heap.get place with
      | none => .error .dangling
      | some _ => .ok ((), heap.set place none)

end HeapM

/-! ## Triples -/

/-- With these objects, and whatever others there are, the program comes to its end; the others stay. -/
def Triple (before : List (Nat × V)) (program : HeapM V A) (after : A → List (Nat × V) → Prop) : Prop :=
  ∀ frame heap, Heap.Holds heap (before ++ frame) → ∃ result later cells,
    program heap = .ok (result, later) ∧ later.Holds (cells ++ frame) ∧ after result cells

namespace Triple

variable {before cells others : List (Nat × V)} {program : HeapM V A} {after : A → List (Nat × V) → Prop}
  {place : Nat} {value next : V}

theorem pure {result : A} (holds : after result before) : Triple before (Pure.pure result) after := by
  intro frame heap start
  exact ⟨result, heap, before, rfl, start, holds⟩

theorem bind {rest : A → HeapM V B} {final : B → List (Nat × V) → Prop}
    (first : Triple before program after)
    (second : ∀ result cells, after result cells → Triple cells (rest result) final) :
    Triple before (program >>= rest) final := by
  intro frame heap start
  obtain ⟨result, middle, cells, ran, holds, reached⟩ := first frame heap start
  obtain ⟨last, later, left, ends, kept, finished⟩ := second result cells reached frame middle holds
  refine ⟨last, later, left, ?_, kept, finished⟩
  simp only [Bind.bind, StateT.bind, ran, Except.bind]
  exact ends

theorem weaken {weaker : A → List (Nat × V) → Prop} (runs : Triple before program after)
    (weakens : ∀ result cells, after result cells → weaker result cells) : Triple before program weaker := by
  intro frame heap start
  obtain ⟨result, later, cells, ran, holds, reached⟩ := runs frame heap start
  exact ⟨result, later, cells, ran, holds, weakens result cells reached⟩

/-- What a program does with its objects, it does among others. -/
theorem frame (runs : Triple before program after) :
    Triple (before ++ others) program fun result cells => ∃ own, cells = own ++ others ∧ after result own := by
  intro outer heap start
  obtain ⟨result, later, own, ran, holds, reached⟩ :=
    runs (others ++ outer) heap (by simpa using start)
  exact ⟨result, later, own ++ others, ran, by simpa using holds, own, rfl, reached⟩

/-- The order of the objects does not matter. -/
theorem pure_perm {result : A} (same : before.Perm cells) (holds : after result cells) :
    Triple before (Pure.pure result) after := by
  intro frame heap start
  exact ⟨result, heap, cells, rfl, start.perm (same.append_right frame), holds⟩

theorem new : Triple cells (HeapM.new value) fun result left =>
    ∃ place, result = some place ∧ left = (place, value) :: cells := by
  intro frame heap start
  exact ⟨some heap.next, _, (heap.next, value) :: cells, rfl, start.added, heap.next, rfl, rfl⟩

end Triple

/-- The program returns one result and leaves these objects. -/
def Returns (before : List (Nat × V)) (program : HeapM V A) (result : A) (after : List (Nat × V)) : Prop :=
  Triple before program fun made left => made = result ∧ left = after

namespace Returns

variable {before middle after others : List (Nat × V)} {program : HeapM V A} {result : A} {place : Nat}
  {value next : V}

theorem followed {rest : A → HeapM V B} {final : B → List (Nat × V) → Prop}
    (first : Returns before program result middle) (second : Triple middle (rest result) final) :
    Triple before (program >>= rest) final := by
  apply Triple.bind first
  rintro made cells ⟨rfl, rfl⟩
  exact second

theorem bind {rest : A → HeapM V B} {last : B} (first : Returns before program result middle)
    (second : Returns middle (rest result) last after) : Returns before (program >>= rest) last after :=
  followed first second

theorem pure : Returns before (Pure.pure result) result before := Triple.pure ⟨rfl, rfl⟩

theorem frame (runs : Returns before program result after) :
    Returns (before ++ others) program result (after ++ others) := by
  apply Triple.weaken (Triple.frame runs)
  rintro made cells ⟨own, rfl, rfl, rfl⟩
  exact ⟨rfl, rfl⟩

/-- The order of the objects does not matter. -/
theorem perm {first last : List (Nat × V)} (runs : Returns before program result after)
    (same : first.Perm before) (equal : after.Perm last) : Returns first program result last := by
  intro frame heap start
  obtain ⟨made, later, left, ran, holds, rfl, rfl⟩ := runs frame heap (start.perm (same.append_right frame))
  exact ⟨made, later, last, ran, holds.perm (equal.append_right frame), rfl, rfl⟩

theorem ordered (same : before.Perm after) : Returns before (Pure.pure result) result after :=
  perm pure same (.refl _)

theorem load (member : (place, value) ∈ before) :
    Returns before (HeapM.load (some place)) value before := by
  intro frame heap start
  have found : heap.get place = some value := by simp [start.get_iff, member]
  exact ⟨value, heap, before, by simp [HeapM.load, found], start, rfl, rfl⟩

theorem store : Returns ((place, value) :: others) (HeapM.store (some place) next) ()
    ((place, next) :: others) := by
  intro frame heap start
  have found : heap.get place = some value := by simp [start.get_iff]
  exact ⟨(), _, (place, next) :: others, by simp [HeapM.store, found], Heap.Holds.replaced start, rfl, rfl⟩

theorem stored (same : before.Perm ((place, value) :: others)) :
    Returns before (HeapM.store (some place) next) () ((place, next) :: others) :=
  perm store same (.refl _)

theorem delete : Returns ((place, value) :: others) (HeapM.delete (some place)) () others := by
  intro frame heap start
  have found : heap.get place = some value := by simp [start.get_iff]
  exact ⟨(), _, others, by simp [HeapM.delete, found], Heap.Holds.removed start, rfl, rfl⟩

theorem delete_null : Returns before (HeapM.delete none) () before := by
  intro frame heap start
  exact ⟨(), heap, before, rfl, start, rfl, rfl⟩

end Returns

/-! ## Components with a heap -/

variable {σ ω : Type} {ι : Type u}

/-- A component that answers every request with a program. -/
def heapMachine (step : σ → ι → HeapM V (ω × σ)) : Machine (σ × Heap V) ι (Except Fault ω)
  | (state, heap), input =>
      match step state input heap with
      | .ok ((answer, next), later) => (.ok answer, next, later)
      | .error fault => (.error fault, state, heap)

/-- A step that runs with what the component owns has no fault, and keeps what nobody owns. -/
theorem heapMachine_step {step : σ → ι → HeapM V (ω × σ)} {state : σ} {input : ι} {heap : Heap V}
    {cells lost : List (Nat × V)} {after : ω × σ → List (Nat × V) → Prop}
    (runs : Triple cells (step state input) after) (holds : heap.Holds (cells ++ lost)) :
    ∃ answer next later left, heapMachine step (state, heap) input = (.ok answer, next, later) ∧
      later.Holds (left ++ lost) ∧ after (answer, next) left := by
  obtain ⟨result, later, left, ran, kept, reached⟩ := runs lost heap holds
  exact ⟨result.1, result.2, later, left, by simp [heapMachine, ran], kept, reached⟩

end Cyberjack.Foundation
