import Mathlib.Data.List.Basic

namespace Cyberjack.Foundation

/-! # Maps as entries in the order of their keys

An entry is only added where its key is new.
-/

universe u v

/-- The entries, each key above those in front of it. -/
@[ext] structure OrderedMap (κ : Type u) (υ : Type v) [LT κ] where
  entries : List (κ × υ)
  sorted : entries.Pairwise fun first second => first.1 < second.1

namespace OrderedMap

section Entries

variable {κ : Type u} {υ : Type v} [LT κ]

instance [DecidableEq κ] [DecidableEq υ] : DecidableEq (OrderedMap κ υ) := fun first second =>
  decidable_of_iff (first.entries = second.entries) OrderedMap.ext_iff.symm

def empty : OrderedMap κ υ := ⟨[], List.Pairwise.nil⟩

variable [DecidableLT κ] [DecidableEq κ]

def insertEntry (key : κ) (value : υ) : List (κ × υ) → List (κ × υ)
  | [] => [(key, value)]
  | entry :: rest =>
      if key < entry.1 then (key, value) :: entry :: rest
      else if key = entry.1 then entry :: rest
      else entry :: insertEntry key value rest

theorem mem_insertEntry {key : κ} {value : υ} {entry : κ × υ} {entries : List (κ × υ)}
    (member : entry ∈ insertEntry key value entries) : entry = (key, value) ∨ entry ∈ entries := by
  induction entries with
  | nil => exact .inl (List.mem_singleton.mp member)
  | cons first rest ih =>
      unfold insertEntry at member
      split at member
      · exact List.mem_cons.mp member
      · split at member
        · exact .inr member
        · cases member with
          | head => exact .inr List.mem_cons_self
          | tail _ later =>
              cases ih later with
              | inl new => exact .inl new
              | inr old => exact .inr (List.mem_cons_of_mem _ old)

/-- A key above all others is added at the end. -/
theorem insertEntry_last (irreflexive : ∀ key : κ, ¬ key < key) {key : κ} (value : υ) {entries : List (κ × υ)}
    (above : ∀ entry ∈ entries, entry.1 < key ∧ ¬ key < entry.1) :
    insertEntry key value entries = entries ++ [(key, value)] := by
  induction entries with
  | nil => rfl
  | cons first rest ih =>
      obtain ⟨below, notAbove⟩ := above first List.mem_cons_self
      have other : key ≠ first.1 := by
        intro same
        rw [same] at below
        exact irreflexive _ below
      rw [insertEntry, if_neg notAbove, if_neg other, ih fun entry member => above entry (List.mem_cons_of_mem _ member),
        List.cons_append]

variable [Trans (fun first second : κ => first < second) (fun first second => first < second) (fun first second => first < second)]
  [Std.Trichotomous (fun first second : κ => first < second)]

theorem insertEntry_sorted (key : κ) (value : υ) {entries : List (κ × υ)}
    (sorted : entries.Pairwise fun first second => first.1 < second.1) :
    (insertEntry key value entries).Pairwise fun first second => first.1 < second.1 := by
  induction entries with
  | nil => exact List.pairwise_singleton _ _
  | cons first rest ih =>
      obtain ⟨least, sortedRest⟩ := List.pairwise_cons.mp sorted
      unfold insertEntry
      split
      · case isTrue below =>
          refine List.pairwise_cons.mpr ⟨?_, sorted⟩
          intro entry member
          cases member with
          | head => exact below
          | tail _ later => exact Trans.trans below (least entry later)
      · case isFalse notBelow =>
          split
          · exact sorted
          · case isFalse other =>
              have above : first.1 < key := by
                by_contra notAbove
                exact other (Std.Trichotomous.trichotomous key first.1 notBelow notAbove)
              refine List.pairwise_cons.mpr ⟨?_, ih sortedRest⟩
              intro entry member
              cases mem_insertEntry member with
              | inl new =>
                  rw [new]
                  exact above
              | inr old => exact least entry old

/-- Leaves the map alone where the key has an entry. -/
def insert (map : OrderedMap κ υ) (key : κ) (value : υ) : OrderedMap κ υ :=
  ⟨insertEntry key value map.entries, insertEntry_sorted key value map.sorted⟩

/-- Entries inserted in their order are the map. -/
theorem foldl_insert [Std.Irrefl (fun first second : κ => first < second)] (map : OrderedMap κ υ)
    (later : List (κ × υ)) (sorted : (map.entries ++ later).Pairwise fun first second => first.1 < second.1) :
    (later.foldl (fun map entry => map.insert entry.1 entry.2) map).entries = map.entries ++ later := by
  have irreflexive : ∀ key : κ, ¬ key < key := Std.Irrefl.irrefl
  induction later generalizing map with
  | nil => simp
  | cons entry rest ih =>
      have above : ∀ earlier ∈ map.entries, earlier.1 < entry.1 ∧ ¬ entry.1 < earlier.1 := by
        intro earlier member
        have below : earlier.1 < entry.1 := (List.pairwise_append.mp sorted).2.2 earlier member entry List.mem_cons_self
        exact ⟨below, fun back => irreflexive _ (Trans.trans below back)⟩
      have added : (map.insert entry.1 entry.2).entries = map.entries ++ [entry] :=
        insertEntry_last irreflexive entry.2 above
      rw [List.foldl_cons, ih, added, List.append_assoc, List.singleton_append]
      rw [added, List.append_assoc, List.singleton_append]
      exact sorted

end Entries

end OrderedMap

end Cyberjack.Foundation
