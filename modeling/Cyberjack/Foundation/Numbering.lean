import Mathlib.Data.List.Basic

namespace Cyberjack.Foundation

/-! # Numbers from a list that only grows

A name has the number of the first entry with its key.  New entries come behind
the others, so that a number stays what it is.
-/

universe u v

section Numbering

variable {α : Type u} {κ : Type v} [DecidableEq κ] {key : α → κ} {names more : List α} {name other : α}
  {position : Nat}

def number? (key : α → κ) (names : List α) (name : α) : Option Nat :=
  names.findIdx? fun entry => decide (key entry = key name)

def register (key : α → κ) (names : List α) (name : α) : List α :=
  if (number? key names name).isSome then names else names ++ [name]

def registerAll (key : α → κ) (names added : List α) : List α := added.foldl (register key) names

theorem isSome_number : (number? key names name).isSome ↔ ∃ entry ∈ names, key entry = key name := by
  rw [number?, List.findIdx?_isSome, List.any_eq_true]
  simp only [decide_eq_true_eq]

theorem number_entry (found : number? key names name = some position) :
    ∃ entry, names[position]? = some entry ∧ key entry = key name := by
  rw [number?, List.findIdx?_eq_some_iff_getElem] at found
  obtain ⟨inside, same, -⟩ := found
  exact ⟨names[position], List.getElem?_eq_getElem inside, of_decide_eq_true same⟩

theorem number_grown (grows : names <+: more) (found : number? key names name = some position) :
    number? key more name = some position := List.IsPrefix.findIdx?_eq_some grows found

theorem number_inj (first : number? key names name = some position)
    (second : number? key names other = some position) : key name = key other := by
  obtain ⟨entry, stands, same⟩ := number_entry first
  obtain ⟨found, standsToo, sameToo⟩ := number_entry second
  rw [stands, Option.some.injEq] at standsToo
  rw [← same, standsToo, sameToo]

theorem prefix_register : names <+: register key names name := by
  unfold register
  split
  · exact List.prefix_refl names
  · exact List.prefix_append names [name]

theorem isSome_register : (number? key (register key names name) name).isSome := by
  unfold register
  split
  · case isTrue known => exact known
  · exact isSome_number.mpr ⟨name, by simp⟩

@[simp] theorem registerAll_nil : registerAll key names [] = names := rfl

@[simp] theorem registerAll_cons :
    registerAll key names (name :: more) = registerAll key (register key names name) more := rfl

theorem prefix_registerAll (added : List α) : names <+: registerAll key names added := by
  induction added generalizing names with
  | nil => exact List.prefix_refl names
  | cons name rest ih => exact prefix_register.trans ih

theorem isSome_registerAll {added : List α} (member : name ∈ added) :
    (number? key (registerAll key names added) name).isSome := by
  induction added generalizing names with
  | nil => contradiction
  | cons first rest ih =>
      cases member with
      | head =>
          obtain ⟨position, found⟩ := Option.isSome_iff_exists.mp (@isSome_register α κ _ key names name)
          rw [registerAll_cons, number_grown (prefix_registerAll rest) found]
          rfl
      | tail _ later => exact ih later

end Numbering

end Cyberjack.Foundation
