import Mathlib.Data.List.TakeWhile

namespace Cyberjack.Foundation

/-! # Streaks

A retry counter that is reset by success counts the failures at the end of the
history.  When the counter never passes a bound, no streak of failures anywhere
in the history is longer than that bound.
-/

universe u

variable {α : Type u} {p : α → Prop} {bound : Nat}

/-- No `bound + 1` consecutive elements satisfy `p`. -/
def StreaksWithin (p : α → Prop) (bound : Nat) (history : List α) : Prop :=
  ∀ front streak back, history = front ++ streak ++ back → (∀ x ∈ streak, p x) →
    streak.length ≤ bound

theorem streaksWithin_nil : StreaksWithin p bound ([] : List α) := by
  intro front streak back split _
  have empty : streak = [] := by
    simp_all
  simp [empty]

theorem StreaksWithin.front {first second : List α} (within : StreaksWithin p bound (first ++ second)) :
    StreaksWithin p bound first := by
  rintro front streak back rfl all
  exact within front streak (back ++ second) (by simp) all

variable [DecidablePred p]

/-- How many elements at the end of the list satisfy `p` without a break. -/
def trailing (p : α → Prop) [DecidablePred p] (history : List α) : Nat :=
  (history.reverse.takeWhile p).length

@[simp] theorem trailing_nil : trailing p [] = 0 := rfl

@[simp] theorem trailing_snoc (history : List α) (last : α) :
    trailing p (history ++ [last]) = if p last then trailing p history + 1 else 0 := by
  by_cases holds : p last <;> simp [trailing, holds]

theorem trailing_append_of_all {streak : List α} (front : List α) (all : ∀ x ∈ streak, p x) :
    streak.length ≤ trailing p (front ++ streak) := by
  have every : ∀ x ∈ streak.reverse, decide (p x) = true := by
    intro x member
    simpa using all x (by simpa using member)
  rw [trailing, List.reverse_append, List.takeWhile_append_of_pos every]
  simp

theorem StreaksWithin.trailing_le {history : List α} (within : StreaksWithin p bound history) :
    trailing p history ≤ bound := by
  have split : history = (history.reverse.dropWhile p).reverse ++
      (history.reverse.takeWhile p).reverse ++ [] := by
    rw [List.append_nil, ← List.reverse_append, List.takeWhile_append_dropWhile, List.reverse_reverse]
  have counted := within _ _ [] split (fun element member => by
    have satisfied := List.mem_takeWhile_imp (List.mem_reverse.mp member)
    simpa using satisfied)
  rwa [List.length_reverse] at counted

/-- A history grows within the bound when the streak at its end does. -/
theorem StreaksWithin.snoc {history : List α} {last : α} (within : StreaksWithin p bound history)
    (counted : trailing p (history ++ [last]) ≤ bound) :
    StreaksWithin p bound (history ++ [last]) := by
  intro front streak back split all
  rcases List.eq_nil_or_concat back with rfl | ⟨rest, final, rfl⟩
  · rw [List.append_nil] at split
    rw [split] at counted
    exact Nat.le_trans (trailing_append_of_all front all) counted
  · rw [List.concat_eq_append, ← List.append_assoc] at split
    exact within front streak rest (List.append_inj_left' split rfl) all

/-- The streak at the end is no longer than the counter that follows it. -/
theorem trailing_counted {history : List α} {last : α} {count after : Nat}
    (counts : trailing p history ≤ count) (step : p last → count + 1 ≤ after) :
    trailing p (history ++ [last]) ≤ after := by
  rw [trailing_snoc]
  split
  · rename_i holds
    have counted := step holds
    omega
  · omega

theorem StreaksWithin.counted {history : List α} {last : α} {count : Nat}
    (within : StreaksWithin p bound history) (counts : trailing p history ≤ count)
    (step : p last → count + 1 ≤ bound) : StreaksWithin p bound (history ++ [last]) :=
  within.snoc (trailing_counted counts step)

end Cyberjack.Foundation
