import Mathlib.Data.List.Basic

namespace Cyberjack.Foundation

/-! # Reading until a buffer is full

A call that reads may return fewer elements than it was asked for, so drivers
call it again for the rest.  However the calls split what arrives, the buffer
holds its next elements.
-/

universe u

variable {α : Type u}

/-- What a call of read does: it returns one element or more, is interrupted, or fails. -/
inductive ReadAnswer where
  | granted (behindFirst : Nat)
  | interrupted
  | failed
deriving Repr, DecidableEq

/-- A call waits where nothing is left to arrive; a reading is unfinished where elements are missing
behind the calls made so far. -/
inductive Exact (α : Type u) where
  | full (taken left : List α) (answers : List ReadAnswer)
  | failed
  | waiting
  | unfinished
deriving Repr, DecidableEq

/-- `taken` has been read, and `count` elements are missing. -/
def readMore (taken : List α) : List ReadAnswer → Nat → List α → Exact α
  | [], count, line => if count = 0 then .full taken line [] else .unfinished
  | answer :: rest, count, line =>
      if count = 0 then .full taken line (answer :: rest)
      else
        match answer with
        | .failed => .failed
        | .interrupted => readMore taken rest count line
        | .granted behindFirst =>
            let size := min (behindFirst + 1) (min count line.length)
            if size = 0 then .waiting
            else readMore (taken ++ line.take size) rest (count - size) (line.drop size)

def readExact (answers : List ReadAnswer) (count : Nat) (line : List α) : Exact α :=
  readMore [] answers count line

variable {taken whole line left bytes : List α} {count : Nat} {answers later : List ReadAnswer}

theorem readMore_full (full : readMore taken answers count line = .full whole left later) :
    ∃ bytes, whole = taken ++ bytes ∧ line = bytes ++ left ∧ bytes.length = count := by
  induction answers generalizing taken count line with
  | nil =>
      rw [readMore] at full
      split at full
      · rename_i none
        cases full
        exact ⟨[], (List.append_nil _).symm, rfl, none.symm⟩
      · contradiction
  | cons answer rest ih =>
      unfold readMore at full
      split at full
      · rename_i none
        cases full
        exact ⟨[], (List.append_nil _).symm, rfl, none.symm⟩
      · cases answer with
        | failed => contradiction
        | interrupted => exact ih full
        | granted behindFirst =>
            simp only at full
            split at full
            · contradiction
            · obtain ⟨bytes, all, split, length⟩ := ih full
              refine ⟨line.take (min (behindFirst + 1) (min count line.length)) ++ bytes, ?_, ?_, ?_⟩
              · rw [all, List.append_assoc]
              · rw [List.append_assoc, ← split, List.take_append_drop]
              · rw [List.length_append, List.length_take, length]
                omega

/-- The buffer holds the next elements of the line, as many as were asked for. -/
theorem readExact_full (full : readExact answers count line = .full bytes left later) :
    line = bytes ++ left ∧ bytes.length = count := by
  obtain ⟨next, all, split, length⟩ := readMore_full full
  rw [List.nil_append] at all
  rw [all]
  exact ⟨split, length⟩

theorem readMore_waiting (waits : readMore taken answers count line = .waiting) : line.length < count := by
  induction answers generalizing taken count line with
  | nil =>
      rw [readMore] at waits
      split at waits <;> contradiction
  | cons answer rest ih =>
      unfold readMore at waits
      split at waits
      · contradiction
      · cases answer with
        | failed => contradiction
        | interrupted => exact ih waits
        | granted behindFirst =>
            simp only at waits
            split at waits
            · omega
            · have later := ih waits
              rw [List.length_drop] at later
              omega

/-- A call waits only where the line is too short. -/
theorem readExact_waiting (waits : readExact answers count line = .waiting) : line.length < count :=
  readMore_waiting waits

/-- Calls that return whatever is there fill the buffer or come to wait. -/
theorem readExact_replicate {size calls : Nat} (enough : count ≤ size + 1) (two : 2 ≤ calls) (line : List α) :
    readExact (List.replicate calls (.granted size)) count line = .waiting ∨
      ∃ bytes left later, readExact (List.replicate calls (.granted size)) count line =
        .full bytes left (List.replicate later (.granted size)) ∧ calls ≤ later + 1 := by
  obtain ⟨rest, split⟩ : ∃ rest, calls = rest + 2 := ⟨calls - 2, by omega⟩
  rw [split, List.replicate_succ, List.replicate_succ, readExact, readMore]
  by_cases none : count = 0
  · rw [if_pos none]
    exact .inr ⟨[], line, rest + 2, by rw [List.replicate_succ, List.replicate_succ], by omega⟩
  rw [if_neg none]
  dsimp only
  by_cases empty : line.length = 0
  · rw [if_pos (by omega)]
    exact .inl rfl
  rw [if_neg (by omega), readMore]
  by_cases short : line.length < count
  · rw [if_neg (by omega)]
    dsimp only
    rw [if_pos (by rw [List.length_drop]; omega)]
    exact .inl rfl
  · rw [if_pos (by omega)]
    exact .inr ⟨_, _, rest + 1, by rw [List.replicate_succ], by omega⟩

end Cyberjack.Foundation
