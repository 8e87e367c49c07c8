import Mathlib.Data.List.Basic

namespace Cyberjack.Foundation

/-! # Text files read line by line

A line ends behind a newline, or where the buffer it is read into is full.
-/

universe u

section Lines

variable {α : Type u} {newline : α}

/-- The last line has ended. -/
def Ended (newline : α) (bytes : List α) : Prop := bytes = [] ∨ ∃ front, bytes = front ++ [newline]

theorem ended_snoc (front : List α) : Ended newline (front ++ [newline]) := .inr ⟨front, rfl⟩

theorem ended_tail {byte : α} {bytes : List α} (ended : Ended newline (byte :: bytes)) :
    Ended newline bytes := by
  rcases ended with empty | ⟨front, split⟩
  · contradiction
  · cases front with
    | nil =>
        cases split
        exact .inl rfl
    | cons first rest =>
        cases split
        exact ended_snoc rest

variable [DecidableEq α]

/-- The line in front, of at most `room` bytes, and what is behind it. -/
def takeLine (newline : α) : Nat → List α → List α × List α
  | 0, bytes => ([], bytes)
  | _ + 1, [] => ([], [])
  | room + 1, byte :: bytes =>
      if byte = newline then ([byte], bytes)
      else (byte :: (takeLine newline room bytes).1, (takeLine newline room bytes).2)

theorem takeLine_split (room : Nat) (bytes : List α) :
    (takeLine newline room bytes).1 ++ (takeLine newline room bytes).2 = bytes := by
  induction room generalizing bytes with
  | zero => rfl
  | succ room ih =>
      cases bytes with
      | nil => rfl
      | cons byte rest =>
          unfold takeLine
          split
          · rfl
          · rw [List.cons_append, ih]

theorem takeLine_ne_nil (room : Nat) (byte : α) (bytes : List α) :
    (takeLine newline (room + 1) (byte :: bytes)).1 ≠ [] := by
  unfold takeLine
  split <;> exact List.cons_ne_nil _ _

theorem takeLine_shorter (room : Nat) (byte : α) (bytes : List α) :
    (takeLine newline (room + 1) (byte :: bytes)).2.length < (byte :: bytes).length := by
  have split := congrArg List.length (@takeLine_split α newline _ (room + 1) (byte :: bytes))
  have filled := List.length_pos_iff.mpr (@takeLine_ne_nil α newline _ room byte bytes)
  rw [List.length_append] at split
  omega

/-- Every line with a buffer of `room + 1` bytes. -/
def lines (newline : α) (room : Nat) : List α → List (List α)
  | [] => []
  | byte :: bytes =>
      (takeLine newline (room + 1) (byte :: bytes)).1 ::
        lines newline room (takeLine newline (room + 1) (byte :: bytes)).2
termination_by bytes => bytes.length
decreasing_by exact takeLine_shorter room byte bytes

theorem takeLine_append {front : List α} (ended : Ended newline front) (filled : front ≠ []) (room : Nat)
    (back : List α) :
    takeLine newline room (front ++ back) =
        ((takeLine newline room front).1, (takeLine newline room front).2 ++ back) ∧
      Ended newline (takeLine newline room front).2 := by
  induction room generalizing front with
  | zero => exact ⟨rfl, ended⟩
  | succ room ih =>
      cases front with
      | nil => contradiction
      | cons byte rest =>
          rw [List.cons_append]
          unfold takeLine
          split
          · exact ⟨rfl, ended_tail ended⟩
          · case isFalse other =>
              have more : rest ≠ [] := by
                intro empty
                rcases ended with nothing | ⟨front, split⟩
                · contradiction
                · cases front with
                  | nil => exact other (List.cons.inj split).1
                  | cons first front => simp [empty] at split
              obtain ⟨same, endedRest⟩ := ih (ended_tail ended) more
              exact ⟨by rw [same], endedRest⟩

/-- What is written behind a file whose last line has ended leaves its lines alone. -/
theorem lines_append (room : Nat) {front : List α} (ended : Ended newline front) (back : List α) :
    lines newline room (front ++ back) = lines newline room front ++ lines newline room back := by
  induction front using lines.induct newline room with
  | case1 => rw [lines, List.nil_append, List.nil_append]
  | case2 byte bytes ih =>
      obtain ⟨same, endedRest⟩ := takeLine_append ended (List.cons_ne_nil _ _) (room + 1) back
      rw [List.cons_append] at same ⊢
      rw [lines, same, ih endedRest]
      conv => rhs; rw [lines]
      rfl

theorem takeLine_entry {room : Nat} {entry : List α} (inLine : newline ∉ entry) (fits : entry.length ≤ room) :
    takeLine newline (room + 1) (entry ++ [newline]) = (entry ++ [newline], []) := by
  induction entry generalizing room with
  | nil => simp [takeLine]
  | cons byte rest ih =>
      have other : byte ≠ newline := fun same => inLine (by simp [same])
      have later : newline ∉ rest := fun member => inLine (List.mem_cons_of_mem _ member)
      cases room with
      | zero => simp at fits
      | succ room =>
          rw [List.cons_append, takeLine, if_neg other, ih later (by simpa using fits)]

/-- An entry that fits is one line. -/
theorem lines_entry {room : Nat} {entry : List α} (inLine : newline ∉ entry) (fits : entry.length ≤ room) :
    lines newline room (entry ++ [newline]) = [entry ++ [newline]] := by
  have taken := takeLine_entry inLine fits
  cases entry with
  | nil =>
      rw [List.nil_append] at taken ⊢
      rw [lines, taken, lines]
  | cons byte rest =>
      rw [List.cons_append] at taken ⊢
      rw [lines, taken, lines]

/-- An entry that fills the buffer leaves its newline to the next line. -/
theorem lines_full {room : Nat} {entry : List α} (inLine : newline ∉ entry) (full : entry.length = room + 1) :
    lines newline room (entry ++ [newline]) = [entry, [newline]] := by
  have taken : takeLine newline (room + 1) (entry ++ [newline]) = (entry, [newline]) := by
    rw [← full]
    clear full
    induction entry with
    | nil => rfl
    | cons byte rest ih =>
        have other : byte ≠ newline := fun same => inLine (by simp [same])
        have later : newline ∉ rest := fun member => inLine (List.mem_cons_of_mem _ member)
        rw [List.cons_append, List.length_cons, takeLine, if_neg other, ih later]
  have last : lines newline room [newline] = [[newline]] := by simpa using @lines_entry α newline _ room [] (by simp) (by simp)
  cases entry with
  | nil => simp at full
  | cons byte rest =>
      rw [List.cons_append] at taken ⊢
      rw [lines, taken, last]

theorem takeLine_length_le (room : Nat) (bytes : List α) : (takeLine newline room bytes).1.length ≤ room := by
  induction room generalizing bytes with
  | zero => exact Nat.le_refl 0
  | succ room ih =>
      cases bytes with
      | nil => exact Nat.zero_le _
      | cons byte rest =>
          unfold takeLine
          split
          · exact Nat.le_add_left 1 room
          · exact Nat.succ_le_succ (ih rest)

theorem lines_all {room : Nat} (holds : List α → Prop) (each : ∀ bytes, holds (takeLine newline (room + 1) bytes).1)
    {bytes line : List α} (member : line ∈ lines newline room bytes) : holds line := by
  induction bytes using lines.induct newline room with
  | case1 => simp [lines] at member
  | case2 byte bytes ih =>
      rw [lines] at member
      cases member with
      | head => exact each _
      | tail _ later => exact ih later

/-- What the buffer has room for. -/
theorem lines_length_le {room : Nat} {bytes line : List α} (member : line ∈ lines newline room bytes) :
    line.length ≤ room + 1 :=
  lines_all (fun line => line.length ≤ room + 1) (takeLine_length_le (room + 1)) member

/-- A line has a newline at its end only. -/
theorem newline_takeLine {room : Nat} {bytes front : List α} {last : α}
    (split : (takeLine newline room bytes).1 = front ++ [last]) : newline ∉ front := by
  induction room generalizing bytes front with
  | zero => simp [takeLine] at split
  | succ room ih =>
      cases bytes with
      | nil => simp [takeLine] at split
      | cons byte rest =>
          unfold takeLine at split
          cases front with
          | nil => exact List.not_mem_nil
          | cons first front =>
              by_cases same : byte = newline
              · simp [if_pos same] at split
              · rw [if_neg same] at split
                obtain ⟨rfl, later⟩ := List.cons.inj split
                simp only [List.mem_cons, not_or]
                exact ⟨fun equal => same equal.symm, ih later⟩

theorem newline_lines {room : Nat} {bytes line front : List α} {last : α}
    (member : line ∈ lines newline room bytes) (split : line = front ++ [last]) : newline ∉ front :=
  lines_all (fun line => line = front ++ [last] → newline ∉ front) (fun _ => newline_takeLine) member split

end Lines

end Cyberjack.Foundation
