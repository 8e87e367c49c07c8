import Mathlib.Data.List.Basic

namespace Cyberjack.Foundation

/-! # Dialogs

What a function asks of its surroundings, as a tree: every request has a branch
for each reply.  Two functions with the same dialog make the same requests in
the same order and end in the same way, whatever they are told.
-/

universe u v w x

inductive Dialog (ρ : Type u) (reply : ρ → Type v) (α : Type w) where
  | done (result : α)
  | ask (request : ρ) (go : reply request → Dialog ρ reply α)
  /-- Nothing is said of what follows: a loop has used up its passes, or an array is overrun. -/
  | stuck

namespace Dialog

variable {ρ : Type u} {reply : ρ → Type v} {α β : Type w} {σ : Type x}

def bind (first : Dialog ρ reply α) (next : α → Dialog ρ reply β) : Dialog ρ reply β :=
  match first with
  | done result => next result
  | ask request go => ask request fun told => (go told).bind next
  | stuck => stuck

instance : Monad (Dialog ρ reply) where
  pure := done
  bind := bind

def request (asked : ρ) : Dialog ρ reply (reply asked) := ask asked done

@[simp] theorem pure_bind' (result : α) (next : α → Dialog ρ reply β) :
    (pure result : Dialog ρ reply α) >>= next = next result := rfl

@[simp] theorem request_bind {asked : ρ} {β : Type v} (next : reply asked → Dialog ρ reply β) :
    request asked >>= next = ask asked next := rfl

/-- Surroundings that keep a state and answer every request. -/
abbrev Device (ρ : Type u) (reply : ρ → Type v) (σ : Type x) :=
  σ → (asked : ρ) → reply asked × σ

/-- The requests made of a device, and the result. -/
def run (device : Device ρ reply σ) : Dialog ρ reply α → σ → List ρ × Option α
  | done result, _ => ([], some result)
  | ask asked go, state =>
      let told := device state asked
      let later := (go told.1).run device told.2
      (asked :: later.1, later.2)
  | stuck, _ => ([], none)

/-- What is asked and done behind a dialog that has ended. -/
theorem run_bind {device : Device ρ reply σ} {first : Dialog ρ reply α} {state : σ} {result : α}
    (ended : (first.run device state).2 = some result) (next : α → Dialog ρ reply β) :
    ∃ after, (first.bind next).run device state =
      ((first.run device state).1 ++ ((next result).run device after).1, ((next result).run device after).2) := by
  induction first generalizing state with
  | done told =>
      cases ended
      exact ⟨state, rfl⟩
  | ask asked go ih =>
      obtain ⟨after, same⟩ := ih _ ended
      refine ⟨after, ?_⟩
      simp only [bind, run, same, List.cons_append]
  | stuck => contradiction

end Dialog

end Cyberjack.Foundation
