import Cyberjack.Foundation.Loop
import Mathlib.Data.List.Range

namespace Cyberjack.Foundation

/-! # Loops on infinite streams

A loop that takes one input in each pass ends on a stream if it ends on some
prefix.  Where a measure falls in every pass that goes on, but for passes that
change nothing, only these can keep it from ending.
-/

universe u v w x

variable {σ : Type u} {ι : Type v} {ω : Type w} {ρ : Type x}

/-- The first inputs of a stream. -/
def firsts (inputs : Nat → ι) (count : Nat) : List ι := (List.range count).map inputs

theorem firsts_succ (inputs : Nat → ι) (count : Nat) :
    firsts inputs (count + 1) = firsts inputs count ++ [inputs count] := by
  simp [firsts, List.range_succ]

theorem firsts_cons (inputs : Nat → ι) (count : Nat) :
    firsts inputs (count + 1) = inputs 0 :: firsts (fun index => inputs (index + 1)) count := by
  simp only [firsts, List.range_succ_eq_map, List.map_cons, List.map_map]
  rfl

/-- From some point of the loop on all passes are idle. -/
def Stalls (idle : σ → ι → Prop) (outcome : Nat → Next σ ρ) (inputs : Nat → ι) : Prop :=
  ∃ start, (outcome start).GoesOn ∧
    ∀ later, start ≤ later → ∀ state, outcome later = .again state → idle state (inputs later)

/-- The loop ends with a result that is wanted. -/
def EndsWith (good : ρ → Prop) (outcome : Nat → Next σ ρ) : Prop := ∃ count result, outcome count = .done result ∧ good result

/-- What is known of a pass: it ends with a wanted result if it ends and its input fits, it goes on
if it is idle, and otherwise it lowers the measure. -/
structure Falls (body : Body σ ι ω ρ) (invariant : σ → Prop) (measure : σ → Nat) (idle fits : σ → ι → Prop)
    (good : ρ → Prop) : Prop where
  keeps : ∀ state input next, invariant state → (body state input).2 = .again next → invariant next
  idles : ∀ state input, invariant state → idle state input → (body state input).2.GoesOn
  measured : ∀ state input next, invariant state → (body state input).2 = .again next →
    measure next ≤ measure state ∧ (¬ idle state input → measure next < measure state)
  fitting : ∀ state input, invariant state →
    ((∀ result, (body state input).2 = .done result → good result) ↔ fits state input)

theorem outcome_snoc {body : Body σ ι ω ρ} {start state : σ} {first : List ι}
    (goesOn : (run body start first).outcome = .again state) (input : ι) :
    (run body start (first ++ [input])).outcome = (body state input).2 := by
  induction first generalizing start with
  | nil =>
      cases goesOn
      cases stepped : body state input with
      | mk output next =>
          cases next with
          | done result => rw [List.nil_append, run_done stepped]
          | again next => rw [List.nil_append, run_again stepped, run_nil]
  | cons head rest ih =>
      cases stepped : body start head with
      | mk output next =>
          cases next with
          | done result =>
              rw [run_done stepped] at goesOn
              cases goesOn
          | again next =>
              rw [run_again stepped] at goesOn
              rw [List.cons_append, run_again stepped]
              exact ih goesOn

section Streams

variable {body : Body σ ι ω ρ} {invariant : σ → Prop} {measure : σ → Nat} {idle fits : σ → ι → Prop}
  {good : ρ → Prop} {begun : σ} {inputs : Nat → ι}

theorem outcome_again {count : Nat} {state : σ} (goesOn : (run body begun (firsts inputs count)).outcome = .again state) :
    (run body begun (firsts inputs (count + 1))).outcome = (body state (inputs count)).2 := by
  rw [firsts_succ, outcome_snoc goesOn]

theorem outcome_done {count : Nat} {result : ρ} (ended : (run body begun (firsts inputs count)).outcome = .done result) :
    ∀ later, count ≤ later → (run body begun (firsts inputs later)).outcome = .done result := by
  intro later behind
  induction later, behind using Nat.le_induction with
  | base => exact ended
  | succ later behind ih => rw [firsts_succ, run_append_of_done ih, ih]

theorem Falls.reached (falls : Falls body invariant measure idle fits good) (start : invariant begun) {count : Nat} :
    ∀ {state}, (run body begun (firsts inputs count)).outcome = .again state → invariant state := by
  induction count with
  | zero =>
      intro state begins
      cases begins
      exact start
  | succ count ih =>
      intro state goesOn
      cases before : (run body begun (firsts inputs count)).outcome with
      | done result =>
          rw [outcome_done before (count + 1) (by omega)] at goesOn
          cases goesOn
      | again last =>
          rw [outcome_again before] at goesOn
          exact falls.keeps last _ state (ih before) goesOn

/-- A loop that goes on for ever stalls, by induction on the measure. -/
theorem Falls.stalls (falls : Falls body invariant measure idle fits good) (start : invariant begun)
    (endless : ∀ count, (run body begun (firsts inputs count)).outcome.GoesOn) :
    Stalls idle (fun count => (run body begun (firsts inputs count)).outcome) inputs := by
  have below : ∀ size count state, (run body begun (firsts inputs count)).outcome = .again state →
      measure state = size → ∃ start, ∀ later, start ≤ later → ∀ state,
        (run body begun (firsts inputs later)).outcome = .again state → idle state (inputs later) := by
    intro size
    induction size using Nat.strongRecOn with
    | ind size ih =>
        intro count state reached sized
        have falling : ∀ later, count ≤ later → ∀ next, (run body begun (firsts inputs later)).outcome = .again next →
            measure next ≤ size := by
          intro later behind
          induction later, behind using Nat.le_induction with
          | base =>
              intro next again
              cases reached.symm.trans again
              omega
          | succ later behind smaller =>
              intro next again
              cases before : (run body begun (firsts inputs later)).outcome with
              | done result =>
                  rw [outcome_done before (later + 1) (by omega)] at again
                  cases again
              | again last =>
                  rw [outcome_again before] at again
                  exact Nat.le_trans (falls.measured last _ next (falls.reached start before) again).1 (smaller last before)
        by_cases idles : ∀ later, count ≤ later → ∀ next, (run body begun (firsts inputs later)).outcome = .again next →
            idle next (inputs later)
        · exact ⟨count, idles⟩
        · simp only [not_forall] at idles
          obtain ⟨later, behind, last, before, active⟩ := idles
          have more := endless (later + 1)
          rw [outcome_again before] at more
          cases onward : (body last (inputs later)).2 with
          | done result =>
              rw [onward] at more
              exact absurd more id
          | again next =>
              have lower := (falls.measured last _ next (falls.reached start before) onward).2 active
              have high := falling later behind last before
              exact ih (measure next) (by omega) (later + 1) next (by rw [outcome_again before, onward]) rfl
  obtain ⟨from', quiet⟩ := below (measure begun) 0 begun rfl rfl
  exact ⟨from', endless from', quiet⟩

theorem Falls.endless (falls : Falls body invariant measure idle fits good) (start : invariant begun)
    (stalls : Stalls idle (fun count => (run body begun (firsts inputs count)).outcome) inputs) (count : Nat) :
    (run body begun (firsts inputs count)).outcome.GoesOn := by
  obtain ⟨from', begins, quiet⟩ := stalls
  have after : ∀ later, from' ≤ later → (run body begun (firsts inputs later)).outcome.GoesOn := by
    intro later behind
    induction later, behind using Nat.le_induction with
    | base => exact begins
    | succ later behind ih =>
        cases before : (run body begun (firsts inputs later)).outcome with
        | done result =>
            rw [before] at ih
            exact absurd ih id
        | again state =>
            rw [outcome_again before]
            exact falls.idles state _ (falls.reached start before) (quiet later behind state before)
  cases ended : (run body begun (firsts inputs count)).outcome with
  | again state => trivial
  | done result =>
      have late := after (max from' count) (Nat.le_max_left _ _)
      rw [outcome_done ended _ (Nat.le_max_right _ _)] at late
      exact late

/-- The loop ends as it should if and only if all inputs fit and it does not stall. -/
theorem Falls.endsWith_iff (falls : Falls body invariant measure idle fits good) (start : invariant begun) :
    EndsWith good (fun count => (run body begun (firsts inputs count)).outcome) ↔
      (∀ count state, (run body begun (firsts inputs count)).outcome = .again state → fits state (inputs count)) ∧
        ¬ Stalls idle (fun count => (run body begun (firsts inputs count)).outcome) inputs := by
  constructor
  · intro ends
    obtain ⟨last, result, ended, wanted⟩ := ends
    constructor
    · intro count state reached
      refine (falls.fitting state _ (falls.reached start reached)).mp fun other stops => ?_
      have next := outcome_again reached
      rw [stops] at next
      have same := outcome_done next (max last (count + 1)) (Nat.le_max_right _ _)
      rw [outcome_done ended _ (Nat.le_max_left _ _)] at same
      cases same
      exact wanted
    · intro stalls
      have more := falls.endless start stalls last
      change Next.GoesOn (run body begun (firsts inputs last)).outcome at more
      rw [show (run body begun (firsts inputs last)).outcome = .done result from ended] at more
      exact more
  · intro both
    obtain ⟨fitting, quiet⟩ := both
    by_contra endless
    refine quiet (falls.stalls start fun count => ?_)
    induction count with
    | zero => trivial
    | succ count ih =>
        cases before : (run body begun (firsts inputs count)).outcome with
        | done result =>
            rw [before] at ih
            exact absurd ih id
        | again state =>
            rw [outcome_again before]
            cases onward : (body state (inputs count)).2 with
            | again next => trivial
            | done result =>
                have wanted := (falls.fitting state _ (falls.reached start before)).mpr (fitting count state before) result onward
                exact absurd ⟨count + 1, result, (outcome_again before).trans onward, wanted⟩ endless

/-- An input that leads to the same state again and again. -/
theorem never_ends {state : σ} {input : ι} (first : (body begun input).2 = .again state)
    (again : (body state input).2 = .again state) (good : ρ → Prop) :
    ¬ EndsWith good (fun count => (run body begun (firsts (fun _ => input) count)).outcome) := by
  have stays : ∀ count, (run body begun (firsts (fun _ => input) (count + 1))).outcome = .again state := by
    intro count
    induction count with
    | zero => exact (@outcome_again _ _ _ _ body begun (fun _ => input) 0 begun rfl).trans first
    | succ count ih => exact (outcome_again ih).trans again
  intro ends
  obtain ⟨count, result, ended, _⟩ := ends
  have later := outcome_done ended (count + 1) (by omega)
  rw [stays] at later
  cases later

end Streams

end Cyberjack.Foundation
