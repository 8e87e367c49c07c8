import Mathlib.Data.List.Basic
import Mathlib.Data.List.TakeDrop
import Cyberjack.Foundation.Loop

namespace Cyberjack.Foundation

/-! # Messages that travel in pieces

The two halves of a stop-and-wait exchange over an arbitrary alphabet.  The
sender cuts a message into consecutive pieces; the receiver joins the pieces
whose one-bit number is the expected one.
-/

universe u v w

variable {α : Type u} {message : List α} {pieces : List (List α)} {offset count : Nat}

/-- The pieces, in order, are the first `offset` elements of the message. -/
structure Consecutive (message : List α) (pieces : List (List α)) (offset : Nat) : Prop where
  joined : pieces.flatten = message.take offset
  inside : offset ≤ message.length

theorem consecutive_nil (message : List α) : Consecutive message [] 0 :=
  ⟨by simp, Nat.zero_le _⟩

theorem Consecutive.next (sent : Consecutive message pieces offset)
    (room : count ≤ message.length - offset) :
    Consecutive message (pieces ++ [(message.drop offset).take count]) (offset + count) where
  joined := by
    rw [List.flatten_append, sent.joined, List.flatten_singleton, ← List.take_add]
  inside := by
    have inside := sent.inside
    omega

theorem Consecutive.next_rest {sent rest : List α} (split : message = sent ++ rest)
    (before : Consecutive message pieces (message.length - rest.length))
    (room : count ≤ rest.length) :
    Consecutive message (pieces ++ [rest.take count])
      (message.length - (rest.drop count).length) := by
  have offset : message.length - rest.length = sent.length := by
    rw [split, List.length_append]
    omega
  rw [offset] at before
  have after := before.next
    (show count ≤ message.length - sent.length by rw [split, List.length_append]; omega)
  have left : message.drop sent.length = rest := by
    rw [split, List.drop_left']
    rfl
  have moved : message.length - (rest.drop count).length = sent.length + count := by
    rw [split, List.length_append, List.length_drop]
    omega
  rwa [left, ← moved] at after

theorem Consecutive.complete (sent : Consecutive message pieces offset)
    (finished : offset = message.length) : pieces.flatten = message := by
  rw [sent.joined, finished, List.take_length]

section Addresses

variable {ω : Type v} {place : ω → Nat} {payload : ω → List α}

/-- The pieces go to addresses that follow one another, the first one to `address`. -/
def Addressed (place : ω → Nat) (payload : ω → List α) : Nat → List ω → Prop
  | _, [] => True
  | address, event :: rest => place event = address ∧
      Addressed place payload (address + (payload event).length) rest

theorem addressed_snoc {address : Nat} {events : List ω} {last : ω} :
    Addressed place payload address (events ++ [last]) ↔
      Addressed place payload address events ∧
        place last = address + (events.map payload).flatten.length := by
  induction events generalizing address with
  | nil => simp [Addressed]
  | cons event rest ih =>
      simp only [List.cons_append, Addressed, ih, List.map_cons, List.flatten_cons, List.length_append,
        and_assoc, Nat.add_assoc]

end Addresses

section Repetition

variable {ω : Type v} {β : Type w} {fresh again : ω → Option β} {trace events : List ω}

/-- What is sent again is what was sent anew before it. -/
def RepeatsLast (fresh again : ω → Option β) (trace : List ω) : Prop :=
  ∀ front event back piece, trace = front ++ event :: back → again event = some piece →
    (front.filterMap fresh).getLast? = some piece

theorem repeatsLast_nil : RepeatsLast fresh again [] := by
  intro front event back piece split
  simp at split

theorem RepeatsLast.append (repeats : RepeatsLast fresh again trace)
    (later : ∀ front event back piece, events = front ++ event :: back → again event = some piece →
      ((trace ++ front).filterMap fresh).getLast? = some piece) :
    RepeatsLast fresh again (trace ++ events) := by
  intro front event back piece split repeated
  rcases split_append split with ⟨rest, here⟩ | ⟨rest, rfl, there⟩
  · exact repeats front event rest piece here repeated
  · exact later rest event back piece there repeated

/-- Events that send nothing again. -/
theorem RepeatsLast.quiet (repeats : RepeatsLast fresh again trace)
    (quiet : ∀ event ∈ events, again event = none) : RepeatsLast fresh again (trace ++ events) := by
  apply repeats.append
  rintro front event back piece rfl repeated
  rw [quiet event (by simp)] at repeated
  contradiction

/-- Events that send nothing anew, and again only what was sent last. -/
theorem RepeatsLast.resend {piece : β} (repeats : RepeatsLast fresh again trace)
    (newest : (trace.filterMap fresh).getLast? = some piece)
    (stale : ∀ event ∈ events, fresh event = none)
    (same : ∀ event ∈ events, ∀ other, again event = some other → other = piece) :
    RepeatsLast fresh again (trace ++ events) := by
  apply repeats.append
  rintro front event back other rfl repeated
  have none : front.filterMap fresh = [] := by
    rw [List.filterMap_eq_nil_iff]
    intro earlier member
    exact stale earlier (List.mem_append_left _ member)
  rw [List.filterMap_append, none, List.append_nil, newest,
    same event (by simp) other repeated]

end Repetition

/-- What reaches a receiver that numbers its pieces modulo two. -/
inductive Arrival (α : Type u) where
  | piece (number : Bool) (content : α)
  | resynchronise
  | other
deriving Repr, DecidableEq

/-- The number expected after an arrival. -/
def Arrival.expected (expected : Bool) : Arrival α → Bool
  | .piece number _ => if number = expected then !expected else expected
  | .resynchronise => false
  | .other => expected

/-- The content accepted from one arrival. -/
def Arrival.accepted (expected : Bool) : Arrival α → List α
  | .piece number content => if number = expected then [content] else []
  | .resynchronise => []
  | .other => []

/-- The receiver of an alternating-bit exchange: the number it expects after
the arrivals, and what it accepted from them. -/
def receive : Bool → List (Arrival α) → Bool × List α
  | expected, [] => (expected, [])
  | expected, arrival :: rest =>
      let later := receive (arrival.expected expected) rest
      (later.1, arrival.accepted expected ++ later.2)

@[simp] theorem receive_nil (expected : Bool) :
    receive expected ([] : List (Arrival α)) = (expected, []) := rfl

theorem receive_snoc (expected : Bool) (arrivals : List (Arrival α)) (arrival : Arrival α) :
    receive expected (arrivals ++ [arrival]) =
      (arrival.expected (receive expected arrivals).1,
        (receive expected arrivals).2 ++ arrival.accepted (receive expected arrivals).1) := by
  induction arrivals generalizing expected with
  | nil => simp [receive]
  | cons first rest ih => simp [receive, ih, List.append_assoc]

end Cyberjack.Foundation
