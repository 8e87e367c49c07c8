import Cyberjack.Foundation.Endless

namespace Cyberjack.Eca.BulkWrite

open Cyberjack.Foundation

/-! # Packets to the bulk pipe

`ausb11_bulk_write` with every transfer it asks libusb for.
-/

/-- What `libusb_bulk_transfer` returns: 0 or `LIBUSB_ERROR_TIMEOUT` with the bytes transferred, or
another error. -/
inductive TransferReturn where
  | transferred (bytes : Nat) (timedOut : Bool)
  | failed (rv : Int)
deriving Repr, DecidableEq

/-- A transfer: the bytes it is asked for, as a distance from the caller's buffer and a length, and
how many of them the device takes. -/
structure Request where
  bytes : Nat
  length : Nat
  transferred : Nat
deriving Repr, DecidableEq

/-- What a pass of the loop begins with. -/
structure Sending where
  bytes : Nat
  l : Int
  noDataFlag : Bool
deriving Repr, DecidableEq

/-- `length` is returned, or -1 with what is left in `xh->ioError`. -/
inductive BulkWriteResult where
  | length
  | error (ioError : Int)
deriving Repr, DecidableEq

/-- `while(l)` -/
def loopHead (sending : Sending) : Next Sending BulkWriteResult :=
  if sending.l = 0 then .done .length else .again sending

/-- A pass of the loop.  Every request is for `length` bytes, also behind a transfer of some of them. -/
def writeBody (length : Nat) : Body Sending TransferReturn Request BulkWriteResult := fun sending returned =>
  match returned with
  | .failed rv => ([⟨sending.bytes, length, 0⟩], .done (.error rv))
  | .transferred bytes _ =>
      let transferred := min bytes length
      ([⟨sending.bytes, length, transferred⟩],
        if transferred = 0 ∧ sending.noDataFlag then .done (.error 0)
        else
          loopHead ⟨sending.bytes + transferred, sending.l - transferred,
            sending.noDataFlag || decide (transferred = 0)⟩)

/-- `xh` is the `ioError` of the extra data, if there are any. -/
def ausb11_bulk_write (xh : Option Int) (length : Nat) (returns : List TransferReturn) :
    Call Sending TransferReturn Request BulkWriteResult :=
  call (writeBody length)
    ([], match xh with
      | none => .done (.error 0)
      | some ioError => if ioError ≠ 0 then .done (.error ioError) else loopHead ⟨0, length, false⟩)
    returns

/-! ## What should be sent -/

/-- The bytes the device gets, by their places in the caller's buffer. -/
def handedOver (requests : List Request) : List Nat :=
  requests.flatMap fun request => List.range' request.bytes request.transferred

/-- What holds for a stream of returns, at each of its prefixes. -/
structure WriteRight (xh : Option Int) (length : Nat) (returns : Nat → TransferReturn) : Prop where
  inside : ∀ count, ∀ request ∈ (ausb11_bulk_write xh length (firsts returns count)).trace,
    request.bytes + request.length ≤ length
  sent : ∀ count, (ausb11_bulk_write xh length (firsts returns count)).outcome = .done .length →
    handedOver (ausb11_bulk_write xh length (firsts returns count)).trace = List.range' 0 length
  ends : (∀ index bytes timedOut, returns index = .transferred bytes timedOut → 0 < bytes) →
    ∃ count result, (ausb11_bulk_write xh length (firsts returns count)).outcome = .done result

/-- Some of the bytes are transferred, but not all. -/
def Partial (length : Nat) (returned : TransferReturn) : Prop :=
  ∃ bytes timedOut, returned = .transferred bytes timedOut ∧ 0 < bytes ∧ bytes < length

def Nothing (returned : TransferReturn) : Prop := ∃ timedOut, returned = .transferred 0 timedOut

/-- The first transfer, and the second one where the first brings nothing, is none of a part. -/
def AtOnce (length : Nat) (returns : Nat → TransferReturn) : Prop :=
  ¬ Partial length (returns 0) ∧ (Nothing (returns 0) → ¬ Partial length (returns 1))

/-! ## The passes -/

variable {length count : Nat} {returns : Nat → TransferReturn} {returned : TransferReturn} {sending : Sending}

/-- The first pass may bring nothing. -/
theorem pass_nothing (positive : 0 < length) (nothing : Nothing returned) :
    writeBody length ⟨0, length, false⟩ returned = ([⟨0, length, 0⟩], .again ⟨0, length, true⟩) := by
  obtain ⟨timedOut, rfl⟩ := nothing
  have more : length ≠ 0 := by omega
  simp [writeBody, loopHead, more]

/-- A pass that is none of a part ends the call otherwise. -/
theorem pass_ends {flag : Bool} (whole : ¬ Partial length returned) (last : Nothing returned → flag = true) :
    ∃ moved result, writeBody length ⟨0, length, flag⟩ returned = ([⟨0, length, moved⟩], .done result) ∧
      (result = .length → moved = length) := by
  cases returned with
  | failed rv => exact ⟨0, .error rv, rfl, nofun⟩
  | transferred bytes timedOut =>
      by_cases nothing : bytes = 0
      · subst nothing
        rw [last ⟨timedOut, rfl⟩]
        exact ⟨0, .error 0, by simp [writeBody], nofun⟩
      · have all : length ≤ bytes := by
          by_cases part : bytes < length
          · exact absurd ⟨bytes, timedOut, rfl, by omega, part⟩ whole
          · omega
        by_cases flagged : length = 0 ∧ flag = true
        · exact ⟨0, .error 0, by simp [writeBody, flagged], nofun⟩
        · exact ⟨length, .length, by simp [writeBody, loopHead, Nat.min_eq_right all, flagged], fun _ => rfl⟩

/-- Behind a part the next request begins further on and is as long as before. -/
theorem pass_part (part : Partial length returned) (flag : Bool) :
    ∃ bytes, 0 < bytes ∧ writeBody length ⟨0, length, flag⟩ returned =
      ([⟨0, length, bytes⟩], .again ⟨bytes, length - bytes, flag⟩) := by
  obtain ⟨bytes, timedOut, rfl, some, notAll⟩ := part
  have left : (length : Int) - bytes ≠ 0 := by omega
  have least : min bytes length = bytes := by omega
  have moved : bytes ≠ 0 := by omega
  exact ⟨bytes, some, by simp [writeBody, loopHead, least, left, moved]⟩

theorem not_part_empty : ¬ Partial 0 returned := by
  intro part
  obtain ⟨bytes, _, _, _, below⟩ := part
  exact absurd below (Nat.not_lt_zero bytes)

theorem body_requests (length : Nat) (sending : Sending) (returned : TransferReturn) :
    ∃ transferred, (writeBody length sending returned).1 = [⟨sending.bytes, length, transferred⟩] := by
  cases returned with
  | failed rv => exact ⟨0, rfl⟩
  | transferred bytes timedOut => exact ⟨min bytes length, rfl⟩

theorem run_requests (length : Nat) (sending : Sending) (returned : TransferReturn) (rest : List TransferReturn) :
    ∃ transferred, ⟨sending.bytes, length, transferred⟩ ∈
      outputs (run (writeBody length) sending (returned :: rest)).turns := by
  obtain ⟨transferred, requested⟩ := body_requests length sending returned
  refine ⟨transferred, ?_⟩
  cases stepped : writeBody length sending returned with
  | mk output next =>
      simp only [stepped] at requested
      subst output
      cases next with
      | done result =>
          rw [run_done stepped, outputs_singleton]
          exact List.mem_singleton_self _
      | again next =>
          rw [run_again stepped, outputs_cons]
          exact List.mem_append_left _ (List.mem_singleton_self _)

/-- A part makes the request behind it reach out of the buffer. -/
theorem part_outside (part : Partial length returned) (flag : Bool) (second : TransferReturn)
    (rest : List TransferReturn) :
    ∃ request ∈ outputs (run (writeBody length) ⟨0, length, flag⟩ (returned :: second :: rest)).turns,
      length < request.bytes + request.length := by
  obtain ⟨bytes, some, stepped⟩ := pass_part part flag
  obtain ⟨transferred, requested⟩ := run_requests length ⟨bytes, length - bytes, flag⟩ second rest
  refine ⟨⟨bytes, length, transferred⟩, ?_, Nat.lt_add_of_pos_left some⟩
  rw [run_again stepped, outputs_cons]
  exact List.mem_append_right _ requested

/-! ## The call -/

theorem call_opened (positive : 0 < length) (returns : List TransferReturn) :
    ausb11_bulk_write (some 0) length returns =
      ⟨[], (run (writeBody length) ⟨0, length, false⟩ returns).turns,
        (run (writeBody length) ⟨0, length, false⟩ returns).outcome⟩ := by
  have more : length ≠ 0 := by omega
  simp [ausb11_bulk_write, loopHead, more, call]

theorem call_trace (positive : 0 < length) (returns : List TransferReturn) :
    (ausb11_bulk_write (some 0) length returns).trace =
      outputs (run (writeBody length) ⟨0, length, false⟩ returns).turns := by
  rw [call_opened positive]
  rfl

/-- A call whose requests all begin at the buffer, the last of them with all bytes where it succeeds. -/
theorem right_of_settled {xh : Option Int} {steps : Nat} {requests : List Request} {result : BulkWriteResult}
    (early : ∀ count, count < steps → (∀ request ∈ (ausb11_bulk_write xh length (firsts returns count)).trace,
      request ∈ requests) ∧ (ausb11_bulk_write xh length (firsts returns count)).outcome.GoesOn)
    (late : ∀ count, (ausb11_bulk_write xh length (firsts returns (count + steps))).trace = requests ∧
      (ausb11_bulk_write xh length (firsts returns (count + steps))).outcome = .done result)
    (inside : ∀ request ∈ requests, request.bytes + request.length ≤ length)
    (sent : result = .length → handedOver requests = List.range' 0 length) : WriteRight xh length returns := by
  constructor
  · intro count request member
    by_cases before : count < steps
    · exact inside request ((early count before).1 request member)
    · have split : count = count - steps + steps := by omega
      rw [split, (late _).1] at member
      exact inside request member
  · intro count ended
    by_cases before : count < steps
    · have goesOn := (early count before).2
      rw [ended] at goesOn
      contradiction
    · have split : count = count - steps + steps := by omega
      rw [split] at ended ⊢
      rw [(late _).2, Next.done.injEq] at ended
      rw [(late _).1]
      exact sent ended
  · intro _
    exact ⟨0 + steps, result, (late 0).2⟩

theorem early_nothing (positive : 0 < length) (requests : List Request) :
    (∀ request ∈ (ausb11_bulk_write (some 0) length (firsts returns 0)).trace, request ∈ requests) ∧
      (ausb11_bulk_write (some 0) length (firsts returns 0)).outcome.GoesOn := by
  rw [call_opened positive]
  exact ⟨List.forall_mem_nil _, trivial⟩

theorem handedOver_all {moved : Nat} (all : moved = length) :
    handedOver [⟨0, length, moved⟩] = List.range' 0 length := by
  rw [all]
  exact List.append_nil _

theorem right_of_atOnce (positive : 0 < length) (atOnce : AtOnce length returns) : WriteRight (some 0) length returns := by
  have within : 0 + length ≤ length := Nat.le_of_eq (Nat.zero_add _)
  by_cases nothing : Nothing (returns 0)
  · have first := pass_nothing positive nothing
    obtain ⟨moved, result, second, sent⟩ := pass_ends (atOnce.2 nothing) fun _ => rfl
    apply @right_of_settled _ _ _ 2 [⟨0, length, 0⟩, ⟨0, length, moved⟩] result
    · intro count before
      cases count with
      | zero => exact early_nothing positive _
      | succ count =>
          have none : count = 0 := by omega
          subst none
          rw [call_trace positive, call_opened positive, firsts_cons, run_again first]
          exact ⟨List.forall_mem_singleton.mpr List.mem_cons_self, trivial⟩
    · intro count
      rw [call_trace positive, call_opened positive, firsts_cons, firsts_cons, run_again first, run_done second]
      exact ⟨rfl, rfl⟩
    · exact List.forall_mem_cons.mpr ⟨within, List.forall_mem_singleton.mpr within⟩
    · exact fun success => handedOver_all (sent success)
  · obtain ⟨moved, result, first, sent⟩ := pass_ends atOnce.1 fun some => absurd some nothing
    apply @right_of_settled _ _ _ 1 [⟨0, length, moved⟩] result
    · intro count before
      rw [Nat.lt_one_iff.mp before]
      exact early_nothing positive _
    · intro count
      rw [call_trace positive, call_opened positive, firsts_cons, run_done first]
      exact ⟨outputs_singleton _, rfl⟩
    · exact List.forall_mem_singleton.mpr within
    · exact fun success => handedOver_all (sent success)

/-- A request out of the buffer contradicts the claim at the prefix that makes it. -/
theorem not_right_of_request (positive : 0 < length) (count : Nat)
    (outside : ∃ request ∈ outputs (run (writeBody length) ⟨0, length, false⟩ (firsts returns count)).turns,
      length < request.bytes + request.length) : ¬ WriteRight (some 0) length returns := by
  intro right
  obtain ⟨request, member, beyond⟩ := outside
  rw [← call_trace positive] at member
  have inside := right.inside count request member
  omega

theorem atOnce_of_right (positive : 0 < length) (right : WriteRight (some 0) length returns) : AtOnce length returns := by
  constructor
  · intro part
    exact not_right_of_request positive 2 (part_outside part false (returns 1) []) right
  · intro nothing part
    obtain ⟨request, member, beyond⟩ := part_outside part true (returns 2) []
    apply not_right_of_request positive 3 _ right
    refine ⟨request, ?_, beyond⟩
    rw [firsts_cons, run_again (pass_nothing positive nothing), outputs_cons]
    exact List.mem_append_right _ member

/-- A call that is over before the first pass. -/
theorem right_of_closed {xh : Option Int} {result : BulkWriteResult}
    (closed : ∀ returns, ausb11_bulk_write xh length returns = ⟨[], [], .done result⟩)
    (sent : result = .length → length = 0) : WriteRight xh length returns := by
  apply @right_of_settled _ _ _ 0 [] result
  · intro count before
    contradiction
  · intro count
    rw [closed]
    exact ⟨rfl, rfl⟩
  · exact List.forall_mem_nil _
  · intro success
    rw [sent success]
    rfl

/-- The bytes are sent as they should be exactly where no transfer in front of the last takes a part of them. -/
theorem bulk_write_right_iff (xh : Option Int) (length : Nat) (returns : Nat → TransferReturn) :
    WriteRight xh length returns ↔ (xh = some 0 → AtOnce length returns) := by
  by_cases opened : xh = some 0 ∧ 0 < length
  · rw [opened.1]
    constructor
    · exact fun right _ => atOnce_of_right opened.2 right
    · exact fun atOnce => right_of_atOnce opened.2 (atOnce rfl)
  · have closed : ∃ result, (∀ returns, ausb11_bulk_write xh length returns = ⟨[], [], .done result⟩) ∧
        (result = .length → length = 0) := by
      cases xh with
      | none => exact ⟨.error 0, fun _ => rfl, nofun⟩
      | some ioError =>
          by_cases failed : ioError = 0
          · have empty : length = 0 := by
              by_cases positive : 0 < length
              · exact absurd ⟨congrArg some failed, positive⟩ opened
              · omega
            subst failed empty
            exact ⟨.length, fun _ => rfl, fun _ => rfl⟩
          · exact ⟨.error ioError, fun _ => by simp [ausb11_bulk_write, failed, call], nofun⟩
    obtain ⟨result, closed, sent⟩ := closed
    constructor
    · intro _ healthy
      have empty : length = 0 := by
        by_cases positive : 0 < length
        · exact absurd ⟨healthy, positive⟩ opened
        · omega
      subst empty
      exact ⟨not_part_empty, fun _ => not_part_empty⟩
    · intro _
      exact right_of_closed closed sent

/-- Sixteen bytes of a message of twenty are taken first. -/
def partFirst (_ : Nat) : TransferReturn := .transferred 16 true

/-- The second request passes on the bytes up to the thirty-sixth, and no result comes. -/
theorem bulk_write_not_right :
    (ausb11_bulk_write (some 0) 20 (firsts partFirst 3)).trace = [⟨0, 20, 16⟩, ⟨16, 20, 16⟩, ⟨32, 20, 16⟩] ∧
      ¬ WriteRight (some 0) 20 partFirst := by
  refine ⟨by decide, ?_⟩
  intro right
  have inside := right.inside 2 ⟨16, 20, 16⟩ (by decide)
  contradiction

end Cyberjack.Eca.BulkWrite
