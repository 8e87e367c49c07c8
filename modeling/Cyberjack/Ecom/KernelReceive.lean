import Mathlib.Data.List.GetD
import Cyberjack.Foundation.Buffer
import Cyberjack.Foundation.Loop
import Cyberjack.Foundation.Word
import Cyberjack.Ecom.T1Block

namespace Cyberjack.Ecom

open Cyberjack.Foundation

/-! # Receiving a block from the kernel driver

`cjIoReceiveBlock` of `cjio.c`.  The reader announces the size of a block in a
header of three bytes; the driver delivers the bytes one at a time.
-/

/-- A read of the transport: the bytes it could store, or the negative value
`-(code + 1)` it returned. -/
inductive Read where
  | bytes (data : List UInt8)
  | failed (code : Nat)
deriving Repr, DecidableEq

namespace Read

/-- What a read of at most `count` bytes stores. -/
def stored (read : Read) (count : Nat) : List UInt8 :=
  match read with
  | .bytes data => data.take count
  | .failed _ => []

/-- What a read of at most `count` bytes returns. -/
def ret (read : Read) (count : Nat) : Int :=
  match read with
  | .bytes data => (data.take count).length
  | .failed code => -((code : Int) + 1)

theorem ret_cases (read : Read) (count : Nat) :
    read.ret count = (read.stored count).length ∨ (read.stored count = [] ∧ read.ret count < 0) := by
  cases read with
  | bytes data => exact .inl rfl
  | failed code =>
      refine .inr ⟨rfl, ?_⟩
      simp only [ret]
      omega

theorem length_stored_le (read : Read) (count : Nat) : (read.stored count).length ≤ count := by
  cases read with
  | bytes data =>
      simp only [stored, List.length_take]
      omega
  | failed code => exact Nat.zero_le _

end Read

/-- The size in the header of a block. -/
def announced (bytes : List UInt8) : Nat := (bytes.getD 2 0).toNat * 256 + (bytes.getD 1 0).toNat

/-- The bytes of a complete block behind its header. -/
structure Framed (received body : List UInt8) : Prop where
  header : 3 ≤ received.length
  behind : body = received.drop 3
  complete : body.length = announced received

inductive Delivery (capacity : Nat) where
  | ok (datalen : Int) (data : Buffer UInt8 capacity)
  | error (ret : Exit)
  | fault

/-- Success means a complete block that fits, delivered unchanged. -/
def Faithful {capacity : Nat} (received : List UInt8) : Delivery capacity → Prop
  | .ok datalen data => ∃ body, Framed received body ∧ body.length ≤ capacity ∧
      datalen = body.length ∧ data.cells.take body.length = body
  | .error _ => True
  | .fault => False

/-- Whenever a receive function returns, it returns faithfully. -/
def FaithfulRun {σ : Type} {capacity : Nat} (received : Run σ Read UInt8 (Delivery capacity)) : Prop :=
  ∀ delivery, received.outcome = .done delivery → Faithful (outputs received.turns) delivery

variable {capacity : Nat}

structure KernelState (capacity : Nat) where
  buffer : Buffer UInt8 320
  len : Nat
  data : Buffer UInt8 capacity

/-- Behind the receive loop; `total` is `len` with the last return value added. -/
def kernelFinish (state : KernelState capacity) (total : Int) : Delivery capacity :=
  if total = 0 then .error .timeout
  else if announced state.buffer.cells > 3 + 255 + 1 then .error .protocolError
  else
    match state.data.store? 0 ((state.buffer.cells.drop 3).take (announced state.buffer.cells)) with
    | none => .fault
    | some data => .ok (announced state.buffer.cells) data

/-- One pass of the receive loop.  The size is computed in a `short`. -/
def kernelBody (state : KernelState capacity) (read : Read) :
    List UInt8 × Next (KernelState capacity) (Delivery capacity) :=
  if read.ret 1 = 1 then
    (read.stored 1,
      match state.buffer.store? state.len (read.stored 1) with
      | none => .done .fault
      | some buffer =>
          let state := { state with buffer, len := state.len + 1 }
          if state.len > 3 + 3 + 255 + 1 then .done (.error .protocolError)
          else if state.len ≥ 3 ∧ (state.len : Int) ≥ int16 (announced state.buffer.cells + 3) then
            .done (kernelFinish state (state.len + 1))
          else .again state)
  else (read.stored 1, .done (kernelFinish state (state.len + read.ret 1)))

/-- The arrays hold what the stack and the caller left in them. -/
def cjIoReceiveBlock (buffer : Buffer UInt8 320) (data : Buffer UInt8 capacity) (reads : List Read) :
    Run (KernelState capacity) Read UInt8 (Delivery capacity) :=
  run kernelBody ⟨buffer, 0, data⟩ reads

theorem announced_append {front : List UInt8} (header : 3 ≤ front.length) (back : List UInt8) :
    announced (front ++ back) = announced front := by
  unfold announced
  rw [List.getD_append _ _ _ _ (by omega), List.getD_append _ _ _ _ (by omega)]

theorem announced_of_take {size count : Nat} {buffer : Buffer UInt8 size} {known : List UInt8}
    (begins : buffer.cells.take count = known) (header : 3 ≤ known.length) :
    announced buffer.cells = announced known := by
  unfold announced
  rw [Buffer.getD_of_take 0 begins (by omega), Buffer.getD_of_take 0 begins (by omega)]

theorem stored_of_ret {read : Read} (single : read.ret 1 = 1) : ∃ byte, read.stored 1 = [byte] := by
  cases read with
  | bytes data =>
      cases data with
      | nil => simp [Read.ret] at single
      | cons byte rest => exact ⟨byte, by simp [Read.stored]⟩
  | failed code =>
      simp only [Read.ret] at single
      omega

theorem stored_of_not_ret {read : Read} (none : read.ret 1 ≠ 1) : read.stored 1 = [] := by
  cases read with
  | bytes data =>
      cases data with
      | nil => rfl
      | cons byte rest => simp [Read.ret] at none
  | failed code => rfl

/-- The copy into the caller's array, where the announced size is small enough to be tried. -/
theorem kernelFinish_copies (state : KernelState capacity) {total : Int} (counted : total ≠ 0)
    (small : announced state.buffer.cells ≤ 259) (fits : announced state.buffer.cells ≤ capacity) :
    ∃ data : Buffer UInt8 capacity,
      kernelFinish state total = .ok (announced state.buffer.cells) data ∧
      data.cells.take (announced state.buffer.cells) =
        (state.buffer.cells.drop 3).take (announced state.buffer.cells) := by
  have size := state.buffer.length_cells
  have length : ((state.buffer.cells.drop 3).take (announced state.buffer.cells)).length =
      announced state.buffer.cells := by
    simp only [List.length_take, List.length_drop]
    omega
  have room : 0 + ((state.buffer.cells.drop 3).take (announced state.buffer.cells)).length ≤
      capacity := by omega
  refine ⟨state.data.store 0 _ room, ?_, ?_⟩
  · unfold kernelFinish
    rw [if_neg counted, if_neg (by omega)]
    have copied := Buffer.store?_of_room state.data room
    rw [Int.ofNat_zero] at copied
    rw [copied]
  · have copied := Buffer.take_store state.data room
    rw [length] at copied
    simpa using copied

theorem kernelFinish_overruns (state : KernelState capacity) {total : Int} (counted : total ≠ 0)
    (small : announced state.buffer.cells ≤ 259) (excess : capacity < announced state.buffer.cells) :
    kernelFinish state total = .fault := by
  have size := state.buffer.length_cells
  have outside : state.data.store? 0
      ((state.buffer.cells.drop 3).take (announced state.buffer.cells)) = none := by
    rw [Buffer.store?_eq_none]
    simp only [List.length_take, List.length_drop]
    omega
  unfold kernelFinish
  rw [if_neg counted, if_neg (by omega), outside]

/-- The receive loop has the bytes read so far and waits for more. -/
structure KernelHolds (received : List UInt8) (state : KernelState capacity) : Prop where
  counted : state.len = received.length
  content : state.buffer.cells.take state.len = received
  small : state.len ≤ 262
  waiting : 3 ≤ state.len → (state.len : Int) < int16 (announced state.buffer.cells + 3)

theorem KernelHolds.incomplete {received : List UInt8} {state : KernelState capacity}
    (holds : KernelHolds received state) (small : announced state.buffer.cells ≤ 259)
    (body : List UInt8) : ¬ Framed received body := by
  rintro ⟨header, rfl, complete⟩
  have size := announced_of_take holds.content header
  have waiting := holds.waiting (by rw [holds.counted]; exact header)
  rw [int16_of_range (by omega) (by omega), holds.counted, size, ← complete, List.length_drop] at waiting
  omega

/-- The condition on a read: a byte that completes a block completes one that
fits, and a read that ends the loop early does not leave a size that is taken
for a block. -/
def KernelComplete (state : KernelState capacity) (read : Read) : Prop :=
  if read.ret 1 = 1 then
    ∀ buffer, state.buffer.store? state.len (read.stored 1) = some buffer →
      state.len + 1 = announced buffer.cells + 3 → announced buffer.cells ≤ 259 →
      announced buffer.cells ≤ capacity
  else state.len + read.ret 1 = 0 ∨ 259 < announced state.buffer.cells

abbrev KernelTurns (capacity : Nat) := List (Turn (KernelState capacity) Read UInt8)

structure KernelReceiving (past : KernelTurns capacity) (state : KernelState capacity) : Prop where
  meets : Meets KernelComplete past
  holds : KernelHolds (outputs past) state

/-- What is known where the function has returned. -/
def KernelReceived (past : KernelTurns capacity) (delivery : Delivery capacity) : Prop :=
  Faithful (outputs past) delivery ↔ Meets KernelComplete past

theorem KernelHolds.interrupted {received : List UInt8} {state : KernelState capacity} {total : Int}
    (holds : KernelHolds received state) :
    Faithful received (kernelFinish state total) ↔
      total = 0 ∨ 259 < announced state.buffer.cells := by
  by_cases nothing : total = 0
  · simp [kernelFinish, nothing, Faithful]
  · by_cases large : 259 < announced state.buffer.cells
    · simp [kernelFinish, nothing, large, Faithful]
    · refine iff_of_false ?_ (by omega)
      by_cases fits : announced state.buffer.cells ≤ capacity
      · obtain ⟨data, finished, _⟩ := kernelFinish_copies state nothing (by omega) fits
        rw [finished]
        rintro ⟨body, framed, _⟩
        exact holds.incomplete (by omega) body framed
      · rw [kernelFinish_overruns state nothing (by omega) (by omega)]
        exact id

section Byte

variable {received : List UInt8} {state : KernelState capacity} {byte : UInt8}
  {buffer : Buffer UInt8 320}

/-- The loop looks after every byte, so it never reads past the end of a block. -/
theorem KernelHolds.exact (holds : KernelHolds received state)
    (content : buffer.cells.take (state.len + 1) = received ++ [byte])
    (small : announced buffer.cells ≤ 259) (enough : announced buffer.cells + 3 ≤ state.len + 1) :
    state.len + 1 = announced buffer.cells + 3 := by
  by_cases header : 3 ≤ state.len
  · have counted := holds.counted
    have before := announced_of_take holds.content (by omega)
    have after := announced_of_take content (by
      simp only [List.length_append, List.length_singleton]
      omega)
    rw [announced_append (by omega), ← before] at after
    have waiting := holds.waiting header
    rw [int16_of_range (by omega) (by omega)] at waiting
    omega
  · omega

/-- A block that is complete and fits is delivered unchanged. -/
theorem KernelHolds.delivers (holds : KernelHolds received state)
    (content : buffer.cells.take (state.len + 1) = received ++ [byte])
    (complete : state.len + 1 = announced buffer.cells + 3)
    (fits : announced buffer.cells ≤ capacity) {data : Buffer UInt8 capacity}
    (copied : data.cells.take (announced buffer.cells) =
      (buffer.cells.drop 3).take (announced buffer.cells)) :
    Faithful (received ++ [byte]) (.ok (announced buffer.cells) data) := by
  have counted := holds.counted
  have header : 3 ≤ (received ++ [byte]).length := by
    simp only [List.length_append, List.length_singleton]
    omega
  have size := announced_of_take content header
  have body : (buffer.cells.drop 3).take (announced buffer.cells) = (received ++ [byte]).drop 3 := by
    rw [← content, List.drop_take]
    congr 1
    omega
  have length : ((received ++ [byte]).drop 3).length = announced buffer.cells := by
    simp only [List.length_drop, List.length_append, List.length_singleton]
    omega
  refine ⟨(received ++ [byte]).drop 3, ⟨header, rfl, by rw [length, size]⟩, by omega, by rw [length], ?_⟩
  rw [length, copied, body]

theorem kernelBody_byte {read : Read} (holds : KernelHolds received state)
    (single : read.ret 1 = 1) (stored : read.stored 1 = [byte]) :
    ∃ buffer : Buffer UInt8 320, state.buffer.store? state.len (read.stored 1) = some buffer ∧
      buffer.cells.take (state.len + 1) = received ++ [byte] ∧
      kernelBody state read = ([byte],
        if state.len + 1 > 3 + 3 + 255 + 1 then .done (.error .protocolError)
        else if state.len + 1 ≥ 3 ∧
            ((state.len + 1 : Nat) : Int) ≥ int16 (announced buffer.cells + 3) then
          .done (kernelFinish ⟨buffer, state.len + 1, state.data⟩ ((state.len + 1 : Nat) + 1))
        else .again ⟨buffer, state.len + 1, state.data⟩) := by
  have small := holds.small
  have room : state.len + [byte].length ≤ 320 := by
    simp only [List.length_singleton]
    omega
  have copied := Buffer.store?_of_room state.buffer room
  have content := Buffer.take_store state.buffer room
  refine ⟨state.buffer.store state.len [byte] room, by rw [stored, copied], ?_, ?_⟩
  · rwa [holds.content] at content
  · unfold kernelBody
    rw [if_pos single, stored, copied]

theorem KernelHolds.next {read : Read} (holds : KernelHolds received state)
    (single : read.ret 1 = 1) (stored : read.stored 1 = [byte]) :
    (kernelBody state read).2.Satisfies
      (fun next => KernelComplete state read ∧ KernelHolds (received ++ [byte]) next)
      (fun delivery => Faithful (received ++ [byte]) delivery ↔ KernelComplete state read) := by
  obtain ⟨buffer, filled, content, equation⟩ := kernelBody_byte holds single stored
  have condition : KernelComplete state read ↔ (state.len + 1 = announced buffer.cells + 3 →
      announced buffer.cells ≤ 259 → announced buffer.cells ≤ capacity) := by
    rw [KernelComplete, if_pos single, filled]
    simp
  rw [equation, condition]
  split
  · exact iff_of_true trivial (by omega)
  · rename_i short
    split
    · rename_i enough
      by_cases small : announced buffer.cells ≤ 259
      · rw [int16_of_range (by omega) (by omega)] at enough
        have complete := holds.exact content small (by omega)
        have counted : ((state.len + 1 : Nat) : Int) + 1 ≠ 0 := by omega
        by_cases fits : announced buffer.cells ≤ capacity
        · obtain ⟨data, finished, copied⟩ := kernelFinish_copies
            ⟨buffer, state.len + 1, state.data⟩ counted small fits
          rw [finished]
          exact iff_of_true (holds.delivers content complete fits copied) (fun _ _ => fits)
        · rw [kernelFinish_overruns ⟨buffer, state.len + 1, state.data⟩ counted small
            (Nat.lt_of_not_le fits)]
          exact iff_of_false id (fun room => fits (room complete small))
      · have refused : kernelFinish ⟨buffer, state.len + 1, state.data⟩
            ((state.len + 1 : Nat) + 1) = .error .protocolError := by
          unfold kernelFinish
          rw [if_neg (by omega), if_pos (Nat.lt_of_not_le small)]
        rw [refused]
        exact iff_of_true trivial (fun _ tiny => absurd tiny small)
    · rename_i wait
      have waiting : 3 ≤ state.len + 1 →
          ((state.len + 1 : Nat) : Int) < int16 (announced buffer.cells + 3) := by omega
      refine ⟨fun complete small => ?_, ?_, content, Nat.not_lt.mp short, waiting⟩
      · have below := waiting (by omega)
        rw [int16_of_range (by omega) (by omega)] at below
        omega
      · rw [List.length_append, List.length_singleton, holds.counted]

end Byte

theorem kernelBody_receiving (past : KernelTurns capacity) (state : KernelState capacity)
    (read : Read) (receiving : KernelReceiving past state) :
    (kernelBody state read).2.Satisfies
      (KernelReceiving (past ++ [⟨state, read, (kernelBody state read).1⟩]))
      (KernelReceived (past ++ [⟨state, read, (kernelBody state read).1⟩])) := by
  obtain ⟨meets, holds⟩ := receiving
  by_cases single : read.ret 1 = 1
  · obtain ⟨byte, stored⟩ := stored_of_ret single
    obtain ⟨_, _, _, equation⟩ := kernelBody_byte holds single stored
    have output : (kernelBody state read).1 = [byte] := by rw [equation]
    rw [output]
    refine (holds.next single stored).imp ?_ ?_
    · rintro next ⟨complete, holds⟩
      exact ⟨by simpa using ⟨meets, complete⟩, by simpa using holds⟩
    · intro delivery faithful
      rw [KernelReceived, outputs_append, outputs_singleton, faithful, meets_append, meets_cons]
      simp [meets]
  · have stored := stored_of_not_ret single
    have step : kernelBody state read =
        ([], .done (kernelFinish state (state.len + read.ret 1))) := by
      unfold kernelBody
      rw [if_neg single, stored]
    rw [step]
    simp only [satisfies_done, KernelReceived, outputs_append, outputs_singleton, List.append_nil,
      meets_append, meets_cons, meets_nil, and_true]
    rw [holds.interrupted, KernelComplete, if_neg single]
    exact (and_iff_right meets).symm

theorem cjIoReceiveBlock_faithful_iff (buffer : Buffer UInt8 320) (data : Buffer UInt8 capacity)
    (reads : List Read) :
    FaithfulRun (cjIoReceiveBlock buffer data reads) ↔
      Meets KernelComplete (cjIoReceiveBlock buffer data reads).turns := by
  have start : KernelReceiving [] (⟨buffer, 0, data⟩ : KernelState capacity) :=
    ⟨meets_nil, rfl, by simp, Nat.zero_le _, by simp⟩
  have finished := run_invariant kernelBody_receiving [] start reads
  rw [List.nil_append] at finished
  unfold FaithfulRun cjIoReceiveBlock
  cases ended : (run kernelBody ⟨buffer, 0, data⟩ reads).outcome with
  | again state =>
      rw [ended] at finished
      exact iff_of_true (fun delivery done => by cases done) finished.meets
  | done delivery =>
      rw [ended, satisfies_done, KernelReceived] at finished
      rw [← finished]
      exact ⟨fun every => every delivery rfl, fun faithful delivery done => by cases done; exact faithful⟩

end Cyberjack.Ecom
