import Cyberjack.Ecom.KernelReceive

namespace Cyberjack.Ecom

open Cyberjack.Foundation

/-! # Receiving a block through libusb

`cjIoReceiveBlock_libusb` of `cjio_user.c` reads packets: first until the
header is there, then until the announced size is reached.
-/

variable {capacity : Nat}

inductive UsbState (capacity : Nat) where
  | header (ubuf : Buffer UInt8 64) (len : Int) (data : Buffer UInt8 capacity)
  | body (ubuf : Buffer UInt8 64) (len : Int) (blockSize : Nat) (data : Buffer UInt8 capacity)

/-- `min(64, sizeof(ubuf)-len)`, where the difference is unsigned. -/
def headerSize (len : Int) : Nat := if len < 0 then 64 else (64 - len).toNat

/-- `min(64, blockSize-len)` -/
def bodySize (blockSize : Nat) (len : Int) : Nat := (min 64 ((blockSize : Int) - len)).toNat

def usbFinish (len : Int) (data : Buffer UInt8 capacity) : Delivery capacity :=
  if len > capacity then .error .badParam else .ok len data

def usbLoop (ubuf : Buffer UInt8 64) (len : Int) (blockSize : Nat) (data : Buffer UInt8 capacity) :
    Next (UsbState capacity) (Delivery capacity) :=
  if len < blockSize then .again (.body ubuf len blockSize data) else .done (usbFinish len data)

/-- The header is complete; `len` counts the bytes behind it. -/
def usbHeaderDone (ubuf : Buffer UInt8 64) (len : Int) (data : Buffer UInt8 capacity) :
    Next (UsbState capacity) (Delivery capacity) :=
  if len > 0 ∧ len ≤ capacity then
    match data.store? 0 ((ubuf.cells.drop 3).take len.toNat) with
    | none => .done .fault
    | some data => usbLoop ubuf len (announced ubuf.cells) data
  else usbLoop ubuf len (announced ubuf.cells) data

/-- A negative return value is added like a length.  In the body it becomes a
huge count for `memmove`. -/
def usbBody (state : UsbState capacity) (read : Read) :
    List UInt8 × Next (UsbState capacity) (Delivery capacity) :=
  match state with
  | .header ubuf len data =>
      let stored := read.stored (headerSize len)
      if read.ret (headerSize len) = 0 then ([], .done (.error .protocolError))
      else
        match if stored = [] then some ubuf else ubuf.store? len stored with
        | none => (stored, .done .fault)
        | some ubuf =>
            (stored,
              if len + read.ret (headerSize len) < 3 then
                .again (.header ubuf (len + read.ret (headerSize len)) data)
              else usbHeaderDone ubuf (len + read.ret (headerSize len) - 3) data)
  | .body ubuf len blockSize data =>
      let ret := read.ret (bodySize blockSize len)
      let stored := read.stored (bodySize blockSize len)
      if ret = 0 then ([], .done (usbFinish len data))
      else
        match ubuf.store? 0 stored with
        | none => (stored, .done .fault)
        | some ubuf =>
            if len + ret > capacity then (stored, usbLoop ubuf (len + ret) blockSize data)
            else if ret < 0 then (stored, .done .fault)
            else
              match data.store? len (ubuf.cells.take ret.toNat) with
              | none => (stored, .done .fault)
              | some data => (stored, usbLoop ubuf (len + ret) blockSize data)

def cjIoReceiveBlock_libusb (ubuf : Buffer UInt8 64) (data : Buffer UInt8 capacity)
    (reads : List Read) : Run (UsbState capacity) Read UInt8 (Delivery capacity) :=
  run usbBody (.header ubuf 0 data) reads

/-- What the driver holds of the bytes read so far.  As long as no read has
failed, the length counts them. -/
inductive UsbHolds (received : List UInt8) : UsbState capacity → Prop where
  | header {ubuf : Buffer UInt8 64} {len : Int} {data : Buffer UInt8 capacity}
      (short : len < 3) (inside : len ≤ received.length)
      (content : len = received.length → ubuf.cells.take len.toNat = received) :
      UsbHolds received (.header ubuf len data)
  | body {ubuf : Buffer UInt8 64} {len : Int} {blockSize : Nat} {data : Buffer UInt8 capacity}
      (start : 0 ≤ len) (short : len < blockSize) (inside : len + 3 ≤ received.length)
      (content : len + 3 = received.length → blockSize = announced received ∧
        (len ≤ capacity → data.cells.take len.toNat = received.drop 3)) :
      UsbHolds received (.body ubuf len blockSize data)

/-- The condition on a read.  Bytes arrive only while the length is not
negative; when the announced size has arrived and fits, every byte read has been
counted and none is left over; a body read without bytes comes only after the
block has turned out to be too large. -/
def UsbComplete (received : List UInt8) (state : UsbState capacity) (read : Read) : Prop :=
  match state with
  | .header ubuf len _ =>
      let stored := read.stored (headerSize len)
      stored ≠ [] → 0 ≤ len ∧ ∀ filled, ubuf.store? len stored = some filled →
        3 ≤ len + stored.length → announced filled.cells ≤ len + stored.length - 3 →
        len + stored.length - 3 ≤ capacity →
          len + stored.length - 3 = announced filled.cells ∧ len = received.length
  | .body _ len blockSize _ =>
      let ret := read.ret (bodySize blockSize len)
      if 0 < ret then
        blockSize ≤ len + ret → len + ret ≤ capacity → len + 3 = received.length
      else capacity < len + ret

section Loop

variable {received : List UInt8} {len : Int} {blockSize : Nat} {data : Buffer UInt8 capacity}

theorem usbFinish_faithful (start : 0 ≤ len)
    (content : len + 3 = received.length → blockSize = announced received ∧
      (len ≤ capacity → data.cells.take len.toNat = received.drop 3)) :
    Faithful received (usbFinish len data) ↔
      (len ≤ capacity → len = blockSize ∧ len + 3 = received.length) := by
  unfold usbFinish
  split
  · exact iff_of_true trivial (by omega)
  · rename_i fits
    constructor
    · rintro ⟨body, ⟨header, rfl, complete⟩, _, datalen, _⟩ _
      rw [List.length_drop] at datalen complete
      have counted : len + 3 = received.length := by omega
      refine ⟨?_, counted⟩
      rw [(content counted).1, ← complete]
      omega
    · intro room
      obtain ⟨complete, counted⟩ := room (by omega)
      obtain ⟨size, copied⟩ := content counted
      have length : (received.drop 3).length = len.toNat := by
        rw [List.length_drop]
        omega
      refine ⟨received.drop 3, ⟨by omega, rfl, by omega⟩, by omega, by omega, ?_⟩
      rw [length]
      exact copied (by omega)

theorem usbLoop_holds (ubuf : Buffer UInt8 64) (start : 0 ≤ len) (inside : len + 3 ≤ received.length)
    (content : len + 3 = received.length → blockSize = announced received ∧
      (len ≤ capacity → data.cells.take len.toNat = received.drop 3)) :
    (usbLoop ubuf len blockSize data).Satisfies
      (fun next => len < blockSize ∧ UsbHolds received next)
      (fun delivery => blockSize ≤ len ∧ (Faithful received delivery ↔
        (len ≤ capacity → len = blockSize ∧ len + 3 = received.length))) := by
  unfold usbLoop
  split
  · rename_i short
    exact ⟨short, .body start short inside content⟩
  · exact ⟨by omega, usbFinish_faithful start content⟩

end Loop

section Step

variable {received : List UInt8} {ubuf : Buffer UInt8 64} {len : Int} {blockSize : Nat}
  {data : Buffer UInt8 capacity} {read : Read}

/-- The outcome of a pass, over the bytes it has read. -/
def UsbStep (past received : List UInt8) (state : UsbState capacity) (read : Read)
    (next : Next (UsbState capacity) (Delivery capacity)) : Prop :=
  next.Satisfies (fun next => UsbComplete past state read ∧ UsbHolds received next)
    (fun delivery => Faithful received delivery ↔ UsbComplete past state read)

/-- The first bytes of the body are copied from behind the header. -/
theorem usbHeaderDone_copies (received : List UInt8) (filled : Buffer UInt8 64) (count : Nat)
    (data : Buffer UInt8 capacity) :
    ∃ copied : Buffer UInt8 capacity,
      usbHeaderDone filled count data = usbLoop filled count (announced filled.cells) copied ∧
      (filled.cells.take (count + 3) = received → received.length = count + 3 → count ≤ capacity →
        copied.cells.take count = received.drop 3) := by
  have short : ((filled.cells.drop 3).take count).length ≤ count := List.length_take_le _ _
  have body (content : filled.cells.take (count + 3) = received) :
      (filled.cells.drop 3).take count = received.drop 3 := by
    rw [← content, List.drop_take]
    rfl
  unfold usbHeaderDone
  split
  · have room : 0 + ((filled.cells.drop 3).take count).length ≤ capacity := by omega
    refine ⟨data.store 0 _ room, ?_, fun content counted _ => ?_⟩
    · have copied := Buffer.store?_of_room data room
      rw [Int.ofNat_zero] at copied
      rw [Int.toNat_natCast, copied]
    · have copied := Buffer.take_store data room
      have length : ((filled.cells.drop 3).take count).length = count := by
        rw [body content, List.length_drop]
        omega
      rw [length] at copied
      simpa [body content] using copied
  · refine ⟨data, rfl, fun content _ fits => ?_⟩
    have empty : count = 0 := by omega
    subst empty
    rw [← body content]
    rfl

theorem bytes_ret {count : Nat} (arrived : read.stored count ≠ []) :
    read.ret count = (read.stored count).length ∧ 0 < (read.stored count).length := by
  rcases read.ret_cases count with same | ⟨empty, _⟩
  · exact ⟨same, List.length_pos_iff.mpr arrived⟩
  · exact absurd empty arrived

theorem usbBody_header {known : Nat} (holds : UsbHolds received (.header ubuf known data))
    (arrived : read.stored (headerSize known) ≠ []) :
    UsbStep received (received ++ read.stored (headerSize known)) (.header ubuf known data) read
      (usbBody (.header ubuf known data) read).2 := by
  obtain ⟨short, inside, content⟩ := holds
  obtain ⟨ret, some'⟩ := bytes_ret arrived
  have limit := read.length_stored_le (headerSize known)
  generalize stored_eq : read.stored (headerSize known) = stored at *
  have size : headerSize known = 64 - known := by
    unfold headerSize
    rw [if_neg (by omega)]
    omega
  have room : known + stored.length ≤ 64 := by omega
  have filled := Buffer.store?_of_room ubuf room
  have grown := Buffer.take_store ubuf room
  generalize ubuf.store known stored room = buffer at filled grown
  have received' (counted : (known : Int) = received.length) :
      buffer.cells.take (known + stored.length) = received ++ stored := by
    have before := content counted
    rw [Int.toNat_natCast] at before
    rw [grown, before]
  have condition : UsbComplete received (.header ubuf known data) read ↔
      (3 ≤ known + stored.length → announced buffer.cells ≤ known + stored.length - 3 →
        known + stored.length - 3 ≤ capacity →
        known + stored.length - 3 = announced buffer.cells ∧ known = received.length) := by
    simp only [UsbComplete, stored_eq, filled, Option.some.injEq, forall_eq']
    constructor
    · intro complete header enough fits
      obtain ⟨_, complete⟩ := complete arrived
      have result := complete (by omega) (by omega) (by omega)
      omega
    · intro complete _
      refine ⟨by omega, fun header enough fits => ?_⟩
      have result := complete (by omega) (by omega) (by omega)
      omega
  have step : (usbBody (.header ubuf known data) read).2 =
      if (known : Int) + stored.length < 3 then .again (.header buffer (known + stored.length) data)
      else usbHeaderDone buffer (known + stored.length - 3) data := by
    simp only [usbBody, stored_eq, ret]
    rw [if_neg (by omega), if_neg arrived, filled]
  rw [UsbStep, step, condition]
  split
  · rename_i still
    refine ⟨by omega, .header still ?_ ?_⟩
    · rw [List.length_append]
      omega
    · intro counted
      rw [List.length_append] at counted
      have same := received' (by omega)
      rwa [← Int.natCast_add, Int.toNat_natCast]
  · rename_i done
    obtain ⟨count, count_eq⟩ : ∃ count : Nat, (known : Int) + stored.length - 3 = count :=
      ⟨known + stored.length - 3, by omega⟩
    obtain ⟨copied, equation, body⟩ := usbHeaderDone_copies (received ++ stored) buffer count data
    rw [count_eq, equation]
    have position : known + stored.length = count + 3 := by omega
    have lengths : (received ++ stored).length = received.length + stored.length :=
      List.length_append
    have inside : (count : Int) + 3 ≤ (received ++ stored).length := by omega
    have content : (count : Int) + 3 = (received ++ stored).length →
        announced buffer.cells = announced (received ++ stored) ∧ ((count : Int) ≤ capacity →
          copied.cells.take (count : Int).toNat = (received ++ stored).drop 3) := by
      intro counted
      have same := received' (by omega)
      rw [position] at same
      refine ⟨announced_of_take same (by omega), fun fits => ?_⟩
      rw [Int.toNat_natCast]
      exact body same (by omega) (by omega)
    have loop := usbLoop_holds buffer (by omega) inside content
    refine loop.imp ?_ ?_
    · rintro next ⟨waiting, holds⟩
      exact ⟨by omega, holds⟩
    · rintro delivery ⟨enough, faithful⟩
      rw [faithful]
      omega

theorem usbBody_header_empty (holds : UsbHolds received (.header ubuf len data))
    (empty : read.stored (headerSize len) = []) :
    UsbStep received received (.header ubuf len data) read (usbBody (.header ubuf len data) read).2 := by
  obtain ⟨short, inside, content⟩ := holds
  have condition : UsbComplete received (.header ubuf len data) read := fun arrived =>
    absurd empty arrived
  rcases read.ret_cases (headerSize len) with ret | ⟨_, ret⟩
  · have step : (usbBody (.header ubuf len data) read).2 = .done (.error .protocolError) := by
      simp only [usbBody]
      rw [if_pos (by simp [ret, empty])]
    rw [UsbStep, step]
    exact iff_of_true trivial condition
  · have step : (usbBody (.header ubuf len data) read).2 =
        .again (.header ubuf (len + read.ret (headerSize len)) data) := by
      simp only [usbBody, if_pos empty]
      rw [if_neg (by omega), if_pos (by omega)]
    rw [UsbStep, step]
    exact ⟨condition, .header (by omega) (by omega) (by omega)⟩

/-- Bytes that arrive in front of the array are a write outside of it. -/
theorem usbBody_header_fault (negative : len < 0) (arrived : read.stored (headerSize len) ≠ []) :
    (usbBody (.header ubuf len data) read).2 = .done .fault ∧
      ¬ UsbComplete received (.header ubuf len data) read := by
  obtain ⟨ret, some'⟩ := bytes_ret arrived
  have outside : ubuf.store? len (read.stored (headerSize len)) = none := by
    rw [Buffer.store?_eq_none]
    omega
  constructor
  · simp only [usbBody]
    rw [if_neg (by omega), if_neg arrived, outside]
  · intro complete
    have start := (complete arrived).1
    omega

theorem UsbHolds.of_body (holds : UsbHolds received (.body ubuf len blockSize data)) :
    0 ≤ len ∧ len < blockSize ∧ len + 3 ≤ received.length ∧
      (len + 3 = received.length → blockSize = announced received ∧
        (len ≤ capacity → data.cells.take len.toNat = received.drop 3)) := by
  cases holds with
  | body start short inside content => exact ⟨start, short, inside, content⟩

theorem usbBody_body (holds : UsbHolds received (.body ubuf len blockSize data))
    (arrived : read.stored (bodySize blockSize len) ≠ []) :
    UsbStep received (received ++ read.stored (bodySize blockSize len)) (.body ubuf len blockSize data)
      read (usbBody (.body ubuf len blockSize data) read).2 := by
  obtain ⟨start, short, inside, content⟩ := holds.of_body
  obtain ⟨ret, some'⟩ := bytes_ret arrived
  have limit := read.length_stored_le (bodySize blockSize len)
  obtain ⟨count, rfl⟩ : ∃ count : Nat, len = count := ⟨len.toNat, by omega⟩
  have size : bodySize blockSize count ≤ 64 ∧ bodySize blockSize count ≤ blockSize - count := by
    unfold bodySize
    omega
  have condition : UsbComplete received (.body ubuf count blockSize data) read ↔
      (blockSize ≤ (count : Int) + (read.stored (bodySize blockSize count)).length →
        (count : Int) + (read.stored (bodySize blockSize count)).length ≤ capacity →
        (count : Int) + 3 = received.length) := by
    simp only [UsbComplete, ret]
    rw [if_pos (by omega)]
  generalize stored_eq : read.stored (bodySize blockSize count) = stored at *
  have lengths : (received ++ stored).length = received.length + stored.length := List.length_append
  have room : 0 + stored.length ≤ 64 := by omega
  have filled := Buffer.store?_of_room ubuf room
  have begins := Buffer.take_store ubuf room
  generalize ubuf.store 0 stored room = buffer at filled begins
  rw [Int.ofNat_zero] at filled
  rw [Nat.zero_add, List.take_zero, List.nil_append] at begins
  obtain ⟨copied, step, body⟩ : ∃ copied : Buffer UInt8 capacity,
      (usbBody (.body ubuf count blockSize data) read).2 =
        usbLoop buffer (count + stored.length) blockSize copied ∧
      (count + stored.length ≤ capacity → copied.cells.take (count + stored.length) =
        data.cells.take count ++ stored) := by
    simp only [usbBody, stored_eq, ret, filled]
    rw [if_neg (by omega)]
    by_cases fits : count + stored.length ≤ capacity
    · refine ⟨data.store count stored fits, ?_, fun _ => Buffer.take_store data fits⟩
      rw [if_neg (by omega), if_neg (by omega), Int.toNat_natCast, begins,
        Buffer.store?_of_room data fits]
    · refine ⟨data, ?_, fun room => absurd room fits⟩
      rw [if_pos (by omega)]
  have after : (count : Int) + stored.length + 3 = (received ++ stored).length →
      blockSize = announced (received ++ stored) ∧ ((count : Int) + stored.length ≤ capacity →
        copied.cells.take ((count : Int) + stored.length).toNat = (received ++ stored).drop 3) := by
    intro counted
    obtain ⟨announce, before⟩ := content (by omega)
    refine ⟨by rw [announced_append (by omega)]; exact announce, fun fits => ?_⟩
    have delivered := before (by omega)
    rw [Int.toNat_natCast] at delivered
    rw [List.drop_append_of_le_length (by omega), ← Int.natCast_add, Int.toNat_natCast,
      body (by omega), delivered]
  have loop := usbLoop_holds buffer (by omega) (by omega) after
  rw [UsbStep, step, condition]
  refine loop.imp ?_ ?_
  · rintro next ⟨waiting, holds⟩
    exact ⟨by omega, holds⟩
  · rintro delivery ⟨enough, faithful⟩
    rw [faithful]
    omega

theorem usbBody_body_empty (holds : UsbHolds received (.body ubuf len blockSize data))
    (empty : read.stored (bodySize blockSize len) = []) :
    UsbStep received received (.body ubuf len blockSize data) read
      (usbBody (.body ubuf len blockSize data) read).2 := by
  obtain ⟨start, short, inside, content⟩ := holds.of_body
  have nothing : read.ret (bodySize blockSize len) ≤ 0 := by
    rcases read.ret_cases (bodySize blockSize len) with ret | ⟨_, ret⟩
    · simp [ret, empty]
    · omega
  have condition : UsbComplete received (.body ubuf len blockSize data) read ↔
      capacity < len + read.ret (bodySize blockSize len) := by
    simp only [UsbComplete]
    rw [if_neg (by omega)]
  rw [UsbStep, condition]
  by_cases zero : read.ret (bodySize blockSize len) = 0
  · have step : (usbBody (.body ubuf len blockSize data) read).2 = .done (usbFinish len data) := by
      simp only [usbBody]
      rw [if_pos zero]
    rw [step, satisfies_done, usbFinish_faithful start content, zero]
    omega
  · have room : 0 + ([] : List UInt8).length ≤ 64 := by simp
    have stored := Buffer.store?_of_room ubuf room
    rw [Int.ofNat_zero, Buffer.store_nil] at stored
    by_cases excess : (capacity : Int) < len + read.ret (bodySize blockSize len)
    · have step : (usbBody (.body ubuf len blockSize data) read).2 =
          .again (.body ubuf (len + read.ret (bodySize blockSize len)) blockSize data) := by
        simp only [usbBody, empty, stored]
        rw [if_neg zero, if_pos excess, usbLoop, if_pos (by omega)]
      rw [step]
      exact ⟨excess, .body (by omega) (by omega) (by omega) (by omega)⟩
    · have step : (usbBody (.body ubuf len blockSize data) read).2 = .done .fault := by
        simp only [usbBody, empty, stored]
        rw [if_neg zero, if_neg (by omega), if_pos (by omega)]
      rw [step]
      exact iff_of_false id excess

theorem usbBody_header_output (ubuf : Buffer UInt8 64) (len : Int) (data : Buffer UInt8 capacity)
    (read : Read) :
    (usbBody (.header ubuf len data) read).1 = read.stored (headerSize len) := by
  simp only [usbBody]
  split
  · rename_i zero
    rcases read.ret_cases (headerSize len) with ret | ⟨empty, _⟩
    · exact (List.length_eq_zero_iff.mp (by omega)).symm
    · exact empty.symm
  · split <;> rfl

theorem usbBody_body_output (ubuf : Buffer UInt8 64) (len : Int) (blockSize : Nat)
    (data : Buffer UInt8 capacity) (read : Read) :
    (usbBody (.body ubuf len blockSize data) read).1 = read.stored (bodySize blockSize len) := by
  simp only [usbBody]
  split
  · rename_i zero
    rcases read.ret_cases (bodySize blockSize len) with ret | ⟨empty, _⟩
    · exact (List.length_eq_zero_iff.mp (by omega)).symm
    · exact empty.symm
  · split
    · rfl
    · split
      · rfl
      · split
        · rfl
        · split <;> rfl

theorem usbBody_step {state : UsbState capacity} (holds : UsbHolds received state) (read : Read) :
    UsbStep received (received ++ (usbBody state read).1) state read (usbBody state read).2 := by
  cases state with
  | header ubuf len data =>
      rw [usbBody_header_output]
      by_cases arrived : read.stored (headerSize len) = []
      · rw [arrived, List.append_nil]
        exact usbBody_header_empty holds arrived
      · by_cases negative : len < 0
        · obtain ⟨fault, incomplete⟩ :
              (usbBody (.header ubuf len data) read).2 = .done .fault ∧
                ¬ UsbComplete received (.header ubuf len data) read :=
            usbBody_header_fault negative arrived
          rw [UsbStep, fault]
          exact iff_of_false id incomplete
        · obtain ⟨known, rfl⟩ : ∃ known : Nat, len = known := ⟨len.toNat, by omega⟩
          exact usbBody_header holds arrived
  | body ubuf len blockSize data =>
      rw [usbBody_body_output]
      by_cases arrived : read.stored (bodySize blockSize len) = []
      · rw [arrived, List.append_nil]
        exact usbBody_body_empty holds arrived
      · exact usbBody_body holds arrived

end Step

abbrev UsbTurns (capacity : Nat) := List (Turn (UsbState capacity) Read UInt8)

/-- The condition on all reads of a call. -/
def UsbMeets (past : UsbTurns capacity) : Prop :=
  MeetsAlong (fun before state read => UsbComplete (outputs before) state read) past

structure UsbReceiving (past : UsbTurns capacity) (state : UsbState capacity) : Prop where
  meets : UsbMeets past
  holds : UsbHolds (outputs past) state

def UsbReceived (past : UsbTurns capacity) (delivery : Delivery capacity) : Prop :=
  Faithful (outputs past) delivery ↔ UsbMeets past

theorem usbBody_receiving (past : UsbTurns capacity) (state : UsbState capacity) (read : Read)
    (receiving : UsbReceiving past state) :
    (usbBody state read).2.Satisfies
      (UsbReceiving (past ++ [⟨state, read, (usbBody state read).1⟩]))
      (UsbReceived (past ++ [⟨state, read, (usbBody state read).1⟩])) := by
  obtain ⟨meets, holds⟩ := receiving
  have grown : UsbMeets (past ++ [⟨state, read, (usbBody state read).1⟩]) ↔
      UsbComplete (outputs past) state read := by
    rw [UsbMeets, meetsAlong_snoc]
    exact and_iff_right meets
  refine (usbBody_step holds read).imp ?_ ?_
  · rintro next ⟨complete, holds⟩
    exact ⟨grown.mpr complete, by simpa using holds⟩
  · intro delivery faithful
    rw [UsbReceived, grown, ← faithful]
    simp

theorem cjIoReceiveBlock_libusb_faithful_iff (ubuf : Buffer UInt8 64)
    (data : Buffer UInt8 capacity) (reads : List Read) :
    FaithfulRun (cjIoReceiveBlock_libusb ubuf data reads) ↔
      UsbMeets (cjIoReceiveBlock_libusb ubuf data reads).turns := by
  have start : UsbReceiving [] (.header ubuf 0 data) :=
    ⟨meetsAlong_nil, .header (by decide) (by simp) (by simp)⟩
  have finished := run_invariant usbBody_receiving [] start reads
  rw [List.nil_append] at finished
  unfold FaithfulRun cjIoReceiveBlock_libusb
  cases ended : (run usbBody (.header ubuf 0 data) reads).outcome with
  | again state =>
      rw [ended] at finished
      exact iff_of_true (fun delivery done => by cases done) finished.meets
  | done delivery =>
      rw [ended, satisfies_done, UsbReceived] at finished
      rw [← finished]
      exact ⟨fun every => every delivery rfl, fun faithful delivery done => by cases done; exact faithful⟩

/-- A block is determined by any stream it begins. -/
theorem framed_unique {stream first second body body' : List UInt8} (one : first <+: stream)
    (other : second <+: stream) (framed : Framed first body) (framed' : Framed second body') :
    body = body' := by
  obtain ⟨rest, rfl⟩ := one
  obtain ⟨rest', same⟩ := other
  obtain ⟨header, behind, complete⟩ := framed
  obtain ⟨header', behind', complete'⟩ := framed'
  have size : announced first = announced second := by
    rw [← announced_append header rest, ← same, announced_append header' rest']
  have length : first.length = second.length := by
    rw [behind, List.length_drop] at complete
    rw [behind', List.length_drop] at complete'
    omega
  rw [behind, behind', (List.append_inj same length.symm).1]

/-- Both receive functions return only complete blocks exactly when their
conditions are met, and then they deliver the same block. -/
theorem receive_faithful_iff (buffer : Buffer UInt8 320) (ubuf : Buffer UInt8 64)
    (data data' : Buffer UInt8 capacity) (reads reads' : List Read) :
    (FaithfulRun (cjIoReceiveBlock buffer data reads) ↔
        Meets KernelComplete (cjIoReceiveBlock buffer data reads).turns) ∧
      (FaithfulRun (cjIoReceiveBlock_libusb ubuf data' reads') ↔
        UsbMeets (cjIoReceiveBlock_libusb ubuf data' reads').turns) ∧
      ∀ stream len len' (copy copy' : Buffer UInt8 capacity),
        Meets KernelComplete (cjIoReceiveBlock buffer data reads).turns →
        UsbMeets (cjIoReceiveBlock_libusb ubuf data' reads').turns →
        outputs (cjIoReceiveBlock buffer data reads).turns <+: stream →
        outputs (cjIoReceiveBlock_libusb ubuf data' reads').turns <+: stream →
        (cjIoReceiveBlock buffer data reads).outcome = .done (.ok len copy) →
        (cjIoReceiveBlock_libusb ubuf data' reads').outcome = .done (.ok len' copy') →
        len = len' ∧ copy.cells.take len.toNat = copy'.cells.take len'.toNat := by
  have kernel := cjIoReceiveBlock_faithful_iff buffer data reads
  have usb := cjIoReceiveBlock_libusb_faithful_iff ubuf data' reads'
  refine ⟨kernel, usb, ?_⟩
  intro stream len len' copy copy' meets meets' one other ended ended'
  obtain ⟨body, framed, _, rfl, copied⟩ := kernel.mpr meets _ ended
  obtain ⟨body', framed', _, rfl, copied'⟩ := usb.mpr meets' _ ended'
  obtain rfl := framed_unique one other framed framed'
  exact ⟨rfl, by rw [Int.toNat_natCast, copied, copied']⟩

set_option maxRecDepth 4000 in
/-- The kernel driver times out after one byte of a block, and libusb after the
header of a block of five bytes: both report success. -/
theorem receive_incomplete :
    ¬ FaithfulRun (cjIoReceiveBlock (.filled 320 0) (.filled 259 0 : Buffer UInt8 259)
        [.bytes [0x00], .bytes []]) ∧
      ¬ FaithfulRun (cjIoReceiveBlock_libusb (.filled 64 0) (.filled 259 0 : Buffer UInt8 259)
        [.bytes [0x00, 0x05, 0x00, 0xE2], .bytes []]) := by
  constructor
  · intro faithful
    obtain ⟨data, ended⟩ : ∃ data, (cjIoReceiveBlock (.filled 320 0)
        (.filled 259 0 : Buffer UInt8 259) [.bytes [0x00], .bytes []]).outcome =
          .done (.ok 0 data) := ⟨_, rfl⟩
    obtain ⟨body, framed, _⟩ := faithful _ ended
    have header := framed.header
    revert header
    decide
  · intro faithful
    obtain ⟨data, ended⟩ : ∃ data, (cjIoReceiveBlock_libusb (.filled 64 0)
        (.filled 259 0 : Buffer UInt8 259)
        [.bytes [0x00, 0x05, 0x00, 0xE2], .bytes []]).outcome = .done (.ok 1 data) := ⟨_, rfl⟩
    obtain ⟨body, ⟨_, rfl, complete⟩, _⟩ := faithful _ ended
    revert complete
    decide

end Cyberjack.Ecom
