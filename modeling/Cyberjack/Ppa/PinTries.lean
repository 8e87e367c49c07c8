import Cyberjack.Ppa.MemoryCard

namespace Cyberjack.Ppa.MemoryCard

open Cyberjack.Foundation Cyberjack.Eca

/-! # The tries of a PIN

The counter of a memory card is read, written and read back as it should be
exactly where the replies of the card bring it.
-/

variable {protokoll : Protokoll} {call : SyncCall} {buffer0 counter value addr : UInt8} {replies : Nat → Reply}
  {request : PinRequest} {behind : List UInt8 → PinDialog} {count number Result : Nat} {Res : Cjpp}

/-! ## Bytes -/

/-- A byte with one bit set. -/
def single (bit : Nat) : UInt8 := UInt8.ofNat (2 ^ bit)

theorem single_succ {bit : Nat} (inside : bit < 8) : single bit <<< 1 = single (bit + 1) := by
  have shifted : ∀ bit < 8, single bit <<< 1 = single (bit + 1) := by decide
  exact shifted bit inside

theorem and_mask_iff {bit : Nat} (inside : bit < 8) :
    addr &&& (single bit ^^^ 0xff) = addr ↔ addr.toNat.testBit bit = false := by
  have masked : ∀ addr : UInt8, ∀ bit < 8,
      (addr &&& (single bit ^^^ 0xff) = addr ↔ addr.toNat.testBit bit = false) := by decide +kernel
  exact masked addr bit inside

theorem cleared {bit : Nat} (inside : bit < 8) (set : addr.toNat.testBit bit = true) :
    (addr &&& (single bit ^^^ 0xff)).toNat + 2 ^ bit = addr.toNat := by
  have less : ∀ addr : UInt8, ∀ bit < 8, addr.toNat.testBit bit = true →
      (addr &&& (single bit ^^^ 0xff)).toNat + 2 ^ bit = addr.toNat := by decide +kernel
  exact less addr bit inside set

theorem eq_zero_of_bits (clear : ∀ bit < 8, addr.toNat.testBit bit = false) : addr = 0 := by
  have zero : ∀ addr : UInt8, (∀ bit < 8, addr.toNat.testBit bit = false) → addr = 0 := by decide +kernel
  exact zero addr clear

/-- The loop finds the lowest set bit from the one on that it begins at. -/
theorem setBit_lowest {passes bit : Nat} (inside : bit + passes = 8) (clear : ∀ lower < bit, addr.toNat.testBit lower = false)
    (some : addr ≠ 0) :
    ∃ lowest < 8, setBit addr passes (single bit) = .some (single lowest) ∧
      addr.toNat.testBit lowest = true ∧ ∀ lower < lowest, addr.toNat.testBit lower = false := by
  induction passes generalizing bit with
  | zero =>
      have all : bit = 8 := inside
      exact absurd (eq_zero_of_bits (all ▸ clear)) some
  | succ passes ih =>
      have within : bit < 8 := by omega
      cases found : addr.toNat.testBit bit with
      | false =>
          have next : ∀ lower < bit + 1, addr.toNat.testBit lower = false := by
            intro lower below
            cases Nat.lt_succ_iff_lt_or_eq.mp below with
            | inl before => exact clear lower before
            | inr here => exact here ▸ found
          rw [setBit, if_pos ((and_mask_iff within).mpr found), single_succ within]
          exact ih (by omega) next
      | true =>
          refine ⟨bit, within, ?_, found, clear⟩
          rw [setBit, if_neg]
          rw [and_mask_iff within, found]
          exact Bool.true_eq_false_eq_False

/-- The search ends, with a bit of the counter unless no try is left. -/
theorem setBit_ends (some : addr ≠ 0) :
    ∃ Offset, setBit addr 8 1 = .some Offset ∧
      (¬ Exhausted protokoll addr → Burns protokoll addr (addr &&& (Offset ^^^ 0xff))) := by
  obtain ⟨lowest, inside, found, set, clear⟩ :=
    @setBit_lowest addr 8 0 rfl (fun _ below => absurd below (Nat.not_lt_zero _)) some
  refine ⟨single lowest, found, fun left => ⟨lowest, ?_, set, cleared inside set⟩⟩
  by_contra beyond
  exact left fun bit below => clear bit (by omega)

theorem Burns.not_exhausted (burns : Burns protokoll counter value) : ¬ Exhausted protokoll counter := by
  obtain ⟨bit, inside, set, _⟩ := burns
  intro exhausted
  rw [exhausted bit inside] at set
  contradiction

theorem exhausted_zero : Exhausted protokoll 0 := fun bit _ => Nat.zero_testBit bit

theorem restored_full : Restored protokoll protokoll.full := by
  cases protokoll with
  | nine => decide
  | ten => decide

theorem setBits_le (byte : UInt8) : setBits byte ≤ 8 := by
  have length := List.length_filter_le (fun bit => byte.toNat.testBit bit) (List.range 8)
  rwa [List.length_range] at length

theorem counterStatus_of_ne (different : addr ≠ protokoll.full) :
    counterStatus protokoll addr Result = 0x63C0 + setBits addr := by
  have counted : ∀ addr : UInt8, countBits 8 addr 0 ||| 0x63c0 = 0x63C0 + setBits addr := by decide +kernel
  rw [counterStatus, if_pos different, counted]

theorem counterStatus_full : counterStatus protokoll protokoll.full Result = Result :=
  if_neg (not_not.mpr rfl)

theorem received_of_some {data : List UInt8} (found : data.head? = some counter) :
    received buffer0 data = counter := by
  rw [received, List.headD_eq_head?_getD, found]
  rfl

theorem received_of_none {data : List UInt8} (missing : data.head? = none) : received buffer0 data = buffer0 := by
  rw [received, List.headD_eq_head?_getD, missing]
  rfl

/-! ## One command -/

theorem tested_taken (taken : transferred (replies count) (protokoll.room request) = .success) :
    (tested protokoll request behind).run (answering replies) count =
      (request :: ((behind (replies count).abData).run (answering replies) (count + 1)).1,
        ((behind (replies count).abData).run (answering replies) (count + 1)).2) := by
  simp only [tested, Dialog.run, answering, taken, if_true]

theorem tested_failed (failed : transferred (replies count) (protokoll.room request) ≠ .success) :
    (tested protokoll request behind).run (answering replies) count =
      ([request, .iccPowerOff], some (.returned (transferred (replies count) (protokoll.room request)))) := by
  simp only [tested, Dialog.run, answering, failed, if_false]

theorem room_burnCounter : protokoll.room (.burnCounter value) = 0 := by cases protokoll <;> rfl

theorem room_comparePin {pin : List UInt8} : protokoll.room (.comparePin pin) = 0 := by cases protokoll <;> rfl

theorem room_restoreCounter : protokoll.room .restoreCounter = 0 := by cases protokoll <;> rfl

theorem room_writePin {pin : List UInt8} : protokoll.room (.writePin pin) = 0 := by cases protokoll <;> rfl

/-- Commands one after the other; the data of the last one are looked at. -/
def chain (protokoll : Protokoll) (requests : List PinRequest) (last : PinRequest)
    (behind : List UInt8 → PinDialog) : PinDialog :=
  requests.foldr (fun request rest => tested protokoll request fun _ => rest) (tested protokoll last behind)

/-- A number of commands, from the reply `count` on, have been taken. -/
def AllTaken (replies : Nat → Reply) (count number : Nat) : Prop := ∀ place < number, Taken (replies (count + place))

theorem allTaken_zero : AllTaken replies count 0 := fun _ below => absurd below (Nat.not_lt_zero _)

theorem allTaken_succ :
    AllTaken replies count (number + 1) ↔ Taken (replies count) ∧ AllTaken replies (count + 1) number := by
  constructor
  · intro all
    refine ⟨all 0 (Nat.succ_pos _), fun place below => ?_⟩
    rw [Nat.add_assoc, Nat.add_comm 1]
    exact all (place + 1) (Nat.succ_lt_succ below)
  · intro all place below
    cases place with
    | zero => exact all.1
    | succ place =>
        have later := all.2 place (Nat.lt_of_succ_lt_succ below)
        rwa [Nat.add_assoc, Nat.add_comm 1] at later

theorem allTaken_three :
    AllTaken replies count 3 ↔
      Taken (replies count) ∧ Taken (replies (count + 1)) ∧ Taken (replies (count + 1 + 1)) := by
  rw [allTaken_succ, allTaken_succ, allTaken_succ, and_iff_left allTaken_zero]

/-- The commands are sent up to the first one that fails. -/
theorem chain_run {requests : List PinRequest} {last : PinRequest}
    (quiet : ∀ request ∈ requests, protokoll.room request = 0) :
    (∃ number Res, number ≤ requests.length ∧ AllTaken replies count number ∧
      (number < requests.length → ¬ Taken (replies (count + number))) ∧
      (chain protokoll requests last behind).run (answering replies) count =
        ((requests ++ [last]).take (number + 1) ++ [.iccPowerOff], some (.returned Res)) ∧
      ¬ (AllTaken replies count requests.length ∧
        transferred (replies (count + requests.length)) (protokoll.room last) = .success)) ∨
    (AllTaken replies count requests.length ∧
      transferred (replies (count + requests.length)) (protokoll.room last) = .success ∧
      (chain protokoll requests last behind).run (answering replies) count =
        (requests ++ last :: ((behind (replies (count + requests.length)).abData).run (answering replies)
            (count + requests.length + 1)).1,
          ((behind (replies (count + requests.length)).abData).run (answering replies)
            (count + requests.length + 1)).2)) := by
  induction requests generalizing count with
  | nil =>
      by_cases taken : transferred (replies count) (protokoll.room last) = .success
      · exact .inr ⟨allTaken_zero, taken, tested_taken taken⟩
      · exact .inl ⟨0, _, Nat.le_refl 0, allTaken_zero, fun below => absurd below (Nat.not_lt_zero _),
          tested_failed taken, fun all => taken all.2⟩
  | cons request requests ih =>
      have room := quiet request List.mem_cons_self
      by_cases taken : Taken (replies count)
      · have first : transferred (replies count) (protokoll.room request) = .success := by
          rw [room]
          exact taken
        have shift : count + 1 + requests.length = count + (request :: requests).length := by
          rw [List.length_cons]
          omega
        have head : (chain protokoll (request :: requests) last behind).run (answering replies) count =
            (request :: ((chain protokoll requests last behind).run (answering replies) (count + 1)).1,
              ((chain protokoll requests last behind).run (answering replies) (count + 1)).2) := by
          rw [chain, List.foldr_cons, tested_taken first]
          rfl
        rcases ih (fun other member => quiet other (List.mem_cons_of_mem _ member)) with
          ⟨number, Res, inside, before, stopped, cut, failed⟩ | ⟨before, answered, through⟩
        · refine .inl ⟨number + 1, Res, Nat.succ_le_succ inside, allTaken_succ.mpr ⟨taken, before⟩, ?_, ?_,
            fun all => failed ⟨(allTaken_succ.mp all.1).2, shift ▸ all.2⟩⟩
          · intro below
            rw [Nat.add_comm number, ← Nat.add_assoc]
            exact stopped (Nat.lt_of_succ_lt_succ below)
          · rw [head, cut]
            rfl
        · refine .inr ⟨allTaken_succ.mpr ⟨taken, before⟩, shift ▸ answered, ?_⟩
          rw [head, through, shift]
          rfl
      · have first : transferred (replies count) (protokoll.room request) ≠ .success := by
          rw [room]
          exact taken
        refine .inl ⟨0, transferred (replies count) (protokoll.room request), Nat.zero_le _, allTaken_zero,
          fun _ => taken, ?_, fun all => taken (allTaken_succ.mp all.1).1⟩
        rw [chain, List.foldr_cons, tested_failed first]
        rfl

/-! ## The plan -/

theorem planned (member : request ∈ (pinPlan protokoll call value).take number) :
    ∃ place < number, (pinPlan protokoll call value)[place]? = some request := by
  obtain ⟨place, inside, found⟩ := List.mem_take_iff_getElem.mp member
  exact ⟨place, by omega, List.getElem?_eq_some_iff.mpr ⟨by omega, found⟩⟩

theorem planned_burn (member : .burnCounter counter ∈ (pinPlan protokoll call value).take number) :
    counter = value ∧ 1 < number := by
  obtain ⟨place, before, found⟩ := planned member
  have here : place = 1 ∧ counter = value := by
    by_cases verify : call.cmd 1 = VERIFY
    · rcases place with _ | _ | _ | _ | _ | _ <;> simp [pinPlan, verify] at found ⊢
      exact found.symm
    · rcases place with _ | _ | _ | _ | _ | _ | _ | _ | _ <;> simp [pinPlan, verify] at found ⊢
      exact found.symm
  exact ⟨here.2, here.1 ▸ before⟩

/-- The new PIN is written as the seventh request, and not by a VERIFY. -/
theorem planned_write {pin : List UInt8} (member : .writePin pin ∈ (pinPlan protokoll call value).take number) :
    6 < number ∧ call.cmd 1 ≠ VERIFY := by
  obtain ⟨place, before, found⟩ := planned member
  have here : place = 6 ∧ call.cmd 1 ≠ VERIFY := by
    by_cases verify : call.cmd 1 = VERIFY
    · rcases place with _ | _ | _ | _ | _ | _ <;> simp [pinPlan, verify] at found
    · rcases place with _ | _ | _ | _ | _ | _ | _ | _ | _ <;> simp [pinPlan, verify] at found ⊢
  exact ⟨here.1 ▸ before, here.2⟩

theorem plan_filter :
    (pinPlan protokoll call value).filter (· ≠ .iccPowerOff) = pinPlan protokoll call value := by
  rw [List.filter_eq_self]
  by_cases verify : call.cmd 1 = VERIFY <;> simp [pinPlan, verify]

theorem plan_ordered {requests : List PinRequest}
    (sent : requests = (pinPlan protokoll call value).take number ∨
      requests = (pinPlan protokoll call value).take number ++ [.iccPowerOff]) :
    requests.filter (· ≠ .iccPowerOff) <+: pinPlan protokoll call value := by
  have front : ((pinPlan protokoll call value).take number).filter (· ≠ .iccPowerOff) <+:
      pinPlan protokoll call value := by
    conv_rhs => rw [← @plan_filter protokoll call value]
    exact (List.take_prefix number _).filter _
  cases sent with
  | inl whole => rwa [whole]
  | inr cut =>
      rw [cut, List.filter_append]
      simpa using front

/-- A try has been spent: the counter was there, and one of its bits has been cleared. -/
def Spent (protokoll : Protokoll) (call : SyncCall) (value : UInt8) : Prop :=
  ∃ counter, counterIn (call.replies 0) = some counter ∧ Burns protokoll counter value

/-- What the status says of the counter, where so many requests were sent. -/
structure StatusCounted (protokoll : Protokoll) (call : SyncCall) (sent Result : Nat) : Prop where
  exhausted : Result = 0x6983 ↔ ∃ counter, counterIn (call.replies 0) = some counter ∧ Exhausted protokoll counter
  granted : Result = 0x9000 → ∃ counter, counterIn (call.replies 4) = some counter ∧ Restored protokoll counter
  refused : Result ≠ 0x6983 → Result ≠ 0x9000 →
    ∃ counter, counterIn (call.replies (sent - 1)) = some counter ∧ Result = 0x63C0 + setBits counter

/-- Where the requests follow the plan, it is left to show what the two writes and the status rest on. -/
theorem counted_of_plan {made : List PinRequest × Option PinEnd}
    (ends : made.2 ≠ none)
    (sent : made.1 = (pinPlan protokoll call value).take number ∨
      made.1 = (pinPlan protokoll call value).take number ++ [.iccPowerOff])
    (burns : 1 < number → Spent protokoll call value)
    (accepts : 6 < number → ∃ counter, counterIn (call.replies 4) = some counter ∧
      Restored protokoll counter)
    (states : ∀ Result, made.2 = some (.status Result) → StatusCounted protokoll call made.1.length Result) :
    TriesCounted protokoll call made := by
  have planned_of_sent {request : PinRequest} (member : request ∈ made.1) (command : request ≠ .iccPowerOff) :
      request ∈ (pinPlan protokoll call value).take number := by
    cases sent with
    | inl whole => exact whole ▸ member
    | inr cut =>
        rw [cut, List.mem_append, List.mem_singleton] at member
        exact member.resolve_right command
  refine ⟨ends, ⟨value, plan_ordered sent⟩, ?_, ?_, fun Result ended => (states Result ended).exhausted,
    fun ended => (states _ ended).granted rfl, fun Result ended => (states Result ended).refused⟩
  · intro written member
    obtain ⟨rfl, reached⟩ := planned_burn (planned_of_sent member (by simp))
    exact burns reached
  · intro pin member
    exact accepts (planned_write (planned_of_sent member (by simp))).1

/-! ## The call -/

def old (protokoll : Protokoll) (call : SyncCall) : List UInt8 := bytesAt call.cmd 5 protokoll.pinLength

def new (protokoll : Protokoll) (call : SyncCall) : List UInt8 :=
  bytesAt call.cmd (5 + protokoll.pinLength) protokoll.pinLength

theorem pinCall_compares (compares : Compares protokoll call) (buffer0 : UInt8) :
    pinCall protokoll call buffer0 =
      (compared protokoll (old protokoll call) buffer0
        (completed protokoll (call.cmd 1) (new protokoll call))).run (answering call.replies) 0 := by
  have p1 : ¬ call.cmd 2 > protokoll.lastP1 := UInt8.not_lt.mpr compares.p1
  have cla : ¬ (call.cmd 0 ≠ 0 ∧ (call.cmd 0 ≠ 0x80 ∨ call.cmd 1 ≠ GETKEYSTATUS)) := fun other =>
    other.1 compares.cla
  rw [pinCall, SyncInterpreter, if_neg cla, if_neg p1]
  rcases compares.form with ⟨verify, pins⟩ | ⟨modify, pins⟩
  · rw [if_pos (.inl verify), pinBranch, if_pos pins, if_pos (.inl verify)]
    rfl
  · rw [if_pos (.inr modify), pinBranch, if_pos (.inr pins), if_pos (.inr pins.1)]
    rfl

/-- The comparison, up to the first command that fails. -/
theorem spent_run (protokoll : Protokoll) (replies : Nat → Reply) (pin : List UInt8) (value addr : UInt8) (behind : Nat → UInt8 → PinDialog) :
    (∃ number Res, number ≤ 3 ∧
      (spent protokoll pin value addr behind).run (answering replies) 1 =
        ([.burnCounter value, .comparePin pin, .restoreCounter, .readCounter].take (number + 1) ++
          [.iccPowerOff], some (.returned Res)) ∧
      ¬ (AllTaken replies 1 3 ∧ Read protokoll (replies 4))) ∨
    (AllTaken replies 1 3 ∧ Read protokoll (replies 4) ∧
      (spent protokoll pin value addr behind).run (answering replies) 1 =
        let Offset := received addr (replies 4).abData
        let rest := (behind (counterStatus protokoll Offset 0x6700) Offset).run (answering replies) 5
        (.burnCounter value :: .comparePin pin :: .restoreCounter :: .readCounter :: rest.1, rest.2)) := by
  have quiet : ∀ request ∈ [.burnCounter value, .comparePin pin, .restoreCounter],
      protokoll.room request = 0 := by
    simp [room_burnCounter, room_comparePin, room_restoreCounter]
  rcases @chain_run protokoll replies (fun data => behind (counterStatus protokoll (received addr data) 0x6700)
      (received addr data)) 1 _ .readCounter quiet with
    ⟨number, Res, inside, _, _, cut, failed⟩ | ⟨before, answered, through⟩
  · exact .inl ⟨number, Res, inside, cut, failed⟩
  · exact .inr ⟨before, answered, through⟩

/-- The new PIN, up to the first command that fails. -/
theorem change_run (protokoll : Protokoll) (replies : Nat → Reply) {ins : UInt8} (modify : ins ≠ VERIFY) (pin : List UInt8) (buffer0 : UInt8) :
    (∃ number Res, number ≤ 2 ∧ AllTaken replies 5 number ∧ (number < 2 → ¬ Taken (replies (5 + number))) ∧
      (completed protokoll ins pin 0x6700 buffer0).run (answering replies) 5 =
        ([.restoreCounter, .writePin pin, .readCounter].take (number + 1) ++ [.iccPowerOff],
          some (.returned Res))) ∨
    (AllTaken replies 5 2 ∧ Read protokoll (replies 7) ∧
      (completed protokoll ins pin 0x6700 buffer0).run (answering replies) 5 =
        ([.restoreCounter, .writePin pin, .readCounter],
          some (.status (counterStatus protokoll (received buffer0 (replies 7).abData) 0x9000)))) := by
  have quiet : ∀ request ∈ [.restoreCounter, .writePin pin], protokoll.room request = 0 := by
    simp [room_restoreCounter, room_writePin]
  have same : completed protokoll ins pin 0x6700 buffer0 =
      chain protokoll [.restoreCounter, .writePin pin] .readCounter fun data =>
        .done (.status (counterStatus protokoll (received buffer0 data) 0x9000)) := by
    rw [completed, if_neg (not_not.mpr rfl), if_neg modify]
    rfl
  rw [same]
  rcases @chain_run protokoll replies (fun data => .done (.status (counterStatus protokoll
      (received buffer0 data) 0x9000))) 5 _ .readCounter quiet with
    ⟨number, Res, inside, before, stopped, cut, _⟩ | ⟨before, answered, through⟩
  · exact .inl ⟨number, Res, inside, before, stopped, cut⟩
  · exact .inr ⟨before, answered, through⟩

theorem completed_status {ins : UInt8} (decided : Result ≠ 0x6700) (pin : List UInt8) (buffer0 : UInt8) :
    completed protokoll ins pin Result buffer0 = .done (.status Result) := if_pos decided

theorem completed_verify (pin : List UInt8) (buffer0 : UInt8) :
    completed protokoll VERIFY pin 0x6700 buffer0 = .done (.status 0x9000) := rfl

/-! ### The first answer -/

theorem call_unread (compares : Compares protokoll call) (buffer0 : UInt8)
    (failed : ¬ Read protokoll (call.replies 0)) :
    ∃ Res, pinCall protokoll call buffer0 = ([.readCounter, .iccPowerOff], some (.returned Res)) := by
  rw [pinCall_compares compares, compared]
  exact ⟨_, tested_failed failed⟩

theorem call_exhausted (compares : Compares protokoll call) (read : Read protokoll (call.replies 0))
    (zero : received buffer0 (call.replies 0).abData = 0) :
    pinCall protokoll call buffer0 = ([.readCounter], some (.status 0x6983)) := by
  rw [pinCall_compares compares, compared, tested_taken read, zero, if_pos rfl]
  rfl

theorem call_spends (compares : Compares protokoll call) (read : Read protokoll (call.replies 0))
    (more : received buffer0 (call.replies 0).abData = addr) (some : addr ≠ 0) :
    ∃ value, (¬ Exhausted protokoll addr → Burns protokoll addr value) ∧
      pinCall protokoll call buffer0 =
        let rest := (spent protokoll (old protokoll call) value addr
          (completed protokoll (call.cmd 1) (new protokoll call))).run (answering call.replies) 1
        (.readCounter :: rest.1, rest.2) := by
  obtain ⟨Offset, found, burns⟩ := @setBit_ends protokoll addr some
  refine ⟨addr &&& (Offset ^^^ 0xff), burns, ?_⟩
  rw [pinCall_compares compares, compared, tested_taken read, more]
  simp only [if_neg some, found]

/-! ## What the replies decide -/

/-- The first five requests of the plan. -/
def comparison (protokoll : Protokoll) (call : SyncCall) (value : UInt8) : List PinRequest :=
  [.readCounter, .burnCounter value, .comparePin (old protokoll call), .restoreCounter, .readCounter]

theorem Spent.not_exhausted (spent : Spent protokoll call value) :
    ¬ ∃ counter, counterIn (call.replies 0) = some counter ∧ Exhausted protokoll counter := by
  obtain ⟨counter, found, burns⟩ := spent
  rintro ⟨other, same, exhausted⟩
  rw [found, Option.some.injEq] at same
  exact burns.not_exhausted (same ▸ exhausted)

theorem plan_front (inside : number ≤ 5) :
    (pinPlan protokoll call value).take number = (comparison protokoll call value).take number :=
  List.take_append_of_le_length inside

theorem counted_returned {requests : List PinRequest}
    (sent : requests = (pinPlan protokoll call value).take number ++ [.iccPowerOff])
    (burns : 1 < number → Spent protokoll call value)
    (accepts : 6 < number → ∃ counter, counterIn (call.replies 4) = some counter ∧
      Restored protokoll counter) :
    TriesCounted protokoll call (requests, some (.returned Res)) := by
  refine counted_of_plan (by simp) (.inr sent) burns accepts ?_
  intro Result status
  cases status

theorem statusCounted_granted (spent : Spent protokoll call value)
    (accepted : ∃ counter, counterIn (call.replies 4) = some counter ∧ Restored protokoll counter) (sent : Nat) :
    StatusCounted protokoll call sent 0x9000 where
  exhausted := iff_of_false (by decide) spent.not_exhausted
  granted := fun _ => accepted
  refused := fun _ other => absurd rfl other

theorem statusCounted_refused (spent : Spent protokoll call value) {sent : Nat}
    (found : counterIn (call.replies (sent - 1)) = some counter) :
    StatusCounted protokoll call sent (0x63C0 + setBits counter) := by
  have few := setBits_le counter
  constructor
  · exact iff_of_false (by omega) spent.not_exhausted
  · intro granted
    omega
  · intro _ _
    exact ⟨counter, found, rfl⟩

theorem statusCounted_changed (spent : Spent protokoll call value)
    (accepted : ∃ counter, counterIn (call.replies 4) = some counter ∧ Restored protokoll counter) (sent : Nat) :
    StatusCounted protokoll call sent
      (counterStatus protokoll (received protokoll.full (call.replies (sent - 1)).abData) 0x9000) := by
  cases found : counterIn (call.replies (sent - 1)) with
  | none =>
      rw [received_of_none found, counterStatus_full]
      exact statusCounted_granted spent accepted sent
  | some counter =>
      rw [received_of_some found]
      by_cases full : counter = protokoll.full
      · rw [full, counterStatus_full]
        exact statusCounted_granted spent accepted sent
      · rw [counterStatus_of_ne full]
        exact statusCounted_refused spent found

theorem counted_refused (spent : Spent protokoll call value)
    (found : counterIn (call.replies 4) = some counter) :
    TriesCounted protokoll call
      (comparison protokoll call value, some (.status (0x63C0 + setBits counter))) := by
  refine @counted_of_plan protokoll call value 5 _ (by simp) (.inl rfl) (fun _ => spent)
    (fun late => by omega) ?_
  intro Result status
  cases status
  exact statusCounted_refused spent found

theorem counted_accepted (spent : Spent protokoll call value)
    (accepted : ∃ counter, counterIn (call.replies 4) = some counter ∧ Restored protokoll counter) :
    let rest := (completed protokoll (call.cmd 1) (new protokoll call) 0x6700 protokoll.full).run
      (answering call.replies) 5
    TriesCounted protokoll call (comparison protokoll call value ++ rest.1, rest.2) := by
  intro rest
  by_cases verify : call.cmd 1 = VERIFY
  · have ended : rest = ([], some (.status 0x9000)) := by
      simp only [rest, verify, completed_verify]
      rfl
    rw [ended, List.append_nil]
    refine @counted_of_plan protokoll call value 5 _ (by simp) (.inl rfl) (fun _ => spent)
      (fun late => by omega) ?_
    intro Result status
    cases status
    exact statusCounted_granted spent accepted _
  have plan : pinPlan protokoll call value =
      comparison protokoll call value ++ [.restoreCounter, .writePin (new protokoll call), .readCounter] := by
    rw [pinPlan, if_neg verify]
    rfl
  rcases change_run protokoll call.replies verify (new protokoll call) protokoll.full with
    ⟨number, Res, inside, _, _, cut⟩ | ⟨_, _, through⟩
  · simp only [rest, cut]
    refine @counted_returned protokoll call value (5 + (number + 1)) Res _ ?_ (fun _ => spent) (fun _ => accepted)
    rw [plan, ← List.append_assoc]
    exact congrArg (· ++ _) (List.take_length_add_append _).symm
  · simp only [rest, through]
    refine @counted_of_plan protokoll call value 8 _ (by simp) (.inl ?_) (fun _ => spent) (fun _ => accepted) ?_
    · rw [plan]
      rfl
    intro Result status
    cases status
    exact statusCounted_changed spent accepted 8

/-- Replies that bring the counter where they have to are enough. -/
theorem counted_of_known (compares : Compares protokoll call) (known : CounterKnown protokoll call)
    (buffer0 : UInt8) : TriesCounted protokoll call (pinCall protokoll call buffer0) := by
  by_cases read : Read protokoll (call.replies 0)
  swap
  · obtain ⟨Res, ended⟩ := call_unread compares buffer0 read
    rw [ended]
    exact @counted_returned protokoll call 0 1 Res _ rfl (fun late => by omega) (fun late => by omega)
  obtain ⟨counter, found, zero⟩ := known.first read
  have first : received buffer0 (call.replies 0).abData = counter := received_of_some found
  by_cases none : counter = 0
  · rw [call_exhausted compares read (first.trans none)]
    refine @counted_of_plan protokoll call 0 1 _ (by simp) (.inl rfl) (fun late => by omega)
      (fun late => by omega) ?_
    intro Result status
    cases status
    exact ⟨iff_of_true rfl ⟨counter, found, none ▸ exhausted_zero⟩, fun other => absurd other (by decide),
      fun other => absurd rfl other⟩
  have left : ¬ Exhausted protokoll counter := fun exhausted => none (zero exhausted)
  obtain ⟨value, burns, made⟩ := call_spends compares read first none
  have spends : Spent protokoll call value := ⟨counter, found, burns left⟩
  rw [made]
  rcases spent_run protokoll call.replies (old protokoll call) value counter
      (completed protokoll (call.cmd 1) (new protokoll call)) with
    ⟨number, Res, inside, cut, _⟩ | ⟨before, answered, through⟩
  · simp only [cut]
    refine @counted_returned protokoll call value (number + 2) Res _ ?_ (fun _ => spends) (fun late => by omega)
    rw [plan_front (by omega)]
    rfl
  simp only [through]
  cases present : counterIn (call.replies 4) with
  | some back =>
      rw [received_of_some present]
      by_cases full : back = protokoll.full
      · rw [full, counterStatus_full]
        exact counted_accepted spends ⟨back, present, full ▸ restored_full⟩
      · have few := setBits_le back
        rw [counterStatus_of_ne full, completed_status (by omega)]
        exact counted_refused spends present
  | none =>
      have reached : ReadBack protokoll call.replies := ⟨read, by rwa [found, ne_eq, Option.some.injEq],
        (allTaken_three.mp before).1, (allTaken_three.mp before).2.1, (allTaken_three.mp before).2.2, answered⟩
      obtain ⟨modify, whole, untaken⟩ := (known.back reached).resolve_left (not_not.mpr present)
      rw [found, Option.some.injEq] at whole
      rw [received_of_none present, whole, counterStatus_full]
      have verify : call.cmd 1 ≠ VERIFY := by
        rw [modify]
        decide
      rcases change_run protokoll call.replies verify (new protokoll call) protokoll.full with
        ⟨number, Res, _, before, _, cut⟩ | ⟨before, _⟩
      · cases number with
        | zero =>
            simp only [cut]
            refine @counted_returned protokoll call value 6 Res _ ?_ (fun _ => spends) (fun late => by omega)
            rw [pinPlan, if_neg verify]
            rfl
        | succ number => exact absurd (allTaken_succ.mp before).1 untaken
      · exact absurd (allTaken_succ.mp before).1 untaken

theorem burn_sent (compares : Compares protokoll call) (read : Read protokoll (call.replies 0))
    (some : received buffer0 (call.replies 0).abData ≠ 0) :
    ∃ value, .burnCounter value ∈ (pinCall protokoll call buffer0).1 := by
  obtain ⟨value, _, made⟩ := call_spends compares read rfl some
  refine ⟨value, ?_⟩
  rw [made]
  rcases spent_run protokoll call.replies (old protokoll call) value (received buffer0 (call.replies 0).abData)
      (completed protokoll (call.cmd 1) (new protokoll call)) with
    ⟨number, Res, _, cut, _⟩ | ⟨_, _, through⟩
  · simp [cut]
  · simp [through]

theorem first_of_counted (compares : Compares protokoll call)
    (counted : TriesCounted protokoll call (pinCall protokoll call buffer0))
    (read : Read protokoll (call.replies 0)) :
    ∃ counter, counterIn (call.replies 0) = some counter ∧ (Exhausted protokoll counter → counter = 0) := by
  by_cases none : received buffer0 (call.replies 0).abData = 0
  · have ended := call_exhausted compares read none
    obtain ⟨counter, found, _⟩ := (counted.exhausted 0x6983 (by rw [ended])).mp rfl
    exact ⟨counter, found, fun _ => (received_of_some found).symm.trans none⟩
  · obtain ⟨value, sent⟩ := burn_sent compares read none
    obtain ⟨counter, found, burns⟩ := counted.burned value sent
    exact ⟨counter, found, fun exhausted => absurd exhausted burns.not_exhausted⟩

/-- Behind a reading that brings nothing, `buffer[0]` is still the counter of before. -/
theorem back_of_counted (compares : Compares protokoll call)
    (counted : TriesCounted protokoll call (pinCall protokoll call buffer0))
    (reached : ReadBack protokoll call.replies) (missing : counterIn (call.replies 4) = none) :
    call.cmd 1 = MODIFY ∧ counterIn (call.replies 0) = some protokoll.full ∧ ¬ Taken (call.replies 5) := by
  obtain ⟨read, nonzero, first, second, third, answered⟩ := reached
  obtain ⟨counter, found, _⟩ := first_of_counted compares counted read
  have some : counter ≠ 0 := by rwa [found, ne_eq, Option.some.injEq] at nonzero
  obtain ⟨value, _, made⟩ := call_spends compares read (received_of_some found) some
  rcases spent_run protokoll call.replies (old protokoll call) value counter
      (completed protokoll (call.cmd 1) (new protokoll call)) with
    ⟨_, _, _, _, failed⟩ | ⟨_, _, through⟩
  · exact absurd ⟨allTaken_three.mpr ⟨first, second, third⟩, answered⟩ failed
  rw [made, through] at counted
  simp only [received_of_none missing] at counted
  by_cases full : counter = protokoll.full
  swap
  · rw [counterStatus_of_ne full, completed_status (by have := setBits_le counter; omega)] at counted
    have few := setBits_le counter
    obtain ⟨_, present, _⟩ := counted.refused _ rfl (by omega) (by omega)
    change counterIn (call.replies 4) = _ at present
    rw [missing] at present
    contradiction
  rw [full, counterStatus_full] at counted
  have verify : call.cmd 1 ≠ VERIFY := by
    intro verify
    rw [verify, completed_verify] at counted
    obtain ⟨_, present, _⟩ := counted.granted rfl
    rw [missing] at present
    contradiction
  have modify : call.cmd 1 = MODIFY := (compares.form.resolve_left fun other => verify other.1).1
  refine ⟨modify, full ▸ found, fun taken => ?_⟩
  have written : .writePin (new protokoll call) ∈
      ((completed protokoll (call.cmd 1) (new protokoll call) 0x6700 protokoll.full).run
        (answering call.replies) 5).1 := by
    rcases change_run protokoll call.replies verify (new protokoll call) protokoll.full with
      ⟨number, Res, _, _, stopped, cut⟩ | ⟨_, _, through⟩
    · cases number with
      | zero => exact absurd taken (stopped (by decide))
      | succ number => simp [cut]
    · simp [through]
  obtain ⟨_, present, _⟩ := counted.accepted _ (List.mem_append_right (comparison protokoll call value) written)
  rw [missing] at present
  contradiction

/-- The tries are counted exactly where the replies bring the counter. -/
theorem tries_counted_iff (compares : Compares protokoll call) (buffer0 : UInt8) :
    TriesCounted protokoll call (pinCall protokoll call buffer0) ↔ CounterKnown protokoll call := by
  constructor
  · intro counted
    refine ⟨first_of_counted compares counted, fun reached => ?_⟩
    by_cases missing : counterIn (call.replies 4) = none
    · exact .inr (back_of_counted compares counted reached missing)
    · exact .inl missing
  · intro known
    exact counted_of_known compares known buffer0

/-- A command and what the card answers to its blocks. -/
def sample (command : List UInt8) (answers : List (List UInt8)) : SyncCall where
  lenc := command.length
  cmd := fun index => command.getD index 0
  lenr := 2
  response := fun _ => 0
  replies := fun index => .ofBlock (answers.getD index [])

/-- A PIN is accepted. -/
theorem plainVerify_counted :
    let call := sample [0x00, 0x20, 0x00, 0x00, 0x02, 0x12, 0x34] [[0xff], [], [], [], [0xff]]
    TriesCounted .nine call (pinCall .nine call 0) :=
  have known : CounterKnown .nine (sample [0x00, 0x20, 0x00, 0x00, 0x02, 0x12, 0x34] [[0xff], [], [], [], [0xff]]) :=
    ⟨fun _ => ⟨0xff, rfl, by decide⟩, fun _ => .inl (by decide)⟩
  (tries_counted_iff ⟨rfl, by decide, .inl ⟨rfl, .inl ⟨rfl, rfl⟩⟩⟩ 0).mpr known

/-- A counter of three bits that is exhausted, in a byte with other bits set, and a counter that is
not read back. -/
theorem pinCommands_not_counted :
    let exhausted := sample [0x00, 0x20, 0x00, 0x00, 0x03, 0x12, 0x34, 0x56] [[0xf8, 0x00, 0x00, 0x00]]
    let unread := sample [0x00, 0x20, 0x00, 0x00, 0x02, 0x12, 0x34] [[0xff]]
    ¬ TriesCounted .ten exhausted (pinCall .ten exhausted 0) ∧
      ¬ TriesCounted .nine unread (pinCall .nine unread 0) := by
  intro exhausted unread
  constructor
  · intro counted
    obtain ⟨counter, found, burns⟩ := counted.burned 0xf0 (by decide)
    have byte : counter = 0xf8 := (Option.some.inj found).symm
    rw [byte] at burns
    exact absurd burns (by decide)
  · intro counted
    obtain ⟨counter, found, _⟩ := counted.granted (by decide)
    contradiction

end Cyberjack.Ppa.MemoryCard
