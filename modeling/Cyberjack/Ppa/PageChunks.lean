import Cyberjack.Ppa.UpdateStatus

namespace Cyberjack.Ppa.WireUpdate

open Cyberjack.Foundation Cyberjack.Eca

/-! # The pieces of UPDATE BINARY

How the loop of the protocols 6 and 7 cuts the data.  All its pieces but the last are as long as the first one, which
ends with its page.
-/

namespace S7Command

def payload : S7Command → List UInt8
  | .select _ => []
  | .write _ _ payload => payload

def place : S7Command → Nat
  | .select _ => 0
  | .write _ addr _ => addr.toNat

def isWrite : S7Command → Bool
  | .select _ => false
  | .write _ _ _ => true

end S7Command

def writes (commands : List S7Command) : List S7Command := commands.filter S7Command.isWrite

/-- Where the data are to be written. -/
def address (wire : Wire) (call : SyncCall) : Nat := (adjusted wire call 3).toNat

/-- The commands write the data in their order, each of them some bytes of one page. -/
structure WritesPaged (wire : Wire) (call : SyncCall) (commands : List S7Command) : Prop where
  data : ∃ rest, bytesAt call.cmd 5 (dataLength call) = (commands.map S7Command.payload).flatten ++ rest
  follows : Addressed S7Command.place S7Command.payload (address wire call) commands
  paged : ∀ command ∈ commands, command.place % wire.pageSize + command.payload.length ≤ wire.pageSize
  some : ∀ command ∈ commands, command.payload ≠ []

/-- What is written for a call, whatever the results of the commands are. -/
structure ChunksRight (wire : Wire) (call : SyncCall) : Prop where
  ends : ∀ replies, ∃ count result, (updateBinary wire call (firsts replies count)).outcome = .done result
  paged : ∀ replies, WritesPaged wire call (writes (updateBinary wire call replies).trace)
  whole : ∀ replies result, (updateBinary wire call replies).outcome = .done result →
    Carried (updateBinary wire call replies).turns →
      ((writes (updateBinary wire call replies).trace).map S7Command.payload).flatten =
        bytesAt call.cmd 5 (dataLength call)

/-- An UPDATE BINARY with data that the checks of the command admit. -/
structure Admitted (wire : Wire) (call : SyncCall) : Prop where
  cla : call.cmd 0 = 0
  ins : call.cmd 1 = UPDATEBINARY
  P1 : wire = .three → ¬ call.cmd 2 > 0x08
  length : call.lenc = 5 + dataLength call
  some : dataLength call ≠ 0

/-- How long the pieces of the loop are. -/
def pieceSize (wire : Wire) (call : SyncCall) : Nat :=
  wire.pageSize - (wire.firstOffset (adjusted wire call 3)).toNat

/-- The pieces of a loop have some bytes and do not run over the last address, and either two of them are enough or
their size divides that of a page. -/
structure PiecesKept (wire : Wire) (call : SyncCall) : Prop where
  some : pieceSize wire call ≠ 0
  range : address wire call + dataLength call ≤ 256
  pages : dataLength call ≤ pieceSize wire call + wire.pageSize ∨ pieceSize wire call ∣ wire.pageSize

def PagesKept (wire : Wire) (call : SyncCall) : Prop :=
  if dataLength call ≤ wire.pageSize then address wire call % wire.pageSize + dataLength call ≤ wire.pageSize
  else PiecesKept wire call

/-! ## The first piece -/

variable {wire : Wire} {call : SyncCall} {j k n : Nat} {state next : UpdateState} {reply : Reply} {replies : List Reply}

theorem offset_facts (wire : Wire) (P2 : UInt8) :
    (P2.toNat + (wire.pageSize - (wire.firstOffset P2).toNat)) % wire.pageSize = 0 ∧
      (wire.firstOffset P2).toNat ≤ wire.pageSize ∧
      (wire.pageSize - (wire.firstOffset P2).toNat ≠ 0 →
        P2.toNat % wire.pageSize + (wire.pageSize - (wire.firstOffset P2).toNat) ≤ wire.pageSize) := by
  revert P2
  cases wire <;> decide +kernel

/-- The first piece ends with its page. -/
theorem piece_aligned : (address wire call + pieceSize wire call) % wire.pageSize = 0 :=
  (offset_facts wire (adjusted wire call 3)).1

theorem piece_first (some : pieceSize wire call ≠ 0) :
    address wire call % wire.pageSize + pieceSize wire call ≤ wire.pageSize :=
  (offset_facts wire (adjusted wire call 3)).2.2 some

theorem pieceSize_le : pieceSize wire call ≤ wire.pageSize := Nat.sub_le _ _

theorem dataLength_lt (call : SyncCall) : dataLength call < 256 := UInt8.toNat_lt _

/-- Addresses that wrap around keep their place in the page. -/
theorem mod_page (wire : Wire) (value : Nat) : value % 256 % wire.pageSize = value % wire.pageSize := by
  cases wire with
  | three => exact Nat.mod_mod_of_dvd value (by decide)
  | two => exact Nat.mod_mod_of_dvd value (by decide)

/-- The place of a later piece in its page. -/
theorem place_later (k : Nat) :
    (address wire call + (k + 1) * pieceSize wire call) % wire.pageSize = k * pieceSize wire call % wire.pageSize := by
  have aligned := @piece_aligned wire call
  have moved : address wire call + (k + 1) * pieceSize wire call =
      address wire call + pieceSize wire call + k * pieceSize wire call := by
    rw [Nat.succ_mul]
    omega
  rw [moved, Nat.add_mod, aligned, Nat.zero_add, Nat.mod_mod]

/-! ## The data field -/

theorem adjusted_behind {index : Nat} (behind : 4 ≤ index) : adjusted wire call index = call.cmd index := by
  cases wire with
  | three => rfl
  | two =>
      simp only [adjusted]
      rw [stored_outside _ (.inr (by simp only [List.length_singleton]; omega))]
      split
      · exact stored_outside _ (.inr (by simp only [List.length_cons, List.length_nil]; omega))
      · rfl

/-- The command in front of the pass for a piece. -/
def memoryAt (wire : Wire) (call : SyncCall) (j : Nat) : Nat → UInt8 :=
  stored (adjusted wire call) 3 [UInt8.ofNat (address wire call + j * pieceSize wire call)]

theorem memoryAt_behind {index : Nat} (behind : 4 ≤ index) : memoryAt wire call j index = call.cmd index := by
  rw [memoryAt, stored_outside _ (.inr (by simp only [List.length_singleton]; omega)), adjusted_behind behind]

theorem memoryAt_zero : memoryAt wire call 0 = adjusted wire call := by
  funext index
  by_cases here : index = 3
  · rw [here, memoryAt, stored_one, Nat.zero_mul, Nat.add_zero, address, UInt8.ofNat_toNat]
  · apply stored_outside
    simp only [List.length_singleton]
    omega

/-! ## The passes -/

/-- What the pass for a piece begins with. -/
def stateAt (wire : Wire) (call : SyncCall) (j : Nat) : WriteState where
  cmd3 := if j = 0 then (wire.firstOffset (adjusted wire call 3)).toNat else 0
  Rest := if j = 0 then wire.pageSize else pieceSize wire call
  cmd := memoryAt wire call j
  len := dataLength call - j * pieceSize wire call
  i := UInt8.ofNat (5 + j * pieceSize wire call)

def pieceLength (wire : Wire) (call : SyncCall) (j : Nat) : Nat :=
  min (pieceSize wire call) (dataLength call - j * pieceSize wire call)

def pieceAt (wire : Wire) (call : SyncCall) (j : Nat) : S7Command :=
  .write (writeCommand wire call) (UInt8.ofNat (address wire call + j * pieceSize wire call))
    (bytesAt (memoryAt wire call j) ((5 + j * pieceSize wire call) % 256) (pieceLength wire call j))

theorem length_pieceAt : (pieceAt wire call j).payload.length = pieceLength wire call j := length_bytesAt _ _ _

theorem place_pieceAt : (pieceAt wire call j).place = (address wire call + j * pieceSize wire call) % 256 :=
  UInt8.toNat_ofNat'

/-- The loop begins with the first piece. -/
theorem opening_state : stateAt wire call 0 =
    ⟨(wire.firstOffset (adjusted wire call 3)).toNat, wire.pageSize, adjusted wire call, dataLength call, 5⟩ := by
  rw [stateAt, memoryAt_zero, Nat.zero_mul, Nat.sub_zero, Nat.add_zero, if_pos rfl, if_pos rfl]
  rfl

theorem rest_of_pass (long : wire.pageSize < dataLength call) :
    min (stateAt wire call j).Rest (stateAt wire call j).len - (stateAt wire call j).cmd3 = pieceLength wire call j := by
  have size := @pieceSize_le wire call
  cases j with
  | zero =>
      simp only [stateAt, pieceLength, if_pos, Nat.zero_mul, Nat.sub_zero]
      rw [Nat.min_eq_left (by omega), Nat.min_eq_left (by omega)]
      rfl
  | succ j => rfl

/-- A pass sends its piece and goes on to the next one, if there is more. -/
theorem chunk_step (long : wire.pageSize < dataLength call) (more : j * pieceSize wire call < dataLength call)
    (reply : Reply) :
    updateBody wire call (.chunk (stateAt wire call j)) reply = ([pieceAt wire call j],
      if Fails reply then .done (.status 0x9000)
      else if dataLength call ≤ (j + 1) * pieceSize wire call then .done (.status 0x9000)
      else .again (.chunk (stateAt wire call (j + 1)))) := by
  have rest := @rest_of_pass wire call j long
  have addr : (stateAt wire call j).cmd 3 = UInt8.ofNat (address wire call + j * pieceSize wire call) := by
    simp only [stateAt, memoryAt, stored_one]
  have place : (stateAt wire call j).i.toNat = (5 + j * pieceSize wire call) % 256 := UInt8.toNat_ofNat'
  have next : (j + 1) * pieceSize wire call = j * pieceSize wire call + pieceSize wire call := Nat.succ_mul _ _
  simp only [updateBody, rest, addr, place]
  refine Prod.ext rfl ?_
  by_cases fails : Fails reply
  · rw [if_pos fails]
    exact if_pos fails
  · rw [if_neg fails]
    refine (if_neg fails).trans ?_
    by_cases last : dataLength call ≤ (j + 1) * pieceSize wire call
    · rw [if_pos last]
      apply if_pos
      simp only [stateAt, pieceLength]
      omega
    · have whole : pieceLength wire call j = pieceSize wire call := by
        rw [pieceLength]
        omega
      have left : ¬ (stateAt wire call j).len - pieceSize wire call = 0 := by
        simp only [stateAt]
        omega
      rw [if_neg last, whole, loopHead, if_neg left]
      have memory : stored (stateAt wire call j).cmd 3
          [UInt8.ofNat (address wire call + j * pieceSize wire call) + UInt8.ofNat (pieceSize wire call)] =
          memoryAt wire call (j + 1) := by
        rw [stateAt, memoryAt, stored_twice, ← UInt8.ofNat_add, Nat.add_assoc, ← next]
        rfl
      have length : (stateAt wire call j).len - pieceSize wire call =
          dataLength call - (j + 1) * pieceSize wire call := by
        simp only [stateAt]
        omega
      have index : (stateAt wire call j).i + UInt8.ofNat (pieceSize wire call) =
          UInt8.ofNat (5 + (j + 1) * pieceSize wire call) := by
        rw [stateAt, ← UInt8.ofNat_add, Nat.add_assoc, ← next]
      rw [memory, length, index]
      rfl

/-- What a run from a piece on sends, and where it is then. -/
structure Pieces (wire : Wire) (call : SyncCall) (replies : List Reply) (j n : Nat)
    (made : Run UpdateState Reply S7Command UpdateEnd) : Prop where
  sent : outputs made.turns = (List.range' j n).map (pieceAt wire call)
  within : ∀ k, k < n → (j + k) * pieceSize wire call < dataLength call
  few : n ≤ replies.length
  reached : (n = replies.length ∧ (j + n) * pieceSize wire call < dataLength call ∧
      made.outcome = .again (.chunk (stateAt wire call (j + n)))) ∨
    made.outcome = .done (.status 0x9000) ∧ (Carried made.turns → dataLength call ≤ (j + n) * pieceSize wire call)

theorem run_pieces (long : wire.pageSize < dataLength call) (more : j * pieceSize wire call < dataLength call)
    (replies : List Reply) :
    ∃ n, Pieces wire call replies j n (run (updateBody wire call) (.chunk (stateAt wire call j)) replies) := by
  induction replies generalizing j with
  | nil =>
      refine ⟨0, rfl, ?_, Nat.le_refl 0, .inl ⟨rfl, more, rfl⟩⟩
      intro k below
      contradiction
  | cons reply rest ih =>
      have stepped := chunk_step long more reply
      by_cases ends : Fails reply ∨ dataLength call ≤ (j + 1) * pieceSize wire call
      · have done : updateBody wire call (.chunk (stateAt wire call j)) reply =
            ([pieceAt wire call j], .done (.status 0x9000)) := by
          rw [stepped]
          by_cases fails : Fails reply
          · rw [if_pos fails]
          · rw [if_neg fails, if_pos (ends.resolve_left fails)]
        rw [run_done done]
        refine ⟨1, outputs_singleton _, ?_, ?_, .inr ⟨rfl, ?_⟩⟩
        · intro k below
          rw [Nat.lt_one_iff.mp below]
          exact more
        · simp only [List.length_cons]
          omega
        · intro carried
          exact ends.resolve_left (carried _ (List.mem_singleton_self _))
      · have succeeds : ¬ Fails reply := fun fails => ends (.inl fails)
        have further : ¬ dataLength call ≤ (j + 1) * pieceSize wire call := fun last => ends (.inr last)
        rw [if_neg succeeds, if_neg further] at stepped
        obtain ⟨n, later⟩ := ih (Nat.not_le.mp further)
        have index : j + 1 + n = j + (n + 1) := by omega
        rw [run_again stepped]
        refine ⟨n + 1, ?_, ?_, ?_, ?_⟩
        · rw [outputs_cons, later.sent, List.range'_succ]
          rfl
        · intro k below
          cases k with
          | zero => exact more
          | succ k =>
              have within := later.within k (by omega)
              rwa [Nat.add_right_comm] at within
        · have few := later.few
          simp only [List.length_cons]
          omega
        · have reached := later.reached
          rw [index] at reached
          cases reached with
          | inl goes => exact .inl ⟨congrArg (· + 1) goes.1, goes.2⟩
          | inr done =>
              refine .inr ⟨done.1, ?_⟩
              intro carried
              exact done.2 fun turn made => carried turn (List.mem_cons_of_mem _ made)

/-! ## From the command to the first write -/

/-- `ChunksRight` from a state on. -/
structure RightFrom (wire : Wire) (call : SyncCall) (state : UpdateState) : Prop where
  ends : ∀ replies, ∃ count result, (run (updateBody wire call) state (firsts replies count)).outcome = .done result
  paged : ∀ replies, WritesPaged wire call (writes (outputs (run (updateBody wire call) state replies).turns))
  whole : ∀ replies result, (run (updateBody wire call) state replies).outcome = .done result →
    Carried (run (updateBody wire call) state replies).turns →
      ((writes (outputs (run (updateBody wire call) state replies).turns)).map S7Command.payload).flatten =
        bytesAt call.cmd 5 (dataLength call)

theorem right_iff_from (opened : opening wire call = .again state) : ChunksRight wire call ↔ RightFrom wire call state := by
  have called (replies : List Reply) : updateBinary wire call replies =
      ⟨[], (run (updateBody wire call) state replies).turns, (run (updateBody wire call) state replies).outcome⟩ := by
    rw [updateBinary, opened]
    rfl
  constructor
  · intro right
    constructor
    · intro replies
      have ends := right.ends replies
      simpa only [called] using ends
    · intro replies
      have paged := right.paged replies
      rwa [called] at paged
    · intro replies result ended carried
      have whole := right.whole replies result
      rw [called] at whole
      exact whole ended carried
  · intro right
    constructor
    · intro replies
      have ends := right.ends replies
      simpa only [called] using ends
    · intro replies
      have paged := right.paged replies
      rw [called]
      exact paged
    · intro replies result
      rw [called]
      exact right.whole replies result

theorem writesPaged_nil : WritesPaged wire call [] where
  data := ⟨_, rfl⟩
  follows := trivial
  paged := List.forall_mem_nil _
  some := List.forall_mem_nil _

/-- A command that is carried out. -/
def good : Reply := .ofBlock []

theorem good_succeeds : ¬ Fails good := by decide

/-- The command that selects a page writes nothing. -/
theorem rightFrom_select (goesOn : behindSelect call = .again next) :
    RightFrom wire call .select ↔ RightFrom wire call next := by
  have refused {reply : Reply} (fails : Fails reply) : updateBody wire call .select reply =
      ([.select (call.cmd 2)], .done (.returned (transferred reply 0))) :=
    Prod.ext rfl (if_pos fails)
  have selected {reply : Reply} (succeeds : ¬ Fails reply) : updateBody wire call .select reply =
      ([.select (call.cmd 2)], .again next) :=
    Prod.ext rfl ((if_neg succeeds).trans goesOn)
  constructor
  · intro right
    constructor
    · intro replies
      obtain ⟨count, result, ended⟩ := right.ends fun index => if index = 0 then good else replies (index - 1)
      cases count with
      | zero => contradiction
      | succ count =>
          rw [firsts_cons, if_pos rfl, run_again (selected good_succeeds)] at ended
          exact ⟨count, result, ended⟩
    · intro replies
      have paged := right.paged (good :: replies)
      rwa [run_again (selected good_succeeds)] at paged
    · intro replies result ended carried
      have whole := right.whole (good :: replies) result
      rw [run_again (selected good_succeeds)] at whole
      exact whole ended (List.forall_mem_cons.mpr ⟨good_succeeds, carried⟩)
  · intro right
    constructor
    · intro replies
      by_cases fails : Fails (replies 0)
      · exact ⟨1, _, by rw [firsts_cons, run_done (refused fails)]⟩
      · obtain ⟨count, result, ended⟩ := right.ends fun index => replies (index + 1)
        refine ⟨count + 1, result, ?_⟩
        rw [firsts_cons, run_again (selected fails)]
        exact ended
    · intro replies
      cases replies with
      | nil => exact writesPaged_nil
      | cons reply rest =>
          by_cases fails : Fails reply
          · rw [run_done (refused fails)]
            exact writesPaged_nil
          · rw [run_again (selected fails)]
            exact right.paged rest
    · intro replies result ended carried
      cases replies with
      | nil => contradiction
      | cons reply rest =>
          by_cases fails : Fails reply
          · rw [run_done (refused fails)] at carried
            exact absurd fails (carried _ (List.mem_singleton_self _))
          · rw [run_again (selected fails)] at ended carried ⊢
            exact right.whole rest result ended fun turn made => carried turn (List.mem_cons_of_mem _ made)

/-- The first state that writes. -/
def firstWrite (wire : Wire) (call : SyncCall) : UpdateState :=
  if dataLength call ≤ wire.pageSize then .short else .chunk (stateAt wire call 0)

theorem writeHead_eq : writeHead wire call = .again (firstWrite wire call) := by
  unfold writeHead firstWrite
  by_cases short : dataLength call ≤ wire.pageSize
  · rw [if_pos short, if_pos (Nat.lt_succ_of_le short)]
  · have filled : dataLength call ≠ 0 := by omega
    rw [if_neg short, if_neg (by omega), opening_state]
    exact if_neg filled

theorem right_iff_firstWrite (admitted : Admitted wire call) :
    ChunksRight wire call ↔ RightFrom wire call (firstWrite wire call) := by
  have cla : ¬ call.cmd 0 ≠ 0 := fun other => other admitted.cla
  have length : ¬ call.lenc ≠ 5 + dataLength call := fun other => other admitted.length
  cases wire with
  | two =>
      apply right_iff_from
      rw [opening, if_neg cla, if_neg length]
      exact writeHead_eq
  | three =>
      have behind : behindSelect call = .again (firstWrite .three call) := by
        rw [behindSelect, if_neg (admitted.P1 rfl), writeHead_eq]
      by_cases fixed : call.cmd 2 = 0x08
      · apply right_iff_from
        rw [opening, if_neg cla, if_neg length]
        exact (if_neg (not_not.mpr fixed)).trans behind
      · rw [← rightFrom_select behind]
        apply right_iff_from
        rw [opening, if_neg cla, if_neg length]
        exact if_pos fixed

/-! ## A single write -/

/-- The one write of few data. -/
def onlyWrite (wire : Wire) (call : SyncCall) : S7Command :=
  .write (writeCommand wire call) (adjusted wire call 3) (bytesAt (adjusted wire call) 5 (dataLength call))

theorem payload_onlyWrite : (onlyWrite wire call).payload = bytesAt call.cmd 5 (dataLength call) := by
  apply bytesAt_same
  intro index behind _
  exact adjusted_behind (by omega)

theorem short_step (reply : Reply) : ∃ result, updateBody wire call .short reply = ([onlyWrite wire call], .done result) := by
  by_cases fails : Fails reply
  · exact ⟨_, Prod.ext rfl (if_pos fails)⟩
  · exact ⟨_, Prod.ext rfl (if_neg fails)⟩

theorem onlyWrite_paged (some : dataLength call ≠ 0) :
    WritesPaged wire call [onlyWrite wire call] ↔
      address wire call % wire.pageSize + dataLength call ≤ wire.pageSize := by
  have length : (onlyWrite wire call).payload.length = dataLength call := length_bytesAt _ _ _
  constructor
  · intro right
    have paged := right.paged _ (List.mem_singleton_self _)
    rwa [length] at paged
  · intro fits
    constructor
    · refine ⟨[], ?_⟩
      rw [List.map_singleton, List.flatten_singleton, payload_onlyWrite, List.append_nil]
    · exact ⟨rfl, trivial⟩
    · intro command member
      rw [List.mem_singleton.mp member, length]
      exact fits
    · intro command member empty
      rw [List.mem_singleton.mp member] at empty
      rw [empty] at length
      exact some length.symm

theorem rightFrom_short (some : dataLength call ≠ 0) :
    RightFrom wire call .short ↔ address wire call % wire.pageSize + dataLength call ≤ wire.pageSize := by
  rw [← onlyWrite_paged some]
  constructor
  · intro right
    have paged := right.paged [good]
    obtain ⟨result, stepped⟩ := @short_step wire call good
    rwa [run_done stepped] at paged
  · intro paged
    constructor
    · intro replies
      obtain ⟨result, stepped⟩ := @short_step wire call (replies 0)
      exact ⟨1, result, by rw [firsts_cons, run_done stepped]⟩
    · intro replies
      cases replies with
      | nil => exact writesPaged_nil
      | cons reply rest =>
          obtain ⟨result, stepped⟩ := @short_step wire call reply
          rw [run_done stepped]
          exact paged
    · intro replies result ended carried
      cases replies with
      | nil => contradiction
      | cons reply rest =>
          obtain ⟨result, stepped⟩ := @short_step wire call reply
          rw [run_done stepped]
          exact (List.append_nil _).trans payload_onlyWrite

/-! ## The loop is right -/

theorem divisors_page : ∀ size ≤ 16, size ∣ 16 → size = 1 ∨ size = 2 ∨ size = 4 ∨ size = 8 ∨ size = 16 := by
  decide

theorem page_divides (wire : Wire) : wire.pageSize ∣ 16 := by
  cases wire <;> decide

/-- In front of the last address the source of a piece does not wrap around. -/
theorem source_inside (kept : PiecesKept wire call) (more : j * pieceSize wire call < dataLength call) :
    5 + j * pieceSize wire call < 256 := by
  have short := dataLength_lt call
  have range := kept.range
  have size := @pieceSize_le wire call
  have first := piece_first kept.some
  have aligned := @piece_aligned wire call
  have most : wire.pageSize ≤ 16 := Nat.le_of_dvd (by decide) (page_divides wire)
  cases kept.pages with
  | inl few => omega
  | inr divides =>
      have sizes := divisors_page _ (Nat.le_trans size most) (Nat.dvd_trans divides (page_divides wire))
      have page : wire.pageSize = 8 ∨ wire.pageSize = 16 := by cases wire <;> decide
      generalize pieceSize wire call = size at *
      generalize address wire call = address at *
      obtain page | page := page
      · rw [page] at first aligned
        obtain rfl | rfl | rfl | rfl | rfl := sizes <;> omega
      · rw [page] at first aligned
        obtain rfl | rfl | rfl | rfl | rfl := sizes <;> omega

/-- Every piece stays in its page. -/
theorem piece_in_page (kept : PiecesKept wire call) (more : j * pieceSize wire call < dataLength call) :
    (address wire call + j * pieceSize wire call) % wire.pageSize + pieceLength wire call j ≤ wire.pageSize := by
  have few : pieceLength wire call j ≤ pieceSize wire call := Nat.min_le_left _ _
  have left : pieceLength wire call j ≤ dataLength call - j * pieceSize wire call := Nat.min_le_right _ _
  cases j with
  | zero =>
      have first := piece_first kept.some
      rw [Nat.zero_mul, Nat.add_zero]
      omega
  | succ j =>
      rw [place_later]
      have next : (j + 1) * pieceSize wire call = j * pieceSize wire call + pieceSize wire call := Nat.succ_mul _ _
      cases kept.pages with
      | inl two =>
          rw [Nat.mod_eq_of_lt (by omega)]
          omega
      | inr divides =>
          obtain ⟨times, whole⟩ := divides
          have positive : 0 < wire.pageSize := by cases wire <;> decide
          have multiple : j * pieceSize wire call % wire.pageSize = j % times * pieceSize wire call := by
            conv => lhs; rw [whole, Nat.mul_comm j, Nat.mul_mod_mul_left]
            exact Nat.mul_comm _ _
          have below : j % times + 1 ≤ times := by
            apply Nat.mod_lt
            apply Nat.pos_of_ne_zero
            intro zero
            rw [whole, zero] at positive
            exact absurd positive (Nat.lt_irrefl 0)
          have product := Nat.mul_le_mul_right (pieceSize wire call) below
          rw [Nat.succ_mul, Nat.mul_comm times, ← whole] at product
          rw [multiple]
          omega

/-- A piece is the next part of the data. -/
theorem payload_pieceAt (kept : PiecesKept wire call) (more : j * pieceSize wire call < dataLength call) :
    (pieceAt wire call j).payload =
      ((bytesAt call.cmd 5 (dataLength call)).drop (j * pieceSize wire call)).take (pieceLength wire call j) := by
  have inside := source_inside kept more
  have room : j * pieceSize wire call + pieceLength wire call j ≤ dataLength call := by
    rw [pieceLength]
    omega
  obtain ⟨rest, whole⟩ := Nat.exists_eq_add_of_le room
  rw [pieceAt, S7Command.payload, Nat.mod_eq_of_lt inside]
  rw [whole, Nat.add_assoc, bytesAt_add, bytesAt_add call.cmd (5 + j * pieceSize wire call),
    List.drop_left' (length_bytesAt _ _ _), List.take_left' (length_bytesAt _ _ _)]
  apply bytesAt_same
  intro index behind _
  exact memoryAt_behind (by omega)

/-- The first pieces of the loop. -/
def pieces (wire : Wire) (call : SyncCall) (n : Nat) : List S7Command := (List.range n).map (pieceAt wire call)

theorem pieces_succ : pieces wire call (n + 1) = pieces wire call n ++ [pieceAt wire call n] := by
  rw [pieces, List.range_succ, List.map_append, List.map_singleton]
  rfl

theorem pieces_data (kept : PiecesKept wire call) (within : ∀ k, k < n → k * pieceSize wire call < dataLength call) :
    Consecutive (bytesAt call.cmd 5 (dataLength call)) ((pieces wire call n).map S7Command.payload)
      (min (n * pieceSize wire call) (dataLength call)) := by
  induction n with
  | zero =>
      rw [Nat.zero_mul, Nat.zero_min]
      exact consecutive_nil _
  | succ n ih =>
      have more := within n (Nat.lt_succ_self n)
      have before := ih fun k below => within k (Nat.lt_succ_of_lt below)
      have offset : min (n * pieceSize wire call) (dataLength call) = n * pieceSize wire call :=
        Nat.min_eq_left (Nat.le_of_lt more)
      have next : min ((n + 1) * pieceSize wire call) (dataLength call) =
          n * pieceSize wire call + pieceLength wire call n := by
        rw [pieceLength, Nat.succ_mul]
        omega
      rw [offset] at before
      rw [pieces_succ, List.map_append, List.map_singleton, payload_pieceAt kept more, next]
      apply before.next
      rw [length_bytesAt]
      exact Nat.min_le_right _ _

theorem length_pieces (within : n * pieceSize wire call ≤ dataLength call) :
    ((pieces wire call n).map S7Command.payload).flatten.length = n * pieceSize wire call := by
  induction n with
  | zero =>
      rw [Nat.zero_mul]
      rfl
  | succ n ih =>
      rw [Nat.succ_mul] at within ⊢
      rw [pieces_succ, List.map_append, List.flatten_append, List.length_append, ih (by omega), List.map_singleton,
        List.flatten_singleton, length_pieceAt, pieceLength, Nat.min_eq_left (by omega)]

theorem pieces_follow (kept : PiecesKept wire call) (within : ∀ k, k < n → k * pieceSize wire call < dataLength call) :
    Addressed S7Command.place S7Command.payload (address wire call) (pieces wire call n) := by
  induction n with
  | zero => trivial
  | succ n ih =>
      have range := kept.range
      have more := within n (Nat.lt_succ_self n)
      rw [pieces_succ, addressed_snoc]
      constructor
      · exact ih fun k below => within k (Nat.lt_succ_of_lt below)
      · rw [place_pieceAt, length_pieces (Nat.le_of_lt more)]
        exact Nat.mod_eq_of_lt (by omega)

theorem pieces_right (kept : PiecesKept wire call) (within : ∀ k, k < n → k * pieceSize wire call < dataLength call) :
    WritesPaged wire call (pieces wire call n) := by
  have positive := Nat.pos_of_ne_zero kept.some
  have sent := pieces_data kept within
  constructor
  · rw [sent.joined]
    exact ⟨_, (List.take_append_drop _ _).symm⟩
  · exact pieces_follow kept within
  · intro command member
    obtain ⟨k, below, piece⟩ := List.mem_map.mp member
    rw [← piece, place_pieceAt, length_pieceAt, mod_page]
    exact piece_in_page kept (within k (List.mem_range.mp below))
  · intro command member empty
    obtain ⟨k, below, piece⟩ := List.mem_map.mp member
    have more := within k (List.mem_range.mp below)
    have length := @length_pieceAt wire call k
    rw [piece, empty, List.length_nil, pieceLength] at length
    omega

theorem writes_pieces : writes (pieces wire call n) = pieces wire call n := by
  apply List.filter_eq_self.mpr
  intro command member
  obtain ⟨k, _, piece⟩ := List.mem_map.mp member
  rw [← piece]
  rfl

/-- What a run of the loop writes. -/
theorem writes_run {made : Run UpdateState Reply S7Command UpdateEnd} (sent : Pieces wire call replies 0 n made) :
    writes (outputs made.turns) = pieces wire call n := by
  rw [sent.sent, ← List.range_eq_range']
  exact writes_pieces

theorem rightFrom_pieces (long : wire.pageSize < dataLength call) (kept : PiecesKept wire call) :
    RightFrom wire call (.chunk (stateAt wire call 0)) := by
  have positive := Nat.pos_of_ne_zero kept.some
  have more : 0 * pieceSize wire call < dataLength call := by
    rw [Nat.zero_mul]
    exact Nat.zero_lt_of_lt long
  have within {n : Nat} {replies : List Reply} {made : Run UpdateState Reply S7Command UpdateEnd}
      (sent : Pieces wire call replies 0 n made) : ∀ k, k < n → k * pieceSize wire call < dataLength call := by
    intro k below
    have inside := sent.within k below
    rwa [Nat.zero_add] at inside
  constructor
  · intro replies
    obtain ⟨n, sent⟩ := run_pieces long more (firsts replies (dataLength call))
    refine ⟨dataLength call, .status 0x9000, ?_⟩
    cases sent.reached with
    | inl goes =>
        have all := goes.1
        have length : (firsts replies (dataLength call)).length = dataLength call := by simp [firsts]
        have left := goes.2.1
        rw [all, length, Nat.zero_add] at left
        exact absurd (Nat.le_mul_of_pos_right (dataLength call) positive) (Nat.not_le.mpr left)
    | inr done => exact done.1
  · intro replies
    obtain ⟨n, sent⟩ := run_pieces long more replies
    rw [writes_run sent]
    exact pieces_right kept (within sent)
  · intro replies result ended carried
    obtain ⟨n, sent⟩ := run_pieces long more replies
    rw [writes_run sent]
    cases sent.reached with
    | inl goes =>
        rw [goes.2.2] at ended
        contradiction
    | inr done =>
        have last := done.2 carried
        rw [Nat.zero_add] at last
        apply (pieces_data kept (within sent)).complete
        rw [length_bytesAt]
        exact Nat.min_eq_right last

/-! ## Only then -/

/-- Where all commands are carried out, every piece that the data reach is written. -/
theorem pieces_written (long : wire.pageSize < dataLength call)
    (right : RightFrom wire call (.chunk (stateAt wire call 0))) (more : k * pieceSize wire call < dataLength call) :
    WritesPaged wire call (pieces wire call (k + 1)) := by
  have first : 0 * pieceSize wire call < dataLength call := by
    rw [Nat.zero_mul]
    exact Nat.zero_lt_of_lt long
  obtain ⟨n, sent⟩ := run_pieces long first (List.replicate (k + 1) good)
  have paged := right.paged (List.replicate (k + 1) good)
  rw [writes_run sent] at paged
  have all : n = k + 1 := by
    have few := sent.few
    rw [List.length_replicate] at few
    cases sent.reached with
    | inl goes => rw [goes.1, List.length_replicate]
    | inr done =>
        have carried : Carried (run (updateBody wire call) (.chunk (stateAt wire call 0))
            (List.replicate (k + 1) good)).turns := by
          intro turn made
          rw [List.eq_of_mem_replicate (run_input made)]
          exact good_succeeds
        have last := done.2 carried
        rw [Nat.zero_add] at last
        by_contra other
        have before := Nat.mul_le_mul_right (pieceSize wire call) (show n ≤ k by omega)
        omega
  rwa [all] at paged

theorem mem_pieces : pieceAt wire call k ∈ pieces wire call (k + 1) :=
  List.mem_map_of_mem (List.mem_range.mpr (Nat.lt_succ_self k))

theorem pieces_only (long : wire.pageSize < dataLength call)
    (right : RightFrom wire call (.chunk (stateAt wire call 0))) : PiecesKept wire call := by
  have some : pieceSize wire call ≠ 0 := by
    intro zero
    have written := pieces_written long right (k := 0) (by omega)
    have filled := written.some _ mem_pieces
    apply filled
    apply List.eq_nil_of_length_eq_zero
    rw [length_pieceAt, pieceLength, zero, Nat.zero_min]
  have page (k : Nat) (more : k * pieceSize wire call < dataLength call) :
      (address wire call + k * pieceSize wire call) % wire.pageSize + pieceLength wire call k ≤ wire.pageSize := by
    have paged := (pieces_written long right more).paged _ mem_pieces
    rwa [place_pieceAt, length_pieceAt, mod_page] at paged
  have positive := Nat.pos_of_ne_zero some
  have size := @pieceSize_le wire call
  constructor
  · exact some
  · -- the last piece
    have filled : dataLength call ≠ 0 := by omega
    have most : (dataLength call - 1) / pieceSize wire call * pieceSize wire call ≤ dataLength call - 1 :=
      Nat.div_mul_le_self _ _
    have reached : dataLength call - 1 < ((dataLength call - 1) / pieceSize wire call + 1) * pieceSize wire call :=
      Nat.lt_mul_of_div_lt (Nat.lt_succ_self _) positive
    rw [Nat.succ_mul] at reached
    generalize (dataLength call - 1) / pieceSize wire call = last at most reached
    have more : last * pieceSize wire call < dataLength call := by omega
    have follows := (pieces_written long right more).follows
    rw [pieces_succ, addressed_snoc, place_pieceAt, length_pieces (Nat.le_of_lt more)] at follows
    have below : address wire call + last * pieceSize wire call < 256 := by
      rw [← follows.2]
      exact Nat.mod_lt _ (by decide)
    have inside := page last more
    have rest : pieceLength wire call last = dataLength call - last * pieceSize wire call := by
      rw [pieceLength]
      omega
    rw [rest] at inside
    generalize last * pieceSize wire call = sent at *
    cases wire with
    | three =>
        simp only [Wire.pageSize] at inside
        omega
    | two =>
        simp only [Wire.pageSize] at inside
        omega
  · by_contra neither
    rw [not_or, Nat.not_le] at neither
    -- the last piece that begins in the second page runs over its end
    have divided := Nat.div_add_mod' wire.pageSize (pieceSize wire call)
    have ragged : wire.pageSize % pieceSize wire call ≠ 0 :=
      fun whole => neither.2 (Nat.dvd_of_mod_eq_zero whole)
    have left := Nat.mod_lt wire.pageSize positive
    generalize wire.pageSize / pieceSize wire call = full at divided
    have begins : (full + 1) * pieceSize wire call = full * pieceSize wire call + pieceSize wire call := Nat.succ_mul _ _
    have inside := page (full + 1) (by omega)
    rw [place_later, Nat.mod_eq_of_lt (by omega), pieceLength] at inside
    omega

/-- The pieces are right exactly where they keep to the pages. -/
theorem page_chunks_right_iff (admitted : Admitted wire call) : ChunksRight wire call ↔ PagesKept wire call := by
  rw [right_iff_firstWrite admitted, firstWrite, PagesKept]
  by_cases short : dataLength call ≤ wire.pageSize
  · rw [if_pos short, if_pos short]
    exact rightFrom_short admitted.some
  · rw [if_neg short, if_neg short]
    have long := Nat.not_le.mp short
    exact ⟨pieces_only long, rightFrom_pieces long⟩

/-- An UPDATE BINARY that the driver takes for a card of the protocols 6 and 7 is cut as it should be. -/
def UpdatePaged (entry : Entry SyncDevice SyncRequest (Option SyncAnswer)) : Prop :=
  ∀ call wire, entry.input = .card call → dispatched entry.before.Protokoll = some (.wire wire) →
    Admitted wire call → ChunksRight wire call

/-- In every run no UPDATE BINARY comes to the loops of the protocols 6 and 7; for a card of these two protocols the
pieces would be right where they keep to the pages. -/
theorem page_chunks_run (requests : List SyncRequest) :
    (∀ entry ∈ history syncRequest .initial requests, NoWire entry ∧ UpdatePaged entry) ∧
      ∀ wire call, Admitted wire call → PagesKept wire call → ChunksRight wire call := by
  constructor
  · intro entry made
    have none_ := noWire_run requests entry made
    refine ⟨none_, fun call wire _ sent => ?_⟩
    exact absurd (dispatched_interpreted sent) (none_ wire)
  · intro wire call admitted kept
    exact (page_chunks_right_iff admitted).mpr kept

theorem page_chunks_aligned : Admitted .three (longUpdate 0x08) ∧ ChunksRight .three (longUpdate 0x08) := by
  have admitted : Admitted .three (longUpdate 0x08) := ⟨rfl, rfl, fun _ => by decide, rfl, by decide⟩
  have kept : PiecesKept .three (longUpdate 0x08) := ⟨by decide, by decide, by decide⟩
  exact ⟨admitted, (page_chunks_run []).2 .three (longUpdate 0x08) admitted kept⟩

/-- Twenty bytes for an address. -/
def updateAt (P2 : UInt8) : SyncCall where
  lenc := 25
  cmd := inMemory ([0x00, 0xD6, 0x00, P2, 0x14] ++ List.replicate 20 0xAA)
  lenr := 258
  response _ := 0
  replies _ := good

theorem page_chunks_not_right :
    (Admitted .three (updateAt 0x0D) ∧ ¬ ChunksRight .three (updateAt 0x0D)) ∧
      Admitted .two (updateAt 0x08) ∧ ¬ ChunksRight .two (updateAt 0x08) := by
  have three : Admitted .three (updateAt 0x0D) := ⟨rfl, rfl, fun _ => by decide, rfl, by decide⟩
  have two : Admitted .two (updateAt 0x08) := ⟨rfl, rfl, nofun, rfl, by decide⟩
  refine ⟨⟨three, ?_⟩, two, ?_⟩
  · intro right
    -- three bytes for each piece, the seventh one at the end of the second page
    have crosses := (right.paged (List.replicate 8 good)).paged (.write 0xB0 0x1F [0xAA, 0xAA]) (by decide)
    exact absurd crosses (by decide)
  · intro right
    have filled := (right.paged [good]).some (.write 0xB0 0x08 []) (by decide)
    exact filled rfl

end Cyberjack.Ppa.WireUpdate
