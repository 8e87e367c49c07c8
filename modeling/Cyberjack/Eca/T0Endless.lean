import Cyberjack.Eca.T0Case2
import Cyberjack.Foundation.Endless

namespace Cyberjack.Eca

open Cyberjack.Foundation

/-! # How long the T=0 loops go on

A card that announces data and sends none changes nothing but the length that is asked for.
-/

/-! ## Case 2 -/

namespace Case2

variable {response_len : UInt16} {m_ApduNorm : ApduNorm} {state : State response_len} {reply : CcidReply}

/-- A status word 6Cxx, or 61xx where the caller has room for it, that is not cut. -/
structure Idle (m_ApduNorm : ApduNorm) (state : State response_len) (reply : CcidReply) : Prop where
  norm : m_ApduNorm ≠ .pcsc
  received : (ccidTransmit (state.head ++ [state.La]) 258 reply).2.1 = .success
  uncut : ¬ state.Cuts
  bare : reply.abData.length = 2
  announces : reply.abData.head? = some 0x6C ∨
    (reply.abData.head? = some 0x61 ∧ state.ges_len + 2 ≤ response_len.toNat)

theorem getResponse_counts (state : State response_len) (Le : UInt8) {next : State response_len}
    (again : (getResponse state Le).2 = .again next) : next.ges_len = state.ges_len := by
  obtain ⟨output, rbuffer, asks⟩ := getResponse_again state Le
  rw [asks] at again
  cases again
  rfl

theorem storeReply_pcsc_ends (state : State response_len) : ¬ (storeReply .pcsc state).2.GoesOn := by
  unfold storeReply
  simp only [if_true]
  repeat' split
  all_goals exact id

/-- A reply that has been stored is followed by a GET RESPONSE behind 61 only. -/
theorem storeReply_counts (norm : m_ApduNorm ≠ .pcsc) (small : state.rlen ≤ 258) (whole : 2 ≤ state.rlen)
    {next : State response_len} (again : (storeReply m_ApduNorm state).2 = .again next) :
    state.ges_len + state.rlen ≤ response_len.toNat ∧ next.ges_len = state.ges_len + (state.rlen - 2) ∧
      state.rbuffer.get (state.rlen - 2) = 0x61 := by
  by_cases room : state.ges_len + state.rlen ≤ response_len.toNat
  · have size := state.rbuffer.length_cells
    have long : (state.rbuffer.cells.take state.rlen).length = state.rlen := by
      rw [List.length_take]
      omega
    obtain ⟨sw1, pair⟩ := statusWord_pair (show 2 ≤ (state.rbuffer.cells.take state.rlen).length by omega)
    have bytes := dataField_statusWord (state.rbuffer.cells.take state.rlen)
    have field : (dataField (state.rbuffer.cells.take state.rlen)).length = state.rlen - 2 := by
      rw [dataField, List.length_take]
      omega
    rw [pair] at bytes
    obtain ⟨response, _, made⟩ := storeReply_iso norm bytes.symm small room
    rw [made] at again
    split at again
    · case isTrue chains =>
        refine ⟨room, ?_, ?_⟩
        · rw [getResponse_counts _ _ again, field]
        · have cell := Buffer.getD_of_take default bytes.symm
            (show state.rlen - 2 < (dataField (state.rbuffer.cells.take state.rlen) ++
              [sw1, xx (state.rbuffer.cells.take state.rlen)]).length by rw [List.length_append, field]; simp)
          rw [Buffer.get, cell, List.getD_eq_getElem?_getD, ← field, List.getElem?_append_right (Nat.le_refl _)]
          simpa using chains
    · cases again
  · rw [storeReply_tooSmall room] at again
    cases again

/-- A status word 61xx that is not cut leads to the next GET RESPONSE. -/
theorem storeReply_bare (norm : m_ApduNorm ≠ .pcsc) {sw2 : UInt8} (bytes : state.rbuffer.cells.take state.rlen = [0x61, sw2])
    (two : state.rlen = 2) (room : state.ges_len + 2 ≤ response_len.toNat) :
    (storeReply m_ApduNorm state).2.GoesOn := by
  obtain ⟨response, _, made⟩ := @storeReply_iso _ _ state norm [] 0x61 sw2 bytes (by omega) (by omega)
  obtain ⟨output, rbuffer, asks⟩ := getResponse_again { state with ges_len := state.ges_len + 0, response } sw2
  rw [made, if_pos rfl]
  change (getResponse { state with ges_len := state.ges_len + 0, response } sw2).2.GoesOn
  rw [asks]
  trivial

theorem idle_goesOn (idle : Idle m_ApduNorm state reply) : (body m_ApduNorm state reply).2.GoesOn := by
  obtain ⟨rbuffer, _, begins, small, made⟩ := @body_received _ m_ApduNorm _ _ idle.received
  have whole : ¬ reply.abData.length < 2 := by
    have two := idle.bare
    omega
  rw [made]
  dsimp only
  rw [if_neg idle.norm, if_neg whole, cutReply_kept idle.uncut]
  dsimp only
  split
  · trivial
  · case isFalse plain =>
      rw [corrects_iff begins] at plain
      rcases idle.announces with repeats | ⟨chains, room⟩
      · exact absurd ⟨idle.bare, repeats⟩ plain
      · obtain ⟨sw1, sw2, pair⟩ := List.length_eq_two.mp idle.bare
        rw [pair] at chains begins
        cases chains
        apply @storeReply_bare _ _ { state with rbuffer, rlen := reply.abData.length } idle.norm sw2 _ idle.bare room
        rw [idle.bare]
        exact begins

/-- A pass that is not idle stores data. -/
theorem body_counts {next : State response_len} (again : (body m_ApduNorm state reply).2 = .again next)
    (room : state.ges_len ≤ response_len.toNat) :
    next.ges_len ≤ response_len.toNat ∧ state.ges_len ≤ next.ges_len ∧
      (¬ Idle m_ApduNorm state reply → state.ges_len < next.ges_len) := by
  by_cases success : (ccidTransmit (state.head ++ [state.La]) 258 reply).2.1 = .success
  · obtain ⟨rbuffer, _, begins, small, made⟩ := @body_received _ m_ApduNorm _ _ success
    rw [made] at again
    dsimp only at again
    by_cases pcsc : m_ApduNorm = .pcsc
    · subst pcsc
      have ends := storeReply_pcsc_ends { state with rbuffer, rlen := reply.abData.length }
      rw [if_pos rfl] at again
      rw [again] at ends
      exact absurd trivial ends
    · rw [if_neg pcsc] at again
      by_cases short : reply.abData.length < 2
      · rw [if_pos short] at again
        cases again
      · rw [if_neg short] at again
        by_cases cuts : state.Cuts
        · obtain ⟨sw1, sw2, _, fits, moved⟩ := cutReply_moved cuts rbuffer reply.abData.length
          have width := state.Le.toNat_lt
          have positive : 0 < state.Le.toNat := toNat_pos cuts.1
          rw [moved] at again
          dsimp only at again
          split at again
          · case isTrue corrects =>
              have two : state.Le.toNat + 2 = 2 := corrects.1
              omega
          · obtain ⟨full, counted, _⟩ := storeReply_counts pcsc (by dsimp only; omega) (by dsimp only; omega) again
            dsimp only at full counted
            refine ⟨by omega, by omega, fun _ => by omega⟩
        · rw [cutReply_kept cuts] at again
          dsimp only at again
          split at again
          · case isTrue corrects =>
              have repeats := (corrects_iff begins).mp corrects
              cases again
              exact ⟨room, Nat.le_refl _, fun other => absurd ⟨pcsc, success, cuts, repeats.1, .inl repeats.2⟩ other⟩
          · obtain ⟨full, counted, chains⟩ := storeReply_counts pcsc small (Nat.le_of_not_lt short) again
            dsimp only at full counted chains
            refine ⟨by omega, by omega, fun other => ?_⟩
            by_contra same
            have two : reply.abData.length = 2 := by omega
            refine other ⟨pcsc, success, cuts, two, .inr ⟨?_, by omega⟩⟩
            obtain ⟨sw1, sw2, pair⟩ := List.length_eq_two.mp two
            rw [two] at chains
            rw [pair] at begins ⊢
            have first : rbuffer.get 0 = sw1 := Buffer.getD_of_take _ begins (by simp)
            rw [List.head?_cons, ← first, chains]
  · rw [body_failed success] at again
    cases again

theorem falls (m_ApduNorm : ApduNorm) :
    Falls (body m_ApduNorm) (fun state : State response_len => state.ges_len ≤ response_len.toNat)
      (fun state => response_len.toNat - state.ges_len) (Idle m_ApduNorm) (fun _ _ => True) (fun outcome => outcome ≠ .fault) where
  keeps := fun _ _ _ room again => (body_counts again room).1
  idles := fun _ _ _ idle => idle_goesOn idle
  measured := by
    intro state reply next room again
    obtain ⟨full, more, counts⟩ := body_counts again room
    exact ⟨by omega, fun active => by have stored := counts active; omega⟩
  fitting := by
    intro state reply _
    refine ⟨fun _ => trivial, fun _ result ended fault => ?_⟩
    rw [fault] at ended
    exact body_inside m_ApduNorm state reply ended

end Case2

/-! ## Case 4 -/

variable {capacity : Nat} {beyond : Int → UInt8} {le : UInt8} {response : Buffer UInt8 capacity} {state : Case4State}
  {reply : CcidReply}

/-- How far a reply is from the loop. -/
def Stage.rank : Stage → Nat
  | .first => 2
  | .warned => 1
  | .chained => 0

/-- A reply is stored inside `rbuffer`. -/
def Case4State.Fits (state : Case4State) (data : List UInt8) : Prop :=
  0 ≤ state.target ∧ state.target + data.length ≤ 258

/-- A status word 61xx or 6Cxx in the loop. -/
structure Case4State.Idle (state : Case4State) (data : List UInt8) : Prop where
  chained : state.stage = .chained
  bare : data.length = 2
  fits : 0 ≤ state.rptr ∧ state.rptr + 2 ≤ 258
  announces : data.head? = some 0x61 ∨ data.head? = some 0x6C

def CcidReply.Received (reply : CcidReply) (state : Case4State) : Prop :=
  (ccidTransmit state.tpdu state.rlen reply).2.1 = .success

/-- The room that is left is asked for. -/
structure Case4State.Counted (state : Case4State) : Prop where
  rest : 2 ≤ state.rest_size ∧ state.rest_size ≤ 258
  room : state.rlen = state.rest_size
  short : state.tpdu.length ≤ 1014

theorem case4Body_outside (success : (ccidTransmit state.tpdu state.rlen reply).2.1 = .success)
    (outside : state.rbuffer.store? state.target reply.abData = none) :
    case4Body beyond le response state reply = ([], .done .fault) := by
  rw [case4Body, (ccidTransmit_success success).1]
  simp only [ne_eq, not_true_eq_false, if_false, outside]

theorem finish_ends (beyond : Int → UInt8) (response : Buffer UInt8 capacity) (state : Case4State) :
    ¬ (finish beyond response state).2.GoesOn ∧ (finish beyond response state).2 ≠ .done .fault := by
  unfold finish
  dsimp only
  split
  · exact ⟨id, by simp⟩
  · exact ⟨id, by simp⟩

/-- What a pass that goes on does. -/
structure GoesOnWith (beyond : Int → UInt8) (state : Case4State) (reply : CcidReply) (next : Case4State) : Prop where
  received : reply.Received state
  asks : next.tpdu.length = 5
  whole : 2 ≤ reply.abData.length
  rest : next.rest_size = uint32 (state.rest_size - ((reply.abData.length : Int) - 2))
  room : next.rlen = uint16 next.rest_size
  stage : (state.stage = .first ∧ next.stage = .warned) ∨
    (next.stage = .chained ∧ ∃ rbuffer, state.rbuffer.store? state.target reply.abData = some rbuffer ∧
      (takeReply rbuffer reply.abData.length state).Chains beyond)

theorem case4Body_again {next : Case4State} (again : (case4Body beyond le response state reply).2 = .again next) :
    GoesOnWith beyond state reply next := by
  by_cases success : (ccidTransmit state.tpdu state.rlen reply).2.1 = .success
  · cases stored : state.rbuffer.store? state.target reply.abData with
    | none =>
        rw [case4Body_outside success stored] at again
        cases again
    | some rbuffer =>
        obtain ⟨_, rlen, rest, _⟩ := takeReply_counted rbuffer reply.abData.length state
        rw [case4Body_received success stored] at again
        dsimp only at again
        split at again
        · case isTrue warned =>
            cases again
            refine ⟨success, rfl, Nat.le_of_eq ?_, rest, rfl, .inl ⟨warned.1, rfl⟩⟩
            rw [← rlen, warned.2.1]
        · split at again
          · case isTrue chains =>
              cases again
              refine ⟨success, rfl, ?_, rest, rfl, .inr ⟨rfl, rbuffer, stored, chains⟩⟩
              rw [← rlen]
              exact chains.1
          · have ends := (finish_ends beyond response (takeReply rbuffer reply.abData.length state)).1
            rw [again] at ends
            exact absurd trivial ends
  · rw [case4Body_failed success] at again
    cases again

theorem GoesOnWith.left {next : Case4State} (continues : GoesOnWith beyond state reply next) (counted : state.Counted) :
    next.rest_size = state.rest_size - (reply.abData.length - 2) ∧ reply.abData.length ≤ state.rest_size := by
  have small := (ccidTransmit_success continues.received).2
  have whole := continues.whole
  have room := counted.room
  have rest := counted.rest
  have left : (state.rest_size : Int) - ((reply.abData.length : Int) - 2) =
      ((state.rest_size - (reply.abData.length - 2) : Nat) : Int) := by omega
  refine ⟨?_, by omega⟩
  rw [continues.rest, left, uint32_of_range (by omega)]

theorem GoesOnWith.counted {next : Case4State} (continues : GoesOnWith beyond state reply next) (counted : state.Counted) :
    next.Counted := by
  obtain ⟨left, small⟩ := continues.left counted
  have rest := counted.rest
  have whole := continues.whole
  have asks := continues.asks
  refine ⟨by omega, ?_, by omega⟩
  rw [continues.room, uint16_of_range (by omega)]

def Case4State.measure (state : Case4State) : Nat := 258 * state.stage.rank + state.rest_size

/-- A status word in the loop is read where it has been stored. -/
theorem chained_announces {rbuffer : Buffer UInt8 258} (chained : state.stage = .chained)
    (stored : state.rbuffer.store? state.target reply.abData = some rbuffer) (bare : reply.abData.length = 2)
    (fits : 0 ≤ state.rptr ∧ state.rptr + 2 ≤ 258) :
    (takeReply rbuffer reply.abData.length state).Chains beyond ↔
      reply.abData.head? = some 0x61 ∨ reply.abData.head? = some 0x6C := by
  obtain ⟨cells, rlen, _⟩ := takeReply_counted rbuffer reply.abData.length state
  have pointer := takeReply_pointer state rbuffer reply.abData.length fun first => by rw [chained] at first; cases first
  have target : state.target = state.rptr := by rw [Case4State.target, chained]
  obtain ⟨offset, place⟩ := Int.eq_ofNat_of_zero_le fits.1
  have room : offset + reply.abData.length ≤ 258 := by omega
  have begins := Buffer.take_store state.rbuffer room
  have same := Buffer.store?_of_room state.rbuffer room
  rw [target, place] at stored
  obtain rfl := Option.some.inj (same.symm.trans stored)
  obtain ⟨sw1, sw2, pair⟩ := List.length_eq_two.mp bare
  have first : (state.rbuffer.store offset reply.abData room).get offset = sw1 := by
    rw [Buffer.get_store, if_neg (by omega), if_pos (by omega), Nat.sub_self, pair]
    rfl
  have reads : (takeReply (state.rbuffer.store offset reply.abData room) reply.abData.length state).rptrAt beyond
      (((takeReply (state.rbuffer.store offset reply.abData room) reply.abData.length state).rlen : Int) - 2) = sw1 := by
    have at' : state.rptr + (((2 : Nat) : Int) - 2) = (offset : Int) := by omega
    rw [Case4State.rptrAt, cells, pointer, rlen, bare, at', memory, if_pos (by omega), Int.toNat_natCast, first]
  unfold Case4State.Chains
  rw [reads, rlen, bare, pair]
  simp

theorem GoesOnWith.measured {next : Case4State} (continues : GoesOnWith beyond state reply next) (counted : state.Counted) :
    next.measure ≤ state.measure ∧ (¬ state.Idle reply.abData → next.measure < state.measure) := by
  obtain ⟨left, small⟩ := continues.left counted
  have rest := counted.rest
  have whole := continues.whole
  unfold Case4State.measure
  rcases continues.stage with ⟨first, warned⟩ | ⟨chained, rbuffer, stored, chains⟩
  · rw [first, warned]
    simp only [Stage.rank]
    omega
  · cases named : state.stage with
    | first =>
        rw [chained]
        simp only [Stage.rank]
        omega
    | warned =>
        rw [chained]
        simp only [Stage.rank]
        omega
    | chained =>
        rw [chained]
        refine ⟨by omega, fun active => ?_⟩
        by_contra same
        have bare : reply.abData.length = 2 := by omega
        have inside : 0 ≤ state.rptr ∧ state.rptr + 2 ≤ 258 := by
          by_contra outside
          have target : state.target = state.rptr := by rw [Case4State.target, named]
          have nothing : state.rbuffer.store? state.target reply.abData = none := by
            rw [Buffer.store?_eq_none, target, bare]
            omega
          rw [nothing] at stored
          cases stored
        exact active ⟨named, bare, inside,
          (chained_announces named stored bare inside).mp chains⟩

theorem Case4State.Idle.continues (idle : state.Idle reply.abData) (received : reply.Received state) :
    (case4Body beyond le response state reply).2.GoesOn := by
  have target : state.target = state.rptr := by rw [Case4State.target, idle.chained]
  have inside := idle.fits
  have bare := idle.bare
  cases stored : state.rbuffer.store? state.target reply.abData with
  | none =>
      rw [Buffer.store?_eq_none, target] at stored
      omega
  | some rbuffer =>
      have later : ¬ (state.stage = .first ∧ (takeReply rbuffer reply.abData.length state).rlen = 2 ∧ Warns rbuffer) := by
        rw [idle.chained]
        simp
      rw [case4Body_received received stored]
      dsimp only
      rw [if_neg later, if_pos ((chained_announces idle.chained stored bare inside).mpr idle.announces)]
      trivial

theorem case4Body_fits (beyond : Int → UInt8) (le : UInt8) (response : Buffer UInt8 capacity) (state : Case4State)
    (reply : CcidReply) :
    (∀ outcome, (case4Body beyond le response state reply).2 = .done outcome → outcome ≠ .fault) ↔
      (reply.Received state → state.Fits reply.abData) := by
  by_cases success : (ccidTransmit state.tpdu state.rlen reply).2.1 = .success
  · cases stored : state.rbuffer.store? state.target reply.abData with
    | none =>
        rw [case4Body_outside success stored]
        rw [Buffer.store?_eq_none] at stored
        constructor
        · exact fun good => absurd rfl (good .fault rfl)
        · intro fits
          obtain ⟨low, high⟩ := fits success
          omega
    | some rbuffer =>
        have some : state.rbuffer.store? state.target reply.abData ≠ none := by rw [stored]; simp
        rw [ne_eq, Buffer.store?_eq_none, not_not] at some
        refine ⟨fun _ _ => ⟨some.1, by omega⟩, fun _ outcome ended fault => ?_⟩
        rw [case4Body_received success stored] at ended
        dsimp only at ended
        split at ended
        · cases ended
        · split at ended
          · cases ended
          · have good := (finish_ends beyond response (takeReply rbuffer reply.abData.length state)).2
            rw [ended, fault] at good
            exact good rfl
  · rw [case4Body_failed success]
    refine ⟨fun _ received => absurd received success, fun _ outcome ended fault => ?_⟩
    rw [fault] at ended
    cases ended

theorem case4_falls (beyond : Int → UInt8) (le : UInt8) (response : Buffer UInt8 capacity) :
    Falls (case4Body beyond le response) Case4State.Counted Case4State.measure
      (fun state reply => reply.Received state ∧ state.Idle reply.abData)
      (fun state reply => reply.Received state → state.Fits reply.abData) (fun outcome => outcome ≠ .fault) where
  keeps := fun _ _ _ counted again => (case4Body_again again).counted counted
  idles := fun _ _ _ idle => idle.2.continues idle.1
  measured := by
    intro state reply next counted again
    have continues := case4Body_again again
    obtain ⟨lower, active⟩ := continues.measured counted
    exact ⟨lower, fun other => active fun idle => other ⟨continues.received, idle⟩⟩
  fitting := fun state reply _ => case4Body_fits beyond le response state reply

theorem case4Start_counted (apdu : Case4Apdu) (rbuffer : Buffer UInt8 258) : (case4Start apdu rbuffer).Counted where
  rest := ⟨show 2 ≤ 258 by decide, Nat.le_refl 258⟩
  room := rfl
  short := case4Start_short apdu rbuffer

end Cyberjack.Eca
