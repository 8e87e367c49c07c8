import Cyberjack.Ppa.T0

namespace Cyberjack.Ppa.T0

open Cyberjack.Foundation Cyberjack.Eca

/-! # What APDU2TPDU_T0 leaves in the response

The arrays hold anything before the call, so the response is right for certain only where it
does not depend on them.
-/

abbrev Turns := List (Turn State Reply Event)

def tpdus (turns : Turns) : List (List UInt8) := turns.map fun turn => turn.input.abData

@[simp] theorem tpdus_append (first second : Turns) : tpdus (first ++ second) = tpdus first ++ tpdus second :=
  List.map_append

/-- The data of all replies, cut where case 2 has been repeated, and the last status word. -/
def answer (cmd : List UInt8) (tpdus : List (List UInt8)) : List UInt8 :=
  (if cmd.length = 5 ∧ 1 < tpdus.length then (tpdus.flatMap dataField).take (Case2.asked (cmd.getD 4 0))
    else tpdus.flatMap dataField) ++ Eca.statusWord (tpdus.getLastD [])

/-- SW1 announces data. -/
def Announces (sw1 : UInt8) : Prop := sw1 = 0x61 ∨ sw1 = 0x6C

instance (sw1 : UInt8) : Decidable (Announces sw1) := inferInstanceAs (Decidable (_ ∨ _))

/-- Where the status word of a reply is read in case 4, and `rptr[rlen-1]` once the pointer has been
moved to a status word that announces data. -/
def Within : State → Reply → Prop
  | .case4 _ _ state, reply =>
      ∀ data, cjccid_XfrBlock reply state.rlen = .ok data → 2 ≤ data.length →
        ∀ rbuffer ∈ state.rbuffer.store? state.target data,
          let word := (takeReply rbuffer data.length state).rptr + ((data.length : Int) - 2)
          0 ≤ word ∧ word + 2 ≤ 258 ∧ (Announces (rbuffer.get word.toNat) → word + ((data.length : Int) - 1) < 258)
  | _, _ => True

/-- In case 4 the data so far stand in front of the next reply. -/
def Placed (past : Turns) : State → Prop
  | .case4 _ _ state =>
      state.target = ((tpdus past).flatMap dataField).length ∧
        state.rbuffer.cells.take ((tpdus past).flatMap dataField).length = (tpdus past).flatMap dataField
  | _ => True

variable {lenr : UInt16}

structure Answers (cmd : List UInt8) (sent : List (List UInt8)) (outcome : Result lenr) : Prop where
  inside : outcome ≠ .fault
  assembled : ∀ response length, outcome = .returned .success response length →
    length ≤ lenr.toNat ∧ length ≤ 258 ∧ response.cells.take length = answer cmd sent

structure Assembles (cmd : List UInt8) (made : Exchange lenr) : Prop where
  within : ∀ turn ∈ made.turns, Within turn.before turn.input
  placed : ∀ front turn back, made.turns = front ++ turn :: back → Placed front turn.before
  waiting : ∀ state, made.outcome = .again state → Placed made.turns state
  returned : ∀ outcome, made.outcome = .done outcome → Answers cmd (tpdus made.turns) outcome

/-- The reply to the command with a corrected length. -/
def SoundRetry (lenr : UInt16) (Le sbuffer4 : UInt8) (data : List UInt8) : Prop :=
  if data.length = 2 then 2 ≤ lenr.toNat
  else if Le ≠ 0 ∧ sbuffer4 > Le then lenr.toNat < 2 + Le.toNat
  else lenr.toNat < 2 + sbuffer4.toNat ∨
    (2 + sbuffer4.toNat ≤ data.length ∧ min (data.length - 2) (Case2.asked Le) = sbuffer4.toNat ∧
      (data.drop sbuffer4.toNat).take 2 = Eca.statusWord data)

/-- The first reply in case 4. -/
def SoundFirst (data : List UInt8) : Prop :=
  data.length ≤ 2 ∨ (data.length = 3 ∧ data.getD 2 0 ∉ [0x61, 0x6C])

/-- The first reply is a status word behind which GET RESPONSE is sent. -/
def Continues (data : List UInt8) : Prop :=
  data.length = 2 ∧ (Announces (data.getD 0 0) ∨
    (data.getD 0 0 &&& 0xF0 = 0x90 ∧ (data.getD 0 0 ≠ 0x90 ∨ data.getD 1 0 ≠ 0x00)) ∨
    data.getD 0 0 = 0x62 ∨ data.getD 0 0 = 0x63)

/-- Replies to GET RESPONSE behind `total` bytes of data: one that announces more leaves room for as
many bytes behind its status word as it has data. -/
def SoundChain : Nat → List Reply → Prop
  | _, [] => True
  | total, reply :: rest =>
      ∀ data, cjccid_XfrBlock reply (258 - total) = .ok data → 2 ≤ data.length →
        Announces (data.getD (data.length - 2) 0) →
          total + 2 * data.length ≤ 260 ∧ SoundChain (total + (data.length - 2)) rest

structure Sound (lenr : UInt16) (cmd : List UInt8) (replies : List Reply) : Prop where
  retry : cmd.length = 5 → ∀ first second rest sbuffer4 data, replies = first :: second :: rest →
    cjccid_XfrBlock first 258 = .ok [0x6C, sbuffer4] → cjccid_XfrBlock second 258 = .ok data →
      SoundRetry lenr (cmd.getD 4 0) sbuffer4 data
  case4 : IsCase4 cmd → ∀ first rest data, replies = first :: rest →
    cjccid_XfrBlock first 258 = .ok data → SoundFirst data ∧ (Continues data → SoundChain 0 rest)

/-! ## Single passes -/

section Steps

variable {memory : Memory lenr} {cmd data : List UInt8} {reply : Reply} {rbuffer : Buffer UInt8 258}
  {sent : List (List UInt8)} {Le sbuffer4 : UInt8} {in_len rlen : Nat}

theorem cjccid_XfrBlock_ok (received : cjccid_XfrBlock reply in_len = .ok data) :
    data = reply.abData ∧ data.length ≤ in_len := by
  unfold cjccid_XfrBlock at received
  repeat' split at received
  all_goals cases received
  case isFalse fits => exact ⟨rfl, Nat.le_of_not_lt fits⟩

theorem cjccid_XfrBlock_error {result : Cjpp} (refused : cjccid_XfrBlock reply in_len = .error result) :
    result ≠ .success := by
  unfold cjccid_XfrBlock at refused
  repeat' split at refused
  all_goals cases refused
  case isTrue failed => exact failed
  all_goals decide

theorem returned_failure {result : Cjpp} {response : Buffer UInt8 lenr.toNat} {length : Nat}
    (failed : result ≠ .success) : Answers cmd sent (.returned result response length) where
  inside := by simp
  assembled := by
    intro copied count returned
    cases returned
    contradiction

theorem deliver_cases (memory : Memory lenr) (rbuffer : Buffer UInt8 258) (small : rlen ≤ 258) :
    (lenr.toNat < rlen ∧ deliver memory rbuffer rlen = ([], .done (.returned .rbufferToSmall memory.response 0))) ∨
      (rlen ≤ lenr.toNat ∧ ∃ response : Buffer UInt8 lenr.toNat,
        response.cells.take rlen = rbuffer.cells.take rlen ∧
          deliver memory rbuffer rlen = ([], .done (.returned .success response rlen))) := by
  have size := rbuffer.length_cells
  unfold deliver
  by_cases full : rlen > lenr.toNat
  · exact .inl ⟨full, if_pos full⟩
  · have bytes : (List.take rlen (List.drop 0 rbuffer.cells)).length = rlen := by
      rw [List.length_take, List.length_drop]
      omega
    obtain ⟨response, stored, begins, _⟩ := memory.response.store?_zero
      (show (List.take rlen (List.drop 0 rbuffer.cells)).length ≤ lenr.toNat by omega)
    rw [bytes] at begins
    rw [if_neg full, show (0 : Int) = ((0 : Nat) : Int) from rfl, Buffer.load?_of_room rbuffer (by omega)]
    dsimp only
    rw [show ((0 : Nat) : Int) = (0 : Int) from rfl, stored]
    exact .inr ⟨Nat.le_of_not_lt full, response, begins, rfl⟩

theorem deliver_answers (memory : Memory lenr) (small : rlen ≤ 258)
    (right : rlen ≤ lenr.toNat → rbuffer.cells.take rlen = answer cmd sent) :
    (deliver memory rbuffer rlen).2.Satisfies (fun _ => False) (Answers cmd sent) := by
  rcases deliver_cases memory rbuffer small with ⟨_, full⟩ | ⟨room, response, copied, ended⟩
  · rw [full]
    exact returned_failure (by decide)
  · rw [ended]
    refine ⟨by simp, ?_⟩
    intro delivered length returned
    cases returned
    exact ⟨room, small, copied.trans (right room)⟩

theorem deliverStatus_answers (memory : Memory lenr) (room : 2 ≤ lenr.toNat)
    (right : rbuffer.cells.take 2 = answer cmd sent) :
    (deliverStatus memory rbuffer).2.Satisfies (fun _ => False) (Answers cmd sent) := by
  have same : deliverStatus memory rbuffer = deliver memory rbuffer 2 := (if_neg (by omega)).symm
  rw [same]
  exact deliver_answers memory (by decide) fun _ => right

/-- The status word is copied without looking for room. -/
theorem deliverStatus_fault (memory : Memory lenr) (rbuffer : Buffer UInt8 258) (none : lenr.toNat < 2) :
    (deliverStatus memory rbuffer).2 = .done .fault := by
  have size := rbuffer.length_cells
  have bytes : (List.take 2 (List.drop 0 rbuffer.cells)).length = 2 := by
    rw [List.length_take, List.length_drop]
    omega
  have outside : memory.response.store? 0 (List.take 2 (List.drop 0 rbuffer.cells)) = Option.none := by
    rw [Buffer.store?_eq_none, bytes]
    omega
  unfold deliverStatus
  rw [show (0 : Int) = ((0 : Nat) : Int) from rfl, Buffer.load?_of_room rbuffer (by omega)]
  dsimp only
  rw [show ((0 : Nat) : Int) = (0 : Int) from rfl, outside]

/-- Where a reply is cut, the last byte of the response is the one that was there before. -/
theorem deliverCut_stale (memory : Memory lenr) (rbuffer : Buffer UInt8 258) (cut : 0 < Le.toNat)
    (room : 2 + Le.toNat ≤ lenr.toNat) :
    ∃ response, (deliverCut memory Le sbuffer4 rbuffer).2 = .done (.returned .success response (Le.toNat + 2)) ∧
      response.get (Le.toNat + 1) = memory.response.get (Le.toNat + 1) := by
  have size := rbuffer.length_cells
  have wide := Le.toNat_lt
  have far := sbuffer4.toNat_lt
  have data : (List.take Le.toNat (List.drop 0 rbuffer.cells)).length = Le.toNat := by
    rw [List.length_take, List.length_drop]
    omega
  have word : (List.take 2 (List.drop sbuffer4.toNat rbuffer.cells)).length = 2 := by
    rw [List.length_take, List.length_drop]
    omega
  obtain ⟨first, stored, _, behind⟩ := memory.response.store?_zero
    (show (List.take Le.toNat (List.drop 0 rbuffer.cells)).length ≤ lenr.toNat by omega)
  obtain ⟨second, overwritten, _, stale⟩ := first.store?_zero
    (show (List.take 2 (List.drop sbuffer4.toNat rbuffer.cells)).length ≤ lenr.toNat by omega)
  refine ⟨second, ?_, ?_⟩
  · unfold deliverCut
    rw [if_neg (by omega), show (0 : Int) = ((0 : Nat) : Int) from rfl,
      Buffer.load?_of_room rbuffer (by omega), Buffer.load?_of_room rbuffer (by omega)]
    dsimp only
    rw [show ((0 : Nat) : Int) = (0 : Int) from rfl, stored]
    dsimp only
    rw [overwritten]
  · rw [stale _ (by omega), behind _ (by omega)]

theorem answer_retry (case2 : cmd.length = 5) :
    answer cmd [[0x6C, sbuffer4], data] =
      (dataField data).take (Case2.asked (cmd.getD 4 0)) ++ Eca.statusWord data := by
  rw [answer, if_pos ⟨case2, by simp⟩]
  simp [dataField]

theorem uncut_iff (begins : rbuffer.cells.take data.length = data) {limit : Nat} :
    rbuffer.cells.take (2 + sbuffer4.toNat) = (dataField data).take limit ++ Eca.statusWord data ↔
      2 + sbuffer4.toNat ≤ data.length ∧ min (data.length - 2) limit = sbuffer4.toNat ∧
        (data.drop sbuffer4.toNat).take 2 = Eca.statusWord data := by
  have size := rbuffer.length_cells
  have far := sbuffer4.toNat_lt
  have copied : (rbuffer.cells.take (2 + sbuffer4.toNat)).length = 2 + sbuffer4.toNat := by
    rw [List.length_take]
    omega
  have field : ((dataField data).take limit).length = min limit (data.length - 2) := by
    rw [List.length_take, dataField, List.length_take]
    omega
  have word : (Eca.statusWord data).length = data.length - (data.length - 2) := by rw [Eca.statusWord, List.length_drop]
  have short : 2 + sbuffer4.toNat ≤ data.length →
      rbuffer.cells.take (2 + sbuffer4.toNat) = data.take (2 + sbuffer4.toNat) := by
    intro enough
    have shorter := congrArg (List.take (2 + sbuffer4.toNat)) begins
    rwa [List.take_take, Nat.min_eq_left enough] at shorter
  have parts : data.take (2 + sbuffer4.toNat) = data.take sbuffer4.toNat ++ (data.drop sbuffer4.toNat).take 2 := by
    rw [Nat.add_comm, List.take_add]
  constructor
  · intro same
    have lengths := congrArg List.length same
    rw [copied, List.length_append, field, word] at lengths
    have enough : 2 + sbuffer4.toNat ≤ data.length := by omega
    rw [short enough, parts] at same
    refine ⟨enough, by omega, (List.append_inj same ?_).2⟩
    rw [List.length_take, field]
    omega
  · intro right
    obtain ⟨enough, taken, last⟩ := right
    rw [short enough, parts, last, dataField, List.take_take, Nat.min_comm, taken]

theorem retried_answers (memory : Memory lenr) (case2 : cmd.length = 5) (begins : rbuffer.cells.take data.length = data)
    (sound : SoundRetry lenr (cmd.getD 4 0) sbuffer4 data) :
    (retried memory (cmd.getD 4 0) sbuffer4 rbuffer data.length).2.Satisfies (fun _ => False)
      (Answers cmd [[0x6C, sbuffer4], data]) := by
  have expects := @answer_retry cmd data sbuffer4 case2
  unfold SoundRetry at sound
  unfold retried
  by_cases bare : data.length = 2
  · rw [if_pos bare] at sound ⊢
    apply deliverStatus_answers memory sound
    rw [bare] at begins
    rw [expects, begins, dataField, Eca.statusWord, bare]
    simp
  · rw [if_neg bare] at sound ⊢
    by_cases cuts : cmd.getD 4 0 ≠ 0 ∧ sbuffer4 > cmd.getD 4 0
    · rw [if_pos cuts] at sound ⊢
      have full : deliverCut memory (cmd.getD 4 0) sbuffer4 rbuffer =
          ([], .done (.returned .rbufferToSmall memory.response 0)) := if_pos sound
      rw [full]
      exact returned_failure (by decide)
    · rw [if_neg cuts] at sound ⊢
      have far := sbuffer4.toNat_lt
      split
      · exact returned_failure (by decide)
      · case isFalse room =>
          apply deliver_answers memory (by omega)
          intro _
          rw [expects]
          exact (uncut_iff begins).mpr (sound.resolve_left room)

/-- Memory that holds one value wherever the code does not look at it by design. -/
def staleMemory (lenr : UInt16) (value : UInt8) : Memory lenr :=
  ⟨.filled lenr.toNat value, .filled 258 0x61, fun _ => 0x61⟩

theorem filled_get {size index : Nat} (value : UInt8) (inside : index < size) :
    (Buffer.filled size value).get index = value := by
  simp [Buffer.get, Buffer.filled, List.getD_eq_getElem?_getD, inside]

/-- A reply that is cut is not delivered as it should be, whatever it is. -/
theorem cut_wrong (cut : 0 < Le.toNat) (room : 2 + Le.toNat ≤ lenr.toNat)
    (right : ∀ value, (deliverCut (staleMemory lenr value) Le sbuffer4 rbuffer).2.Satisfies (fun _ => False) (Answers cmd sent)) :
    False := by
  have cell : ∀ value, (answer cmd sent).getD (Le.toNat + 1) 0 = value := by
    intro value
    have answers := right value
    obtain ⟨response, ended, stale⟩ := @deliverCut_stale lenr Le sbuffer4 (staleMemory lenr value) rbuffer cut room
    rw [ended] at answers
    obtain ⟨_, _, copied⟩ := answers.assembled response _ rfl
    have kept : (staleMemory lenr value).response.get (Le.toNat + 1) = value := filled_get value (by omega)
    rw [← copied, ← kept, ← stale, Buffer.get, List.getD_eq_getElem?_getD, List.getElem?_take, if_pos (by omega),
      ← List.getD_eq_getElem?_getD]
    rfl
  exact absurd ((cell 0).symm.trans (cell 1)) (by decide)

theorem retried_sound (case2 : cmd.length = 5)
    (begins : rbuffer.cells.take data.length = data)
    (right : ∀ value, (retried (staleMemory lenr value) (cmd.getD 4 0) sbuffer4 rbuffer data.length).2.Satisfies
      (fun _ => False) (Answers cmd [[0x6C, sbuffer4], data])) : SoundRetry lenr (cmd.getD 4 0) sbuffer4 data := by
  have expects := @answer_retry cmd data sbuffer4 case2
  unfold SoundRetry
  unfold retried at right
  by_cases bare : data.length = 2
  · rw [if_pos bare]
    by_contra none
    have answers := right 0
    rw [if_pos bare, deliverStatus_fault _ _ (Nat.lt_of_not_le none)] at answers
    exact answers.inside rfl
  · rw [if_neg bare]
    simp only [if_neg bare] at right
    by_cases cuts : cmd.getD 4 0 ≠ 0 ∧ sbuffer4 > cmd.getD 4 0
    · rw [if_pos cuts]
      simp only [if_pos cuts] at right
      by_contra room
      have cut : 0 < (cmd.getD 4 0).toNat := toNat_pos cuts.1
      exact cut_wrong cut (Nat.le_of_not_lt room) right
    · rw [if_neg cuts]
      by_cases full : lenr.toNat < 2 + sbuffer4.toNat
      · exact .inl full
      · right
        have answers := right 0
        have far := sbuffer4.toNat_lt
        rw [if_neg cuts, if_neg full] at answers
        rcases deliver_cases (staleMemory lenr 0) rbuffer (show 2 + sbuffer4.toNat ≤ 258 by omega) with
          ⟨small, _⟩ | ⟨_, response, copied, ended⟩
        · exact absurd small full
        · rw [ended] at answers
          obtain ⟨_, _, taken⟩ := answers.assembled response _ rfl
          rw [copied, expects] at taken
          exact (uncut_iff begins).mp taken

theorem body_refused {result : Cjpp} {state : State} (refused : cjccid_XfrBlock reply state.rlen = .error result) :
    body memory state reply = failed memory result := by rw [body, refused]

theorem body_single (received : cjccid_XfrBlock reply 258 = .ok data)
    (stored : memory.rbuffer.store? 0 data = some rbuffer) :
    body memory .single reply = deliver memory rbuffer data.length := by
  have given : cjccid_XfrBlock reply State.single.rlen = .ok data := received
  rw [body, given]
  dsimp only
  rw [stored]

theorem body_read {header : List UInt8} (received : cjccid_XfrBlock reply 258 = .ok data)
    (stored : memory.rbuffer.store? 0 data = some rbuffer) :
    body memory (.read header Le) reply =
      if data.length = 2 ∧ rbuffer.get 0 = 0x6C then
        ([.transmitted (header ++ [rbuffer.get 1])], .again (.retry Le (rbuffer.get 1) rbuffer))
      else deliver memory rbuffer data.length := by
  have given : cjccid_XfrBlock reply (State.read header Le).rlen = .ok data := received
  rw [body, given]
  dsimp only
  rw [stored]

theorem body_retry {before : Buffer UInt8 258} (received : cjccid_XfrBlock reply 258 = .ok data)
    (stored : before.store? 0 data = some rbuffer) :
    body memory (.retry Le sbuffer4 before) reply = retried memory Le sbuffer4 rbuffer data.length := by
  have given : cjccid_XfrBlock reply (State.retry Le sbuffer4 before).rlen = .ok data := received
  rw [body, given]
  dsimp only
  rw [stored]

/-- A reply is asked for again if it is the status word 6Cxx. -/
theorem repeats_iff (begins : rbuffer.cells.take data.length = data) :
    data.length = 2 ∧ rbuffer.get 0 = 0x6C ↔ data = [0x6C, rbuffer.get 1] := by
  constructor
  · intro repeats
    obtain ⟨sw1, sw2, pair⟩ := List.length_eq_two.mp repeats.1
    subst pair
    have high : rbuffer.get 0 = sw1 := Buffer.getD_of_take _ begins (by simp)
    have low : rbuffer.get 1 = sw2 := Buffer.getD_of_take _ begins (by simp)
    rw [← high, repeats.2, low]
  · intro pair
    generalize rbuffer.get 1 = sw2 at pair
    subst pair
    exact ⟨rfl, Buffer.getD_of_take _ begins (by simp)⟩

end Steps

/-! ## Case 1 to 3 -/

section Runs

variable {cmd : List UInt8} {made : Exchange lenr}

/-- Not in case 4. -/
def Plain (state : State) : Prop := ∀ past reply, Placed past state ∧ Within state reply

theorem assembles_done {opening : List Event} {turns : Turns} {outcome : Result lenr}
    (plain : ∀ turn ∈ turns, Plain turn.before) :
    Assembles cmd ⟨opening, turns, .done outcome⟩ ↔ Answers cmd (tpdus turns) outcome := by
  constructor
  · exact fun assembles => assembles.returned outcome rfl
  · intro answers
    refine ⟨fun turn member => (plain turn member [] turn.input).2, ?_, ?_, ?_⟩
    · intro front turn back split
      have member : turn ∈ turns := by rw [show turns = _ from split]; simp
      exact (plain turn member front turn.input).1
    · intro state waits
      cases waits
    · intro result ended
      cases ended
      exact answers

theorem assembles_again {opening : List Event} {turns : Turns} {state : State}
    (plain : ∀ turn ∈ turns, Plain turn.before) (waits : Plain state) :
    Assembles cmd (⟨opening, turns, .again state⟩ : Exchange lenr) := by
  refine ⟨fun turn member => (plain turn member [] turn.input).2, ?_, ?_, ?_⟩
  · intro front turn back split
    have member : turn ∈ turns := by rw [show turns = _ from split]; simp
    exact (plain turn member front turn.input).1
  · intro next same
    cases same
    exact (waits turns ⟨.success, 0, 0, []⟩).1
  · intro result ended
    cases ended

theorem answer_alone {data : List UInt8} : answer cmd [data] = data := by
  simp [answer, dataField_statusWord]

theorem failed_answers {memory : Memory lenr} {sent : List (List UInt8)} {result : Cjpp} (failure : result ≠ .success) :
    (failed memory result).2.Satisfies (fun _ => False) (Answers cmd sent) := returned_failure failure

theorem plain_single : Plain .single := fun _ _ => ⟨trivial, trivial⟩

theorem plain_read (header : List UInt8) (Le : UInt8) : Plain (.read header Le) := fun _ _ => ⟨trivial, trivial⟩

theorem plain_retry (Le sbuffer4 : UInt8) (rbuffer : Buffer UInt8 258) : Plain (.retry Le sbuffer4 rbuffer) :=
  fun _ _ => ⟨trivial, trivial⟩

theorem single_assembles (memory : Memory lenr) (opening : List Event) (replies : List Reply) :
    Assembles cmd (call (body memory) (opening, .again .single) replies) := by
  cases replies with
  | nil => exact assembles_again (by simp) plain_single
  | cons first rest =>
      have answers : (body memory .single first).2.Satisfies (fun _ => False)
          (Answers cmd [first.abData]) := by
        cases received : cjccid_XfrBlock first 258 with
        | error result =>
            have refused : body memory .single first = failed memory result := body_refused received
            rw [refused]
            exact failed_answers (cjccid_XfrBlock_error received)
        | ok data =>
            obtain ⟨bytes, small⟩ := cjccid_XfrBlock_ok received
            obtain ⟨rbuffer, stored, begins, _⟩ := memory.rbuffer.store?_zero small
            rw [body_single received stored]
            apply deliver_answers memory small
            intro _
            rw [begins, bytes]
            exact answer_alone.symm
      obtain ⟨outcome, ends, right⟩ := answers.ended
      rw [call_ends ends]
      exact (assembles_done (by simpa using plain_single)).mpr right

/-! ## Case 2 -/

theorem deliver_ends (memory : Memory lenr) (rbuffer : Buffer UInt8 258) (rlen : Nat) :
    ¬ (deliver memory rbuffer rlen).2.GoesOn := by
  unfold deliver
  repeat' split
  all_goals exact id

theorem retried_ends (memory : Memory lenr) (Le sbuffer4 : UInt8) (rbuffer : Buffer UInt8 258) (rlen : Nat) :
    ¬ (retried memory Le sbuffer4 rbuffer rlen).2.GoesOn := by
  unfold retried deliverStatus deliverCut deliver
  repeat' split
  all_goals exact id

theorem read_first (memory : Memory lenr) (header : List UInt8) (Le : UInt8) {first : Reply} {data : List UInt8}
    (received : cjccid_XfrBlock first 258 = .ok data) (different : ∀ sbuffer4, data ≠ [0x6C, sbuffer4]) :
    (body memory (.read header Le) first).2.Satisfies (fun _ => False)
      (Answers cmd [first.abData]) := by
  obtain ⟨bytes, small⟩ := cjccid_XfrBlock_ok received
  obtain ⟨rbuffer, stored, begins, _⟩ := memory.rbuffer.store?_zero small
  rw [body_read received stored, if_neg fun repeats => different _ ((repeats_iff begins).mp repeats)]
  apply deliver_answers memory small
  intro _
  rw [begins, bytes]
  exact answer_alone.symm

theorem read_again (memory : Memory lenr) (header : List UInt8) (Le : UInt8) {first : Reply} {sbuffer4 : UInt8}
    {rbuffer : Buffer UInt8 258} (received : cjccid_XfrBlock first 258 = .ok [0x6C, sbuffer4])
    (stored : memory.rbuffer.store? 0 [0x6C, sbuffer4] = some rbuffer) :
    (body memory (.read header Le) first).2 = .again (.retry Le sbuffer4 rbuffer) := by
  obtain ⟨again, same, begins, _⟩ := memory.rbuffer.store?_zero (cjccid_XfrBlock_ok received).2
  obtain rfl := Option.some.inj (same.symm.trans stored)
  have low : again.get 1 = sbuffer4 := Buffer.getD_of_take _ begins (by simp)
  rw [body_read received stored, if_pos ((repeats_iff begins).mpr (by rw [low])), low]

theorem read_repeated (memory : Memory lenr) (opening : List Event) (header : List UInt8) (Le : UInt8)
    {first second : Reply} {sbuffer4 : UInt8} {rbuffer : Buffer UInt8 258} {outcome : Result lenr}
    (received : cjccid_XfrBlock first 258 = .ok [0x6C, sbuffer4])
    (stored : memory.rbuffer.store? 0 [0x6C, sbuffer4] = some rbuffer)
    (ends : (body memory (.retry Le sbuffer4 rbuffer) second).2 = .done outcome) (rest : List Reply) :
    call (body memory) (opening, .again (.read header Le)) (first :: second :: rest) =
      ⟨opening, [⟨.read header Le, first, (body memory (.read header Le) first).1⟩,
        ⟨.retry Le sbuffer4 rbuffer, second, (body memory (.retry Le sbuffer4 rbuffer) second).1⟩], .done outcome⟩ := by
  rw [call_continues (read_again memory header Le received stored), run_ends ends]

theorem read_assembles (memory : Memory lenr) (case2 : cmd.length = 5) (opening : List Event) (header : List UInt8)
    {replies : List Reply} (sound : Sound lenr cmd replies) :
    Assembles cmd (call (body memory) (opening, .again (.read header (cmd.getD 4 0))) replies) := by
  cases replies with
  | nil => exact assembles_again (by simp) (plain_read _ _)
  | cons first rest =>
      by_cases repeats : ∃ sbuffer4, cjccid_XfrBlock first 258 = .ok [0x6C, sbuffer4]
      · obtain ⟨sbuffer4, received⟩ := repeats
        obtain ⟨bytes, small⟩ := cjccid_XfrBlock_ok received
        obtain ⟨rbuffer, stored, _⟩ := memory.rbuffer.store?_zero small
        cases rest with
        | nil =>
            rw [call_continues (read_again memory header (cmd.getD 4 0) received stored)]
            exact assembles_again (by simpa using plain_read header _) (plain_retry _ _ _)
        | cons second rest =>
            have answers : (body memory (.retry (cmd.getD 4 0) sbuffer4 rbuffer) second).2.Satisfies (fun _ => False)
                (Answers cmd [first.abData, second.abData]) := by
              cases again : cjccid_XfrBlock second 258 with
              | error result =>
                  have refused : body memory (.retry (cmd.getD 4 0) sbuffer4 rbuffer) second = failed memory result :=
                    body_refused again
                  rw [refused]
                  exact failed_answers (cjccid_XfrBlock_error again)
              | ok data =>
                  obtain ⟨same, fits⟩ := cjccid_XfrBlock_ok again
                  obtain ⟨after, copied, begins, _⟩ := rbuffer.store?_zero fits
                  rw [body_retry again copied, ← bytes, ← same]
                  apply retried_answers memory case2 begins
                  exact sound.retry case2 first second rest sbuffer4 data rfl received again
            obtain ⟨outcome, ends, right⟩ := answers.ended
            rw [read_repeated memory opening header (cmd.getD 4 0) received stored ends]
            exact (assembles_done (by simpa using ⟨plain_read _ _, plain_retry _ _ _⟩)).mpr right
      · have answers : (body memory (.read header (cmd.getD 4 0)) first).2.Satisfies (fun _ => False)
            (Answers cmd [first.abData]) := by
          cases received : cjccid_XfrBlock first 258 with
          | error result =>
              have refused : body memory (.read header (cmd.getD 4 0)) first = failed memory result := body_refused received
              rw [refused]
              exact failed_answers (cjccid_XfrBlock_error received)
          | ok data =>
              apply read_first memory header (cmd.getD 4 0) received
              intro sbuffer4 same
              rw [same] at received
              exact repeats ⟨sbuffer4, received⟩
        obtain ⟨outcome, ends, right⟩ := answers.ended
        rw [call_ends ends]
        exact (assembles_done (by simpa using plain_read _ _)).mpr right

theorem read_sound (case2 : cmd.length = 5) (opening : List Event) (header : List UInt8) {replies : List Reply}
    (assembles : ∀ memory : Memory lenr,
      Assembles cmd (call (body memory) (opening, .again (.read header (cmd.getD 4 0))) replies)) :
    Sound lenr cmd replies where
  retry := by
    intro _ first second rest sbuffer4 data split received again
    subst split
    obtain ⟨bytes, small⟩ := cjccid_XfrBlock_ok received
    obtain ⟨same, fits⟩ := cjccid_XfrBlock_ok again
    obtain ⟨rbuffer, stored, _⟩ := (staleMemory lenr 0).rbuffer.store?_zero small
    obtain ⟨after, copied, begins, _⟩ := rbuffer.store?_zero fits
    apply retried_sound case2 begins
    intro value
    have made := assembles (staleMemory lenr value)
    have stepped : body (staleMemory lenr value) (.retry (cmd.getD 4 0) sbuffer4 rbuffer) second =
        retried (staleMemory lenr value) (cmd.getD 4 0) sbuffer4 after data.length := body_retry again copied
    cases ended : (retried (staleMemory lenr value) (cmd.getD 4 0) sbuffer4 after data.length).2 with
    | again state =>
        have ends := retried_ends (staleMemory lenr value) (cmd.getD 4 0) sbuffer4 after data.length
        rw [ended] at ends
        exact ends trivial
    | done outcome =>
        rw [← stepped] at ended
        rw [read_repeated (staleMemory lenr value) opening header (cmd.getD 4 0) received stored ended] at made
        rw [bytes, same]
        exact made.returned outcome rfl
  case4 := by
    intro case4
    have length := case4.1
    omega

/-! ## Case 4 -/

theorem passOf_satisfies {cla le : UInt8} {pass : Eca.Pass lenr.toNat} {invariant : State → Prop} {post : Result lenr → Prop} :
    (passOf cla le pass).2.Satisfies invariant post ↔
      pass.2.Satisfies (fun state => invariant (.case4 cla le state)) (fun outcome => post (resultOf outcome)) := by
  obtain ⟨events, next⟩ := pass
  cases next with
  | again state => exact Iff.rfl
  | done outcome => exact Iff.rfl

theorem body_case4 {memory : Memory lenr} {cla le : UInt8} {state : Case4State} {reply : Reply} {data : List UInt8}
    (received : cjccid_XfrBlock reply state.rlen = .ok data) :
    body memory (.case4 cla le state) reply =
      passOf cla le (case4Body memory.beyond le memory.response state (.ofTpdu data)) := by
  have given : cjccid_XfrBlock reply (State.case4 cla le state).rlen = .ok data := received
  rw [body, given]

theorem case4Body_later {capacity : Nat} (beyond : Int → UInt8) (le : UInt8) (response : Buffer UInt8 capacity)
    (state : Case4State) (reply : CcidReply) :
    (case4Body beyond le response state reply).2.Satisfies
      (fun next => next.stage ≠ .first ∧ next.tpdu.length ≤ 1014) (fun _ => True) := by
  unfold case4Body
  dsimp only
  split
  · trivial
  · split
    · trivial
    · split
      · exact ⟨nofun, (by decide : 5 ≤ 1014)⟩
      · split
        · exact ⟨nofun, (by decide : 5 ≤ 1014)⟩
        · unfold finish
          dsimp only
          split <;> trivial

/-- The reply to the command is a status word, or its status word is found where the pointer has been
moved; a later one leaves room for the byte that is read behind its status word. -/
structure PassSound (state : Case4State) (data : List UInt8) : Prop where
  first : state.stage = .first → SoundFirst data
  later : state.stage ≠ .first → 2 ≤ data.length → Announces (data.getD (data.length - 2) 0) →
    state.tot_size + 2 * data.length ≤ 260

theorem PassSound.regular {beyond : Int → UInt8} {state : Case4State} {data : List UInt8}
    (sound : PassSound state data) : Eca.Regular beyond state (.ofTpdu data) := by
  intro first long rbuffer stored
  change 2 < data.length at long
  rcases sound.first first with short | ⟨three, quiet⟩
  · omega
  · have room : 0 + data.length ≤ 258 := by omega
    have begins := Buffer.take_store_zero state.rbuffer room
    have same := Buffer.store?_of_room state.rbuffer room
    cases (show some _ = some _ from same.symm.trans stored)
    have third : (state.rbuffer.store 0 data room).get 2 = data.getD 2 0 :=
      Buffer.getD_of_take _ begins (by omega)
    change memory beyond _ (2 * ((data.length : Int) - 2)) ∉ _
    rw [three]
    change memory beyond _ 2 ∉ _
    rw [memory, if_pos (by omega)]
    change (state.rbuffer.store 0 data room).get 2 ∉ _
    rw [third]
    exact quiet

/-- What is known while a reply is awaited in case 4. -/
structure Follows (past : Turns) (state : State) : Prop where
  within : ∀ turn ∈ past, Within turn.before turn.input
  waiting : ∃ cla le inner earlier, state = .case4 cla le inner ∧
    earlier.map (fun turn : Turn Case4State CcidReply Eca.Event => turn.input.abData) = tpdus past ∧
    Waiting le earlier inner ∧ inner.tpdu.length ≤ 1014 ∧ (past ≠ [] → inner.stage ≠ .first)

theorem dataFields_tpdus {earlier : Case4Turns} {sent : List (List UInt8)}
    (same : earlier.map (fun turn => turn.input.abData) = sent) : sent.flatMap dataField = dataFields earlier := by
  rw [← same, List.flatMap_map]
  rfl

theorem Follows.placed {past : Turns} {state : State} (follows : Follows past state) : Placed past state := by
  obtain ⟨cla, le, inner, earlier, rfl, same, waiting, _, _⟩ := follows.waiting
  have small := waiting.small
  have size := inner.rbuffer.length_cells
  have fields := dataFields_tpdus same
  have length : inner.tot_size = (dataFields earlier).length := by
    rw [← waiting.collected, List.length_take]
    omega
  unfold Placed
  rw [fields, ← length]
  exact ⟨waiting.target, waiting.collected⟩

theorem takeReply_first (rbuffer : Buffer UInt8 258) (rlen : Nat) {state : Case4State} (first : state.stage = .first) :
    (takeReply rbuffer rlen state).rptr = state.rptr + ((rlen : Int) - 2) := by
  rw [takeReply, first]
  rfl

theorem get_of_stored {buffer rbuffer : Buffer UInt8 258} {offset index : Nat} {data : List UInt8}
    (stored : buffer.store? offset data = some rbuffer) (room : offset + data.length ≤ 258)
    (inside : index < data.length) : rbuffer.get (offset + index) = data.getD index 0 := by
  rw [Buffer.store?_of_room buffer room, Option.some.injEq] at stored
  rw [← stored, Buffer.get_store, if_neg (by omega), if_pos (by omega), Nat.add_sub_cancel_left]
  rfl

section Case4Pass

variable {cla le : UInt8} {inner : Case4State} {earlier : Case4Turns} {reply : Reply} {data : List UInt8}

theorem case4_within (waiting : Waiting le earlier inner)
    (sound : ∀ data, cjccid_XfrBlock reply inner.rlen = .ok data → PassSound inner data) :
    Within (.case4 cla le inner) reply := by
  intro data received whole rbuffer stored
  have small := (cjccid_XfrBlock_ok received).2
  have room := waiting.room
  have pointer := waiting.pointer
  have limit := waiting.small
  have stored : inner.rbuffer.store? inner.target data = some rbuffer := stored
  rw [waiting.target] at stored
  by_cases first : inner.stage = .first
  · have early := waiting.early (by rw [first]; decide)
    rw [early] at stored
    rw [takeReply_first rbuffer data.length first]
    dsimp only
    rcases (sound data received).first first with short | ⟨three, quiet⟩
    · omega
    · refine ⟨by omega, by omega, fun announces => ?_⟩
      have place : (inner.rptr + ((data.length : Int) - 2) + ((data.length : Int) - 2)).toNat = 0 + 2 := by omega
      rw [place, get_of_stored stored (by omega) (by omega)] at announces
      exact absurd (by simpa [Announces] using announces) quiet
  · rw [takeReply_pointer inner rbuffer data.length fun same => absurd same first]
    refine ⟨by omega, by omega, fun announces => ?_⟩
    have place : (inner.rptr + ((data.length : Int) - 2)).toNat = inner.tot_size + (data.length - 2) := by omega
    rw [place, get_of_stored stored (by omega) (by omega)] at announces
    have behind := (sound data received).later first whole announces
    omega

theorem ccidTransmit_ofTpdu {tpdu data : List UInt8} {length : Nat} (short : tpdu.length ≤ 1014)
    (small : data.length ≤ length) : ccidTransmit tpdu length (.ofTpdu data) = ([], .success, data) := by
  rw [ccidTransmit, if_neg (by omega)]
  simp [CcidReply.ofTpdu, small]

/-- A pass whose reply has been received. -/
theorem case4_received (memory : Memory lenr) (cla : UInt8) (waiting : Waiting le earlier inner)
    (short : inner.tpdu.length ≤ 1014) (received : cjccid_XfrBlock reply inner.rlen = .ok data) :
    ∃ rbuffer, inner.rbuffer.store? inner.target data = some rbuffer ∧
      Received earlier (.ofTpdu data) (takeReply rbuffer data.length inner) inner.tot_size ∧
      (body memory (.case4 cla le inner) reply).2 =
        (passOf cla le (
          let after := takeReply rbuffer data.length inner
          if inner.stage = .first ∧ after.rlen = 2 ∧ Warns rbuffer then getResponse .warned le after
          else if after.Chains memory.beyond then chain memory.beyond le after
          else finish memory.beyond memory.response after)).2 := by
  have transmitted := @ccidTransmit_ofTpdu inner.tpdu data inner.rlen short (cjccid_XfrBlock_ok received).2
  have success : (ccidTransmit inner.tpdu inner.rlen (.ofTpdu data)).2.1 = .success := by rw [transmitted]
  obtain ⟨rbuffer, stored, collected⟩ := waiting.receives success
  refine ⟨rbuffer, stored, collected, ?_⟩
  rw [body_case4 received, case4Body_received success stored]
  rfl

theorem finish_ends {capacity : Nat} (beyond : Int → UInt8) (response : Buffer UInt8 capacity) (state : Case4State) :
    ∃ outcome, (finish beyond response state).2 = .done outcome := by
  unfold finish
  dsimp only
  split
  · exact ⟨_, rfl⟩
  · exact ⟨_, rfl⟩

/-- Whether another GET RESPONSE follows the reply to one. -/
theorem case4_later_cases (memory : Memory lenr) (cla : UInt8) (waiting : Waiting le earlier inner)
    (short : inner.tpdu.length ≤ 1014) (later : inner.stage ≠ .first) (received : cjccid_XfrBlock reply inner.rlen = .ok data) :
    ((2 ≤ data.length ∧ Announces (data.getD (data.length - 2) 0)) ∧
        ∃ next, (body memory (.case4 cla le inner) reply).2 = .again (.case4 cla le next) ∧
          next.tot_size = inner.tot_size + (data.length - 2)) ∨
      (¬ (2 ≤ data.length ∧ Announces (data.getD (data.length - 2) 0)) ∧
        ∃ outcome, (body memory (.case4 cla le inner) reply).2 = .done outcome) := by
  obtain ⟨rbuffer, stored, collected, stepped⟩ := case4_received memory cla waiting short received
  have pointer : (takeReply rbuffer data.length inner).rptr = inner.tot_size :=
    (takeReply_pointer inner rbuffer data.length fun same => absurd same later).trans waiting.pointer
  have rlen := collected.length
  have total := collected.total
  have chains : (takeReply rbuffer data.length inner).Chains memory.beyond ↔
      2 ≤ data.length ∧ Announces (data.getD (data.length - 2) 0) := by
    rw [Case4State.Chains, rlen]
    refine and_congr_right fun whole => ?_
    change 2 ≤ data.length at whole
    have word := @Received.rptrAt memory.beyond (.ofTpdu data) earlier _ _ collected pointer (data.length - 2)
      (show data.length - 2 < data.length by omega)
    have place : ((CcidReply.ofTpdu data).abData.length : Int) - 2 = ((data.length - 2 : Nat) : Int) := by
      change (data.length : Int) - 2 = _
      omega
    rw [place, word]
    rfl
  simp only [later, false_and, if_false] at stepped
  by_cases more : 2 ≤ data.length ∧ Announces (data.getD (data.length - 2) 0)
  · rw [if_pos (chains.mpr more)] at stepped
    exact .inl ⟨more, _, stepped, total more.1⟩
  · rw [if_neg (fun same => more (chains.mp same))] at stepped
    obtain ⟨outcome, ended⟩ := finish_ends memory.beyond memory.response (takeReply rbuffer data.length inner)
    refine .inr ⟨more, resultOf outcome, ?_⟩
    rw [stepped, passOf, ended]

/-- Whether GET RESPONSE follows the reply to the command. -/
theorem case4_first_cases (memory : Memory lenr) (cla : UInt8) (waiting : Waiting le earlier inner)
    (short : inner.tpdu.length ≤ 1014) (first : inner.stage = .first)
    (received : cjccid_XfrBlock reply inner.rlen = .ok data) (sound : SoundFirst data) :
    (Continues data ∧ ∃ next, (body memory (.case4 cla le inner) reply).2 = .again (.case4 cla le next) ∧
        next.tot_size = 0) ∨
      (¬ Continues data ∧ ∃ outcome, (body memory (.case4 cla le inner) reply).2 = .done outcome) := by
  obtain ⟨rbuffer, stored, collected, stepped⟩ := case4_received memory cla waiting short received
  have early := waiting.early (by rw [first]; decide)
  have rlen : (takeReply rbuffer data.length inner).rlen = data.length := collected.length
  have total := collected.total
  have fits := collected.fits
  rw [waiting.target, early] at stored
  rw [early] at fits total
  have room : 0 + data.length ≤ 258 := fits
  have pointer : (takeReply rbuffer data.length inner).rptr = (data.length : Int) - 2 := by
    rw [takeReply_first rbuffer data.length first, waiting.pointer, early]
    exact Int.zero_add _
  have byte (index : Nat) (inside : index < data.length) : rbuffer.get index = data.getD index 0 := by
    have same := get_of_stored stored room inside
    rwa [Nat.zero_add] at same
  simp only [first, true_and, rlen] at stepped
  by_cases two : data.length = 2
  · have empty : (takeReply rbuffer data.length inner).tot_size = 0 := by
      have counted := total (by change 2 ≤ data.length; omega)
      change _ = 0 + (data.length - 2) at counted
      omega
    have warns : Warns rbuffer ↔ (data.getD 0 0 &&& 0xF0 = 0x90 ∧ (data.getD 0 0 ≠ 0x90 ∨ data.getD 1 0 ≠ 0x00)) ∨
        data.getD 0 0 = 0x62 ∨ data.getD 0 0 = 0x63 := by
      rw [Warns, byte 0 (by omega), byte 1 (by omega)]
    have cells := (takeReply_counted rbuffer data.length inner).1
    have chains : (takeReply rbuffer data.length inner).Chains memory.beyond ↔ Announces (data.getD 0 0) := by
      have place : (data.length : Int) - 2 + ((data.length : Int) - 2) = 0 := by omega
      have head : Eca.memory memory.beyond rbuffer 0 = data.getD 0 0 := by
        rw [Eca.memory, if_pos (by omega)]
        exact byte 0 (by omega)
      rw [Case4State.Chains, rlen, Case4State.rptrAt, pointer, place, cells, head]
      exact and_iff_right (by omega)
    by_cases warned : Warns rbuffer
    · rw [if_pos ⟨two, warned⟩] at stepped
      exact .inl ⟨⟨two, .inr (warns.mp warned)⟩, _, stepped, empty⟩
    · rw [if_neg (fun both => warned both.2)] at stepped
      by_cases more : Announces (data.getD 0 0)
      · rw [if_pos (chains.mpr more)] at stepped
        exact .inl ⟨⟨two, .inl more⟩, _, stepped, empty⟩
      · rw [if_neg (fun same => more (chains.mp same))] at stepped
        obtain ⟨outcome, ended⟩ := finish_ends memory.beyond memory.response (takeReply rbuffer data.length inner)
        refine .inr ⟨fun goesOn => ?_, resultOf outcome, by rw [stepped, passOf, ended]⟩
        rcases goesOn.2 with announced | warning
        · exact more announced
        · exact warned (warns.mpr warning)
  · have quiet : ¬ (takeReply rbuffer data.length inner).Chains memory.beyond := by
      rw [Case4State.Chains, rlen, Case4State.rptrAt, pointer, (takeReply_counted rbuffer data.length inner).1]
      rintro ⟨whole, more⟩
      rcases sound with bare | ⟨three, other⟩
      · omega
      · have place : (data.length : Int) - 2 + ((data.length : Int) - 2) = 2 := by omega
        have third : Eca.memory memory.beyond rbuffer 2 = data.getD 2 0 := by
          rw [Eca.memory, if_pos (by omega)]
          exact byte 2 (by omega)
        rw [place, third] at more
        simp only [List.mem_cons, List.not_mem_nil, or_false] at other
        exact other more
    rw [if_neg (fun both => two both.1), if_neg quiet] at stepped
    obtain ⟨outcome, ended⟩ := finish_ends memory.beyond memory.response (takeReply rbuffer data.length inner)
    exact .inr ⟨fun goesOn => two goesOn.1, resultOf outcome, by rw [stepped, passOf, ended]⟩

end Case4Pass

theorem answer_case4 {sent : List (List UInt8)} {data : List UInt8} (other : cmd.length ≠ 5) :
    answer cmd (sent ++ [data]) = (sent ++ [data]).flatMap dataField ++ Eca.statusWord data := by
  rw [answer, if_neg fun case2 => other case2.1, List.getLastD_concat]

theorem case4_answers {le : UInt8} {earlier : Case4Turns} {inner : Case4State} {sent : List (List UInt8)}
    {data : List UInt8} {output : List Eca.Event} {outcome : Eca.Outcome lenr.toNat} (other : cmd.length ≠ 5)
    (waiting : Waiting le earlier inner) (small : data.length ≤ inner.rlen)
    (same : earlier.map (fun turn => turn.input.abData) = sent)
    (returned : Eca.Returned le (earlier ++ [⟨inner, .ofTpdu data, output⟩]) outcome) :
    Answers cmd (sent ++ [data]) (resultOf outcome) := by
  have begun := waiting.collected
  have size := inner.rbuffer.length_cells
  have room := waiting.room
  have limit := waiting.small
  let turn : Turn Case4State CcidReply Eca.Event := ⟨inner, .ofTpdu data, output⟩
  have joined : (earlier ++ [turn]).map (fun turn => turn.input.abData) = sent ++ [data] := by
    rw [List.map_append, same]
    rfl
  have fields := dataFields_tpdus joined
  cases outcome with
  | fault => exact absurd rfl returned.inside
  | returned result response length =>
      refine ⟨by simp [resultOf], ?_⟩
      intro delivered count done
      simp only [resultOf, Result.returned.injEq] at done
      obtain ⟨succeeded, rfl, rfl⟩ := done
      have success : result = .success := by
        cases result <;> first | rfl | exact absurd succeeded (by decide)
      subst success
      obtain ⟨fits, front, last, split, taken⟩ := returned.assembled response length rfl
      obtain ⟨_, rfl⟩ := List.append_singleton_inj.mp split
      have word : Eca.statusWord (CcidReply.ofTpdu data).abData = Eca.statusWord data := rfl
      rw [word, ← fields, ← answer_case4 other] at taken
      refine ⟨fits, ?_, taken⟩
      have lengths := congrArg List.length taken
      have parts := congrArg List.length (dataField_statusWord data)
      have front := congrArg List.length begun
      rw [answer_case4 other, fields, dataFields_append, dataFields_singleton] at lengths
      change _ = (_ ++ dataField data ++ _).length at lengths
      rw [List.length_take, response.length_cells, List.length_append, List.length_append] at lengths
      rw [List.length_append] at parts
      rw [List.length_take] at front
      omega

/-- What is known where the function has returned in case 4. -/
def Closed (cmd : List UInt8) (past : Turns) (outcome : Result lenr) : Prop :=
  Answers cmd (tpdus past) outcome ∧ ∀ made ∈ past, Within made.before made.input

theorem case4_step (memory : Memory lenr) (other : cmd.length ≠ 5) {past : Turns} {cla le : UInt8} {inner : Case4State}
    (follows : Follows past (.case4 cla le inner)) {reply : Reply}
    (sound : ∀ data, cjccid_XfrBlock reply inner.rlen = .ok data → PassSound inner data) :
    let turn : Turn State Reply Event := ⟨.case4 cla le inner, reply, (body memory (.case4 cla le inner) reply).1⟩
    (body memory (.case4 cla le inner) reply).2.Satisfies (Follows (past ++ [turn]))
      (Closed cmd (past ++ [turn])) := by
  intro turn
  obtain ⟨_, _, _, earlier, same, sent, waiting, _, _⟩ := follows.waiting
  cases same
  have within : ∀ made ∈ past ++ [turn], Within made.before made.input := by
    intro made member
    rw [List.mem_append, List.mem_singleton] at member
    cases member with
    | inl before => exact follows.within made before
    | inr now =>
        rw [now]
        exact case4_within waiting sound
  cases received : cjccid_XfrBlock reply inner.rlen with
  | error result =>
      have refused : body memory (.case4 cla le inner) reply = failed memory result := body_refused received
      rw [refused]
      exact ⟨returned_failure (cjccid_XfrBlock_error received), within⟩
  | ok data =>
      obtain ⟨bytes, small⟩ := cjccid_XfrBlock_ok received
      have stepped := @case4Body_waits lenr.toNat memory.beyond le inner (.ofTpdu data) memory.response earlier waiting
        (sound data received).regular
      have onward := case4Body_later memory.beyond le memory.response inner (.ofTpdu data)
      rw [body_case4 received, passOf_satisfies]
      generalize case4Body memory.beyond le memory.response inner (.ofTpdu data) = pass at stepped onward
      obtain ⟨events, next⟩ := pass
      cases next with
      | again next =>
          refine ⟨within, cla, le, next, _, rfl, ?_, stepped, onward.2, fun _ => onward.1⟩
          rw [List.map_append, sent, tpdus_append]
          exact congrArg (tpdus past ++ [·]) bytes
      | done outcome =>
          refine ⟨?_, within⟩
          have answers := case4_answers other waiting small sent stepped
          rw [tpdus_append]
          change Answers cmd (tpdus past ++ [reply.abData]) _
          rwa [← bytes]

/-- The passes behind the first one. -/
theorem case4_later (memory : Memory lenr) (other : cmd.length ≠ 5) {past : Turns} {cla le : UInt8}
    {inner : Case4State} (follows : Follows past (.case4 cla le inner)) (behind : past ≠ []) {replies : List Reply}
    (sound : SoundChain inner.tot_size replies) :
    (run (body memory) (.case4 cla le inner) replies).Holds Follows (Closed cmd) past := by
  induction replies generalizing past inner with
  | nil => exact ⟨fun front turn back split => by simp at split, by simpa using follows⟩
  | cons reply rest ih =>
      obtain ⟨_, _, _, earlier, same, sent, waiting, short, later⟩ := follows.waiting
      cases same
      have room := waiting.room
      have answers : ∀ data, cjccid_XfrBlock reply inner.rlen = .ok data → PassSound inner data := by
        intro data received
        rw [room] at received
        exact ⟨fun first => absurd first (later behind), fun _ whole more => (sound data received whole more).1⟩
      have step := case4_step memory other follows answers
      cases stepped : body memory (.case4 cla le inner) reply with
      | mk output next =>
          rw [stepped] at step
          cases next with
          | done outcome =>
              rw [run_done stepped, holds_cons]
              exact ⟨follows, fun front turn back split => by simp at split, by simpa using step⟩
          | again next =>
              rw [run_again stepped, holds_cons]
              refine ⟨follows, ?_⟩
              cases received : cjccid_XfrBlock reply inner.rlen with
              | error result =>
                  have refused : body memory (.case4 cla le inner) reply = failed memory result := body_refused received
                  rw [refused] at stepped
                  cases stepped
              | ok data =>
                  rcases case4_later_cases memory cla waiting short (later behind) received with
                    ⟨more, after, goesOn, counted⟩ | ⟨_, outcome, ended⟩
                  · rw [stepped] at goesOn
                    cases goesOn
                    rw [room] at received
                    have chained := (sound data received more.1 more.2).2
                    rw [← counted] at chained
                    exact ih step (by simp) chained
                  · rw [stepped] at ended
                    cases ended

theorem assembles_of_holds {opening : List Event} {state : State} {memory : Memory lenr} {replies : List Reply}
    (holds : (run (body memory) state replies).Holds Follows (Closed cmd) []) :
    Assembles cmd (call (body memory) (opening, .again state) replies) := by
  have after := holds.after
  rw [List.nil_append] at after
  refine ⟨?_, ?_, ?_, ?_⟩
  · change ∀ turn ∈ (run (body memory) state replies).turns, _
    cases ended : (run (body memory) state replies).outcome with
    | again next =>
        rw [ended] at after
        exact after.within
    | done outcome =>
        rw [ended] at after
        exact after.2
  · exact fun front turn back split => (holds.before front turn back split).placed
  · intro next waits
    change (run (body memory) state replies).outcome = _ at waits
    rw [waits] at after
    exact after.placed
  · intro outcome ended
    change (run (body memory) state replies).outcome = _ at ended
    rw [ended] at after
    exact after.1

theorem case4_follows (memory : Memory lenr) (apdu : Case4Apdu) (cla le : UInt8) :
    Follows [] (.case4 cla le (case4Start apdu memory.rbuffer)) where
  within := by simp
  waiting := ⟨cla, le, _, [], rfl, rfl, case4Start_waits apdu memory.rbuffer, case4Start_short apdu memory.rbuffer,
    fun none => absurd rfl none⟩

theorem assembles_case4 (memory : Memory lenr) (case4 : IsCase4 cmd) (opening : List Event) (cla le : UInt8)
    {replies : List Reply} (sound : Sound lenr cmd replies) :
    Assembles cmd (call (body memory)
      (opening, .again (.case4 cla le (case4Start (case4Apdu cmd case4) memory.rbuffer))) replies) := by
  have other : cmd.length ≠ 5 := by
    have length := case4.1
    omega
  have start := case4_follows memory (case4Apdu cmd case4) cla le
  apply assembles_of_holds
  cases replies with
  | nil => exact ⟨fun front turn back split => by simp at split, start⟩
  | cons first rest =>
      have answers : ∀ data, cjccid_XfrBlock first 258 = .ok data →
          PassSound (case4Start (case4Apdu cmd case4) memory.rbuffer) data :=
        fun data received =>
          ⟨fun _ => (sound.case4 case4 first rest data rfl received).1, fun other => absurd rfl other⟩
      have step := case4_step memory other start answers
      cases stepped : body memory (.case4 cla le (case4Start (case4Apdu cmd case4) memory.rbuffer)) first with
      | mk output next =>
          rw [stepped] at step
          cases next with
          | done outcome =>
              rw [run_done stepped, holds_cons]
              exact ⟨start, fun front turn back split => by simp at split, by simpa using step⟩
          | again next =>
              rw [run_again stepped, holds_cons]
              refine ⟨start, ?_⟩
              cases received : cjccid_XfrBlock first 258 with
              | error result =>
                  have refused : body memory (.case4 cla le (case4Start (case4Apdu cmd case4) memory.rbuffer)) first =
                      failed memory result := body_refused received
                  rw [refused] at stepped
                  cases stepped
              | ok data =>
                  obtain ⟨fine, chained⟩ := sound.case4 case4 first rest data rfl received
                  rcases case4_first_cases memory cla (case4Start_waits (case4Apdu cmd case4) memory.rbuffer)
                    (case4Start_short _ _) rfl received fine with ⟨continues, after, goesOn, none⟩ | ⟨_, outcome, ended⟩
                  · rw [stepped] at goesOn
                    cases goesOn
                    have behind := chained continues
                    rw [← none] at behind
                    exact case4_later memory other step (by simp) behind
                  · rw [stepped] at ended
                    cases ended

/-! ### An irregular first reply -/

/-- What lies behind the reply looks like the announcement of another one. -/
theorem stale_chains {data : List UInt8} {rbuffer : Buffer UInt8 258} (unsound : ¬ SoundFirst data)
    (stored : (staleMemory lenr 0).rbuffer.store? 0 data = some rbuffer) (small : data.length ≤ 258) :
    memory (staleMemory lenr 0).beyond rbuffer (2 * ((data.length : Int) - 2)) ∈ [0x61, 0x6C] := by
  obtain ⟨after, same, begins, behind⟩ := (staleMemory lenr 0).rbuffer.store?_zero small
  obtain rfl := Option.some.inj (same.symm.trans stored)
  unfold SoundFirst at unsound
  unfold memory
  split
  · case isTrue inside =>
      by_cases three : data.length = 3
      · have third : after.get 2 = data.getD 2 0 := Buffer.getD_of_take _ begins (by omega)
        rw [three]
        change after.get 2 ∈ _
        rw [third]
        by_contra quiet
        exact unsound (.inr ⟨three, quiet⟩)
      · rw [behind _ (by omega)]
        have stale : (staleMemory lenr 0).rbuffer.get (2 * ((data.length : Int) - 2)).toNat = 0x61 :=
          filled_get 0x61 (by omega)
        rw [stale]
        decide
  · exact List.mem_cons_self

/-- The pointer is twice as far as it should be. -/
theorem stale_misplaced {data : List UInt8} {apdu : Case4Apdu} {le : UInt8} {reply : Reply} (cla : UInt8)
    (unsound : ¬ SoundFirst data) (received : cjccid_XfrBlock reply 258 = .ok data) :
    ∃ next, (body (staleMemory lenr 0) (.case4 cla le (case4Start apdu (staleMemory lenr 0).rbuffer)) reply).2 =
      .again (.case4 cla le next) ∧ next.target = 2 * ((data.length : Int) - 2) := by
  obtain ⟨_, small⟩ := cjccid_XfrBlock_ok received
  obtain ⟨rbuffer, stored, _⟩ := (staleMemory lenr 0).rbuffer.store?_zero small
  have chains := stale_chains unsound stored small
  have long : 2 < data.length := by
    by_contra short
    exact unsound (.inl (Nat.le_of_not_lt short))
  have short := case4Start_short apdu (staleMemory lenr 0).rbuffer
  let after := takeReply rbuffer data.length (case4Start apdu (staleMemory lenr 0).rbuffer)
  have pointer : after.rptr = (data.length : Int) - 2 := by
    have moved := takeReply_first rbuffer data.length
      (show (case4Start apdu (staleMemory lenr 0).rbuffer).stage = .first from rfl)
    exact moved.trans (Int.zero_add _)
  have more : after.Chains (staleMemory lenr 0).beyond := by
    refine ⟨Nat.le_of_lt long, ?_⟩
    have place : after.rptr + ((after.rlen : Int) - 2) = 2 * ((data.length : Int) - 2) := by
      rw [pointer]
      change (data.length : Int) - 2 + ((data.length : Int) - 2) = _
      omega
    have either : memory (staleMemory lenr 0).beyond rbuffer (2 * ((data.length : Int) - 2)) = 0x61 ∨
        memory (staleMemory lenr 0).beyond rbuffer (2 * ((data.length : Int) - 2)) = 0x6C := by simpa using chains
    rw [Case4State.rptrAt, place]
    exact either
  have stepped : case4Body (staleMemory lenr 0).beyond le (staleMemory lenr 0).response
      (case4Start apdu (staleMemory lenr 0).rbuffer) (.ofTpdu data) = chain (staleMemory lenr 0).beyond le after := by
    have transmitted : ccidTransmit (case4Start apdu (staleMemory lenr 0).rbuffer).tpdu
        (case4Start apdu (staleMemory lenr 0).rbuffer).rlen (.ofTpdu data) = ([], .success, data) :=
      ccidTransmit_ofTpdu short small
    rw [case4Body_received (congrArg (fun done => done.2.1) transmitted) stored]
    exact (if_neg fun warned => by have two : data.length = 2 := warned.2.1; omega).trans (if_pos more)
  have given : cjccid_XfrBlock reply (case4Start apdu (staleMemory lenr 0).rbuffer).rlen = .ok data := received
  rw [body_case4 given, stepped]
  refine ⟨_, rfl, ?_⟩
  change after.rptr + ((after.rlen : Int) - 2) = _
  rw [pointer]
  change (data.length : Int) - 2 + ((data.length : Int) - 2) = _
  omega

/-- Reads in bounds behind the first pass. -/
theorem chain_of_within (memory : Memory lenr) (other : cmd.length ≠ 5) {past : Turns} {cla le : UInt8}
    {inner : Case4State} (follows : Follows past (.case4 cla le inner)) (behind : past ≠ []) {replies : List Reply}
    (within : ∀ turn ∈ (run (body memory) (.case4 cla le inner) replies).turns, Within turn.before turn.input) :
    SoundChain inner.tot_size replies := by
  induction replies generalizing past inner with
  | nil => trivial
  | cons reply rest ih =>
      obtain ⟨_, _, _, earlier, same, sent, waiting, short, later⟩ := follows.waiting
      cases same
      intro data received whole more
      have room := waiting.room
      rw [← room] at received
      rcases case4_later_cases memory cla waiting short (later behind) received with
        ⟨_, next, goesOn, counted⟩ | ⟨ends, _⟩
      · rw [run_again (show body memory _ reply = (_, .again (.case4 cla le next)) from Prod.ext rfl goesOn)] at within
        obtain ⟨rbuffer, stored, collected, _⟩ := case4_received memory cla waiting short received
        have inside := within _ List.mem_cons_self data received whole rbuffer stored
        dsimp only at inside
        rw [takeReply_pointer inner rbuffer data.length fun same => absurd same (later behind), waiting.pointer] at inside
        rw [waiting.target] at stored
        have fits : inner.tot_size + data.length ≤ 258 := collected.fits
        have place : ((inner.tot_size : Int) + ((data.length : Int) - 2)).toNat = inner.tot_size + (data.length - 2) := by
          omega
        rw [place, get_of_stored stored fits (by omega)] at inside
        have bound := inside.2.2 more
        have answers : ∀ again, cjccid_XfrBlock reply inner.rlen = .ok again → PassSound inner again := by
          intro again same
          rw [received] at same
          cases same
          exact ⟨fun first => absurd first (later behind), fun _ _ _ => by omega⟩
        have step := case4_step memory other follows answers
        rw [goesOn] at step
        refine ⟨by omega, ?_⟩
        rw [← counted]
        exact ih step (by simp) fun turn member => within turn (List.mem_cons_of_mem _ member)
      · exact absurd ⟨whole, more⟩ ends

theorem case4_sound (case4 : IsCase4 cmd) (opening : List Event) (cla le : UInt8) {replies : List Reply}
    (assembles : Assembles cmd (call (body (staleMemory lenr 0))
      (opening, .again (.case4 cla le (case4Start (case4Apdu cmd case4) (staleMemory lenr 0).rbuffer))) replies)) :
    Sound lenr cmd replies where
  retry := by
    intro case2
    have length := case4.1
    omega
  case4 := by
    intro _ first rest data split received
    subst split
    have bytes := (cjccid_XfrBlock_ok received).1
    have fine : SoundFirst data := by
      by_contra unsound
      obtain ⟨next, continues, target⟩ := stale_misplaced cla unsound received
      rw [call_continues continues] at assembles
      have misplaced : ∀ past, tpdus past = [data] → ¬ Placed past (.case4 cla le next) := by
        intro past sent placed
        have place := placed.1
        have field : (dataField data).length = data.length - 2 := by
          rw [dataField, List.length_take]
          omega
        rw [sent, target, List.flatMap_singleton, field] at place
        exact unsound (.inl (by omega))
      rcases run_begins (body (staleMemory lenr 0)) (.case4 cla le next) rest with
        ⟨none, waits⟩ | ⟨turn, back, turns, before⟩
      · have placed := assembles.waiting _ waits
        rw [none] at placed
        exact misplaced _ (by rw [bytes]; rfl) placed
      · have placed := assembles.placed [_] turn back (congrArg (_ :: ·) turns)
        rw [before] at placed
        exact misplaced _ (by rw [bytes]; rfl) placed
    refine ⟨fine, fun continues => ?_⟩
    have other : cmd.length ≠ 5 := by
      have length := case4.1
      omega
    have start := case4_follows (staleMemory lenr 0) (case4Apdu cmd case4) cla le
    have answers : ∀ again, cjccid_XfrBlock first 258 = .ok again →
        PassSound (case4Start (case4Apdu cmd case4) (staleMemory lenr 0).rbuffer) again := by
      intro again same
      rw [received] at same
      cases same
      exact ⟨fun _ => fine, fun other => absurd rfl other⟩
    have step := case4_step (staleMemory lenr 0) other start answers
    rcases case4_first_cases (staleMemory lenr 0) cla
      (case4Start_waits (case4Apdu cmd case4) (staleMemory lenr 0).rbuffer : Waiting le [] _) (case4Start_short _ _) rfl
      received fine with ⟨_, next, goesOn, none⟩ | ⟨ends, _⟩
    · rw [goesOn] at step
      rw [call_continues goesOn] at assembles
      rw [← none]
      refine chain_of_within (staleMemory lenr 0) other step (by simp) fun turn member => ?_
      exact assembles.within turn (List.mem_cons_of_mem _ member)
    · exact absurd continues ends

end Runs

/-- Whatever stands in memory, the response is the card's and nothing is read behind the array if and
only if a command that is repeated is answered with as many bytes as its length says, and in case 4 the
first reply has one at most and later ones that announce more are short enough. -/
theorem response_assembled_iff (lenr : UInt16) (cmd : List UInt8) (replies : List Reply) :
    (∀ memory : Memory lenr, Assembles cmd (APDU2TPDU_T0 memory cmd replies)) ↔ Sound lenr cmd replies := by
  unfold APDU2TPDU_T0 opened
  by_cases case1 : cmd.length = 4
  · simp only [if_pos case1]
    have sound : Sound lenr cmd replies := ⟨fun case2 => by omega, fun case4 => by have length := case4.1; omega⟩
    exact ⟨fun _ => sound, fun _ memory => single_assembles memory _ replies⟩
  · simp only [if_neg case1]
    by_cases case2 : cmd.length = 5
    · simp only [if_pos case2]
      exact ⟨fun assembles => read_sound case2 _ _ assembles,
        fun sound memory => read_assembles memory case2 _ _ sound⟩
    · simp only [if_neg case2]
      by_cases case3 : cmd.length = 5 + (cmd.getD 4 0).toNat ∧ cmd.getD 4 0 ≠ 0
      · simp only [if_pos case3]
        have sound : Sound lenr cmd replies :=
          ⟨fun five => absurd five case2, fun case4 => by have length := case4.1; omega⟩
        exact ⟨fun _ => sound, fun _ memory => single_assembles memory _ replies⟩
      · simp only [if_neg case3]
        by_cases case4 : IsCase4 cmd
        · simp only [dif_pos case4]
          exact ⟨fun assembles => case4_sound case4 _ _ _ (assembles (staleMemory lenr 0)),
            fun sound memory => assembles_case4 memory case4 _ _ _ sound⟩
        · simp only [dif_neg case4]
          have sound : Sound lenr cmd replies :=
            ⟨fun five => absurd five case2, fun other => absurd other case4⟩
          refine ⟨fun _ => sound, fun _ memory => ?_⟩
          exact (assembles_done (by simp)).mpr (returned_failure (by decide))

/-- READ BINARY of two bytes, which the card has repeated with four: its status word replaces the data. -/
theorem cutRead_not_assembled :
    let made := APDU2TPDU_T0 (staleMemory 16 0xAA) [0x00, 0xB0, 0x00, 0x00, 0x02]
      [.ofBlock [0x6C, 0x04], .ofBlock [0x11, 0x22, 0x33, 0x44, 0x90, 0x00]]
    (∃ response : Buffer UInt8 16, made.outcome = .done (.returned .success response 4) ∧
      response.cells.take 4 = [0x90, 0x00, 0xAA, 0xAA]) ∧ ¬ Assembles [0x00, 0xB0, 0x00, 0x00, 0x02] made := by
  refine ⟨⟨_, rfl, by decide⟩, ?_⟩
  intro assembles
  obtain ⟨_, _, copied⟩ := (assembles.returned _ rfl).assembled _ _ rfl
  exact absurd copied (by decide)

end Cyberjack.Ppa.T0
