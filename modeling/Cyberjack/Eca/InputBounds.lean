import Cyberjack.Eca.KeyInput

namespace Cyberjack.Eca.KeyInput

open Cyberjack.Foundation

/-! # The arrays and the digits of INPUT

`buffer` and `text` have 256 bytes each, while Le may ask for more characters than that.
-/

/-! ## What INPUT should do -/

def Destination.size (lenr : Nat) : Destination → Nat
  | .buffer => 256
  | .text => 256
  | .response => lenr

def Write.Inside (lenr : Nat) (write : Write) : Prop := write.offset + write.count ≤ write.destination.size lenr

instance (lenr : Nat) (write : Write) : Decidable (write.Inside lenr) := inferInstanceAs (Decidable (_ ≤ _))

def AllInside (lenr : Nat) (writes : List Write) : Prop := ∀ write ∈ writes, write.Inside lenr

/-- More than one key can be asked for. -/
def MultiKey (call : CtCall) : Prop := call.cmd 3 &&& 0xf0 ≠ 0x10

/-- The keys that end the input. -/
def endingKeys : List UInt8 := [10, 11, 0xff]

/-- The digits among the keys, as characters. -/
def digits (keys : List UInt8) : List UInt8 := (keys.filter (· < 10)).map (· + 0x30)

abbrev Turns := List (Turn KeyState KeyReply Write)

/-- The key of a pass, if the reader was asked for one and gave it. -/
def keyOf (call : CtCall) (lengths : Lengths) (turn : Turn KeyState KeyReply Write) : Option UInt8 :=
  let input := cjInput (inputText (call.cmd 3) (promptText call lengths) turn.before.buffer) turn.input
  if input.1 = .success then some input.2 else none

def pressed (call : CtCall) (lengths : Lengths) (turns : Turns) : List UInt8 := turns.filterMap (keyOf call lengths)

/-- The keys have their effect, and an answer 90 00 holds the digits. -/
structure KeysRight (call : CtCall) (lengths : Lengths) (turns : Turns) (outcome : Next KeyState CtReturn) : Prop where
  few : (digits (pressed call lengths turns)).length ≤ charlen lengths
  timedOut : 0xff ∈ pressed call lengths turns → outcome = .done (call.status 0x64 0x00)
  canceled : 10 ∈ pressed call lengths turns → outcome = .done (call.status 0x64 0x01)
  confirmed : 11 ∈ pressed call lengths turns → outcome = .done (keyAnswer call (digits (pressed call lengths turns)))
  full : turns ≠ [] → (digits (pressed call lengths turns)).length = charlen lengths →
    outcome = .done (keyAnswer call (digits (pressed call lengths turns)))
  goesOn : turns ≠ [] → (∀ turn ∈ turns, keyOf call lengths turn ≠ none) →
    (∀ key ∈ pressed call lengths turns, key ∉ endingKeys) →
      (digits (pressed call lengths turns)).length < charlen lengths →
        ∃ state, outcome = .again state ∧ state.buffer = digits (pressed call lengths turns)
  answered : ∀ result body, outcome = .done result → result.ret = 0 → result.bytes = body ++ [0x90, 0x00] →
    body = digits (pressed call lengths turns)

structure InputRight (linux : Bool) (call : CtCall) (made : Call KeyState KeyReply Write CtReturn) : Prop where
  inside : AllInside call.lenr made.trace
  keys : ∀ lengths, parseLengths linux call.cmd call.lenc = some lengths → MultiKey call →
    KeysRight call lengths made.turns made.outcome

/-- The digits in front of the first reply that ends the input. -/
def typed (replies : List KeyReply) : List UInt8 :=
  digits ((replies.takeWhile fun reply => reply.1 = .success ∧ reply.2 ∉ endingKeys).map Prod.snd)

/-- A command whose digits are not shown asks for more of them than `buffer` holds, and gets more. -/
structure Overruns (call : CtCall) (lengths : Lengths) (replies : List KeyReply) : Prop where
  room : 2 ≤ call.lenr
  passes : inputRefusal call lengths = none
  hidden : call.cmd 3 &&& 0x0f = 0
  text : (promptText call lengths).length ≤ 64
  Le : 256 < lengths.Le
  typed : 256 < (typed replies).length

/-! ## The three arrays -/

variable {call : CtCall} {lengths : Lengths} {tag50 : List UInt8} {limit : Nat} {state : KeyState}
  {reply : KeyReply} {replies : List KeyReply} {key : UInt8}

theorem length_inputText (P2 : UInt8) (tag50 buffer : List UInt8) : (inputText P2 tag50 buffer).length =
    if P2 &&& 0x0f = 0 then tag50.length else tag50.length + buffer.length := by
  unfold inputText
  by_cases hidden : P2 &&& 0x0f = 0
  · rw [if_pos hidden, if_pos hidden]
  · rw [if_neg hidden, if_neg hidden]
    split
    · exact List.length_append
    · rw [List.length_append, List.length_replicate]

theorem GetTag_short {memory : Nat → UInt8} {tagvalue : UInt8} {passes start : Nat} {len : Int} {value : List UInt8}
    (found : GetTag memory tagvalue passes start len = some value) : value.length < 256 := by
  induction passes generalizing start len with
  | zero => contradiction
  | succ passes ih =>
      simp only [GetTag] at found
      split at found
      · split at found
        · cases found
          rw [length_bytesAt]
          exact UInt8.toNat_lt _
        · exact ih found
      · contradiction

/-- The length of a text is a byte. -/
theorem promptText_short (call : CtCall) (lengths : Lengths) : (promptText call lengths).length < 256 := by
  unfold promptText
  cases found : commandTag call.cmd lengths 0x50 with
  | none => decide
  | some text =>
      rw [Option.map_some, Option.getD_some, TransformText, List.length_map]
      unfold commandTag at found
      split at found
      · contradiction
      · exact GetTag_short found

@[simp] theorem allInside_nil (lenr : Nat) : AllInside lenr [] := List.forall_mem_nil _

@[simp] theorem allInside_cons {lenr : Nat} {write : Write} {writes : List Write} :
    AllInside lenr (write :: writes) ↔ write.Inside lenr ∧ AllInside lenr writes := List.forall_mem_cons

@[simp] theorem allInside_append {lenr : Nat} {first second : List Write} :
    AllInside lenr (first ++ second) ↔ AllInside lenr first ∧ AllInside lenr second := List.forall_mem_append

/-- Digits that are shown were refused in time. -/
def Shown (call : CtCall) (tag50 : List UInt8) (state : KeyState) : Prop :=
  call.cmd 3 &&& 0x0f = 0 ∨ state.buffer = [] ∨ tag50.length + state.buffer.length ≤ 65

theorem textWrites_inside (short : tag50.length < 256) (shown : Shown call tag50 state) :
    AllInside call.lenr (textWrites (call.cmd 3) tag50.length state.buffer.length) := by
  have room : tag50.length + state.buffer.length ≤ 256 ∨ call.cmd 3 &&& 0x0f = 0 := by
    obtain hidden | empty | few := shown
    · exact .inr hidden
    · rw [empty, List.length_nil]
      omega
    · omega
  unfold textWrites
  split
  · simp only [allInside_cons, allInside_nil, Write.Inside, Destination.size, and_true]
    omega
  · rename_i visible
    have fits := room.resolve_right visible
    simp only [allInside_cons, allInside_nil, Write.Inside, Destination.size, and_true]
    omega

theorem answered_inside (state : KeyState) : AllInside call.lenr (answered call state).1 := by
  simp only [answered, keyAnswerWrites]
  split
  · exact allInside_nil _
  · simp only [allInside_cons, allInside_nil, Write.Inside, Destination.size, and_true]
    omega

theorem loopHead_inside (limit : Nat) (state : KeyState) : AllInside call.lenr (loopHead call limit state).1 := by
  unfold loopHead
  split
  · exact allInside_nil _
  · exact answered_inside state

theorem refused_inside (room : 2 ≤ call.lenr) (sw1 sw2 : UInt8) : AllInside call.lenr (refused call sw1 sw2).1 :=
  List.forall_mem_singleton.mpr room

/-- Of what a key is followed by, only the write to `buffer` can be outside. -/
theorem behindKey_inside (room : 2 ≤ call.lenr) (effect : KeyEffect) :
    AllInside call.lenr (behindKey call limit state effect).1 ↔
      ∀ byte, effect = .collected byte → state.buffer.length < 256 := by
  cases effect with
  | timedOut =>
      apply iff_of_true (refused_inside room _ _)
      intro byte same
      contradiction
  | canceled =>
      apply iff_of_true (refused_inside room _ _)
      intro byte same
      contradiction
  | confirmed =>
      apply iff_of_true (answered_inside state)
      intro byte same
      contradiction
  | collected byte =>
      have later := @loopHead_inside call limit ⟨state.buffer ++ [byte], 5⟩
      simp only [behindKey, allInside_cons, later, and_true, Write.Inside, Destination.size, KeyEffect.collected.injEq,
        forall_eq']
      omega
  | ignored =>
      apply iff_of_true (loopHead_inside limit _)
      intro byte same
      contradiction

/-! ## The digits that are typed -/

theorem keyEffect_multi (multi : MultiKey call) (limit : Nat) (key : UInt8) : keyEffect (call.cmd 3) limit key =
    if key = 0xff then .timedOut
    else if key < 10 then .collected (key + 0x30)
    else if key = 10 then .canceled
    else if key = 11 then .confirmed
    else .ignored := by
  rw [keyEffect, if_neg multi]

@[simp] theorem typed_nil : typed [] = [] := rfl

theorem typed_cons (reply : KeyReply) (replies : List KeyReply) : typed (reply :: replies) =
    if reply.1 = .success ∧ reply.2 ∉ endingKeys then
      if reply.2 < 10 then (reply.2 + 0x30) :: typed replies else typed replies
    else [] := by
  unfold typed
  rw [List.takeWhile_cons]
  by_cases goesOn : reply.1 = .success ∧ reply.2 ∉ endingKeys
  · rw [if_pos goesOn, if_pos (decide_eq_true goesOn), List.map_cons, digits, List.filter_cons]
    by_cases digit : reply.2 < 10
    · rw [if_pos digit, if_pos (decide_eq_true digit)]
      rfl
    · rw [if_neg digit, if_neg (by simpa using digit)]
      rfl
  · rw [if_neg goesOn, if_neg (by simpa using goesOn)]
    rfl

/-- How many digits are typed, by the effect of the first key. -/
theorem length_typed_cons (multi : MultiKey call) (given : reply.1 = .success) (limit : Nat) :
    (typed (reply :: replies)).length =
      match keyEffect (call.cmd 3) limit reply.2 with
      | .collected _ => (typed replies).length + 1
      | .ignored => (typed replies).length
      | _ => 0 := by
  rw [typed_cons, keyEffect_multi multi]
  by_cases ending : reply.2 ∈ endingKeys
  · rw [if_neg (by simp [ending])]
    simp only [endingKeys, List.mem_cons, List.not_mem_nil, or_false] at ending
    obtain ten | eleven | last := ending
    · rw [ten]
      rfl
    · rw [eleven]
      rfl
    · rw [last]
      rfl
  · rw [if_pos ⟨given, ending⟩]
    simp only [endingKeys, List.mem_cons, List.not_mem_nil, or_false, not_or] at ending
    obtain ⟨ten, eleven, last⟩ := ending
    rw [if_neg last, if_neg ten, if_neg eleven]
    by_cases digit : reply.2 < 10
    · rw [if_pos digit, if_pos digit]
      rfl
    · rw [if_neg digit, if_neg digit]

/-- Where a key is given, there is room to show one more. -/
theorem shown_next (given : (cjInput (inputText (call.cmd 3) tag50 state.buffer) reply).1 = .success)
    (byte timeout : UInt8) : Shown call tag50 ⟨state.buffer ++ [byte], timeout⟩ := by
  have short := (cjInput_success.mp given).1
  rw [length_inputText] at short
  by_cases hidden : call.cmd 3 &&& 0x0f = 0
  · exact .inl hidden
  · rw [if_neg hidden] at short
    right
    right
    simp only [List.length_append, List.length_singleton]
    omega

/-- The text is short, nothing of it is the keys, and more digits come than there is room for. -/
def TooMany (call : CtCall) (tag50 : List UInt8) (limit count : Nat) : Prop :=
  call.cmd 3 &&& 0x0f = 0 ∧ tag50.length ≤ 64 ∧ 256 < limit ∧ 256 < count

theorem tooMany_small {count : Nat} (small : limit ≤ 256) : ¬ TooMany call tag50 limit count :=
  fun many => absurd many.2.2.1 (Nat.not_lt.mpr small)

/-- A single key is never too much. -/
theorem tooMany_congr {count other : Nat} (multi : MultiKey call ∨ limit ≤ 256) (same : MultiKey call → count = other) :
    TooMany call tag50 limit count ↔ TooMany call tag50 limit other := by
  cases multi with
  | inl multi => rw [same multi]
  | inr small => exact iff_of_false (tooMany_small small) (tooMany_small small)

/-- Only keys that are not shown can fill the buffer. -/
theorem tooMany_filled (shown : Shown call tag50 state)
    (given : (cjInput (inputText (call.cmd 3) tag50 state.buffer) reply).1 = .success)
    (filled : 256 ≤ state.buffer.length) (large : 256 < limit) {count : Nat} (more : 256 < count) : TooMany call tag50 limit count := by
  have hidden : call.cmd 3 &&& 0x0f = 0 := by
    obtain hidden | empty | few := shown
    · exact hidden
    · rw [empty] at filled
      contradiction
    · omega
  have short := (cjInput_success.mp given).1
  rw [length_inputText, if_pos hidden] at short
  exact ⟨hidden, short, large, more⟩

theorem first_inside {body : Body KeyState KeyReply Write CtReturn} {lenr : Nat}
    (inside : AllInside lenr (outputs (run body state (reply :: replies)).turns)) :
    AllInside lenr (body state reply).1 := by
  cases stepped : body state reply with
  | mk output next =>
      cases next with
      | done result =>
          rw [run_done stepped, outputs_singleton] at inside
          exact inside
      | again next =>
          rw [run_again stepped, outputs_cons, allInside_append] at inside
          exact inside.1

/-- From a buffer that may be full, but not more than that; by induction on the replies. -/
theorem run_inside (room : 2 ≤ call.lenr) (short : tag50.length < 256) (multi : MultiKey call ∨ limit ≤ 256)
    (shown : Shown call tag50 state) (below : state.buffer.length < limit) (few : state.buffer.length ≤ 256)
    (replies : List KeyReply) :
    AllInside call.lenr (outputs (run (inputKey call tag50 limit) state replies).turns) ↔
      ¬ TooMany call tag50 limit (state.buffer.length + (typed replies).length) := by
  induction replies generalizing state with
  | nil =>
      apply iff_of_true (allInside_nil _)
      intro many
      exact absurd many.2.2.2 (Nat.not_lt.mpr few)
  | cons reply rest ih =>
      have text := @textWrites_inside call tag50 state short shown
      by_cases given : (cjInput (inputText (call.cmd 3) tag50 state.buffer) reply).1 = .success
      · have stepped := @inputKey_given call tag50 limit state reply given
        have typing (many : MultiKey call) := @length_typed_cons call reply rest many (cjInput_success.mp given).2 limit
        have inside := @behindKey_inside call limit state room (keyEffect (call.cmd 3) limit reply.2)
        -- a key that ends the input is the last one that counts
        have ended (ends : (typed (reply :: rest)).length = 0 ∨ limit ≤ 256) :
            ¬ TooMany call tag50 limit (state.buffer.length + (typed (reply :: rest)).length) := by
          intro many
          have large := many.2.2
          omega
        cases effect : keyEffect (call.cmd 3) limit reply.2 with
        | timedOut =>
            simp only [effect] at stepped typing
            rw [run_done stepped, outputs_singleton, allInside_append]
            exact iff_of_true ⟨text, refused_inside room _ _⟩ (ended (multi.imp_left typing))
        | canceled =>
            simp only [effect] at stepped typing
            rw [run_done stepped, outputs_singleton, allInside_append]
            exact iff_of_true ⟨text, refused_inside room _ _⟩ (ended (multi.imp_left typing))
        | confirmed =>
            simp only [effect] at stepped typing
            rw [run_done stepped, outputs_singleton, allInside_append]
            exact iff_of_true ⟨text, answered_inside state⟩ (ended (multi.imp_left typing))
        | ignored =>
            simp only [effect] at stepped typing
            simp only [behindKey, loopHead, if_pos below, List.append_nil] at stepped
            have later := @ih ⟨state.buffer, 5⟩ shown below few
            rw [run_again stepped, outputs_cons, allInside_append, later, and_iff_right text]
            exact not_congr (tooMany_congr multi fun many => by rw [typing many])
        | collected byte =>
            simp only [effect, KeyEffect.collected.injEq, forall_eq'] at stepped typing inside
            have length : (state.buffer ++ [byte]).length = state.buffer.length + 1 := List.length_append
            by_cases fits : state.buffer.length < 256
            · by_cases more : state.buffer.length + 1 < limit
              · have goesOn : behindKey call limit state (.collected byte) =
                    ([⟨.buffer, state.buffer.length, 1⟩], .again ⟨state.buffer ++ [byte], 5⟩) := by
                  simp only [behindKey, loopHead, length, if_pos more]
                rw [goesOn] at stepped inside
                have later := @ih ⟨state.buffer ++ [byte], 5⟩ (shown_next given byte 5) (by rwa [length])
                  (by rwa [length])
                rw [run_again stepped, outputs_cons, allInside_append, later, and_iff_right]
                · refine not_congr (tooMany_congr multi fun many => ?_)
                  rw [typing many, length, Nat.add_assoc, Nat.add_comm 1]
                · exact allInside_append.mpr ⟨text, inside.mpr fits⟩
              · have full : (behindKey call limit state (.collected byte)).2 =
                    .done (keyAnswer call (state.buffer ++ [byte])) := by
                  simp only [behindKey, loopHead, length, if_neg more, answered]
                rw [full] at stepped
                rw [run_done stepped, outputs_singleton, allInside_append]
                exact iff_of_true ⟨text, inside.mpr fits⟩ (tooMany_small (by omega))
            · apply iff_of_false
              · intro all
                have here := first_inside all
                rw [stepped, allInside_append] at here
                exact fits (inside.mp here.2)
              · have large : 256 < limit := by omega
                have more : 256 < state.buffer.length + ((typed rest).length + 1) := by omega
                rw [typing (multi.resolve_right (Nat.not_le.mpr large))]
                exact not_not.mpr (tooMany_filled shown given (Nat.not_lt.mp fits) large more)
      · rw [run_done (inputKey_refused given), outputs_singleton]
        apply iff_of_true text
        intro many
        have none : ¬ (reply.1 = .success ∧ reply.2 ∉ endingKeys) := by
          intro success
          apply given
          rw [cjInput_success, length_inputText, if_pos many.1]
          exact ⟨many.2.1, success.1⟩
        have count := many.2.2.2
        rw [typed_cons, if_neg none, List.length_nil] at count
        omega

/-! ## The keys that are pressed -/

variable {past : Turns} {turn : Turn KeyState KeyReply Write}

/-- The loop goes on with the digits so far. -/
structure Collecting (call : CtCall) (lengths : Lengths) (past : Turns) (state : KeyState) : Prop where
  buffer : state.buffer = digits (pressed call lengths past)
  below : state.buffer.length < charlen lengths
  asked : ∀ turn ∈ past, keyOf call lengths turn ≠ none
  goesOn : ∀ key ∈ pressed call lengths past, key ∉ endingKeys

theorem Collecting.unended (collecting : Collecting call lengths past state) (ending : key ∈ endingKeys) :
    key ∉ pressed call lengths past := fun made => collecting.goesOn key made ending

theorem pressed_none (none : keyOf call lengths turn = none) :
    pressed call lengths (past ++ [turn]) = pressed call lengths past := by
  simp [pressed, none]

theorem pressed_some (given : keyOf call lengths turn = some key) :
    pressed call lengths (past ++ [turn]) = pressed call lengths past ++ [key] := by
  simp [pressed, given]

theorem digits_digit (keys : List UInt8) (digit : key < 10) : digits (keys ++ [key]) = digits keys ++ [key + 0x30] := by
  simp [digits, digit]

theorem digits_other (keys : List UInt8) (other : ¬ key < 10) : digits (keys ++ [key]) = digits keys := by
  simp [digits, other]

theorem bytes_status (call : CtCall) (sw1 sw2 : UInt8) : (call.status sw1 sw2).bytes = [sw1, sw2] :=
  bytes_answers call [sw1, sw2]

/-- A status word that is no answer. -/
theorem status_other {sw1 sw2 : UInt8} {body : List UInt8} (other : sw1 ≠ 0x90) :
    (call.status sw1 sw2).bytes ≠ body ++ [0x90, 0x00] := by
  rw [bytes_status]
  intro same
  have length := congrArg List.length same
  simp only [List.length_append, List.length_cons, List.length_nil, Nat.zero_add] at length
  have empty : body = [] := List.eq_nil_of_length_eq_zero (by omega)
  rw [empty, List.nil_append, List.cons.injEq] at same
  exact other same.1

theorem keyAnswer_bytes {buffer : List UInt8} (success : (keyAnswer call buffer).ret = 0) :
    (keyAnswer call buffer).bytes = buffer ++ [0x90, 0x00] := by
  unfold keyAnswer at success ⊢
  by_cases small : call.lenr < buffer.length + 2
  · rw [if_pos small] at success
    contradiction
  · rw [if_neg small]
    have length : buffer.length + 2 = (buffer ++ [0x90, 0x00]).length := by
      rw [List.length_append]
      rfl
    rw [length]
    exact bytes_answers call _

theorem Collecting.again (collecting : Collecting call lengths past state) :
    KeysRight call lengths past (.again state) where
  few := by
    rw [← collecting.buffer]
    exact Nat.le_of_lt collecting.below
  timedOut made := absurd made (collecting.unended (by decide))
  canceled made := absurd made (collecting.unended (by decide))
  confirmed made := absurd made (collecting.unended (by decide))
  full _ all := by
    rw [← collecting.buffer] at all
    exact absurd all (Nat.ne_of_lt collecting.below)
  goesOn _ _ _ _ := ⟨state, rfl, collecting.buffer⟩
  answered _ _ ended := by
    contradiction

theorem Collecting.refused (collecting : Collecting call lengths past state) (none : keyOf call lengths turn = none) :
    KeysRight call lengths (past ++ [turn]) (.done (call.cleared (-128))) where
  few := by
    rw [pressed_none none, ← collecting.buffer]
    exact Nat.le_of_lt collecting.below
  timedOut made := by
    rw [pressed_none none] at made
    exact absurd made (collecting.unended (by decide))
  canceled made := by
    rw [pressed_none none] at made
    exact absurd made (collecting.unended (by decide))
  confirmed made := by
    rw [pressed_none none] at made
    exact absurd made (collecting.unended (by decide))
  full _ all := by
    rw [pressed_none none, ← collecting.buffer] at all
    exact absurd all (Nat.ne_of_lt collecting.below)
  goesOn _ asked := absurd none (asked turn (List.mem_append_right _ (List.mem_singleton_self _)))
  answered _ _ ended success := by
    cases ended
    contradiction

theorem ending_other : ∀ key ∈ endingKeys, ¬ key < 10 := by
  decide

/-- The answer to a key that ends the input. -/
def endingAnswer (call : CtCall) (buffer : List UInt8) (key : UInt8) : CtReturn :=
  if key = 0xff then call.status 0x64 0x00
  else if key = 10 then call.status 0x64 0x01
  else keyAnswer call buffer

theorem Collecting.ended (collecting : Collecting call lengths past state) (given : keyOf call lengths turn = some key)
    (ending : key ∈ endingKeys) :
    KeysRight call lengths (past ++ [turn]) (.done (endingAnswer call state.buffer key)) := by
  have other := ending_other key ending
  have same : digits (pressed call lengths (past ++ [turn])) = state.buffer := by
    rw [pressed_some given, digits_other _ other, collecting.buffer]
  have last {wanted : UInt8} (made : wanted ∈ pressed call lengths (past ++ [turn])) (ends : wanted ∈ endingKeys) :
      wanted = key := by
    rw [pressed_some given] at made
    cases List.mem_append.mp made with
    | inl before => exact absurd before (collecting.unended ends)
    | inr here => exact List.mem_singleton.mp here
  constructor
  · rw [same]
    exact Nat.le_of_lt collecting.below
  · intro made
    rw [← last made (by decide)]
    rfl
  · intro made
    rw [← last made (by decide)]
    rfl
  · intro made
    rw [same, ← last made (by decide)]
    rfl
  · intro _ all
    rw [same] at all
    exact absurd all (Nat.ne_of_lt collecting.below)
  · intro _ _ goesOn
    rw [pressed_some given] at goesOn
    exact absurd ending (goesOn key (List.mem_append_right _ (List.mem_singleton_self _)))
  · intro result body ended success bytes
    cases ended
    rw [same]
    unfold endingAnswer at success bytes
    split at bytes
    · exact absurd bytes (status_other (by decide))
    · split at bytes
      · exact absurd bytes (status_other (by decide))
      · rename_i first second
        rw [if_neg first, if_neg second] at success
        rw [keyAnswer_bytes success] at bytes
        exact (List.append_cancel_right bytes).symm

/-- The last digit there is room for. -/
theorem Collecting.full (collecting : Collecting call lengths past state) (given : keyOf call lengths turn = some key)
    (digit : key < 10) (all : state.buffer.length + 1 = charlen lengths) :
    KeysRight call lengths (past ++ [turn]) (.done (keyAnswer call (state.buffer ++ [key + 0x30]))) := by
  have keys : digits (pressed call lengths (past ++ [turn])) = state.buffer ++ [key + 0x30] := by
    rw [pressed_some given, digits_digit _ digit, collecting.buffer]
  have length : (state.buffer ++ [key + 0x30]).length = charlen lengths := by
    rw [← all]
    exact List.length_append
  have none {wanted : UInt8} (ends : wanted ∈ endingKeys) : wanted ∉ pressed call lengths (past ++ [turn]) := by
    intro made
    rw [pressed_some given] at made
    cases List.mem_append.mp made with
    | inl before => exact absurd before (collecting.unended ends)
    | inr here =>
        rw [List.mem_singleton.mp here] at ends
        exact ending_other key ends digit
  constructor
  · rw [keys, length]
  · exact fun made => absurd made (none (by decide))
  · exact fun made => absurd made (none (by decide))
  · exact fun made => absurd made (none (by decide))
  · intro _ _
    rw [keys]
  · intro _ _ _ below
    rw [keys, length] at below
    exact absurd below (Nat.lt_irrefl _)
  · intro result body ended success bytes
    cases ended
    rw [keyAnswer_bytes success] at bytes
    rw [keys]
    exact (List.append_cancel_right bytes).symm

/-- What a key adds to the digits. -/
theorem Collecting.next (collecting : Collecting call lengths past state) (given : keyOf call lengths turn = some key)
    (goesOn : key ∉ endingKeys) {next : KeyState}
    (buffer : next.buffer = if key < 10 then state.buffer ++ [key + 0x30] else state.buffer)
    (below : next.buffer.length < charlen lengths) : Collecting call lengths (past ++ [turn]) next where
  buffer := by
    rw [buffer, pressed_some given]
    by_cases digit : key < 10
    · rw [if_pos digit, digits_digit _ digit, collecting.buffer]
    · rw [if_neg digit, digits_other _ digit, collecting.buffer]
  below := below
  asked := by
    intro made member
    cases List.mem_append.mp member with
    | inl before => exact collecting.asked made before
    | inr here =>
        rw [List.mem_singleton.mp here, given]
        exact Option.some_ne_none key
  goesOn := by
    intro made member
    rw [pressed_some given] at member
    cases List.mem_append.mp member with
    | inl before => exact collecting.goesOn made before
    | inr here =>
        rw [List.mem_singleton.mp here]
        exact goesOn

theorem inputKey_right (multi : MultiKey call) (past : Turns) (state : KeyState) (reply : KeyReply)
    (collecting : Collecting call lengths past state) :
    (inputKey call (promptText call lengths) (charlen lengths) state reply).2.Satisfies
      (Collecting call lengths
        (past ++ [⟨state, reply, (inputKey call (promptText call lengths) (charlen lengths) state reply).1⟩]))
      (fun result => KeysRight call lengths
        (past ++ [⟨state, reply, (inputKey call (promptText call lengths) (charlen lengths) state reply).1⟩])
        (.done result)) := by
  have key : keyOf call lengths
      ⟨state, reply, (inputKey call (promptText call lengths) (charlen lengths) state reply).1⟩ =
      if (cjInput (inputText (call.cmd 3) (promptText call lengths) state.buffer) reply).1 = .success then
        some reply.2 else none := by
    simp only [keyOf, cjInput_key]
  generalize (⟨state, reply, (inputKey call (promptText call lengths) (charlen lengths) state reply).1⟩ :
    Turn KeyState KeyReply Write) = turn at key ⊢
  by_cases given : (cjInput (inputText (call.cmd 3) (promptText call lengths) state.buffer) reply).1 = .success
  · rw [if_pos given] at key
    rw [inputKey_given given, keyEffect_multi multi]
    by_cases last : reply.2 = 0xff
    · rw [if_pos last]
      have ended := collecting.ended key (by rw [last]; decide)
      rwa [endingAnswer, if_pos last] at ended
    · rw [if_neg last]
      by_cases digit : reply.2 < 10
      · rw [if_pos digit]
        have length : (state.buffer ++ [reply.2 + 0x30]).length = state.buffer.length + 1 := List.length_append
        have goesOn : reply.2 ∉ endingKeys := fun ending => ending_other _ ending digit
        have below := collecting.below
        by_cases more : state.buffer.length + 1 < charlen lengths
        · simp only [behindKey, loopHead, length, if_pos more, satisfies_again]
          apply collecting.next key goesOn
          · rw [if_pos digit]
          · rwa [length]
        · simp only [behindKey, loopHead, length, if_neg more, answered, satisfies_done]
          exact collecting.full key digit (by omega)
      · rw [if_neg digit]
        by_cases ten : reply.2 = 10
        · rw [if_pos ten]
          have ended := collecting.ended key (by rw [ten]; decide)
          rwa [endingAnswer, if_neg last, if_pos ten] at ended
        · rw [if_neg ten]
          by_cases eleven : reply.2 = 11
          · rw [if_pos eleven]
            have ended := collecting.ended key (by rw [eleven]; decide)
            rwa [endingAnswer, if_neg last, if_neg ten] at ended
          · rw [if_neg eleven]
            have below := collecting.below
            simp only [behindKey, loopHead, if_pos below, satisfies_again]
            apply collecting.next key
            · simp only [endingKeys, List.mem_cons, List.not_mem_nil, or_false, not_or]
              exact ⟨ten, eleven, last⟩
            · rw [if_neg digit]
            · exact below
  · rw [if_neg given] at key
    rw [inputKey_refused given]
    exact collecting.refused key

/-! ## The whole command -/

theorem keysRight_nil {result : CtReturn}
    (empty : ∀ body, result.ret = 0 → result.bytes = body ++ [0x90, 0x00] → body = []) :
    KeysRight call lengths [] (.done result) where
  few := Nat.zero_le _
  timedOut made := absurd made List.not_mem_nil
  canceled made := absurd made List.not_mem_nil
  confirmed made := absurd made List.not_mem_nil
  full some := absurd rfl some
  goesOn some := absurd rfl some
  answered _ body ended success bytes := by
    cases ended
    exact empty body success bytes

theorem refusal_other {sw1 sw2 : UInt8} (refusal : inputRefusal call lengths = some (sw1, sw2)) : sw1 ≠ 0x90 := by
  unfold inputRefusal at refusal
  split at refusal
  · cases refusal
    decide
  · split at refusal
    · cases refusal
      decide
    · split at refusal
      · cases refusal
        decide
      · contradiction

theorem opening_right (call : CtCall) (lengths : Lengths) :
    (opening call lengths).2.Satisfies (Collecting call lengths [])
      (fun result => KeysRight call lengths [] (.done result)) := by
  unfold opening
  cases refusal : inputRefusal call lengths with
  | some status =>
      apply keysRight_nil
      intro body _ bytes
      exact absurd bytes (status_other (refusal_other refusal))
  | none =>
      simp only [loopHead]
      split
      · rename_i below
        exact ⟨rfl, below, List.forall_mem_nil _, List.forall_mem_nil _⟩
      · apply keysRight_nil
        intro body success bytes
        rw [keyAnswer_bytes success] at bytes
        exact (List.append_cancel_right bytes).symm

theorem performKeys_right (multi : MultiKey call) (lengths : Lengths) (replies : List KeyReply) :
    KeysRight call lengths (performKeys call lengths replies).turns (performKeys call lengths replies).outcome := by
  have finished := @call_invariant _ _ _ _ (inputKey call (promptText call lengths) (charlen lengths))
    (Collecting call lengths) (fun turns result => KeysRight call lengths turns (.done result)) (inputKey_right multi)
    _ (opening_right call lengths) replies
  change (performKeys call lengths replies).outcome.Satisfies
    (Collecting call lengths (performKeys call lengths replies).turns)
    (fun result => KeysRight call lengths (performKeys call lengths replies).turns (.done result)) at finished
  cases ended : (performKeys call lengths replies).outcome with
  | again state =>
      rw [ended] at finished
      exact finished.again
  | done result =>
      rw [ended] at finished
      exact finished

/-- A single key is a single byte of the answer. -/
theorem multi_or_single (passes : inputRefusal call lengths = none) : MultiKey call ∨ charlen lengths ≤ 256 := by
  by_cases multi : MultiKey call
  · exact .inl multi
  · right
    have single : call.cmd 3 &&& 0xf0 = 0x10 := not_not.mp multi
    by_cases one : lengths.Le = 1
    · rw [charlen, one]
      decide
    · unfold inputRefusal at passes
      split at passes
      · contradiction
      · rw [if_pos (.inr (.inr (.inr ⟨single, one⟩)))] at passes
        contradiction

theorem charlen_large : 256 < charlen lengths ↔ 256 < lengths.Le := by
  unfold charlen
  split
  · omega
  · omega

theorem performKeys_inside (room : 2 ≤ call.lenr) (lengths : Lengths) (replies : List KeyReply) :
    AllInside call.lenr (performKeys call lengths replies).trace ↔ ¬ Overruns call lengths replies := by
  unfold performKeys opening
  cases passes : inputRefusal call lengths with
  | some status =>
      apply iff_of_true
      · exact refused_inside room status.1 status.2
      · intro overruns
        have none := overruns.passes
        rw [passes] at none
        contradiction
  | none =>
      by_cases some : 0 < charlen lengths
      · simp only [loopHead, List.length_nil, if_pos some]
        have inside := @run_inside call (promptText call lengths) (charlen lengths)
          ⟨[], ((waitingTime call lengths).join).getD 15⟩ room (promptText_short call lengths) (multi_or_single passes)
          (.inr (.inl rfl)) some (Nat.zero_le _) replies
        refine inside.trans (not_congr ?_)
        rw [List.length_nil, Nat.zero_add, TooMany, charlen_large]
        constructor
        · intro many
          exact ⟨room, passes, many.1, many.2.1, many.2.2.1, many.2.2.2⟩
        · intro overruns
          exact ⟨overruns.hidden, overruns.text, overruns.Le, overruns.typed⟩
      · simp only [loopHead, List.length_nil, if_neg some]
        apply iff_of_true
        · exact allInside_append.mpr ⟨answered_inside _, allInside_nil _⟩
        · intro overruns
          have large := charlen_large.mpr overruns.Le
          omega

/-- Every write of INPUT is in bounds, and every key has its effect, unless more than 256 digits are asked for, not
shown, and typed. -/
theorem input_right_iff (linux : Bool) (call : CtCall) (replies : List KeyReply) :
    InputRight linux call (input linux call replies) ↔
      ¬ ∃ lengths, parseLengths linux call.cmd call.lenc = some lengths ∧ Overruns call lengths replies := by
  unfold input
  by_cases small : call.lenr < 2
  · rw [if_pos small]
    apply iff_of_true
    · constructor
      · exact allInside_nil _
      · intro lengths _ _
        apply keysRight_nil
        intro body success
        contradiction
    · intro overruns
      obtain ⟨lengths, _, overruns⟩ := overruns
      exact absurd overruns.room (Nat.not_le.mpr small)
  · have room := Nat.not_lt.mp small
    rw [if_neg small]
    cases parsed : parseLengths linux call.cmd call.lenc with
    | none =>
        apply iff_of_true
        · constructor
          · exact refused_inside room 0x67 0x00
          · intro lengths parsed'
            rw [parsed] at parsed'
            contradiction
        · intro overruns
          obtain ⟨lengths, none, _⟩ := overruns
          contradiction
    | some lengths =>
        have inside := performKeys_inside room lengths replies
        constructor
        · intro right overruns
          obtain ⟨other, same, overruns⟩ := overruns
          cases same
          exact inside.mp right.inside overruns
        · intro fits
          constructor
          · exact inside.mpr fun overruns => fits ⟨lengths, rfl, overruns⟩
          · intro other same multi
            rw [parsed] at same
            cases same
            exact performKeys_right multi lengths replies

/-- INPUT of 300 characters, without a text. -/
def longInput : CtCall where
  sad := 2
  dad := 1
  cmd := inMemory [0x20, 0x16, 0x50, 0x00, 0x00, 0x01, 0x2C]
  lenc := 7
  response _ := 0
  lenr := 512

/-- The 257th digit is written behind `buffer`. -/
theorem input_not_right : ¬ InputRight true longInput (input true longInput (List.replicate 257 (.success, 5))) := by
  have parsed : parseLengths true longInput.cmd longInput.lenc = some ⟨-1, none, 300⟩ := rfl
  have many : 256 < (typed (List.replicate 257 (.success, 5))).length := by decide +kernel
  intro right
  have inside := right.inside
  simp only [input, parsed] at inside
  rw [if_neg (by decide)] at inside
  apply (performKeys_inside (by decide) _ _).mp inside
  exact ⟨by decide, by decide, by decide, by decide, by decide, many⟩

end Cyberjack.Eca.KeyInput
