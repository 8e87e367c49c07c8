import Cyberjack.Eca.CommandTail
import Cyberjack.Eca.InputBounds

namespace Cyberjack.Eca.KeyInput

open Cyberjack.Foundation

/-! # What INPUT asks for

`_CtData` sets the callback for keys aside, asks `cjInput` for one key after the other and sets the callback again.
What it shows with each request are the keys so far.
-/

/-- Surroundings in which `cjInput` is that of the reader. -/
def keypad (others : (called : VirtualCall) → called.Reply) :
    Dialog.Device VirtualCall VirtualCall.Reply (List KeyReply) := fun replies called =>
  match called, replies with
  | .cjInput timeout tag50, reply :: rest => ((cjInput tag50 reply, (others (.cjInput timeout tag50)).2), rest)
  | called, replies => (others called, replies)

/-- How long the first key is waited for. -/
def firstWait (call : CtCall) (lengths : Lengths) : UInt8 := ((waitingTime call lengths).join).getD 15

/-- The requests for keys: the first has the time of the command, the others five seconds, and each shows the digits
that were typed before it. -/
def keyRequests (call : CtCall) (tag50 buffer : List UInt8) (timeout : UInt8) (replies : List KeyReply) (count : Nat) :
    List VirtualCall :=
  (List.range count).map fun index =>
    .cjInput (if index = 0 then timeout else 5)
      (inputText (call.cmd 3) tag50 (buffer ++ digits ((replies.take index).map Prod.snd)))

/-- The checks that come before the callback is set aside. -/
def Barred (call : CtCall) (lengths : Lengths) : Prop :=
  lengths.Le = -1 ∨ call.cmd 2 ≠ 0x50 ∨ call.cmd 3 &&& 0x0f > 0x02 ∨ call.cmd 3 &&& 0xf0 > 0x10 ∨
    (call.cmd 3 &&& 0xf0 = 0x10 ∧ lengths.Le ≠ 1)

instance (call : CtCall) (lengths : Lengths) : Decidable (Barred call lengths) := inferInstanceAs (Decidable (_ ∨ _))

/-- All that INPUT asks the reader for, in order. -/
def inputRequests (call : CtCall) (lengths : Lengths) (replies : List KeyReply) (count : Nat) : List VirtualCall :=
  if Barred call lengths then []
  else
    .SetKeyInterruptCallback false ::
      keyRequests call (promptText call lengths) [] (firstWait call lengths) replies count ++
        [.SetKeyInterruptCallback true]

/-! ## The requests of the passes -/

variable {call : CtCall} {lengths : Lengths} {tag50 : List UInt8} {limit : Nat} {state next : KeyState}
  {reply : KeyReply} {replies : List KeyReply} {output : List Write}

/-- The request of a pass. -/
def asked (call : CtCall) (tag50 : List UInt8) (turn : Turn KeyState KeyReply Write) : VirtualCall :=
  .cjInput turn.before.timeout (inputText (call.cmd 3) tag50 turn.before.buffer)

theorem loopHead_again (again : (loopHead call limit state).2 = .again next) : next = state := by
  unfold loopHead at again
  split at again
  · injection again with same
    exact same.symm
  · contradiction

/-- Where the loop goes on, it has the key if that was a digit. -/
theorem behindKey_again (multi : MultiKey call) {key : UInt8}
    (again : (behindKey call limit state (keyEffect (call.cmd 3) limit key)).2 = .again next) :
    next = ⟨state.buffer ++ digits [key], 5⟩ := by
  rw [keyEffect_multi multi] at again
  by_cases digit : key < 10
  · rw [if_neg (by rintro rfl; contradiction), if_pos digit] at again
    rw [loopHead_again again, digits, List.filter_singleton, decide_eq_true digit]
    rfl
  · have none : digits [key] = [] := by
      rw [digits, List.filter_singleton, decide_eq_false digit]
      rfl
    rw [if_neg digit] at again
    split at again
    · contradiction
    · split at again
      · contradiction
      · split at again
        · contradiction
        · rw [loopHead_again again, none, List.append_nil]

theorem inputKey_again (multi : MultiKey call) (again : inputKey call tag50 limit state reply = (output, .again next)) :
    next = ⟨state.buffer ++ digits [reply.2], 5⟩ := by
  by_cases given : (cjInput (inputText (call.cmd 3) tag50 state.buffer) reply).1 = .success
  · rw [inputKey_given given] at again
    exact behindKey_again multi (congrArg Prod.snd again)
  · rw [inputKey_refused given] at again
    exact absurd (congrArg Prod.snd again) nofun

theorem digits_nil : digits [] = [] := rfl

theorem digits_cons (key : UInt8) (keys : List UInt8) : digits (key :: keys) = digits [key] ++ digits keys := by
  rw [digits, ← List.singleton_append, List.filter_append, List.map_append]
  rfl

/-- By induction on the replies. -/
theorem asked_turns (multi : MultiKey call) (replies : List KeyReply) :
    (run (inputKey call tag50 limit) state replies).turns.map (asked call tag50) =
      keyRequests call tag50 state.buffer state.timeout replies
        (run (inputKey call tag50 limit) state replies).turns.length := by
  induction replies generalizing state with
  | nil => rfl
  | cons reply rest ih =>
      cases stepped : inputKey call tag50 limit state reply with
      | mk output next =>
          cases next with
          | done result =>
              rw [run_done stepped, keyRequests, List.map_singleton, List.length_singleton, List.range_one,
                List.map_singleton, List.take_zero, List.map_nil, digits_nil, List.append_nil]
              rfl
          | again next =>
              rw [run_again stepped, List.map_cons, ih, inputKey_again multi stepped, List.length_cons, keyRequests,
                keyRequests, List.range_succ_eq_map, List.map_cons, List.map_map]
              congr 1
              · rw [List.take_zero, List.map_nil, digits_nil, List.append_nil]
                rfl
              · apply List.map_congr_left
                intro index _
                rw [Function.comp_apply, List.take_succ_cons, List.map_cons, digits_cons _ (List.map _ _),
                  ← List.append_assoc, if_neg (Nat.succ_ne_zero index), ite_self]

/-! ## The handler -/

/-- How the handler goes on with what the loop of the keys gives it. -/
def keysAnswer (call : CtCall) : CtReturn ⊕ List UInt8 → CtReturn
  | .inl answer => answer
  | .inr buffer => keyAnswer call buffer

variable {others : (called : VirtualCall) → called.Reply} {members : CtMembers} {result : CtReturn}

/-- What the handler does with a key. -/
def keyStep (call : CtCall) (tag50 : List UInt8) (limit passes : Nat) (state : KeyState) :
    KeyEffect → Handler (CtReturn ⊕ List UInt8)
  | .timedOut => return .inl (call.status 0x64 0x00)
  | .canceled => return .inl (call.status 0x64 0x01)
  | .confirmed => return .inr state.buffer
  | .collected byte => inputKeys call (call.cmd 3) tag50 limit passes (state.buffer ++ [byte]) 5
  | .ignored => inputKeys call (call.cmd 3) tag50 limit passes state.buffer 5

theorem inputKeys_succ (below : state.buffer.length < limit) (passes : Nat) :
    inputKeys call (call.cmd 3) tag50 limit (passes + 1) state.buffer state.timeout =
      ask (.cjInput state.timeout (inputText (call.cmd 3) tag50 state.buffer)) >>=
        fun input : CJ_RESULT × UInt8 =>
          if input.1 ≠ .success then return .inl (call.cleared (-128))
          else keyStep call tag50 limit passes state (keyEffect (call.cmd 3) limit input.2) := by
  rw [inputKeys, if_neg (Nat.not_le.mpr below)]
  simp only [keyEffect, apply_ite (keyStep call tag50 limit passes state)]
  simp only [keyStep]
  rfl

/-- It asks for a key and goes on with the one that the reader gives. -/
theorem inputKeys_told (below : state.buffer.length < limit) (passes : Nat) (rest : List KeyReply) :
    ∃ told, ((inputKeys call (call.cmd 3) tag50 limit (passes + 1) state.buffer state.timeout) members).run
      (keypad others) (reply :: rest) =
        (fun later : List VirtualCall × Option (_ × CtMembers) =>
          (.cjInput state.timeout (inputText (call.cmd 3) tag50 state.buffer) :: later.1, later.2))
        (((if (cjInput (inputText (call.cmd 3) tag50 state.buffer) reply).1 ≠ .success then
            return .inl (call.cleared (-128))
          else keyStep call tag50 limit passes state (keyEffect (call.cmd 3) limit reply.2) : Handler _) told).run
            (keypad others) rest) := by
  rw [inputKeys_succ below, ← @cjInput_key reply (inputText (call.cmd 3) tag50 state.buffer)]
  exact ⟨_, rfl⟩

/-- The handler comes to the result of the loop with a request for each pass, if it may make a pass for every key. -/
theorem inputKeys_run (ended : (run (inputKey call tag50 limit) state replies).outcome = .done result)
    (below : state.buffer.length < limit) {passes : Nat} (enough : replies.length < passes) :
    ∃ keys after, ((inputKeys call (call.cmd 3) tag50 limit passes state.buffer state.timeout) members).run
      (keypad others) replies =
        ((run (inputKey call tag50 limit) state replies).turns.map (asked call tag50), some (keys, after)) ∧
      keysAnswer call keys = result := by
  induction replies generalizing state passes members with
  | nil => contradiction
  | cons reply rest ih =>
      cases passes with
      | zero => contradiction
      | succ passes =>
          obtain ⟨told, goesOn⟩ := @inputKeys_told call tag50 limit state reply others members below passes rest
          rw [goesOn]
          by_cases given : (cjInput (inputText (call.cmd 3) tag50 state.buffer) reply).1 = .success
          · rw [if_neg (not_not.mpr given)]
            have stepped := @inputKey_given call tag50 limit state reply given
            have more := Nat.lt_of_succ_lt_succ enough
            cases effect : keyEffect (call.cmd 3) limit reply.2 with
            | timedOut =>
                rw [effect] at stepped
                rw [run_done stepped] at ended ⊢
                cases ended
                exact ⟨_, _, rfl, rfl⟩
            | canceled =>
                rw [effect] at stepped
                rw [run_done stepped] at ended ⊢
                cases ended
                exact ⟨_, _, rfl, rfl⟩
            | confirmed =>
                rw [effect] at stepped
                rw [run_done stepped] at ended ⊢
                cases ended
                exact ⟨_, _, rfl, rfl⟩
            | ignored =>
                simp only [effect, behindKey, loopHead, if_pos below] at stepped
                rw [run_again stepped] at ended ⊢
                obtain ⟨keys, after, reached, answer⟩ := @ih ⟨state.buffer, 5⟩ told ended below passes more
                refine ⟨keys, after, ?_, answer⟩
                rw [keyStep, reached]
                rfl
            | collected byte =>
                by_cases full : (state.buffer ++ [byte]).length < limit
                · simp only [effect, behindKey, loopHead, if_pos full] at stepped
                  rw [run_again stepped] at ended ⊢
                  obtain ⟨keys, after, reached, answer⟩ :=
                    @ih ⟨state.buffer ++ [byte], 5⟩ told ended full passes more
                  refine ⟨keys, after, ?_, answer⟩
                  rw [keyStep, reached]
                  rfl
                · simp only [effect, behindKey, loopHead, if_neg full, answered] at stepped
                  rw [run_done stepped] at ended ⊢
                  cases ended
                  cases passes with
                  | zero => contradiction
                  | succ passes =>
                      rw [keyStep, inputKeys, if_pos (Nat.not_lt.mp full)]
                      exact ⟨_, _, rfl, rfl⟩
          · rw [if_pos given]
            rw [run_done (inputKey_refused given)] at ended ⊢
            cases ended
            exact ⟨_, _, rfl, rfl⟩

/-- The part of the handler behind its checks. -/
theorem inputCharacters_run {time : Option UInt8} (timed : waitingTime call lengths = some time)
    (passes : inputRefusal call lengths = none) (ended : (performKeys call lengths replies).outcome = .done result)
    {count : Nat} (enough : replies.length < count) :
    ∃ after, ((inputCharacters count call lengths) members).run (keypad others) replies =
      ((performKeys call lengths replies).turns.map (asked call (promptText call lengths)), some (result, after)) := by
  have unfolded : inputCharacters count call lengths =
      inputKeys call (call.cmd 3) (promptText call lengths) (charlen lengths) count [] (time.getD 15) >>=
        fun keys => return keysAnswer call keys := by
    rw [inputCharacters, timed]
    apply bind_congr
    intro keys
    cases keys <;> rfl
  simp only [performKeys, opening, passes, timed] at ended ⊢
  rw [unfolded]
  by_cases some : 0 < charlen lengths
  · simp only [loopHead, List.length_nil, if_pos some] at ended ⊢
    obtain ⟨keys, after, reached, answer⟩ := @inputKeys_run call (promptText call lengths) (charlen lengths)
      ⟨[], time.getD 15⟩ replies others members result ended some count enough
    obtain ⟨_, same⟩ := Dialog.run_bind (congrArg Prod.snd reached)
      fun told => .done (keysAnswer call told.1, told.2)
    rw [reached, answer] at same
    exact ⟨after, same.trans (congrArg₂ Prod.mk (List.append_nil _) rfl)⟩
  · cases count with
    | zero => contradiction
    | succ count =>
        simp only [loopHead, List.length_nil, if_neg some, answered] at ended ⊢
        cases ended
        rw [inputKeys, List.length_nil, if_pos (Nat.not_lt.mp some)]
        exact ⟨_, rfl⟩

theorem performKeys_refused {status : UInt8 × UInt8} (refusal : inputRefusal call lengths = some status)
    (replies : List KeyReply) : performKeys call lengths replies =
      ⟨[⟨.response, 0, 2⟩], [], .done (call.status status.1 status.2)⟩ := by
  simp only [performKeys, opening, refusal]
  rfl

/-- INPUT in `CtData` asks and answers as the loop of the keys does. -/
theorem performInput_run (ended : (performKeys call lengths replies).outcome = .done result) {count : Nat}
    (enough : replies.length < count) (multi : MultiKey call) :
    ∃ after, ((performInput count call lengths) members).run (keypad others) replies =
      (inputRequests call lengths replies (performKeys call lengths replies).turns.length, some (result, after)) := by
  unfold performInput inputRequests
  by_cases missing : lengths.Le = -1
  · have refusal : inputRefusal call lengths = some (0x67, 0x00) := if_pos missing
    rw [performKeys_refused refusal] at ended
    cases ended
    rw [if_pos missing, if_pos (.inl missing)]
    exact ⟨_, rfl⟩
  · rw [if_neg missing]
    by_cases parameters : call.cmd 2 ≠ 0x50 ∨ call.cmd 3 &&& 0x0f > 0x02 ∨ call.cmd 3 &&& 0xf0 > 0x10 ∨
        (call.cmd 3 &&& 0xf0 = 0x10 ∧ lengths.Le ≠ 1)
    · have refusal : inputRefusal call lengths = some (0x6A, 0x00) := (if_neg missing).trans (if_pos parameters)
      rw [performKeys_refused refusal] at ended
      cases ended
      rw [if_pos parameters, if_pos (.inr parameters)]
      exact ⟨_, rfl⟩
    · rw [if_neg parameters, if_neg (show ¬ Barred call lengths from not_or.mpr ⟨missing, parameters⟩)]
      have checked : inputRefusal call lengths = if waitingTime call lengths = none then some (0x67, 0x00) else none :=
        (if_neg missing).trans (if_neg parameters)
      cases timed : waitingTime call lengths with
      | none =>
          rw [timed, if_pos rfl] at checked
          rw [performKeys_refused checked] at ended ⊢
          cases ended
          simp only [inputCharacters, timed]
          exact ⟨_, rfl⟩
      | some time =>
          rw [timed, if_neg (Option.some_ne_none time)] at checked
          obtain ⟨after, reached⟩ := @inputCharacters_run call lengths replies others
            { members with card := (others (.SetKeyInterruptCallback false)).2 } result time timed checked ended
            count enough
          obtain ⟨_, same⟩ := Dialog.run_bind (congrArg Prod.snd reached) fun told =>
            .ask (.SetKeyInterruptCallback true) fun restored => .done (told.1, { told.2 with card := restored.2 })
          rw [reached] at same
          have requests : (performKeys call lengths replies).turns.map (asked call (promptText call lengths)) =
              keyRequests call (promptText call lengths) [] (firstWait call lengths) replies
                (performKeys call lengths replies).turns.length := by
            by_cases some : 0 < charlen lengths
            · simp only [performKeys, opening, checked, loopHead, List.length_nil, if_pos some]
              exact asked_turns multi replies
            · simp only [performKeys, opening, checked, loopHead, List.length_nil, if_neg some]
              rfl
          rw [← requests]
          have requested := congrArg Prod.fst same
          have handed := congrArg Prod.snd same
          refine ⟨{ after with card := (others (.SetKeyInterruptCallback true)).2 }, Prod.ext ?_ handed⟩
          exact congrArg (List.cons (.SetKeyInterruptCallback false)) requested

/-! ## The command -/

/-- A command to a reader with a keypad that asks for some characters, but not for more than `buffer` holds. -/
structure AsksForKeys (reader : CtReader) (call : CtCall) (lengths : Lengths) : Prop where
  toReader : call.ToReader
  room : 2 ≤ call.lenr
  parsed : parseLengths reader.linux call.cmd call.lenc = some lengths
  CLA : call.cmd 0 = 0x20
  INS : call.cmd 1 = 0x16
  offered : reader.IsClass2 = true ∧ (reader.IsClass3 = false ∨ reader.mktComp = true)
  multi : MultiKey call
  few : lengths.Le ≤ 256

theorem ctCommand_input {reader : CtReader} (asks : AsksForKeys reader call lengths) (frame : Frame) :
    ctCommand reader frame call = performInput frame.passes call lengths := by
  rw [ctCommand, if_pos asks.toReader, if_neg (Nat.not_lt.mpr asks.room), asks.parsed]
  dsimp only
  rw [commandToReader, asks.CLA, if_neg (by decide), if_pos rfl, class20, asks.INS, if_neg (by decide),
    if_neg (by decide), if_neg (by decide), if_neg (by decide), if_neg (by decide), if_neg (by decide),
    if_pos ⟨rfl, asks.offered⟩]

/-- The callback is away while the keys are asked for, each request shows what was typed before it, and the answer is
what the keys make of it. -/
theorem input_asks_and_answers (reader : CtReader) (frame : Frame) (call : CtCall) (lengths : Lengths)
    (asks : AsksForKeys reader call lengths) (replies : List KeyReply) (enough : replies.length < frame.passes)
    (others : (called : VirtualCall) → called.Reply) (members : CtMembers) (result : CtReturn)
    (ended : (performKeys call lengths replies).outcome = .done result) :
    (∃ after, ((ctCommand reader frame call) members).run (keypad others) replies =
      (inputRequests call lengths replies (performKeys call lengths replies).turns.length, some (result, after))) ∧
    KeysRight call lengths (performKeys call lengths replies).turns (.done result) := by
  constructor
  · rw [ctCommand_input asks]
    exact performInput_run ended enough asks.multi
  · rw [← ended]
    exact performKeys_right asks.multi lengths replies

/-- INPUT of two characters, which are shown. -/
def shortInput : CtCall where
  sad := 2
  dad := 1
  cmd := inMemory [0x20, 0x16, 0x50, 0x01, 0x02]
  lenc := 5
  response _ := 0
  lenr := 8

def classTwo : CtReader := { classOne with IsClass2 := true }

def noCard : CardMembers := ⟨.absent, 0⟩

/-- Surroundings that succeed and tell nothing. -/
def quiet : (called : VirtualCall) → called.Reply
  | .IfdPower _ _ => (.success, noCard)
  | .IfdGetState => ((.success, .absent), noCard)
  | .ctBcsReset _ _ => (⟨.success, fun _ => 0, 0, fun _ => 0, 0⟩, noCard)
  | .SetSyncParameters _ _ => ((), noCard)
  | .SetKeyInterruptCallback _ => ((), noCard)
  | .cjInput _ _ => ((.success, 0), noCard)
  | .cjOutput _ _ => (.success, noCard)
  | .cjccid_SecurePV _ => (⟨.success, []⟩, noCard)
  | .cjccid_SecureMV _ _ => (⟨.success, []⟩, noCard)
  | .cjccid_SecureMV_modify _ => (⟨.success, []⟩, noCard)
  | .CtApplicationData _ _ _ _ => (⟨.success, [], []⟩, noCard)
  | .Transfer _ => (⟨true, 0x80, 0, 0, []⟩, noCard)

/-- A key that is no digit is asked for again, with the same text. -/
theorem input_asks_and_answers_ignored : ∃ after,
    ((ctCommand classTwo ⟨⟨fun _ => 0, (0, 0)⟩, ⟨.filled 258 0, fun _ => 0⟩, 4⟩ shortInput)
      ⟨⟨.filled 10 0, 0, .filled 2 0⟩, 0, 0, 0, noCard⟩).run (keypad quiet)
        [(.success, 1), (.success, 12), (.success, 2)] =
      ([.SetKeyInterruptCallback false, .cjInput 15 [], .cjInput 5 [0x31], .cjInput 5 [0x31],
        .SetKeyInterruptCallback true], some (shortInput.answers [0x31, 0x32, 0x90, 0x00] 4, after)) :=
  (input_asks_and_answers classTwo ⟨⟨fun _ => 0, (0, 0)⟩, ⟨.filled 258 0, fun _ => 0⟩, 4⟩ shortInput ⟨-1, none, 2⟩
    ⟨by decide, by decide, rfl, rfl, rfl, by decide, by unfold MultiKey; decide, by decide⟩
    [(.success, 1), (.success, 12), (.success, 2)] (by decide) quiet
    ⟨⟨.filled 10 0, 0, .filled 2 0⟩, 0, 0, 0, noCard⟩ (shortInput.answers [0x31, 0x32, 0x90, 0x00] 4) rfl).1

end Cyberjack.Eca.KeyInput
