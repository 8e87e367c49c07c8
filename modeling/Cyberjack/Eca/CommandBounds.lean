import Cyberjack.Eca.CtCommand

namespace Cyberjack.Eca

open Cyberjack.Foundation

/-! # What a command can be answered from

`CtData` looks a command up in its command buffer, which still holds the end of an
earlier and longer one.  Whether that shows depends on the objects in the data
field and, for 80 60, on the length of the command.
-/

/-- Two memories hold the same command. -/
def SameBelow (limit : Nat) (first second : Nat → UInt8) : Prop :=
  ∀ index, index < limit → first index = second index

/-! ## The search for an object -/

variable {memory other : Nat → UInt8} {tagvalue : UInt8} {passes start limit : Nat} {len : Int}

theorem getTag_eq (memory : Nat → UInt8) (tagvalue : UInt8) (passes start : Nat) (len : Int) :
    GetTag memory tagvalue passes start len =
      (tagAt memory tagvalue passes start len).map fun found => bytesAt memory found.1 found.2 := by
  induction passes generalizing start len with
  | zero => rfl
  | succ passes ih =>
      rw [GetTag, tagAt]
      by_cases more : len > 2
      · rw [if_pos more, if_pos more]
        by_cases found : memory start = tagvalue
        · simp only [if_pos found, Option.map_some]
        · simp only [if_neg found, ih]
      · rw [if_neg more, if_neg more, Option.map_none]

theorem tagAt_inside {found : Nat × Nat}
    (at' : tagAt memory tagvalue passes start len = some found) :
    start + 2 ≤ found.1 ∧ (found.1 : Int) < start + len := by
  induction passes generalizing start len with
  | zero => contradiction
  | succ passes ih =>
      rw [tagAt] at at'
      by_cases more : len > 2
      · rw [if_pos more] at at'
        by_cases here : memory start = tagvalue
        · simp only [if_pos here, Option.some.injEq] at at'
          rw [← at']
          exact ⟨le_refl _, by push_cast; omega⟩
        · simp only [if_neg here] at at'
          have later := ih at'
          push_cast at later
          omega
      · rw [if_neg more] at at'
        contradiction

theorem tagAt_congr (same : SameBelow limit memory other) (inside : start + len ≤ limit) :
    tagAt memory tagvalue passes start len = tagAt other tagvalue passes start len := by
  induction passes generalizing start len with
  | zero => rfl
  | succ passes ih =>
      rw [tagAt, tagAt]
      by_cases more : len > 2
      · have tag := same start (by omega)
        have tlen := same (start + 1) (by omega)
        have later := @ih (start + 2 + (other (start + 1)).toNat)
          (len - ((other (start + 1)).toNat + 2)) (by push_cast; omega)
        simp only [if_pos more, tag, tlen, later]
      · rw [if_neg more, if_neg more]

theorem bytesAt_congr {offset count : Nat} (same : SameBelow limit memory other)
    (inside : offset + count ≤ limit) : bytesAt memory offset count = bytesAt other offset count :=
  bytesAt_same fun index _ below => same index (by omega)

/-! ## The objects of a command -/

/-- Where the value of an object of the data field begins, and its length. -/
def commandObject (cmd : Nat → UInt8) (lengths : Lengths) (tagvalue : UInt8) : Option (Nat × Nat) :=
  match lengths.data_ptr with
  | none => none
  | some offset => tagAt cmd tagvalue lengths.Lc.toNat offset lengths.Lc

/-- An object that counts ends inside the command; its length alone is always known. -/
def EndsInside (lenc : Nat) (counts : Nat → Prop) (object : Option (Nat × Nat)) : Prop :=
  ∀ found ∈ object, counts found.2 → found.1 + found.2 ≤ lenc

/-- The data field is inside the command. -/
structure Lengths.Inside (lengths : Lengths) (lenc : Nat) : Prop where
  counted : lengths.data_ptr.getD 0 + lengths.Lc ≤ lenc
  behind : lengths.Lc = -1 ∨ (0 ≤ lengths.Lc ∧ 5 ≤ lengths.data_ptr.getD 0)

theorem Lengths.Inside.offset {lengths : Lengths} {lenc offset : Nat} (inside : lengths.Inside lenc)
    (begins : lengths.data_ptr = some offset) : offset + lengths.Lc ≤ lenc := by
  have counted := inside.counted
  rwa [begins] at counted

variable {cmd : Nat → UInt8} {lengths : Lengths} {lenc : Nat} {linux : Bool}

theorem parseLengths_inside (parsed : parseLengths linux cmd lenc = some lengths) :
    4 ≤ lenc ∧ lengths.Inside lenc := by
  rw [parseLengths] at parsed
  repeat' split at parsed
  all_goals cases parsed
  all_goals
    refine ⟨by omega, ⟨?_, by simp⟩⟩
    simp only [Option.getD_some, Option.getD_none]
    push_cast
    omega

theorem commandTag_eq (cmd : Nat → UInt8) (lengths : Lengths) (tagvalue : UInt8) :
    commandTag cmd lengths tagvalue =
      (commandObject cmd lengths tagvalue).map fun found => bytesAt cmd found.1 found.2 := by
  rw [commandTag, commandObject]
  cases lengths.data_ptr with
  | none => rfl
  | some offset => exact getTag_eq cmd tagvalue _ offset _

theorem commandObject_congr (same : SameBelow lenc cmd other) (inside : lengths.Inside lenc)
    (tagvalue : UInt8) : commandObject cmd lengths tagvalue = commandObject other lengths tagvalue := by
  rw [commandObject, commandObject]
  cases begins : lengths.data_ptr with
  | none => rfl
  | some offset => exact tagAt_congr same (inside.offset begins)

theorem commandObject_inside (inside : lengths.Inside lenc) {found : Nat × Nat}
    (at' : commandObject cmd lengths tagvalue = some found) : found.1 < lenc := by
  rw [commandObject] at at'
  cases begins : lengths.data_ptr with
  | none =>
      rw [begins] at at'
      contradiction
  | some offset =>
      rw [begins] at at'
      have first := (tagAt_inside at').2
      have last := inside.offset begins
      omega

/-- The value of an object inside the command does not depend on what stands behind it. -/
theorem commandTag_congr (same : SameBelow lenc cmd other) (inside : lengths.Inside lenc)
    (ends : EndsInside lenc (fun _ => True) (commandObject cmd lengths tagvalue)) :
    commandTag other lengths tagvalue = commandTag cmd lengths tagvalue := by
  rw [commandTag_eq, commandTag_eq, ← commandObject_congr same inside]
  cases at' : commandObject cmd lengths tagvalue with
  | none => rfl
  | some found => exact congrArg some (bytesAt_congr same (ends found at' trivial)).symm

/-- Both runs find an object of the same length, with the same value where it counts. -/
theorem commandTag_cases (same : SameBelow lenc cmd other) (inside : lengths.Inside lenc)
    {counts : Nat → Prop} (ends : EndsInside lenc counts (commandObject cmd lengths tagvalue)) :
    commandTag other lengths tagvalue = commandTag cmd lengths tagvalue ∨
      ∃ value value', commandTag cmd lengths tagvalue = some value ∧
        commandTag other lengths tagvalue = some value' ∧ value'.length = value.length ∧
        ¬ counts value.length := by
  rw [commandTag_eq, commandTag_eq, ← commandObject_congr same inside]
  cases at' : commandObject cmd lengths tagvalue with
  | none => exact .inl rfl
  | some found =>
      by_cases counted : counts found.2
      · exact .inl (congrArg some (bytesAt_congr same (ends found at' counted)).symm)
      · refine .inr ⟨_, _, rfl, rfl, ?_, ?_⟩
        · rw [length_bytesAt, length_bytesAt]
        · rw [length_bytesAt]
          exact counted

theorem onlyByte_of_length_ne {value : List UInt8} (length : value.length ≠ 1) :
    onlyByte (some value) = none := by
  rcases value with _ | ⟨_, _ | _⟩
  · rfl
  · exact absurd rfl length
  · rfl

/-- The value of an object of one byte is inside whatever its length byte says. -/
theorem onlyByte_congr (same : SameBelow lenc cmd other) (inside : lengths.Inside lenc)
    (tagvalue : UInt8) :
    onlyByte (commandTag other lengths tagvalue) = onlyByte (commandTag cmd lengths tagvalue) := by
  have ends : EndsInside lenc (· = 1) (commandObject cmd lengths tagvalue) := by
    intro found at' single
    have first := commandObject_inside inside at'
    omega
  cases commandTag_cases same inside ends with
  | inl equal => rw [equal]
  | inr different =>
      obtain ⟨value, value', found, found', length, counts⟩ := different
      rw [found, found', onlyByte_of_length_ne counts, onlyByte_of_length_ne (by rwa [length])]

theorem isSome_congr (same : SameBelow lenc cmd other) (inside : lengths.Inside lenc)
    (tagvalue : UInt8) :
    (commandTag other lengths tagvalue).isSome = (commandTag cmd lengths tagvalue).isSome := by
  rw [commandTag_eq, commandTag_eq, ← commandObject_congr same inside, Option.isSome_map,
    Option.isSome_map]

/-! ## The handlers without a PIN -/

/-- The call with other memory behind its command. -/
def CtCall.on (call : CtCall) (cmd : Nat → UInt8) : CtCall := { call with cmd }

/-- The command of a call that has been taken apart, twice. -/
structure CtCall.Agrees (call : CtCall) (lengths : Lengths) (other : Nat → UInt8) : Prop where
  same : SameBelow call.lenc call.cmd other
  four : 4 ≤ call.lenc
  inside : lengths.Inside call.lenc

namespace CtCall

variable {call : CtCall}

@[simp] theorem on_cmd : (call.on other).cmd = other := rfl

@[simp] theorem on_sad : (call.on other).sad = call.sad := rfl

@[simp] theorem on_dad : (call.on other).dad = call.dad := rfl

@[simp] theorem on_lenc : (call.on other).lenc = call.lenc := rfl

@[simp] theorem on_lenr : (call.on other).lenr = call.lenr := rfl

@[simp] theorem on_response : (call.on other).response = call.response := rfl

@[simp] theorem on_status (sw1 sw2 : UInt8) : (call.on other).status sw1 sw2 = call.status sw1 sw2 := rfl

@[simp] theorem on_answers (copied : List UInt8) (length : Nat) :
    (call.on other).answers copied length = call.answers copied length := rfl

@[simp] theorem on_cleared (ret : Int) : (call.on other).cleared ret = call.cleared ret := rfl

@[simp] theorem on_untouched (ret : Int) : (call.on other).untouched ret = call.untouched ret := rfl

theorem Agrees.header (agrees : call.Agrees lengths other) :
    other 0 = call.cmd 0 ∧ other 1 = call.cmd 1 ∧ other 2 = call.cmd 2 ∧ other 3 = call.cmd 3 := by
  have four := agrees.four
  have same : ∀ index, index < 4 → other index = call.cmd index :=
    fun index header => (agrees.same index (by omega)).symm
  exact ⟨same 0 (by decide), same 1 (by decide), same 2 (by decide), same 3 (by decide)⟩

theorem Agrees.data (agrees : call.Agrees lengths other) : (call.on other).data lengths = call.data lengths := by
  rw [CtCall.data, CtCall.data]
  cases begins : lengths.data_ptr with
  | none => rfl
  | some offset =>
      have inside := agrees.inside.offset begins
      apply List.map_congr_left
      intro index member
      have bounded := List.mem_range.mp member
      exact (agrees.same _ (by omega)).symm

theorem Agrees.onlyByte (agrees : call.Agrees lengths other) (tagvalue : UInt8) :
    Eca.onlyByte (commandTag other lengths tagvalue) = Eca.onlyByte (commandTag call.cmd lengths tagvalue) :=
  onlyByte_congr agrees.same agrees.inside tagvalue

theorem Agrees.isSome (agrees : call.Agrees lengths other) (tagvalue : UInt8) :
    (commandTag other lengths tagvalue).isSome = (commandTag call.cmd lengths tagvalue).isSome :=
  isSome_congr agrees.same agrees.inside tagvalue

end CtCall

variable {call : CtCall}

/-- The time in tag 80 by what is known of every object. -/
theorem waitingTime_eq (call : CtCall) (lengths : Lengths) :
    waitingTime call lengths =
      if lengths.Lc = 1 then some (call.data lengths).head?
      else if (commandTag call.cmd lengths 0x80).isSome = false then some none
      else (onlyByte (commandTag call.cmd lengths 0x80)).map some := by
  rw [waitingTime]
  by_cases single : lengths.Lc = 1
  · rw [if_pos single, if_pos single]
  · rw [if_neg single, if_neg single]
    rcases commandTag call.cmd lengths 0x80 with _ | _ | ⟨_, _ | _⟩
    · rfl
    · rfl
    · rfl
    · rfl

theorem waitingTime_on (agrees : call.Agrees lengths other) :
    waitingTime (call.on other) lengths = waitingTime call lengths := by
  rw [waitingTime_eq, waitingTime_eq, agrees.data, CtCall.on_cmd, agrees.isSome, agrees.onlyByte]

theorem resetCard_on (answers : ResetAnswers) (P2 : UInt8) (Timeout : Nat) :
    resetCard (call.on other) answers P2 Timeout = resetCard call answers P2 Timeout := rfl

theorem resetCT_on (agrees : call.Agrees lengths other) (clearsAtr : Bool) :
    resetCT clearsAtr (call.on other) lengths = resetCT clearsAtr call lengths := by
  obtain ⟨_, _, P1, P2⟩ := agrees.header
  simp only [resetCT, CtCall.on_cmd, P1, P2, CtCall.on_status, resetCard_on]

theorem requestIcc_on (agrees : call.Agrees lengths other) :
    requestIcc (call.on other) lengths = requestIcc call lengths := by
  obtain ⟨_, _, P1, P2⟩ := agrees.header
  simp only [requestIcc, CtCall.on_cmd, P1, P2, CtCall.on_status, CtCall.on_cleared, resetCard_on,
    waitingTime_on agrees]

theorem getStatus_on (agrees : call.Agrees lengths other) (reader : CtReader) :
    getStatus reader (call.on other) lengths = getStatus reader call lengths := by
  obtain ⟨_, _, P1, P2⟩ := agrees.header
  have icc : iccStatus (call.on other) = iccStatus call := rfl
  have units : unitStatus reader (call.on other) = unitStatus reader call := rfl
  have manufacturer : manufacturerStatus reader (call.on other) = manufacturerStatus reader call := rfl
  simp only [getStatus, CtCall.on_cmd, CtCall.on_lenc, CtCall.on_lenr, P1, P2, CtCall.on_status,
    CtCall.on_cleared, CtCall.on_answers, icc, units, manufacturer]
  rfl

theorem deactivateIcc_on (agrees : call.Agrees lengths other) :
    deactivateIcc (call.on other) lengths = deactivateIcc call lengths := by
  obtain ⟨_, _, P1, P2⟩ := agrees.header
  simp only [deactivateIcc, CtCall.on_cmd, P1, P2, CtCall.on_status, CtCall.on_untouched]

theorem ejectIcc_on (agrees : call.Agrees lengths other) :
    ejectIcc (call.on other) lengths = ejectIcc call lengths := by
  obtain ⟨_, _, P1, P2⟩ := agrees.header
  have ejects : ejected (call.on other) = ejected call := rfl
  simp only [ejectIcc, CtCall.on_cmd, CtCall.on_lenc, P1, P2, CtCall.on_status, CtCall.on_untouched,
    ejects, waitingTime_on agrees]

end Cyberjack.Eca
