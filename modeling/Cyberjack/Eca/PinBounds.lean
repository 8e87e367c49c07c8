import Cyberjack.Eca.CommandBounds

namespace Cyberjack.Eca

open Cyberjack.Foundation

/-! # The objects of the keypad commands

What INPUT, OUTPUT, PERFORM VERIFICATION and MODIFY VERIFICATION read of the
objects of their command before they ask the keypad.
-/

variable {call : CtCall} {lengths : Lengths} {other : Nat → UInt8}

/-- Every length counts. -/
abbrev Always (_ : Nat) : Prop := True

/-! ## INPUT and OUTPUT -/

def InputRefused (call : CtCall) (lengths : Lengths) : Prop :=
  lengths.Le = -1 ∨ call.cmd 2 ≠ 0x50 ∨ call.cmd 3 &&& 0x0f > 0x02 ∨ call.cmd 3 &&& 0xf0 > 0x10 ∨
    (call.cmd 3 &&& 0xf0 = 0x10 ∧ lengths.Le ≠ 1) ∨ waitingTime call lengths = none

/-- The text of INPUT ends inside the command. -/
def InputInside (call : CtCall) (lengths : Lengths) : Prop :=
  InputRefused call lengths ∨ EndsInside call.lenc Always (commandObject call.cmd lengths 0x50)

theorem inputKeys_on (P2 : UInt8) (tag50 : List UInt8) (charlen passes : Nat) (buffer : List UInt8)
    (timeout : UInt8) :
    inputKeys (call.on other) P2 tag50 charlen passes buffer timeout =
      inputKeys call P2 tag50 charlen passes buffer timeout := by
  induction passes generalizing buffer timeout with
  | zero => rfl
  | succ passes ih => simp only [inputKeys, ih, CtCall.on_cleared, CtCall.on_status]

theorem inputCharacters_on (agrees : call.Agrees lengths other)
    (ends : waitingTime call lengths ≠ none →
      EndsInside call.lenc Always (commandObject call.cmd lengths 0x50)) (passes : Nat) :
    inputCharacters passes (call.on other) lengths = inputCharacters passes call lengths := by
  obtain ⟨_, _, _, P2⟩ := agrees.header
  have answer (buffer : List UInt8) : keyAnswer (call.on other) buffer = keyAnswer call buffer := rfl
  rw [inputCharacters, inputCharacters, waitingTime_on agrees]
  cases time : waitingTime call lengths with
  | none => rfl
  | some time =>
      have text := commandTag_congr agrees.same agrees.inside (ends (by rw [time]; simp))
      simp only [CtCall.on_cmd, text, P2, inputKeys_on, answer]

theorem performInput_on (agrees : call.Agrees lengths other) (ends : InputInside call lengths)
    (passes : Nat) :
    performInput passes (call.on other) lengths = performInput passes call lengths := by
  obtain ⟨_, _, P1, P2⟩ := agrees.header
  by_cases omitted : lengths.Le = -1
  · rw [performInput, performInput, if_pos omitted, if_pos omitted, CtCall.on_status]
  · rw [performInput, performInput, if_neg omitted, if_neg omitted, CtCall.on_cmd, P1, P2]
    by_cases refused : call.cmd 2 ≠ 0x50 ∨ call.cmd 3 &&& 0x0f > 0x02 ∨ call.cmd 3 &&& 0xf0 > 0x10 ∨
        (call.cmd 3 &&& 0xf0 = 0x10 ∧ lengths.Le ≠ 1)
    · rw [if_pos refused, if_pos refused, CtCall.on_status]
    · have shown : waitingTime call lengths ≠ none →
          EndsInside call.lenc Always (commandObject call.cmd lengths 0x50) := by
        intro timed
        cases ends with
        | inl earlier =>
            rcases earlier with earlier | earlier | earlier | earlier | earlier | earlier
            · exact absurd earlier omitted
            · exact absurd (.inl earlier) refused
            · exact absurd (.inr (.inl earlier)) refused
            · exact absurd (.inr (.inr (.inl earlier))) refused
            · exact absurd (.inr (.inr (.inr earlier))) refused
            · exact absurd earlier timed
        | inr inside => exact inside
      rw [if_neg refused, if_neg refused, inputCharacters_on agrees shown]

def OutputRefused (call : CtCall) (lengths : Lengths) : Prop :=
  lengths.Lc = -1 ∨ lengths.Le ≠ -1 ∨ call.cmd 2 ≠ 0x40 ∨ call.cmd 3 ≠ 0 ∨
    ((commandTag call.cmd lengths 0x80).isSome ∧ onlyByte (commandTag call.cmd lengths 0x80) = none)

/-- The text of OUTPUT ends inside the command. -/
def OutputInside (call : CtCall) (lengths : Lengths) : Prop :=
  OutputRefused call lengths ∨ EndsInside call.lenc Always (commandObject call.cmd lengths 0x50)

theorem performOutput_on (agrees : call.Agrees lengths other) (ends : OutputInside call lengths) :
    performOutput (call.on other) lengths = performOutput call lengths := by
  obtain ⟨_, _, P1, P2⟩ := agrees.header
  have text : outputText (call.on other) = outputText call := rfl
  simp only [performOutput, CtCall.on_cmd, P1, P2, agrees.isSome, agrees.onlyByte, CtCall.on_status, text]
  cases ends with
  | inr inside => rw [commandTag_congr agrees.same agrees.inside inside]
  | inl refused =>
      rcases refused with refused | refused | refused | refused | refused
      · rw [if_pos (.inl refused), if_pos (.inl refused)]
      · rw [if_pos (.inr refused), if_pos (.inr refused)]
      · by_cases long : lengths.Lc = -1 ∨ lengths.Le ≠ -1
        · rw [if_pos long, if_pos long]
        · rw [if_neg long, if_neg long, if_pos (.inl refused), if_pos (.inl refused)]
      · by_cases long : lengths.Lc = -1 ∨ lengths.Le ≠ -1
        · rw [if_pos long, if_pos long]
        · rw [if_neg long, if_neg long, if_pos (.inr refused), if_pos (.inr refused)]
      · rw [if_pos refused, if_pos refused]

/-! ## PERFORM VERIFICATION -/

theorem pinLimits_of_length_ne {format Min Max : UInt8} {value : List UInt8} (length : value.length ≠ 2) :
    pinLimits format Min Max (some value) = (Min, Max) := by
  rcases value with _ | ⟨_, _ | ⟨_, _ | _⟩⟩
  · rfl
  · rfl
  · exact absurd rfl length
  · rfl

theorem pinLimits_congr (agrees : call.Agrees lengths other)
    (ends : EndsInside call.lenc (· = 2) (commandObject call.cmd lengths 0x51)) (format Min Max : UInt8) :
    pinLimits format Min Max (commandTag other lengths 0x51) =
      pinLimits format Min Max (commandTag call.cmd lengths 0x51) := by
  cases commandTag_cases agrees.same agrees.inside ends with
  | inl equal => rw [equal]
  | inr different =>
      obtain ⟨value, value', found, found', length, counts⟩ := different
      rw [found, found', pinLimits_of_length_ne counts, pinLimits_of_length_ne (by rwa [length])]

/-- The lengths of a PIN of format 2. -/
def PinLengthAccepted (PinLength : UInt8) : Prop := PinLength = 0 ∨ (4 ≤ PinLength ∧ PinLength ≤ 12)

/-- The control byte, the position and the command behind them are not answered at once. -/
def PinAccepted (control position : UInt8) (apdu : List UInt8) : Prop :=
  4 ≤ apdu.length ∧ 5 < position ∧
    (apdu.length = 4 ∨ ((position - 6).toNat : Int) ≤ apdu.length + 2 - 7) ∧
    control &&& 3 ≠ 3 ∧
    (control &&& 3 = 2 → PinLengthAccepted (control >>> 4))

theorem callSecure_congr {tags tags' : UInt8 → Option (List UInt8)}
    (text : tags' 0x50 = tags 0x50) (limits : ∀ format Min Max, pinLimits format Min Max (tags' 0x51) =
      pinLimits format Min Max (tags 0x51))
    (bytes : ∀ tagvalue, onlyByte (tags' tagvalue) = onlyByte (tags tagvalue)) :
    callSecure tags' = callSecure tags := by
  funext stack timeout format parameters
  simp only [callSecure, text, limits, bytes]

theorem pinFormat2_some {PinLength PinPosition : UInt8} {buffer : Nat → UInt8} {parameters : PinParameters}
    (set : pinFormat2 PinLength PinPosition buffer = some parameters) :
    PinLengthAccepted PinLength := by
  by_cases zero : PinLength = 0
  · exact .inl zero
  · by_cases bad : PinLength < 4 ∨ PinLength > 12
    · rw [pinFormat2, if_pos ⟨zero, bad⟩] at set
      contradiction
    · rw [not_or, UInt8.not_lt, UInt8.not_lt] at bad
      exact .inr bad

/-- The objects are looked for only behind the last refusal. -/
theorem pinCommand_congr {tags tags' : UInt8 → Option (List UInt8)} {control position : UInt8}
    {apdu : List UInt8} (called : PinAccepted control position apdu → callSecure tags' = callSecure tags)
    (stack : Stack) (timeout : UInt8) :
    pinCommand tags' stack timeout control position apdu =
      pinCommand tags stack timeout control position apdu := by
  by_cases short : apdu.length < 4 ∨ position ≤ 5
  · rw [pinCommand, pinCommand, if_pos short, if_pos short]
  · by_cases behind : apdu.length ≠ 4 ∧
        ((position - 6).toNat : Int) > (if apdu.length = 4 then 7 else apdu.length + 2 : Nat) - 7
    · simp only [pinCommand, if_neg short, if_pos behind]
    · have room : apdu.length = 4 ∨ ((position - 6).toNat : Int) ≤ apdu.length + 2 - 7 := by
        by_cases four : apdu.length = 4
        · exact .inl four
        · rw [if_neg four] at behind
          push_cast at behind
          exact .inr (by omega)
      have accepted (format : control &&& 3 ≠ 3) (pin : control &&& 3 = 2 → PinLengthAccepted (control >>> 4)) : PinAccepted control position apdu := by
        rw [not_or, not_lt, UInt8.not_le] at short
        exact ⟨short.1, short.2, room, format, pin⟩
      simp only [pinCommand, if_neg short, if_neg behind]
      by_cases bcd : control &&& 3 = 0
      · rw [if_pos bcd, if_pos bcd, called (accepted (by rw [bcd]; decide) fun two => by
          rw [bcd] at two; contradiction)]
      · rw [if_neg bcd, if_neg bcd]
        by_cases ascii : control &&& 3 = 1
        · rw [if_pos ascii, if_pos ascii, called (accepted (by rw [ascii]; decide) fun two => by
            rw [ascii] at two; contradiction)]
        · rw [if_neg ascii, if_neg ascii]
          by_cases format2 : control &&& 3 = 2
          · rw [if_pos format2, if_pos format2]
            cases set : pinFormat2 (control >>> 4) (position - 6)
                (stored stack.buffer 0 (if apdu.length = 4 then apdu ++ [0] else apdu)) with
            | none => rfl
            | some parameters =>
                simp only
                rw [called (accepted (by rw [format2]; decide) fun _ => pinFormat2_some set)]
          · rw [if_neg format2, if_neg format2]

def VerificationRefused (CheckUpdate : Bool) (cmd : Nat → UInt8) (lengths : Lengths) : Prop :=
  CheckUpdate = true ∨ lengths.Lc < 8 ∨ lengths.Le ≠ -1 ∨
    ((commandTag cmd lengths 0x80).isSome ∧ onlyByte (commandTag cmd lengths 0x80) = none)

/-- The command in tag 52 ends inside, and so do the limits and the text where the
keypad is asked. -/
structure VerificationObjects (cmd : Nat → UInt8) (lenc : Nat) (lengths : Lengths) : Prop where
  command : EndsInside lenc (6 ≤ ·) (commandObject cmd lengths 0x52)
  limits : ∀ control position apdu, commandTag cmd lengths 0x52 = some (control :: position :: apdu) →
    PinAccepted control position apdu → EndsInside lenc (· = 2) (commandObject cmd lengths 0x51)
  text : ∀ control position apdu, commandTag cmd lengths 0x52 = some (control :: position :: apdu) →
    PinAccepted control position apdu → EndsInside lenc Always (commandObject cmd lengths 0x50)

def VerificationInside (CheckUpdate : Bool) (call : CtCall) (lengths : Lengths) : Prop :=
  VerificationRefused CheckUpdate call.cmd lengths ∨ VerificationObjects call.cmd call.lenc lengths

theorem pinCommand_short {tags : UInt8 → Option (List UInt8)} {apdu : List UInt8} (short : apdu.length < 4)
    (stack : Stack) (timeout control position : UInt8) :
    pinCommand tags stack timeout control position apdu = .answered 0x67 0x00 := by
  rw [pinCommand, if_pos (.inl short)]

theorem performVerification_on (agrees : call.Agrees lengths other) {CheckUpdate : Bool}
    (ends : VerificationInside CheckUpdate call lengths) (stack : Stack) :
    performVerification CheckUpdate stack other lengths =
      performVerification CheckUpdate stack call.cmd lengths := by
  simp only [performVerification, agrees.isSome, agrees.onlyByte]
  cases ends with
  | inl refused =>
      rcases refused with refused | refused | refused | refused
      · rw [if_pos refused, if_pos refused]
      · simp only [if_pos (Or.inl refused : lengths.Lc < 8 ∨ lengths.Le ≠ -1)]
      · simp only [if_pos (Or.inr refused : lengths.Lc < 8 ∨ lengths.Le ≠ -1)]
      · simp only [if_pos refused]
  | inr objects =>
      apply ite_congr rfl (fun _ => rfl)
      intro _
      apply ite_congr rfl (fun _ => rfl)
      intro _
      apply ite_congr rfl (fun _ => rfl)
      intro _
      cases commandTag_cases agrees.same agrees.inside objects.command with
      | inl equal =>
          rw [equal]
          rcases found : commandTag call.cmd lengths 0x52 with _ | _ | ⟨control, _ | ⟨position, apdu⟩⟩
          · rfl
          · rfl
          · rfl
          · apply pinCommand_congr
            intro accepted
            exact callSecure_congr
              (commandTag_congr agrees.same agrees.inside (objects.text control position apdu found accepted))
              (pinLimits_congr agrees (objects.limits control position apdu found accepted)) agrees.onlyByte
      | inr different =>
          obtain ⟨value, value', found, found', length, counts⟩ := different
          rw [found, found']
          trans Verification.answered 0x67 0x00
          · rcases value' with _ | ⟨_, _ | ⟨_, apdu⟩⟩
            · rfl
            · rfl
            · exact pinCommand_short (by simp only [List.length_cons] at length; omega) _ _ _ _
          · rcases value with _ | ⟨_, _ | ⟨_, apdu⟩⟩
            · rfl
            · rfl
            · exact (pinCommand_short (by simp only [List.length_cons] at counts; omega) _ _ _ _).symm

/-! ## MODIFY VERIFICATION -/

theorem searchTexts_congr {memory memory' : Nat → UInt8} {limit : Nat} (same : SameBelow limit memory memory')
    {cmd_ptr : Nat} {cmd_len : Int} (inside : cmd_ptr + cmd_len ≤ limit) (passes : List Nat) :
    (searchTexts memory' cmd_ptr cmd_len passes).2 = (searchTexts memory cmd_ptr cmd_len passes).2 ∧
      SameBelow limit (searchTexts memory cmd_ptr cmd_len passes).1
        (searchTexts memory' cmd_ptr cmd_len passes).1 := by
  induction passes generalizing memory memory' cmd_ptr cmd_len with
  | nil => exact ⟨rfl, same⟩
  | cons i rest ih =>
      rw [searchTexts, searchTexts, tagAt_congr same inside]
      cases found : tagAt memory' 0x50 cmd_len.toNat cmd_ptr cmd_len with
      | none => exact ⟨rfl, same⟩
      | some text =>
          obtain ⟨tag50, taglen50⟩ := text
          by_cases short : cmd_len < 2 + taglen50
          · simp only [if_pos short]
            exact ⟨trivial, same⟩
          · have changed : SameBelow limit (transformAt memory tag50 taglen50)
                (transformAt memory' tag50 taglen50) := by
              intro index below
              rw [transformAt, transformAt, same index below]
            simp only [if_neg short]
            have left : ((cmd_ptr + 2 + taglen50 : Nat) : Int) + (cmd_len - (2 + taglen50)) ≤ limit := by
              push_cast
              omega
            by_cases counts : i = 0 ∨ i = 3 ∨ i = 4
            · have later := ih changed left
              simp only [counts, decide_true, if_true]
              exact ⟨congrArg _ later.1, later.2⟩
            · have later := ih same left
              simp only [counts, decide_false, Bool.false_eq_true, if_false]
              exact later

theorem messageIndices_of_length_ne {value : List UInt8} (length : value.length ≠ 3) :
    messageIndices (some value) = [0, 1, 0] := by
  rcases value with _ | ⟨_, _ | ⟨_, _ | ⟨_, _ | _⟩⟩⟩
  · rfl
  · rfl
  · rfl
  · exact absurd rfl length
  · rfl

/-- What is read of a command behind its last refusal. -/
structure ModifyTexts (cmd : Nat → UInt8) (lenc : Nat) (lengths : Lengths) : Prop where
  limits : EndsInside lenc (· = 2) (commandObject cmd lengths 0x51)
  texts : ∀ text ∈ (searchTexts cmd (lengths.data_ptr.getD 0) lengths.Lc [0, 1, 2, 3, 4]).2,
    text.1 + text.2 ≤ lenc
  indices : EndsInside lenc (· = 3)
    (commandObject (searchTexts cmd (lengths.data_ptr.getD 0) lengths.Lc [0, 1, 2, 3, 4]).1 lengths 0x53)

theorem callModify_congr (agrees : call.Agrees lengths other)
    (texts : ModifyTexts call.cmd call.lenc lengths) (stack : Stack) :
    callModify stack other lengths = callModify stack call.cmd lengths := by
  funext timeout format bConfirmPIN PinPositionOld PinPositionNew parameters
  have inside := agrees.inside
  obtain ⟨found, same⟩ := searchTexts_congr agrees.same inside.counted [0, 1, 2, 3, 4]
  have values : ((searchTexts call.cmd (lengths.data_ptr.getD 0) lengths.Lc [0, 1, 2, 3, 4]).2.map
      fun text => bytesAt (searchTexts other (lengths.data_ptr.getD 0) lengths.Lc [0, 1, 2, 3, 4]).1
        text.1 text.2) =
      (searchTexts call.cmd (lengths.data_ptr.getD 0) lengths.Lc [0, 1, 2, 3, 4]).2.map
        fun text => bytesAt (searchTexts call.cmd (lengths.data_ptr.getD 0) lengths.Lc [0, 1, 2, 3, 4]).1
          text.1 text.2 := by
    apply List.map_congr_left
    intro text member
    exact (bytesAt_congr same (texts.texts text member)).symm
  have indices : messageIndices (commandTag (searchTexts other (lengths.data_ptr.getD 0) lengths.Lc
        [0, 1, 2, 3, 4]).1 lengths 0x53) =
      messageIndices (commandTag (searchTexts call.cmd (lengths.data_ptr.getD 0) lengths.Lc
        [0, 1, 2, 3, 4]).1 lengths 0x53) := by
    cases commandTag_cases same inside texts.indices with
    | inl equal => rw [equal]
    | inr different =>
        obtain ⟨value, value', found, found', length, counts⟩ := different
        rw [found, found', messageIndices_of_length_ne counts,
          messageIndices_of_length_ne (by rwa [length])]
  simp only [callModify, pinLimits_congr agrees texts.limits, found, values, indices,
    onlyByte_congr same inside]

/-- The control byte, the positions and the command behind them are not answered at once. -/
structure ModifyAccepted (control first second PinPositionOld bConfirmPIN PinPositionNew : UInt8)
    (apdu : List UInt8) : Prop where
  length : 4 ≤ apdu.length
  old : oldPosition first second = some (PinPositionOld, bConfirmPIN)
  new : newPosition (control &&& 3) first second PinPositionOld = some PinPositionNew
  format : control &&& 3 ≠ 3
  pin : control &&& 3 = 2 →
    PinPositionNew ≤ 240 ∧ PinPositionOld ≤ 240 ∧ PinLengthAccepted (control >>> 4)

theorem modifyFormat2_some {PinLength bConfirmPIN PinPositionOld PinPositionNew : UInt8}
    {buffer : Nat → UInt8} {parameters : PinParameters}
    (set : modifyFormat2 PinLength bConfirmPIN PinPositionOld PinPositionNew buffer = some parameters) :
    PinPositionNew ≤ 240 ∧ PinPositionOld ≤ 240 ∧ PinLengthAccepted PinLength := by
  by_cases far : PinPositionNew > 240 ∨ PinPositionOld > 240
  · rw [modifyFormat2, if_pos far] at set
    contradiction
  · by_cases bad : PinLength ≠ 0 ∧ (PinLength < 4 ∨ PinLength > 12)
    · rw [modifyFormat2, if_neg far, if_pos bad] at set
      contradiction
    · rw [not_or, UInt8.not_lt, UInt8.not_lt] at far
      refine ⟨far.1, far.2, ?_⟩
      by_cases zero : PinLength = 0
      · exact .inl zero
      · have good : ¬ (PinLength < 4 ∨ PinLength > 12) := fun range => bad ⟨zero, range⟩
        rw [not_or, UInt8.not_lt, UInt8.not_lt] at good
        exact .inr good

theorem modifyCommand_congr {cmd : Nat → UInt8} {control first second : UInt8} {apdu : List UInt8}
    {stack : Stack}
    (called : ∀ PinPositionOld bConfirmPIN PinPositionNew,
      ModifyAccepted control first second PinPositionOld bConfirmPIN PinPositionNew apdu →
        callModify stack other lengths = callModify stack cmd lengths) (timeout : UInt8) :
    modifyCommand stack other lengths timeout control first second apdu =
      modifyCommand stack cmd lengths timeout control first second apdu := by
  by_cases short : apdu.length < 4
  · rw [modifyCommand, modifyCommand, if_pos short, if_pos short]
  · simp only [modifyCommand, if_neg short]
    cases old : oldPosition first second with
    | none => rfl
    | some positions =>
        obtain ⟨PinPositionOld, bConfirmPIN⟩ := positions
        simp only
        cases new : newPosition (control &&& 3) first second PinPositionOld with
        | none => rfl
        | some PinPositionNew =>
            have accepted (format : control &&& 3 ≠ 3) (pin : control &&& 3 = 2 →
                PinPositionNew ≤ 240 ∧ PinPositionOld ≤ 240 ∧ PinLengthAccepted (control >>> 4)) :=
              called PinPositionOld bConfirmPIN PinPositionNew ⟨by omega, old, new, format, pin⟩
            simp only
            by_cases bcd : control &&& 3 = 0
            · rw [if_pos bcd, if_pos bcd, accepted (by rw [bcd]; decide) fun two => by
                rw [bcd] at two; contradiction]
            · rw [if_neg bcd, if_neg bcd]
              by_cases ascii : control &&& 3 = 1
              · rw [if_pos ascii, if_pos ascii, accepted (by rw [ascii]; decide) fun two => by
                  rw [ascii] at two; contradiction]
              · rw [if_neg ascii, if_neg ascii]
                by_cases format2 : control &&& 3 = 2
                · rw [if_pos format2, if_pos format2]
                  cases set : modifyFormat2 (control >>> 4) bConfirmPIN PinPositionOld PinPositionNew
                      (stored stack.buffer 0 (if apdu.length = 4 then apdu ++ [0] else apdu)) with
                  | none => rfl
                  | some parameters =>
                      simp only
                      rw [accepted (by rw [format2]; decide) fun _ => modifyFormat2_some set]
                · rw [if_neg format2, if_neg format2]

def ModifyRefused (CheckUpdate : Bool) (cmd : Nat → UInt8) (lengths : Lengths) : Prop :=
  cmd 2 ≠ 1 ∨ cmd 3 ≠ 0 ∨ CheckUpdate = true ∨ lengths.Lc < 9 ∨ lengths.Le ≠ -1 ∨
    ((commandTag cmd lengths 0x80).isSome ∧ onlyByte (commandTag cmd lengths 0x80) = none)

/-- The command in tag 52 ends inside, and so does what is read where the keypad is asked. -/
structure ModifyObjects (cmd : Nat → UInt8) (lenc : Nat) (lengths : Lengths) : Prop where
  command : EndsInside lenc (7 ≤ ·) (commandObject cmd lengths 0x52)
  texts : ∀ control first second apdu PinPositionOld bConfirmPIN PinPositionNew,
    commandTag cmd lengths 0x52 = some (control :: first :: second :: apdu) →
      ModifyAccepted control first second PinPositionOld bConfirmPIN PinPositionNew apdu →
        ModifyTexts cmd lenc lengths

def ModifyInside (CheckUpdate : Bool) (call : CtCall) (lengths : Lengths) : Prop :=
  ModifyRefused CheckUpdate call.cmd lengths ∨ ModifyObjects call.cmd call.lenc lengths

theorem modifyCommand_short {cmd : Nat → UInt8} {apdu : List UInt8} (short : apdu.length < 4)
    (stack : Stack) (timeout control first second : UInt8) :
    modifyCommand stack cmd lengths timeout control first second apdu = .answered 0x67 0x00 := by
  rw [modifyCommand, if_pos short]

theorem modifyVerification_on (agrees : call.Agrees lengths other) {CheckUpdate : Bool}
    (ends : ModifyInside CheckUpdate call lengths) (stack : Stack) :
    modifyVerification CheckUpdate stack other lengths =
      modifyVerification CheckUpdate stack call.cmd lengths := by
  obtain ⟨_, _, P1, P2⟩ := agrees.header
  simp only [modifyVerification, P1, P2, agrees.isSome, agrees.onlyByte]
  cases ends with
  | inl refused =>
      rcases refused with refused | refused | refused | refused | refused | refused
      · simp only [if_pos (Or.inl refused : call.cmd 2 ≠ 1 ∨ call.cmd 3 ≠ 0)]
      · simp only [if_pos (Or.inr refused : call.cmd 2 ≠ 1 ∨ call.cmd 3 ≠ 0)]
      · simp only [if_pos refused]
      · simp only [if_pos (Or.inl refused : lengths.Lc < 9 ∨ lengths.Le ≠ -1)]
      · simp only [if_pos (Or.inr refused : lengths.Lc < 9 ∨ lengths.Le ≠ -1)]
      · simp only [if_pos refused]
  | inr objects =>
      apply ite_congr rfl (fun _ => rfl)
      intro _
      apply ite_congr rfl (fun _ => rfl)
      intro _
      apply ite_congr rfl (fun _ => rfl)
      intro _
      apply ite_congr rfl (fun _ => rfl)
      intro _
      cases commandTag_cases agrees.same agrees.inside objects.command with
      | inl equal =>
          rw [equal]
          rcases found : commandTag call.cmd lengths 0x52 with
            _ | _ | ⟨control, _ | ⟨first, _ | ⟨second, apdu⟩⟩⟩
          · rfl
          · rfl
          · rfl
          · rfl
          · apply modifyCommand_congr
            intro PinPositionOld bConfirmPIN PinPositionNew accepted
            exact callModify_congr agrees (objects.texts _ _ _ _ _ _ _ found accepted) stack
      | inr different =>
          obtain ⟨value, value', found, found', length, counts⟩ := different
          rw [found, found']
          trans Modification.answered 0x67 0x00
          · rcases value' with _ | ⟨_, _ | ⟨_, _ | ⟨_, apdu⟩⟩⟩
            · rfl
            · rfl
            · rfl
            · exact modifyCommand_short (by simp only [List.length_cons] at length; omega) _ _ _ _ _
          · rcases value with _ | ⟨_, _ | ⟨_, _ | ⟨_, apdu⟩⟩⟩
            · rfl
            · rfl
            · rfl
            · exact (modifyCommand_short (by simp only [List.length_cons] at counts; omega) _ _ _ _ _).symm

/-! ## The two commands -/

theorem performVerify_on (agrees : call.Agrees lengths other) (reader : CtReader) (stack : Stack)
    (ends : VerificationInside reader.CheckUpdate call lengths) :
    performVerify reader stack (call.on other) lengths = performVerify reader stack call lengths := by
  have answer : secureAnswer false (call.on other) = secureAnswer false call := rfl
  simp only [performVerify, CtCall.on_cmd, performVerification_on agrees ends, CtCall.on_status, answer]

theorem performModify_on (agrees : call.Agrees lengths other) (reader : CtReader) (stack : Stack)
    (ends : ModifyInside reader.CheckUpdate call lengths) :
    performModify reader stack (call.on other) lengths = performModify reader stack call lengths := by
  have answer : secureAnswer true (call.on other) = secureAnswer true call := rfl
  simp only [performModify, CtCall.on_cmd, modifyVerification_on agrees ends, CtCall.on_status, answer]

end Cyberjack.Eca
