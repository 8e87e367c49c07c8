import Cyberjack.Eca.PinBuffer

namespace Cyberjack.Eca

open Cyberjack.Foundation

/-! # What MODIFY VERIFICATION passes on -/

/-- The message that `cjccid_SecureMV` sends for MODIFY VERIFICATION. -/
def ModifyArguments.message (arguments : ModifyArguments) : SecureMessage where
  dwLength := arguments.out_len + 20
  bPINOperation := 1
  bTimeOut := arguments.Timeout
  bmFormatString := (0x80 : UInt8) ||| (arguments.PinPosition <<< (3 : UInt8)) ||| arguments.PinType
  bmPINBlockString := (arguments.PinLengthSize <<< (4 : UInt8)) ||| arguments.PinLength
  bmPINLengthFormat := arguments.PinLengthPosition
  bInsertionOffsetOld := arguments.OffsetOld
  bInsertionOffsetNew := arguments.OffsetNew
  bConfirmPIN := arguments.bConfirmPIN
  wPINMaxExtraDigit := (arguments.Min.toUInt16 <<< (8 : UInt16)) + arguments.Max.toUInt16
  bEntryValidationCondition := arguments.Condition
  bNumberMessage := arguments.bNumberMessage
  wLangId := 0x0409
  bMsgIndex := arguments.bMessageIndex
  bTeoPrologue := arguments.Prologue
  abData := arguments.out

def Modification.passed : Modification → Option Passed
  | .answered _ _ => none
  | .secureMV arguments => some ⟨arguments.out, arguments.out_len, arguments.message⟩

/-- The insertion position of the old PIN that a message stands for. -/
def SecureMessage.positionOld (message : SecureMessage) : UInt8 :=
  ((message.bmFormatString &&& 0x78) >>> 3) + message.bInsertionOffsetOld

/-- The lengths that the PIN blocks give `buffer[4]`, the old PIN first. -/
def modificationLengths (control Old New : UInt8) (apdu : List UInt8) : List Nat :=
  if control &&& 3 = 2 then
    raisedLc (templateLc apdu) (Old.toNat + 8) ++
      raisedLc (keptLc (templateLc apdu) (Old.toNat + 8)) (New.toNat + 8)
  else []

def modificationWrites (control bConfirmPIN Old New : UInt8) (apdu : List UInt8) : List BufferWrite :=
  templateWrites apdu ++
    if control &&& 3 = 2 then
      (modificationLengths control Old New apdu).map (fun length => (4, [UInt8.ofNat length])) ++
        ((if bConfirmPIN &&& 2 ≠ 0 then pinBlock (5 + Old.toNat) else []) ++ pinBlock (5 + New.toNat))
    else [(4, [0])]

/-- The places of the two PINs in a tag 52. -/
structure Places (control first second Old bConfirmPIN New : UInt8) : Prop where
  old : oldPosition first second = some (Old, bConfirmPIN)
  new : newPosition (control &&& 3) first second Old = some New

/-- MODIFY VERIFICATION with a tag 52 of `control`, `first`, `second` and `apdu`, of which `known` bytes
belong to the command. -/
def ModificationSafe (known : Nat) (memory : Nat → UInt8) (control first second : UInt8) (apdu : List UInt8)
    (passed : Passed) : Prop :=
  ∃ Old bConfirmPIN New, Places control first second Old bConfirmPIN New ∧
    BufferPassed 260 known memory (modificationWrites control bConfirmPIN Old New apdu)
      (modificationLengths control Old New apdu) passed.out passed.out_len ∧
    (first > 5 → first ≠ second → passed.message.positionOld.toNat = first.toNat - 6 + controlByte control) ∧
    (second > 5 → passed.message.position.toNat = second.toNat - 6 + controlByte control)

/-- The template belongs to the command.  With format 2 every byte up to Lc stands in the command's
template or in one of the PIN blocks, or is the Lc that was raised. -/
def ModificationFits (known : Nat) (control first second : UInt8) (apdu : List UInt8) : Prop :=
  if control &&& 3 = 2 then
    ∀ Old bConfirmPIN New, Places control first second Old bConfirmPIN New →
      ∀ index < max (templateLc apdu) (max (Old.toNat + 8) (New.toNat + 8)) + 5,
        index < min apdu.length known ∨
          (index = 4 ∧ templateLc apdu < max (Old.toNat + 8) (New.toNat + 8)) ∨
          (bConfirmPIN &&& 2 ≠ 0 ∧ 5 + Old.toNat ≤ index ∧ index < 13 + Old.toNat) ∨
          (5 + New.toNat ≤ index ∧ index < 13 + New.toNat)
  else TemplateKnown known apdu

variable {stack : Stack} {known : Nat} {cmd : Nat → UInt8} {lengths : Lengths} {timeout control first second : UInt8}
  {Old bConfirmPIN New : UInt8} {apdu : List UInt8} {parameters : PinParameters} {passed : Passed}

theorem Places.unique {Old' bConfirmPIN' New' : UInt8} (places : Places control first second Old bConfirmPIN New)
    (again : Places control first second Old' bConfirmPIN' New') :
    Old = Old' ∧ bConfirmPIN = bConfirmPIN' ∧ New = New' := by
  have old := places.old.symm.trans again.old
  rw [Option.some.injEq, Prod.mk.injEq] at old
  have new := places.new
  rw [old.1, again.new, Option.some.injEq] at new
  exact ⟨old.1, old.2, new.symm⟩

/-- The bits of the positions, next to the insertion offsets. -/
theorem positions_message {arguments : ModifyArguments} (typed : arguments.PinType = 1 ∨ arguments.PinType = 2) :
    arguments.message.position = (arguments.PinPosition &&& 0x0f) + arguments.OffsetNew ∧
      arguments.message.positionOld = (arguments.PinPosition &&& 0x0f) + arguments.OffsetOld := by
  rcases typed with one | two
  · simp only [SecureMessage.position, SecureMessage.positionOld, ModifyArguments.message, one,
      (shifted_position _).1, and_self]
  · simp only [SecureMessage.position, SecureMessage.positionOld, ModifyArguments.message, two,
      (shifted_position _).2, and_self]

theorem old_of_places (places : Places control first second Old bConfirmPIN New) (above : first > 5)
    (differs : first ≠ second) : Old.toNat = first.toNat - 6 := by
  have old := places.old
  rw [oldPosition, if_pos ⟨above, differs⟩, Option.some.injEq, Prod.mk.injEq] at old
  rw [← old.1]
  exact toNat_position (UInt8.lt_iff_toNat_lt.mp above)

theorem new_of_places (places : Places control first second Old bConfirmPIN New) (above : second > 5) :
    New.toNat = second.toNat - 6 := by
  have new := places.new
  rw [newPosition, if_pos above, Option.some.injEq] at new
  rw [← new]
  exact toNat_position (UInt8.lt_iff_toNat_lt.mp above)

theorem passed_callModify (typed : parameters.PinType = 1 ∨ parameters.PinType = 2) (format : UInt8)
    (called : (Modification.secureMV (callModify stack cmd lengths timeout format bConfirmPIN Old New
      parameters)).passed = some passed) :
    passed.out = parameters.buffer ∧ passed.out_len = parameters.outlen ∧
      passed.message.position = (parameters.PinPosition &&& 0x0f) + New ∧
      passed.message.positionOld = (parameters.PinPosition &&& 0x0f) + Old := by
  rw [Modification.passed, Option.some.injEq] at called
  rw [← called]
  exact ⟨rfl, rfl, positions_message typed⟩

/-- The formats that put the PINs into the templates of the card. -/
theorem modification_template (long : 4 ≤ apdu.length) (short : apdu.length ≤ 255)
    (other : control &&& 3 ≠ 2) (places : Places control first second Old bConfirmPIN New)
    (out : passed.out = stored (stored stack.buffer 0 (if apdu.length = 4 then apdu ++ [0] else apdu)) 4 [0])
    (length : passed.out_len = if (if apdu.length = 4 then 8 else apdu.length + 3) = 8 then 5
      else (if apdu.length = 4 then 8 else apdu.length + 3) - 3)
    (new : passed.message.position = New) (old : passed.message.positionOld = Old) :
    ModificationSafe known stack.buffer control first second apdu passed ↔
      ModificationFits known control first second apdu := by
  have outlen : passed.out_len = if apdu.length ≤ 5 then 5 else apdu.length := by
    rw [length]
    split <;> split <;> split <;> omega
  have writes : modificationWrites control bConfirmPIN Old New apdu = templateWrites apdu ++ [(4, [0])] := by
    rw [modificationWrites, if_neg other]
  have filled : TemplateKnown known apdu ↔ ∀ index < passed.out_len,
      InitialisedAt (knownWrites known (modificationWrites control bConfirmPIN Old New apdu)) index := by
    rw [writes, outlen, templateKnown_iff long (.inr rfl)]
    exact (and_iff_left nofun).symm
  rw [ModificationFits, if_neg other, filled]
  constructor
  · rintro ⟨Old', bConfirmPIN', New', again, passes, _⟩
    obtain ⟨rfl, rfl, rfl⟩ := places.unique again
    exact passes.initialised
  intro filled
  refine ⟨Old, bConfirmPIN, New, places, ⟨?_, ?_, ?_, filled, ?_⟩, ?_, ?_⟩
  · rw [out, writes, applied_append, applied_template]
    rfl
  · intro write member
    rw [writes] at member
    rcases List.mem_append.mp member with template | lc
    · exact inside_template long short template
    · rw [List.mem_singleton.mp lc]
      decide
  · rw [outlen]
    split <;> omega
  · intro length member
    rw [modificationLengths, if_neg other] at member
    contradiction
  · intro above differs
    rw [old, controlByte_of_ne other]
    exact old_of_places places above differs
  · intro above
    rw [new, controlByte_of_ne other]
    exact new_of_places places above

theorem modifyFormat2_fields {PinLength : UInt8} {buffer : Nat → UInt8}
    (set : modifyFormat2 PinLength bConfirmPIN Old New buffer = some parameters) :
    parameters.PinType = 1 ∧ parameters.PinPosition = 1 ∧
      parameters.buffer = stored
        (if bConfirmPIN &&& 2 ≠ 0 then
          stored (stored buffer 4 [UInt8.ofNat (keptLc (keptLc (buffer 4).toNat (Old.toNat + 8)) (New.toNat + 8))])
            (5 + Old.toNat) (0x2f :: List.replicate 7 0xff)
        else stored buffer 4 [UInt8.ofNat (keptLc (keptLc (buffer 4).toNat (Old.toNat + 8)) (New.toNat + 8))])
        (5 + New.toNat) (0x2f :: List.replicate 7 0xff) ∧
      parameters.outlen = keptLc (keptLc (buffer 4).toNat (Old.toNat + 8)) (New.toNat + 8) + 5 := by
  have first := ofNat_keptLc (buffer 4) Old 8
  have small : keptLc (buffer 4).toNat (Old.toNat + 8) < 256 := keptLc_lt (UInt8.toNat_lt _)
  have number := congrArg UInt8.toNat first
  rw [UInt8.toNat_ofNat', Nat.mod_eq_of_lt small] at number
  have second := (ofNat_keptLc
    (if (buffer 4).toNat < Old.toNat + 8 then Old + UInt8.ofNat 8 else buffer 4) New 8).trans
      (congrArg (fun lc => UInt8.ofNat (keptLc lc (New.toNat + 8))) number)
  simp only [modifyFormat2] at set
  split at set
  · contradiction
  · split at set
    · contradiction
    · rw [Option.some.injEq] at set
      rw [← set]
      refine ⟨rfl, rfl, ?_, ?_⟩
      · rw [← second]
        rfl
      · have same := congrArg UInt8.toNat second
        rw [UInt8.toNat_ofNat', Nat.mod_eq_of_lt (keptLc_lt small)] at same
        exact congrArg (· + 5) same

theorem stored_again (memory : Nat → UInt8) (offset : Nat) (first second : UInt8) :
    stored (stored memory offset [first]) offset [second] = stored memory offset [second] := by
  funext index
  simp only [stored]
  split
  · rcases Nat.eq_or_lt_of_le ‹offset ≤ index› with same | behind
    · rw [same]
      simp
    · rw [List.getD_eq_default _ _ (by rw [List.length_singleton]; omega),
        List.getD_eq_default _ _ (by rw [List.length_singleton]; omega),
        List.getD_eq_default _ _ (by rw [List.length_singleton]; omega)]
  · rfl

theorem modification_format2 (long : 4 ≤ apdu.length) (short : apdu.length ≤ 255)
    (format : control &&& 3 = 2) (places : Places control first second Old bConfirmPIN New)
    {PinLength : UInt8}
    (switched : modifyFormat2 PinLength bConfirmPIN Old New
      (stored stack.buffer 0 (if apdu.length = 4 then apdu ++ [0] else apdu)) = some parameters)
    (called : (Modification.secureMV (callModify stack cmd lengths timeout (control &&& 3) bConfirmPIN Old New
      parameters)).passed = some passed) :
    ModificationSafe known stack.buffer control first second apdu passed ↔
      ModificationFits known control first second apdu := by
  have near := modifyFormat2_some switched
  have new := UInt8.le_iff_toNat_le.mp near.1
  have old := UInt8.le_iff_toNat_le.mp near.2.1
  change New.toNat ≤ 240 at new
  change Old.toNat ≤ 240 at old
  obtain ⟨typed, placed, buffer, outlen⟩ := modifyFormat2_fields switched
  obtain ⟨out, length, positionNew, positionOld⟩ := passed_callModify (.inl typed) _ called
  rw [lc_template _ long] at buffer outlen
  have lc := templateLc_lt apdu
  have kept : keptLc (keptLc (templateLc apdu) (Old.toNat + 8)) (New.toNat + 8) =
      max (templateLc apdu) (max (Old.toNat + 8) (New.toNat + 8)) := by
    rw [keptLc_eq_max (by omega), keptLc_eq_max (by omega), Nat.max_assoc]
  have lengthsAre : modificationLengths control Old New apdu = raisedLc (templateLc apdu) (Old.toNat + 8) ++
      raisedLc (keptLc (templateLc apdu) (Old.toNat + 8)) (New.toNat + 8) := if_pos format
  have writes : modificationWrites control bConfirmPIN Old New apdu = templateWrites apdu ++
      ((raisedLc (templateLc apdu) (Old.toNat + 8)).map (fun length => (4, [UInt8.ofNat length])) ++
        ((raisedLc (keptLc (templateLc apdu) (Old.toNat + 8)) (New.toNat + 8)).map
            (fun length => (4, [UInt8.ofNat length])) ++
          ((if bConfirmPIN &&& 2 ≠ 0 then pinBlock (5 + Old.toNat) else []) ++ pinBlock (5 + New.toNat)))) := by
    rw [modificationWrites, if_pos format, lengthsAre, List.map_append, List.append_assoc]
  have initialised (index : Nat) :
      InitialisedAt (knownWrites known (modificationWrites control bConfirmPIN Old New apdu)) index ↔
        index < min apdu.length known ∨
          (index = 4 ∧ templateLc apdu < max (Old.toNat + 8) (New.toNat + 8)) ∨
          (bConfirmPIN &&& 2 ≠ 0 ∧ 5 + Old.toNat ≤ index ∧ index < 13 + Old.toNat) ∨
          (5 + New.toNat ≤ index ∧ index < 13 + New.toNat) := by
    rw [writes, initialisedAt_known, initialisedAt_append, initialisedAt_append, initialisedAt_append,
      initialisedAt_raised, initialisedAt_raised, initialisedAt_pinBlock, keptLc_eq_max (by omega)]
    have empty := @templateLc_four apdu
    by_cases confirmed : bConfirmPIN &&& 2 ≠ 0
    · rw [if_pos confirmed, initialisedAt_pinBlock]
      simp only [ne_eq, confirmed, not_false_eq_true, true_and]
      omega
    · rw [if_neg confirmed]
      simp only [initialisedAt_nil, confirmed, false_and, false_or]
      omega
  have made : passed.out = applied stack.buffer (modificationWrites control bConfirmPIN Old New apdu) := by
    have first := lc_template stack.buffer long
    rw [out, buffer, writes, applied_append, applied_append, applied_append, applied_append, applied_template,
      applied_pinBlock, applied_raised _ first, applied_raised _ (stored_lc _ (keptLc_lt lc)), stored_again]
    split
    · rw [applied_pinBlock]
    · rfl
  have positions : (first > 5 → first ≠ second →
      passed.message.positionOld.toNat = first.toNat - 6 + controlByte control) ∧
        (second > 5 → passed.message.position.toNat = second.toNat - 6 + controlByte control) := by
    have one : (1 : UInt8) &&& 0x0f = 1 := by decide
    rw [placed, one] at positionNew positionOld
    rw [controlByte, if_pos format]
    constructor
    · intro above differs
      rw [positionOld, UInt8.toNat_add, ← old_of_places places above differs]
      change (1 + Old.toNat) % 256 = _
      omega
    · intro above
      rw [positionNew, UInt8.toNat_add, ← new_of_places places above]
      change (1 + New.toNat) % 256 = _
      omega
  rw [ModificationFits, if_pos format]
  constructor
  · rintro ⟨Old', bConfirmPIN', New', places', passes, _⟩ Old'' bConfirmPIN'' New'' places'' index below
    obtain ⟨rfl, rfl, rfl⟩ := places.unique places'
    obtain ⟨rfl, rfl, rfl⟩ := places.unique places''
    rw [← initialised]
    apply passes.initialised
    rw [length, outlen, kept]
    exact below
  · intro fits
    refine ⟨Old, bConfirmPIN, New, places, ⟨made, ?_, ?_, ?_, ?_⟩, positions⟩
    · intro write member
      rw [writes] at member
      rcases List.mem_append.mp member with template | later
      · exact inside_template long short template
      · rcases List.mem_append.mp later with raised | later
        · exact inside_raised raised
        · rcases List.mem_append.mp later with raised | later
          · exact inside_raised raised
          · rcases List.mem_append.mp later with block | block
            · split at block
              · exact inside_pinBlock.mpr (by omega) write block
              · contradiction
            · exact inside_pinBlock.mpr (by omega) write block
    · rw [length, outlen, kept]
      omega
    · intro index below
      rw [length, outlen, kept] at below
      rw [initialised]
      exact fits Old bConfirmPIN New places index below
    · intro length member
      rw [lengthsAre] at member
      rcases List.mem_append.mp member with first | second
      · rw [raisedLc] at first
        split at first
        · rw [List.mem_singleton.mp first]
          omega
        · contradiction
      · rw [raisedLc] at second
        split at second
        · rw [List.mem_singleton.mp second]
          omega
        · contradiction

/-- What is passed on for a tag 52 is safe exactly when every byte of it is filled. -/
theorem modifyCommand_safe_iff (short : apdu.length ≤ 255)
    (called : (modifyCommand stack cmd lengths timeout control first second apdu).passed = some passed) :
    ModificationSafe known stack.buffer control first second apdu passed ↔
      ModificationFits known control first second apdu := by
  rw [modifyCommand] at called
  by_cases refused : apdu.length < 4
  · rw [if_pos refused] at called
    contradiction
  · rw [if_neg refused] at called
    have long := Nat.not_lt.mp refused
    cases old : oldPosition first second with
    | none =>
        rw [old] at called
        contradiction
    | some place =>
        obtain ⟨Old, bConfirmPIN⟩ := place
        simp only [old] at called
        cases new : newPosition (control &&& 3) first second Old with
        | none =>
            rw [new] at called
            contradiction
        | some New =>
            simp only [new] at called
            have places : Places control first second Old bConfirmPIN New := ⟨old, new⟩
            have none : (0 : UInt8) &&& 0x0f = 0 := by decide
            have zero (place : UInt8) : ((0 : UInt8) &&& 0x0f) + place = place := by
              rw [none, UInt8.zero_add]
            by_cases bcd : control &&& 3 = 0
            · simp only [if_pos bcd] at called
              have other : control &&& 3 ≠ 2 := by
                rw [bcd]
                decide
              obtain ⟨out, length, positionNew, positionOld⟩ := passed_callModify (.inl rfl) _ called
              exact modification_template long short other places out length
                (positionNew.trans (zero New)) (positionOld.trans (zero Old))
            · simp only [if_neg bcd] at called
              by_cases ascii : control &&& 3 = 1
              · simp only [if_pos ascii] at called
                have other : control &&& 3 ≠ 2 := by
                  rw [ascii]
                  decide
                obtain ⟨out, length, positionNew, positionOld⟩ := passed_callModify (.inr rfl) _ called
                exact modification_template long short other places out length
                  (positionNew.trans (zero New)) (positionOld.trans (zero Old))
              · simp only [if_neg ascii] at called
                by_cases format : control &&& 3 = 2
                · simp only [if_pos format] at called
                  split at called
                  · contradiction
                  · rename_i parameters switched
                    exact modification_format2 long short format places switched called
                · simp only [if_neg format] at called
                  contradiction

/-! ## Both commands -/

inductive PinInstruction where
  | verify
  | modify
deriving Repr, DecidableEq

/-- What a PIN command passes on, if it is accepted. -/
def pinPassed (CheckUpdate : Bool) (stack : Stack) (cmd : Nat → UInt8) (lengths : Lengths) :
    PinInstruction → Option Passed
  | .verify => (performVerification CheckUpdate stack cmd lengths).passed
  | .modify => (modifyVerification CheckUpdate stack cmd lengths).passed

/-- The value of tag 52, of which the first `inside` bytes belong to the command, as the instruction
takes it apart. -/
def PinSafe (memory : Nat → UInt8) (tag52 : List UInt8) (inside : Nat) (passed : Passed) : PinInstruction → Prop
  | .verify => VerificationSafe (inside - 2) memory (tag52.getD 0 0) (tag52.getD 1 0) (tag52.drop 2) passed
  | .modify =>
      ModificationSafe (inside - 3) memory (tag52.getD 0 0) (tag52.getD 1 0) (tag52.getD 2 0) (tag52.drop 3) passed

def PinFits (tag52 : List UInt8) (inside : Nat) : PinInstruction → Prop
  | .verify => VerificationFits (inside - 2) (tag52.getD 0 0) (tag52.getD 1 0) (tag52.drop 2)
  | .modify => ModificationFits (inside - 3) (tag52.getD 0 0) (tag52.getD 1 0) (tag52.getD 2 0) (tag52.drop 3)

/-- How many bytes behind the place where the value of an object begins belong to a command of `lenc`
bytes; the search compares no length with that of the command. -/
def insideCommand (cmd : Nat → UInt8) (lenc : Nat) (lengths : Lengths) (tagvalue : UInt8) : Nat :=
  (commandObject cmd lengths tagvalue).elim 0 fun found => lenc - found.1

/-- What a command of `lenc` bytes passes on for its tag 52 is safe. -/
def SafelyPassed (stack : Stack) (cmd : Nat → UInt8) (lenc : Nat) (lengths : Lengths) (passed : Passed)
    (instruction : PinInstruction) : Prop :=
  PinSafe stack.buffer ((commandTag cmd lengths 0x52).getD []) (insideCommand cmd lenc lengths 0x52) passed instruction

/-- The tag 52 of a command of `lenc` bytes fits. -/
def CommandFits (cmd : Nat → UInt8) (lenc : Nat) (lengths : Lengths) (instruction : PinInstruction) : Prop :=
  PinFits ((commandTag cmd lengths 0x52).getD []) (insideCommand cmd lenc lengths 0x52) instruction

theorem length_getTag {memory : Nat → UInt8} {tagvalue : UInt8} {passes start : Nat} {len : Int}
    {value : List UInt8} (found : GetTag memory tagvalue passes start len = some value) : value.length ≤ 255 := by
  induction passes generalizing start len with
  | zero => contradiction
  | succ passes ih =>
      rw [GetTag] at found
      by_cases more : len > 2
      · rw [if_pos more] at found
        by_cases here : memory start = tagvalue
        · simp only [if_pos here, Option.some.injEq] at found
          rw [← found, length_bytesAt]
          have byte := (memory (start + 1)).toNat_lt
          omega
        · simp only [if_neg here] at found
          exact ih found
      · rw [if_neg more] at found
        contradiction

theorem length_commandTag {tagvalue : UInt8} {value : List UInt8}
    (found : commandTag cmd lengths tagvalue = some value) : value.length ≤ 255 := by
  rw [commandTag] at found
  cases begins : lengths.data_ptr with
  | none =>
      rw [begins] at found
      contradiction
  | some offset =>
      rw [begins] at found
      exact length_getTag found

theorem performVerification_passed {CheckUpdate : Bool}
    (accepted : (performVerification CheckUpdate stack cmd lengths).passed = some passed) :
    ∃ timeout control position apdu, commandTag cmd lengths 0x52 = some (control :: position :: apdu) ∧
      (pinCommand (commandTag cmd lengths) stack timeout control position apdu).passed = some passed := by
  simp only [performVerification] at accepted
  split at accepted
  · contradiction
  · split at accepted
    · contradiction
    · split at accepted
      · contradiction
      · split at accepted
        · rename_i control position apdu found
          exact ⟨_, control, position, apdu, found, accepted⟩
        · contradiction

theorem modifyVerification_passed {CheckUpdate : Bool}
    (accepted : (modifyVerification CheckUpdate stack cmd lengths).passed = some passed) :
    ∃ timeout control first second apdu,
      commandTag cmd lengths 0x52 = some (control :: first :: second :: apdu) ∧
      (modifyCommand stack cmd lengths timeout control first second apdu).passed = some passed := by
  simp only [modifyVerification] at accepted
  split at accepted
  · contradiction
  · split at accepted
    · contradiction
    · split at accepted
      · contradiction
      · split at accepted
        · contradiction
        · split at accepted
          · rename_i control first second apdu found
            exact ⟨_, control, first, second, apdu, found, accepted⟩
          · contradiction

/-- An accepted PIN command of `lenc` bytes writes and passes on what it may, and the position it was
asked for, exactly when its tag 52 fits. -/
theorem pin_safe_iff (instruction : PinInstruction) (CheckUpdate : Bool) (stack : Stack) (cmd : Nat → UInt8)
    (lenc : Nat) (lengths : Lengths) {passed : Passed}
    (accepted : pinPassed CheckUpdate stack cmd lengths instruction = some passed) :
    SafelyPassed stack cmd lenc lengths passed instruction ↔ CommandFits cmd lenc lengths instruction := by
  rw [SafelyPassed, CommandFits]
  cases instruction with
  | verify =>
      obtain ⟨timeout, control, position, apdu, found, called⟩ := performVerification_passed accepted
      have length := length_commandTag found
      rw [List.length_cons, List.length_cons] at length
      have short : apdu.length ≤ 255 := by omega
      rw [found]
      exact pinCommand_safe_iff short called
  | modify =>
      obtain ⟨timeout, control, first, second, apdu, found, called⟩ := modifyVerification_passed accepted
      have length := length_commandTag found
      rw [List.length_cons, List.length_cons, List.length_cons] at length
      have short : apdu.length ≤ 255 := by omega
      rw [found]
      exact modifyCommand_safe_iff short called

/-- A command with a tag 52 and nothing else; `tlen` is the length byte of the tag. -/
def tag52Command (ins tlen : UInt8) (value : List UInt8) : List UInt8 :=
  [0x20, ins, 0x01, 0x00, UInt8.ofNat (value.length + 2), 0x52, tlen] ++ value

/-- The lengths of a command that ends with its data. -/
def dataLengths (command : List UInt8) : Lengths := ⟨(command.length : Int) - 5, some 5, -1⟩

/-- A PIN of four ASCII digits at the first byte of the data. -/
def plainVerify : List UInt8 := tag52Command 0x18 6 [0x41, 0x06, 0x00, 0x20, 0x00, 0x81]

theorem plainVerify_safe :
    ∃ passed, pinPassed false emptyStack (inMemory plainVerify) (dataLengths plainVerify) .verify = some passed ∧
      SafelyPassed emptyStack (inMemory plainVerify) plainVerify.length (dataLengths plainVerify) passed .verify := by
  refine ⟨_, rfl, (pin_safe_iff .verify false emptyStack (inMemory plainVerify) plainVerify.length
    (dataLengths plainVerify) rfl).mpr ?_⟩
  change VerificationFits 4 0x41 0x06 [0x00, 0x20, 0x00, 0x81]
  rw [VerificationFits, if_neg (by decide), TemplateKnown]
  decide

/-- The command is accepted, and what it passes on is not safe. -/
def UnsafelyPassed (command : List UInt8) (instruction : PinInstruction) : Prop :=
  ∃ passed, pinPassed false emptyStack (inMemory command) (dataLengths command) instruction = some passed ∧
    ¬ SafelyPassed emptyStack (inMemory command) command.length (dataLengths command) passed instruction

/-- The position 32, which does not fit in four bits. -/
def farVerify : List UInt8 := tag52Command 0x18 6 [0x41, 0x26, 0x00, 0x20, 0x00, 0x81]

/-- An FPIN2 block that ends behind the buffer. -/
def longVerify : List UInt8 := tag52Command 0x18 6 [0x02, 0xFF, 0x00, 0x20, 0x00, 0x81]

/-- Two FPIN2 blocks with a gap between them and the header. -/
def gapModify : List UInt8 := tag52Command 0x19 7 [0x02, 0x10, 0x20, 0x00, 0x24, 0x00, 0x81]

/-- A tag 52 of sixteen bytes, of which the command holds six. -/
def shortVerify : List UInt8 := tag52Command 0x18 16 [0x41, 0x06, 0x00, 0x20, 0x00, 0x81]

theorem pinCommands_not_safe :
    UnsafelyPassed farVerify .verify ∧ UnsafelyPassed longVerify .verify ∧ UnsafelyPassed gapModify .modify ∧
      UnsafelyPassed shortVerify .verify := by
  refine ⟨⟨_, rfl, ?_⟩, ⟨_, rfl, ?_⟩, ⟨_, rfl, ?_⟩, ⟨_, rfl, ?_⟩⟩
  · intro safe
    have position := VerificationSafe.position safe
    exact absurd position (by decide)
  · intro safe
    have inside := (VerificationSafe.buffer safe).inside
    exact absurd inside (by decide)
  · rintro ⟨Old, bConfirmPIN, New, places, passes, _⟩
    obtain ⟨rfl, rfl, rfl⟩ := places.unique (⟨rfl, rfl⟩ : Places 0x02 0x10 0x20 0x0A 2 0x1A)
    have fifth := passes.initialised 5 (by decide)
    exact absurd fifth (by decide)
  · intro safe
    have fifth := (VerificationSafe.buffer safe).initialised 5 (by decide)
    exact absurd fifth (by decide)

end Cyberjack.Eca
