import Cyberjack.Foundation.CommandApdu

namespace Cyberjack.Eca

open Cyberjack.Foundation

/-! # The structure of a CT command

The head of `_CtData` of `CCIDReader.cpp`: the commands to the reader itself,
with `*dad` 1 and `*sad` 2, are taken apart before any handler sees them.
-/

/-- What the handlers are given: -1 and NULL stand for what the command does not have. -/
structure Lengths where
  Lc : Int
  data_ptr : Option Nat
  Le : Int
deriving Repr, DecidableEq

/-- A two byte length, as the source puts it together. -/
def wordAt (cmd : Nat → UInt8) (index : Nat) : Nat :=
  extendedLength (cmd index) (cmd (index + 1))

/-- REQUEST ICC may come without Le. -/
def omittedLe (linux : Bool) (cmd : Nat → UInt8) : Int :=
  if linux = true ∧ cmd 0 = 0x20 ∧ cmd 1 = 0x12 then 0 else -1

/-- `cmd` is the memory the command stands in, `lenc` its length; `linux` tells
whether `_LINUX` is defined.  No result is the answer 67 00. -/
def parseLengths (linux : Bool) (cmd : Nat → UInt8) (lenc : Nat) : Option Lengths :=
  if lenc = 5 then some ⟨-1, none, (cmd 4).toNat⟩
  else if lenc = 5 + (cmd 4).toNat then some ⟨(cmd 4).toNat, some 5, omittedLe linux cmd⟩
  else if lenc = 6 + (cmd 4).toNat ∧ cmd 4 ≠ 0 then
    some ⟨(cmd 4).toNat, some 5, (cmd (lenc - 1)).toNat⟩
  else if lenc ≥ 7 ∧ cmd 4 = 0 then
    if lenc = 7 then some ⟨-1, none, wordAt cmd 5⟩
    else if lenc = 7 + wordAt cmd 5 then some ⟨wordAt cmd 5, some 7, -1⟩
    else if lenc = 9 + wordAt cmd 5 ∧ (cmd 5 ≠ 0 ∨ cmd 6 ≠ 0) then
      some ⟨wordAt cmd 5, some 7, wordAt cmd (lenc - 2)⟩
    else none
  else if lenc ≠ 4 then none
  else some ⟨-1, none, -1⟩

/-- What a call leaves in its arguments, and what it returns. -/
structure Answer where
  ret : Int
  sad : UInt8
  dad : UInt8
  response : List UInt8
deriving Repr, DecidableEq

/-- The handlers, and what is done with another `*dad` or `*sad`, are parameters. -/
def _CtData (linux : Bool) (handlers : Lengths → Answer) (other : Answer) (sad dad : UInt8)
    (cmd : Nat → UInt8) (lenc lenr : Nat) : Answer :=
  if dad = 1 ∧ sad = 2 then
    if lenr < 2 then ⟨-11, sad, dad, []⟩
    else
      match parseLengths linux cmd lenc with
      | none => ⟨0, sad, dad, [0x67, 0x00]⟩
      | some lengths => handlers lengths
  else other

/-- The command as a byte string. -/
def commandBytes (cmd : Nat → UInt8) (lenc : Nat) : List UInt8 := (List.range lenc).map cmd

def bytesAt (memory : Nat → UInt8) (offset count : Nat) : List UInt8 :=
  (List.range count).map fun index => memory (offset + index)

/-- A byte string in memory, with zeros behind it. -/
def inMemory (string : List UInt8) (index : Nat) : UInt8 := string.getD index 0

/-- What the handlers should be given for an APDU. -/
def lengthsOf (linux : Bool) (apdu : CommandApdu) : Lengths where
  Lc := apdu.body.lc.elim (-1) fun lc => (lc : Int)
  data_ptr := apdu.body.dataOffset
  Le :=
    match apdu.body with
    | .case3Short _ => if linux = true ∧ apdu.cla = 0x20 ∧ apdu.ins = 0x12 then 0 else -1
    | body => body.le.elim (-1) fun le => (le : Int)

variable {linux : Bool} {cmd other : Nat → UInt8} {lenc : Nat} {lengths : Lengths}

@[simp] theorem length_commandBytes (cmd : Nat → UInt8) (lenc : Nat) :
    (commandBytes cmd lenc).length = lenc := by
  simp [commandBytes]

theorem inMemory_commandBytes {index : Nat} (inside : index < lenc) :
    inMemory (commandBytes cmd lenc) index = cmd index := by
  simp [inMemory, commandBytes, inside]

theorem parseLengths_congr (same : ∀ index, index < lenc → cmd index = other index) :
    parseLengths linux cmd lenc = parseLengths linux other lenc := by
  by_cases short : lenc < 5
  · have untouched : ∀ memory, parseLengths linux memory lenc =
        if lenc ≠ 4 then none else some ⟨-1, none, -1⟩ := by
      intro memory
      rw [parseLengths, if_neg (by omega), if_neg (by omega), if_neg (by omega), if_neg (by omega)]
    rw [untouched, untouched]
  · have last := same (lenc - 1) (by omega)
    have lc := same 4 (by omega)
    have omitted : omittedLe linux cmd = omittedLe linux other := by
      rw [omittedLe, omittedLe, same 0 (by omega), same 1 (by omega)]
    by_cases long : 7 ≤ lenc
    · have high := same 5 (by omega)
      have low := same 6 (by omega)
      have word : wordAt cmd 5 = wordAt other 5 := by
        rw [wordAt, wordAt, high, low]
      have le : wordAt cmd (lenc - 2) = wordAt other (lenc - 2) := by
        rw [wordAt, wordAt, same (lenc - 2) (by omega), same (lenc - 2 + 1) (by omega)]
      simp only [parseLengths, last, lc, omitted, high, low, word, le]
    · simp only [parseLengths, last, lc, omitted]
      rw [if_neg (show ¬ (lenc ≥ 7 ∧ other 4 = 0) by omega),
        if_neg (show ¬ (lenc ≥ 7 ∧ other 4 = 0) by omega)]

theorem parseLengths_commandBytes :
    parseLengths linux (inMemory (commandBytes cmd lenc)) lenc = parseLengths linux cmd lenc :=
  parseLengths_congr fun _ inside => inMemory_commandBytes inside

theorem inMemory_append (front tail : List UInt8) {index offset : Nat}
    (behind : index = front.length + offset) : inMemory (front ++ tail) index = inMemory tail offset := by
  rw [behind, inMemory, inMemory, List.getD_eq_getElem?_getD, List.getD_eq_getElem?_getD,
    List.getElem?_append_right (Nat.le_add_right _ _), Nat.add_sub_cancel_left]

theorem toNat_ofNat_short {count : Nat} (bounded : count < 256) : (UInt8.ofNat count).toNat = count := by
  rw [UInt8.toNat_ofNat', Nat.mod_eq_of_lt bounded]

/-- Every encoding is taken apart into what was put into it. -/
theorem parseLengths_encode (linux : Bool) (apdu : CommandApdu) :
    parseLengths linux (inMemory apdu.encode) apdu.encode.length = some (lengthsOf linux apdu) := by
  obtain ⟨cla, ins, p1, p2, body⟩ := apdu
  cases body with
  | case1 => rfl
  | case2Short le => rfl
  | case3Short data =>
      have some := data.nonempty
      have lc := toNat_ofNat_short data.bounded
      have length : (CommandApdu.mk cla ins p1 p2 (.case3Short data)).encode.length =
          5 + data.bytes.length := by
        simp [CommandApdu.encode, CommandBody.encode]
        omega
      have at4 : (inMemory (CommandApdu.mk cla ins p1 p2 (.case3Short data)).encode 4).toNat =
          data.bytes.length := lc
      rw [parseLengths, length, at4, if_neg (by omega), if_pos rfl]
      rfl
  | case4Short data le =>
      have some := data.nonempty
      have lc := toNat_ofNat_short data.bounded
      have length : (CommandApdu.mk cla ins p1 p2 (.case4Short data le)).encode.length =
          6 + data.bytes.length := by
        simp [CommandApdu.encode, CommandBody.encode]
        omega
      have at4 : (inMemory (CommandApdu.mk cla ins p1 p2 (.case4Short data le)).encode 4).toNat =
          data.bytes.length := lc
      have nonzero : inMemory (CommandApdu.mk cla ins p1 p2 (.case4Short data le)).encode 4 ≠ 0 := by
        intro zero
        rw [zero] at at4
        exact absurd at4.symm (Nat.ne_of_gt some)
      have last : inMemory (CommandApdu.mk cla ins p1 p2 (.case4Short data le)).encode
          (6 + data.bytes.length - 1) = le := by
        have behind : 6 + data.bytes.length - 1 =
            ([cla, ins, p1, p2] ++ UInt8.ofNat data.bytes.length :: data.bytes).length + 0 := by
          simp
          omega
        exact inMemory_append _ [le] behind
      rw [parseLengths, length, at4, if_neg (by omega), if_neg (by omega), if_pos ⟨rfl, nonzero⟩, last]
      rfl
  | case2Extended high low => rfl
  | case3Extended data =>
      have some := data.nonempty
      have word : wordAt (inMemory (CommandApdu.mk cla ins p1 p2 (.case3Extended data)).encode) 5 =
          data.bytes.length := extendedLength_ofNat data.bounded
      have length : (CommandApdu.mk cla ins p1 p2 (.case3Extended data)).encode.length =
          7 + data.bytes.length := by
        simp [CommandApdu.encode, CommandBody.encode]
        omega
      have at4 : inMemory (CommandApdu.mk cla ins p1 p2 (.case3Extended data)).encode 4 = 0 := rfl
      have at4Nat : (0 : UInt8).toNat = 0 := rfl
      rw [parseLengths, length, at4, at4Nat, word, if_neg (by omega), if_neg (by omega),
        if_neg (by omega), if_pos ⟨by omega, rfl⟩, if_neg (by omega), if_pos rfl]
      rfl
  | case4Extended data high low =>
      have some := data.nonempty
      have word : wordAt (inMemory (CommandApdu.mk cla ins p1 p2 (.case4Extended data high low)).encode) 5 =
          data.bytes.length := extendedLength_ofNat data.bounded
      have length : (CommandApdu.mk cla ins p1 p2 (.case4Extended data high low)).encode.length =
          9 + data.bytes.length := by
        simp [CommandApdu.encode, CommandBody.encode]
        omega
      have at4 : inMemory (CommandApdu.mk cla ins p1 p2 (.case4Extended data high low)).encode 4 = 0 :=
        rfl
      have at4Nat : (0 : UInt8).toNat = 0 := rfl
      have nonzero : inMemory (CommandApdu.mk cla ins p1 p2 (.case4Extended data high low)).encode 5 ≠ 0 ∨
          inMemory (CommandApdu.mk cla ins p1 p2 (.case4Extended data high low)).encode 6 ≠ 0 := by
        by_contra zero
        rw [not_or, not_not, not_not] at zero
        rw [wordAt, zero.1, zero.2] at word
        have none : data.bytes.length = 0 := word.symm
        omega
      have le : wordAt (inMemory (CommandApdu.mk cla ins p1 p2 (.case4Extended data high low)).encode)
          (9 + data.bytes.length - 2) = extendedLength high low := by
        have behind : ∀ offset, inMemory (CommandApdu.mk cla ins p1 p2
            (.case4Extended data high low)).encode (7 + data.bytes.length + offset) =
            inMemory [high, low] offset := by
          intro offset
          refine inMemory_append ([cla, ins, p1, p2] ++ ([0x00,
            UInt8.ofNat (data.bytes.length / 256), UInt8.ofNat data.bytes.length] ++ data.bytes))
            [high, low] ?_
          simp
          omega
        have start : 9 + data.bytes.length - 2 = 7 + data.bytes.length + 0 := by omega
        rw [start, wordAt, Nat.add_assoc _ 0 1, behind, behind]
        rfl
      rw [parseLengths, length, at4, at4Nat, word, if_neg (by omega), if_neg (by omega),
        if_neg (by omega), if_pos ⟨by omega, rfl⟩, if_neg (by omega), if_neg (by omega),
        if_pos ⟨rfl, nonzero⟩, le]
      rfl

theorem split_tail {rest : List UInt8} {count : Nat} (length : rest.length = count + 1) :
    ∃ data last, rest = data ++ [last] ∧ data.length = count := by
  have nonempty : rest ≠ [] := by
    rintro rfl
    contradiction
  refine ⟨rest.dropLast, rest.getLast nonempty, (List.dropLast_append_getLast nonempty).symm, ?_⟩
  rw [List.length_dropLast, length, Nat.add_sub_cancel]

theorem encode_short {a b c d e : UInt8} {rest : List UInt8} (nonempty : 0 < rest.length)
    (length : rest.length = e.toNat ∨ rest.length = e.toNat + 1 ∧ e ≠ 0) :
    ∃ apdu : CommandApdu, apdu.encode = a :: b :: c :: d :: e :: rest := by
  have byte := e.toNat_lt
  rcases length with length | ⟨length, nonzero⟩
  · refine ⟨⟨a, b, c, d, .case3Short ⟨rest, nonempty, by omega⟩⟩, ?_⟩
    simp [CommandApdu.encode, CommandBody.encode, length]
  · obtain ⟨data, le, rfl, count⟩ := split_tail length
    have some : 0 < data.length := by
      rw [count]
      exact Nat.pos_of_ne_zero fun zero => nonzero (UInt8.toNat_inj.mp zero)
    refine ⟨⟨a, b, c, d, .case4Short ⟨data, some, by omega⟩ le⟩, ?_⟩
    simp [CommandApdu.encode, CommandBody.encode, count]

theorem encode_extended {a b c d high low : UInt8} {rest : List UInt8}
    (length : rest.length = extendedLength high low ∨ rest.length = extendedLength high low + 2)
    (nonzero : extendedLength high low ≠ 0) :
    ∃ apdu : CommandApdu, apdu.encode = a :: b :: c :: d :: 0x00 :: high :: low :: rest := by
  have word := extendedLength_lt high low
  have bytes := ofNat_extendedLength high low
  rcases length with length | length
  · refine ⟨⟨a, b, c, d, .case3Extended ⟨rest, by omega, by omega⟩⟩, ?_⟩
    simp [CommandApdu.encode, CommandBody.encode, length, bytes]
  · obtain ⟨front, last, rfl, frontLength⟩ := split_tail length
    obtain ⟨data, first, rfl, dataLength⟩ := split_tail frontLength
    refine ⟨⟨a, b, c, d, .case4Extended ⟨data, by omega, by omega⟩ first last⟩, ?_⟩
    simp [CommandApdu.encode, CommandBody.encode, dataLength, bytes]

theorem encode_of_parseLengths {string : List UInt8}
    (parsed : parseLengths linux (inMemory string) string.length = some lengths) :
    ∃ apdu : CommandApdu, apdu.encode = string := by
  obtain ⟨a, b, c, d, rest, rfl⟩ : ∃ a b c d rest, string = a :: b :: c :: d :: rest := by
    rcases string with _ | ⟨a, _ | ⟨b, _ | ⟨c, _ | ⟨d, rest⟩⟩⟩⟩
    · cases parsed
    · cases parsed
    · cases parsed
    · cases parsed
    · exact ⟨a, b, c, d, rest, rfl⟩
  rcases rest with _ | ⟨e, _ | ⟨high, rest⟩⟩
  · exact ⟨⟨a, b, c, d, .case1⟩, rfl⟩
  · exact ⟨⟨a, b, c, d, .case2Short e⟩, rfl⟩
  · have at4 : inMemory (a :: b :: c :: d :: e :: high :: rest) 4 = e := rfl
    have length : (a :: b :: c :: d :: e :: high :: rest).length = rest.length + 6 := rfl
    rw [parseLengths, at4, length, if_neg (by omega)] at parsed
    split at parsed
    · rename_i short
      exact encode_short (Nat.succ_pos _) (.inl (by rw [List.length_cons]; omega))
    · split at parsed
      · rename_i short
        exact encode_short (Nat.succ_pos _) (.inr ⟨by rw [List.length_cons]; omega, short.2⟩)
      · split at parsed
        · rename_i extended
          obtain ⟨long, rfl⟩ := extended
          rcases rest with _ | ⟨low, rest⟩
          · contradiction
          · have word : wordAt (inMemory (a :: b :: c :: d :: 0 :: high :: low :: rest)) 5 =
                extendedLength high low := rfl
            rw [word, List.length_cons] at parsed
            split at parsed
            · rename_i seven
              have nothing : rest = [] := List.eq_nil_of_length_eq_zero (by omega)
              exact ⟨⟨a, b, c, d, .case2Extended high low⟩, by rw [nothing]; rfl⟩
            · split at parsed
              · rename_i longer exact
                exact encode_extended (.inl (by omega)) (by omega)
              · split at parsed
                · rename_i both
                  refine encode_extended (.inr (by omega)) ?_
                  intro zero
                  have bytes := ofNat_extendedLength high low
                  rw [zero] at bytes
                  rcases both.2 with nonzero | nonzero
                  · exact nonzero bytes.1.symm
                  · exact nonzero bytes.2.symm
                · contradiction
        · rw [if_pos (by omega)] at parsed
          contradiction

theorem parseLengths_of_encode {apdu : CommandApdu} (encoded : apdu.encode = commandBytes cmd lenc) :
    parseLengths linux cmd lenc = some (lengthsOf linux apdu) := by
  have parsed := parseLengths_encode linux apdu
  rwa [encoded, length_commandBytes, parseLengths_commandBytes] at parsed

/-- A command that is an APDU is handed on with exactly its lengths, every other
byte string is answered with 67 00, and the command data handed on lies inside
the command. -/
theorem ctData_takes_apart (linux : Bool) (handlers : Lengths → Answer) (other : Answer)
    (cmd : Nat → UInt8) (lenc lenr : Nat) :
    (∀ apdu : CommandApdu, apdu.encode = commandBytes cmd lenc → 2 ≤ lenr →
        _CtData linux handlers other 2 1 cmd lenc lenr = handlers (lengthsOf linux apdu)) ∧
      ((∀ apdu : CommandApdu, apdu.encode ≠ commandBytes cmd lenc) → 2 ≤ lenr →
        _CtData linux handlers other 2 1 cmd lenc lenr = ⟨0, 2, 1, [0x67, 0x00]⟩) ∧
      (lenr < 2 → _CtData linux handlers other 2 1 cmd lenc lenr = ⟨-11, 2, 1, []⟩) ∧
      ∀ lengths offset, parseLengths linux cmd lenc = some lengths →
        lengths.data_ptr = some offset → 0 ≤ lengths.Lc ∧ offset + lengths.Lc ≤ lenc := by
  have recovers : ∀ apdu : CommandApdu, apdu.encode = commandBytes cmd lenc →
      parseLengths linux cmd lenc = some (lengthsOf linux apdu) :=
    fun _ encoded => parseLengths_of_encode encoded
  have sound : ∀ lengths, parseLengths linux cmd lenc = some lengths →
      ∃ apdu : CommandApdu, apdu.encode = commandBytes cmd lenc := by
    intro lengths parsed
    rw [← parseLengths_commandBytes, ← length_commandBytes cmd lenc] at parsed
    exact encode_of_parseLengths (by simpa using parsed)
  have taken : 2 ≤ lenr → _CtData linux handlers other 2 1 cmd lenc lenr =
      match parseLengths linux cmd lenc with
      | none => ⟨0, 2, 1, [0x67, 0x00]⟩
      | some lengths => handlers lengths := by
    intro room
    rw [_CtData, if_pos ⟨rfl, rfl⟩, if_neg (by omega)]
  refine ⟨fun apdu encoded room => ?_, fun unencoded room => ?_, fun short => ?_,
    fun lengths offset parsed begins => ?_⟩
  · rw [taken room, recovers apdu encoded]
  · rw [taken room]
    cases parsed : parseLengths linux cmd lenc with
    | none => rfl
    | some lengths =>
        obtain ⟨apdu, encoded⟩ := sound lengths parsed
        exact absurd encoded (unencoded apdu)
  · rw [_CtData, if_pos ⟨rfl, rfl⟩, if_pos short]
  · obtain ⟨apdu, encoded⟩ := sound lengths parsed
    have same := recovers apdu encoded
    rw [parsed, Option.some.injEq] at same
    subst same
    have inside := (apdu.data_inside begins).1
    rw [encoded, length_commandBytes] at inside
    have lc : (lengthsOf linux apdu).Lc = apdu.body.data.length := by
      rw [lengthsOf, CommandBody.lc_of_dataOffset begins]
      rfl
    omega

end Cyberjack.Eca
