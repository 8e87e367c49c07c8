import Cyberjack.Eca.PromptTexts
import Cyberjack.Ppa.I2c

namespace Cyberjack.Ppa

open Cyberjack.Foundation Cyberjack.Eca

/-! # The search for a data object

`GetTag` over any bytes.  The two drivers have a copy each; both end as soon as no more
than two bytes are left, and neither compares the length of the object it finds with the
bytes behind it.
-/

inductive Driver where
  | cjeca32
  | ppa
deriving Repr, DecidableEq

/-- `GetTag` of `BaseReader.cpp` or of `cjdata.c`. -/
def pointerOf (driver : Driver) (memory : Nat → UInt8) (start len : Nat) (tagvalue : UInt8) :
    Option (Nat × Nat) :=
  match driver with
  | .cjeca32 => tagAt memory tagvalue len start len
  | .ppa => GetTag memory start len tagvalue

/-- No object has the tag. -/
def Lack (tagvalue : UInt8) (objects : List DataObject) : Prop :=
  ∀ object ∈ objects, object.tag ≠ tagvalue

/-- Nothing outside the string is read or pointed to, and in a string of objects the first
one with the tag is found. -/
structure SearchRight (memory : Nat → UInt8) (start len : Nat) (tagvalue : UInt8)
    (found : Option (Nat × Nat)) : Prop where
  reads : ∀ index ∈ tagReads memory tagvalue len start len, start ≤ index ∧ index < start + len
  value : ∀ pointer taglen, found = some (pointer, taglen) →
    start ≤ pointer ∧ pointer + taglen ≤ start + len
  first : ∀ front object back,
    bytesAt memory start len = DataObject.encodeAll (front ++ object :: back) →
    Lack tagvalue front → object.tag = tagvalue →
    found = some (start + (DataObject.encodeAll front).length + 2, object.value.length)
  absent : ∀ objects, bytesAt memory start len = DataObject.encodeAll objects →
    Lack tagvalue objects → found = none

/-- The first object with the tag has its whole value in front of the end, and is no empty
object that ends there. -/
def FirstWhole (tagvalue : UInt8) (string : List UInt8) : Prop :=
  ∀ objects tlen rest, string = DataObject.encodeAll objects ++ tagvalue :: tlen :: rest →
    Lack tagvalue objects → (rest = [] → tlen ≠ 0) ∧ (rest ≠ [] → tlen.toNat ≤ rest.length)

variable {memory : Nat → UInt8} {tagvalue : UInt8} {passes start len : Nat}
  {objects : List DataObject}

theorem pointerOf_eq (driver : Driver) :
    pointerOf driver memory start len tagvalue = tagAt memory tagvalue len start len := by
  cases driver <;> rfl

theorem lack_cons {object : DataObject} :
    Lack tagvalue (object :: objects) ↔ object.tag ≠ tagvalue ∧ Lack tagvalue objects :=
  List.forall_mem_cons

theorem tagAt_short {left : Int} (short : left ≤ 2) :
    tagAt memory tagvalue passes start left = none := by
  cases passes with
  | zero => rfl
  | succ passes => rw [tagAt, if_neg (by omega)]

/-- Objects without the tag are passed over. -/
theorem tagAt_skip (stands : Eca.Stands memory start objects) (lack : Lack tagvalue objects) (left : Nat) :
    tagAt memory tagvalue (objects.length + passes) start ((DataObject.encodeAll objects).length + left : Nat) =
      tagAt memory tagvalue passes (start + (DataObject.encodeAll objects).length) left := by
  induction objects generalizing start with
  | nil => simp
  | cons object rest ih =>
      obtain ⟨tag, tlen, _, later⟩ := stands_cons.mp stands
      obtain ⟨other, lack⟩ := lack_cons.mp lack
      have length := encodeAll_length_cons object rest
      rw [List.length_cons, Nat.add_right_comm, length]
      by_cases more : object.value.length + 2 + (DataObject.encodeAll rest).length + left > 2
      · have next : ((object.value.length + 2 + (DataObject.encodeAll rest).length + left : Nat) : Int) -
            (object.value.length + 2) = ((DataObject.encodeAll rest).length + left : Nat) := by
          omega
        rw [tagAt, if_pos (by omega), tag, if_neg other, tlen, next, ih later lack]
        congr 1
        omega
      · rw [tagAt_short (by omega), tagAt_short (by omega)]

theorem bytesAt_header (memory : Nat → UInt8) (start : Nat) {len : Nat} (more : 2 ≤ len) :
    bytesAt memory start len = memory start :: memory (start + 1) :: bytesAt memory (start + 2) (len - 2) := by
  have split : len = 2 + (len - 2) := by omega
  rw [split, bytesAt_add, Nat.add_sub_cancel_left]
  rfl

/-- What is found has only objects without the tag in front of it. -/
theorem tagAt_found {found : Nat × Nat} (search : tagAt memory tagvalue passes start len = some found) :
    ∃ objects tlen rest, bytesAt memory start len = DataObject.encodeAll objects ++ tagvalue :: tlen :: rest ∧
      Lack tagvalue objects ∧ rest ≠ [] ∧
      found = (start + (DataObject.encodeAll objects).length + 2, tlen.toNat) := by
  induction passes generalizing start len with
  | zero => contradiction
  | succ passes ih =>
      rw [tagAt] at search
      by_cases more : (len : Int) > 2
      · rw [if_pos more] at search
        have header := bytesAt_header memory start (show 2 ≤ len by omega)
        by_cases here : memory start = tagvalue
        · simp only [if_pos here, Option.some.injEq] at search
          rw [here] at header
          have behind : bytesAt memory (start + 2) (len - 2) ≠ [] := by
            rw [← List.length_pos_iff, length_bytesAt]
            omega
          exact ⟨[], _, _, header, List.forall_mem_nil _, behind, search.symm⟩
        · simp only [if_neg here] at search
          generalize same : (memory (start + 1)).toNat = tlen at search
          have room : tlen + 2 ≤ len := by
            by_cases short : tlen + 2 ≤ len
            · exact short
            · rw [tagAt_short (by omega)] at search
              contradiction
          have left : (len : Int) - (tlen + 2) = (len - (tlen + 2) : Nat) := by omega
          rw [left] at search
          obtain ⟨objects, next, rest, string, lack, behind, at'⟩ := ih search
          have bounded : (bytesAt memory (start + 2) tlen).length < 256 := by
            rw [length_bytesAt, ← same]
            exact UInt8.toNat_lt _
          let object : DataObject := ⟨memory start, bytesAt memory (start + 2) tlen, bounded⟩
          have length : UInt8.ofNat object.value.length = memory (start + 1) := by
            rw [length_bytesAt, ← same, UInt8.ofNat_toNat]
          have value : bytesAt memory (start + 2) (len - 2) =
              object.value ++ bytesAt memory (start + 2 + tlen) (len - (tlen + 2)) := by
            rw [← bytesAt_add]
            congr 1
            omega
          have encoded : bytesAt memory start len = object.encode ++
              bytesAt memory (start + 2 + tlen) (len - (tlen + 2)) := by
            rw [header, value, DataObject.encode, length]
            rfl
          refine ⟨object :: objects, next, rest, ?_, lack_cons.mpr ⟨here, lack⟩, behind, ?_⟩
          · rw [encoded, string, DataObject.encodeAll_cons, List.append_assoc]
          · rw [at', encodeAll_length_cons, length_bytesAt]
            congr 1
            omega
      · rw [if_neg more] at search
        contradiction

/-- The search at an object with the tag that is not cut off behind its header. -/
theorem tagAt_first {tlen : UInt8} {rest : List UInt8}
    (string : bytesAt memory start len = DataObject.encodeAll objects ++ tagvalue :: tlen :: rest)
    (lack : Lack tagvalue objects) :
    tagAt memory tagvalue len start len =
      if rest = [] then none else some (start + (DataObject.encodeAll objects).length + 2, tlen.toNat) := by
  have length := congrArg List.length string
  rw [length_bytesAt, List.length_append, List.length_cons, List.length_cons] at length
  have counted := DataObject.length_le_encodeAll objects
  have whole : bytesAt memory start (DataObject.encodeAll objects ++ tagvalue :: tlen :: rest).length =
      DataObject.encodeAll objects ++ tagvalue :: tlen :: rest := by
    rw [← string, length_bytesAt]
  obtain ⟨stands, header⟩ := bytesAt_eq_append.mp whole
  rw [List.length_cons, List.length_cons, bytesAt_header _ _ (by omega)] at header
  injection header with tag header
  injection header with second _
  have skipped := @tagAt_skip memory tagvalue (rest.length + 2 + ((DataObject.encodeAll objects).length -
    objects.length)) start objects stands lack (rest.length + 2)
  have passes : objects.length + (rest.length + 2 + ((DataObject.encodeAll objects).length - objects.length)) =
      len := by
    omega
  have total : (DataObject.encodeAll objects).length + (rest.length + 2) = len := by omega
  rw [passes, total] at skipped
  rw [skipped]
  by_cases last : rest = []
  · rw [if_pos last, last]
    exact tagAt_short (Int.le_refl 2)
  · have more := List.length_pos_iff.mpr last
    rw [if_neg last, Nat.add_right_comm, tagAt, if_pos (by omega), if_pos tag, second]

theorem tagAt_absent (string : bytesAt memory start len = DataObject.encodeAll objects)
    (lack : Lack tagvalue objects) : tagAt memory tagvalue len start len = none := by
  cases search : tagAt memory tagvalue len start len with
  | none => rfl
  | some found =>
      have length := congrArg List.length string
      rw [length_bytesAt] at length
      have counted := DataObject.length_le_encodeAll objects
      have stands : Eca.Stands memory start objects := by
        rw [Eca.Stands, ← length, string]
      have skipped := @tagAt_skip memory tagvalue (len - objects.length) start objects stands lack 0
      rw [Nat.add_zero, ← length, Nat.add_sub_cancel' (by omega), search, tagAt_short (by decide)] at skipped
      contradiction

/-- The search is right exactly where the first object with the tag is whole and does not
end the string with an empty value. -/
theorem tag_search_right_iff (driver : Driver) (memory : Nat → UInt8) (start len : Nat) (tagvalue : UInt8) :
    SearchRight memory start len tagvalue (pointerOf driver memory start len tagvalue) ↔
      FirstWhole tagvalue (bytesAt memory start len) := by
  rw [pointerOf_eq]
  constructor
  · intro right objects tlen rest string lack
    have search := tagAt_first string lack
    constructor
    · intro last empty
      rw [if_pos last] at search
      have encoded : bytesAt memory start len =
          DataObject.encodeAll (objects ++ [⟨tagvalue, [], Nat.zero_lt_succ _⟩]) := by
        rw [string, last, empty, DataObject.encodeAll_append]
        rfl
      have found := right.first objects _ [] encoded lack rfl
      rw [search] at found
      contradiction
    · intro behind
      rw [if_neg behind] at search
      have inside := (right.value _ _ search).2
      have length := congrArg List.length string
      rw [length_bytesAt, List.length_append, List.length_cons, List.length_cons] at length
      omega
  · intro whole
    constructor
    · intro index read
      have inside := tagReads_inside read
      omega
    · intro pointer taglen search
      obtain ⟨objects, tlen, rest, string, lack, behind, at'⟩ := tagAt_found search
      have fits := (whole objects tlen rest string lack).2 behind
      have length := congrArg List.length string
      rw [length_bytesAt, List.length_append, List.length_cons, List.length_cons] at length
      cases at'
      omega
    · intro front object back string lack tagged
      rw [DataObject.encodeAll_append, DataObject.encodeAll_cons, DataObject.encode, tagged] at string
      simp only [List.cons_append] at string
      have search := tagAt_first string lack
      have last := (whole _ _ _ string lack).1
      have bounded := object.bounded
      have counted : (UInt8.ofNat object.value.length).toNat = object.value.length := by
        rw [UInt8.toNat_ofNat']
        omega
      rw [search, counted]
      split
      · rename_i nothing
        have empty := (List.append_eq_nil_iff.mp nothing).1
        exact absurd (by rw [empty]; rfl) (last nothing)
      · rfl
    · intro objects string lack
      exact tagAt_absent string lack

/-- An empty object at the end is missed, and a cut off one is pointed behind. -/
theorem tag_search_not_right :
    pointerOf .cjeca32 (inMemory [0x45, 0x00]) 0 2 0x45 = none ∧
      ¬ SearchRight (inMemory [0x45, 0x00]) 0 2 0x45 (pointerOf .cjeca32 (inMemory [0x45, 0x00]) 0 2 0x45) ∧
    pointerOf .ppa (inMemory [0x45, 0x05, 0x02]) 0 3 0x45 = some (2, 5) ∧
      ¬ SearchRight (inMemory [0x45, 0x05, 0x02]) 0 3 0x45 (pointerOf .ppa (inMemory [0x45, 0x05, 0x02]) 0 3 0x45) := by
  refine ⟨rfl, ?_, rfl, ?_⟩
  · intro right
    have found := right.first [] ⟨0x45, [], Nat.zero_lt_succ _⟩ [] rfl (List.forall_mem_nil _) rfl
    contradiction
  · intro right
    have inside := (right.value 2 5 rfl).2
    contradiction

end Cyberjack.Ppa
