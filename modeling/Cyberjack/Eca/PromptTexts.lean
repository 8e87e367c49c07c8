import Cyberjack.Eca.ModifyBuffer

namespace Cyberjack.Eca

open Cyberjack.Foundation

/-! # The texts of MODIFY VERIFICATION

The loop of `_CtData` over the objects 50, with every pass it makes and every byte it
reads, over data fields that are made of objects.
-/

/-- The bytes that `GetTag` reads. -/
def tagReads (memory : Nat → UInt8) (tagvalue : UInt8) : Nat → Nat → Int → List Nat
  | 0, _, _ => []
  | passes + 1, start, len =>
      if len > 2 then
        let tlen := (memory (start + 1)).toNat
        start :: (start + 1) ::
          if memory start = tagvalue then []
          else tagReads memory tagvalue passes (start + 2 + tlen) (len - (tlen + 2))
      else []

/-- What a pass of the loop begins with. -/
structure TextPass where
  i : Nat
  memory : Nat → UInt8
  cmd_ptr : Nat
  cmd_len : Int

namespace TextPass

def found (pass : TextPass) : Option (Nat × Nat) :=
  tagAt pass.memory 0x50 pass.cmd_len.toNat pass.cmd_ptr pass.cmd_len

/-- The text that the pass counts. -/
def text (pass : TextPass) : Option (Nat × Nat) :=
  pass.found.filter fun found => decide ((2 + found.2 : Int) ≤ pass.cmd_len) &&
    decide (pass.i = 0 ∨ pass.i = 3 ∨ pass.i = 4)

/-- `TransformText` reads the text, and `cjccid_SecureMV` does once more. -/
def reads (pass : TextPass) : List Nat :=
  tagReads pass.memory 0x50 pass.cmd_len.toNat pass.cmd_ptr pass.cmd_len ++
    pass.text.elim [] fun text => List.range' text.1 text.2

end TextPass

/-- The passes of `searchTexts`. -/
def textPasses (memory : Nat → UInt8) (cmd_ptr : Nat) (cmd_len : Int) : List Nat → List TextPass
  | [] => []
  | i :: rest =>
      ⟨i, memory, cmd_ptr, cmd_len⟩ ::
        match tagAt memory 0x50 cmd_len.toNat cmd_ptr cmd_len with
        | none => []
        | some (tag50, taglen50) =>
            if cmd_len < 2 + taglen50 then []
            else
              let counts : Bool := i = 0 ∨ i = 3 ∨ i = 4
              let memory := if counts then transformAt memory tag50 taglen50 else memory
              textPasses memory (cmd_ptr + 2 + taglen50) (cmd_len - (2 + taglen50)) rest

/-! ## Data fields of objects -/

/-- The objects that a search can come upon: `GetTag` ends before an empty one at the end. -/
def visible : List DataObject → List DataObject
  | [] => []
  | object :: rest => if object.value = [] ∧ rest = [] then [] else object :: visible rest

/-- The objects 50. -/
def textObjects (objects : List DataObject) : List DataObject := objects.filter fun object => object.tag = 0x50

/-- The first, fourth and fifth of the objects 50, as far as they exist. -/
def promptTexts (objects : List DataObject) : List DataObject :=
  [0, 3, 4].filterMap fun index => (textObjects objects)[index]?

/-- The objects stand in memory one behind the other. -/
def Stands (memory : Nat → UInt8) (start : Nat) (objects : List DataObject) : Prop :=
  bytesAt memory start (DataObject.encodeAll objects).length = DataObject.encodeAll objects

/-- The data field of a command is made of objects. -/
structure FieldOf (cmd : Nat → UInt8) (lengths : Lengths) (data_ptr : Nat) (objects : List DataObject) : Prop where
  begins : lengths.data_ptr = some data_ptr
  counted : lengths.Lc = (DataObject.encodeAll objects).length
  stands : Stands cmd data_ptr objects

/-- The passes that a command leads to. -/
def commandPasses (cmd : Nat → UInt8) (lengths : Lengths) : List TextPass :=
  textPasses cmd (lengths.data_ptr.getD 0) lengths.Lc [0, 1, 2, 3, 4]

/-- The texts of the call are those of the data field, and nothing outside it is read for them. -/
structure TextsRight (cmd : Nat → UInt8) (lengths : Lengths) (data_ptr : Nat) (objects : List DataObject)
    (Text : List (List UInt8)) : Prop where
  texts : Text = (promptTexts objects).map fun object => TransformText object.value
  inside : ∀ pass ∈ commandPasses cmd lengths, ∀ index ∈ pass.reads,
    data_ptr ≤ index ∧ index < data_ptr + (DataObject.encodeAll objects).length

/-- A pass that another one follows finds its object where it begins to search, so that the next one
begins behind that object. -/
def GoesOn (passes : List TextPass) : Prop :=
  ∀ pass ∈ passes, pass.i < 4 → ∀ found, pass.found = some found → found.1 = pass.cmd_ptr + 2

/-- The first four objects 50, as far as they can be found, are the first objects. -/
def TextsInFront (objects : List DataObject) : Prop := (textObjects (visible objects)).take 4 <+: objects

/-- No text to be shown is an empty object at the end. -/
def TextsVisible (objects : List DataObject) : Prop :=
  ∀ last, objects.getLast? = some last → last.tag = 0x50 → last.value = [] →
    (textObjects objects).length ≠ 1 ∧ (textObjects objects).length ≠ 4 ∧ (textObjects objects).length ≠ 5

/-! ## Finding an object -/

variable {memory other : Nat → UInt8} {start passes : Nat} {object : DataObject} {objects rest : List DataObject}

theorem visible_cons (shown : ¬ (object.value = [] ∧ rest = [])) : visible (object :: rest) = object :: visible rest := by
  rw [visible, if_neg shown]

/-- An empty object at the end is all that can be missing. -/
theorem visible_append (objects : List DataObject) :
    ∃ hidden, objects = visible objects ++ hidden ∧
      ((hidden = [] ∧ ∀ last, objects.getLast? = some last → last.value ≠ []) ∨
        ∃ last, hidden = [last] ∧ last.value = []) := by
  induction objects with
  | nil => exact ⟨[], rfl, .inl ⟨rfl, nofun⟩⟩
  | cons object rest ih =>
      by_cases last : object.value = [] ∧ rest = []
      · rw [visible, if_pos last, last.2]
        exact ⟨[object], rfl, .inr ⟨object, rfl, last.1⟩⟩
      · obtain ⟨hidden, split, ⟨none, filled⟩ | empty⟩ := ih
        · rw [visible_cons last]
          refine ⟨hidden, congrArg (object :: ·) split, .inl ⟨none, ?_⟩⟩
          intro other same
          cases rest with
          | nil =>
              cases same
              exact fun empty => last ⟨empty, rfl⟩
          | cons next rest =>
              apply filled
              rw [← same, List.getLast?_cons_cons]
        · rw [visible_cons last]
          exact ⟨hidden, congrArg (object :: ·) split, .inr empty⟩

theorem stands_cons : Stands memory start (object :: rest) ↔
    memory start = object.tag ∧ (memory (start + 1)).toNat = object.value.length ∧
      bytesAt memory (start + 2) object.value.length = object.value ∧
      Stands memory (start + 2 + object.value.length) rest := by
  have header : bytesAt memory start [object.tag, UInt8.ofNat object.value.length].length =
      [object.tag, UInt8.ofNat object.value.length] ↔
        memory start = object.tag ∧ memory (start + 1) = UInt8.ofNat object.value.length := by
    change [memory (start + 0), memory (start + 1)] = _ ↔ _
    rw [Nat.add_zero, List.cons.injEq, List.cons.injEq, and_iff_left rfl]
  have length : memory (start + 1) = UInt8.ofNat object.value.length ↔
      (memory (start + 1)).toNat = object.value.length := by
    rw [← UInt8.toNat_inj, UInt8.toNat_ofNat', Nat.mod_eq_of_lt object.bounded]
  have split : DataObject.encodeAll (object :: rest) =
      [object.tag, UInt8.ofNat object.value.length] ++ (object.value ++ DataObject.encodeAll rest) := rfl
  rw [Stands, split, bytesAt_eq_append, bytesAt_eq_append, header, length, and_assoc]
  rfl

theorem encodeAll_length_cons (object : DataObject) (rest : List DataObject) :
    (DataObject.encodeAll (object :: rest)).length = object.value.length + 2 + (DataObject.encodeAll rest).length := by
  rw [DataObject.encodeAll_cons, List.length_append, DataObject.length_encode]

/-- What a search for texts comes upon in a field of objects. -/
theorem tagAt_texts (enough : objects.length ≤ passes) (stands : Stands memory start objects) :
    (textObjects (visible objects) = [] ∧
      tagAt memory 0x50 passes start (DataObject.encodeAll objects).length = none) ∨
    ∃ front text back, visible objects = front ++ text :: back ∧ textObjects front = [] ∧ text.tag = 0x50 ∧
      tagAt memory 0x50 passes start (DataObject.encodeAll objects).length =
        some (start + (DataObject.encodeAll front).length + 2, text.value.length) := by
  induction objects generalizing passes start with
  | nil =>
      cases passes with
      | zero => exact .inl ⟨rfl, rfl⟩
      | succ passes => exact .inl ⟨rfl, rfl⟩
  | cons object rest ih =>
      cases passes with
      | zero => contradiction
      | succ passes =>
          obtain ⟨tag, tlen, _, later⟩ := stands_cons.mp stands
          rw [encodeAll_length_cons, tagAt]
          by_cases last : object.value = [] ∧ rest = []
          · have ends : ¬ (((object.value.length + 2 + (DataObject.encodeAll rest).length : Nat) : Int) > 2) := by
              rw [last.1, last.2]
              decide
            rw [if_neg ends, visible, if_pos last]
            exact .inl ⟨rfl, rfl⟩
          · have more : ((object.value.length + 2 + (DataObject.encodeAll rest).length : Nat) : Int) > 2 := by
              by_cases empty : object.value = []
              · cases rest with
                | nil => exact absurd ⟨empty, rfl⟩ last
                | cons next rest =>
                    rw [encodeAll_length_cons]
                    omega
              · have filled := List.length_pos_iff.mpr empty
                omega
            have remaining : ((object.value.length + 2 + (DataObject.encodeAll rest).length : Nat) : Int) -
                (object.value.length + 2) = (DataObject.encodeAll rest).length := by
              omega
            rw [if_pos more, visible_cons last]
            simp only [tag, tlen, remaining]
            by_cases here : object.tag = 0x50
            · rw [if_pos here]
              exact .inr ⟨[], object, visible rest, rfl, rfl, here, rfl⟩
            · have other : textObjects (object :: visible rest) = textObjects (visible rest) :=
                List.filter_cons_of_neg (by rw [decide_eq_true_eq]; exact here)
              rw [if_neg here, other]
              obtain none | ⟨front, text, back, split, plain, tagged, found⟩ :=
                ih (Nat.le_of_succ_le_succ enough) later
              · exact .inl none
              · refine .inr ⟨object :: front, text, back, by rw [split, List.cons_append], ?_, tagged, ?_⟩
                · rw [textObjects, List.filter_cons_of_neg (by rw [decide_eq_true_eq]; exact here)]
                  exact plain
                · rw [found, encodeAll_length_cons]
                  congr 2
                  omega

theorem tagReads_inside {tagvalue : UInt8} {len : Int} {index : Nat}
    (read : index ∈ tagReads memory tagvalue passes start len) : start ≤ index ∧ (index : Int) < start + len := by
  induction passes generalizing start len with
  | zero => contradiction
  | succ passes ih =>
      rw [tagReads] at read
      by_cases more : len > 2
      · rw [if_pos more] at read
        simp only [List.mem_cons] at read
        obtain tag | length | read := read
        · omega
        · omega
        · by_cases here : memory start = tagvalue
          · rw [if_pos here] at read
            contradiction
          · rw [if_neg here] at read
            have later := ih read
            push_cast at later
            omega
      · rw [if_neg more] at read
        contradiction

/-! ## The memory while the texts are transformed -/

theorem bytesAt_transformAt (memory : Nat → UInt8) (tag len : Nat) :
    bytesAt (transformAt memory tag len) tag len = TransformText (bytesAt memory tag len) := by
  rw [bytesAt, bytesAt, TransformText, List.map_map]
  apply List.map_congr_left
  intro index member
  have below := List.mem_range.mp member
  have inside : tag ≤ tag + index ∧ tag + index < tag + len := by omega
  simp only [transformAt, Function.comp_apply, inside.1, inside.2, true_and]

theorem transformAt_outside {tag len index : Nat} (outside : index < tag ∨ tag + len ≤ index) :
    transformAt memory tag len index = memory index := by
  rw [transformAt, if_neg]
  omega

/-- The loop changes nothing in front of what it still looks at. -/
theorem searchTexts_before {cmd_ptr index : Nat} {cmd_len : Int} (before : index < cmd_ptr) (indices : List Nat) :
    (searchTexts memory cmd_ptr cmd_len indices).1 index = memory index := by
  induction indices generalizing memory cmd_ptr cmd_len with
  | nil => rfl
  | cons i rest ih =>
      rw [searchTexts]
      cases found : tagAt memory 0x50 cmd_len.toNat cmd_ptr cmd_len with
      | none => rfl
      | some text =>
          have behind := (tagAt_inside found).1
          dsimp only
          by_cases short : cmd_len < 2 + text.2
          · rw [if_pos short]
          · rw [if_neg short]
            have later (memory : Nat → UInt8) := @ih memory (cmd_ptr + 2 + text.2) (cmd_len - (2 + text.2)) (by omega)
            rw [later]
            split
            · exact transformAt_outside (.inl (by omega))
            · rfl

/-! ## The passes -/

theorem stands_append {front later : List DataObject} : Stands memory start (front ++ later) ↔
    Stands memory start front ∧ Stands memory (start + (DataObject.encodeAll front).length) later := by
  rw [Stands, DataObject.encodeAll_append, bytesAt_eq_append]
  rfl

/-- The objects behind a text stand there still when it has been transformed. -/
theorem Stands.behind {text : DataObject} (counts : Bool)
    (stands : Stands memory (start + 2 + text.value.length) rest) :
    Stands (if counts then transformAt memory (start + 2) text.value.length else memory)
      (start + 2 + text.value.length) rest := by
  cases counts with
  | false => exact stands
  | true =>
      rw [if_pos rfl, Stands, ← stands, length_bytesAt]
      apply bytesAt_same
      intro index from' _
      exact transformAt_outside (.inr from')

/-- A search in a field of objects: there is no text, the first object is the next one, or objects are skipped. -/
inductive Search (memory : Nat → UInt8) (start : Nat) (objects : List DataObject) : Option (Nat × Nat) → Prop where
  | ended (without : textObjects (visible objects) = []) : Search memory start objects none
  | here {text : DataObject} {rest : List DataObject} (split : objects = text :: rest) (tagged : text.tag = 0x50)
      (texts : textObjects (visible objects) = text :: textObjects (visible rest))
      (value : bytesAt memory (start + 2) text.value.length = text.value)
      (later : Stands memory (start + 2 + text.value.length) rest) :
      Search memory start objects (some (start + 2, text.value.length))
  | skipped {tag50 : Nat} {text : DataObject} {later : List DataObject} (starts : ¬ [text] <+: objects)
      (texts : textObjects (visible objects) = text :: later) (behind : start + 2 < tag50)
      (value : bytesAt memory tag50 text.value.length = text.value)
      (inside : tag50 + text.value.length ≤ start + (DataObject.encodeAll objects).length) :
      Search memory start objects (some (tag50, text.value.length))

theorem search_texts (stands : Stands memory start objects) : Search memory start objects
    (tagAt memory 0x50 ((DataObject.encodeAll objects).length : Int).toNat start (DataObject.encodeAll objects).length) := by
  rw [Int.toNat_natCast]
  obtain ⟨without, found⟩ | ⟨front, text, back, split, plain, tagged, found⟩ :=
    tagAt_texts (DataObject.length_le_encodeAll objects) stands
  · rw [found]
    exact .ended without
  · obtain ⟨hidden, whole, _⟩ := visible_append objects
    have texts : textObjects (visible objects) = text :: textObjects back := by
      rw [split, textObjects, List.filter_append, ← textObjects, plain, List.nil_append,
        List.filter_cons_of_pos (by rw [decide_eq_true_eq]; exact tagged), ← textObjects]
    rw [split, List.append_assoc, List.cons_append] at whole
    rw [found]
    cases front with
    | nil =>
        rw [List.nil_append] at whole
        rw [whole] at stands
        obtain ⟨_, _, value, later⟩ := stands_cons.mp stands
        have next : visible (back ++ hidden) = back := by
          rw [whole, visible, List.nil_append] at split
          split at split
          · contradiction
          · exact (List.cons.inj split).2
        apply Search.here whole tagged _ value later
        rw [texts, next]
    | cons head front =>
        rw [whole] at stands
        obtain ⟨_, text_stands⟩ := stands_append.mp stands
        obtain ⟨_, _, value, _⟩ := stands_cons.mp text_stands
        apply Search.skipped _ texts
        · rw [encodeAll_length_cons]
          omega
        · exact value
        · rw [whole, DataObject.encodeAll_append, List.length_append, encodeAll_length_cons text]
          omega
        · intro first
          rw [whole, List.cons_append, List.cons_prefix_cons] at first
          have other : head.tag ≠ 0x50 := by
            intro same
            rw [textObjects, List.filter_cons_of_pos (by rw [decide_eq_true_eq]; exact same)] at plain
            contradiction
          rw [← first.1] at other
          exact other tagged

theorem textPasses_some {cmd_ptr : Nat} {cmd_len : Int} {found : Nat × Nat} {i : Nat} {indices : List Nat}
    (search : tagAt memory 0x50 cmd_len.toNat cmd_ptr cmd_len = some found) (room : (2 + found.2 : Int) ≤ cmd_len) :
    textPasses memory cmd_ptr cmd_len (i :: indices) = ⟨i, memory, cmd_ptr, cmd_len⟩ ::
      textPasses (if decide (i = 0 ∨ i = 3 ∨ i = 4) then transformAt memory found.1 found.2 else memory)
        (cmd_ptr + 2 + found.2) (cmd_len - (2 + found.2)) indices := by
  rw [textPasses, search]
  dsimp only
  rw [if_neg (Int.not_lt.mpr room)]

theorem goesOn_nil : GoesOn [] := fun _ member => absurd member List.not_mem_nil

theorem goesOn_cons {pass : TextPass} {passes : List TextPass} : GoesOn (pass :: passes) ↔
    (pass.i < 4 → ∀ found, pass.found = some found → found.1 = pass.cmd_ptr + 2) ∧ GoesOn passes :=
  List.forall_mem_cons

/-- The loop goes on behind every object exactly where the texts are the first objects. -/
theorem goesOn_iff {k n : Nat} (upTo : k + n = 5) (stands : Stands memory start objects) :
    GoesOn (textPasses memory start (DataObject.encodeAll objects).length (List.range' k n)) ↔
      (textObjects (visible objects)).take (n - 1) <+: objects := by
  induction n generalizing k memory start objects with
  | zero => exact iff_of_true goesOn_nil List.nil_prefix
  | succ n ih =>
      rw [List.range'_succ, Nat.add_sub_cancel]
      have searched := search_texts stands
      generalize search : tagAt memory 0x50 ((DataObject.encodeAll objects).length : Int).toNat start
        (DataObject.encodeAll objects).length = found at searched
      cases searched with
      | ended without =>
          rw [without, List.take_nil, textPasses, search, goesOn_cons]
          refine iff_of_true ⟨?_, goesOn_nil⟩ List.nil_prefix
          intro _ found same
          rw [TextPass.found, search] at same
          contradiction
      | @here text rest split tagged texts value later =>
          have length := encodeAll_length_cons text rest
          rw [← split] at length
          rw [textPasses_some search (by dsimp only; omega), goesOn_cons, texts]
          have remaining : ((DataObject.encodeAll objects).length : Int) - (2 + text.value.length) =
              (DataObject.encodeAll rest).length := by
            omega
          have next := @ih _ _ rest (k + 1) (by omega) (later.behind (decide (k = 0 ∨ k = 3 ∨ k = 4)))
          rw [remaining, next, and_iff_right]
          · cases n with
            | zero => exact iff_of_true List.nil_prefix List.nil_prefix
            | succ n =>
                rw [List.take_succ_cons, Nat.add_sub_cancel, split, List.cons_prefix_cons, and_iff_right rfl]
          · intro _ found same
            rw [TextPass.found, search] at same
            cases same
            rfl
      | @skipped tag50 text later starts texts behind value inside =>
          rw [textPasses_some search (by dsimp only; omega), goesOn_cons, texts]
          cases n with
          | zero =>
              refine iff_of_true ⟨?_, goesOn_nil⟩ List.nil_prefix
              intro below
              dsimp only at below
              omega
          | succ n =>
              apply iff_of_false
              · intro goes
                have found := goes.1 (by dsimp only; omega) _ search
                dsimp only at found
                omega
              · intro first
                rw [List.take_succ_cons] at first
                exact starts (List.IsPrefix.trans ⟨_, rfl⟩ first)

/-! ## The texts found -/

/-- The texts of the passes that count theirs. -/
def chosen : List Nat → List DataObject → List DataObject
  | i :: indices, text :: later =>
      if i = 0 ∨ i = 3 ∨ i = 4 then text :: chosen indices later else chosen indices later
  | _, _ => []

theorem chosen_nil (indices : List Nat) : chosen indices [] = [] := by
  cases indices with
  | nil => rfl
  | cons i indices => rfl

theorem promptTexts_eq (objects : List DataObject) :
    promptTexts objects = chosen [0, 1, 2, 3, 4] (textObjects objects) := by
  rw [promptTexts]
  obtain _ | ⟨first, _ | ⟨second, _ | ⟨third, _ | ⟨fourth, _ | ⟨fifth, later⟩⟩⟩⟩⟩ := textObjects objects
  all_goals rfl

theorem searchTexts_some {cmd_ptr : Nat} {cmd_len : Int} {found : Nat × Nat} {i : Nat} {indices : List Nat}
    (search : tagAt memory 0x50 cmd_len.toNat cmd_ptr cmd_len = some found) (room : (2 + found.2 : Int) ≤ cmd_len) :
    searchTexts memory cmd_ptr cmd_len (i :: indices) =
      let later := searchTexts (if decide (i = 0 ∨ i = 3 ∨ i = 4) then transformAt memory found.1 found.2 else memory)
        (cmd_ptr + 2 + found.2) (cmd_len - (2 + found.2)) indices
      (later.1, if decide (i = 0 ∨ i = 3 ∨ i = 4) then found :: later.2 else later.2) := by
  rw [searchTexts, search]
  dsimp only
  rw [if_neg (Int.not_lt.mpr room)]

/-- A pass whose text ends inside reads nothing outside. -/
theorem TextPass.reads_inside {pass : TextPass} {index : Nat} (read : index ∈ pass.reads)
    (ends : ∀ found, pass.found = some found → ((found.1 + found.2 : Nat) : Int) ≤ pass.cmd_ptr + pass.cmd_len) :
    pass.cmd_ptr ≤ index ∧ (index : Int) < pass.cmd_ptr + pass.cmd_len := by
  rw [reads, List.mem_append] at read
  cases read with
  | inl searched => exact tagReads_inside searched
  | inr shown =>
      cases counted : pass.text with
      | none =>
          rw [counted] at shown
          contradiction
      | some text =>
          rw [counted, Option.elim, List.mem_range'_1] at shown
          have found := Option.eq_some_of_filter_eq_some counted
          have behind := (tagAt_inside found).1
          have last := ends text found
          omega

/-- The texts that are handed on. -/
def handed (memory : Nat → UInt8) (cmd_ptr : Nat) (cmd_len : Int) (indices : List Nat) : List (List UInt8) :=
  let searched := searchTexts memory cmd_ptr cmd_len indices
  searched.2.map fun text => bytesAt searched.1 text.1 text.2

/-- The passes hand on these texts, and read from `begins` to `ends`. -/
structure Found (begins ends : Nat) (memory : Nat → UInt8) (cmd_ptr : Nat) (cmd_len : Int) (indices : List Nat)
    (texts : List DataObject) : Prop where
  texts : handed memory cmd_ptr cmd_len indices = (chosen indices texts).map fun object => TransformText object.value
  inside : ∀ pass ∈ textPasses memory cmd_ptr cmd_len indices, ∀ index ∈ pass.reads, begins ≤ index ∧ index < ends

variable {begins ends cmd_ptr : Nat} {cmd_len : Int} {text : DataObject} {later : List DataObject} {i : Nat}
  {indices : List Nat}

theorem Found.ended (search : tagAt memory 0x50 cmd_len.toNat cmd_ptr cmd_len = none) (starts : begins ≤ cmd_ptr)
    (stops : (cmd_ptr : Int) + cmd_len ≤ ends) : Found begins ends memory cmd_ptr cmd_len (i :: indices) [] where
  texts := by
    rw [chosen_nil, handed, searchTexts, search]
    rfl
  inside := by
    rw [textPasses, search]
    intro pass member index read
    rw [List.mem_singleton] at member
    rw [member] at read
    have bounds := TextPass.reads_inside read (by
      intro found same
      rw [TextPass.found, search] at same
      contradiction)
    dsimp only at bounds
    omega

/-- A pass that comes upon a text, in front of the others. -/
theorem Found.some {tag50 : Nat}
    (search : tagAt memory 0x50 cmd_len.toNat cmd_ptr cmd_len = some (tag50, text.value.length))
    (value : bytesAt memory tag50 text.value.length = text.value) (starts : begins ≤ cmd_ptr)
    (stops : (cmd_ptr : Int) + cmd_len ≤ ends) (fits : ((tag50 + text.value.length : Nat) : Int) ≤ cmd_ptr + cmd_len)
    (last : tag50 = cmd_ptr + 2 ∨ indices = [])
    (behind : Found begins ends
      (if decide (i = 0 ∨ i = 3 ∨ i = 4) then transformAt memory tag50 text.value.length else memory)
      (cmd_ptr + 2 + text.value.length) (cmd_len - (2 + text.value.length)) indices later) :
    Found begins ends memory cmd_ptr cmd_len (i :: indices) (text :: later) := by
  have first := (tagAt_inside search).1
  have room : (2 + text.value.length : Int) ≤ cmd_len := by
    dsimp only at first
    omega
  have kept (memory' : Nat → UInt8) : bytesAt (searchTexts memory' (cmd_ptr + 2 + text.value.length)
      (cmd_len - (2 + text.value.length)) indices).1 tag50 text.value.length =
      bytesAt memory' tag50 text.value.length := by
    cases last with
    | inl here =>
        apply bytesAt_same
        intro index _ below
        exact searchTexts_before (by omega) indices
    | inr none =>
        rw [none]
        rfl
  have texts := behind.texts
  constructor
  · rw [handed, searchTexts_some search room, chosen]
    by_cases counts : i = 0 ∨ i = 3 ∨ i = 4
    · simp only [counts, decide_true, if_true, List.map_cons] at texts ⊢
      rw [kept, bytesAt_transformAt, value]
      exact congrArg _ texts
    · simp only [counts, decide_false, Bool.false_eq_true, if_false] at texts ⊢
      exact texts
  · rw [textPasses_some search room]
    intro pass member index read
    rw [List.mem_cons] at member
    cases member with
    | inl head =>
        rw [head] at read
        have bounds := TextPass.reads_inside read (by
          intro found same
          rw [TextPass.found, search] at same
          cases same
          exact fits)
        dsimp only at bounds
        omega
    | inr tail => exact behind.inside pass tail index read

theorem Found.nil (begins ends : Nat) (memory : Nat → UInt8) (cmd_ptr : Nat) (cmd_len : Int) (texts : List DataObject) :
    Found begins ends memory cmd_ptr cmd_len [] texts where
  texts := rfl
  inside _ member := absurd member List.not_mem_nil

/-- Where the texts are the first objects, they are found. -/
theorem found_of_front {k n : Nat} (upTo : k + n = 5) (stands : Stands memory start objects)
    (front : (textObjects (visible objects)).take (n - 1) <+: objects) (starts : begins ≤ start)
    (stops : start + (DataObject.encodeAll objects).length = ends) :
    Found begins ends memory start (DataObject.encodeAll objects).length (List.range' k n)
      (textObjects (visible objects)) := by
  induction n generalizing k memory start objects with
  | zero => exact Found.nil _ _ _ _ _ _
  | succ n ih =>
      rw [Nat.add_sub_cancel] at front
      rw [List.range'_succ]
      have searched := search_texts stands
      generalize search : tagAt memory 0x50 ((DataObject.encodeAll objects).length : Int).toNat start
        (DataObject.encodeAll objects).length = found at searched
      cases searched with
      | ended without =>
          rw [without]
          exact Found.ended search starts (by omega)
      | @here text rest split tagged texts value later =>
          have length := encodeAll_length_cons text rest
          rw [← split] at length
          have remaining : ((DataObject.encodeAll objects).length : Int) - (2 + text.value.length) =
              (DataObject.encodeAll rest).length := by
            omega
          have next : (textObjects (visible rest)).take (n - 1) <+: rest := by
            cases n with
            | zero => exact List.nil_prefix
            | succ n =>
                rw [texts, List.take_succ_cons, split, List.cons_prefix_cons] at front
                exact front.2
          have others := @ih _ _ rest (k + 1) (by omega) (later.behind (decide (k = 0 ∨ k = 3 ∨ k = 4))) next
            (by omega) (by omega)
          rw [← remaining] at others
          rw [texts]
          exact Found.some search value starts (by omega) (by omega) (.inl rfl) others
      | @skipped tag50 text later starts' texts behind value inside =>
          cases n with
          | zero =>
              rw [texts]
              exact Found.some search value starts (by omega) (by omega) (.inr rfl) (Found.nil _ _ _ _ _ _)
          | succ n =>
              rw [texts, List.take_succ_cons] at front
              exact absurd (List.IsPrefix.trans ⟨_, rfl⟩ front) starts'

/-! ## The command -/

/-- The texts shown are those that can be found, unless one of them is hidden. -/
theorem promptTexts_visible_iff {value : DataObject → List UInt8} :
    (promptTexts (visible objects)).map value = (promptTexts objects).map value ↔ TextsVisible objects := by
  obtain ⟨hidden, whole, ⟨none, filled⟩ | ⟨last, one, empty⟩⟩ := visible_append objects
  · rw [none, List.append_nil] at whole
    rw [← whole]
    exact iff_of_true rfl fun last ends _ empty => absurd empty (filled last ends)
  · rw [one] at whole
    have ends : objects.getLast? = some last := by
      rw [whole, List.getLast?_concat]
    have split : textObjects objects = textObjects (visible objects) ++ textObjects [last] :=
      (congrArg textObjects whole).trans (List.filter_append _ _)
    rw [promptTexts, promptTexts, TextsVisible, ends, split]
    by_cases tagged : last.tag = 0x50
    · have shown : textObjects [last] = [last] := List.filter_cons_of_pos (by rw [decide_eq_true_eq]; exact tagged)
      have counted : (∀ other, some last = some other → other.tag = 0x50 → other.value = [] →
          (textObjects (visible objects) ++ [last]).length ≠ 1 ∧ (textObjects (visible objects) ++ [last]).length ≠ 4 ∧
            (textObjects (visible objects) ++ [last]).length ≠ 5) ↔
          (textObjects (visible objects)).length ≠ 0 ∧ (textObjects (visible objects)).length ≠ 3 ∧
            (textObjects (visible objects)).length ≠ 4 := by
        rw [List.length_append, List.length_singleton]
        constructor
        · intro all
          have those := all last rfl tagged empty
          omega
        · intro those other _ _ _
          omega
      rw [shown, counted]
      obtain _ | ⟨first, _ | ⟨second, _ | ⟨third, _ | ⟨fourth, _ | ⟨fifth, later⟩⟩⟩⟩⟩ := textObjects (visible objects)
      · exact iff_of_false nofun fun those => those.1 rfl
      · exact iff_of_true rfl ⟨nofun, nofun, nofun⟩
      · exact iff_of_true rfl ⟨nofun, nofun, nofun⟩
      · exact iff_of_false (fun same => nomatch (List.cons.inj same).2) fun those => those.2.1 rfl
      · exact iff_of_false (fun same => nomatch (List.cons.inj (List.cons.inj same).2).2) fun those => those.2.2 rfl
      · refine iff_of_true rfl ⟨nofun, ?_, ?_⟩
        · simp only [List.length_cons]
          omega
        · simp only [List.length_cons]
          omega
    · have plain : textObjects [last] = [] := List.filter_cons_of_neg (by rw [decide_eq_true_eq]; exact tagged)
      rw [plain, List.append_nil]
      refine iff_of_true rfl ?_
      intro other same tagged'
      cases same
      exact absurd tagged' tagged

theorem modifyCommand_texts {stack : Stack} {cmd : Nat → UInt8} {lengths : Lengths}
    {timeout control first second : UInt8} {apdu : List UInt8} {arguments : ModifyArguments}
    (called : modifyCommand stack cmd lengths timeout control first second apdu = .secureMV arguments) :
    arguments.Text = handed cmd (lengths.data_ptr.getD 0) lengths.Lc [0, 1, 2, 3, 4] := by
  simp only [modifyCommand] at called
  split at called
  · contradiction
  · split at called
    · contradiction
    · split at called
      · contradiction
      · split at called
        · cases called
          rfl
        · split at called
          · cases called
            rfl
          · split at called
            · split at called
              · contradiction
              · cases called
                rfl
            · contradiction

theorem modifyVerification_texts {CheckUpdate : Bool} {stack : Stack} {cmd : Nat → UInt8} {lengths : Lengths}
    {arguments : ModifyArguments} (called : modifyVerification CheckUpdate stack cmd lengths = .secureMV arguments) :
    arguments.Text = handed cmd (lengths.data_ptr.getD 0) lengths.Lc [0, 1, 2, 3, 4] := by
  simp only [modifyVerification] at called
  split at called
  · contradiction
  · split at called
    · contradiction
    · split at called
      · contradiction
      · split at called
        · contradiction
        · split at called
          · exact modifyCommand_texts called
          · contradiction

/-- The texts of the call are right, and the loop gets to them by going on behind every object it finds, exactly
where the texts stand in front of the other objects and none to be shown is hidden. -/
theorem modify_texts_right_iff {CheckUpdate : Bool} {stack : Stack} {cmd : Nat → UInt8} {lengths : Lengths}
    {data_ptr : Nat} {objects : List DataObject} {arguments : ModifyArguments}
    (field : FieldOf cmd lengths data_ptr objects)
    (called : modifyVerification CheckUpdate stack cmd lengths = .secureMV arguments) :
    (TextsRight cmd lengths data_ptr objects arguments.Text ∧ GoesOn (commandPasses cmd lengths)) ↔
      (TextsInFront objects ∧ TextsVisible objects) := by
  have begins : lengths.data_ptr.getD 0 = data_ptr := by
    rw [field.begins, Option.getD_some]
  have passes : commandPasses cmd lengths =
      textPasses cmd data_ptr (DataObject.encodeAll objects).length (List.range' 0 5) := by
    rw [commandPasses, begins, field.counted]
    rfl
  have texts : arguments.Text =
      handed cmd data_ptr (DataObject.encodeAll objects).length (List.range' 0 5) := by
    rw [modifyVerification_texts called, begins, field.counted]
    rfl
  have goes : GoesOn (commandPasses cmd lengths) ↔ TextsInFront objects := by
    rw [passes]
    exact goesOn_iff rfl field.stands
  rw [goes, and_comm, and_congr_right_iff]
  intro front
  have found := @found_of_front cmd data_ptr objects data_ptr _ 0 5 rfl field.stands front (Nat.le_refl _) rfl
  have shown : arguments.Text =
      (promptTexts (visible objects)).map fun object => TransformText object.value := by
    rw [texts, found.texts, promptTexts_eq]
    rfl
  rw [← promptTexts_visible_iff, ← shown]
  constructor
  · intro right
    exact right.texts
  · intro same
    constructor
    · exact same
    · rw [passes]
      exact found.inside

def objectOf (tag : UInt8) (value : List UInt8) (bounded : value.length < 256) : DataObject := ⟨tag, value, bounded⟩

/-- A PIN of four ASCII digits that replaces itself. -/
def template52 : DataObject := objectOf 0x52 [0x41, 0x06, 0x06, 0x00, 0x24, 0x00, 0x81] (by decide)

def character (byte : UInt8) : DataObject := objectOf 0x50 [byte] (Nat.le_of_ble_eq_true rfl)

def modifyOf (objects : List DataObject) : Nat → UInt8 :=
  inMemory ([0x20, 0x19, 0x01, 0x00, UInt8.ofNat (DataObject.encodeAll objects).length] ++ DataObject.encodeAll objects)

def modifyLengths (objects : List DataObject) : Lengths := ⟨(DataObject.encodeAll objects).length, some 5, -1⟩

def oneText : List DataObject := [character 0x41, template52]

theorem oneText_right :
    ∃ arguments, modifyVerification false emptyStack (modifyOf oneText) (modifyLengths oneText) = .secureMV arguments ∧
      TextsRight (modifyOf oneText) (modifyLengths oneText) 5 oneText arguments.Text ∧
        GoesOn (commandPasses (modifyOf oneText) (modifyLengths oneText)) := by
  have stands : Stands (modifyOf oneText) 5 oneText := by
    rw [Stands]
    decide
  refine ⟨_, rfl, (@modify_texts_right_iff false _ _ _ _ _ _ ⟨rfl, rfl, stands⟩ rfl).mpr ?_⟩
  have visible : TextsVisible oneText := by
    intro last same tagged _
    cases same
    exact absurd tagged (by decide)
  exact ⟨⟨[template52], rfl⟩, visible⟩

/-- The fourth text behind another object is shown twice. -/
def timedTexts : List DataObject :=
  [character 0x41, character 0x42, character 0x43, objectOf 0x80 [0x0f] (by decide), character 0x44, template52]

/-- An empty fourth text, and an object in front of it that looks like a text of 13 bytes. -/
def disguisedText : List DataObject :=
  [character 0x41, character 0x42, character 0x43, objectOf 0x82 [0x00, 0x00, 0x50, 0x0d] (by decide),
    objectOf 0x50 [] (by decide), template52]

theorem modify_texts_not_right :
    (∃ arguments, modifyVerification false emptyStack (modifyOf timedTexts) (modifyLengths timedTexts) =
        .secureMV arguments ∧ arguments.Text = [[0x41], [0x44], [0x44]] ∧
        ¬ TextsRight (modifyOf timedTexts) (modifyLengths timedTexts) 5 timedTexts arguments.Text) ∧
      ∃ arguments, modifyVerification false emptyStack (modifyOf disguisedText) (modifyLengths disguisedText) =
        .secureMV arguments ∧ (commandPasses (modifyOf disguisedText) (modifyLengths disguisedText)).filterMap
          TextPass.text = [(7, 1), (22, 0), (20, 13)] ∧
        ¬ TextsRight (modifyOf disguisedText) (modifyLengths disguisedText) 5 disguisedText arguments.Text := by
  refine ⟨⟨_, rfl, by decide, ?_⟩, ⟨_, rfl, by decide, ?_⟩⟩
  · intro right
    exact absurd right.texts (by decide)
  · intro right
    exact absurd right.texts (by decide)

end Cyberjack.Eca
