import Cyberjack.Eca.ConfigFile

namespace Cyberjack.Eca

open Cyberjack.Foundation

/-! # The configuration that is written and read back

What is read is cut at blanks, at a number sign and where the line buffer is full.
-/

/-- A byte that is neither taken for the end of a value nor for the end of the line. -/
def Plain (c : UInt8) : Prop := c ≠ 0 ∧ c ≠ numberSign ∧ isspace c = false

instance (c : UInt8) : Decidable (Plain c) := inferInstanceAs (Decidable (_ ∧ _))

/-- A value of at most `room` bytes. -/
structure ValueText (room : Nat) (value : List UInt8) : Prop where
  filled : value ≠ []
  plain : ∀ c ∈ value, Plain c
  fits : value.length ≤ room

/-- A name that is not taken for the heading of a group, or for a shorter name. -/
structure NameText (name : List UInt8) : Prop where
  plain : ∀ c ∈ name, Plain c ∧ c ≠ equalsSign
  noHeading : name.head? ≠ some openBracket

/-- A variable on one line. -/
structure VarText (entry : List UInt8 × List UInt8) : Prop where
  name : NameText entry.1
  value : ValueText (lbufRoom - 1 - entry.1.length) entry.2
  fits : entry.1.length + 1 ≤ lbufRoom

/-- Every name and value that is there can stand on a line. -/
structure Held (cfg : CYBERJACK_CONFIG) : Prop where
  debugFile : cfg.debugFile = [] ∨ ValueText (lbufRoom - 1 - debugFileName.length) cfg.debugFile
  serialFile : cfg.serialFile = [] ∨ ValueText (lbufRoom - 1 - serialFileName.length) cfg.serialFile
  vars : ∀ entry ∈ cfg.vars.entries, VarText entry

/-- A configuration that a file is read into; `initialConfig` is one. -/
structure Fresh (start : CYBERJACK_CONFIG) : Prop where
  held : Held start
  vars : start.vars = .empty

/-- The file can hold every part, and no part is left out. -/
structure Restorable (LONG_MAX : Nat) (start cfg : CYBERJACK_CONFIG) : Prop where
  held : Held cfg
  flags : cfg.flags.toNat ≤ LONG_MAX
  debugFile : cfg.debugFile = [] → start.debugFile = []
  serialFile : cfg.serialFile = [] → start.serialFile = []
  names : ∀ entry ∈ cfg.vars.entries, entry.1 ≠ []

/-- The configuration is written, and the file read back. -/
def Restored (LONG_MAX : Nat) (start cfg : CYBERJACK_CONFIG) (file : File) : Prop :=
  ∃ bytes, config_write_file .closed file cfg = (some bytes, 0) ∧
    readConfig LONG_MAX ⟨bytes, false⟩ start = (0, cfg)

/-! ## Lines in the order they are read -/

section Reading

variable {LONG_MAX : Nat} {reader : Reader}

/-- The lines of a text that is read as a whole. -/
def Reader.absorb (LONG_MAX : Nat) (reader : Reader) (text : List UInt8) : Reader :=
  (lines newline 254 text).foldl (fun reader lbuf => reader.take LONG_MAX (lineOf (chopped lbuf))) reader

theorem readLoop_whole (text : List UInt8) :
    readLoop LONG_MAX ⟨text, false⟩ reader = (0, reader.absorb LONG_MAX text) := by
  unfold Reader.absorb
  induction text using lines.induct newline 254 generalizing reader with
  | case1 =>
      rw [readLoop, lines]
      rfl
  | case2 byte bytes ih =>
      rw [readLoop, fgets_whole, lines]
      simp only [lbufRoom, ih, List.foldl_cons]

theorem absorb_nil : reader.absorb LONG_MAX [] = reader := by
  rw [Reader.absorb, lines]
  rfl

theorem absorb_append {front : List UInt8} (ended : Ended newline front) (back : List UInt8) :
    reader.absorb LONG_MAX (front ++ back) = (reader.absorb LONG_MAX front).absorb LONG_MAX back := by
  unfold Reader.absorb
  rw [lines_append 254 ended, List.foldl_append]

/-- A text whose end is not taken for the end of the line. -/
structure LineText (text : List UInt8) : Prop where
  string : 0 ∉ text
  inLine : newline ∉ text
  noReturn : carriageReturn ∉ text

theorem chopped_text {text : List UInt8} (line : LineText text) : chopped text = text := by
  have whole : text.takeWhile (· ≠ 0) = text := by
    rw [List.takeWhile_eq_self_iff]
    exact fun c member => decide_eq_true fun zero => line.string (zero ▸ member)
  unfold chopped
  rw [whole, if_neg]
  rintro (last | last)
  · exact line.inLine (List.mem_of_getLast? last)
  · exact line.noReturn (List.mem_of_getLast? last)

theorem chopped_newline {text : List UInt8} (string : 0 ∉ text) : chopped (text ++ [newline]) = text := by
  have whole : (text ++ [newline]).takeWhile (· ≠ 0) = text ++ [newline] := by
    rw [List.takeWhile_eq_self_iff]
    intro c member
    rcases List.mem_append.mp member with inside | last
    · exact decide_eq_true fun zero => string (zero ▸ inside)
    · rw [List.mem_singleton.mp last]
      rfl
  unfold chopped
  rw [whole, if_pos (by simp), List.dropLast_concat]

/-- A text that fits is one line, also where its newline does not. -/
theorem absorb_line {text : List UInt8} (line : LineText text) (fits : text.length ≤ lbufRoom) :
    reader.absorb LONG_MAX (text ++ [newline]) = reader.take LONG_MAX (lineOf text) := by
  unfold Reader.absorb
  by_cases full : text.length = lbufRoom
  · rw [lines_full line.inLine full]
    simp only [List.foldl_cons, List.foldl_nil, chopped_text line]
    rfl
  · have room : text.length ≤ 254 := by
      change text.length ≤ 255 at fits
      change ¬ text.length = 255 at full
      omega
    rw [lines_entry line.inLine room]
    simp only [List.foldl_cons, List.foldl_nil, chopped_newline line.string]

end Reading

/-! ## A name and its value -/

theorem plain_line {text : List UInt8} (plain : ∀ c ∈ text, Plain c) : LineText text := by
  constructor
  · exact fun member => (plain _ member).1 rfl
  · exact fun member => absurd (plain _ member).2.2 (by decide)
  · exact fun member => absurd (plain _ member).2.2 (by decide)

theorem pairText_plain {room : Nat} {name value : List UInt8} (named : NameText name) (text : ValueText room value) :
    ∀ c ∈ pairText name value, Plain c := by
  intro c member
  rcases List.mem_append.mp member with inName | behind
  · exact (named.plain c inName).1
  · cases behind with
    | head => decide
    | tail _ inValue => exact text.plain c inValue

theorem dropWhile_head {α : Type} {p : α → Bool} {first : α} {rest : List α} (stays : p first = false) :
    (first :: rest).dropWhile p = first :: rest := by
  rw [List.dropWhile_cons, stays]
  rfl

theorem lineOf_pair {room : Nat} {name value : List UInt8} (named : NameText name) (filled : name ≠ [])
    (text : ValueText room value) : lineOf (pairText name value) = .pair name value := by
  have uncommented : (pairText name value).takeWhile (· ≠ numberSign) = pairText name value := by
    rw [List.takeWhile_eq_self_iff]
    exact fun c member => decide_eq_true (pairText_plain named text c member).2.1
  have inName : ∀ c ∈ name, nameByte c = true := by
    intro c member
    obtain ⟨⟨_, _, visible⟩, other⟩ := named.plain c member
    simp [nameByte, visible, other]
  have taken : (pairText name value).takeWhile nameByte = name := by
    rw [pairText, List.takeWhile_append_of_pos inName]
    exact List.append_nil name
  have dropped : (pairText name value).dropWhile nameByte = equalsSign :: value := by
    rw [pairText, List.dropWhile_append_of_pos inName]
    exact dropWhile_head (by decide)
  have unspaced : ∀ c ∈ value, isspace c = false := fun c member => (text.plain c member).2.2
  have valueTaken : value.takeWhile (fun c => !isspace c) = value := by
    rw [List.takeWhile_eq_self_iff]
    exact fun c member => by simp [unspaced c member]
  have assigned : assignment (pairText name value) = .pair name value := by
    unfold assignment
    rw [dropped, dropWhile_head (by decide), taken]
    cases value with
    | nil => exact absurd rfl text.filled
    | cons first rest => simp [dropWhile_head (unspaced first List.mem_cons_self), valueTaken]
  unfold lineOf
  rw [uncommented]
  cases name with
  | nil => contradiction
  | cons first rest =>
      have noHeading : first ≠ openBracket := fun same => named.noHeading (by rw [same]; rfl)
      rw [pairText, List.cons_append, dropWhile_head (named.plain first List.mem_cons_self).1.2.2]
      simp only [if_neg noHeading]
      exact assigned

theorem absorb_pair {LONG_MAX room : Nat} {reader : Reader} {name value : List UInt8} (named : NameText name)
    (filled : name ≠ []) (text : ValueText room value) (fits : name.length + 1 + value.length ≤ lbufRoom) :
    reader.absorb LONG_MAX (pairText name value ++ [newline]) =
      { reader with cfg := reader.cfg.assign LONG_MAX reader.currentGroup name value } := by
  have size : (pairText name value).length ≤ lbufRoom := by
    rw [pairText, List.length_append, List.length_cons]
    omega
  rw [absorb_line (plain_line (pairText_plain named text)) size, lineOf_pair named filled text]
  rfl

/-! ## What is read can be held -/

theorem mem_dropWhile {α : Type} {p : α → Bool} {items : List α} {item : α} (member : item ∈ items.dropWhile p) :
    item ∈ items := (List.dropWhile_sublist p).subset member

theorem assignment_texts {p varName value : List UInt8} (string : 0 ∉ p) (uncommented : numberSign ∉ p)
    (noHeading : p.head? ≠ some openBracket) (read : assignment p = .pair varName value) :
    NameText varName ∧ ValueText (p.length - 1 - varName.length) value ∧ varName.length + 1 ≤ p.length := by
  unfold assignment at read
  cases behind : (p.dropWhile nameByte).dropWhile isspace with
  | nil => simp [behind] at read
  | cons sign rest =>
      simp only [behind] at read
      split at read
      · contradiction
      · cases valued : rest.dropWhile isspace with
        | nil => simp [valued] at read
        | cons first more =>
            simp only [valued, Line.pair.injEq] at read
            obtain ⟨rfl, rfl⟩ := read
            have fromRest : ∀ c ∈ first :: more, c ∈ p := by
              intro c member
              rw [← valued] at member
              exact mem_dropWhile (mem_dropWhile (behind ▸ List.mem_cons_of_mem _ (mem_dropWhile member)))
            have firstVisible : isspace first = false := by
              have stopped := List.head_dropWhile_not isspace (l := rest) (by rw [valued]; exact List.cons_ne_nil _ _)
              simpa [valued] using stopped
            have sizes : (p.takeWhile nameByte).length + 1 + (first :: more).length ≤ p.length := by
              have whole := congrArg List.length (@List.takeWhile_append_dropWhile _ nameByte p)
              have shorter := (List.dropWhile_sublist isspace (l := p.dropWhile nameByte)).length_le
              have shorterRest := (List.dropWhile_sublist isspace (l := rest)).length_le
              rw [List.length_append] at whole
              rw [behind, List.length_cons] at shorter
              rw [valued] at shorterRest
              omega
            have valueSize := (List.takeWhile_sublist (fun c => !isspace c) (l := first :: more)).length_le
            refine ⟨⟨?_, ?_⟩, ⟨?_, ?_, ?_⟩, by omega⟩
            · intro c member
              have inP := (List.takeWhile_sublist nameByte).subset member
              have allowed := List.mem_takeWhile_imp member
              simp only [nameByte, Bool.and_eq_true, Bool.not_eq_true', decide_eq_true_eq] at allowed
              exact ⟨⟨fun zero => string (zero ▸ inP), fun sign => uncommented (sign ▸ inP), allowed.1⟩, allowed.2⟩
            · intro heading
              apply noHeading
              cases p with
              | nil => simp at heading
              | cons byte bytes =>
                  rw [List.takeWhile_cons] at heading
                  split at heading
                  · exact heading
                  · simp at heading
            · simp [firstVisible]
            · intro c member
              have inP := fromRest c ((List.takeWhile_sublist _).subset member)
              have visible := List.mem_takeWhile_imp member
              exact ⟨fun zero => string (zero ▸ inP), fun sign => uncommented (sign ▸ inP), by simpa using visible⟩
            · omega

theorem ValueText.mono {room more : Nat} {value : List UInt8} (text : ValueText room value) (wider : room ≤ more) :
    ValueText more value := ⟨text.filled, text.plain, text.fits.trans wider⟩

theorem chopped_mem {lbuf : List UInt8} : 0 ∉ chopped lbuf ∧ (chopped lbuf).length ≤ lbuf.length := by
  have string : 0 ∉ lbuf.takeWhile (· ≠ 0) := by
    intro member
    simpa using List.mem_takeWhile_imp member
  have shorter := (List.takeWhile_sublist (· ≠ 0) (l := lbuf)).length_le
  unfold chopped
  dsimp only
  split
  · constructor
    · exact fun member => string ((List.dropLast_sublist _).subset member)
    · rw [List.length_dropLast]
      omega
  · exact ⟨string, shorter⟩

theorem lineOf_texts {text varName value : List UInt8} (string : 0 ∉ text) (fits : text.length ≤ lbufRoom)
    (read : lineOf text = .pair varName value) :
    NameText varName ∧ ValueText (lbufRoom - 1 - varName.length) value ∧ varName.length + 1 ≤ lbufRoom := by
  have fromText : ∀ c ∈ (text.takeWhile (· ≠ numberSign)).dropWhile isspace,
      c ∈ text.takeWhile (· ≠ numberSign) := fun c member => mem_dropWhile member
  have shorter : ((text.takeWhile (· ≠ numberSign)).dropWhile isspace).length ≤ text.length :=
    (List.dropWhile_sublist isspace).length_le.trans (List.takeWhile_sublist _).length_le
  unfold lineOf at read
  generalize (text.takeWhile (· ≠ numberSign)).dropWhile isspace = p at read fromText shorter
  cases p with
  | nil => contradiction
  | cons first rest =>
      dsimp only at read
      split at read
      · contradiction
      · case isFalse noHeading =>
          have noZero : 0 ∉ first :: rest := fun member => string ((List.takeWhile_sublist _).subset (fromText 0 member))
          have uncommented : numberSign ∉ first :: rest := by
            intro member
            simpa using List.mem_takeWhile_imp (fromText numberSign member)
          obtain ⟨named, valued, room⟩ :=
            assignment_texts noZero uncommented (fun heading => noHeading (Option.some.inj heading)) read
          exact ⟨named, valued.mono (by omega), by omega⟩

theorem length_of_strcasecmp {first second : List UInt8} (same : strcasecmp first second = true) :
    first.length = second.length := by
  have lengths := congrArg List.length (of_decide_eq_true same)
  simpa using lengths

section Holding

variable {LONG_MAX : Nat}

theorem held_assign {cfg : CYBERJACK_CONFIG} (held : Held cfg) (group : Group) {varName value : List UInt8}
    (named : NameText varName) (valued : ValueText (lbufRoom - 1 - varName.length) value)
    (fits : varName.length + 1 ≤ lbufRoom) : Held (cfg.assign LONG_MAX group varName value) := by
  cases group with
  | generic =>
      unfold CYBERJACK_CONFIG.assign
      dsimp only
      split
      · split
        · exact ⟨held.debugFile, held.serialFile, held.vars⟩
        · exact held
      · split
        · case isTrue same =>
            rw [length_of_strcasecmp same] at valued
            exact ⟨.inr valued, held.serialFile, held.vars⟩
        · split
          · case isTrue same =>
              rw [length_of_strcasecmp same] at valued
              exact ⟨held.debugFile, .inr valued, held.vars⟩
          · exact held
  | vars =>
      refine ⟨held.debugFile, held.serialFile, ?_⟩
      intro entry member
      cases OrderedMap.mem_insertEntry member with
      | inl new =>
          rw [new]
          exact ⟨named, valued, fits⟩
      | inr old => exact held.vars entry old
  | unknown => exact held

theorem held_take {reader : Reader} (held : Held reader.cfg) {lbuf : List UInt8} (room : lbuf.length ≤ lbufRoom) :
    Held (reader.take LONG_MAX (lineOf (chopped lbuf))).cfg := by
  obtain ⟨string, shorter⟩ := @chopped_mem lbuf
  cases read : lineOf (chopped lbuf) with
  | nothing => exact held
  | group group => exact held
  | pair varName value =>
      obtain ⟨named, valued, fits⟩ := lineOf_texts string (shorter.trans room) read
      exact held_assign held reader.currentGroup named valued fits

theorem held_absorb {reader : Reader} (held : Held reader.cfg) (text : List UInt8) :
    Held (reader.absorb LONG_MAX text).cfg := by
  have room : ∀ lbuf ∈ lines newline 254 text, lbuf.length ≤ lbufRoom := fun lbuf member => lines_length_le member
  unfold Reader.absorb
  generalize lines newline 254 text = rows at room
  induction rows generalizing reader with
  | nil => exact held
  | cons lbuf rest ih =>
      exact ih (held_take held (room lbuf List.mem_cons_self)) fun row member => room row (List.mem_cons_of_mem _ member)

end Holding

/-! ## The flags -/

theorem hexDigit_read (digit : Fin 16) : digit? (hexDigit digit) = some digit.val := by
  revert digit
  decide

theorem hexDigit_plain (digit : Fin 16) : Plain (hexDigit digit) := by
  revert digit
  decide

theorem digits_hex (numbers : List Nat) (below : ∀ number ∈ numbers, number < 16) :
    digits 16 (numbers.map hexDigit) = numbers := by
  induction numbers with
  | nil => rfl
  | cons number rest ih =>
      have small := below number List.mem_cons_self
      have read : digit? (hexDigit number) = some number := hexDigit_read ⟨number, small⟩
      rw [List.map_cons, digits, read]
      simp only [if_pos small, ih fun digit member => below digit (List.mem_cons_of_mem _ member)]

def hexPlaces (n : UInt32) : List Nat := [7, 6, 5, 4, 3, 2, 1, 0].map fun place => n.toNat / 16 ^ place % 16

theorem hexPlaces_below (n : UInt32) : ∀ number ∈ hexPlaces n, number < 16 := by
  intro number member
  obtain ⟨place, _, rfl⟩ := List.mem_map.mp member
  exact Nat.mod_lt _ (by decide)

theorem places_number (n start : Nat) (places : Nat) :
    (List.range places).reverse.foldl (fun number place => number * 16 + n / 16 ^ place % 16) start =
      start * 16 ^ places + n % 16 ^ places := by
  induction places generalizing start with
  | zero => simp [Nat.mod_one]
  | succ places ih =>
      rw [List.range_succ, List.reverse_concat, List.foldl_cons, ih, Nat.mod_pow_succ, Nat.pow_succ, Nat.add_mul,
        Nat.mul_assoc, Nat.mul_comm 16, Nat.add_assoc, Nat.mul_comm (n / 16 ^ places % 16),
        Nat.add_comm (n % 16 ^ places)]

theorem hexPlaces_number (n : UInt32) : (hexPlaces n).foldl (fun number digit => number * 16 + digit) 0 = n.toNat := by
  have order : [7, 6, 5, 4, 3, 2, 1, 0] = (List.range 8).reverse := rfl
  rw [hexPlaces, List.foldl_map, order, places_number, Nat.zero_mul, Nat.zero_add]
  exact Nat.mod_eq_of_lt n.toNat_lt

theorem hex8_places (n : UInt32) : hex8 n = (hexPlaces n).map hexDigit := by
  simp [hex8, hexPlaces]

theorem flags_text (n : UInt32) : ValueText 10 (0x30 :: 0x78 :: hex8 n) := by
  constructor
  · exact List.cons_ne_nil _ _
  · intro c member
    rcases List.mem_cons.mp member with rfl | behind
    · decide
    · rcases List.mem_cons.mp behind with rfl | inDigits
      · decide
      · rw [hex8_places] at inDigits
        obtain ⟨number, place, rfl⟩ := List.mem_map.mp inDigits
        exact hexDigit_plain ⟨number, hexPlaces_below n number place⟩
  · simp [hex8]

/-- A `long` may be too short for the flags. -/
theorem scanInt_hex (LONG_MAX : Nat) (n : UInt32) :
    scanInt LONG_MAX (0x30 :: 0x78 :: hex8 n) = some (UInt32.ofNat (min n.toNat LONG_MAX)) := by
  have found : digits 16 (hex8 n) = hexPlaces n := by rw [hex8_places, digits_hex _ (hexPlaces_below n)]
  have based : baseOf (0x30 :: 0x78 :: hex8 n) = (16, hex8 n) := rfl
  have bound := n.toNat_lt
  have small : uint32 ((min n.toNat LONG_MAX : Nat) : Int) = min n.toNat LONG_MAX := uint32_of_range (by omega)
  have numbered := hexPlaces_number n
  unfold scanInt
  simp only [List.head?_cons, List.tail_cons, Option.some.injEq]
  rw [if_neg (by decide), based, found]
  cases places : hexPlaces n with
  | nil => simp [hexPlaces] at places
  | cons first rest =>
      rw [places] at numbered
      simp only [numbered]
      rw [if_neg (by decide), small]

/-- The flags that are read back. -/
def readFlags (LONG_MAX : Nat) (cfg : CYBERJACK_CONFIG) : UInt32 := UInt32.ofNat (min cfg.flags.toNat LONG_MAX)

theorem readFlags_same {LONG_MAX : Nat} {cfg : CYBERJACK_CONFIG} :
    readFlags LONG_MAX cfg = cfg.flags ↔ cfg.flags.toNat ≤ LONG_MAX := by
  have bound := cfg.flags.toNat_lt
  unfold readFlags
  constructor
  · intro same
    have numbers := congrArg UInt32.toNat same
    rw [UInt32.toNat_ofNat'] at numbers
    omega
  · intro fits
    rw [Nat.min_eq_left fits, UInt32.ofNat_toNat]

/-! ## What is written is read back -/

theorem c_str_text {text : List UInt8} (plain : ∀ c ∈ text, Plain c) : c_str text = text := by
  rw [c_str, List.takeWhile_eq_self_iff]
  exact fun c member => decide_eq_true (plain c member).1

/-- The variables that are written. -/
def writtenVars (entries : List (List UInt8 × List UInt8)) : List (List UInt8 × List UInt8) :=
  entries.filter fun entry => decide (entry.1 ≠ [] ∧ entry.2 ≠ [])

/-- With the variables inserted one after the other. -/
def Reader.insertAll (reader : Reader) (entries : List (List UInt8 × List UInt8)) : Reader :=
  { reader with
    cfg := { reader.cfg with vars := entries.foldl (fun vars entry => vars.insert entry.1 entry.2) reader.cfg.vars } }

section Writing

variable {LONG_MAX : Nat} {reader : Reader}

theorem absorb_file {name file : List UInt8} (named : NameText name) (filled : name ≠ []) (fits : name.length + 1 ≤ lbufRoom)
    (text : file = [] ∨ ValueText (lbufRoom - 1 - name.length) file) (generic : reader.currentGroup = .generic) :
    reader.absorb LONG_MAX (fileLine name file) =
        { reader with cfg := if file = [] then reader.cfg else reader.cfg.assign LONG_MAX .generic name file } ∧
      Ended newline (fileLine name file) := by
  unfold fileLine
  by_cases none : file = []
  · rw [if_neg (not_not.mpr none), if_pos none]
    exact ⟨absorb_nil, .inl rfl⟩
  · have valued := text.resolve_left none
    rw [if_pos none, if_neg none, c_str_text valued.plain]
    constructor
    · have room := valued.fits
      rw [absorb_pair named filled valued (by omega), generic]
    · exact ended_snoc _

theorem flagsName_text : NameText flagsName := ⟨by decide, by decide⟩

theorem debugFileName_text : NameText debugFileName := ⟨by decide, by decide⟩

theorem serialFileName_text : NameText serialFileName := ⟨by decide, by decide⟩

theorem absorb_debugFile {file : List UInt8}
    (text : file = [] ∨ ValueText (lbufRoom - 1 - debugFileName.length) file) (generic : reader.currentGroup = .generic) :
    reader.absorb LONG_MAX (fileLine debugFileName file) =
        { reader with cfg := { reader.cfg with debugFile := if file = [] then reader.cfg.debugFile else file } } ∧
      Ended newline (fileLine debugFileName file) := by
  obtain ⟨taken, ended⟩ := @absorb_file LONG_MAX reader _ _ debugFileName_text (by decide) (by decide) text generic
  rw [taken]
  refine ⟨?_, ended⟩
  split <;> rfl

theorem absorb_serialFile {file : List UInt8}
    (text : file = [] ∨ ValueText (lbufRoom - 1 - serialFileName.length) file) (generic : reader.currentGroup = .generic) :
    reader.absorb LONG_MAX (fileLine serialFileName file) =
        { reader with cfg := { reader.cfg with serialFile := if file = [] then reader.cfg.serialFile else file } } ∧
      Ended newline (fileLine serialFileName file) := by
  obtain ⟨taken, ended⟩ := @absorb_file LONG_MAX reader _ _ serialFileName_text (by decide) (by decide) text generic
  rw [taken]
  refine ⟨?_, ended⟩
  split <;> rfl

theorem absorb_flags (flags : UInt32) (generic : reader.currentGroup = .generic) :
    reader.absorb LONG_MAX (pairText flagsName (0x30 :: 0x78 :: hex8 flags) ++ [newline]) =
      { reader with cfg := { reader.cfg with flags := UInt32.ofNat (min flags.toNat LONG_MAX) } } := by
  have room := (flags_text flags).fits
  have fits : flagsName.length + 1 + (0x30 :: 0x78 :: hex8 flags).length ≤ lbufRoom := by
    change 5 + 1 + _ ≤ 255
    omega
  rw [absorb_pair flagsName_text (by decide) (flags_text flags) fits, generic]
  unfold CYBERJACK_CONFIG.assign
  dsimp only
  rw [if_pos (by decide), scanInt_hex]

theorem absorb_var {entry : List UInt8 × List UInt8} (text : VarText entry) (inVars : reader.currentGroup = .vars) :
    reader.absorb LONG_MAX (varLine entry) = reader.insertAll (writtenVars [entry]) ∧ Ended newline (varLine entry) := by
  unfold varLine
  split
  · case isTrue filled =>
      have room := text.value.fits
      have line := text.fits
      have kept : writtenVars [entry] = [entry] := by simp [writtenVars, filled]
      have assigned : reader.cfg.assign LONG_MAX reader.currentGroup entry.1 entry.2 =
          { reader.cfg with vars := reader.cfg.vars.insert entry.1 entry.2 } := by
        rw [inVars]
        rfl
      rw [c_str_text fun c member => (text.name.plain c member).1, c_str_text text.value.plain,
        absorb_pair text.name filled.1 text.value (by omega), assigned, kept]
      exact ⟨rfl, ended_snoc _⟩
  · case isFalse unfilled =>
      have dropped : writtenVars [entry] = [] := by
        rw [writtenVars, List.filter_cons, if_neg (by simpa using unfilled), List.filter_nil]
      rw [dropped]
      exact ⟨absorb_nil, .inl rfl⟩

theorem insertAll_append (front back : List (List UInt8 × List UInt8)) :
    (reader.insertAll front).insertAll back = reader.insertAll (front ++ back) := by
  unfold Reader.insertAll
  rw [List.foldl_append]

theorem absorb_varLines (entries : List (List UInt8 × List UInt8)) (texts : ∀ entry ∈ entries, VarText entry)
    (inVars : reader.currentGroup = .vars) :
    reader.absorb LONG_MAX (entries.flatMap varLine) = reader.insertAll (writtenVars entries) := by
  induction entries generalizing reader with
  | nil => exact absorb_nil
  | cons entry rest ih =>
      obtain ⟨taken, ended⟩ := @absorb_var LONG_MAX reader entry (texts entry List.mem_cons_self) inVars
      have split : writtenVars [entry] ++ writtenVars rest = writtenVars (entry :: rest) := by
        rw [writtenVars, writtenVars, writtenVars, ← List.filter_append, List.singleton_append]
      have later := @ih (reader.insertAll (writtenVars [entry])) (fun later member => texts later (List.mem_cons_of_mem _ member)) inVars
      rw [List.flatMap_cons, absorb_append ended, taken, later, insertAll_append, split]

theorem absorb_vars {vars : CFG_VARMAP} (texts : ∀ entry ∈ vars.entries, VarText entry)
    (empty : reader.cfg.vars = .empty) :
    ∃ back : CFG_VARMAP, (reader.absorb LONG_MAX (varLines vars)).cfg = { reader.cfg with vars := back } ∧
      back.entries = writtenVars vars.entries := by
  unfold varLines
  split
  · have split : newline :: (varsHeading ++ newline :: vars.entries.flatMap varLine) =
        ([] ++ [newline]) ++ ((varsHeading ++ [newline]) ++ vars.entries.flatMap varLine) := by simp
    have heading : LineText varsHeading := plain_line (by decide)
    have blank : lineOf [] = .nothing := rfl
    have group : lineOf varsHeading = .group .vars := by decide
    rw [split, absorb_append (ended_snoc []), absorb_line (plain_line (by simp)) (by decide),
      absorb_append (ended_snoc varsHeading), absorb_line heading (by decide), blank, group,
      absorb_varLines vars.entries texts rfl]
    have sorted := vars.sorted.filter fun entry => decide (entry.1 ≠ [] ∧ entry.2 ≠ [])
    have rebuilt : ((writtenVars vars.entries).foldl (fun vars entry => vars.insert entry.1 entry.2) reader.cfg.vars).entries =
        writtenVars vars.entries := by
      rw [empty]
      exact OrderedMap.foldl_insert .empty (writtenVars vars.entries) sorted
    exact ⟨_, rfl, rebuilt⟩
  · case isFalse none =>
      rw [absorb_nil, not_not.mp none]
      exact ⟨reader.cfg.vars, rfl, by rw [empty]; rfl⟩

/-- What comes back where the file can hold everything. -/
structure ReadBack (LONG_MAX : Nat) (start cfg back : CYBERJACK_CONFIG) : Prop where
  flags : back.flags = readFlags LONG_MAX cfg
  debugFile : back.debugFile = if cfg.debugFile = [] then start.debugFile else cfg.debugFile
  serialFile : back.serialFile = if cfg.serialFile = [] then start.serialFile else cfg.serialFile
  vars : back.vars.entries = writtenVars cfg.vars.entries

theorem absorb_written {start cfg : CYBERJACK_CONFIG} (held : Held cfg) (empty : start.vars = .empty) :
    ReadBack LONG_MAX start cfg ((Reader.mk .generic start).absorb LONG_MAX (writtenText cfg)).cfg := by
  have createdLine : LineText createdComment := ⟨by decide, by decide, by decide⟩
  have commented : lineOf createdComment = .nothing := by decide
  unfold writtenText
  rw [List.append_assoc, List.append_assoc, List.append_assoc, absorb_append (ended_snoc createdComment),
    absorb_line createdLine (by decide), commented, absorb_append (ended_snoc _), absorb_flags cfg.flags rfl]
  obtain ⟨debugTaken, debugEnded⟩ := @absorb_debugFile LONG_MAX
    ⟨.generic, { start with flags := readFlags LONG_MAX cfg }⟩ cfg.debugFile held.debugFile rfl
  obtain ⟨serialTaken, serialEnded⟩ := @absorb_serialFile LONG_MAX
    ⟨.generic, { start with
      flags := readFlags LONG_MAX cfg
      debugFile := if cfg.debugFile = [] then start.debugFile else cfg.debugFile }⟩ cfg.serialFile held.serialFile rfl
  obtain ⟨back, varsTaken, entries⟩ := @absorb_vars LONG_MAX
    ⟨.generic, { start with
      flags := readFlags LONG_MAX cfg
      debugFile := if cfg.debugFile = [] then start.debugFile else cfg.debugFile
      serialFile := if cfg.serialFile = [] then start.serialFile else cfg.serialFile }⟩ cfg.vars held.vars empty
  change ReadBack LONG_MAX start cfg ((Reader.mk .generic { start with flags := readFlags LONG_MAX cfg }).absorb LONG_MAX _).cfg
  rw [absorb_append debugEnded, debugTaken, absorb_append serialEnded, serialTaken, varsTaken]
  exact ⟨rfl, rfl, rfl, entries⟩

end Writing

theorem restored_iff_absorbed {LONG_MAX : Nat} {start cfg : CYBERJACK_CONFIG} {file : File} :
    Restored LONG_MAX start cfg file ↔ ((Reader.mk .generic start).absorb LONG_MAX (writtenText cfg)).cfg = cfg := by
  have read : readConfig LONG_MAX ⟨writtenText cfg, false⟩ start =
      (0, ((Reader.mk .generic start).absorb LONG_MAX (writtenText cfg)).cfg) := by
    rw [readConfig, readLoop_whole]
  constructor
  · intro restored
    obtain ⟨bytes, saved, back⟩ := restored
    cases saved
    rw [read] at back
    exact congrArg Prod.snd back
  · intro same
    exact ⟨writtenText cfg, rfl, by rw [read, same]⟩

/-- Only what can be held comes back. -/
theorem held_of_restored {LONG_MAX : Nat} {start cfg : CYBERJACK_CONFIG} {file : File} (held : Held start)
    (restored : Restored LONG_MAX start cfg file) : Held cfg := by
  rw [← restored_iff_absorbed.mp restored]
  exact held_absorb held (writtenText cfg)

/-- The file is read back as it was written if and only if it can hold the configuration. -/
theorem config_restored_iff (LONG_MAX : Nat) {start : CYBERJACK_CONFIG} (fresh : Fresh start) (cfg : CYBERJACK_CONFIG)
    (file : File) : Restored LONG_MAX start cfg file ↔ Restorable LONG_MAX start cfg := by
  constructor
  · intro restored
    have held := held_of_restored fresh.held restored
    have back := @absorb_written LONG_MAX start cfg held fresh.vars
    rw [restored_iff_absorbed.mp restored] at back
    constructor
    · exact held
    · exact readFlags_same.mp back.flags.symm
    · intro none
      rw [← none, back.debugFile, if_pos none]
    · intro none
      rw [← none, back.serialFile, if_pos none]
    · intro entry member
      rw [back.vars] at member
      exact (of_decide_eq_true (List.mem_filter.mp member).2).1
  · intro restorable
    have back := @absorb_written LONG_MAX start cfg restorable.held fresh.vars
    have debugFile : (if cfg.debugFile = [] then start.debugFile else cfg.debugFile) = cfg.debugFile := by
      split
      · case isTrue none => rw [restorable.debugFile none, none]
      · rfl
    have serialFile : (if cfg.serialFile = [] then start.serialFile else cfg.serialFile) = cfg.serialFile := by
      split
      · case isTrue none => rw [restorable.serialFile none, none]
      · rfl
    have all : writtenVars cfg.vars.entries = cfg.vars.entries := by
      rw [writtenVars, List.filter_eq_self]
      exact fun entry member =>
        decide_eq_true ⟨restorable.names entry member, (restorable.held.vars entry member).value.filled⟩
    rw [restored_iff_absorbed]
    generalize ((Reader.mk .generic start).absorb LONG_MAX (writtenText cfg)).cfg = result at back
    obtain ⟨flags, debug, serial, vars⟩ := back
    rw [readFlags_same.mpr restorable.flags] at flags
    rw [debugFile] at debug
    rw [serialFile] at serial
    rw [all] at vars
    cases result
    cases cfg
    simp_all [OrderedMap.ext_iff]

theorem initialConfig_fresh (noBeep ecomKernel : Bool) : Fresh (initialConfig noBeep ecomKernel) := by
  constructor
  · constructor
    · exact .inr (show ValueText _ defaultDebugFile from ⟨by decide, by decide, by decide⟩)
    · exact .inl rfl
    · intro entry member
      contradiction
  · rfl

/-- `/tmp/a.log` for the messages, and `port=1` -/
def plainConfig : CYBERJACK_CONFIG where
  flags := 0x80000001
  debugFile := [0x2f, 0x74, 0x6d, 0x70, 0x2f, 0x61, 0x2e, 0x6c, 0x6f, 0x67]
  serialFile := []
  vars := CFG_VARMAP.insert .empty [0x70, 0x6f, 0x72, 0x74] [0x31]

theorem plainConfig_restored :
    Restored 0x7fffffffffffffff (initialConfig false false) plainConfig none := by
  apply (config_restored_iff 0x7fffffffffffffff (initialConfig_fresh false false) plainConfig none).mpr
  constructor
  · constructor
    · exact .inr ⟨by decide, by decide, by decide⟩
    · exact .inl rfl
    · intro entry member
      cases List.mem_singleton.mp member
      exact ⟨⟨by decide, by decide⟩, ⟨by decide, by decide, by decide⟩, by decide⟩
  · decide
  · intro none
    contradiction
  · intro none
    rfl
  · intro entry member
    cases List.mem_singleton.mp member
    exact List.cons_ne_nil _ _

/-- `my log`: the name of the file has a blank. -/
def spacedConfig : CYBERJACK_CONFIG where
  flags := 0
  debugFile := [0x6d, 0x79, 0x20, 0x6c, 0x6f, 0x67]
  serialFile := []
  vars := .empty

/-- No string has a newline, and yet the name of the file is not restored. -/
theorem spacedConfig_not_restored :
    newline ∉ spacedConfig.debugFile ∧ newline ∉ spacedConfig.serialFile ∧
      (∀ entry ∈ spacedConfig.vars.entries, newline ∉ entry.1 ∧ newline ∉ entry.2) ∧
      ¬ Restored 0x7fffffffffffffff (initialConfig false false) spacedConfig none := by
  refine ⟨by decide, by decide, fun entry member => by contradiction, ?_⟩
  intro restored
  have held := held_of_restored (initialConfig_fresh false false).held restored
  rcases held.debugFile with none | text
  · contradiction
  · exact absurd (text.plain 0x20 (by decide)) (by decide)

end Cyberjack.Eca
