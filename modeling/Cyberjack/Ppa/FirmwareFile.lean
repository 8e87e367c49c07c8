import Mathlib.Data.List.Basic

namespace Cyberjack.Ppa.Update

/-! # The file of a firmware update

What stands in the file for a reader, taken apart from its beginning.  There is no
result where the file ends before what it announces.
-/

variable {bytes file rest : List UInt8} {offset count place : Nat}

/-- `cjppSWAB_WORD_2(*(unsigned short *)(bytes+offset))` -/
def word_2 (bytes : List UInt8) (offset : Nat) : Nat :=
  (bytes.getD offset 0).toNat + 256 * (bytes.getD (offset + 1) 0).toNat

/-- `cjppSWAB_WORD(*(unsigned short *)(bytes+offset))` -/
def word (bytes : List UInt8) (offset : Nat) : Nat :=
  256 * (bytes.getD offset 0).toNat + (bytes.getD (offset + 1) 0).toNat

def slice (bytes : List UInt8) (offset count : Nat) : List UInt8 := (bytes.drop offset).take count

theorem word_2_drop : word_2 (bytes.drop offset) place = word_2 bytes (offset + place) := by
  simp [word_2, List.getD_eq_getElem?_getD, Nat.add_assoc]

theorem slice_length (inside : offset + count ≤ bytes.length) : (slice bytes offset count).length = count := by
  rw [slice, List.length_take, List.length_drop]
  omega

theorem slice_drop (bytes : List UInt8) (offset place count : Nat) :
    slice (bytes.drop offset) place count = slice bytes (offset + place) count := by
  rw [slice, List.drop_drop, slice]

theorem slice_slice {whole : Nat} (inside : place + count ≤ whole) :
    slice (slice bytes offset whole) place count = slice bytes (offset + place) count := by
  rw [slice, slice, List.drop_take, List.drop_drop, List.take_take, Nat.min_eq_left (by omega), slice]

theorem word_slice {whole : Nat} (inside : place + 2 ≤ whole) : word (slice bytes offset whole) place = word bytes (offset + place) := by
  simp [word, slice, List.getD_eq_getElem?_getD, Nat.add_assoc, show place < whole by omega,
    show place + 1 < whole by omega]

/-! ## Sections -/

/-- The image of a program, behind the version of the loader that it is for. -/
structure Block where
  version : Nat
  image : List UInt8
  size : image.length = 32768

/-- The loaders of a reader, for those of older ones, and the application. -/
structure LoaderSection where
  loaders : List Block
  application : Block

/-- An application with the key of its signature; a reader with key `i` checks signature `i`. -/
structure KeySection where
  keyVersion : Nat
  signatures : List (List UInt8)
  publicKey : List UInt8
  application : List UInt8

def takeBlock (bytes : List UInt8) : Option (Block × List UInt8) :=
  if room : 2 + 32768 ≤ bytes.length then
    some (⟨word_2 bytes 0, slice bytes 2 32768, slice_length room⟩, bytes.drop 32770)
  else none

def takeBlocks : Nat → List UInt8 → Option (List Block × List UInt8)
  | 0, bytes => some ([], bytes)
  | number + 1, bytes =>
      match takeBlock bytes with
      | none => none
      | some (block, rest) => (takeBlocks number rest).map fun more => (block :: more.1, more.2)

/-- The loaders of a section, and the bytes from its application on. -/
def takeLoaders (bytes : List UInt8) : Option (List Block × List UInt8) :=
  if 2 ≤ bytes.length then takeBlocks (word_2 bytes 0) (bytes.drop 2) else none

def takeLoaderSection (bytes : List UInt8) : Option (LoaderSection × List UInt8) :=
  match takeLoaders bytes with
  | none => none
  | some (loaders, behind) => (takeBlock behind).map fun more => (⟨loaders, more.1⟩, more.2)

/-- There is room for at least one signature. -/
def takeKeySection (bytes : List UInt8) : Option (KeySection × List UInt8) :=
  let number := word_2 bytes 0
  if 4 + 128 * max 1 number + 131 + 32768 ≤ bytes.length then
    some (⟨word_2 bytes 2, (List.range number).map fun key => slice bytes (4 + 128 * key) 128,
      slice bytes (4 + 128 * number) 131, slice bytes (4 + 128 * number + 131) 32768⟩,
      bytes.drop (4 + 128 * number + 131 + 32768))
  else none

theorem takeBlock_some (inside : offset + 32770 ≤ file.length) :
    ∃ block, takeBlock (file.drop offset) = some (block, file.drop (offset + 32770)) ∧
      block.version = word_2 file offset ∧ block.image = slice file (offset + 2) 32768 := by
  have room : 2 + 32768 ≤ (file.drop offset).length := by
    rw [List.length_drop]
    omega
  refine ⟨⟨word_2 (file.drop offset) 0, slice (file.drop offset) 2 32768, slice_length room⟩, ?_, ?_, ?_⟩
  · rw [takeBlock, dif_pos room, List.drop_drop]
  · exact word_2_drop
  · exact slice_drop file offset 2 32768

theorem takeBlock_none (outside : file.length < offset + 32770) : takeBlock (file.drop offset) = none := by
  rw [takeBlock, dif_neg (by rw [List.length_drop]; omega)]

theorem takeBlocks_some {number : Nat} (inside : offset + 32770 * number ≤ file.length) :
    ∃ loaders, takeBlocks number (file.drop offset) = some (loaders, file.drop (offset + 32770 * number)) ∧
      loaders.length = number := by
  induction number generalizing offset with
  | zero => exact ⟨[], rfl, rfl⟩
  | succ number ih =>
      rw [Nat.mul_succ, ← Nat.add_assoc, Nat.add_right_comm] at inside ⊢
      obtain ⟨block, taken, _⟩ := @takeBlock_some file offset (by omega)
      obtain ⟨more, others, length⟩ := @ih (offset + 32770) (by omega)
      refine ⟨block :: more, ?_, by rw [List.length_cons, length]⟩
      rw [takeBlocks, taken]
      dsimp only
      rw [others, Option.map_some]

theorem takeBlocks_none {number : Nat} (outside : file.length < offset + 32770 * number) (start : offset ≤ file.length) :
    takeBlocks number (file.drop offset) = none := by
  induction number generalizing offset with
  | zero => omega
  | succ number ih =>
      rw [Nat.mul_succ, ← Nat.add_assoc, Nat.add_right_comm] at outside
      rw [takeBlocks]
      by_cases first : offset + 32770 ≤ file.length
      · obtain ⟨block, taken, _⟩ := @takeBlock_some file offset first
        rw [taken]
        dsimp only
        rw [@ih (offset + 32770) (by omega) first, Option.map_none]
      · rw [takeBlock_none (by omega)]

/-- The loaders of a section in the file, with the bytes of its application. -/
theorem takeLoaders_some (inside : offset + 2 + 32770 * word_2 file offset ≤ file.length) :
    ∃ loaders, takeLoaders (file.drop offset) =
        some (loaders, file.drop (offset + 2 + 32770 * word_2 file offset)) ∧
      takeBlocks (word_2 file offset) (file.drop (offset + 2)) =
        some (loaders, file.drop (offset + 2 + 32770 * word_2 file offset)) ∧
      loaders.length = word_2 file offset := by
  obtain ⟨loaders, taken, length⟩ := takeBlocks_some inside
  refine ⟨loaders, ?_, taken, length⟩
  rw [takeLoaders, if_pos (by rw [List.length_drop]; omega), word_2_drop, List.drop_drop, Nat.add_zero]
  exact taken

theorem takeLoaders_none (outside : file.length < offset + 2 + 32770 * word_2 file offset) :
    takeLoaders (file.drop offset) = none := by
  rw [takeLoaders, List.length_drop]
  by_cases counted : 2 ≤ file.length - offset
  · rw [if_pos counted, word_2_drop, List.drop_drop, Nat.add_zero]
    exact takeBlocks_none outside (by omega)
  · rw [if_neg counted]

theorem takeLoaderSection_some {loaders : List Block} {place : Nat}
    (taken : takeLoaders (file.drop offset) = some (loaders, file.drop place)) (inside : place + 32770 ≤ file.length) :
    ∃ section_, takeLoaderSection (file.drop offset) = some (section_, file.drop (place + 32770)) ∧
      section_.loaders = loaders ∧ section_.application.image = slice file (place + 2) 32768 := by
  obtain ⟨block, last, _, image⟩ := takeBlock_some inside
  refine ⟨⟨loaders, block⟩, ?_, rfl, image⟩
  rw [takeLoaderSection, taken]
  dsimp only
  rw [last, Option.map_some]

theorem takeLoaderSection_none {loaders : List Block} {place : Nat}
    (taken : takeLoaders (file.drop offset) = some (loaders, file.drop place)) (outside : file.length < place + 32770) :
    takeLoaderSection (file.drop offset) = none := by
  rw [takeLoaderSection, taken]
  dsimp only
  rw [takeBlock_none outside, Option.map_none]

theorem takeLoaderSection_short (missing : takeLoaders (file.drop offset) = none) :
    takeLoaderSection (file.drop offset) = none := by
  rw [takeLoaderSection, missing]

/-- A key section in the file. -/
theorem takeKeySection_some (inside : offset + 4 + 128 * max 1 (word_2 file offset) + 131 + 32768 ≤ file.length) :
    ∃ section_, takeKeySection (file.drop offset) =
        some (section_, file.drop (offset + (4 + 128 * word_2 file offset + 131 + 32768))) ∧
      section_.keyVersion = word_2 file (offset + 2) ∧
      section_.signatures =
        (List.range (word_2 file offset)).map (fun key => slice file (offset + (4 + 128 * key)) 128) ∧
      section_.publicKey = slice file (offset + (4 + 128 * word_2 file offset)) 131 ∧
      section_.application = slice file (offset + (4 + 128 * word_2 file offset + 131)) 32768 := by
  have number : word_2 (file.drop offset) 0 = word_2 file offset := word_2_drop
  rw [takeKeySection, number]
  rw [if_pos (by rw [List.length_drop]; omega), List.drop_drop]
  refine ⟨_, rfl, word_2_drop, ?_, slice_drop .., slice_drop ..⟩
  exact List.map_congr_left fun key _ => slice_drop ..

theorem takeKeySection_none (outside : file.length < offset + 4 + 128 * max 1 (word_2 file offset) + 131 + 32768) :
    takeKeySection (file.drop offset) = none := by
  have number : word_2 (file.drop offset) 0 = word_2 file offset := word_2_drop
  rw [takeKeySection, number]
  rw [if_neg (by rw [List.length_drop]; omega)]

end Cyberjack.Ppa.Update
