import Cyberjack.Ppa.FirmwareUpdate

namespace Cyberjack.Ppa.Update

open Cyberjack.Foundation

/-! # What an update sends -/

/-- The application of a section is not older than that of the reader. -/
def ApplicationNew (Info : Info) (rest : List UInt8) : Prop :=
  word rest (2 + 0x7e6b) ≥ Info.ApplicationVersion.toNat ∨ Info.ApplicationVersion = 0xffff

/-- Nothing is sent behind a new handle: one image at most, and none where the loader must be started for it. -/
def OneHandle (Info : Info) (loader appl : Prop) : Prop :=
  ¬ (loader ∧ appl) ∧ (Info.ActiveModule = 2 → ¬ loader ∧ ¬ appl)

/-- A loader section whose file may end behind the version of its application, where nothing in it is
newer; without a loader the application is not taken for one. -/
structure SectionSound (Info : Info) (loaders : List Block) (rest : List UInt8) : Prop where
  few : (takenLoaders Info.LoaderVersion.toNat loaders).length ≤ 65532
  versions : 2 + 0x7e6b + 2 ≤ rest.length
  loader : loaders = [] → word rest (2 + 0x7e6b) ≤ Info.LoaderVersion.toNat
  whole : 32770 ≤ rest.length ∨ (newLoader Info loaders = none ∧ ¬ ApplicationNew Info rest)
  handle : OneHandle Info (newLoader Info loaders ≠ none) (ApplicationNew Info rest)

/-- The file of a reader with a key has no product that is not an `int`, and a signature with each key
that is older than its own. -/
structure KeysSound (Info : Info) (file : List UInt8) : Prop where
  few : initialSize ≤ file.length → word_2 file 65542 ≤ 65533
  signed : ∀ section_, keySectionFor Info file = some section_ →
    ¬ (word section_.application 0x7eed < Info.ApplicationVersion.toNat ∧ Info.ApplicationVersion ≠ 0xffff) →
      min section_.keyVersion 256 ≤ section_.signatures.length

/-- The file is right for a reader, which is never one of the first version. -/
def Sound (Info : Info) (file : List UInt8) : Prop :=
  if Info.Config &&& 0x01 = 0 then True
  else if Info.BootLoaderVersion = 0x0050 then KeysSound Info file
  else if Info.Version > 10 then
    (Info.BootLoaderVersion ≠ 0x0212 → word_2 file 0 ≤ 65531) ∧
      ∃ bytes, loaderSectionBytes Info file = some bytes ∧
        ∃ loaders rest, takeLoaders bytes = some (loaders, rest) ∧ SectionSound Info loaders rest
  else False

/-! ## Images -/

variable {UpdateData file rest : List UInt8} {addr pointer image count : Nat} {behind : UpdateDialog} {info : Info}

theorem within_inside {offset : Nat} (inside : offset + count ≤ UpdateData.length) :
    within UpdateData offset count behind = behind := if_pos inside

theorem within_outside {offset : Nat} (outside : UpdateData.length < offset + count) :
    within UpdateData offset count behind = .stuck := if_neg (by omega)

theorem updateFrom_eq (last : addr + 64 * count = 0x7f00) (inside : pointer + 64 * count ≤ UpdateData.length) :
    updateFrom UpdateData addr pointer behind =
      sendAll ((List.range count).map fun part => (addr + 64 * part, slice UpdateData (pointer + 64 * part) 64)) behind := by
  induction count generalizing addr pointer with
  | zero =>
      rw [updateFrom, if_neg (by omega)]
      rfl
  | succ count ih =>
      rw [updateFrom, if_pos (by omega), cjppUpdateData, within_inside (by omega), ih (by omega) (by omega),
        List.range_succ_eq_map, List.map_cons, List.map_map]
      have shifted : ((fun part => (addr + 64 * part, slice UpdateData (pointer + 64 * part) 64)) ∘ Nat.succ) =
          fun part => (addr + 64 + 64 * part, slice UpdateData (pointer + 64 + 64 * part) 64) := by
        funext part
        have first : addr + 64 * part.succ = addr + 64 + 64 * part := by omega
        have second : pointer + 64 * part.succ = pointer + 64 + 64 * part := by omega
        rw [Function.comp_apply, first, second]
      rw [shifted]
      rfl

/-- The bytes of an image in the file. -/
theorem updateFrom_image {start : Nat} (last : start + 64 * count = 0x7f00) (inside : image + 32768 ≤ UpdateData.length) :
    updateFrom UpdateData start (image + start) behind =
      sendAll (imageFrom (slice UpdateData image 32768) start) behind := by
  have number : (0x7f00 - start) / 64 = count := by omega
  rw [updateFrom_eq last (by omega), imageFrom, number]
  congr 1
  apply List.map_congr_left
  intro part member
  rw [List.mem_range] at member
  rw [slice_slice (by omega), Nat.add_assoc]

theorem cjppUpdateData_image {offset len : Nat} (room : offset + len ≤ 32768) (inside : image + 32768 ≤ UpdateData.length)
    (same : pointer = image + offset) :
    cjppUpdateData UpdateData addr pointer len behind =
      test (.updateData addr (slice (slice UpdateData image 32768) offset len)) behind := by
  rw [cjppUpdateData, within_inside (by omega), slice_slice room, same]

theorem updateImage_eq (inside : image + 32768 ≤ UpdateData.length) :
    updateImage UpdateData image behind = sendImage (slice UpdateData image 32768) behind := by
  have parts := @updateFrom_image UpdateData image 484 (test .verifyUpdate behind) 0x600 (by decide) inside
  have place : image + 8 + 56 + 64 + 64 + (64 + 0x500) = image + 0x600 := by omega
  rw [updateImage, place, parts, @cjppUpdateData_image _ _ (image + 8) _ _ 8 56 (by decide) inside rfl,
    @cjppUpdateData_image _ _ (image + 8 + 56) _ _ 64 64 (by decide) inside (by omega),
    @cjppUpdateData_image _ _ (image + 8 + 56 + 64) _ _ 128 64 (by decide) inside (by omega),
    @cjppUpdateData_image _ _ (image + 8 + 56 + 64 + 64) _ _ 192 64 (by decide) inside (by omega)]
  simp only [sendImage, sendAll, List.foldr_append, List.foldr_cons, List.foldr_nil]

/-- An image is never sent without a request. -/
theorem updateImage_asks (Res : Cjpp) : updateImage UpdateData image behind ≠ .done Res := by
  rw [updateImage, cjppUpdateData, within]
  split
  · exact nofun
  · exact nofun

theorem updateOver_asks (freed : Bool) (Res : Cjpp) : updateOver UpdateData freed image behind ≠ .done Res := by
  cases freed with
  | false => exact updateImage_asks Res
  | true => exact nofun

theorem install_done {α : Type} {send : Bool → α → UpdateDialog → UpdateDialog}
    (asks : ∀ freed image behind Res, send freed image behind ≠ .done Res)
    {loader appl : Option α} (info : Info) {Res : Cjpp} (ended : install send info loader appl = .done Res) :
    loader = none ∧ appl = none := by
  cases loader with
  | none =>
      cases appl with
      | none => exact ⟨rfl, rfl⟩
      | some appl =>
          rw [install, if_pos (.inr rfl)] at ended
          split at ended
          · contradiction
          · exact absurd ended (asks _ _ _ _)
  | some loader =>
      unfold install at ended
      rw [if_pos (.inl rfl)] at ended
      split at ended
      · contradiction
      · exact absurd ended (asks _ _ _ _)

theorem install_stuck (info : Info) (loader appl : Option (List UInt8)) :
    install (fun _ => sendImage) info loader appl ≠ .stuck := by
  cases loader with
  | none =>
      cases appl with
      | none => exact nofun
      | some appl =>
          rw [install, if_pos (.inr rfl)]
          split
          · exact nofun
          · exact nofun
  | some loader =>
      unfold install
      rw [if_pos (.inl rfl)]
      split
      · exact nofun
      · exact nofun

/-- The number of requests where all of them succeed. -/
def asked : UpdateDialog → Nat
  | .done _ => 0
  | .ask _ go => asked (go ⟨.success, 0⟩) + 1
  | .stuck => 0

@[simp] theorem asked_test (request : Request) : asked (test request behind) = asked behind + 1 := by
  rw [test, asked, if_pos rfl]

@[simp] theorem asked_reopened : asked (reopened behind) = asked behind + 1 := by
  rw [reopened, asked, if_pos rfl]

theorem asked_sendAll (parts : List (Nat × List UInt8)) : asked (sendAll parts behind) = parts.length + asked behind := by
  induction parts with
  | nil => rw [List.length_nil, Nat.zero_add]; rfl
  | cons part rest ih =>
      change asked (test _ (sendAll rest behind)) = _
      rw [asked_test, ih, List.length_cons]
      omega

theorem asked_sendImage (part : List UInt8) : asked (sendImage part behind) = asked behind + 489 := by
  rw [sendImage, asked_sendAll, asked_test, imageFrom]
  simp only [List.length_append, List.length_cons, List.length_nil, List.length_map, List.length_range]
  omega

theorem updateOver_held (inside : image + 32768 ≤ UpdateData.length) :
    updateOver UpdateData false image behind = sendImage (slice UpdateData image 32768) behind := updateImage_eq inside

theorem updateOver_freed : updateOver UpdateData true image behind = .stuck := rfl

section Handles

variable {loader appl : Nat}

/-- The loader goes over the first handle, and the application over one that is freed. -/
theorem install_both (first : loader + 32768 ≤ UpdateData.length) (sent : Option (List UInt8)) (part : List UInt8) :
    install (updateOver UpdateData) info (some loader) (some appl) ≠
      install (fun _ => sendImage) info sent (some part) := by
  intro same
  have lengths := congrArg asked same
  cases sent with
  | none =>
      simp only [install, Option.isSome_some, Option.isSome_none, or_true, if_true, updateOver_held first,
        updateOver_freed] at lengths
      split at lengths <;> simp [asked_sendImage, asked] at lengths
  | some image =>
      simp only [install, Option.isSome_some, or_true, if_true, updateOver_held first, updateOver_freed] at lengths
      split at lengths <;> simp [asked_sendImage, asked] at lengths

/-- A loader that is sent makes the update longer. -/
theorem install_loader (first : loader + 32768 ≤ UpdateData.length) (appl : Option Nat) :
    install (updateOver UpdateData) info (some loader) appl ≠
      install (fun _ => sendImage) info none (appl.map fun image => slice UpdateData image 32768) := by
  cases appl with
  | none =>
      intro same
      have lengths := congrArg asked same
      simp only [install, Option.isSome_some, Option.isSome_none, Option.map_none, true_or, if_true,
        updateOver_held first, updateOver_freed] at lengths
      split at lengths <;> simp [asked_sendImage, asked] at lengths
  | some appl => exact install_both first none _

/-- A single image is sent where the first handle is still there. -/
theorem install_loader_iff (first : loader + 32768 ≤ UpdateData.length) :
    install (updateOver UpdateData) info (some loader) none =
        install (fun _ => sendImage) info (some (slice UpdateData loader 32768)) none ↔ info.ActiveModule ≠ 2 := by
  constructor
  · intro same active
    have lengths := congrArg asked same
    simp only [install, Option.isSome_some, Option.isSome_none, true_or, if_true, if_pos active,
      updateOver_freed] at lengths
    simp [asked_sendImage, asked] at lengths
  · intro loaded
    simp only [install, Option.isSome_some, Option.isSome_none, true_or, if_true, if_neg loaded, updateOver_held first]

theorem install_appl_iff (second : appl + 32768 ≤ UpdateData.length) :
    install (updateOver UpdateData) info none (some appl) =
        install (fun _ => sendImage) info none (some (slice UpdateData appl 32768)) ↔ info.ActiveModule ≠ 2 := by
  constructor
  · intro same active
    have lengths := congrArg asked same
    simp only [install, Option.isSome_some, or_true, if_true, if_pos active, updateOver_freed] at lengths
    simp [asked_sendImage, asked] at lengths
  · intro loaded
    simp only [install, Option.isSome_some, or_true, if_true, if_neg loaded, updateOver_held second]

end Handles

/-- The images of the file are sent exactly where nothing is sent behind a new handle. -/
theorem install_iff {loader appl : Option Nat} (first : ∀ image, loader = some image → image + 32768 ≤ UpdateData.length)
    (second : ∀ image, appl = some image → image + 32768 ≤ UpdateData.length) :
    install (updateOver UpdateData) info loader appl =
        install (fun _ => sendImage) info (loader.map fun image => slice UpdateData image 32768)
          (appl.map fun image => slice UpdateData image 32768) ↔
      OneHandle info (loader ≠ none) (appl ≠ none) := by
  cases loader with
  | none =>
      cases appl with
      | none => exact iff_of_true rfl ⟨fun both => both.1 rfl, fun _ => ⟨fun some_ => some_ rfl, fun some_ => some_ rfl⟩⟩
      | some appl =>
          refine (install_appl_iff (second appl rfl)).trans ?_
          simp [OneHandle]
  | some loader =>
      cases appl with
      | none =>
          refine (install_loader_iff (first loader rfl)).trans ?_
          simp [OneHandle]
      | some appl =>
          exact iff_of_false (install_both (first loader rfl) _ _) fun handle => handle.1 ⟨nofun, nofun⟩

/-! ## Sections -/

theorem skipLoaders_cases (LoaderVersion number pointer : Nat) (behind : Nat → Nat → UpdateDialog) :
    skipLoaders UpdateData LoaderVersion number pointer behind = .stuck ∨
      ∃ left place, skipLoaders UpdateData LoaderVersion number pointer behind = behind left place ∧
        place + 32770 * left = pointer + 32770 * number := by
  induction number generalizing pointer with
  | zero => exact .inr ⟨0, pointer, rfl, rfl⟩
  | succ number ih =>
      rw [skipLoaders]
      split
      · rw [within]
        split
        · split
          · cases ih (pointer + 32770) with
            | inl stuck => exact .inl stuck
            | inr onward =>
                obtain ⟨left, place, same, sum⟩ := onward
                refine .inr ⟨left, place, same, ?_⟩
                rw [Nat.mul_succ, sum]
                omega
          · exact .inr ⟨_, _, rfl, rfl⟩
        · exact .inl rfl
      · exact .inr ⟨_, _, rfl, rfl⟩

theorem skipLoaders_taken {LoaderVersion number pointer : Nat} {loaders : List Block} {rest : List UInt8}
    (behind : Nat → Nat → UpdateDialog) (inside : pointer + 32770 * number ≤ UpdateData.length)
    (taken : takeBlocks number (UpdateData.drop pointer) = some (loaders, rest)) :
    ∃ place, skipLoaders UpdateData LoaderVersion number pointer behind =
        behind (takenLoaders LoaderVersion loaders).length place ∧
      place + 32770 * (takenLoaders LoaderVersion loaders).length = pointer + 32770 * number ∧
      ((takenLoaders LoaderVersion loaders).head?.map Block.image = if loaders = [] then none else some (slice UpdateData (place + 2) 32768)) := by
  induction number generalizing pointer loaders with
  | zero =>
      cases taken
      exact ⟨pointer, rfl, rfl, rfl⟩
  | succ number ih =>
      rw [Nat.mul_succ, ← Nat.add_assoc, Nat.add_right_comm] at inside ⊢
      obtain ⟨block, first, version, image⟩ := @takeBlock_some UpdateData pointer (by omega)
      rw [takeBlocks, first] at taken
      rw [skipLoaders]
      cases number with
      | zero =>
          cases taken
          refine ⟨pointer, if_neg (by decide), rfl, ?_⟩
          change some block.image = _
          rw [image]
          rfl
      | succ number =>
          have room : pointer + 32770 + 32770 ≤ UpdateData.length :=
            Nat.le_trans (Nat.add_le_add_left (Nat.le_mul_of_pos_right 32770 number.succ_pos) _) inside
          obtain ⟨next, second, nextVersion, _⟩ := takeBlock_some room
          dsimp only at taken
          rw [Option.map_eq_some_iff] at taken
          obtain ⟨⟨more, last⟩, others, same⟩ := taken
          have shape : ∃ tail, more = next :: tail := by
            rw [takeBlocks, second] at others
            dsimp only at others
            rw [Option.map_eq_some_iff] at others
            obtain ⟨⟨tail, _⟩, _, same⟩ := others
            cases same
            exact ⟨tail, rfl⟩
          obtain ⟨tail, shape⟩ := shape
          cases same
          rw [if_pos (by omega), within_inside (Nat.le_trans (Nat.add_le_add_left (by decide) _) room), shape, takenLoaders, nextVersion]
          split
          · obtain ⟨place, onward, sum, head⟩ := ih inside others
            rw [shape] at onward sum head
            refine ⟨place, onward, sum, ?_⟩
            rw [head, if_neg (List.cons_ne_nil _ _), if_neg (List.cons_ne_nil _ _)]
          · have number_ : (block :: next :: tail).length = number + 1 + 1 := by
              obtain ⟨_, counted, length⟩ := takeBlocks_some inside
              rw [counted] at others
              cases others
              rw [← shape, List.length_cons, length]
            refine ⟨pointer, by rw [number_], ?_, ?_⟩
            · rw [number_, Nat.mul_succ, ← Nat.add_assoc, Nat.add_right_comm]
            · rw [if_neg (List.cons_ne_nil _ _)]
              change some block.image = _
              rw [image]

/-- The images that the code decides for. -/
def chosenParts (info : Info) (UpdateData : List UInt8) (loader appl : Nat) : UpdateDialog :=
  install (updateOver UpdateData) info
    (if word UpdateData (loader + 0x7e6b) > info.LoaderVersion.toNat then some loader else none)
    (if word UpdateData (appl + 0x7e6b) ≥ info.ApplicationVersion.toNat ∨ info.ApplicationVersion = 0xffff then some appl
      else none)

theorem updateSection_short {section_ : Nat} (missing : UpdateData.length < section_ + 2 + 32770 * word_2 UpdateData section_) :
    updateSection info UpdateData section_ = .stuck := by
  rw [updateSection, within]
  split
  · case isTrue counted =>
      cases skipLoaders_cases info.LoaderVersion.toNat (word_2 UpdateData section_) (section_ + 2) _ with
      | inl stuck => exact stuck
      | inr onward =>
          obtain ⟨left, place, same, sum⟩ := onward
          rw [same, product]
          split
          · rw [within]
            split
            · rw [within_outside]
              rw [Nat.mul_comm]
              omega
            · rfl
          · rfl
  · rfl

/-- A section with all its loaders: the one that is taken is at `place`, and the application at `behind`. -/
structure TakenSection (info : Info) (UpdateData : List UInt8) (section_ : Nat) (loaders : List Block) (place behind : Nat) :
    Prop where
  loaders_ : takeLoaders (UpdateData.drop section_) = some (loaders, UpdateData.drop behind)
  sum : place + 32770 * (takenLoaders info.LoaderVersion.toNat loaders).length = behind
  inside : behind ≤ UpdateData.length
  head : (takenLoaders info.LoaderVersion.toNat loaders).head?.map Block.image =
    if loaders = [] then none else some (slice UpdateData (place + 2) 32768)
  decided : updateSection info UpdateData section_ =
    if (takenLoaders info.LoaderVersion.toNat loaders).length ≤ 65532 then
      within UpdateData (place + 2 + 0x7e6b) 2 <|
      within UpdateData (behind + 2 + 0x7e6b) 2 <|
      chosenParts info UpdateData (place + 2) (behind + 2)
    else .stuck

theorem updateSection_taken {section_ : Nat} (inside : section_ + 2 + 32770 * word_2 UpdateData section_ ≤ UpdateData.length) :
    ∃ loaders place, TakenSection info UpdateData section_ loaders place
      (section_ + 2 + 32770 * word_2 UpdateData section_) := by
  obtain ⟨loaders, taken, blocks, _⟩ := takeLoaders_some inside
  obtain ⟨place, onward, sum, head⟩ := @skipLoaders_taken UpdateData info.LoaderVersion.toNat _ _ loaders _
    (fun AnzahlSign pointer => product AnzahlSign 32770 fun loaders =>
      within UpdateData (pointer + 2 + 0x7e6b) 2 <|
      within UpdateData (pointer + loaders + 2 + 0x7e6b) 2 <|
      chosenParts info UpdateData (pointer + 2) (pointer + loaders + 2)) inside blocks
  refine ⟨loaders, place, taken, sum, inside, head, ?_⟩
  rw [updateSection, within_inside (by omega)]
  refine onward.trans ?_
  have total : place + (takenLoaders info.LoaderVersion.toNat loaders).length * 32770 =
      section_ + 2 + 32770 * word_2 UpdateData section_ := by
    rw [Nat.mul_comm]
    exact sum
  rw [product, total]
  by_cases few : (takenLoaders info.LoaderVersion.toNat loaders).length ≤ 65532
  · rw [if_pos few, if_pos (by omega)]
  · rw [if_neg few, if_neg (by omega)]

/-- Without loaders the application stands where a loader would. -/
theorem TakenSection.empty {section_ place behind : Nat} (taken : TakenSection info UpdateData section_ [] place behind) :
    place = behind := taken.sum

/-- The section's part of what should be sent. -/
def SectionRight (info : Info) (UpdateData : List UInt8) (section_ : Nat) : Prop :=
  match takeLoaderSection (UpdateData.drop section_) with
  | none => ∃ Res, updateSection info UpdateData section_ = .done Res
  | some (taken, _) =>
      updateSection info UpdateData section_ =
        install (fun _ => sendImage) info (newLoader info taken.loaders) (newAppl info taken.application.image)

theorem newLoader_nil : newLoader info [] = none := rfl

theorem newLoader_eq {loaders : List Block} {place : Nat} (filled : loaders ≠ [])
    (head : (takenLoaders info.LoaderVersion.toNat loaders).head?.map Block.image =
      if loaders = [] then none else some (slice UpdateData (place + 2) 32768)) :
    newLoader info loaders =
      (if word UpdateData (place + 2 + 0x7e6b) > info.LoaderVersion.toNat then some (place + 2) else none).map
        fun image => slice UpdateData image 32768 := by
  rw [if_neg filled, Option.map_eq_some_iff] at head
  obtain ⟨loader, first, image⟩ := head
  rw [newLoader, first, Option.bind_some, image, imageVersion, word_slice (by decide)]
  split <;> rfl

theorem newAppl_eq {place : Nat} :
    newAppl info (slice UpdateData (place + 2) 32768) =
      (if word UpdateData (place + 2 + 0x7e6b) ≥ info.ApplicationVersion.toNat ∨ info.ApplicationVersion = 0xffff then
        some (place + 2) else none).map fun image => slice UpdateData image 32768 := by
  rw [newAppl, imageVersion, word_slice (by decide)]
  split <;> rfl

theorem chosenParts_iff {loader appl : Nat} (first : loader + 32768 ≤ UpdateData.length)
    (second : appl + 32768 ≤ UpdateData.length) :
    chosenParts info UpdateData loader appl =
        install (fun _ => sendImage) info
          ((if word UpdateData (loader + 0x7e6b) > info.LoaderVersion.toNat then some loader else none).map
            fun image => slice UpdateData image 32768)
          ((if word UpdateData (appl + 0x7e6b) ≥ info.ApplicationVersion.toNat ∨ info.ApplicationVersion = 0xffff then
            some appl else none).map fun image => slice UpdateData image 32768) ↔
      OneHandle info (word UpdateData (loader + 0x7e6b) > info.LoaderVersion.toNat)
        (word UpdateData (appl + 0x7e6b) ≥ info.ApplicationVersion.toNat ∨ info.ApplicationVersion = 0xffff) := by
  rw [chosenParts, install_iff]
  · rw [ite_ne_right_iff, ite_ne_right_iff, and_iff_left (Option.some_ne_none loader),
      and_iff_left (Option.some_ne_none appl)]
  · intro image chosen
    split at chosen
    · cases chosen
      exact first
    · contradiction
  · intro image chosen
    split at chosen
    · cases chosen
      exact second
    · contradiction

theorem chosenParts_done {loader appl : Nat} :
    (∃ Res, chosenParts info UpdateData loader appl = .done Res) ↔
      word UpdateData (loader + 0x7e6b) ≤ info.LoaderVersion.toNat ∧
        ¬ (word UpdateData (appl + 0x7e6b) ≥ info.ApplicationVersion.toNat ∨ info.ApplicationVersion = 0xffff) := by
  constructor
  · intro ⟨Res, ended⟩
    obtain ⟨first, second⟩ := install_done (fun _ _ _ _ => updateOver_asks _ _) info ended
    rw [ite_eq_right_iff] at first second
    exact ⟨Nat.le_of_not_lt fun newer => (nomatch first newer), fun newer => (nomatch second newer)⟩
  · intro ⟨old, older⟩
    refine ⟨.firmwareOld, ?_⟩
    rw [chosenParts, if_neg (Nat.not_lt.mpr old), if_neg older]
    rfl

variable {section_ place appl : Nat} {loaders : List Block}

theorem version_behind : word (UpdateData.drop appl) (2 + 0x7e6b) = word UpdateData (appl + 2 + 0x7e6b) := by
  simp [word, List.getD_eq_getElem?_getD, Nat.add_assoc]

theorem applicationNew_iff : ApplicationNew info (UpdateData.drop appl) ↔
    word UpdateData (appl + 2 + 0x7e6b) ≥ info.ApplicationVersion.toNat ∨ info.ApplicationVersion = 0xffff := by
  rw [ApplicationNew, version_behind]

theorem newLoader_iff (filled : loaders ≠ [])
    (head : (takenLoaders info.LoaderVersion.toNat loaders).head?.map Block.image =
      if loaders = [] then none else some (slice UpdateData (place + 2) 32768)) :
    newLoader info loaders ≠ none ↔ word UpdateData (place + 2 + 0x7e6b) > info.LoaderVersion.toNat := by
  rw [newLoader_eq filled head]
  split
  · case isTrue newer => exact iff_of_true nofun newer
  · case isFalse old => exact iff_of_false (fun some_ => some_ rfl) old

/-- Where the section is in the file, only the handle counts. -/
theorem sectionSound_iff (few : (takenLoaders info.LoaderVersion.toNat loaders).length ≤ 65532)
    (whole : 32770 ≤ rest.length) (loader : loaders = [] → word rest (2 + 0x7e6b) ≤ info.LoaderVersion.toNat) :
    SectionSound info loaders rest ↔ OneHandle info (newLoader info loaders ≠ none) (ApplicationNew info rest) := by
  constructor
  · intro sound
    exact sound.handle
  · intro handle
    exact ⟨few, by omega, loader, .inl whole, handle⟩

/-- A section that ends behind its application. -/
theorem TakenSection.right_of_whole (taken : TakenSection info UpdateData section_ loaders place appl)
    (few : (takenLoaders info.LoaderVersion.toNat loaders).length ≤ 65532) (whole : appl + 32770 ≤ UpdateData.length) :
    SectionRight info UpdateData section_ ↔ SectionSound info loaders (UpdateData.drop appl) := by
  have placed : place ≤ appl := Nat.le.intro taken.sum
  have decided := taken.decided
  have size : 32770 ≤ (UpdateData.drop appl).length := by
    rw [List.length_drop]
    omega
  obtain ⟨part, found, same, image⟩ := takeLoaderSection_some taken.loaders_ whole
  have applRoom : appl + 2 + 32768 ≤ UpdateData.length := by
    rw [Nat.add_assoc]
    exact whole
  have loaderRoom : place + 2 + 32768 ≤ UpdateData.length := by omega
  have parts := @chosenParts_iff UpdateData info _ _ loaderRoom applRoom
  rw [if_pos few, within_inside (by omega), within_inside (by omega)] at decided
  rw [SectionRight, found, decided]
  dsimp only
  rw [same, image, newAppl_eq]
  by_cases filled : loaders = []
  · subst filled
    by_cases newer : word UpdateData (place + 2 + 0x7e6b) > info.LoaderVersion.toNat
    · rw [newLoader_nil, chosenParts, if_pos newer]
      refine iff_of_false (install_loader loaderRoom _) fun sound => ?_
      have old := sound.loader rfl
      rw [version_behind, ← taken.empty] at old
      omega
    · have old : word (UpdateData.drop appl) (2 + 0x7e6b) ≤ info.LoaderVersion.toNat := by
        rw [version_behind, ← taken.empty]
        omega
      have none_ : newLoader info [] ≠ none ↔ word UpdateData (place + 2 + 0x7e6b) > info.LoaderVersion.toNat :=
        iff_of_false (fun some_ => some_ rfl) newer
      rw [sectionSound_iff few size fun _ => old, none_, applicationNew_iff, newLoader_nil]
      rwa [if_neg newer, Option.map_none] at parts
  · rw [sectionSound_iff few size fun empty => absurd empty filled, newLoader_iff filled taken.head, applicationNew_iff,
      newLoader_eq filled taken.head]
    exact parts

/-- A section that ends in its application, behind the version of it. -/
theorem TakenSection.right_of_cut (taken : TakenSection info UpdateData section_ loaders place appl)
    (few : (takenLoaders info.LoaderVersion.toNat loaders).length ≤ 65532)
    (versions : appl + 2 + 0x7e6b + 2 ≤ UpdateData.length) (cut : UpdateData.length < appl + 32770) :
    SectionRight info UpdateData section_ ↔ SectionSound info loaders (UpdateData.drop appl) := by
  have placed : place ≤ appl := Nat.le.intro taken.sum
  have decided := taken.decided
  have size : (UpdateData.drop appl).length = UpdateData.length - appl := List.length_drop
  rw [if_pos few, within_inside (by omega), within_inside versions] at decided
  rw [SectionRight, takeLoaderSection_none taken.loaders_ cut, decided]
  dsimp only
  rw [chosenParts_done]
  constructor
  · intro ⟨old, older⟩
    rw [← applicationNew_iff] at older
    have none_ : newLoader info loaders = none := by
      by_cases filled : loaders = []
      · rw [filled, newLoader_nil]
      · rw [newLoader_eq filled taken.head, if_neg (by omega), Option.map_none]
    refine ⟨few, by omega, ?_, .inr ⟨none_, older⟩, fun both => older both.2, fun _ => ⟨fun some_ => some_ none_, older⟩⟩
    intro empty
    subst empty
    rw [version_behind, ← taken.empty]
    exact old
  · intro sound
    cases sound.whole with
    | inl long => omega
    | inr nothing =>
        obtain ⟨none_, older⟩ := nothing
        rw [applicationNew_iff] at older
        refine ⟨?_, older⟩
        by_cases filled : loaders = []
        · subst filled
          have old := sound.loader rfl
          rw [version_behind] at old
          rw [taken.empty]
          exact old
        · exact Nat.le_of_not_lt fun newer => (newLoader_iff filled taken.head).mpr newer none_

theorem TakenSection.right_iff (taken : TakenSection info UpdateData section_ loaders place appl) :
    SectionRight info UpdateData section_ ↔ SectionSound info loaders (UpdateData.drop appl) := by
  have decided := taken.decided
  have size : (UpdateData.drop appl).length = UpdateData.length - appl := List.length_drop
  by_cases few : (takenLoaders info.LoaderVersion.toNat loaders).length ≤ 65532
  · by_cases versions : appl + 2 + 0x7e6b + 2 ≤ UpdateData.length
    · by_cases whole : appl + 32770 ≤ UpdateData.length
      · exact taken.right_of_whole few whole
      · exact taken.right_of_cut few versions (by omega)
    · have stuck : updateSection info UpdateData section_ = .stuck := by
        rw [decided, if_pos few, within]
        split
        · exact within_outside (by omega)
        · rfl
      rw [SectionRight, takeLoaderSection_none taken.loaders_ (by omega), stuck]
      refine iff_of_false (fun ⟨_, ended⟩ => by contradiction) fun sound => versions ?_
      have versions := sound.versions
      omega
  · rw [if_neg few] at decided
    refine iff_of_false ?_ fun sound => few sound.few
    rw [SectionRight, decided]
    split
    · exact fun ⟨_, ended⟩ => by contradiction
    · exact fun same => install_stuck _ _ _ same.symm

theorem section_right_iff (section_ : Nat) :
    SectionRight info UpdateData section_ ↔
      ∃ loaders rest, takeLoaders (UpdateData.drop section_) = some (loaders, rest) ∧ SectionSound info loaders rest := by
  by_cases inside : section_ + 2 + 32770 * word_2 UpdateData section_ ≤ UpdateData.length
  · obtain ⟨loaders, place, taken⟩ := @updateSection_taken UpdateData info section_ inside
    rw [taken.right_iff]
    constructor
    · intro sound
      exact ⟨_, _, taken.loaders_, sound⟩
    · intro ⟨_, _, same, sound⟩
      rw [taken.loaders_] at same
      cases same
      exact sound
  · have short := @updateSection_short UpdateData info section_ (Nat.lt_of_not_le inside)
    have missing := takeLoaders_none (Nat.lt_of_not_le inside)
    rw [SectionRight, takeLoaderSection_short missing, short, missing]
    exact iff_of_false (fun ⟨_, ended⟩ => by contradiction) fun ⟨_, _, same, _⟩ => by contradiction

/-! ## The layouts without a key -/

theorem updateFirst_asks (Res : Cjpp) : updateFirst info UpdateData ≠ .done Res := by
  rw [updateFirst, within]
  split
  · rw [product]
    split
    · intro ended
      have none_ := (install_done (fun _ _ _ _ => updateOver_asks _ _) info ended).1
      contradiction
    · exact nofun
  · exact nofun

/-- A section at the beginning of the file, and what is behind it. -/
theorem takeLoaderSection_stands {section_ : LoaderSection} (found : takeLoaderSection file = some (section_, rest)) :
    2 + 32770 * word_2 file 0 + 32770 ≤ file.length ∧ rest = file.drop (2 + 32770 * word_2 file 0 + 32770) := by
  have start : takeLoaderSection (file.drop 0) = some (section_, rest) := found
  have inside : 0 + 2 + 32770 * word_2 file 0 ≤ file.length := by
    refine Nat.le_of_not_lt fun outside => ?_
    rw [takeLoaderSection_short (takeLoaders_none outside)] at start
    contradiction
  obtain ⟨loaders, taken, _⟩ := takeLoaders_some inside
  have whole : 0 + 2 + 32770 * word_2 file 0 + 32770 ≤ file.length := by
    refine Nat.le_of_not_lt fun outside => ?_
    rw [takeLoaderSection_none taken outside] at start
    contradiction
  obtain ⟨other, same, _⟩ := takeLoaderSection_some taken whole
  rw [start] at same
  cases same
  rw [Nat.zero_add] at whole
  exact ⟨whole, by rw [Nat.zero_add]⟩

/-- Nothing is right of the first version of the reader, which takes two images. -/
theorem first_wrong :
    ¬ (match (takeLoaderSection UpdateData).map fun taken =>
        install (fun _ => sendImage) info (taken.1.loaders.head?.map Block.image) (some taken.1.application.image) with
      | none => ∃ Res, updateFirst info UpdateData = .done Res
      | some update => updateFirst info UpdateData = update) := by
  cases found : takeLoaderSection UpdateData with
  | none => exact fun ⟨Res, ended⟩ => updateFirst_asks Res ended
  | some more =>
      obtain ⟨section_, rest⟩ := more
      have whole := (takeLoaderSection_stands found).1
      rw [Option.map_some]
      dsimp only
      rw [updateFirst, within_inside (by omega), product]
      split
      · exact install_both (by omega) _ _
      · exact fun same => install_stuck _ _ _ same.symm

theorem takeLoaderSection_missing (missing : takeLoaderSection file = none) :
    file.length < 2 + 32770 * word_2 file 0 + 32770 := by
  refine Nat.lt_of_not_le fun whole => ?_
  have start : takeLoaderSection (file.drop 0) = none := missing
  have inside : 0 + 2 + 32770 * word_2 file 0 ≤ file.length := by omega
  obtain ⟨loaders, taken, _⟩ := takeLoaders_some inside
  obtain ⟨other, same, _⟩ := takeLoaderSection_some taken (by rw [Nat.zero_add]; exact whole)
  rw [start] at same
  contradiction

/-- The sections for a DRV or a DSU are behind those that are left out. -/
theorem loaded_right_iff :
    (match (loaderSectionBytes info UpdateData).bind takeLoaderSection with
      | none => ∃ Res, updateLoaded info UpdateData = .done Res
      | some (section_, _) =>
          updateLoaded info UpdateData =
            install (fun _ => sendImage) info (newLoader info section_.loaders)
              (newAppl info section_.application.image)) ↔
    (info.BootLoaderVersion ≠ 0x0212 → word_2 UpdateData 0 ≤ 65531) ∧
      ∃ bytes, loaderSectionBytes info UpdateData = some bytes ∧
        ∃ loaders rest, takeLoaders bytes = some (loaders, rest) ∧ SectionSound info loaders rest := by
  have skipped : (word_2 UpdateData 0 + 1) * 32770 = 32770 * word_2 UpdateData 0 + 32770 := by
    rw [Nat.add_mul, Nat.one_mul, Nat.mul_comm]
  by_cases second : info.BootLoaderVersion ≠ 0x0212
  · rw [updateLoaded, if_pos second, loaderSectionBytes, if_pos second, product, skipped, ← Nat.add_assoc]
    cases found : takeLoaderSection UpdateData with
    | none =>
        have short := takeLoaderSection_missing found
        refine iff_of_false ?_ fun ⟨_, _, same, _⟩ => by contradiction
        change ¬ ∃ Res, _ = Dialog.done Res
        have stuck : updateSection info UpdateData (2 + 32770 * word_2 UpdateData 0 + 32770) = .stuck := by
          rw [updateSection, within_outside (by omega)]
        rw [stuck, ite_self, within, ite_self]
        exact fun ⟨_, ended⟩ => by contradiction
    | some more =>
        obtain ⟨section_, rest⟩ := more
        obtain ⟨whole, same⟩ := takeLoaderSection_stands found
        rw [within_inside (by omega), Option.map_some, Option.bind_some, same]
        by_cases few : word_2 UpdateData 0 ≤ 65531
        · have only := @section_right_iff UpdateData info (2 + 32770 * word_2 UpdateData 0 + 32770)
          rw [SectionRight] at only
          rw [if_pos (by omega), and_iff_right fun _ => few]
          simp only [Option.some.injEq, exists_eq_left']
          exact only
        · rw [if_neg (by omega)]
          refine iff_of_false ?_ fun sound => few (sound.1 second)
          split
          · exact fun ⟨_, ended⟩ => by contradiction
          · exact fun same => install_stuck _ _ _ same.symm
  · rw [updateLoaded, if_neg second, loaderSectionBytes, if_neg second]
    have only := @section_right_iff UpdateData info 0
    rw [SectionRight, List.drop_zero] at only
    rw [and_iff_right fun first => absurd first second]
    simp only [Option.some.injEq, exists_eq_left']
    exact only

/-! ## The layout with keys -/

theorem ask_inj {request : Request} {first second : Told → UpdateDialog} :
    (Dialog.ask request first : UpdateDialog) = .ask request second ↔ ∀ told, first told = second told := by
  constructor
  · intro same told
    injection same with _ same
    rw [same]
  · intro all
    rw [funext all]

theorem test_inj {request : Request} {first second : UpdateDialog} : test request first = test request second ↔ first = second := by
  constructor
  · intro same
    have success := ask_inj.mp same ⟨.success, 0⟩
    rwa [if_pos rfl, if_pos rfl] at success
  · intro same
    rw [same]

/-- The keys below 256 and below `kv` have signatures. -/
theorem keys_iff (kv number : Nat) : (∀ KeyVersion : UInt8, KeyVersion.toNat < kv → KeyVersion.toNat < number) ↔ min kv 256 ≤ number := by
  constructor
  · intro all
    refine Nat.le_of_not_lt fun fewer => ?_
    have small : (UInt8.ofNat number).toNat = number := by
      rw [UInt8.toNat_ofNat']
      omega
    have bad := all (UInt8.ofNat number) (by omega)
    omega
  · intro enough KeyVersion older
    have bound := KeyVersion.toNat_lt
    omega

/-- What the code makes of a key. -/
def keyedBody (UpdateData : List UInt8) (section_ AnzahlSign KeyVersion : Nat) : UpdateDialog :=
  let keys := section_ + 2
  let program := updateFrom UpdateData 0 (section_ + 4 + 131 + AnzahlSign * 128) (test .verifyUpdate (.done .success))
  within UpdateData keys 2 <|
  if word_2 UpdateData keys ≠ KeyVersion then
    if KeyVersion > word_2 UpdateData keys then .done .noSign
    else
      let sign := keys + 2 + KeyVersion * 128
      let key := keys + 2 + AnzahlSign * 128
      cjppUpdateData UpdateData 0x4000 key 64 <|
      cjppUpdateData UpdateData 0x4040 (key + 64) 64 <|
      cjppUpdateData UpdateData 0x4080 (key + 128) 3 <|
      within UpdateData sign 128 <|
      test (.verifyKey (slice UpdateData sign 128)) program
  else program

/-- A key section that is in the file. -/
structure PlacedKeys (UpdateData : List UInt8) (section_ : Nat) (keys : KeySection) : Prop where
  inside : section_ + 4 + 128 * word_2 UpdateData section_ + 131 + 32768 ≤ UpdateData.length
  keyVersion : keys.keyVersion = word_2 UpdateData (section_ + 2)
  signatures : keys.signatures = (List.range (word_2 UpdateData section_)).map fun key =>
    slice UpdateData (section_ + (4 + 128 * key)) 128
  publicKey : keys.publicKey = slice UpdateData (section_ + (4 + 128 * word_2 UpdateData section_)) 131
  application : keys.application = slice UpdateData (section_ + (4 + 128 * word_2 UpdateData section_ + 131)) 32768

variable {keys : KeySection}

/-- Where there is a signature with the key, or none is needed, the code sends what should be sent. -/
theorem keyedBody_iff (placed : PlacedKeys UpdateData section_ keys) (KeyVersion : UInt8) :
    keyedBody UpdateData section_ (word_2 UpdateData section_) KeyVersion.toNat = sendKeyed keys KeyVersion.toNat ↔
      (KeyVersion.toNat < keys.keyVersion → KeyVersion.toNat < keys.signatures.length) := by
  have inside := placed.inside
  have number : keys.signatures.length = word_2 UpdateData section_ := by
    rw [placed.signatures, List.length_map, List.length_range]
  have appl : section_ + (4 + 128 * word_2 UpdateData section_ + 131) =
      section_ + 4 + 131 + word_2 UpdateData section_ * 128 := by omega
  have program : updateFrom UpdateData 0 (section_ + 4 + 131 + word_2 UpdateData section_ * 128)
      (test .verifyUpdate (.done .success)) =
        sendAll (imageFrom keys.application 0) (test .verifyUpdate (.done .success)) := by
    have room : section_ + 4 + 131 + word_2 UpdateData section_ * 128 + 32768 ≤ UpdateData.length := by omega
    rw [placed.application, appl]
    exact @updateFrom_image UpdateData _ 508 _ 0 (by decide) room
  rw [keyedBody, sendKeyed, program]
  dsimp only
  rw [within_inside (by omega), placed.keyVersion, number]
  by_cases same : word_2 UpdateData (section_ + 2) = KeyVersion.toNat
  · rw [if_neg (not_not.mpr same), if_pos same]
    exact iff_of_true rfl fun older => by omega
  · rw [if_pos same, if_neg same]
    by_cases newer : KeyVersion.toNat > word_2 UpdateData (section_ + 2)
    · rw [if_pos newer, if_pos newer]
      exact iff_of_true rfl fun older => by omega
    · rw [if_neg newer, if_neg newer]
      by_cases signed : KeyVersion.toNat < word_2 UpdateData section_
      · have signature : keys.signatures[KeyVersion.toNat]? =
            some (slice UpdateData (section_ + 2 + 2 + KeyVersion.toNat * 128) 128) := by
          have place : section_ + (4 + 128 * KeyVersion.toNat) = section_ + 2 + 2 + KeyVersion.toNat * 128 := by omega
          rw [placed.signatures, List.getElem?_map, List.getElem?_range signed, Option.map_some, place]
        have key : section_ + (4 + 128 * word_2 UpdateData section_) =
            section_ + 2 + 2 + word_2 UpdateData section_ * 128 := by omega
        rw [signature, placed.publicKey, key]
        refine iff_of_true ?_ fun _ => signed
        rw [cjppUpdateData, within_inside (by omega), cjppUpdateData, within_inside (by omega), cjppUpdateData,
          within_inside (by omega), within_inside (by omega)]
        simp only [sendAll, List.foldr_cons, List.foldr_nil, slice_slice (show 0 + 64 ≤ 131 by decide),
          slice_slice (show 64 + 64 ≤ 131 by decide), slice_slice (show 128 + 3 ≤ 131 by decide), Nat.add_zero]
      · have unsigned : keys.signatures[KeyVersion.toNat]? = none := by
          rw [List.getElem?_eq_none_iff, number]
          omega
        rw [unsigned, cjppUpdateData, within_inside (by omega)]
        exact iff_of_false nofun fun all => signed (all (by omega))

theorem updateKeyed_iff (placed : PlacedKeys UpdateData section_ keys) :
    updateKeyed info UpdateData section_ (word_2 UpdateData section_) = keyedUpdate info keys ↔
      (¬ (word keys.application 0x7eed < info.ApplicationVersion.toNat ∧ info.ApplicationVersion ≠ 0xffff) →
        min keys.keyVersion 256 ≤ keys.signatures.length) := by
  have inside := placed.inside
  have version : word keys.application 0x7eed =
      word UpdateData (section_ + 4 + 131 + word_2 UpdateData section_ * 128 + 0x7eed) := by
    rw [placed.application, word_slice (by decide)]
    congr 2
    omega
  rw [updateKeyed, keyedUpdate]
  dsimp only
  rw [within_inside (by omega), version]
  by_cases old : word UpdateData (section_ + 4 + 131 + word_2 UpdateData section_ * 128 + 0x7eed) <
      info.ApplicationVersion.toNat ∧ info.ApplicationVersion ≠ 0xffff
  · rw [if_pos old, if_pos old]
    exact iff_of_true rfl fun newer => absurd old newer
  · rw [if_neg old, if_neg old, forall_prop_of_true old, ← keys_iff]
    have asked : (Dialog.ask Request.getKeyVersion fun told => if told.res = .success then
          keyedBody UpdateData section_ (word_2 UpdateData section_) told.KeyVersion.toNat else .done told.res : UpdateDialog) =
        (.ask .getKeyVersion fun told => if told.res = .success then sendKeyed keys told.KeyVersion.toNat else .done told.res) ↔
        ∀ KeyVersion : UInt8, KeyVersion.toNat < keys.keyVersion → KeyVersion.toNat < keys.signatures.length := by
      rw [ask_inj]
      constructor
      · intro same KeyVersion
        have success := same ⟨.success, KeyVersion⟩
        rw [if_pos rfl, if_pos rfl] at success
        exact (keyedBody_iff placed KeyVersion).mp success
      · intro all told
        by_cases success : told.res = .success
        · rw [if_pos success, if_pos success]
          exact (keyedBody_iff placed told.KeyVersion).mpr (all told.KeyVersion)
        · rw [if_neg success, if_neg success]
    by_cases active : info.ActiveModule = 2
    · rw [if_pos active, if_pos active, test_inj]
      exact asked
    · rw [if_neg active, if_neg active]
      exact asked

theorem takeKeySection_placed
    (inside : section_ + 4 + 128 * max 1 (word_2 UpdateData section_) + 131 + 32768 ≤ UpdateData.length) :
    ∃ keys, takeKeySection (UpdateData.drop section_) =
        some (keys, UpdateData.drop (section_ + (4 + 128 * word_2 UpdateData section_ + 131 + 32768))) ∧
      PlacedKeys UpdateData section_ keys := by
  obtain ⟨keys, taken, keyVersion, signatures, publicKey, application⟩ := takeKeySection_some inside
  exact ⟨keys, taken, by omega, keyVersion, signatures, publicKey, application⟩

/-- What should be made of the sections behind that of the DPW. -/
def KeysRight (info : Info) (UpdateData : List UInt8) : Prop :=
  match (keySectionFor info UpdateData).map (keyedUpdate info) with
  | none => ∃ Res, update0050 info UpdateData = .done Res
  | some update => update0050 info UpdateData = update

/-- The sizes that the code adds up. -/
theorem initialSize_eq : initialSize = 164115 := by decide

theorem minSize_iff (section_ : Nat) (minSize : Int) (AnzahlSign : Nat) (same : minSize = section_ + 4 + 128 + 131 + 32768) :
    (¬ ((UpdateData.length : Int) < minSize) ∧ ¬ ((UpdateData.length : Int) < minSize + ((AnzahlSign : Int) - 1) * 128)) ↔
      section_ + 4 + 128 * max 1 AnzahlSign + 131 + 32768 ≤ UpdateData.length := by
  omega

/-- The end of the loader section behind that of the DPW. -/
def firstKeys (UpdateData : List UInt8) : Nat := 65542 + 2 + 32770 * word_2 UpdateData 65542 + 32770

/-- The second key section, behind the first one. -/
def secondKeys (UpdateData : List UInt8) : Nat :=
  firstKeys UpdateData + (32768 + 135 + word_2 UpdateData (firstKeys UpdateData) * 128)

theorem firstKeys_rest (inside : firstKeys UpdateData ≤ UpdateData.length) :
    ∃ section_, takeLoaderSection (UpdateData.drop 65542) = some (section_, UpdateData.drop (firstKeys UpdateData)) := by
  unfold firstKeys at inside ⊢
  obtain ⟨loaders, taken, _⟩ := @takeLoaders_some UpdateData 65542 (by omega)
  obtain ⟨section_, found, _⟩ := takeLoaderSection_some taken inside
  exact ⟨section_, found⟩

theorem firstKeys_none (outside : UpdateData.length < firstKeys UpdateData) :
    takeLoaderSection (UpdateData.drop 65542) = none := by
  unfold firstKeys at outside
  by_cases inside : 65542 + 2 + 32770 * word_2 UpdateData 65542 ≤ UpdateData.length
  · obtain ⟨loaders, taken, _⟩ := takeLoaders_some inside
    exact takeLoaderSection_none taken outside
  · exact takeLoaderSection_short (takeLoaders_none (Nat.lt_of_not_le inside))

/-- Behind the loader section comes a key section. -/
theorem keySectionFor_found {section_ : LoaderSection} (long : initialSize ≤ UpdateData.length)
    (found : takeLoaderSection (UpdateData.drop 65542) = some (section_, rest)) :
    keySectionFor info UpdateData = (takeKeySection rest).bind fun taken =>
      if info.Config &&& 0x02 = 0 then (takeKeySection taken.2).map Prod.fst else some taken.1 := by
  rw [keySectionFor, if_neg (Nat.not_lt.mpr long), found]
  dsimp only
  cases takeKeySection rest with
  | none => rfl
  | some taken => rfl

/-- The first key section has its bytes, and the second one where the reader needs it. -/
theorem keySectionFor_some (long : initialSize ≤ UpdateData.length)
    (first : firstKeys UpdateData + 4 + 128 * max 1 (word_2 UpdateData (firstKeys UpdateData)) + 131 + 32768 ≤
      UpdateData.length) :
    (info.Config &&& 0x02 ≠ 0 → ∃ keys, keySectionFor info UpdateData = some keys ∧
      PlacedKeys UpdateData (firstKeys UpdateData) keys) ∧
    (info.Config &&& 0x02 = 0 →
      keySectionFor info UpdateData = (takeKeySection (UpdateData.drop (secondKeys UpdateData))).map Prod.fst) := by
  obtain ⟨section_, found⟩ := firstKeys_rest (show firstKeys UpdateData ≤ UpdateData.length by omega)
  obtain ⟨keys, taken, placed⟩ := takeKeySection_placed first
  have place : firstKeys UpdateData + (4 + 128 * word_2 UpdateData (firstKeys UpdateData) + 131 + 32768) =
      secondKeys UpdateData := by
    unfold secondKeys
    omega
  rw [place] at taken
  rw [keySectionFor_found long found, taken, Option.bind_some]
  constructor
  · intro class1
    exact ⟨keys, if_neg class1, placed⟩
  · intro other
    exact if_pos other

theorem keySectionFor_none
    (outside : UpdateData.length <
      firstKeys UpdateData + 4 + 128 * max 1 (word_2 UpdateData (firstKeys UpdateData)) + 131 + 32768) :
    keySectionFor info UpdateData = none := by
  by_cases long : initialSize ≤ UpdateData.length
  · by_cases inside : firstKeys UpdateData ≤ UpdateData.length
    · obtain ⟨section_, found⟩ := firstKeys_rest inside
      rw [keySectionFor_found long found, takeKeySection_none outside, Option.bind_none]
    · rw [keySectionFor, if_neg (Nat.not_lt.mpr long), firstKeys_none (Nat.lt_of_not_le inside)]
  · rw [keySectionFor, if_pos (Nat.lt_of_not_le long)]

/-- The section for the reader is there, or the update ends before anything is sent. -/
theorem update0050_cases (long : initialSize ≤ UpdateData.length) (few : word_2 UpdateData 65542 ≤ 65533) :
    (keySectionFor info UpdateData = none ∧ update0050 info UpdateData = .done .firmwareOld) ∨
      ∃ section_ keys, PlacedKeys UpdateData section_ keys ∧ keySectionFor info UpdateData = some keys ∧
        update0050 info UpdateData = updateKeyed info UpdateData section_ (word_2 UpdateData section_) := by
  have smallest := initialSize_eq
  have place : 65542 + 2 + 32770 * word_2 UpdateData 65542 + 32770 = firstKeys UpdateData := rfl
  have same : (initialSize : Int) + ((word_2 UpdateData 65542 : Int) - 1) * 32770 =
      firstKeys UpdateData + 4 + 128 + 131 + 32768 := by
    unfold firstKeys
    omega
  have sizes := @minSize_iff UpdateData (firstKeys UpdateData) _ (word_2 UpdateData (firstKeys UpdateData)) same
  rw [update0050]
  dsimp only
  rw [if_neg (by omega), within_inside (by omega), if_pos (by omega), place]
  by_cases first : firstKeys UpdateData + 4 + 128 * max 1 (word_2 UpdateData (firstKeys UpdateData)) + 131 + 32768 ≤
      UpdateData.length
  · obtain ⟨enough, signed⟩ := sizes.mpr first
    rw [if_neg enough, within_inside (by omega), if_neg signed]
    obtain ⟨class1, other⟩ := @keySectionFor_some UpdateData info long first
    by_cases config : info.Config &&& 0x02 = 0
    · have place : firstKeys UpdateData + (32768 + 135 + word_2 UpdateData (firstKeys UpdateData) * 128) =
          secondKeys UpdateData := rfl
      have same : (initialSize : Int) + ((word_2 UpdateData 65542 : Int) - 1) * 32770 +
            ((word_2 UpdateData (firstKeys UpdateData) : Int) - 1) * 128 + (32768 + 135 + 128) =
          secondKeys UpdateData + 4 + 128 + 131 + 32768 := by
        unfold secondKeys
        omega
      have sizes := @minSize_iff UpdateData (secondKeys UpdateData) _ (word_2 UpdateData (secondKeys UpdateData)) same
      rw [if_pos config, place, other config]
      by_cases second : secondKeys UpdateData + 4 + 128 * max 1 (word_2 UpdateData (secondKeys UpdateData)) + 131 + 32768 ≤
          UpdateData.length
      · obtain ⟨enough, signed⟩ := sizes.mpr second
        obtain ⟨keys, taken, placed⟩ := takeKeySection_placed second
        rw [if_neg enough, within_inside (by omega), if_neg signed, taken]
        exact .inr ⟨_, keys, placed, rfl, rfl⟩
      · rw [takeKeySection_none (Nat.lt_of_not_le second)]
        refine .inl ⟨rfl, ?_⟩
        split
        · rfl
        · case isFalse enough =>
            rw [within_inside (by omega), if_pos]
            exact not_not.mp fun signed => second (sizes.mp ⟨enough, signed⟩)
    · obtain ⟨keys, found, placed⟩ := class1 config
      rw [if_neg config]
      exact .inr ⟨_, keys, placed, found, rfl⟩
  · refine .inl ⟨keySectionFor_none (Nat.lt_of_not_le first), ?_⟩
    by_cases enough : (UpdateData.length : Int) < (initialSize : Int) + ((word_2 UpdateData 65542 : Int) - 1) * 32770
    · rw [if_pos enough]
    · rw [if_neg enough, within_inside (by omega), if_pos]
      exact not_not.mp fun signed => first (sizes.mp ⟨enough, signed⟩)

theorem keys_right_iff : KeysRight info UpdateData ↔ KeysSound info UpdateData := by
  by_cases short : UpdateData.length < initialSize
  · have refused : update0050 info UpdateData = .done .firmwareOld := by
      rw [update0050]
      dsimp only
      rw [if_pos (by omega)]
    have missing : keySectionFor info UpdateData = none := by
      rw [keySectionFor, if_pos short]
    rw [KeysRight, missing, refused]
    refine iff_of_true ⟨_, rfl⟩ ⟨fun long => absurd short (Nat.not_lt.mpr long), fun section_ found => ?_⟩
    rw [missing] at found
    cases found
  · by_cases few : word_2 UpdateData 65542 ≤ 65533
    · cases @update0050_cases UpdateData info (by omega) few with
      | inl refused =>
          rw [KeysRight, refused.1, refused.2]
          refine iff_of_true ⟨_, rfl⟩ ⟨fun _ => few, fun section_ found => ?_⟩
          rw [refused.1] at found
          contradiction
      | inr there =>
          obtain ⟨section_, keys, placed, found, made⟩ := there
          rw [KeysRight, found, made]
          dsimp only [Option.map_some]
          rw [updateKeyed_iff placed]
          constructor
          · intro signed
            refine ⟨fun _ => few, fun other same => ?_⟩
            rw [found] at same
            cases same
            exact signed
          · intro sound
            exact sound.signed keys found
    · have stuck : update0050 info UpdateData = .stuck := by
        have smallest := initialSize_eq
        rw [update0050]
        dsimp only
        rw [if_neg (by omega), within_inside (by omega), if_neg (by omega)]
      rw [KeysRight, stuck]
      refine iff_of_false ?_ fun sound => few (sound.few (Nat.not_lt.mp short))
      split
      · exact fun ⟨_, ended⟩ => nomatch ended
      · case h_2 update found =>
          rw [Option.map_eq_some_iff] at found
          obtain ⟨keys, _, same⟩ := found
          rw [← same, keyedUpdate]
          split
          · exact nofun
          · split
            · exact nofun
            · exact nofun

/-- The update that a file has is sent from the file and from nothing behind it exactly where the file is
sound for the reader. -/
theorem update_right_iff (info : Info) (UpdateData : List UInt8) : Right info UpdateData ↔ Sound info UpdateData := by
  rw [Right, updateFor, cJppFirmwareUpdate, Sound]
  by_cases updatable : info.Config &&& 0x01 = 0
  · rw [if_pos updatable, if_pos updatable, if_pos updatable]
    exact iff_of_true rfl trivial
  · rw [if_neg updatable, if_neg updatable, if_neg updatable]
    by_cases keyed : info.BootLoaderVersion = 0x0050
    · rw [if_pos keyed, if_pos keyed, if_pos keyed]
      exact keys_right_iff
    · rw [if_neg keyed, if_neg keyed, if_neg keyed]
      by_cases version : info.Version > 10
      · rw [if_pos version, if_pos version, if_pos version]
        refine Iff.trans ?_ loaded_right_iff
        cases (loaderSectionBytes info UpdateData).bind takeLoaderSection with
        | none => exact Iff.rfl
        | some found => exact Iff.rfl
      · rw [if_neg version, if_neg version, if_neg version]
        exact iff_of_false first_wrong not_false

/-- An empty file is no update, and the code reads the number of its loaders. -/
theorem empty_file_read :
    let info : Info := ⟨1, 10, 1, 0, 0, 0⟩
    updateFor info [] = none ∧ cJppFirmwareUpdate info [] = .stuck ∧ ¬ Right info [] := by
  have stuck : cJppFirmwareUpdate ⟨1, 10, 1, 0, 0, 0⟩ [] = .stuck := rfl
  have missing : updateFor ⟨1, 10, 1, 0, 0, 0⟩ [] = none := rfl
  refine ⟨missing, stuck, ?_⟩
  rw [Right, missing, stuck]
  exact fun ⟨_, ended⟩ => nomatch ended

end Cyberjack.Ppa.Update
