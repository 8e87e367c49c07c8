import Cyberjack.Foundation.Dialog
import Cyberjack.Ppa.FirmwareFile
import Cyberjack.Ppa.T1

namespace Cyberjack.Ppa.Update

open Cyberjack.Foundation

/-! # cJppFirmwareUpdate

The update as a dialog with the reader.  It is stuck where the file is read behind
its end, where a product is no `int`, and where a handle is used that is freed.
-/

/-- The members of `cjpp_Info` that decide. -/
structure Info where
  ActiveModule : UInt8
  Version : UInt16
  Config : UInt8
  ApplicationVersion : UInt16
  LoaderVersion : UInt16
  BootLoaderVersion : UInt16

/-- What is sent to the reader; `reopen` closes it and calls `ctapiInit`. -/
inductive Request where
  | startLoader
  | getKeyVersion
  | updateData (addr : Nat) (Data : List UInt8)
  | verifyKey (sign : List UInt8)
  | verifyUpdate
  | reopen

/-- The result of a request; `KeyVersion` counts where it was asked for. -/
structure Told where
  res : Cjpp
  KeyVersion : UInt8

abbrev UpdateDialog := Dialog Request (fun _ => Told) Cjpp

/-- `CJPP_TEST2` -/
def test (request : Request) (behind : UpdateDialog) : UpdateDialog :=
  .ask request fun told => if told.res = .success then behind else .done told.res

/-- The file is read. -/
def within (UpdateData : List UInt8) (offset count : Nat) (behind : UpdateDialog) : UpdateDialog :=
  if offset + count ≤ UpdateData.length then behind else .stuck

/-- A product of two `int`s. -/
def product (first second : Nat) (behind : Nat → UpdateDialog) : UpdateDialog :=
  if first * second ≤ 2147483647 then behind (first * second) else .stuck

def cjppUpdateData (UpdateData : List UInt8) (addr pointer len : Nat) (behind : UpdateDialog) : UpdateDialog :=
  within UpdateData pointer len (test (.updateData addr (slice UpdateData pointer len)) behind)

/-- `for(;addr<0x7f00;addr+=64,pointer+=64)` -/
def updateFrom (UpdateData : List UInt8) (addr pointer : Nat) (behind : UpdateDialog) : UpdateDialog :=
  if addr < 0x7f00 then
    cjppUpdateData UpdateData addr pointer 64 (updateFrom UpdateData (addr + 64) (pointer + 64) behind)
  else behind
termination_by 0x7f00 - addr

/-- The image at the pointer, which is a loader or an application. -/
def updateImage (UpdateData : List UInt8) (image : Nat) (behind : UpdateDialog) : UpdateDialog :=
  cjppUpdateData UpdateData 8 (image + 8) 56 <|
  cjppUpdateData UpdateData 64 (image + 8 + 56) 64 <|
  cjppUpdateData UpdateData 128 (image + 8 + 56 + 64) 64 <|
  cjppUpdateData UpdateData 192 (image + 8 + 56 + 64 + 64) 64 <|
  updateFrom UpdateData 0x600 (image + 8 + 56 + 64 + 64 + (64 + 0x500)) <|
  test .verifyUpdate behind

/-- The handle is freed, and there is a new one of the reader. -/
def reopened (behind : UpdateDialog) : UpdateDialog :=
  .ask .reopen fun told => if told.res = .success then behind else .done .openingDevice

/-- The end of the function, for images of any kind; an image is told whether the handle that was opened
first is freed by then. -/
def install {α : Type} (image : Bool → α → UpdateDialog → UpdateDialog) (Info : Info) (loader appl : Option α) :
    UpdateDialog :=
  let applPart (freed : Bool) : UpdateDialog :=
    match appl with
    | none => .done .success
    | some appl => image freed appl (.done .success)
  let loaderPart (freed : Bool) : UpdateDialog :=
    match loader with
    | none => applPart freed
    | some loader => image freed loader (if appl.isSome then reopened (applPart true) else applPart true)
  if loader.isSome ∨ appl.isSome then
    if Info.ActiveModule = 2 then test .startLoader (reopened (loaderPart true)) else loaderPart false
  else .done .firmwareOld

/-- An image over `hCtDevice`, which stays a part of the handle that was opened first; `innerctapiClose`
frees that, and nothing is said of what is sent over it later. -/
def updateOver (UpdateData : List UInt8) (freed : Bool) (image : Nat) (behind : UpdateDialog) : UpdateDialog :=
  if freed then .stuck else updateImage UpdateData image behind

/-! ## The layouts -/

/-- The blocks of a reader with a key, whose section is at `section_`. -/
def updateKeyed (Info : Info) (UpdateData : List UInt8) (section_ AnzahlSign : Nat) : UpdateDialog :=
  let appl := section_ + 4 + 131 + AnzahlSign * 128
  let keys := section_ + 2
  let program := updateFrom UpdateData 0 appl (test .verifyUpdate (.done .success))
  let keyed : UpdateDialog :=
    .ask .getKeyVersion fun told =>
      if told.res = .success then
        within UpdateData keys 2 <|
        if word_2 UpdateData keys ≠ told.KeyVersion.toNat then
          if told.KeyVersion.toNat > word_2 UpdateData keys then .done .noSign
          else
            let sign := keys + 2 + told.KeyVersion.toNat * 128
            let key := keys + 2 + AnzahlSign * 128
            cjppUpdateData UpdateData 0x4000 key 64 <|
            cjppUpdateData UpdateData 0x4040 (key + 64) 64 <|
            cjppUpdateData UpdateData 0x4080 (key + 128) 3 <|
            within UpdateData sign 128 <|
            test (.verifyKey (slice UpdateData sign 128)) program
        else program
      else .done told.res
  within UpdateData (appl + 0x7eed) 2 <|
  if word UpdateData (appl + 0x7eed) < Info.ApplicationVersion.toNat ∧ Info.ApplicationVersion ≠ 0xffff then
    .done .firmwareOld
  else if Info.ActiveModule = 2 then test .startLoader keyed
  else keyed

/-- The DPW section, a loader and the application of a DRV or DSU, a key, a signature and an application. -/
def initialSize : Nat := 65542 + 32772 + 32770 + 135 + 128 + 32768

/-- `BootLoaderVersion==0x0050`.  `minSize` never gets less than 0. -/
def update0050 (Info : Info) (UpdateData : List UInt8) : UpdateDialog :=
  let Length : Int := UpdateData.length
  let minSize : Int := initialSize
  if Length < minSize then .done .firmwareOld
  else
    within UpdateData 65542 2 <|
    let AnzahlSign := word_2 UpdateData 65542
    let section_ := 65542 + 2 + 32770 * AnzahlSign + 32770
    if ((AnzahlSign : Int) - 1) * 32770 ≤ 2147483647 then
      let minSize := minSize + ((AnzahlSign : Int) - 1) * 32770
      if Length < minSize then .done .firmwareOld
      else
        within UpdateData section_ 2 <|
        let AnzahlSign := word_2 UpdateData section_
        let minSize := minSize + ((AnzahlSign : Int) - 1) * 128
        if Length < minSize then .done .firmwareOld
        else if Info.Config &&& 0x02 = 0 then
          let minSize := minSize + (32768 + 135 + 128)
          if Length < minSize then .done .firmwareOld
          else
            let section_ := section_ + (32768 + 135 + AnzahlSign * 128)
            within UpdateData section_ 2 <|
            let AnzahlSign := word_2 UpdateData section_
            let minSize := minSize + ((AnzahlSign : Int) - 1) * 128
            if Length < minSize then .done .firmwareOld
            else updateKeyed Info UpdateData section_ AnzahlSign
        else updateKeyed Info UpdateData section_ AnzahlSign
    else .stuck

/-- The loaders that need not be taken, because the reader has a version that the next one is for. -/
def skipLoaders (UpdateData : List UInt8) (LoaderVersion : Nat) : Nat → Nat → (Nat → Nat → UpdateDialog) → UpdateDialog
  | 0, pointer, behind => behind 0 pointer
  | number + 1, pointer, behind =>
      if number + 1 > 1 then
        within UpdateData (pointer + 32770) 2 <|
        if word_2 UpdateData (pointer + 32770) ≤ LoaderVersion then
          skipLoaders UpdateData LoaderVersion number (pointer + 32770) behind
        else behind (number + 1) pointer
      else behind (number + 1) pointer

/-- The section at the pointer in the file of a reader with `Version>10`. -/
def updateSection (Info : Info) (UpdateData : List UInt8) (section_ : Nat) : UpdateDialog :=
  within UpdateData section_ 2 <|
  skipLoaders UpdateData Info.LoaderVersion.toNat (word_2 UpdateData section_) (section_ + 2) fun AnzahlSign pointer =>
    let loader := pointer + 2
    product AnzahlSign 32770 fun loaders =>
      let appl := pointer + loaders + 2
      within UpdateData (loader + 0x7e6b) 2 <|
      within UpdateData (appl + 0x7e6b) 2 <|
      let newLoader := word UpdateData (loader + 0x7e6b) > Info.LoaderVersion.toNat
      let newAppl := word UpdateData (appl + 0x7e6b) ≥ Info.ApplicationVersion.toNat ∨ Info.ApplicationVersion = 0xffff
      install (updateOver UpdateData) Info (if newLoader then some loader else none) (if newAppl then some appl else none)

/-- `Info.Version>10`; the section for a DRV or a DSU is the second one. -/
def updateLoaded (Info : Info) (UpdateData : List UInt8) : UpdateDialog :=
  if Info.BootLoaderVersion ≠ 0x0212 then
    within UpdateData 0 2 <|
    product (word_2 UpdateData 0 + 1) 32770 fun skipped => updateSection Info UpdateData (2 + skipped)
  else updateSection Info UpdateData 0

/-- The first version of the reader. -/
def updateFirst (Info : Info) (UpdateData : List UInt8) : UpdateDialog :=
  within UpdateData 0 2 <|
  product (word_2 UpdateData 0) 32770 fun loaders =>
    install (updateOver UpdateData) Info (some 4) (some (2 + loaders + 2))

def cJppFirmwareUpdate (Info : Info) (UpdateData : List UInt8) : UpdateDialog :=
  if Info.Config &&& 0x01 = 0 then .done .notUpdatable
  else if Info.BootLoaderVersion = 0x0050 then update0050 Info UpdateData
  else if Info.Version > 10 then updateLoaded Info UpdateData
  else updateFirst Info UpdateData

/-! ## What should be sent -/

/-- Data at their addresses, in order. -/
def sendAll (parts : List (Nat × List UInt8)) (behind : UpdateDialog) : UpdateDialog :=
  parts.foldr (fun part behind => test (.updateData part.1 part.2) behind) behind

/-- The bytes of an image from `start` to `0x7f00`. -/
def imageFrom (image : List UInt8) (start : Nat) : List (Nat × List UInt8) :=
  (List.range ((0x7f00 - start) / 64)).map fun part => (start + 64 * part, slice image (start + 64 * part) 64)

/-- The image of a loader or an application, without its first bytes and those from 256 to 0x600. -/
def sendImage (image : List UInt8) (behind : UpdateDialog) : UpdateDialog :=
  sendAll ([(8, slice image 8 56), (64, slice image 64 64), (128, slice image 128 64), (192, slice image 192 64)] ++
    imageFrom image 0x600) (test .verifyUpdate behind)

/-- The loaders from the one on that a reader with the version takes. -/
def takenLoaders (LoaderVersion : Nat) : List Block → List Block
  | [] => []
  | [last] => [last]
  | first :: next :: rest =>
      if next.version ≤ LoaderVersion then takenLoaders LoaderVersion (next :: rest) else first :: next :: rest

/-- The version in an image of a loader section. -/
def imageVersion (image : List UInt8) : Nat := word image 0x7e6b

def newLoader (Info : Info) (loaders : List Block) : Option (List UInt8) :=
  (takenLoaders Info.LoaderVersion.toNat loaders).head?.bind fun loader =>
    if imageVersion loader.image > Info.LoaderVersion.toNat then some loader.image else none

def newAppl (Info : Info) (image : List UInt8) : Option (List UInt8) :=
  if imageVersion image ≥ Info.ApplicationVersion.toNat ∨ Info.ApplicationVersion = 0xffff then some image else none

/-- A key section for a reader that has told its key. -/
def sendKeyed (section_ : KeySection) (KeyVersion : Nat) : UpdateDialog :=
  let program := sendAll (imageFrom section_.application 0) (test .verifyUpdate (.done .success))
  if section_.keyVersion = KeyVersion then program
  else if section_.keyVersion < KeyVersion then .done .noSign
  else
    match section_.signatures[KeyVersion]? with
    | none => .done .noSign
    | some signature =>
        sendAll [(0x4000, slice section_.publicKey 0 64), (0x4040, slice section_.publicKey 64 64),
          (0x4080, slice section_.publicKey 128 3)] (test (.verifyKey signature) program)

/-- The update with a key section. -/
def keyedUpdate (Info : Info) (section_ : KeySection) : UpdateDialog :=
  let keyed : UpdateDialog :=
    .ask .getKeyVersion fun told =>
      if told.res = .success then sendKeyed section_ told.KeyVersion.toNat else .done told.res
  if word section_.application 0x7eed < Info.ApplicationVersion.toNat ∧ Info.ApplicationVersion ≠ 0xffff then
    .done .firmwareOld
  else if Info.ActiveModule = 2 then test .startLoader keyed
  else keyed

/-- The key section for the reader; the smallest file has a loader and a signature in front of it. -/
def keySectionFor (Info : Info) (file : List UInt8) : Option KeySection :=
  match if file.length < initialSize then none else takeLoaderSection (file.drop 65542) with
  | none => none
  | some (_, rest) =>
      match takeKeySection rest with
      | none => none
      | some (first, rest) =>
          if Info.Config &&& 0x02 = 0 then (takeKeySection rest).map Prod.fst else some first

/-- The bytes from the loader section for the reader on. -/
def loaderSectionBytes (Info : Info) (file : List UInt8) : Option (List UInt8) :=
  if Info.BootLoaderVersion ≠ 0x0212 then (takeLoaderSection file).map Prod.snd else some file

/-- The update that the file has for the reader; a file that is too short has none. -/
def updateFor (Info : Info) (file : List UInt8) : Option UpdateDialog :=
  if Info.Config &&& 0x01 = 0 then some (.done .notUpdatable)
  else if Info.BootLoaderVersion = 0x0050 then (keySectionFor Info file).map (keyedUpdate Info)
  else if Info.Version > 10 then
    match (loaderSectionBytes Info file).bind takeLoaderSection with
    | none => none
    | some (section_, _) =>
        some (install (fun _ => sendImage) Info (newLoader Info section_.loaders) (newAppl Info section_.application.image))
  else
    (takeLoaderSection file).map fun taken =>
      install (fun _ => sendImage) Info (taken.1.loaders.head?.map Block.image) (some taken.1.application.image)

/-- The dialog is that of the update in the file; where there is none nothing is sent. -/
def Right (Info : Info) (UpdateData : List UInt8) : Prop :=
  match updateFor Info UpdateData with
  | none => ∃ Res, cJppFirmwareUpdate Info UpdateData = .done Res
  | some update => cJppFirmwareUpdate Info UpdateData = update

end Cyberjack.Ppa.Update
