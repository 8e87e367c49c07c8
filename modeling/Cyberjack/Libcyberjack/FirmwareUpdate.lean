import Cyberjack.Eca.PortFile
import Cyberjack.Libcyberjack.UploadSession

namespace Cyberjack.Libcyberjack

open Cyberjack.Foundation Cyberjack.Ctapi
open Cyberjack.Eca (strcasecmp)

/-! # Updating the firmware

`module.cpp` and `modulestore.cpp` read the files of a template, and `FXCY_ReaderFlash2::onCmdButtonFlash` sends
its modules to the reader.
-/

/-- The loop of `readFile` in front of a pass; `size` is the room behind what is in the buffer. -/
def readPasses : Nat → Eca.Stream → Nat → List UInt8 → Option (List UInt8)
  | 0, _, _, _ => none
  | passes + 1, f, size, buffer =>
      if size < 1 then none
      else
        let l := if size > 1024 then 1024 else size
        let read := f.bytes.take l
        if read.length = 0 then some buffer
        -- `feof` where fewer bytes were there than asked for
        else if read.length < l ∧ f.error = false then some (buffer ++ read)
        else readPasses passes { f with bytes := f.bytes.drop l } (size - read.length) (buffer ++ read)

/-- `none` is -1. -/
def readFile (file : Option Eca.Stream) (size : Nat) : Option (List UInt8) :=
  file.bind fun f => readPasses (size + 1) f size []

abbrev FileSystem := List UInt8 → Option Eca.Stream

def bufferSize : Nat := 64 * 1024

/-- A file of which nothing can be read is refused like one that is missing. -/
def readWhole (files : FileSystem) (path name : List UInt8) : Option (List UInt8) :=
  match readFile (files (path ++ 0x2f :: name)) (bufferSize - 1) with
  | none => none
  | some data => if data.length < 1 then none else some data

structure Module where
  moduleName : List UInt8
  binFileName : List UInt8
  sigFileName : List UInt8
  binFileData : List UInt8
  sigFileData : List UInt8

structure ModuleStore where
  path : List UInt8
  keyFileName : List UInt8
  keyFileData : List UInt8
  modules : List Module

def Module.readModuleBinaries (files : FileSystem) (path : List UInt8) (m : Module) : Bool × Module :=
  match readWhole files path m.binFileName with
  | none => (false, m)
  | some binFileData =>
      match readWhole files path m.sigFileName with
      | none => (false, { m with binFileData })
      | some sigFileData => (true, { m with binFileData, sigFileData })

def named (name : List UInt8) (m : Module) : Bool := strcasecmp m.moduleName name

def ModuleStore.findModuleByName (store : ModuleStore) (name : List UInt8) : Option Module :=
  store.modules.find? (named name)

/-- How the update ends: what the message on the screen says. -/
inductive UpdateEnd where
  | keyFile
  | binaries (name : List UInt8)
  | declined
  | connection (rv : ErrorCode)
  | deletion (rv : ErrorCode)
  | module (name : List UInt8) (rv : ErrorCode)
  | signature (name : List UInt8) (rv : ErrorCode)
  | upload (rv : ErrorCode)
  | disconnection (rv : ErrorCode)
  | installed
  | waiting
deriving Repr, DecidableEq

/-- What is read of a file, which is something and less than the buffer has room for.  A read error is taken for
the end of the file. -/
def partOf (files : FileSystem) (path name : List UInt8) : Option (List UInt8) :=
  (files (path ++ 0x2f :: name)).bind fun f => if f.bytes = [] ∨ 65535 ≤ f.bytes.length then none else some f.bytes

/-- What the reader is handed of a module, for the bytes of its two files. -/
def loadOf (data : List UInt8 → Option (List UInt8)) (m : Module) : Option ReaderCall :=
  match data m.binFileName, data m.sigFileName with
  | some binFileData, some sigFileData => some (.CtLoadModule binFileData sigFileData)
  | _, _ => none

/-- Something can be read of the key file and of all files of the template. -/
def Complete (files : FileSystem) (store : ModuleStore) (names : List (List UInt8)) : Prop :=
  partOf files store.path store.keyFileName ≠ none ∧
    ∀ name ∈ names, ∀ m, store.findModuleByName name = some m → loadOf (partOf files store.path) m ≠ none

variable {files : FileSystem} {path name : List UInt8} {names : List (List UInt8)} {modules read : List Module}
  {m m' : Module} {size passes : Nat}

/-- The files of a module have been read. -/
def Loaded (files : FileSystem) (path : List UInt8) (m : Module) : Prop :=
  m.readModuleBinaries files path = (true, m)

/-- The same module, before and after it has been read. -/
structure SameModule (files : FileSystem) (path : List UInt8) (m m' : Module) : Prop where
  moduleName : m'.moduleName = m.moduleName
  load : loadOf (partOf files path) m' = loadOf (partOf files path) m
  loaded : Loaded files path m → Loaded files path m'

/-- What is found under a name, before and after modules have been read. -/
inductive Found (files : FileSystem) (path : List UInt8) : Option Module → Option Module → Prop where
  | none : Found files path none none
  | same {m m' : Module} (same : SameModule files path m m') : Found files path (some m) (some m')

theorem Found.trans {before between after : Option Module} (first : Found files path before between)
    (second : Found files path between after) : Found files path before after := by
  cases first with
  | none => exact second
  | same first =>
      cases second with
      | same second =>
          exact .same ⟨second.moduleName.trans first.moduleName, second.load.trans first.load,
            fun loaded => second.loaded (first.loaded loaded)⟩

variable {context : FlashContext} {course : ModuleDeliveries} {courses : List ModuleDeliveries}
  {plan : List ReaderCall} {update : UpdateCourse} {store : ModuleStore}

end Cyberjack.Libcyberjack
