import Mathlib.Data.List.Basic

namespace Cyberjack.Foundation

/-! # Data objects

A string of objects one behind the other: a byte for the tag, a byte for the
length, the value.
-/

structure DataObject where
  tag : UInt8
  value : List UInt8
  bounded : value.length < 256

namespace DataObject

def encode (object : DataObject) : List UInt8 :=
  object.tag :: UInt8.ofNat object.value.length :: object.value

def encodeAll (objects : List DataObject) : List UInt8 := objects.flatMap encode

@[simp] theorem length_encode (object : DataObject) :
    object.encode.length = object.value.length + 2 := rfl

@[simp] theorem encodeAll_nil : encodeAll [] = [] := rfl

@[simp] theorem encodeAll_cons (object : DataObject) (objects : List DataObject) :
    encodeAll (object :: objects) = object.encode ++ encodeAll objects := rfl

@[simp] theorem encodeAll_append (first second : List DataObject) :
    encodeAll (first ++ second) = encodeAll first ++ encodeAll second := by
  simp [encodeAll]

theorem length_le_encodeAll (objects : List DataObject) :
    objects.length ≤ (encodeAll objects).length := by
  induction objects with
  | nil => exact Nat.le_refl 0
  | cons object rest ih =>
      rw [encodeAll_cons, List.length_append, length_encode, List.length_cons]
      omega

end DataObject

end Cyberjack.Foundation
