import VolumeHandover.Object.Meta

set_option autoImplicit false

/-! # Caches of objects

A cache shows the objects of one kind as they were last heard of. It is filled by a list and
kept up to date by changes. Objects are told apart by name and namespace, and an object
without a namespace differs from one whose namespace is the empty text. It may be found under
any namespace, though, in which there is none of its name.
-/

namespace VolumeHandover

/-- What tells an object apart from the others of its kind. -/
structure ObjectKey where
  name : String
  space : Option String := none
deriving DecidableEq, Inhabited, Repr

/-- The key of an object; there is none for an object without a name. -/
def Meta.objectKey? (m : Meta) : Option ObjectKey :=
  m.name.map fun name => { name, space := m.space }

inductive Change (α : Type) where
  | applied (object : α)
  /-- The object was removed, when it was like this. -/
  | deleted (object : α)
deriving DecidableEq, Inhabited

def Change.object {α : Type} : Change α → α
  | .applied object => object
  | .deleted object => object

/-- Objects by their keys; no key occurs twice. -/
structure Cache (α : Type) where
  entries : List (ObjectKey × α) := []
deriving Inhabited

namespace Cache

variable {α : Type}

def get? (c : Cache α) (key : ObjectKey) : Option α :=
  (c.entries.find? (·.1 = key)).map (·.2)

/-- The object under a key; failing that, the object of the same name without a namespace. -/
def find? (c : Cache α) (key : ObjectKey) : Option α :=
  (c.get? key).or (c.get? { name := key.name })

def erase (c : Cache α) (key : ObjectKey) : Cache α :=
  ⟨c.entries.filter (·.1 ≠ key)⟩

/-- Put an object under a key, in place of what was there. -/
def insert (c : Cache α) (key : ObjectKey) (object : α) : Cache α :=
  ⟨(c.erase key).entries ++ [(key, object)]⟩

/-- Take note of a change of an object; nothing if the object has no name. -/
def note [k : StoredKind α] (c : Cache α) (change : Change α) : Option (Cache α) :=
  (k.metadata change.object).objectKey?.map fun key =>
    match change with
    | .applied object => c.insert key object
    | .deleted _ => c.erase key

/-- The cache of the listed objects, of which the later of two with one key counts; nothing if
one of them has no name. -/
def ofList [StoredKind α] (objects : List α) : Option (Cache α) :=
  objects.foldlM (fun c object => c.note (.applied object)) {}

end Cache

end VolumeHandover
