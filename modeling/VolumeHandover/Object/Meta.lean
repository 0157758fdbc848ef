import VolumeHandover.Object.Moment

set_option autoImplicit false

/-! # Object metadata

What every object of the cluster carries: its names, its place and version, labels and
annotations, the finalizers that hold back its deletion and the moment that was asked for.
An object goes by its name, or failing that by the stem its name is to be generated from.
-/

namespace VolumeHandover

/-! ## Metadata -/

structure Meta where
  name : Option String := none
  generateName : Option String := none
  /-- The namespace that the object is in. -/
  space : Option String := none
  uid : Option String := none
  resourceVersion : Option String := none
  labels : Option (Table String) := none
  annotations : Option (Table String) := none
  finalizers : Option (List String) := none
  deletionTimestamp : Option Moment := none
deriving DecidableEq, Inhabited

namespace Meta

def named (name : String) : Meta := { name := some name }

/-- The name an object goes by. -/
def anyName (m : Meta) : String := (m.name.or m.generateName).getD ""

def toJson (m : Meta) : Json :=
  .record [
    ("annotations", m.annotations.map .ofTable),
    ("deletionTimestamp", m.deletionTimestamp.map fun d => .text d.text),
    ("finalizers", m.finalizers.map .texts),
    ("generateName", m.generateName.map .text),
    ("labels", m.labels.map .ofTable),
    ("name", m.name.map .text),
    ("namespace", m.space.map .text),
    ("resourceVersion", m.resourceVersion.map .text),
    ("uid", m.uid.map .text)]

def format : Format Meta :=
  .record (mk <$> .optional "name" .text <*> .optional "generateName" .text <*>
    .optional "namespace" .text <*> .optional "uid" .text <*>
    .optional "resourceVersion" .text <*> .optional "labels" .table <*>
    .optional "annotations" .table <*> .optional "finalizers" .texts <*>
    .optional "deletionTimestamp" Moment.format)

/-- The metadata in an object; an object without has empty metadata. -/
def field : Fields Meta := .orDefault "metadata" format {}

end Meta

/-! ## Objects -/

/-- A kind of object that the cluster stores. -/
class StoredKind (α : Type) where
  apiVersion : String
  kind : String
  metadata : α → Meta
  /-- Write an object with its version and its kind. -/
  toJson : α → Json
  /-- The fields of an object besides its version and its kind. -/
  body : Fields α

namespace StoredKind

variable {α : Type} [k : StoredKind α]

/-- Read an object: version and kind may be missing but not be others. -/
def ofJson? : Json → Option α :=
  Json.asRecord fun j =>
    if j.missingOr "apiVersion" k.apiVersion && j.missingOr "kind" k.kind then
      k.body.ofRecord? j
    else none

def format : Format α where
  shape := .record (("apiVersion", .text (· = k.apiVersion)) :: ("kind", .text (· = k.kind)) ::
    k.body.shapes)
  ofJson? := ofJson?

end StoredKind

end VolumeHandover
