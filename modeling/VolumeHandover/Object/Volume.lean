import VolumeHandover.Object.Meta

set_option autoImplicit false

/-! # Volumes

A volume is a piece of storage. Its reclaim policy says what becomes of it once the claim that
it refers to is gone: with `Retain` it stays, with `Delete` the backend removes it.
-/

namespace VolumeHandover

structure ObjectReference where
  apiVersion : Option String := none
  kind : Option String := none
  name : Option String := none
  /-- The namespace of the object referred to. -/
  space : Option String := none
  resourceVersion : Option String := none
  uid : Option String := none
deriving DecidableEq, Inhabited

namespace ObjectReference

def toJson (r : ObjectReference) : Json :=
  .record [
    ("apiVersion", r.apiVersion.map .text),
    ("kind", r.kind.map .text),
    ("name", r.name.map .text),
    ("namespace", r.space.map .text),
    ("resourceVersion", r.resourceVersion.map .text),
    ("uid", r.uid.map .text)]

def format : Format ObjectReference :=
  .record (mk <$> .optional "apiVersion" .text <*> .optional "kind" .text <*>
    .optional "name" .text <*> .optional "namespace" .text <*>
    .optional "resourceVersion" .text <*> .optional "uid" .text)

end ObjectReference

/-- What a volume is and whose it is. -/
structure VolumeSpec where
  capacity : Option (Table String) := none
  claimRef : Option ObjectReference := none
  mountOptions : Option (List String) := none
  reclaimPolicy : Option String := none
  storageClassName : Option String := none
deriving DecidableEq, Inhabited

namespace VolumeSpec

def toJson (s : VolumeSpec) : Json :=
  .record [
    ("capacity", s.capacity.map .ofTable),
    ("claimRef", s.claimRef.map ObjectReference.toJson),
    ("mountOptions", s.mountOptions.map .texts),
    ("persistentVolumeReclaimPolicy", s.reclaimPolicy.map .text),
    ("storageClassName", s.storageClassName.map .text)]

def format : Format VolumeSpec :=
  .record (mk <$> .optional "capacity" .table <*>
    .optional "claimRef" ObjectReference.format <*> .optional "mountOptions" .texts <*>
    .optional "persistentVolumeReclaimPolicy" .text <*> .optional "storageClassName" .text)

end VolumeSpec

structure Volume where
  metadata : Meta := {}
  spec : Option VolumeSpec := none
deriving DecidableEq, Inhabited

namespace Volume

instance : StoredKind Volume where
  apiVersion := "v1"
  kind := "PersistentVolume"
  metadata := metadata
  toJson v := .record [
    ("apiVersion", some (.text "v1")),
    ("kind", some (.text "PersistentVolume")),
    ("metadata", some v.metadata.toJson),
    ("spec", v.spec.map VolumeSpec.toJson)]
  body := mk <$> Meta.field <*> .optional "spec" VolumeSpec.format

def anyName (v : Volume) : String := v.metadata.anyName

end Volume

end VolumeHandover
