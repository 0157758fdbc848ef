import VolumeHandover.Object.Meta

set_option autoImplicit false

/-! # Claims

A claim asks for storage of a class. It is bound once it names a volume and its phase says
so.
-/

namespace VolumeHandover

structure Resources where
  limits : Option (Table String) := none
  requests : Option (Table String) := none
deriving DecidableEq, Inhabited

namespace Resources

def toJson (r : Resources) : Json :=
  .record [("limits", r.limits.map .ofTable), ("requests", r.requests.map .ofTable)]

def format : Format Resources :=
  .record (mk <$> .optional "limits" .table <*> .optional "requests" .table)

end Resources

/-- The labels that a volume must carry to be chosen for a claim. -/
structure LabelSelector where
  matchLabels : Option (Table String) := none
deriving DecidableEq, Inhabited

namespace LabelSelector

def toJson (s : LabelSelector) : Json := .record [("matchLabels", s.matchLabels.map .ofTable)]

def format : Format LabelSelector := .record (mk <$> .optional "matchLabels" .table)

end LabelSelector

/-- The object that a new volume is to be filled from. -/
structure DataSource where
  apiGroup : Option String := none
  kind : String := ""
  name : String := ""
deriving DecidableEq, Inhabited

namespace DataSource

def toJson (d : DataSource) : Json :=
  .record [("apiGroup", d.apiGroup.map .text), ("kind", some (.text d.kind)),
    ("name", some (.text d.name))]

def format : Format DataSource :=
  .record (mk <$> .optional "apiGroup" .text <*> .orDefault "kind" .text "" <*>
    .orDefault "name" .text "")

end DataSource

/-- What a claim asks for, and the volume it got. -/
structure ClaimSpec where
  accessModes : Option (List String) := none
  dataSource : Option DataSource := none
  resources : Option Resources := none
  selector : Option LabelSelector := none
  storageClassName : Option String := none
  volumeMode : Option String := none
  volumeName : Option String := none
deriving DecidableEq, Inhabited

namespace ClaimSpec

def toJson (s : ClaimSpec) : Json :=
  .record [
    ("accessModes", s.accessModes.map .texts),
    ("dataSource", s.dataSource.map DataSource.toJson),
    ("resources", s.resources.map Resources.toJson),
    ("selector", s.selector.map LabelSelector.toJson),
    ("storageClassName", s.storageClassName.map .text),
    ("volumeMode", s.volumeMode.map .text),
    ("volumeName", s.volumeName.map .text)]

def format : Format ClaimSpec :=
  .record (mk <$> .optional "accessModes" .texts <*>
    .optional "dataSource" DataSource.format <*> .optional "resources" Resources.format <*>
    .optional "selector" LabelSelector.format <*> .optional "storageClassName" .text <*>
    .optional "volumeMode" .text <*> .optional "volumeName" .text)

end ClaimSpec

structure ClaimStatus where
  phase : Option String := none
deriving DecidableEq, Inhabited

namespace ClaimStatus

def toJson (s : ClaimStatus) : Json := .record [("phase", s.phase.map .text)]

def format : Format ClaimStatus := .record (mk <$> .optional "phase" .text)

end ClaimStatus

structure Claim where
  metadata : Meta := {}
  spec : Option ClaimSpec := none
  status : Option ClaimStatus := none
deriving DecidableEq, Inhabited

namespace Claim

instance : StoredKind Claim where
  apiVersion := "v1"
  kind := "PersistentVolumeClaim"
  metadata := metadata
  toJson c := .record [
    ("apiVersion", some (.text "v1")),
    ("kind", some (.text "PersistentVolumeClaim")),
    ("metadata", some c.metadata.toJson),
    ("spec", c.spec.map ClaimSpec.toJson),
    ("status", c.status.map ClaimStatus.toJson)]
  body :=
    mk <$> Meta.field <*> .optional "spec" ClaimSpec.format <*>
      .optional "status" ClaimStatus.format

def anyName (c : Claim) : String := c.metadata.anyName

/-- The name of the claim's namespace, empty if it has none. -/
def spaceName (c : Claim) : String := c.metadata.space.getD ""

/-- The key a claim is filed under: namespace and name. -/
def key (c : Claim) : String := c.spaceName ++ "/" ++ c.anyName

def annotated? (c : Claim) (key : String) : Option String :=
  c.metadata.annotations.bind (·.get? key)

/-- The finalizers of a claim; none if the list is absent. -/
def finalizers (c : Claim) : List String := c.metadata.finalizers.getD []

/-- The volume that a claim names, if it names one. -/
def volumeName? (c : Claim) : Option String :=
  (c.spec.bind (·.volumeName)).filter (· ≠ "")

/-- Whether the phase of a claim says that it is bound. -/
def isBound (c : Claim) : Bool := c.status.bind (·.phase) = some "Bound"

end Claim

end VolumeHandover
