import VolumeHandover.Object.Claim

set_option autoImplicit false

/-! # Pods

As much of a pod as it takes to run one container next to a claim on a chosen node.
-/

namespace VolumeHandover

structure Container where
  image : Option String := none
  name : String := ""
  resources : Option Resources := none
deriving DecidableEq, Inhabited

namespace Container

def toJson (c : Container) : Json :=
  .record [("image", c.image.map .text), ("name", some (.text c.name)),
    ("resources", c.resources.map Resources.toJson)]

def format : Format Container :=
  .record (mk <$> .optional "image" .text <*> .orDefault "name" .text "" <*>
    .optional "resources" Resources.format)

end Container

/-- A taint that a pod puts up with. -/
structure Toleration where
  operator : Option String := none
deriving DecidableEq, Inhabited

namespace Toleration

def toJson (t : Toleration) : Json := .record [("operator", t.operator.map .text)]

def format : Format Toleration := .record (mk <$> .optional "operator" .text)

end Toleration

/-- A volume of a pod, backed by a claim if `claimName` is there. -/
structure PodVolume where
  name : String := ""
  claimName : Option String := none
deriving DecidableEq, Inhabited

namespace PodVolume

def toJson (v : PodVolume) : Json :=
  .record [("name", some (.text v.name)),
    ("persistentVolumeClaim",
      v.claimName.map fun claim => .record [("claimName", some (.text claim))])]

def format : Format PodVolume :=
  .record (mk <$> .orDefault "name" .text "" <*>
    .optional "persistentVolumeClaim" (.record (.orDefault "claimName" .text "")))

end PodVolume

/-- What a pod runs and where. -/
structure PodSpec where
  containers : List Container := []
  nodeSelector : Option (Table String) := none
  restartPolicy : Option String := none
  tolerations : Option (List Toleration) := none
  volumes : Option (List PodVolume) := none
deriving DecidableEq, Inhabited

namespace PodSpec

def toJson (s : PodSpec) : Json :=
  .record [
    ("containers", some (.list (s.containers.map Container.toJson))),
    ("nodeSelector", s.nodeSelector.map .ofTable),
    ("restartPolicy", s.restartPolicy.map .text),
    ("tolerations", s.tolerations.map fun ts => .list (ts.map Toleration.toJson)),
    ("volumes", s.volumes.map fun vs => .list (vs.map PodVolume.toJson))]

def format : Format PodSpec :=
  .record (mk <$> .orDefault "containers" (.list Container.format) [] <*>
    .optional "nodeSelector" .table <*> .optional "restartPolicy" .text <*>
    .optional "tolerations" (.list Toleration.format) <*>
    .optional "volumes" (.list PodVolume.format))

end PodSpec

structure Pod where
  metadata : Meta := {}
  spec : Option PodSpec := none
deriving DecidableEq, Inhabited

namespace Pod

instance : StoredKind Pod where
  apiVersion := "v1"
  kind := "Pod"
  metadata := metadata
  toJson p := .record [
    ("apiVersion", some (.text "v1")),
    ("kind", some (.text "Pod")),
    ("metadata", some p.metadata.toJson),
    ("spec", p.spec.map PodSpec.toJson)]
  body := mk <$> Meta.field <*> .optional "spec" PodSpec.format

def anyName (p : Pod) : String := p.metadata.anyName

/-- The name of the pod's namespace, empty if it has none. -/
def spaceName (p : Pod) : String := p.metadata.space.getD ""

/-- The key a pod is filed under: namespace and name. -/
def key (p : Pod) : String := p.spaceName ++ "/" ++ p.anyName

end Pod

end VolumeHandover
