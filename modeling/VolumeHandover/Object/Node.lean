import VolumeHandover.Object.Meta

set_option autoImplicit false

/-! # Nodes and storage drivers

A node carries labels. The storage drivers installed on it, each with the label keys that
describe the node's place for that driver, stand in a second object of the node's name. A
driver that is registered in the cluster has an object of its own name.
-/

namespace VolumeHandover

/-- A node, of which only the metadata count. -/
structure Node where
  metadata : Meta := {}
deriving DecidableEq, Inhabited

namespace Node

instance : StoredKind Node where
  apiVersion := "v1"
  kind := "Node"
  metadata := metadata
  toJson n := .record [
    ("apiVersion", some (.text "v1")),
    ("kind", some (.text "Node")),
    ("metadata", some n.metadata.toJson)]
  body := mk <$> Meta.field

def anyName (n : Node) : String := n.metadata.anyName

/-- The labels of a node; none if the table is absent. -/
def labels (n : Node) : Table String := n.metadata.labels.getD .empty

end Node

structure InstalledDriver where
  name : String := ""
  nodeId : String := ""
  topologyKeys : Option (List String) := none
deriving DecidableEq, Inhabited

namespace InstalledDriver

def toJson (d : InstalledDriver) : Json :=
  .record [("name", some (.text d.name)), ("nodeID", some (.text d.nodeId)),
    ("topologyKeys", d.topologyKeys.map .texts)]

def format : Format InstalledDriver :=
  .record (mk <$> .orDefault "name" .text "" <*> .orDefault "nodeID" .text "" <*>
    .optional "topologyKeys" .texts)

end InstalledDriver

/-- The drivers installed on the node of the same name. -/
structure CsiNode where
  metadata : Meta := {}
  drivers : List InstalledDriver := []
deriving DecidableEq, Inhabited

namespace CsiNode

instance : StoredKind CsiNode where
  apiVersion := "storage.k8s.io/v1"
  kind := "CSINode"
  metadata := metadata
  toJson n := .record [
    ("apiVersion", some (.text "storage.k8s.io/v1")),
    ("kind", some (.text "CSINode")),
    ("metadata", some n.metadata.toJson),
    ("spec", some (.record [("drivers", some (.list (n.drivers.map InstalledDriver.toJson)))]))]
  body :=
    mk <$> Meta.field <*>
      .orDefault "spec" (.record (.orDefault "drivers" (.list InstalledDriver.format) [])) []

/-- The topology keys of the first driver of that name; none if there is no such driver. -/
def topologyKeys (n : CsiNode) (driver : String) : List String :=
  ((n.drivers.find? (·.name = driver)).bind (·.topologyKeys)).getD []

def hasDriver (n : CsiNode) (driver : String) : Bool := n.drivers.any (·.name = driver)

end CsiNode

/-- The registration of a driver, of which only the metadata count. -/
structure CsiDriver where
  metadata : Meta := {}
deriving DecidableEq, Inhabited

namespace CsiDriver

instance : StoredKind CsiDriver where
  apiVersion := "storage.k8s.io/v1"
  kind := "CSIDriver"
  metadata := metadata
  toJson d := .record [
    ("apiVersion", some (.text "storage.k8s.io/v1")),
    ("kind", some (.text "CSIDriver")),
    ("metadata", some d.metadata.toJson),
    ("spec", some (.record []))]
  body := (fun metadata _ => ⟨metadata⟩) <$> Meta.field <*>
    .orDefault "spec" (.record (pure ())) ()

end CsiDriver

end VolumeHandover
