import VolumeHandover.Object.Meta

set_option autoImplicit false

/-! # Storage classes

A storage class names the provisioner that serves it, and may restrict where its volumes can
be used: a node fits if it fits one of the allowed topologies, and it fits a topology if for
each of its expressions the node's label has one of the listed values.
-/

namespace VolumeHandover

/-- The values that a label may have. -/
structure TopologyExpression where
  key : String := ""
  values : List String := []
deriving DecidableEq, Inhabited

namespace TopologyExpression

def toJson (e : TopologyExpression) : Json :=
  .record [("key", some (.text e.key)), ("values", some (.texts e.values))]

def format : Format TopologyExpression :=
  .record (mk <$> .orDefault "key" .text "" <*> .orDefault "values" .texts [])

end TopologyExpression

/-- One allowed topology: expressions that have to hold together. -/
structure TopologySelector where
  matchLabelExpressions : Option (List TopologyExpression) := none
deriving DecidableEq, Inhabited

namespace TopologySelector

/-- The expressions of a selector; none if the list is absent. -/
def expressions (s : TopologySelector) : List TopologyExpression :=
  s.matchLabelExpressions.getD []

def toJson (s : TopologySelector) : Json :=
  .record [("matchLabelExpressions",
    s.matchLabelExpressions.map fun es => .list (es.map TopologyExpression.toJson))]

def format : Format TopologySelector :=
  .record (mk <$> .optional "matchLabelExpressions" (.list TopologyExpression.format))

end TopologySelector

structure StorageClass where
  metadata : Meta := {}
  allowedTopologies : Option (List TopologySelector) := none
  parameters : Option (Table String) := none
  provisioner : String := ""
  reclaimPolicy : Option String := none
  volumeBindingMode : Option String := none
deriving DecidableEq, Inhabited

namespace StorageClass

instance : StoredKind StorageClass where
  apiVersion := "storage.k8s.io/v1"
  kind := "StorageClass"
  metadata := metadata
  toJson c := .record [
    ("allowedTopologies",
      c.allowedTopologies.map fun ts => .list (ts.map TopologySelector.toJson)),
    ("apiVersion", some (.text "storage.k8s.io/v1")),
    ("kind", some (.text "StorageClass")),
    ("metadata", some c.metadata.toJson),
    ("parameters", c.parameters.map .ofTable),
    ("provisioner", some (.text c.provisioner)),
    ("reclaimPolicy", c.reclaimPolicy.map .text),
    ("volumeBindingMode", c.volumeBindingMode.map .text)]
  body :=
    mk <$> Meta.field <*> .optional "allowedTopologies" (.list TopologySelector.format) <*>
      .optional "parameters" .table <*> .orDefault "provisioner" .text "" <*>
      .optional "reclaimPolicy" .text <*> .optional "volumeBindingMode" .text

def anyName (c : StorageClass) : String := c.metadata.anyName

/-- The allowed topologies of a class; none if the list is absent. -/
def topologies (c : StorageClass) : List TopologySelector := c.allowedTopologies.getD []

end StorageClass

end VolumeHandover
