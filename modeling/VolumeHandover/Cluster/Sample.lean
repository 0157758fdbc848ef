import VolumeHandover.Object.Claim
import VolumeHandover.Object.Node
import VolumeHandover.Object.StorageClass
import VolumeHandover.WellKnown

set_option autoImplicit false

/-! # Sample objects

Plain objects to fill a cluster with: a node, the drivers on it, their registrations, classes
of theirs, a class that delegates to them, and a claim of such a class.
-/

namespace VolumeHandover

namespace Sample

def node (name : String) (labels : List (String × String)) : Node where
  metadata := { Meta.named name with labels := some (Table.ofList labels) }

/-- The drivers installed on a node, each with its topology keys. -/
def csiNode (name : String) (drivers : List (String × List String)) : CsiNode where
  metadata := Meta.named name
  drivers := drivers.map fun (driver, keys) =>
    { name := driver, nodeId := name, topologyKeys := some keys }

def csiDriver (name : String) : CsiDriver where
  metadata := Meta.named name

/-- A class of a driver, which is restricted to one topology of the given keys and values if
there are any. -/
def storageClass (name provisioner reclaimPolicy : String)
    (topology : List (String × List String)) : StorageClass where
  metadata := Meta.named name
  provisioner
  reclaimPolicy := some reclaimPolicy
  allowedTopologies :=
    if topology.isEmpty then none
    else some [{ matchLabelExpressions := some (topology.map fun (key, values) =>
      { key, values }) }]

/-- A class of this provisioner that delegates to the listed classes. -/
def hybridClass (name classes : String) : StorageClass where
  metadata := Meta.named name
  provisioner := defaultDriverName
  parameters := some (Table.ofList [(storageClassesParameter, classes)])
  volumeBindingMode := some "WaitForFirstConsumer"

/-- A claim to one gibibyte of a class. -/
def claim (space name uid storageClass : String) : Claim where
  metadata := { name := some name, space := some space, uid := some uid }
  spec := some {
    accessModes := some ["ReadWriteOnce"]
    storageClassName := some storageClass
    resources := some { requests := some (Table.ofList [("storage", "1Gi")]) } }

end Sample

end VolumeHandover
