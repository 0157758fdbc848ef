import VolumeHandover.Provision

set_option autoImplicit false

/-! # The driver's services

What the driver tells about itself, and the calls that container orchestrators make to it. The
volumes are handled by the drivers of the classes they were provisioned from, so the calls
about volumes that reach the controller service are refused, and those that reach the node
service have nothing left to do. The node service knows the region and the zone of its node.
-/

namespace VolumeHandover

namespace Service

/-! ## Identity -/

structure PluginInfo where
  name : String
  vendorVersion : String
deriving DecidableEq, Inhabited, Repr

def pluginInfo (driverName : String) : PluginInfo :=
  { name := driverName, vendorVersion := driverVersion }

inductive PluginCapability where
  | controllerService
  | volumeAccessibilityConstraints
deriving DecidableEq, Inhabited, Repr

def PluginCapability.name : PluginCapability → String
  | .controllerService => "ControllerService"
  | .volumeAccessibilityConstraints => "VolumeAccessibilityConstraints"

def pluginCapabilities : List PluginCapability :=
  [.controllerService, .volumeAccessibilityConstraints]

def probe : Bool := true

/-! ## Controller -/

inductive ControllerCapability where
  | createDeleteVolume
  | publishUnpublishVolume
  | getCapacity
  | expandVolume
  | getVolume
  | singleNodeMultiWriter
deriving DecidableEq, Inhabited, Repr

def ControllerCapability.name : ControllerCapability → String
  | .createDeleteVolume => "CreateDeleteVolume"
  | .publishUnpublishVolume => "PublishUnpublishVolume"
  | .getCapacity => "GetCapacity"
  | .expandVolume => "ExpandVolume"
  | .getVolume => "GetVolume"
  | .singleNodeMultiWriter => "SingleNodeMultiWriter"

def controllerCapabilities : List ControllerCapability :=
  [.createDeleteVolume, .publishUnpublishVolume, .getCapacity, .expandVolume, .getVolume,
    .singleNodeMultiWriter]

/-- The calls to the controller service about volumes. -/
inductive ControllerMethod where
  | createVolume | deleteVolume | publishVolume | unpublishVolume
  | validateVolumeCapabilities | listVolumes | getCapacity
  | createSnapshot | deleteSnapshot | listSnapshots
  | expandVolume | getVolume | modifyVolume
deriving DecidableEq, Inhabited, Repr

def ControllerMethod.name : ControllerMethod → String
  | .createVolume => "CreateVolume"
  | .deleteVolume => "DeleteVolume"
  | .publishVolume => "ControllerPublishVolume"
  | .unpublishVolume => "ControllerUnpublishVolume"
  | .validateVolumeCapabilities => "ValidateVolumeCapabilities"
  | .listVolumes => "ListVolumes"
  | .getCapacity => "GetCapacity"
  | .createSnapshot => "CreateSnapshot"
  | .deleteSnapshot => "DeleteSnapshot"
  | .listSnapshots => "ListSnapshots"
  | .expandVolume => "ControllerExpandVolume"
  | .getVolume => "ControllerGetVolume"
  | .modifyVolume => "ControllerModifyVolume"

/-- Answer a call about volumes: it is left to the driver of the volume's class. -/
def ControllerMethod.answer (m : ControllerMethod) : Except Error Unit :=
  .error (.unimplemented m.name)

/-! ## Node -/

inductive NodeCapability where
  | stageUnstageVolume
  | expandVolume
  | getVolumeStats
deriving DecidableEq, Inhabited, Repr

def NodeCapability.name : NodeCapability → String
  | .stageUnstageVolume => "StageUnstageVolume"
  | .expandVolume => "ExpandVolume"
  | .getVolumeStats => "GetVolumeStats"

def nodeCapabilities : List NodeCapability :=
  [.stageUnstageVolume, .expandVolume, .getVolumeStats]

inductive AccessMode where
  | singleNodeWriter
  | singleNodeReaderOnly
  | singleNodeSingleWriter
  | singleNodeMultiWriter
deriving DecidableEq, Inhabited, Repr

def AccessMode.name : AccessMode → String
  | .singleNodeWriter => "SingleNodeWriter"
  | .singleNodeReaderOnly => "SingleNodeReaderOnly"
  | .singleNodeSingleWriter => "SingleNodeSingleWriter"
  | .singleNodeMultiWriter => "SingleNodeMultiWriter"

def accessModes : List AccessMode :=
  [.singleNodeWriter, .singleNodeReaderOnly, .singleNodeSingleWriter, .singleNodeMultiWriter]

/-- The calls to the node service about volumes. -/
inductive NodeMethod where
  | stageVolume | unstageVolume | publishVolume | unpublishVolume
  | getVolumeStats | expandVolume
deriving DecidableEq, Inhabited, Repr

/-- Answer a call about volumes: there is nothing left to do. -/
def NodeMethod.answer (_m : NodeMethod) : Except Error Unit := .ok ()

structure NodeInfo where
  nodeId : String
  maxVolumesPerNode : Nat
  accessibleTopology : Table String

/-- The value of a node's label, which must not be empty. -/
def labelOf (nodeId : String) (node : Node) (label : String) : Except Error String :=
  match (node.labels.get? label).filter (· ≠ "") with
  | some value => .ok value
  | none => .error (.missingNodeLabel nodeId label)

def maxVolumesPerNode : Nat := 100

/-- Tell about a node: its region and its zone. -/
def nodeInfo (nodeId : String) : Attempt NodeInfo := do
  let node ← Provision.call (.getNode nodeId)
  let region ← labelOf nodeId node regionLabel
  let zone ← labelOf nodeId node zoneLabel
  return {
    nodeId
    maxVolumesPerNode
    accessibleTopology := Table.ofList [(regionLabel, region), (zoneLabel, zone)] }

end Service

end VolumeHandover
