import VolumeHandover.Program
import VolumeHandover.Text.Blank
import VolumeHandover.Topology.Selector

set_option autoImplicit false

/-! # Selecting a class

Of the candidate classes the first one that the node can use is selected. A node can use a
class if the class allows the node's place, and the class is served without a registered
driver or by a driver that is installed on the node.
-/

namespace VolumeHandover

/-- The classes listed in a parameter; a list without names is an error. -/
def parseCandidates (value : String) : Except Error (List String) :=
  match listedNames value with
  | [] => .error (.configuration ("no storage classes listed in " ++ quoted value))
  | names => .ok names

namespace Selection

/-- Whether a class allows the place of a node, as the class's driver sees it. A node that
lacks one of the driver's labels has no place. -/
def allowsNode (csiNode : CsiNode) (node : Node) (c : StorageClass) : Bool :=
  c.topologies.isEmpty ||
    match Topology.nodeTerm? node.labels (csiNode.topologyKeys c.provisioner) with
    | none => false
    | some place => (Topology.flatten c.topologies).any (·.subset place)

variable {m : Type → Type} [Monad m]

def isUsable (lister : Lister m) (csiNode : CsiNode) (node : Node) (c : StorageClass) :
    m Bool := do
  if allowsNode csiNode node c then
    match ← lister.csiDriver c.provisioner with
    | none => return true
    | some _ => return csiNode.hasDriver c.provisioner
  else return false

/-- The first candidate that exists and that the node can use. -/
def firstUsable (lister : Lister m) (csiNode : CsiNode) (node : Node) :
    List String → m (Option StorageClass)
  | [] => return none
  | candidate :: rest => do
      match ← lister.storageClass candidate with
      | none => firstUsable lister csiNode node rest
      | some c =>
          if ← isUsable lister csiNode node c then return some c
          else firstUsable lister csiNode node rest

end Selection

/-- Select the first of the candidate classes that the node can use. -/
def selectClass {m : Type → Type} [Monad m] (lister : Lister m) (node : Node)
    (candidates : List String) : m (Except Error StorageClass) := do
  match ← lister.csiNode node.anyName with
  | none => return .error (.csiNodeNotFound node.anyName)
  | some csiNode =>
      match ← Selection.firstUsable lister csiNode node candidates with
      | none => return .error (.noMatchingClass node.anyName)
      | some c => return .ok c

end VolumeHandover
