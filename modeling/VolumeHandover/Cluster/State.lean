import VolumeHandover.Json.Merge
import VolumeHandover.Program
import VolumeHandover.Table
import VolumeHandover.WellKnown

set_option autoImplicit false

/-! # A cluster in memory

The cluster stores objects in tables, keeps a journal of the calls that change it, and has
switches by which it stands in for a backend and for a server that refuses at times. Claims
and pods are filed under namespace and name, everything else under its name. A patch is
applied to the written form of an object, which then has to read as an object again.

Every change of a claim is an event. Events are kept in the order in which they happened; a
watch is a place in that list.
-/

namespace VolumeHandover

/-! ## What a cluster holds -/

/-- A recorded call, with the key of the object it concerns. -/
inductive JournalEntry where
  | createClaim (key : String)
  | patchClaim (key : String)
  | deleteClaim (key : String)
  | createPod (key : String)
  | deletePod (key : String)
  | createVolume (key : String)
  | patchVolume (key : String)
deriving DecidableEq, Inhabited, Repr

def JournalEntry.text : JournalEntry → String
  | .createClaim key => "CreateClaim " ++ key
  | .patchClaim key => "PatchClaim " ++ key
  | .deleteClaim key => "DeleteClaim " ++ key
  | .createPod key => "CreatePod " ++ key
  | .deletePod key => "DeletePod " ++ key
  | .createVolume key => "CreateVolume " ++ key
  | .patchVolume key => "PatchVolume " ++ key

/-- A watch on one claim of a cluster in memory. -/
structure Subscription where
  key : String
  /-- The claim as it was when the watch began, until that is delivered. -/
  initial : Option Claim
  /-- The number of the event to be looked at next; none if the watch ends behind the state
  at its beginning. -/
  next : Option Nat
deriving Inhabited

structure Objects where
  storageClasses : Table StorageClass := .empty
  csiNodes : Table CsiNode := .empty
  csiDrivers : Table CsiDriver := .empty
  nodes : Table Node := .empty
  claims : Table Claim := .empty
  pods : Table Pod := .empty
  volumes : Table Volume := .empty
deriving Inhabited

structure Journal where
  calls : List JournalEntry := []
  /-- The claims that were created, as they were submitted. -/
  createdClaims : List Claim := []
  claimPatches : Table (List Json) := .empty
  /-- The finalizers that each claim had when it was deleted last. -/
  deletedFinalizers : Table (List String) := .empty
deriving Inhabited

structure Switches where
  /-- A claim is bound as soon as it is created. -/
  bindOnCreate : Bool := false
  /-- A watch ends behind the state at its beginning. -/
  closeWatches : Bool := false
  /-- The number of pod deletions that are still to be refused. -/
  podDeleteFailures : Nat := 0
  /-- The number of claim deletions that are still to be refused. -/
  claimDeleteFailures : Nat := 0
deriving DecidableEq, Inhabited, Repr

structure Cluster where
  objects : Objects := {}
  journal : Journal := {}
  switches : Switches := {}
  /-- The changes of claims so far, each with the key of its claim. -/
  events : List (String × ClaimEvent) := []
  watches : List Subscription := []
deriving Inhabited

/-- The key of what is called `name` in a namespace. -/
def keyIn (space name : String) : String := space ++ "/" ++ name

/-- The namespace and the name in a key, which is split at its first slash. -/
def keyParts (key : String) : String × String :=
  let chars := key.toList
  (String.ofList (chars.takeWhile (· ≠ '/')),
    String.ofList ((chars.dropWhile (· ≠ '/')).drop 1))

namespace Cluster

variable {α : Type}

/-! ## Small steps -/

def record (s : Cluster) (entry : JournalEntry) : Cluster :=
  { s with journal := { s.journal with calls := s.journal.calls ++ [entry] } }

def withClaims (s : Cluster) (claims : Table Claim) : Cluster :=
  { s with objects := { s.objects with claims } }

def withPods (s : Cluster) (pods : Table Pod) : Cluster :=
  { s with objects := { s.objects with pods } }

def withVolumes (s : Cluster) (volumes : Table Volume) : Cluster :=
  { s with objects := { s.objects with volumes } }

def emit (s : Cluster) (key : String) (event : ClaimEvent) : Cluster :=
  { s with events := s.events ++ [(key, event)] }

def refusal (code : Nat) (reason : String) : ApiFault :=
  .refused { status := "Failure", message := reason ++ " error", reason, code }

def notFound (operation kind name : String) : Error :=
  .ofOperation operation kind name (refusal 404 "NotFound")

def alreadyThere (kind name : String) : Error :=
  .ofOperation "create" kind name (refusal 409 "AlreadyExists")

def conflict (kind name : String) : Error :=
  .ofOperation "delete" kind name (refusal 409 "Conflict")

/-- An object after a merge patch, if what comes out is an object. -/
def patched [StoredKind α] (object : α) (patch : Json) : Except Error α :=
  match StoredKind.ofJson? ((StoredKind.toJson object).merge patch) with
  | some object => .ok object
  | none => .error (.unreadableJson "invalid type")

/-! ## The backend -/

/-- The claim after the backend bound it: it names the volume, is in phase Bound and is
protected. -/
def boundClaim (claim : Claim) : Claim :=
  { claim with
    metadata := { claim.metadata with
      finalizers := some (claim.finalizers ++ [protectionFinalizer]) }
    spec := some { claim.spec.getD {} with volumeName := some ("pv-" ++ claim.anyName) }
    status := some { phase := some "Bound" } }

def boundVolume (claim : Claim) : Volume :=
  { metadata := { name := some ("pv-" ++ claim.anyName), resourceVersion := some "1" }
    spec := some {
      storageClassName := claim.spec.bind (·.storageClassName)
      reclaimPolicy := some deletePolicy
      claimRef := some {
        name := claim.metadata.name
        space := claim.metadata.space
        uid := claim.metadata.uid } } }

/-- Let the backend bind the claim under `key`, if there is one: the claim as it is then, and
the cluster. -/
def backendBind (s : Cluster) (key : String) : Option (Claim × Cluster) :=
  (s.objects.claims.get? key).map fun claim =>
    let bound := boundClaim claim
    let volume := boundVolume claim
    (bound,
      (s.withClaims (s.objects.claims.insert key bound)).withVolumes
        (s.objects.volumes.insert ("pv-" ++ claim.anyName) volume))

def bindClaim (s : Cluster) (key : String) : Cluster :=
  match s.backendBind key with
  | some (bound, s) => s.emit key (.applied bound)
  | none => s

/-! ## Calls -/

def createClaim (s : Cluster) (claim : Claim) : Except Error Claim × Cluster :=
  let key := claim.key
  let s := s.record (.createClaim key)
  if s.objects.claims.contains key then
    (.error (alreadyThere "PersistentVolumeClaim" claim.anyName), s)
  else
    let s := { s with journal := { s.journal with
      createdClaims := s.journal.createdClaims ++ [claim] } }
    let s := s.withClaims (s.objects.claims.insert key claim)
    let (created, s) :=
      if s.switches.bindOnCreate then (s.backendBind key).getD (claim, s) else (claim, s)
    (.ok created, s.emit key (.applied created))

def recordPatch (s : Cluster) (key : String) (patch : Json) : Cluster :=
  let s := s.record (.patchClaim key)
  let before := (s.journal.claimPatches.get? key).getD []
  { s with journal := { s.journal with
    claimPatches := s.journal.claimPatches.insert key (before ++ [patch]) } }

def patchClaim (s : Cluster) (space name : String) (patch : Json) :
    Except Error Claim × Cluster :=
  let key := keyIn space name
  let s := s.recordPatch key patch
  match s.objects.claims.get? key with
  | none => (.error (notFound "patch" "PersistentVolumeClaim" name), s)
  | some claim =>
      match patched claim patch with
      | .error e => (.error e, s)
      | .ok claim =>
          (.ok claim, (s.withClaims (s.objects.claims.insert key claim)).emit key (.applied claim))

def deleteClaim (s : Cluster) (space name : String) : Except Error Unit × Cluster :=
  let key := keyIn space name
  let s := s.record (.deleteClaim key)
  match s.switches.claimDeleteFailures with
  | left + 1 =>
      (.error (conflict "PersistentVolumeClaim" name),
        { s with switches := { s.switches with claimDeleteFailures := left } })
  | 0 =>
      match s.objects.claims.get? key with
      | none => (.error (notFound "delete" "PersistentVolumeClaim" name), s)
      | some claim =>
          let s := s.withClaims (s.objects.claims.erase key)
          let s := { s with journal := { s.journal with
            deletedFinalizers := s.journal.deletedFinalizers.insert key claim.finalizers } }
          (.ok (), s.emit key .deleted)

/-- Begin to watch a claim. The state at the beginning is delivered first. -/
def watchClaim (s : Cluster) (space name : String) : Watch × Cluster :=
  let key := keyIn space name
  let subscription : Subscription := {
    key
    initial := s.objects.claims.get? key
    next := if s.switches.closeWatches then none else some s.events.length }
  (⟨s.watches.length⟩, { s with watches := s.watches ++ [subscription] })

def createPod (s : Cluster) (pod : Pod) : Except Error Pod × Cluster :=
  let s := s.record (.createPod pod.key)
  if s.objects.pods.contains pod.key then (.error (alreadyThere "Pod" pod.anyName), s)
  else (.ok pod, s.withPods (s.objects.pods.insert pod.key pod))

def deletePod (s : Cluster) (space name : String) : Except Error Unit × Cluster :=
  let key := keyIn space name
  let s := s.record (.deletePod key)
  match s.switches.podDeleteFailures with
  | left + 1 =>
      (.error (conflict "Pod" name),
        { s with switches := { s.switches with podDeleteFailures := left } })
  | 0 =>
      if s.objects.pods.contains key then (.ok (), s.withPods (s.objects.pods.erase key))
      else (.error (notFound "delete" "Pod" name), s)

def createVolume (s : Cluster) (volume : Volume) : Except Error Volume × Cluster :=
  let name := volume.anyName
  let s := s.record (.createVolume name)
  if s.objects.volumes.contains name then (.error (alreadyThere "PersistentVolume" name), s)
  else (.ok volume, s.withVolumes (s.objects.volumes.insert name volume))

def patchVolume (s : Cluster) (name : String) (patch : Json) : Except Error Volume × Cluster :=
  let s := s.record (.patchVolume name)
  match s.objects.volumes.get? name with
  | none => (.error (notFound "patch" "PersistentVolume" name), s)
  | some volume =>
      match patched volume patch with
      | .error e => (.error e, s)
      | .ok volume => (.ok volume, s.withVolumes (s.objects.volumes.insert name volume))

def getNode (s : Cluster) (name : String) : Except Error Node :=
  match s.objects.nodes.get? name with
  | none => .error (notFound "get" "Node" name)
  | some node => .ok node

def call (s : Cluster) : (c : ApiCall) → Except Error c.Answer × Cluster
  | .createClaim claim => s.createClaim claim
  | .patchClaim space name patch => s.patchClaim space name patch
  | .deleteClaim space name => s.deleteClaim space name
  | .watchClaim space name =>
      let (watch, s) := s.watchClaim space name
      (.ok watch, s)
  | .createPod pod => s.createPod pod
  | .deletePod space name => s.deletePod space name
  | .createVolume volume => s.createVolume volume
  | .patchVolume name patch => s.patchVolume name patch
  | .getNode name => (s.getNode name, s)

def find (s : Cluster) : (l : Lookup) → Option l.Answer
  | .storageClass name => s.objects.storageClasses.get? name
  | .csiNode name => s.objects.csiNodes.get? name
  | .csiDriver name => s.objects.csiDrivers.get? name
  | .node name => s.objects.nodes.get? name
  | .claim space name => s.objects.claims.get? (keyIn space name)

/-! ## Filling a cluster -/

def addStorageClass (s : Cluster) (c : StorageClass) : Cluster :=
  { s with objects := { s.objects with
    storageClasses := s.objects.storageClasses.insert c.anyName c } }

def addCsiNode (s : Cluster) (n : CsiNode) : Cluster :=
  { s with objects := { s.objects with
    csiNodes := s.objects.csiNodes.insert n.metadata.anyName n } }

def addCsiDriver (s : Cluster) (d : CsiDriver) : Cluster :=
  { s with objects := { s.objects with
    csiDrivers := s.objects.csiDrivers.insert d.metadata.anyName d } }

def addNode (s : Cluster) (n : Node) : Cluster :=
  { s with objects := { s.objects with nodes := s.objects.nodes.insert n.anyName n } }

/-- Add a claim without a call and without an event. -/
def addClaim (s : Cluster) (claim : Claim) : Cluster :=
  s.withClaims (s.objects.claims.insert claim.key claim)

end Cluster

end VolumeHandover
