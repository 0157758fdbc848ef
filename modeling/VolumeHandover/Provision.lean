import VolumeHandover.Method
import VolumeHandover.Patch
import VolumeHandover.Program
import VolumeHandover.Proxy
import VolumeHandover.Retry
import VolumeHandover.Selection

set_option autoImplicit false

/-! # Provisioning by handing a volume over

To provision a claim, a class that the selected node can use is chosen, and a proxy claim of
that class makes its backend create a volume. The volume is then taken from the proxy claim
and bound to the claim that asked:

1. create the proxy claim, unless it is known already, and with the method `pod` a placeholder
   pod on the node;
2. wait until the proxy claim is bound, and remove the placeholder pod again;
3. let the volume outlive the proxy claim, lift the claim's protection, delete it, and make
   the volume forget it;
4. bind the caller's claim to the volume, and let the volume go with its claim again if the
   class wants that.

Nothing is undone on failure. An object that is to be created may be there already and one
that is to be deleted may be gone, so a further attempt with the same options goes on from what
the attempt before it left behind.
-/

namespace VolumeHandover

abbrev Attempt := ExceptT Error Program

/-- Something that provisions claims. -/
abbrev Provisioner := ProvisionOptions → Program (Except Failure Volume)

namespace Provision

/-- Call the API and fail if the call fails. -/
def call (c : ApiCall) : Attempt c.Answer := ExceptT.mk (Program.call c)

/-- The namespace of a claim; a claim without is an error. -/
def spaceOf (claim : Claim) : Except Error String :=
  match claim.metadata.space with
  | some space => .ok space
  | none => .error (.internal ("claim " ++ claim.anyName ++ " has no namespace"))

/-- Take a success, or an error that says that the aim is reached already, as a success. -/
def tolerate {α : Type} (reached : Error → Bool) : Except Error α → Except Error Unit
  | .ok _ => .ok ()
  | .error e => if reached e then .ok () else .error e

/-- Create the proxy claim unless the caches show it. -/
def ensureClaim (proxy : Claim) : Attempt Unit := do
  let space ← spaceOf proxy
  match ← Lister.asked.claim space proxy.anyName with
  | some _ => return ()
  | none => ExceptT.mk do
      return tolerate Error.isAlreadyExists (← Program.call (.createClaim proxy))

def awaitBound (config : Config) (proxy : Claim) : Attempt BoundClaim := do
  let space ← spaceOf proxy
  let watch ← call (.watchClaim space proxy.anyName)
  let awaited ← Program.request (.awaitBound watch config.bindTimeout)
  awaited.result proxy.anyName config.bindTimeout

/-- Make a call that deletes something, again and again while it fails; that the object is
gone already is a success. -/
def deleteWithRetry (config : Config) (operation : String) (c : ApiCall) : Attempt Unit :=
  ExceptT.mk (config.cleanupRetry.run (fun d => Program.request (.pause d)) operation fun _ => do
    return tolerate Error.isNotFound (← Program.call c))

/-- Create the placeholder pod unless it is there. -/
def ensurePod (pod : Pod) : Attempt Unit := ExceptT.mk do
  return tolerate Error.isAlreadyExists (← Program.call (.createPod pod))

/-- Obtain a proxy claim that the backend has bound to a volume. -/
def obtainProxy (config : Config) (options : ProvisionOptions) (storageClass : StorageClass)
    (node : Node) : Attempt BoundClaim :=
  match config.method with
  | .annotations => do
      let proxy :=
        proxyClaim options.volumeName options.claim storageClass (some node.anyName)
      ensureClaim proxy
      awaitBound config proxy
  | .pod => do
      let proxy := proxyClaim options.volumeName options.claim storageClass none
      ensureClaim proxy
      let pod := placeholderPod proxy node.anyName config.pauseImage
      ensurePod pod
      let bound ← awaitBound config proxy
      deleteWithRetry config "delete pod" (.deletePod pod.spaceName pod.anyName)
      return bound

/-- Take the volume from a bound proxy claim. The volume is told to stay before the claim is
deleted, and the claim's protection is lifted so that the deletion is not put off. -/
def releaseVolume (config : Config) (bound : BoundClaim) : Attempt Volume := do
  let proxy := bound.val
  let space ← spaceOf proxy
  let some volume := proxy.volumeName?
    | throw (.internal ("bound claim " ++ proxy.anyName ++ " has no volume name"))
  let _ ← call (.patchVolume volume (Patch.reclaimPolicy retainPolicy))
  let _ ← call (.patchClaim space proxy.anyName (Patch.stripProtection proxy.finalizers))
  deleteWithRetry config "delete persistent volume claim" (.deleteClaim space proxy.anyName)
  call (.patchVolume volume Patch.clearClaimRef)

/-- Bind the caller's claim to the released volume, and set the volume's final policy. -/
def rebindClaim (config : Config) (claim : Claim) (volume : Volume)
    (storageClass : StorageClass) : Attempt Volume := do
  let space ← spaceOf claim
  let _ ← call (.patchClaim space claim.anyName
    (Patch.bindClaim storageClass.provisioner volume.anyName))
  if storageClass.reclaimPolicy = some deletePolicy then
    call (.patchVolume volume.anyName (match config.method with
      | .annotations => Patch.reclaimPolicyWithClaimRef deletePolicy claim
      | .pod => Patch.reclaimPolicy deletePolicy))
  else return volume

/-- Obtain a volume of the selected class and hand it over to the caller's claim. -/
def handOver (config : Config) (options : ProvisionOptions) (storageClass : StorageClass)
    (node : Node) : Attempt Volume := do
  let bound ← obtainProxy config options storageClass node
  let volume ← releaseVolume config bound
  rebindClaim config options.claim volume storageClass

/-- What provisioning needs of its options: the node, and the names of the candidate
classes. -/
def requirements (options : ProvisionOptions) : Except Error (Node × List String) := do
  let some storageClass := options.storageClass | throw .missingStorageClass
  let some node := options.selectedNode | throw .missingSelectedNode
  let some value := storageClass.parameters.bind (·.get? storageClassesParameter)
    | throw (.missingParameter storageClassesParameter)
  let candidates ← parseCandidates value
  return (node, candidates)

/-- The volume as it is passed on: without the version it had when it was last written. -/
def adopted (volume : Volume) : Volume :=
  { volume with metadata := { volume.metadata with resourceVersion := none } }

end Provision

open Provision in
/-- Provision a claim. Options that lack something end the matter, a node without a usable
class asks for another node, and whatever fails later may be continued by another attempt. -/
def provision (config : Config) : Provisioner := fun options => do
  match requirements options with
  | .error e => return .error ⟨.finished, e⟩
  | .ok (node, candidates) =>
      match ← selectClass Lister.asked node candidates with
      | .error e => return .error ⟨.reschedule, e⟩
      | .ok storageClass =>
          match ← (handOver config options storageClass node).run with
          | .error e => return .error ⟨.inBackground, e⟩
          | .ok volume => return .ok (adopted volume)

/-- Delete a volume: nothing is left to do, since a volume that was handed over belongs to its
backend. -/
def deleteVolume (_volume : Volume) : Program (Except Error Unit) := return .ok ()

end VolumeHandover
