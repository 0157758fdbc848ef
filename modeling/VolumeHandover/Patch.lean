import VolumeHandover.Json.Value
import VolumeHandover.Object.Claim
import VolumeHandover.WellKnown

set_option autoImplicit false

/-! # Patches

The merge patches by which a volume is taken from its proxy claim and given to the claim that
asked for it. Each names just the fields that it changes.
-/

namespace VolumeHandover

namespace Patch

def reclaimPolicy (policy : String) : Json :=
  .ofFields [("spec", .ofFields [("persistentVolumeReclaimPolicy", .text policy)])]

/-- Leave a claim the given finalizers except the one that protects it while in use; no
finalizers at all if none remain. -/
def stripProtection (finalizers : List String) : Json :=
  let remaining := finalizers.filter (· ≠ protectionFinalizer)
  .ofFields [("metadata", .ofFields [("finalizers",
    if remaining.isEmpty then .null else .texts remaining)])]

/-- Make a volume forget the claim it belongs to. -/
def clearClaimRef : Json := .ofFields [("spec", .ofFields [("claimRef", .null)])]

/-- Bind a claim to a volume on behalf of a provisioner. -/
def bindClaim (provisioner volume : String) : Json :=
  .ofFields [
    ("metadata", .ofFields [("annotations", .ofFields [
      (storageProvisionerKey, .text provisioner),
      (betaStorageProvisionerKey, .text provisioner),
      (bindCompletedKey, .text "yes"),
      (boundByControllerKey, .text "yes")])]),
    ("spec", .ofFields [("volumeName", .text volume)])]

def reclaimPolicyWithClaimRef (policy : String) (claim : Claim) : Json :=
  .ofFields [("spec", .ofFields [
    ("persistentVolumeReclaimPolicy", .text policy),
    ("claimRef", .ofFields [
      ("apiVersion", .text "v1"),
      ("kind", .text "PersistentVolumeClaim"),
      ("name", .text claim.anyName),
      ("namespace", .ofText? claim.metadata.space),
      ("uid", .ofText? claim.metadata.uid)])])]

def clearSelectedNode : Json :=
  .ofFields [("metadata", .ofFields [("annotations", .ofFields [(selectedNodeKey, .null)])])]

end Patch

end VolumeHandover
