import VolumeHandover.Object.Pod
import VolumeHandover.Object.StorageClass
import VolumeHandover.WellKnown

set_option autoImplicit false

/-! # Proxy claims and placeholder pods

A proxy claim asks the selected class for the storage that the caller's claim wants. A
placeholder pod uses the proxy claim on the selected node and does nothing else.
-/

namespace VolumeHandover

/-- The proxy claim `volumeName` for a claim: same namespace, access modes, amounts and mode,
but the given class. If a node is given, the claim names it and the provisioner of the class
in its annotations. -/
def proxyClaim (volumeName : String) (claim : Claim) (storageClass : StorageClass)
    (selectedNode : Option String) : Claim :=
  let spec := claim.spec.getD {}
  { metadata := {
      name := some volumeName
      space := claim.metadata.space
      annotations := selectedNode.map fun node => Table.ofList [
        (storageProvisionerKey, storageClass.provisioner),
        (betaStorageProvisionerKey, storageClass.provisioner),
        (selectedNodeKey, node)] }
    spec := some {
      accessModes := spec.accessModes
      storageClassName := some storageClass.anyName
      resources := spec.resources
      volumeMode := spec.volumeMode } }

def placeholderName (volumeName : String) : String := "provisioner-" ++ volumeName

/-- The placeholder pod that uses a proxy claim on a node. -/
def placeholderPod (proxy : Claim) (node image : String) : Pod :=
  let amounts := Table.ofList [("cpu", "10m"), ("memory", "10Mi")]
  { metadata := {
      name := some (placeholderName proxy.anyName)
      space := proxy.metadata.space }
    spec := some {
      containers := [{
        name := "provisioner"
        image := some image
        resources := some { limits := some amounts, requests := some amounts } }]
      nodeSelector := some (Table.ofList [(hostnameLabel, node)])
      restartPolicy := some "Never"
      tolerations := some [{ operator := some "Exists" }]
      volumes := some [{ name := "provisioner", claimName := some proxy.anyName }] } }

end VolumeHandover
