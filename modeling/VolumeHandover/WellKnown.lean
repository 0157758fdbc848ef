set_option autoImplicit false

/-! # Well-known names

The annotations, labels, finalizers and parameters that the cluster, its schedulers and the
storage backends agree on.
-/

namespace VolumeHandover

def defaultDriverName : String := "csi.hybrid.sinextra.dev"

def provisionerName : String := "hybrid-csi-provisioner"

def driverVersion : String := "0.1.0"

/-- The parameter of a class that lists the candidate classes. -/
def storageClassesParameter : String := "storageClasses"

/-- The annotation that names the provisioner in charge of a claim. -/
def storageProvisionerKey : String := "volume.kubernetes.io/storage-provisioner"

/-- The older annotation that names the provisioner in charge of a claim. -/
def betaStorageProvisionerKey : String := "volume.beta.kubernetes.io/storage-provisioner"

/-- The annotation that names the node chosen for the workload. -/
def selectedNodeKey : String := "volume.kubernetes.io/selected-node"

/-- The annotation that says that a claim and its volume are bound. -/
def bindCompletedKey : String := "pv.kubernetes.io/bind-completed"

/-- The annotation that says that a controller bound a claim. -/
def boundByControllerKey : String := "pv.kubernetes.io/bound-by-controller"

/-- The older annotation that names the class of a claim. -/
def betaStorageClassKey : String := "volume.beta.kubernetes.io/storage-class"

/-- The finalizer that holds back the deletion of a claim in use. -/
def protectionFinalizer : String := "kubernetes.io/pvc-protection"

def hostnameLabel : String := "kubernetes.io/hostname"

def regionLabel : String := "topology.kubernetes.io/region"

def zoneLabel : String := "topology.kubernetes.io/zone"

/-- The reclaim policy under which a volume outlives its claim. -/
def retainPolicy : String := "Retain"

/-- The reclaim policy under which a volume goes with its claim. -/
def deletePolicy : String := "Delete"

def defaultPauseImage : String := "registry.k8s.io/pause:3.10"

end VolumeHandover
