import VolumeHandover.Backoff
import VolumeHandover.Metrics
import VolumeHandover.Provision

set_option autoImplicit false

/-! # Reconciling claims

A pass over a claim provisions it if it is this driver's turn: the claim is neither bound nor
being deleted, its class is served by this driver, and a node has been selected for it. The
volume obtained is then created in the cluster. After a failure the claim is left alone, given
back to the scheduler, or tried again later.

A pass ends with a `Report`. Noting a report in the `Ledger` counts the attempt, resets or
advances the claim's backoff, and turns the conclusion into an `Outcome`.
-/

namespace VolumeHandover

/-- Why a pass leaves a claim alone. -/
inductive Disregard where
  | bound
  | beingDeleted
  | noClass
  | classNotFound
  | otherProvisioner
  | noNode
deriving DecidableEq, Inhabited, Repr

def Disregard.text : Disregard → String
  | .bound => "claim is bound"
  | .beingDeleted => "claim is being deleted"
  | .noClass => "claim has no storage class"
  | .classNotFound => "storage class not found"
  | .otherProvisioner => "storage class served by another provisioner"
  | .noNode => "no node selected yet"

inductive Conclusion where
  /-- The claim needs nothing from us. -/
  | ignored (reason : Disregard)
  | provisioned (volume : String)
  /-- Nothing helps until the claim changes. -/
  | awaitChange
  /-- The scheduler is to choose another node. -/
  | rescheduled
  /-- Another attempt is to go on from here. -/
  | continueLater
deriving DecidableEq, Inhabited, Repr

/-- What happens to the backoff of a claim. -/
inductive BackoffStep where
  | keep
  | reset
  | advance
deriving DecidableEq, Inhabited, Repr

/-- What a pass leaves to be noted. -/
structure Report where
  conclusion : Except Error Conclusion
  /-- The attempt to be counted, with its duration, if there was one. -/
  attempt : Option (AttemptResult × Duration)
  backoff : BackoffStep

/-! ## A pass -/

def volumeNameFor (claim : Claim) : Except Error String :=
  match claim.metadata.uid with
  | some uid => .ok ("pvc-" ++ uid)
  | none => .error (.internal ("claim " ++ claim.anyName ++ " has no uid"))

/-- The class of a claim: the older annotation comes before the spec, and an empty name is
none. -/
def className? (claim : Claim) : Option String :=
  ((claim.annotated? betaStorageClassKey).or (claim.spec.bind (·.storageClassName))).filter
    (· ≠ "")

namespace Pass

def ignore (reason : Disregard) (backoff : BackoffStep := .keep) : Report :=
  ⟨.ok (.ignored reason), none, backoff⟩

/-- Find out whether a claim is to be provisioned, and how; if not, report why. -/
def gate (driverName : String) (claim : Claim) : ExceptT Report Program ProvisionOptions := do
  if claim.volumeName?.isSome then throw (ignore .bound .reset)
  if claim.metadata.deletionTimestamp.isSome then throw (ignore .beingDeleted .reset)
  let some className := className? claim | throw (ignore .noClass)
  let some storageClass ← Lister.asked.storageClass className | throw (ignore .classNotFound)
  if storageClass.provisioner ≠ driverName then throw (ignore .otherProvisioner)
  let some nodeName := claim.annotated? selectedNodeKey | throw (ignore .noNode)
  let some node ← Lister.asked.node nodeName
    | throw ⟨.error (.notFound "Node" nodeName), none, .keep⟩
  match volumeNameFor claim with
  | .error e => throw ⟨.error e, none, .keep⟩
  | .ok volumeName =>
      return { volumeName, claim, storageClass := some storageClass, selectedNode := some node }

/-- Do what is left to do after an attempt to provision a claim, and report. -/
def conclude (claim : Claim) (result : Except Failure Volume) (elapsed : Duration) :
    Program Report := do
  match result with
  | .ok volume =>
      let success : Report :=
        ⟨.ok (.provisioned volume.anyName), some (.success, elapsed), .reset⟩
      match ← Program.call (.createVolume volume) with
      | .ok _ => return success
      | .error e =>
          if e.isAlreadyExists then return success
          else return ⟨.error e, some (.inBackground, elapsed), .keep⟩
  | .error failure =>
      match failure.disposition with
      | .finished => return ⟨.ok .awaitChange, some (.failed, elapsed), .reset⟩
      | .reschedule =>
          match ← Program.call
            (.patchClaim claim.spaceName claim.anyName Patch.clearSelectedNode) with
          | .ok _ => return ⟨.ok .rescheduled, some (.rescheduled, elapsed), .reset⟩
          | .error e => return ⟨.error e, some (.rescheduled, elapsed), .reset⟩
      | .inBackground => return ⟨.ok .continueLater, some (.inBackground, elapsed), .advance⟩

end Pass

def pass (driverName : String) (provisioner : Provisioner) (claim : Claim) : Program Report := do
  match ← (Pass.gate driverName claim).run with
  | .error report => return report
  | .ok options =>
      let started ← Program.request .clock
      let result ← provisioner options
      let ended ← Program.request .clock
      Pass.conclude claim result (.ofMillis (ended - started))

/-! ## The ledger -/

/-- What becomes of a claim after a pass. -/
inductive Outcome where
  | ignored (reason : Disregard)
  | provisioned (volume : String)
  | awaitChange
  | rescheduled
  | requeueAfter (delay : Duration)
deriving DecidableEq, Inhabited, Repr

/-- What the controller keeps between passes. -/
structure Ledger where
  policy : BackoffPolicy := {}
  metrics : Metrics := {}
  backoffs : Backoffs := .empty
deriving Inhabited

namespace Ledger

def count (l : Ledger) : Option (AttemptResult × Duration) → Ledger
  | none => l
  | some (result, elapsed) => { l with metrics := l.metrics.observe result.label elapsed }

def nextDelay (l : Ledger) (uid : String) : Duration × Ledger :=
  let (delay, backoffs) := Backoffs.next l.backoffs l.policy uid
  (delay, { l with backoffs })

def resetBackoff (l : Ledger) (uid : String) : Ledger :=
  { l with backoffs := Backoffs.reset l.backoffs uid }

/-- The outcome of a conclusion, given the delay for a further attempt. -/
def outcome (delay : Duration) : Conclusion → Outcome
  | .ignored reason => .ignored reason
  | .provisioned volume => .provisioned volume
  | .awaitChange => .awaitChange
  | .rescheduled => .rescheduled
  | .continueLater => .requeueAfter delay

def note (l : Ledger) (claim : Claim) (report : Report) : Except Error Outcome × Ledger :=
  let uid := claim.metadata.uid.getD ""
  let l := l.count report.attempt
  match report.backoff with
  | .keep => (report.conclusion.map (outcome ⟨0⟩), l)
  | .reset => (report.conclusion.map (outcome ⟨0⟩), l.resetBackoff uid)
  | .advance =>
      let (delay, l) := l.nextDelay uid
      (report.conclusion.map (outcome delay), l)

/-- When to come back to a claim whose pass failed, if at all. -/
def afterError (l : Ledger) (claim : Claim) (e : Error) : Option Duration × Ledger :=
  match e.reaction with
  | .backoff =>
      let (delay, l) := l.nextDelay (claim.metadata.uid.getD "")
      (some delay, l)
  | .after delay => (some delay, l)
  | .never => (none, l)

/-- When to come back to a claim after a pass, if at all. -/
def requeueDelay (l : Ledger) (claim : Claim) : Except Error Outcome → Option Duration × Ledger
  | .ok (.requeueAfter delay) => (some delay, l)
  | .ok _ => (none, l)
  | .error e => l.afterError claim e

end Ledger

/-! ## Reconcilers -/

/-- A provisioner that leaves the work to another one. -/
def delegate : Provisioner := fun options => Program.request (.delegate options)

/-- A provisioner under a driver name, with the ledger of the passes so far. -/
structure Reconciler where
  driverName : String := defaultDriverName
  provisioner : Provisioner
  ledger : Ledger := {}

namespace Reconciler

def pass (r : Reconciler) (claim : Claim) : Program Report :=
  VolumeHandover.pass r.driverName r.provisioner claim

def note (r : Reconciler) (claim : Claim) (report : Report) :
    Except Error Outcome × Reconciler :=
  let (result, ledger) := r.ledger.note claim report
  (result, { r with ledger })

/-- Note the report of a pass over a claim, and tell when to come back to it. -/
def noteAndRequeue (r : Reconciler) (claim : Claim) (report : Report) :
    Option Duration × Reconciler :=
  let (result, ledger) := r.ledger.note claim report
  let (delay, ledger) := ledger.requeueDelay claim result
  (delay, { r with ledger })

end Reconciler

end VolumeHandover
