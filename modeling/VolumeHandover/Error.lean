import VolumeHandover.Duration
import VolumeHandover.Text.Quoted

set_option autoImplicit false

/-! # Errors

Everything that can go wrong, by cause, with the words for it and what the controller does
about it: try again with growing delays, try again after a fixed delay, or leave the claim
alone until it changes.
-/

namespace VolumeHandover

/-! ## Faults of the API -/

/-- The answer with which the API refuses a request. -/
structure Refusal where
  status : String
  message : String := ""
  reason : String := ""
  code : Nat
deriving DecidableEq, Inhabited, Repr

namespace Refusal

def text (r : Refusal) : String := r.message ++ ": " ++ r.reason

def fullText (r : Refusal) : String :=
  "ErrorResponse \x7b status: " ++ quoted r.status ++ ", message: " ++ quoted r.message ++
    ", reason: " ++ quoted r.reason ++ ", code: " ++ toString r.code ++ " \x7d"

end Refusal

inductive ApiFault where
  | refused (refusal : Refusal)
  /-- The answer is not what it should be. -/
  | unreadable
  | tlsRequired
  | lineTooLong
  | brokenEvents (text : String)
  | badAddress
deriving DecidableEq, Inhabited, Repr

def ApiFault.message : ApiFault → String
  | .refused r => "ApiError: " ++ r.text ++ " (" ++ r.fullText ++ ")"
  | .unreadable => "Error deserializing response"
  | .tlsRequired => "TLS required but no TLS stack selected"
  | .lineTooLong => "Error finding newline character"
  | .brokenEvents text => "Error reading events stream: " ++ text
  | .badAddress => "Failed to build request: failed to build request: invalid uri character"

inductive WatchFault where
  /-- The list that a watch begins with failed. -/
  | list (fault : ApiFault)
  /-- The watch after the list could not begin. -/
  | start (fault : ApiFault)
  /-- The body of the watch broke. -/
  | stream (fault : ApiFault)
  | event (refusal : Refusal)
  /-- An answer carries no version to go on from. -/
  | noVersion
  /-- The list holds more than the one object watched. -/
  | tooMany
deriving DecidableEq, Inhabited, Repr

def WatchFault.message : WatchFault → String
  | .list fault => "failed to perform initial object list: " ++ fault.message
  | .start fault => "failed to start watching object: " ++ fault.message
  | .stream fault => "watch stream failed: " ++ fault.message
  | .event r => "error returned by apiserver during watch: " ++ r.text
  | .noVersion =>
      "no metadata.resourceVersion in watch result (does resource support watch?)"
  | .tooMany => "too many objects matched search criteria"

inductive MetricsFault where
  | alreadyRegistered
  | other (text : String)
deriving DecidableEq, Inhabited, Repr

def MetricsFault.message : MetricsFault → String
  | .alreadyRegistered => "Duplicate metrics collector registration attempted"
  | .other text => "Error: " ++ text

/-! ## Errors -/

inductive Error where
  | internal (text : String)
  | configuration (text : String)
  | request (fault : ApiFault)
  | failedTo (operation kind name : String) (fault : ApiFault)
  | watch (fault : WatchFault)
  | notFound (kind name : String)
  | alreadyExists (kind name : String)
  | missingStorageClass
  | missingSelectedNode
  | missingParameter (parameter : String)
  | csiNodeNotFound (node : String)
  | noMatchingClass (node : String)
  | bindTimeout (name : String) (timeout : Duration)
  | watchClosed (name : String)
  | claimDeleted (name : String)
  | retryExhausted (operation : String) (attempts : Nat) (lastError : String)
  | unimplemented (method : String)
  | missingNodeLabel (node label : String)
  | unreadableJson (text : String)
  | metrics (fault : MetricsFault)
  | io (text : String)
deriving DecidableEq, Inhabited, Repr

/-- What the controller does about an error. -/
inductive Reaction where
  /-- Come back with a delay that grows from time to time. -/
  | backoff
  | after (delay : Duration)
  /-- Wait for the claim to change. -/
  | never
deriving DecidableEq, Inhabited, Repr

namespace Error

def message : Error → String
  | .internal text => "Internal error: " ++ text
  | .configuration text => "Configuration error: " ++ text
  | .request fault => "Kubernetes API error: " ++ fault.message
  | .failedTo operation kind name fault =>
      "failed to " ++ operation ++ " " ++ kind ++ " " ++ name ++ ": " ++ fault.message
  | .watch fault => "Watch error: " ++ fault.message
  | .notFound kind name => "Resource not found: " ++ kind ++ "/" ++ name
  | .alreadyExists kind name => "Resource already exists: " ++ kind ++ "/" ++ name
  | .missingStorageClass => "storageClass is required"
  | .missingSelectedNode => "selected node is required"
  | .missingParameter parameter => parameter ++ " parameter is required"
  | .csiNodeNotFound node => "CSINode for selected node " ++ quoted node ++ " not found"
  | .noMatchingClass node =>
      "no matching storage class found for selected node " ++ quoted node
  | .bindTimeout name timeout =>
      "timeout waiting for PersistentVolumeClaim " ++ name ++ " to be bound after " ++
        timeout.text
  | .watchClosed name => "watch on PersistentVolumeClaim " ++ name ++ " closed unexpectedly"
  | .claimDeleted name =>
      "PersistentVolumeClaim " ++ name ++ " was deleted while waiting for it to be bound"
  | .retryExhausted operation attempts lastError =>
      "gave up to " ++ operation ++ " after " ++ toString attempts ++ " attempts: " ++ lastError
  | .unimplemented method => method ++ " is not implemented"
  | .missingNodeLabel node label => "failed to get " ++ label ++ " for node " ++ node
  | .unreadableJson text => "JSON parse error: " ++ text
  | .metrics fault => "Metrics error: " ++ fault.message
  | .io text => "IO error: " ++ text

/-- The error of an operation on an object: an object that is not there and one that is
there already are causes of their own. -/
def ofOperation (operation kind name : String) : ApiFault → Error
  | .refused r =>
      if r.code = 404 then .notFound kind name
      else if r.code = 409 && r.reason = "AlreadyExists" then .alreadyExists kind name
      else .failedTo operation kind name (.refused r)
  | fault => .failedTo operation kind name fault

/-- What the controller does about an error. A claim that was not bound in time is looked at
again soon, a node that does not fit yet a little later, and what the configuration or the
caller got wrong only when it changes. -/
def reaction : Error → Reaction
  | .bindTimeout _ _ => .after (.ofSeconds 10)
  | .csiNodeNotFound _ => .after (.ofSeconds 30)
  | .noMatchingClass _ => .after (.ofSeconds 30)
  | .configuration _ => .never
  | .missingStorageClass => .never
  | .missingSelectedNode => .never
  | .missingParameter _ => .never
  | .unimplemented _ => .never
  | _ => .backoff

/-- Whether it makes sense to try again by itself. -/
def isRetryable (e : Error) : Bool := e.reaction ≠ .never

def isAlreadyExists : Error → Bool
  | .alreadyExists _ _ => true
  | _ => false

def isNotFound : Error → Bool
  | .notFound _ _ => true
  | _ => false

end Error

/-! ## Failures of provisioning -/

/-- How things stand after a failed attempt to provision a claim. -/
inductive Disposition where
  /-- Trying again cannot help. -/
  | finished
  /-- Another node has to be chosen. -/
  | reschedule
  /-- Objects may have been left in the cluster, from which a later attempt goes on. -/
  | inBackground
deriving DecidableEq, Inhabited, Repr

def Disposition.text : Disposition → String
  | .finished => "finished"
  | .reschedule => "reschedule"
  | .inBackground => "in_background"

structure Failure where
  disposition : Disposition
  error : Error
deriving DecidableEq, Inhabited, Repr

def Failure.message (f : Failure) : String :=
  f.error.message ++ " (" ++ f.disposition.text ++ ")"

end VolumeHandover
