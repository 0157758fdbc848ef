import VolumeHandover.Duration
import VolumeHandover.Retry
import VolumeHandover.Text.Lowercase
import VolumeHandover.Text.Quoted
import VolumeHandover.WellKnown

set_option autoImplicit false

/-! # How a volume is obtained

The backend provisions the volume of a proxy claim once it knows the node. With the method
`annotation` the proxy claim names the node itself; with the method `pod` a placeholder pod on
that node makes the scheduler do it. The method is part of the configuration.
-/

namespace VolumeHandover

/-- How the backend learns the node. -/
inductive Method where
  | annotations
  | pod
deriving DecidableEq, Inhabited, Repr

namespace Method

def name : Method → String
  | .annotations => "annotation"
  | .pod => "pod"

/-- Read the name of a method in any letter case; `auto` leaves the choice, which falls on
annotations. -/
def parse (value : String) : Except String Method :=
  let lower := lowercase value
  if lower = "auto" then .ok .annotations
  else if lower = "annotation" then .ok .annotations
  else if lower = "pod" then .ok .pod
  else .error ("unknown provision method " ++ quoted lower)

/-- The method that a flag asks for; an unknown one gives annotations. -/
def ofFlag (value : String) : Method :=
  match parse value with
  | .ok method => method
  | .error _ => .annotations

end Method

structure Config where
  driverName : String := defaultDriverName
  method : Method := .annotations
  /-- How long to wait for the proxy claim to be bound. -/
  bindTimeout : Duration := .ofSeconds 30
  /-- How to retry the deletion of what is no longer needed. -/
  cleanupRetry : RetryPolicy := {}
  pauseImage : String := defaultPauseImage
deriving DecidableEq, Inhabited, Repr

end VolumeHandover
