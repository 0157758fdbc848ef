import VolumeHandover.Cluster.Cache
import VolumeHandover.Cluster.World
import VolumeHandover.Reconcile

set_option autoImplicit false

/-! # The controller

The controller keeps a cache of the claims and makes a pass over a claim whenever it is listed,
created or changed, and when the time has come to get back to it. Passes over different claims
may wait at the same time; over one claim there is one pass at a time. A claim that is
triggered while a pass over it runs gets another pass right after it.

A claim has at most one appointment. A trigger is an appointment for now and takes the place of
a later one. An appointment with a claim that is gone comes to nothing.
-/

namespace VolumeHandover

/-! ## Passes that wait -/

/-- A program that has run up to where it stops or waits. -/
inductive Progress (α : Type) where
  | ended (result : α)
  | awaiting (watch : Watch) (deadline : Nat) (next : Awaited → Program α)
  | pausing (time : Nat) (next : Program α)

/-- The latest time at which a program that waits goes on. -/
def Progress.wakeTime? {α : Type} : Progress α → Option Nat
  | .ended _ => none
  | .awaiting _ deadline _ => some deadline
  | .pausing time _ => some time

namespace World

variable {α : Type}

/-- Run a program up to where it stops or has to wait. -/
def proceed : Program α → World → Progress α × World
  | .done result, w => (.ended result, w)
  | .ask request next, w =>
      match request, next with
      | .awaitBound watch timeout, next =>
          (.awaiting watch (w.now + timeout.ticks) next, w.noted (.awaitBound watch timeout))
      | .pause interval, next =>
          let w := w.noted (.pause interval)
          if interval.pauseTicks = 0 then proceed (next ()) w
          else (.pausing (w.now + interval.pauseTicks) (next ()), w)
      | request, next =>
          let (answer, w) := w.answer request
          proceed (next answer) w

/-- How a program that waits goes on, if it can by now. -/
def resume? (w : World) : Progress α → Option (Program α) × World
  | .ended _ => (none, w)
  | .awaiting watch deadline next =>
      match w.decided? watch with
      | (some awaited, w) => (some (next awaited), w)
      | (none, w) => (if deadline ≤ w.now then some (next .timedOut) else none, w)
  | .pausing time next => (if time ≤ w.now then some next else none, w)

end World

/-! ## The state of the controller -/

structure WaitingPass where
  key : ObjectKey
  /-- The claim as it was when the pass began. -/
  claim : Claim
  progress : Progress Report

structure Controller where
  world : World
  reconciler : Reconciler
  cache : Cache Claim := {}
  /-- When to make a pass over which claim; at most one appointment for each. -/
  appointments : List (Nat × ObjectKey) := []
  waiting : List WaitingPass := []
  /-- Claims that were triggered while a pass over them was waiting. -/
  triggered : List ObjectKey := []
  /-- The changes still to be heard of, in order of time. -/
  arrivals : List (Nat × Change Claim) := []

namespace Controller

/-- Make an appointment with a claim, unless there is an earlier one. -/
def appoint (c : Controller) (time : Nat) (key : ObjectKey) : Controller :=
  if c.appointments.any fun (t, k) => k = key && t ≤ time then c
  else { c with appointments := c.appointments.filter (·.2 ≠ key) ++ [(time, key)] }

def trigger (c : Controller) (key : ObjectKey) : Controller :=
  if c.waiting.any (·.key = key) then
    { c with triggered := c.triggered.filter (· ≠ key) ++ [key] }
  else c.appoint c.world.now key

/-- Hear of a change of a claim. A claim that was removed needs no pass. -/
def hear (c : Controller) (change : Change Claim) : Controller :=
  match change.object.metadata.objectKey?, c.cache.note change with
  | some key, some cache =>
      let c := { c with cache }
      match change with
      | .applied _ => c.trigger key
      | .deleted _ => c
  | _, _ => c

def hearList (c : Controller) (claims : List Claim) : Controller :=
  match Cache.ofList claims with
  | none => c
  | some cache =>
      (claims.filterMap (·.metadata.objectKey?)).foldl trigger { c with cache }

/-- Go on behind a pass: another one at once if the claim was triggered meanwhile, and else at
the time that the report asks for. -/
def conclude (c : Controller) (key : ObjectKey) (claim : Claim) (report : Report) : Controller :=
  let (delay, reconciler) := c.reconciler.noteAndRequeue claim report
  let c := { c with reconciler }
  if c.triggered.contains key then
    { c with triggered := c.triggered.filter (· ≠ key) }.appoint c.world.now key
  else match delay with
    | some delay => c.appoint (c.world.now + delay.ticks) key
    | none => c

def proceed (c : Controller) (key : ObjectKey) (claim : Claim) (p : Program Report) :
    Controller :=
  let (progress, world) := World.proceed p c.world
  let c := { c with world }
  match progress with
  | .ended report => c.conclude key claim report
  | progress => { c with waiting := c.waiting ++ [⟨key, claim, progress⟩] }

/-- Keep an appointment with a claim: a pass over the claim as it is now. -/
def keep (c : Controller) (key : ObjectKey) : Controller :=
  let c := { c with appointments := c.appointments.filter (·.2 ≠ key) }
  match c.cache.find? key with
  | none => c
  | some claim => c.proceed key claim (c.reconciler.pass claim)

def resumeFirst (c : Controller) : List WaitingPass → Option Controller
  | [] => none
  | pass :: rest =>
      match c.world.resume? pass.progress with
      | (some p, world) =>
          let c := { c with world, waiting := c.waiting.filter (·.key ≠ pass.key) }
          some (c.proceed pass.key pass.claim p)
      | (none, world) => { c with world }.resumeFirst rest

/-- Go on with a pass that can, or keep an appointment that is due. -/
def work? (c : Controller) : Option Controller :=
  match c.resumeFirst c.waiting with
  | some c => some c
  | none => (c.appointments.find? (·.1 ≤ c.world.now)).map fun (_, key) => c.keep key

/-- Do all the work that is due now before anything else is heard of, in at most `fuel`
steps. -/
def settle : Nat → Controller → Controller
  | 0, c => c
  | fuel + 1, c =>
      match c.work? with
      | some c => settle fuel c
      | none => c

def act? (c : Controller) : Option Controller :=
  match c.arrivals with
  | (time, change) :: arrivals =>
      if time ≤ c.world.now then some ({ c with arrivals }.hear change) else c.work?
  | [] => c.work?

def times (c : Controller) : List Nat :=
  c.arrivals.map (·.1) ++ c.appointments.map (·.1) ++ c.world.agenda.map (·.1) ++
    c.waiting.filterMap (·.progress.wakeTime?)

/-- Run the controller until the horizon, in at most `fuel` acts. -/
def runFor (horizon : Nat) : Nat → Controller → Controller
  | 0, c => c
  | fuel + 1, c =>
      match c.act? with
      | some c => runFor horizon fuel c
      | none =>
          match c.times.min? with
          | none => c
          | some time =>
              if time < horizon then
                runFor horizon fuel { c with world := c.world.actUntil time }
              else c

/-- Run the controller until the horizon. The work on the claims that are listed comes before
any change is heard of. In each millisecond every claim heard of has its turn a bounded number of
times. -/
def run (c : Controller) (horizon : Duration) : Controller :=
  let turns := 4 * (c.cache.entries.length + c.arrivals.length) + 4
  if c.world.now < horizon.ticks then
    runFor horizon.ticks ((horizon.ticks + 1) * turns) (c.settle turns)
  else c

end Controller

end VolumeHandover
