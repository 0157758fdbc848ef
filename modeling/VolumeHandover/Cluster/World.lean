import VolumeHandover.Cluster.Watching
import VolumeHandover.Program

set_option autoImplicit false

/-! # A cluster with a clock and other clients

A `World` is a cluster in memory together with the time, with what other clients are going to
do to the cluster and when, and with failures that are armed for calls to the API. It answers
every request of a program, so `Program.run` runs a program in it. Time passes only while a
program waits: then the other clients act when their time has come. A program that has nothing
to wait for goes on at once, before clients who are due now.

Armed failures let calls to one method of the API fail: the first of them that has any left
lets as many calls pass as it is told to skip, and then takes the place of the cluster.
-/

namespace VolumeHandover

/-! ## Running programs -/

/-- Run a program with the answers that the surroundings give. -/
def Program.run {α σ : Type} (answer : (r : Request) → σ → r.Answer × σ) :
    Program α → σ → α × σ
  | .done a, s => (a, s)
  | .ask r next, s => (next (answer r s).1).run answer (answer r s).2

/-! ## Armed failures -/

inductive ApiMethod where
  | createClaim | patchClaim | deleteClaim | watchClaim
  | createPod | deletePod | createVolume | patchVolume | getNode
deriving DecidableEq, Inhabited, Repr

def ApiCall.method : ApiCall → ApiMethod
  | .createClaim _ => .createClaim
  | .patchClaim _ _ _ => .patchClaim
  | .deleteClaim _ _ => .deleteClaim
  | .watchClaim _ _ => .watchClaim
  | .createPod _ => .createPod
  | .deletePod _ _ => .deletePod
  | .createVolume _ => .createVolume
  | .patchVolume _ _ => .patchVolume
  | .getNode _ => .getNode

structure ArmedFailure where
  method : ApiMethod
  /-- How many calls still pass before the failure begins. -/
  skip : Nat := 0
  /-- How many calls still fail. -/
  count : Nat := 1
  error : Error
deriving DecidableEq, Inhabited, Repr

/-- What armed failures do to a call to `method`: the error, if it fails, and what is left. -/
def armedError (method : ApiMethod) : List ArmedFailure → Option Error × List ArmedFailure
  | [] => (none, [])
  | f :: rest =>
      if f.method = method && f.count ≠ 0 then
        match f.skip with
        | skip + 1 => (none, { f with skip } :: rest)
        | 0 => (some f.error, { f with count := f.count - 1 } :: rest)
      else
        let (error, rest) := armedError method rest
        (error, f :: rest)

/-! ## Other clients -/

inductive ClientAction where
  | bindClaim (space name : String)
  | deleteClaim (space name : String)
  | patchClaim (space name : String) (patch : Json)
deriving Inhabited

def Cluster.perform (s : Cluster) : ClientAction → Cluster
  | .bindClaim space name => s.bindClaim (keyIn space name)
  | .deleteClaim space name => (s.deleteClaim space name).2
  | .patchClaim space name patch => (s.patchClaim space name patch).2

/-- A provisioner that answers from a list; the last entry is used again and again. -/
structure Understudy where
  script : List (Except Failure Volume) := []
  asked : List ProvisionOptions := []
deriving Inhabited

def Understudy.provision (u : Understudy) (options : ProvisionOptions) :
    Except Failure Volume × Understudy :=
  let asked := u.asked ++ [options]
  match u.script with
  | [] => (.error ⟨.finished, .internal "no answer is left"⟩, { u with asked })
  | [answer] => (answer, { u with asked })
  | answer :: script => (answer, { script, asked })

/-! ## Worlds -/

/-- A cluster with a clock, other clients, armed failures and an understudy. -/
structure World where
  cluster : Cluster := {}
  /-- The time in milliseconds. -/
  now : Nat := 0
  /-- What other clients do and when, in order of time. -/
  agenda : List (Nat × ClientAction) := []
  failures : List ArmedFailure := []
  claimsHidden : Bool := false
  understudy : Understudy := {}
  /-- All requests so far, each with its time. -/
  requests : List (Nat × Request) := []
deriving Inhabited

namespace World

/-- Note on the agenda what another client does at a time, behind all that is due by then. -/
def schedule (w : World) (due : Nat) (action : ClientAction) : World :=
  { w with agenda :=
      w.agenda.takeWhile (·.1 ≤ due) ++ (due, action) :: w.agenda.dropWhile (·.1 ≤ due) }

def arm (w : World) (failure : ArmedFailure) : World :=
  { w with failures := w.failures ++ [failure] }

/-- Let the other clients act who are due by `time`, at which the clock stands then. -/
def actUntil (w : World) (time : Nat) : World :=
  { w with
    now := max w.now time
    agenda := w.agenda.dropWhile (·.1 ≤ time)
    cluster := (w.agenda.takeWhile (·.1 ≤ time)).foldl (fun s e => s.perform e.2) w.cluster }

/-- Let a program wait until `time`. Clients who are due just then act after it has gone on. -/
def waitUntil (w : World) (time : Nat) : World :=
  if w.now < time then { w.actUntil (time - 1) with now := time } else w

/-- What a watch has decided by now, if anything. -/
def decided? (w : World) (watch : Watch) : Option Awaited × World :=
  match w.cluster.watch? watch with
  | none => (some .closed, w)
  | some subscription =>
      let (events, rest) := subscription.drain w.cluster.events
      let w := { w with cluster := { w.cluster with
        watches := w.cluster.watches.set watch.number rest } }
      match firstDecision? events with
      | some decision => (some (.decided decision), w)
      | none => (if rest.next.isNone then some .closed else none, w)

/-- What a watch is going to decide while the other clients act in turn, and when. -/
def coming? (s : Cluster) (subscription : Subscription) :
    List (Nat × ClientAction) → Option (Decision × Nat)
  | [] => none
  | (due, action) :: rest =>
      let s := s.perform action
      let (events, subscription) := subscription.drain s.events
      match firstDecision? events with
      | some decision => some (decision, due)
      | none => coming? s subscription rest

def awaitBound (w : World) (watch : Watch) (timeout : Duration) : Awaited × World :=
  match w.decided? watch with
  | (some awaited, w) => (awaited, w)
  | (none, w) =>
      let deadline := w.now + timeout.ticks
      let agenda := if w.now < deadline then w.agenda.takeWhile (·.1 < deadline) else []
      match (w.cluster.watch? watch).bind fun subscription =>
          coming? w.cluster subscription agenda with
      | some (decision, due) => (.decided decision, w.actUntil due)
      | none => (.timedOut, w.waitUntil deadline)

/-- Answer a call to the API, unless it is to fail. -/
def call (w : World) (c : ApiCall) : Except Error c.Answer × World :=
  let (error, failures) := armedError c.method w.failures
  match error with
  | some e => (.error e, { w with failures })
  | none =>
      let (answer, cluster) := w.cluster.call c
      (answer, { w with failures, cluster })

def find (w : World) : (l : Lookup) → Option l.Answer
  | .claim space name => if w.claimsHidden then none else w.cluster.find (.claim space name)
  | l => w.cluster.find l

def respond (w : World) : (r : Request) → r.Answer × World
  | .call c => w.call c
  | .find l => (w.find l, w)
  | .awaitBound watch timeout => w.awaitBound watch timeout
  | .pause interval => ((), w.waitUntil (w.now + interval.pauseTicks))
  | .clock => (w.now, w)
  | .delegate options =>
      let (answer, understudy) := w.understudy.provision options
      (answer, { w with understudy })

def noted (w : World) (r : Request) : World :=
  { w with requests := w.requests ++ [(w.now, r)] }

def answer (r : Request) (w : World) : r.Answer × World := (w.noted r).respond r

def run {α : Type} (w : World) (p : Program α) : α × World := p.run answer w

end World

end VolumeHandover
