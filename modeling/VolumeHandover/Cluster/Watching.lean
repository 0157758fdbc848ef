import VolumeHandover.Cluster.State

set_option autoImplicit false

/-! # Watching a cluster in memory

A watch delivers the claim as it was at the beginning, if there was one, and then the events
of its claim in their order. The events of all claims share a buffer that keeps the last 64; a
watch that is further behind goes on silently with the oldest one kept.
-/

namespace VolumeHandover

/-- How many events are kept for a watch that is behind. -/
def eventBuffer : Nat := 64

inductive Poll where
  | item (event : ClaimEvent)
  | ended
  | quiet
deriving DecidableEq, Inhabited

/-- What the first event decides that decides anything. -/
def firstDecision? (events : List ClaimEvent) : Option Decision :=
  events.findSome? fun event => decision? (.ok event)

namespace Subscription

/-- The first event of the watched claim among `events`, and how many lie before and up to
it. -/
def firstOf (key : String) : List (String × ClaimEvent) → Option (ClaimEvent × Nat)
  | [] => none
  | (k, event) :: rest =>
      if k = key then some (event, 1)
      else (firstOf key rest).map fun (event, n) => (event, n + 1)

/-- The number of the event that a watch looks at next, given the number of events so far. -/
def position (next total : Nat) : Nat := max next (total - eventBuffer)

def poll (events : List (String × ClaimEvent)) (w : Subscription) : Poll × Subscription :=
  match w.initial with
  | some claim => (.item (.applied claim), { w with initial := none })
  | none =>
      match w.next with
      | none => (.ended, w)
      | some next =>
          let start := position next events.length
          match firstOf w.key (events.drop start) with
          | some (event, n) => (.item event, { w with next := some (start + n) })
          | none => (.quiet, { w with next := some events.length })

def drain (events : List (String × ClaimEvent)) (w : Subscription) :
    List ClaimEvent × Subscription :=
  let initial := w.initial.toList.map ClaimEvent.applied
  match w.next with
  | none => (initial, { w with initial := none })
  | some next =>
      let fresh := (events.drop (position next events.length)).filter fun e => e.1 = w.key
      (initial ++ fresh.map (·.2), { w with initial := none, next := some events.length })

end Subscription

namespace Cluster

def watch? (s : Cluster) (w : Watch) : Option Subscription := s.watches[w.number]?

/-- Ask a watch once what it has to deliver; a handle without a watch has ended. -/
def poll (s : Cluster) (w : Watch) : Poll × Cluster :=
  match s.watch? w with
  | none => (.ended, s)
  | some subscription =>
      let (answer, subscription) := subscription.poll s.events
      (answer, { s with watches := s.watches.set w.number subscription })

end Cluster

end VolumeHandover
