import VolumeHandover.Error
import VolumeHandover.Object.Claim

set_option autoImplicit false

/-! # Waiting for a claim to be bound

A watch on a claim delivers the claim whenever it changes, tells when it is removed, and may
deliver errors and end. A bound claim, a removal and an error settle the wait, and so does the end
of the watch. The wait takes what has arrived, item by item, and looks at the clock only if that
settles nothing; then it sleeps until something arrives or the deadline comes. So an item that
arrives exactly at the deadline still counts.
-/

namespace VolumeHandover

inductive ClaimEvent where
  | applied (claim : Claim)
  | deleted
deriving DecidableEq, Inhabited

abbrev WatchItem := Except Error ClaimEvent

/-- A claim in phase Bound. -/
abbrev BoundClaim := { claim : Claim // claim.isBound = true }

inductive Decision where
  | bound (claim : BoundClaim)
  | deleted
  | failed (error : Error)

/-- What an item decides; a claim that is not bound decides nothing. -/
def decision? : WatchItem → Option Decision
  | .ok (.applied claim) => if h : claim.isBound = true then some (.bound ⟨claim, h⟩) else none
  | .ok .deleted => some .deleted
  | .error e => some (.failed e)

inductive Awaited where
  | decided (decision : Decision)
  | closed
  | timedOut

/-- The result of waiting for the claim `name` for at most `timeout`. -/
def Awaited.result (name : String) (timeout : Duration) : Awaited → Except Error BoundClaim
  | .decided (.bound claim) => .ok claim
  | .decided .deleted => .error (.claimDeleted name)
  | .decided (.failed e) => .error e
  | .closed => .error (.watchClosed name)
  | .timedOut => .error (.bindTimeout name timeout)

/-- What a watch is going to deliver: each item with the millisecond of its arrival, in order
of arrival, and the millisecond in which the watch ends, if it does. -/
structure Feed where
  items : List (Nat × WatchItem)
  closing : Option Nat

inductive Look where
  | settled (awaited : Awaited)
  /-- Nothing that settles the wait; the rest of the feed is still to arrive. -/
  | waiting (rest : Feed)

namespace Feed

/-- Take the items that have arrived by `now`, up to the first that decides; behind the last item,
the end of the watch settles the wait. -/
def take (now : Nat) (closing : Option Nat) : List (Nat × WatchItem) → Look
  | [] => if closing.any (· ≤ now) then .settled .closed else .waiting ⟨[], closing⟩
  | (time, item) :: rest =>
      if time ≤ now then
        match decision? item with
        | some decision => .settled (.decided decision)
        | none => take now closing rest
      else .waiting ⟨(time, item) :: rest, closing⟩

def look (feed : Feed) (now : Nat) : Look := take now feed.closing feed.items

/-- When something is going to arrive next, if ever: an item, or else the end of the watch. -/
def next? (feed : Feed) : Option Nat :=
  match feed.items with
  | (time, _) :: _ => some time
  | [] => feed.closing

/-- Nothing is left that has arrived. -/
theorem lt_next? {feed rest : Feed} {now : Nat} (look : feed.look now = .waiting rest) :
    ∀ time ∈ rest.next?, now < time := by
  obtain ⟨items, closing⟩ := feed
  change take now closing items = .waiting rest at look
  fun_induction take now closing items with
  | case1 closed => cases look
  | case2 later =>
      cases look
      intro time closes
      cases closes
      simpa using later
  | case3 time item others arrived decision decides => cases look
  | case4 time item others arrived undecided ih => exact ih look
  | case5 time item others later =>
      cases look
      intro time first
      cases first
      exact Nat.lt_of_not_le later

/-- Wait from `now` on: look at the feed, and then at the clock; how the wait ends, and when. -/
def await (feed : Feed) (now deadline : Nat) : Awaited × Nat :=
  match _ : feed.look now with
  | .settled awaited => (awaited, now)
  | .waiting rest =>
      if deadline ≤ now then (.timedOut, now)
      else rest.await (min (rest.next?.getD deadline) deadline) deadline
termination_by deadline - now
decreasing_by
  have later : now < rest.next?.getD deadline := by
    cases next : rest.next? with
    | none => simpa using ‹¬ deadline ≤ now›
    | some time => exact lt_next? ‹feed.look now = .waiting rest› time next
  omega

end Feed

/-- Wait for the claim `name` to be bound, from the start of a feed: the result and the time
at which it stands. -/
def waitForBound (feed : Feed) (name : String) (timeout : Duration) :
    Except Error BoundClaim × Nat :=
  (feed.await 0 timeout.ticks).map (Awaited.result name timeout) id

end VolumeHandover
