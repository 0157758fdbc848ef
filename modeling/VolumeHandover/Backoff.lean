import VolumeHandover.Double
import VolumeHandover.Duration
import VolumeHandover.Table

set_option autoImplicit false

/-! # Growing delays

A backoff hands out delays: the first is the initial one, each further one is half as long
again as the one before, and once that would reach or pass the longest delay it is the longest
delay. An initial delay beyond the longest is handed out all the same.

The delays are reckoned as doubles, in nanoseconds, and each result is cut to whole seconds and
to whole nanoseconds. Up to `2^53` nanoseconds, which are 104 days, a duration is a double; a
longer one may change a little by being handed out.

Each claim has a backoff of its own, which begins anew after a reset.
-/

namespace VolumeHandover

namespace Duration

def nanosPerSecond : Double := .ofNat 1000000000

/-- The length in nanoseconds as a double. -/
def toDouble (d : Duration) : Double :=
  ((Double.ofNat d.seconds).mul nanosPerSecond).add (.ofNat (d.nanos % 1000000000))

/-- The duration that a length in nanoseconds is cut to; seconds and nanoseconds are cut on
their own, both to numbers of 64 bits. -/
def ofDouble (x : Double) : Duration :=
  let most := Nat.pow 2 64 - 1
  ⟨min (x.div nanosPerSecond).floor most * 1000000000 + min x.floor most % 1000000000⟩

end Duration

/-- The delay to be handed out next, and the longest. -/
structure Backoff where
  current : Duration
  maximum : Duration
deriving DecidableEq, Inhabited, Repr

namespace Backoff

/-- How many times as long as the one before a delay is. -/
def growth : Double := .nearest 3 2

def delay (b : Backoff) : Duration := .ofDouble b.current.toDouble

/-- The backoff behind the delay it hands out now. -/
def grown (b : Backoff) : Backoff :=
  { b with current :=
      if (b.maximum.toDouble.div growth).le b.current.toDouble then b.maximum
      else .ofDouble (b.current.toDouble.mul growth) }

/-- The delay handed out when `count` have been handed out before. -/
def delayAfter (b : Backoff) : Nat → Duration
  | 0 => b.delay
  | count + 1 => b.grown.delayAfter count

end Backoff

structure BackoffPolicy where
  initial : Duration := .ofSeconds 1
  maximum : Duration := .ofSeconds 300
deriving DecidableEq, Inhabited, Repr

def BackoffPolicy.fresh (p : BackoffPolicy) : Backoff := ⟨p.initial, p.maximum⟩

/-- The backoffs of the claims that are waiting to be tried again, by the claim's uid. -/
abbrev Backoffs := Table Backoff

def Backoffs.next (bs : Backoffs) (policy : BackoffPolicy) (uid : String) :
    Duration × Backoffs :=
  let b := (bs.get? uid).getD policy.fresh
  (b.delay, bs.insert uid b.grown)

def Backoffs.reset (bs : Backoffs) (uid : String) : Backoffs := bs.erase uid

end VolumeHandover
