import VolumeHandover.Api.Follow
import VolumeHandover.Program

set_option autoImplicit false

/-! # Caches of a cluster behind an API server

For each kind of object that is looked up, a follower keeps a cache. All caches have to be
filled before look-ups are answered. A follower that hears of an object without a name stops:
its cache then stays as it is, and if it was never filled, no look-ups can be answered.

After a failure a follower pauses: 800 ms after the first, twice as long after each further
one, but never longer than 30 s. All else takes no time.
-/

namespace VolumeHandover

/-! ## One cache -/

/-- What a follower has made of its cache. -/
inductive Kept (α : Type) where
  /-- The collection has not been listed yet. -/
  | empty
  | filled (cache : Cache α)
  /-- The follower stopped before the cache was filled. -/
  | abandoned

namespace Kept

variable {α σ : Type} [StoredKind α]

/-- The objects that can be looked up. -/
def cache : Kept α → Cache α
  | .filled cache => cache
  | _ => {}

/-- What news make of a cache; nothing if they stop the follower. -/
def heed : Kept α → News α → Option (Kept α)
  | kept, .failed _ => some kept
  | _, .listed objects => (Cache.ofList objects).map .filled
  | .filled cache, .changed change => (cache.note change).map .filled
  | kept, .changed _ => some kept

def stop : Kept α → Kept α
  | .empty => .abandoned
  | kept => kept

end Kept

/-! ## Its history -/

/-- What was made of a cache from which millisecond on, in order of time. -/
structure CacheHistory (α : Type) where
  stages : List (Nat × Kept α)

/-- How many milliseconds a follower pauses after a failure, given the number of failures
before. -/
def pauseAfter (failures : Nat) : Nat := min 30000 (800 * Nat.pow 2 failures)

def News.isFailure {α : Type} : News α → Bool
  | .failed _ => true
  | _ => false

namespace CacheHistory

variable {α σ : Type}

/-- The history of a cache over `count` news, with at most `fuel` steps of following for
each. -/
def follow [StoredKind α] (collection : Collection) (fuel : Nat) :
    Nat → Nat → Nat → FollowStage α → Connection σ → Kept α → List (Nat × Kept α)
  | 0, _, time, _, _, kept => [(time, kept)]
  | count + 1, failures, time, stage, c, kept =>
      (time, kept) ::
        match Follower.next collection fuel stage c with
        | (none, _, _) => []
        | (some news, stage, c) =>
            match kept.heed news with
            | none => [(time, kept.stop)]
            | some kept =>
                if news.isFailure then
                  follow collection fuel count (failures + 1) (time + pauseAfter failures) stage
                    c kept
                else follow collection fuel count failures time stage c kept

def asOf (h : CacheHistory α) (time : Nat) : Kept α :=
  ((h.stages.takeWhile (·.1 ≤ time)).getLast?.map (·.2)).getD .empty

def filledAt? (h : CacheHistory α) : Option Nat :=
  h.stages.findSome? fun
    | (time, .filled _) => some time
    | _ => none

def abandonedAt? (h : CacheHistory α) : Option Nat :=
  h.stages.findSome? fun
    | (time, .abandoned) => some time
    | _ => none

end CacheHistory

/-! ## Prepared answers -/

/-- The answers that a server has prepared for the requests about one collection. -/
structure PreparedAnswers where
  /-- The answers to requests for a list; the last is given again and again. -/
  lists : List HttpAnswer
  watches : List HttpAnswer
deriving Inhabited

namespace PreparedAnswers

def isWatch (r : HttpRequest) : Bool := (r.target.splitOn "?&watch=true&").length ≠ 1

def serve (r : HttpRequest) (p : PreparedAnswers) : Option HttpAnswer × PreparedAnswers :=
  if isWatch r then (p.watches.head?, { p with watches := p.watches.tail })
  else match p.lists with
    | [] => (none, p)
    | [answer] => (some answer, p)
    | answer :: lists => (some answer, { p with lists })

/-- The history of a cache that is kept from the prepared answers, as long as they bring
something new. -/
def history {α : Type} [StoredKind α] (p : PreparedAnswers) (collection : Collection) :
    CacheHistory α :=
  let enough := Follower.patience (p.lists ++ p.watches) + p.lists.length * p.watches.length
  ⟨CacheHistory.follow collection enough enough 0 0 .start { serve, state := p } .empty⟩

end PreparedAnswers

/-! ## All caches -/

structure Caches (f : Type → Type) where
  storageClasses : f StorageClass
  csiNodes : f CsiNode
  csiDrivers : f CsiDriver
  nodes : f Node
  claims : f Claim

def cachedCollections : Caches fun _ => Collection where
  storageClasses := { path := "/apis/storage.k8s.io/v1/storageclasses" }
  csiNodes := { path := "/apis/storage.k8s.io/v1/csinodes" }
  csiDrivers := { path := "/apis/storage.k8s.io/v1/csidrivers" }
  nodes := { path := "/api/v1/nodes" }
  claims := { path := "/api/v1/persistentvolumeclaims" }

namespace Caches

def toList {f : Type → Type} {β : Type} (c : Caches f) (g : {α : Type} → f α → β) : List β :=
  [g c.storageClasses, g c.csiNodes, g c.csiDrivers, g c.nodes, g c.claims]

def histories (p : Caches fun _ => PreparedAnswers) : Caches CacheHistory where
  storageClasses := p.storageClasses.history cachedCollections.storageClasses
  csiNodes := p.csiNodes.history cachedCollections.csiNodes
  csiDrivers := p.csiDrivers.history cachedCollections.csiDrivers
  nodes := p.nodes.history cachedCollections.nodes
  claims := p.claims.history cachedCollections.claims

/-- When all caches are filled, if they are by the time `limit`. It is an error if one is found
never to be filled by then. -/
def readyAt? (c : Caches CacheHistory) (limit : Nat) : Except Error (Option Nat) :=
  if (c.toList CacheHistory.abandonedAt?).any fun time => time.any (· ≤ limit) then
    .error (.internal
      "cache writer dropped before sync: writer was dropped before store became ready")
  else .ok ((((c.toList CacheHistory.filledAt?).mapM id).bind List.max?).filter (· ≤ limit))

def asOf (c : Caches CacheHistory) (time : Nat) : Caches Cache where
  storageClasses := (c.storageClasses.asOf time).cache
  csiNodes := (c.csiNodes.asOf time).cache
  csiDrivers := (c.csiDrivers.asOf time).cache
  nodes := (c.nodes.asOf time).cache
  claims := (c.claims.asOf time).cache

def find (c : Caches Cache) : (l : Lookup) → Option l.Answer
  | .storageClass name => c.storageClasses.find? { name }
  | .csiNode name => c.csiNodes.find? { name }
  | .csiDriver name => c.csiDrivers.find? { name }
  | .node name => c.nodes.find? { name }
  | .claim space name => c.claims.find? { name, space := some space }

end Caches

end VolumeHandover
