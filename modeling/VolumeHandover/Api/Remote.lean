import VolumeHandover.Api.Follow
import VolumeHandover.Json.Writer
import VolumeHandover.Program

set_option autoImplicit false

/-! # A cluster behind an API server

A `Remote` makes the calls to the API as requests to a server. A call stays without a result
when the server does not answer. A watch makes no request before it is asked for an item; it
then follows the collection of claims, narrowed down to the one claim.
-/

namespace VolumeHandover

/-! ## Paths -/

def claimsPath (space : String) : String :=
  "/api/v1/namespaces/" ++ space ++ "/persistentvolumeclaims"

def podsPath (space : String) : String := "/api/v1/namespaces/" ++ space ++ "/pods"

def volumesPath : String := "/api/v1/persistentvolumes"

def nodesPath : String := "/api/v1/nodes"

namespace HttpRequest

def create (path : String) (object : Json) : HttpRequest where
  method := .post
  target := path ++ "?"
  contentType := some "application/json"
  body := some object.write

def merge (path name : String) (patch : Json) : HttpRequest where
  method := .patch
  target := path ++ "/" ++ name ++ "?"
  contentType := some "application/merge-patch+json"
  body := some patch.write

/-- Delete an object in a collection, in the manner that `options` say. -/
def remove (path name : String) (options : Json) : HttpRequest where
  method := .delete
  target := path ++ "/" ++ name ++ "?"
  contentType := some "application/json"
  body := some options.write

def fetch (path name : String) : HttpRequest where
  method := .get
  target := path ++ "/" ++ name

end HttpRequest

/-! ## Calls -/

/-- A connection over which calls are made, and the watches that were begun. -/
structure Remote (σ : Type) where
  connection : Connection σ
  watches : List (Follower Claim) := []

namespace Remote

variable {σ : Type}

def exchange {α : Type} (r : Remote σ) (request : HttpRequest) (operation kind name : String)
    (read? : String → Option α) : Option (Except Error α) × Remote σ :=
  match request.addressed? with
  | none => (some (.error (.ofOperation operation kind name .badAddress)), r)
  | some request =>
      let (answer, connection) := r.connection.send request
      (match answer with
        | none => none
        | some answer =>
            if answer.unfinished then none
            else match answer.content read? with
              | .ok value => some (.ok value)
              | .error fault => some (.error (.ofOperation operation kind name fault)),
        { r with connection })

def watchClaim (r : Remote σ) (space name : String) : Watch × Remote σ :=
  let follower : Follower Claim := { collection := { path := claimsPath space, name := some name } }
  (⟨r.watches.length⟩, { r with watches := r.watches ++ [follower] })

/-- Make a call to the API. A claim is deleted after everything that depends on it. -/
def call (r : Remote σ) : (c : ApiCall) → Option (Except Error c.Answer) × Remote σ
  | .createClaim claim =>
      r.exchange (.create (claimsPath claim.spaceName) (StoredKind.toJson claim))
        "create" "PersistentVolumeClaim" claim.anyName StoredKind.format.read?
  | .patchClaim space name patch =>
      r.exchange (.merge (claimsPath space) name patch)
        "patch" "PersistentVolumeClaim" name StoredKind.format.read?
  | .deleteClaim space name =>
      r.exchange
        (.remove (claimsPath space) name (.ofFields [("propagationPolicy", .text "Foreground")]))
        "delete" "PersistentVolumeClaim" name (deletion? Claim)
  | .watchClaim space name =>
      let (watch, r) := r.watchClaim space name
      (some (.ok watch), r)
  | .createPod pod =>
      r.exchange (.create (podsPath pod.spaceName) (StoredKind.toJson pod))
        "create" "Pod" pod.anyName StoredKind.format.read?
  | .deletePod space name =>
      r.exchange (.remove (podsPath space) name (.object []))
        "delete" "Pod" name (deletion? Pod)
  | .createVolume volume =>
      r.exchange (.create volumesPath (StoredKind.toJson volume))
        "create" "PersistentVolume" volume.anyName StoredKind.format.read?
  | .patchVolume name patch =>
      r.exchange (.merge volumesPath name patch)
        "patch" "PersistentVolume" name StoredKind.format.read?
  | .getNode name => r.exchange (.fetch nodesPath name) "get" "Node" name StoredKind.format.read?

/-! ## Watches -/

/-- What news of the collection mean to the watch of one claim. -/
def watchItem : News Claim → WatchItem
  | .listed [] => .ok .deleted
  | .listed [claim] => .ok (.applied claim)
  | .listed (_ :: _ :: _) => .error (.watch .tooMany)
  | .changed (.applied claim) => .ok (.applied claim)
  | .changed (.deleted _) => .ok .deleted
  | .failed fault => .error (.watch fault)

/-- The next item of a watch, if one comes within `fuel` steps of following. -/
def nextItem (r : Remote σ) (watch : Watch) (fuel : Nat) : Option WatchItem × Remote σ :=
  match r.watches[watch.number]? with
  | none => (none, r)
  | some follower =>
      let (news, stage, connection) :=
        Follower.next follower.collection fuel follower.stage r.connection
      (news.map watchItem,
        { r with connection, watches := r.watches.set watch.number { follower with stage } })

/-- Up to `count` items of a watch; fewer if no more come. -/
def takeItems (watch : Watch) (fuel : Nat) : Nat → Remote σ → List WatchItem × Remote σ
  | 0, r => ([], r)
  | count + 1, r =>
      match r.nextItem watch fuel with
      | (none, r) => ([], r)
      | (some item, r) =>
          let (items, r) := takeItems watch fuel count r
          (item :: items, r)

end Remote

end VolumeHandover
