import VolumeHandover.Api.Answer
import VolumeHandover.Cluster.Cache
import VolumeHandover.Json.Tagged
import VolumeHandover.Text.Blank
import VolumeHandover.Text.FormEncoding

set_option autoImplicit false

/-! # Following a collection

To follow the objects in a collection, they are listed page by page, and then the changes from
the version of the list on are watched. Each change, and each bookmark that the server sets,
carries the version to go on from when the body of a watch ends. Where no version is known to
go on from, all begins anew with a list.

The body of a watch is read line by line. A line that stops too early is passed over; the body
goes on behind a line that cannot be read. The status of the answer to a watch does not matter.
-/

namespace VolumeHandover

/-! ## Pages of a list -/

structure ListPage (α : Type) where
  objects : List α
  token : Option String
  version : Option String

namespace ListPage

def nonempty? (s : Option String) : Option String := s.filter (· ≠ "")

def marks : Format (Option String × Option String) :=
  .record ((fun token version _ _ => (nonempty? token, nonempty? version)) <$>
    .optional "continue" .text <*> .optional "resourceVersion" .text <*>
    .optional "selfLink" .text <*>
    .optional "remainingItemCount" (.whole (-Int.pow 2 63) (Int.pow 2 63 - 1)))

/-- How pages are read. All their fields have to be values in every part. -/
def format {α : Type} [StoredKind α] : Format (ListPage α) :=
  .form (.kept []) ((fun (token, version) objects => ⟨objects.getD [], token, version⟩) <$>
    .required "metadata" marks <*> .required "items" (.nullable (.list StoredKind.format)))

end ListPage

/-! ## Lines of a watch -/

inductive WatchLine (α : Type) where
  | change (change : Change α)
  | bookmark (version : String)
  | refused (refusal : Refusal)
  | unreadable (fault : ApiFault)
  /-- The line stops too early. -/
  | cut

namespace WatchLine

variable {α : Type} [StoredKind α]

/-- How the object of a bookmark is read. It has a version and a kind like other objects. -/
def marker : Format String :=
  .form (.kept ["apiVersion", "kind"]) (.required "metadata" (.form .skipped
    ((fun version _ => version) <$> .required "resourceVersion" .text <*>
      .ifThere "annotations" .table .empty)))

def contents : List (String × Format (WatchLine α)) := [
  ("ADDED", (fun o => .change (.applied o)) <$> StoredKind.format),
  ("MODIFIED", (fun o => .change (.applied o)) <$> StoredKind.format),
  ("DELETED", (fun o => .change (.deleted o)) <$> StoredKind.format),
  ("BOOKMARK", .bookmark <$> marker),
  ("ERROR", .refused <$> Refusal.format)]

def tagging : Json.Tagging where
  tag := "type"
  content := "object"
  shapes := (contents (α := α)).map fun (type, format) => (type, format.shape)

/-- What a line says that is no event. -/
def ofOther (line : String) : WatchLine α :=
  match Refusal.format.read? line with
  | some r => .unreadable (.refused r)
  | none => .unreadable .unreadable

def ofText (line : String) : WatchLine α :=
  match (tagging (α := α)).read line with
  | .error e => if e.fault.isEnd then .cut else ofOther line
  | .ok (type, object) =>
      ((contents.lookup type).bind fun format => format.ofJson? object).getD (ofOther line)

end WatchLine

/-- A line without the carriage return at its end. -/
def withoutReturn (line : List Char) : List Char :=
  if line.getLast? = some '\r' then line.dropLast else line

/-- The lines that come of a body. The last one counts only if the body ends there. -/
def HttpAnswer.lines (a : HttpAnswer) : List String :=
  let pieces := cutAt '\n' a.body.toList
  (if a.unfinished then pieces.dropLast else pieces).map fun line =>
    String.ofList (withoutReturn line)

/-! ## Following -/

structure Collection where
  path : String
  /-- The name of the only object that matters, if there is one. -/
  name : Option String := none
deriving DecidableEq, Inhabited, Repr

namespace Collection

/-- The part of a query that leaves only the objects that matter. -/
def selector (c : Collection) : List (String × String) :=
  c.name.toList.map fun name => ("fieldSelector", "metadata.name=" ++ name)

def listRequest (c : Collection) (token : Option String) : HttpRequest where
  method := .get
  target := c.path ++ "?" ++ formQuery (c.selector ++ [("limit", "500")] ++
    token.toList.map fun token => ("continue", token))

def watchRequest (c : Collection) (version : String) : HttpRequest where
  method := .get
  target := c.path ++ "?" ++ formQuery ([("watch", "true"), ("timeoutSeconds", "290")] ++
    c.selector ++ [("allowWatchBookmarks", "true"), ("resourceVersion", version)])

end Collection

inductive News (α : Type) where
  /-- The collection was listed and holds these objects. -/
  | listed (objects : List α)
  | changed (change : Change α)
  | failed (fault : WatchFault)

inductive FollowStage (α : Type) where
  /-- About to ask for the page with the token, with the objects of the pages before. -/
  | listing (token : Option String) (objects : List α)
  | listed (version : String)
  | watching (version : String) (lines : List String) (unfinished : Bool)
  | silent
deriving Inhabited

def FollowStage.start {α : Type} : FollowStage α := .listing none []

structure Follower (α : Type) where
  collection : Collection
  stage : FollowStage α := .start

namespace Follower

variable {α σ : Type} [k : StoredKind α]

/-- What becomes of a page: news, if there is any, and the next stage. -/
def turnPage (objects : List α) (page : ListPage α) : Option (News α) × FollowStage α :=
  let objects := objects ++ page.objects
  match page.token, page.version with
  | some token, _ => (none, .listing (some token) objects)
  | none, some version => (some (.listed objects), .listed version)
  | none, none => (some (.failed .noVersion), .start)

/-- What becomes of a line, `version` being the version up to it and `rest` the stage behind
it, given a version. -/
def readLine (version : String) (rest : String → FollowStage α) :
    WatchLine α → Option (News α) × FollowStage α
  | .change change =>
      match (k.metadata change.object).resourceVersion.filter (· ≠ "") with
      | some version => (some (.changed change), rest version)
      | none => (some (.failed .noVersion), .start)
  | .bookmark version => (none, rest version)
  | .refused r =>
      (some (.failed (.event r)), if r.code = 410 then .start else rest version)
  | .unreadable fault => (some (.failed (.stream fault)), rest version)
  | .cut => (none, rest version)

def exchange (c : Connection σ) (r : HttpRequest)
    (onFault : ApiFault → Option (News α) × FollowStage α)
    (onAnswer : HttpAnswer → Option (News α) × FollowStage α) :
    Option (News α) × FollowStage α × Connection σ :=
  match r.addressed? with
  | none =>
      let (news, stage) := onFault .badAddress
      (news, stage, c)
  | some r =>
      match c.send r with
      | (none, c) => (none, .silent, c)
      | (some answer, c) =>
          let (news, stage) := onAnswer answer
          (news, stage, c)

def step (collection : Collection) (c : Connection σ) :
    FollowStage α → Option (News α) × FollowStage α × Connection σ
  | .listing token objects =>
      exchange c (collection.listRequest token)
        (fun fault => (some (.failed (.list fault)), .start))
        fun answer =>
          if answer.unfinished then (none, .silent)
          else match answer.content ListPage.format.read? with
            | .ok page => turnPage objects page
            | .error fault => (some (.failed (.list fault)), .start)
  | .listed version =>
      exchange c (collection.watchRequest version)
        (fun fault => (some (.failed (.start fault)), .listed version))
        fun answer => (none, .watching version answer.lines answer.unfinished)
  | .watching version [] unfinished =>
      (none, if unfinished then .silent else .listed version, c)
  | .watching version (line :: lines) unfinished =>
      let (news, stage) :=
        readLine version (fun version => .watching version lines unfinished) (WatchLine.ofText line)
      (news, stage, c)
  | .silent => (none, .silent, c)

/-- Follow a collection up to the next news, in at most `fuel` steps; no news come any more
once the follower is silent. -/
def next (collection : Collection) :
    Nat → FollowStage α → Connection σ → Option (News α) × FollowStage α × Connection σ
  | 0, stage, c => (none, stage, c)
  | fuel + 1, stage, c =>
      match stage with
      | .silent => (none, .silent, c)
      | stage =>
          match step collection c stage with
          | (some news, stage, c) => (some news, stage, c)
          | (none, stage, c) => next collection fuel stage c

/-- How many steps the given answers can keep a follower busy. -/
def patience (answers : List HttpAnswer) : Nat :=
  answers.foldl (fun n answer => n + answer.lines.length + 3) 3

end Follower

end VolumeHandover
