import VolumeHandover.BindWait
import VolumeHandover.Json.Value
import VolumeHandover.Object.Node
import VolumeHandover.Object.Pod
import VolumeHandover.Object.StorageClass
import VolumeHandover.Object.Volume

set_option autoImplicit false

/-! # Programs that drive a cluster

A `Program` is what the provisioner and the controller do, step by step: it puts a request to
its surroundings and goes on with the answer, whatever that is. Requests are calls to the API,
look-ups in the caches, the wait for a claim, pauses, a glance at the clock and the hand-over
of a claim to another provisioner. How they are answered is left to an interpreter, so one
program runs on a cluster in memory, on an API server and in a proof about all of them.
-/

namespace VolumeHandover

/-! ## Requests -/

structure Watch where
  number : Nat
deriving DecidableEq, Inhabited, Repr

inductive ApiCall where
  | createClaim (claim : Claim)
  | patchClaim (space name : String) (patch : Json)
  | deleteClaim (space name : String)
  | watchClaim (space name : String)
  | createPod (pod : Pod)
  | deletePod (space name : String)
  | createVolume (volume : Volume)
  | patchVolume (name : String) (patch : Json)
  | getNode (name : String)

abbrev ApiCall.Answer : ApiCall → Type
  | .createClaim _ => Claim
  | .patchClaim _ _ _ => Claim
  | .deleteClaim _ _ => Unit
  | .watchClaim _ _ => Watch
  | .createPod _ => Pod
  | .deletePod _ _ => Unit
  | .createVolume _ => Volume
  | .patchVolume _ _ => Volume
  | .getNode _ => Node

inductive Lookup where
  | storageClass (name : String)
  | csiNode (name : String)
  | csiDriver (name : String)
  | node (name : String)
  | claim (space name : String)

abbrev Lookup.Answer : Lookup → Type
  | .storageClass _ => StorageClass
  | .csiNode _ => CsiNode
  | .csiDriver _ => CsiDriver
  | .node _ => Node
  | .claim _ _ => Claim

structure ProvisionOptions where
  /-- The name of the volume to be created, which the proxy claim has as well. -/
  volumeName : String
  claim : Claim
  /-- The class that the claim asks for. -/
  storageClass : Option StorageClass
  /-- The node that the workload is to run on. -/
  selectedNode : Option Node
deriving DecidableEq, Inhabited

/-- What a program asks of its surroundings. -/
inductive Request where
  | call (call : ApiCall)
  | find (lookup : Lookup)
  /-- Wait until a watch decides whether its claim gets bound. -/
  | awaitBound (watch : Watch) (timeout : Duration)
  | pause (interval : Duration)
  /-- Look at the clock, in milliseconds. -/
  | clock
  /-- Let another provisioner provision a claim. -/
  | delegate (options : ProvisionOptions)

abbrev Request.Answer : Request → Type
  | .call c => Except Error c.Answer
  | .find l => Option l.Answer
  | .awaitBound _ _ => Awaited
  | .pause _ => Unit
  | .clock => Nat
  | .delegate _ => Except Failure Volume

/-! ## Programs -/

inductive Program (α : Type) : Type where
  | done (result : α)
  /-- Put a request and go on with its answer. -/
  | ask (request : Request) (next : request.Answer → Program α)

namespace Program

variable {α β : Type}

/-- Run `p`, then go on with its result. -/
def bind (p : Program α) (next : α → Program β) : Program β :=
  match p with
  | .done a => next a
  | .ask request rest => .ask request fun answer => (rest answer).bind next

instance : Monad Program where
  pure := .done
  bind := bind

@[simp] theorem pure_eq (a : α) : (pure a : Program α) = .done a := rfl

@[simp] theorem done_bind (a : α) (next : α → Program β) : Program.done a >>= next = next a :=
  rfl

@[simp] theorem ask_bind (request : Request) (rest : request.Answer → Program α)
    (next : α → Program β) :
    Program.ask request rest >>= next = .ask request fun answer => rest answer >>= next := rfl

theorem bind_done (p : Program α) : p >>= Program.done = p := by
  induction p with
  | done a => rfl
  | ask request rest ih => exact congrArg (Program.ask request) (funext ih)

theorem bind_assoc {γ : Type} (p : Program α) (f : α → Program β) (g : β → Program γ) :
    p >>= f >>= g = p >>= fun a => f a >>= g := by
  induction p with
  | done a => rfl
  | ask request rest ih => exact congrArg (Program.ask request) (funext ih)

def request (r : Request) : Program r.Answer := .ask r .done

def call (c : ApiCall) : Program (Except Error c.Answer) := request (.call c)

end Program

/-! ## Look-ups -/

/-- The look-ups that a decision may need, in the manner `m` in which they are made. -/
structure Lister (m : Type → Type) where
  storageClass : String → m (Option StorageClass)
  csiNode : String → m (Option CsiNode)
  csiDriver : String → m (Option CsiDriver)
  node : String → m (Option Node)
  claim : String → String → m (Option Claim)

/-- The look-ups as requests of a program. -/
def Lister.asked : Lister Program where
  storageClass name := .request (.find (.storageClass name))
  csiNode name := .request (.find (.csiNode name))
  csiDriver name := .request (.find (.csiDriver name))
  node name := .request (.find (.node name))
  claim space name := .request (.find (.claim space name))

end VolumeHandover
