import VolumeHandover.Cluster.Sample
import VolumeHandover.Proofs.Trace

set_option autoImplicit false

/-! # The protocol of a handover

Which requests a call to provision makes of the cluster, and in which order, whatever the
cluster answers. The requests form a beginning of one sequence of steps. A step is a request
that is made until an answer lets the next step begin, a bounded number of times. The sequence
depends on the configuration, the options and the selected class, and on what the cluster has
said by then: whether the caches show the proxy claim, which bound claim the watch delivered,
and which volume the API gave back once it was released.

Main statement: `provision_conduct`, every trace of `provision` is a `Conduct`.
-/

namespace VolumeHandover

/-! ## Steps -/

/-- A request that is made again and again until it has succeeded. -/
structure Step where
  request : Request
  /-- How often the request is made at most. -/
  attempts : Nat
  /-- The answers that are a success. -/
  passed : request.Answer → Prop

/-- A call succeeds with a value, and with an error that says that the aim is reached. -/
def Succeeds {α : Type} (reached : Error → Bool) : Except Error α → Prop
  | .ok _ => True
  | .error e => reached e = true

namespace Step

/-- A call that is made once. -/
def call (c : ApiCall) : Step := ⟨.call c, 1, Succeeds fun _ => false⟩

/-- A call that is made once, and has to succeed with a given value. -/
def obtain (c : ApiCall) (value : c.Answer) : Step := ⟨.call c, 1, (· = .ok value)⟩

/-- A call that creates an object; that the object is there already is a success. -/
def create (c : ApiCall) : Step := ⟨.call c, 1, Succeeds Error.isAlreadyExists⟩

/-- A call that deletes an object; that the object is gone already is a success. -/
def delete (policy : RetryPolicy) (c : ApiCall) : Step :=
  ⟨.call c, max 1 policy.steps, Succeeds Error.isNotFound⟩

/-- A look-up, which shows a claim or does not. -/
def look (space name : String) (shown : Bool) : Step :=
  ⟨.find (.claim space name), 1, fun answer => answer.isSome = shown⟩

/-- A wait, which has to deliver a given bound claim. -/
def await (watch : Watch) (timeout : Duration) (bound : BoundClaim) : Step :=
  ⟨.awaitBound watch timeout, 1, (· = .decided (.bound bound))⟩

/-- A step that cannot be made at all, so that a sequence ends in front of it. -/
def impossible : Step := ⟨.clock, 0, fun _ => False⟩

end Step

/-- The exchanges of a list carry out steps in their order. The verdict is `true` if all steps
have passed, `false` if the attempts at a step are used up, and none if the list just ends. -/
inductive Follows : List Step → List Exchange → Option Bool → Prop
  | complete : Follows [] [] (some true)
  | cut (steps : List Step) : Follows steps [] none
  | stuck {step : Step} (steps : List Step) (used : step.attempts = 0) :
      Follows (step :: steps) [] (some false)
  | failed {r : Request} {left : Nat} {passed : r.Answer → Prop} {steps : List Step}
      {answer : r.Answer} {h : List Exchange} {verdict : Option Bool} (not : ¬ passed answer)
      (rest : Follows (⟨r, left, passed⟩ :: steps) h verdict) :
      Follows (⟨r, left + 1, passed⟩ :: steps) (⟨r, answer⟩ :: h) verdict
  | passed {r : Request} {left : Nat} {passed : r.Answer → Prop} {steps : List Step}
      {answer : r.Answer} {h : List Exchange} {verdict : Option Bool} (yes : passed answer)
      (rest : Follows steps h verdict) :
      Follows (⟨r, left + 1, passed⟩ :: steps) (⟨r, answer⟩ :: h) verdict

namespace Follows

variable {steps steps₁ steps₂ : List Step} {h h₁ h₂ : List Exchange} {verdict : Option Bool}

theorem append (first : Follows steps₁ h₁ (some true)) (second : Follows steps₂ h₂ verdict) :
    Follows (steps₁ ++ steps₂) (h₁ ++ h₂) verdict := by
  generalize hv : some true = v at first
  induction first with
  | complete => exact second
  | cut => cases hv
  | stuck => cases hv
  | failed not _ ih => exact .failed not (ih hv)
  | passed yes _ ih => exact .passed yes (ih hv)

/-- Further steps do not matter to exchanges that do not get to them. -/
theorem stop (first : Follows steps₁ h verdict) (hv : verdict ≠ some true)
    (steps₂ : List Step) : Follows (steps₁ ++ steps₂) h verdict := by
  induction first with
  | complete => exact absurd rfl hv
  | cut => exact .cut _
  | stuck _ used => exact .stuck _ used
  | failed not _ ih => exact .failed not (ih hv)
  | passed yes _ ih => exact .passed yes (ih hv)

theorem cut_short (first : Follows steps h verdict) : Follows steps h none := by
  induction first with
  | complete => exact .cut _
  | cut => exact .cut _
  | stuck => exact .cut _
  | failed not _ ih => exact .failed not ih
  | passed yes _ ih => exact .passed yes ih

/-- Every exchange is an attempt at one of the steps. -/
theorem request_mem (first : Follows steps h verdict) {x : Exchange} (hx : x ∈ h) :
    ∃ step ∈ steps, x.request = step.request := by
  induction first with
  | complete => cases hx
  | cut => cases hx
  | stuck => cases hx
  | failed not _ ih =>
      rcases List.mem_cons.mp hx with rfl | hx
      · exact ⟨_, List.mem_cons_self, rfl⟩
      · obtain ⟨step, hstep, e⟩ := ih hx
        rcases List.mem_cons.mp hstep with rfl | hstep
        · exact ⟨_, List.mem_cons_self, e⟩
        · exact ⟨step, List.mem_cons_of_mem _ hstep, e⟩
  | passed yes _ ih =>
      rcases List.mem_cons.mp hx with rfl | hx
      · exact ⟨_, List.mem_cons_self, rfl⟩
      · obtain ⟨step, hstep, e⟩ := ih hx
        exact ⟨step, List.mem_cons_of_mem _ hstep, e⟩

/-- Exchanges that follow two sequences get through the first, or stop in it. -/
theorem split (first : Follows (steps₁ ++ steps₂) h verdict) :
    ∃ h₁ h₂ verdict₁, h = h₁ ++ h₂ ∧ Follows steps₁ h₁ verdict₁ ∧
      (verdict₁ = some true ∧ Follows steps₂ h₂ verdict ∨
        verdict₁ = verdict ∧ verdict ≠ some true ∧ h₂ = []) := by
  generalize hs : steps₁ ++ steps₂ = steps at first
  induction first generalizing steps₁ with
  | complete =>
      obtain ⟨rfl, rfl⟩ := List.append_eq_nil_iff.mp hs
      exact ⟨[], [], _, rfl, .complete, .inl ⟨rfl, .complete⟩⟩
  | cut => exact ⟨[], [], _, rfl, .cut _, .inr ⟨rfl, by simp, rfl⟩⟩
  | stuck steps used =>
      cases steps₁ with
      | nil =>
          rw [List.nil_append] at hs
          exact ⟨[], [], _, rfl, .complete, .inl ⟨rfl, hs ▸ .stuck _ used⟩⟩
      | cons step rest =>
          obtain ⟨rfl, -⟩ := List.cons.inj hs
          exact ⟨[], [], _, rfl, .stuck _ used, .inr ⟨rfl, by simp, rfl⟩⟩
  | failed not further ih =>
      cases steps₁ with
      | nil =>
          -- the first sequence is done, so that all of this belongs to the second
          rw [List.nil_append] at hs
          exact ⟨[], _, _, rfl, .complete, .inl ⟨rfl, hs ▸ .failed not further⟩⟩
      | cons step rest =>
          obtain ⟨rfl, rfl⟩ := List.cons.inj hs
          obtain ⟨h₁, h₂, verdict₁, rfl, first, rest⟩ := ih (List.cons_append ..)
          exact ⟨_ :: h₁, h₂, verdict₁, rfl, .failed not first, rest⟩
  | passed yes further ih =>
      cases steps₁ with
      | nil =>
          rw [List.nil_append] at hs
          exact ⟨[], _, _, rfl, .complete, .inl ⟨rfl, hs ▸ .passed yes further⟩⟩
      | cons step rest =>
          obtain ⟨rfl, rest_eq⟩ := List.cons.inj hs
          obtain ⟨h₁, h₂, verdict₁, rfl, first, rest⟩ := ih rest_eq
          exact ⟨_ :: h₁, h₂, verdict₁, rfl, .passed yes first, rest⟩

theorem split_of_complete (all : Follows (steps₁ ++ steps₂) h (some true)) :
    ∃ h₁ h₂, h = h₁ ++ h₂ ∧ Follows steps₁ h₁ (some true) ∧ Follows steps₂ h₂ (some true) := by
  obtain ⟨h₁, h₂, verdict₁, rfl, first, ⟨rfl, second⟩ | ⟨-, no, -⟩⟩ := all.split
  · exact ⟨h₁, h₂, rfl, first, second⟩
  · exact absurd rfl no

/-- A step with a single attempt has passed with it. -/
theorem once {r : Request} {passed : r.Answer → Prop}
    (all : Follows (⟨r, 1, passed⟩ :: steps) h (some true)) :
    ∃ answer h', h = ⟨r, answer⟩ :: h' ∧ passed answer ∧ Follows steps h' (some true) := by
  cases all with
  | failed not rest => cases rest
  | passed yes rest => exact ⟨_, _, rfl, yes, rest⟩

end Follows

/-! ## Attempts that conform to steps -/

/-- The exchanges of a list that are no pauses. -/
def acts (h : List Exchange) : List Exchange := h.filter fun x => !x.isPause

@[simp] theorem acts_append (h₁ h₂ : List Exchange) : acts (h₁ ++ h₂) = acts h₁ ++ acts h₂ :=
  List.filter_append ..

theorem acts_cons {x : Exchange} (hx : x.isPause = false) (h : List Exchange) :
    acts (x :: h) = x :: acts h := by
  simp [acts, hx]

theorem acts_pause {x : Exchange} (hx : x.isPause = true) (h : List Exchange) :
    acts (x :: h) = acts h := by
  simp [acts, hx]

open Attempt Provision

variable {α β ι κ : Type} {h : List Exchange}

/-- Every trace of an attempt follows one of the given sequences of steps, apart from pauses,
and its result fits the sequence. The index stands for what the surroundings answered. -/
def Conforms (x : Attempt α) (steps : ι → List Step) (result : ι → α → Prop) : Prop :=
  ∀ h o, x.run.Traces h o →
    ∃ i, Follows (steps i) (acts h) (verdict o) ∧ ∀ a, o = some (.ok a) → result i a

theorem Conforms.follows {x : Attempt α} {steps : ι → List Step} {result : ι → α → Prop}
    (hx : Conforms x steps result) {o : Option (Except Error α)} (run : x.run.Traces h o) :
    ∃ i, Follows (steps i) (acts h) (verdict o) :=
  (hx h o run).imp fun _ hi => hi.1

/-- Attempts in sequence conform to their steps in sequence. -/
theorem Conforms.bind [Nonempty κ] {x : Attempt α} {f : α → Attempt β}
    {steps : ι → List Step} {result : ι → α → Prop} {more : ι → κ → List Step}
    {final : ι → κ → β → Prop} (hx : Conforms x steps result)
    (hf : ∀ i a, result i a → Conforms (f a) (more i) (final i)) :
    Conforms (x >>= f) (fun i : ι × κ => steps i.1 ++ more i.1 i.2)
      (fun i => final i.1 i.2) := by
  intro h o run
  obtain ⟨h₁, o₁, first, rest⟩ := Attempt.traces_bind run
  obtain ⟨i, follows, hi⟩ := hx h₁ o₁ first
  rcases rest with ⟨a, h₂, rfl, second, rfl⟩ | ⟨rfl, stopped, ho, no⟩
  · obtain ⟨k, further, hk⟩ := hf i a (hi a rfl) h₂ o second
    rw [acts_append]
    exact ⟨(i, k), follows.append further, hk⟩
  · -- the second attempt is not reached, so that it does not matter which steps stand there
    obtain ⟨k⟩ : Nonempty κ := inferInstance
    refine ⟨(i, k), ?_, fun b hb => absurd hb (no b)⟩
    rcases ho with rfl | ho
    · exact (follows.stop stopped _).cut_short
    · rw [ho]
      exact follows.stop stopped _

/-- A value that is returned afterwards takes no step. -/
theorem Conforms.returning {x : Attempt α} {steps : ι → List Step} {result : ι → α → Prop}
    (hx : Conforms x steps result) (b : β) :
    Conforms (x >>= fun _ => pure b) steps (fun _ v => v = b) := by
  intro h o run
  obtain ⟨h₁, o₁, first, rest⟩ := Attempt.traces_bind run
  obtain ⟨i, follows, -⟩ := hx h₁ o₁ first
  rcases rest with ⟨a, h₂, rfl, second, rfl⟩ | ⟨rfl, stopped, ho, no⟩
  · obtain ⟨rfl, rfl | rfl⟩ := Program.traces_done_iff.mp second
    · exact ⟨i, by simpa using follows.cut_short, by simp⟩
    · exact ⟨i, by simpa using follows, fun v hv => by simpa using hv.symm⟩
  · refine ⟨i, ?_, fun v hv => absurd hv (no v)⟩
    rcases ho with rfl | ho
    · exact follows.cut_short
    · rw [ho]
      exact follows

/-- A result that stands already: nothing is left to follow if it is a success. -/
theorem follows_done_ok {a : α} {o : Option (Except Error α)}
    (run : (Program.done (.ok a)).Traces h o) : Follows [] (acts h) (verdict o) := by
  obtain ⟨rfl, rfl | rfl⟩ := Program.traces_done_iff.mp run
  · exact .cut _
  · exact .complete

/-- If the result is an error, a step stands in front at which no attempt is left. -/
theorem follows_done_error {step : Step} (used : step.attempts = 0) {e : Error}
    {o : Option (Except Error α)} (run : (Program.done (.error e)).Traces h o) :
    Follows [step] (acts h) (verdict o) := by
  obtain ⟨rfl, rfl | rfl⟩ := Program.traces_done_iff.mp run
  · exact .cut _
  · exact .stuck _ used

/-- A program that puts the request of a step, stops if the answer is a success, and goes on
with the remaining attempts if not. -/
theorem follows_attempt {r : Request} {left : Nat} {passed : r.Answer → Prop}
    {next : r.Answer → Program (Except Error α)} {o : Option (Except Error α)}
    (hr : ∀ answer, (⟨r, answer⟩ : Exchange).isPause = false)
    (yes : ∀ answer, passed answer → ∃ a, next answer = .done (.ok a))
    (not : ∀ answer h, ¬ passed answer → (next answer).Traces h o →
      Follows [⟨r, left, passed⟩] (acts h) (verdict o))
    (run : (Program.ask r next).Traces h o) :
    Follows [⟨r, left + 1, passed⟩] (acts h) (verdict o) := by
  rcases Program.traces_ask_iff.mp run with ⟨rfl, rfl⟩ | ⟨answer, h', rfl, rest⟩
  · exact .cut _
  · rw [acts_cons (hr answer)]
    by_cases ha : passed answer
    · obtain ⟨a, he⟩ := yes answer ha
      rw [he] at rest
      exact .passed ha (follows_done_ok rest)
    · exact .failed ha (not answer h' ha rest)

theorem tolerate_of_succeeds {reached : Error → Bool} {answer : Except Error α}
    (ha : Succeeds reached answer) : tolerate reached answer = .ok () := by
  cases answer with
  | ok a => rfl
  | error e => exact if_pos ha

theorem tolerate_of_not_succeeds {reached : Error → Bool} {answer : Except Error α}
    (ha : ¬ Succeeds reached answer) : ∃ e, tolerate reached answer = .error e := by
  cases answer with
  | ok a => exact absurd trivial ha
  | error e => exact ⟨e, if_neg ha⟩

/-! ## Single steps -/

/-- A call with errors that are as good as a success. The program goes on with any other error,
and the remaining attempts. -/
theorem follows_tolerated {c : ApiCall} {reached : Error → Bool} {left : Nat}
    {next : Except Error Unit → Program (Except Error Unit)} {o : Option (Except Error Unit)}
    (run : ((Program.ask (.call c) fun answer => .done (tolerate reached answer)) >>=
      next).Traces h o)
    (done : next (.ok ()) = .done (.ok ()))
    (again : ∀ e h, (next (.error e)).Traces h o →
      Follows [⟨.call c, left, Succeeds reached⟩] (acts h) (verdict o)) :
    Follows [⟨.call c, left + 1, Succeeds reached⟩] (acts h) (verdict o) := by
  simp only [Program.ask_bind, Program.done_bind] at run
  refine follows_attempt (fun _ => rfl) (fun answer ha => ?_) (fun answer h' ha rest => ?_) run
  · exact ⟨(), by rw [tolerate_of_succeeds ha, done]⟩
  · obtain ⟨e, he⟩ := tolerate_of_not_succeeds ha
    rw [he] at rest
    exact again e h' rest

/-- A call that is made once, with the errors that are as good as a success. -/
theorem tolerated_follows {c : ApiCall} {reached : Error → Bool} {o : Option (Except Error Unit)}
    (run : (Program.ask (.call c) fun answer => .done (tolerate reached answer)).Traces h o) :
    Follows [⟨.call c, 1, Succeeds reached⟩] (acts h) (verdict o) := by
  rw [← bind_pure (Program.ask (.call c) _)] at run
  exact follows_tolerated run rfl fun _ _ rest => follows_done_error rfl rest

/-- A request with whose value the program goes on. -/
theorem value_conforms {r : Request} [Inhabited α] {passed : α → r.Answer → Prop}
    {result : r.Answer → Except Error α}
    (hp : ∀ value answer, passed value answer ↔ result answer = .ok value)
    (hr : ∀ answer, (⟨r, answer⟩ : Exchange).isPause = false) :
    Conforms (ExceptT.mk (Program.ask r fun answer => .done (result answer)))
      (fun value => [⟨r, 1, passed value⟩]) (fun value v => v = value) := by
  intro h o run
  rcases Program.traces_ask_iff.mp run with ⟨rfl, rfl⟩ | ⟨answer, h', rfl, rest⟩
  · exact ⟨default, .cut _, by simp⟩
  · rw [acts_cons (hr answer)]
    cases ha : result answer with
    | ok a =>
        rw [ha] at rest
        refine ⟨a, .passed ((hp a answer).mpr ha) (follows_done_ok rest), fun v hv => ?_⟩
        obtain ⟨-, rfl | rfl⟩ := Program.traces_done_iff.mp rest
        · simp at hv
        · simpa using hv.symm
    | error e =>
        have not : ¬ passed default answer := by
          rw [hp, ha]
          simp
        rw [ha] at rest
        refine ⟨default, .failed not (follows_done_error rfl rest), fun v hv => ?_⟩
        obtain ⟨-, rfl | rfl⟩ := Program.traces_done_iff.mp rest <;> simp at hv

theorem obtain_conforms (c : ApiCall) [Inhabited c.Answer] :
    Conforms (call c) (fun value => [.obtain c value]) (fun value v => v = value) :=
  value_conforms (fun _ _ => Iff.rfl) (fun _ => rfl)

theorem call_conforms (c : ApiCall) :
    Conforms (call c) (fun _ : Unit => [.call c]) (fun _ _ => True) := by
  refine fun h o run => ⟨(), follows_attempt (fun _ => rfl) ?_ ?_ run, fun _ _ => trivial⟩
  · intro answer ha
    cases answer with
    | ok a => exact ⟨a, rfl⟩
    | error e => exact absurd ha nofun
  · intro answer h' ha rest
    cases answer with
    | ok a => exact absurd trivial ha
    | error e => exact follows_done_error rfl rest

/-- A call that is made up to one more time than there are attempts left, with a pause in front
of every further attempt. -/
theorem runFrom_follows {policy : RetryPolicy} {operation : String} {c : ApiCall}
    {left n : Nat} {o : Option (Except Error Unit)}
    (run : (policy.runFrom (fun d => Program.request (.pause d)) operation
      (fun _ => Program.ask (.call c) fun answer => .done (tolerate Error.isNotFound answer))
      left n).Traces h o) :
    Follows [⟨.call c, left + 1, Succeeds Error.isNotFound⟩] (acts h) (verdict o) := by
  induction left generalizing n h with
  | zero =>
      unfold RetryPolicy.runFrom at run
      exact follows_tolerated run rfl fun _ _ rest => follows_done_error rfl rest
  | succ left ih =>
      unfold RetryPolicy.runFrom at run
      refine follows_tolerated run rfl fun e h' rest => ?_
      rcases Program.traces_ask_iff.mp rest with ⟨rfl, rfl⟩ | ⟨_, h₁, rfl, again⟩
      · exact .cut _
      · -- the pause in front of the next attempt is not a step
        rw [acts_pause rfl]
        exact ih again

theorem deleteWithRetry_conforms (config : Config) (operation : String) (c : ApiCall) :
    Conforms (deleteWithRetry config operation c)
      (fun _ : Unit => [.delete config.cleanupRetry c]) (fun _ _ => True) := by
  have hs : max 1 config.cleanupRetry.steps = config.cleanupRetry.attempts - 1 + 1 := by
    unfold RetryPolicy.attempts
    omega
  intro h o run
  rw [Step.delete, hs]
  exact ⟨(), runFrom_follows run, fun _ _ => trivial⟩

/-! ## The sequence -/

instance : Inhabited BoundClaim := ⟨⟨{ status := some { phase := some "Bound" } }, rfl⟩⟩

namespace Provision

/-- The proxy claim is created unless the caches show it. -/
def ensureSteps (proxy : Claim) (space : String) (shown : Bool) : List Step :=
  .look space proxy.anyName shown :: if shown then [] else [.create (.createClaim proxy)]

/-- A watch on the proxy claim delivers a bound claim. -/
def waitSteps (config : Config) (proxy : Claim) (space : String) (watch : Watch)
    (bound : BoundClaim) : List Step :=
  [.obtain (.watchClaim space proxy.anyName) watch, .await watch config.bindTimeout bound]

/-- The proxy claim is created and gets bound, with the method `pod` by the help of a
placeholder pod. -/
def obtainSteps (config : Config) (options : ProvisionOptions) (storageClass : StorageClass)
    (node : Node) (space : String) (shown : Bool) (watch : Watch) (bound : BoundClaim) :
    List Step :=
  match config.method with
  | .annotations =>
      let proxy :=
        proxyClaim options.volumeName options.claim storageClass (some node.anyName)
      ensureSteps proxy space shown ++ waitSteps config proxy space watch bound
  | .pod =>
      let proxy := proxyClaim options.volumeName options.claim storageClass none
      let pod := placeholderPod proxy node.anyName config.pauseImage
      ensureSteps proxy space shown ++ ([.create (.createPod pod)] ++
        (waitSteps config proxy space watch bound ++
          [.delete config.cleanupRetry (.deletePod pod.spaceName pod.anyName)]))

/-- The volume of the bound claim is told to stay, the claim loses its protection and is
deleted, and the volume forgets it. A bound claim without a namespace or a volume ends the
sequence. -/
def releaseSteps (config : Config) (bound : BoundClaim) (volume : Volume) : List Step :=
  match bound.val.metadata.space, bound.val.volumeName? with
  | some space, some name =>
      [.call (.patchVolume name (Patch.reclaimPolicy retainPolicy))] ++
        ([.call (.patchClaim space bound.val.anyName
            (Patch.stripProtection bound.val.finalizers))] ++
          ([.delete config.cleanupRetry (.deleteClaim space bound.val.anyName)] ++
            [.obtain (.patchVolume name Patch.clearClaimRef) volume]))
  | _, _ => [.impossible]

/-- The caller's claim is bound to the volume, which goes with its claim again if the class
wants that. -/
def rebindSteps (config : Config) (claim : Claim) (space : String) (volume : Volume)
    (storageClass : StorageClass) : List Step :=
  [.call (.patchClaim space claim.anyName
      (Patch.bindClaim storageClass.provisioner volume.anyName))] ++
    if storageClass.reclaimPolicy = some deletePolicy then
      [.call (.patchVolume volume.anyName (match config.method with
        | .annotations => Patch.reclaimPolicyWithClaimRef deletePolicy claim
        | .pod => Patch.reclaimPolicy deletePolicy))]
    else []

/-- The whole sequence. A claim without a namespace ends it at its beginning. -/
def handoverSteps (config : Config) (options : ProvisionOptions) (storageClass : StorageClass)
    (node : Node) (shown : Bool) (watch : Watch) (bound : BoundClaim) (volume : Volume) :
    List Step :=
  match options.claim.metadata.space with
  | some space =>
      obtainSteps config options storageClass node space shown watch bound ++
        (releaseSteps config bound volume ++
          rebindSteps config options.claim space volume storageClass)
  | none => [.impossible]

/-! ## The parts of a handover -/

/-- If the claim is in no namespace, the proxy claim is in none either, and the look-up for it is
not made. -/
theorem obtainProxy_homeless {options : ProvisionOptions}
    (hs : options.claim.metadata.space = none) (config : Config) (storageClass : StorageClass)
    (node : Node) : obtainProxy config options storageClass node =
      throw (.internal ("claim " ++ options.volumeName ++ " has no namespace")) := by
  have lacks (n : Option String) :
      ensureClaim (proxyClaim options.volumeName options.claim storageClass n) =
        throw (.internal ("claim " ++ options.volumeName ++ " has no namespace")) := by
    unfold ensureClaim spaceOf
    rw [show (proxyClaim options.volumeName options.claim storageClass n).metadata.space = none
      from hs]
    rfl
  unfold obtainProxy
  cases config.method with
  | annotations =>
      simp only [lacks]
      rfl
  | pod =>
      simp only [lacks]
      rfl

theorem ensureClaim_conforms {proxy : Claim} {space : String}
    (hs : proxy.metadata.space = some space) :
    Conforms (ensureClaim proxy) (ensureSteps proxy space) (fun _ _ => True) := by
  intro h o run
  unfold ensureClaim spaceOf at run
  rw [hs] at run
  rcases Program.traces_ask_iff.mp run with ⟨rfl, rfl⟩ | ⟨answer, h', rfl, rest⟩
  · exact ⟨true, .cut _, fun _ _ => trivial⟩
  · rw [acts_cons rfl]
    cases answer with
    | some claim => exact ⟨true, .passed rfl (follows_done_ok rest), fun _ _ => trivial⟩
    | none => exact ⟨false, .passed rfl (tolerated_follows rest), fun _ _ => trivial⟩

theorem ensurePod_conforms (pod : Pod) :
    Conforms (ensurePod pod) (fun _ : Unit => [.create (.createPod pod)]) (fun _ _ => True) :=
  fun _ _ run => ⟨(), tolerated_follows run, fun _ _ => trivial⟩

/-- A wait has a bound claim for its result just if this is what the watch delivered. -/
theorem result_eq_ok_iff (name : String) (timeout : Duration) (bound : BoundClaim)
    (awaited : Awaited) :
    awaited = .decided (.bound bound) ↔ awaited.result name timeout = .ok bound := by
  cases awaited with
  | decided decision => cases decision <;> simp [Awaited.result]
  | closed => simp [Awaited.result]
  | timedOut => simp [Awaited.result]

theorem awaitBound_conforms {config : Config} {proxy : Claim} {space : String}
    (hs : proxy.metadata.space = some space) :
    Conforms (awaitBound config proxy)
      (fun i : Watch × BoundClaim => waitSteps config proxy space i.1 i.2)
      (fun i bound => bound = i.2) := by
  have he : awaitBound config proxy = call (.watchClaim space proxy.anyName) >>= fun watch =>
      ExceptT.mk (.ask (.awaitBound watch config.bindTimeout) fun awaited =>
        .done (awaited.result proxy.anyName config.bindTimeout)) := by
    unfold awaitBound spaceOf
    rw [hs]
    rfl
  have wait (watch v : Watch) (hv : v = watch) :
      Conforms (ExceptT.mk (.ask (.awaitBound v config.bindTimeout) fun awaited =>
          .done (awaited.result proxy.anyName config.bindTimeout)))
        (fun bound => [.await watch config.bindTimeout bound]) (fun bound b => b = bound) := by
    rw [hv]
    exact value_conforms (result_eq_ok_iff proxy.anyName config.bindTimeout) (fun _ => rfl)
  rw [he]
  exact (obtain_conforms (.watchClaim space proxy.anyName)).bind wait

/-- The wait with a placeholder pod, which is removed once the proxy claim is bound. -/
theorem awaitBound_deletePod_conforms {config : Config} {proxy : Claim} {space : String}
    (hs : proxy.metadata.space = some space) (operation : String) (c : ApiCall) :
    Conforms (awaitBound config proxy >>= fun bound =>
        deleteWithRetry config operation c >>= fun _ => pure bound)
      (fun i : (Watch × BoundClaim) × Unit =>
        waitSteps config proxy space i.1.1 i.1.2 ++ [.delete config.cleanupRetry c])
      (fun i bound => bound = i.1.2) := by
  have remove (i : Watch × BoundClaim) (bound : BoundClaim) (hb : bound = i.2) :
      Conforms (deleteWithRetry config operation c >>= fun _ => pure bound)
        (fun _ : Unit => [.delete config.cleanupRetry c]) (fun _ b => b = i.2) := by
    rw [hb]
    exact (deleteWithRetry_conforms config operation c).returning i.2
  exact (awaitBound_conforms hs).bind remove

theorem obtainProxy_conforms {config : Config} {options : ProvisionOptions}
    {storageClass : StorageClass} {node : Node} {space : String}
    (hs : options.claim.metadata.space = some space) :
    Conforms (obtainProxy config options storageClass node)
      (fun i : Bool × Watch × BoundClaim =>
        obtainSteps config options storageClass node space i.1 i.2.1 i.2.2)
      (fun i bound => bound = i.2.2) := by
  have hp (n : Option String) :
      (proxyClaim options.volumeName options.claim storageClass n).metadata.space =
        some space := hs
  unfold obtainProxy obtainSteps
  cases config.method with
  | annotations =>
      exact (ensureClaim_conforms (hp _)).bind fun _ _ _ => awaitBound_conforms (hp _)
  | pod =>
      intro h o run
      obtain ⟨⟨shown, _, ⟨watch, bound⟩, _⟩, follows, hb⟩ :=
        ((ensureClaim_conforms (hp _)).bind fun _ _ _ => (ensurePod_conforms _).bind fun _ _ _ =>
          awaitBound_deletePod_conforms (hp _) _ _) h o run
      exact ⟨⟨shown, watch, bound⟩, follows, hb⟩

/-- An attempt that fails at once stands in front of a step that cannot be made. -/
theorem conforms_impossible [Inhabited ι] {e : Error} {result : ι → α → Prop} :
    Conforms (throw e : Attempt α) (fun _ => [.impossible]) result := by
  intro h o run
  refine ⟨default, follows_done_error rfl run, fun a ha => ?_⟩
  obtain ⟨-, rfl | rfl⟩ := Program.traces_done_iff.mp run <;> simp at ha

theorem releaseVolume_conforms (config : Config) (bound : BoundClaim) :
    Conforms (releaseVolume config bound) (releaseSteps config bound)
      (fun volume v => v = volume) := by
  unfold releaseVolume releaseSteps spaceOf
  dsimp only
  cases bound.val.metadata.space with
  | none => exact conforms_impossible
  | some space =>
      cases bound.val.volumeName? with
      | none => exact conforms_impossible
      | some name =>
          intro h o run
          obtain ⟨⟨_, _, _, volume⟩, follows, hv⟩ :=
            ((call_conforms (.patchVolume name (Patch.reclaimPolicy retainPolicy))).bind
              fun _ _ _ => (call_conforms (.patchClaim space bound.val.anyName
                (Patch.stripProtection bound.val.finalizers))).bind
              fun _ _ _ => (deleteWithRetry_conforms config "delete persistent volume claim"
                (.deleteClaim space bound.val.anyName)).bind
              fun _ _ _ => obtain_conforms (.patchVolume name Patch.clearClaimRef)) h o run
          exact ⟨volume, follows, hv⟩

theorem rebindClaim_conforms {config : Config} {claim : Claim} {space : String}
    (hs : claim.metadata.space = some space) (volume : Volume) (storageClass : StorageClass) :
    Conforms (rebindClaim config claim volume storageClass)
      (fun _ : Unit => rebindSteps config claim space volume storageClass)
      (fun _ _ => True) := by
  unfold rebindClaim rebindSteps spaceOf
  rw [hs]
  intro h o run
  by_cases hd : storageClass.reclaimPolicy = some deletePolicy
  · rw [if_pos hd]
    simp only [if_pos hd] at run
    obtain ⟨_, follows, -⟩ := ((call_conforms (.patchClaim space claim.anyName
      (Patch.bindClaim storageClass.provisioner volume.anyName))).bind
      fun _ _ _ => call_conforms (.patchVolume volume.anyName _)) h o run
    exact ⟨(), follows, fun _ _ => trivial⟩
  · rw [if_neg hd, List.append_nil]
    simp only [if_neg hd] at run
    obtain ⟨_, follows, -⟩ := ((call_conforms (.patchClaim space claim.anyName
      (Patch.bindClaim storageClass.provisioner volume.anyName))).returning volume) h o run
    exact ⟨(), follows, fun _ _ => trivial⟩

/-- A handover conforms to the whole sequence. -/
theorem handOver_conforms (config : Config) (options : ProvisionOptions)
    (storageClass : StorageClass) (node : Node) :
    Conforms (handOver config options storageClass node)
      (fun i : Bool × Watch × BoundClaim × Volume =>
        handoverSteps config options storageClass node i.1 i.2.1 i.2.2.1 i.2.2.2)
      (fun _ _ => True) := by
  unfold handOver handoverSteps
  cases hs : options.claim.metadata.space with
  | none =>
      rw [obtainProxy_homeless hs]
      exact conforms_impossible
  | some space =>
      have rebind (bound : BoundClaim) (volume v : Volume) (hv : v = volume) :
          Conforms (rebindClaim config options.claim v storageClass)
            (fun _ : Unit => rebindSteps config options.claim space volume storageClass)
            (fun _ _ => True) := by
        rw [hv]
        exact rebindClaim_conforms hs volume storageClass
      have release (i : Bool × Watch × BoundClaim) (bound : BoundClaim) (hb : bound = i.2.2) :
          Conforms (releaseVolume config bound >>= fun volume =>
              rebindClaim config options.claim volume storageClass)
            (fun k : Volume × Unit => releaseSteps config i.2.2 k.1 ++
              rebindSteps config options.claim space k.1 storageClass)
            (fun _ _ => True) := by
        rw [hb]
        exact (releaseVolume_conforms config i.2.2).bind (rebind i.2.2)
      intro h o run
      obtain ⟨⟨⟨shown, watch, bound⟩, volume, _⟩, follows, -⟩ :=
        ((obtainProxy_conforms hs).bind release) h o run
      exact ⟨⟨shown, watch, bound, volume⟩, follows, fun _ _ => trivial⟩

end Provision

/-! ## Selecting a class -/

theorem onlyLooksUp_isUsable (csiNode : CsiNode) (node : Node) (c : StorageClass) :
    (Selection.isUsable Lister.asked csiNode node c).OnlyLooksUp := by
  unfold Selection.isUsable
  by_cases ha : Selection.allowsNode csiNode node c = true
  · rw [if_pos ha]
    refine (Program.onlyLooksUp_find _).bind fun driver => ?_
    cases driver with
    | none => exact Program.onlyLooksUp_done _
    | some d => exact Program.onlyLooksUp_done _
  · rw [if_neg ha]
    exact Program.onlyLooksUp_done _

theorem onlyLooksUp_firstUsable (csiNode : CsiNode) (node : Node) (candidates : List String) :
    (Selection.firstUsable Lister.asked csiNode node candidates).OnlyLooksUp := by
  induction candidates with
  | nil => exact Program.onlyLooksUp_done _
  | cons candidate rest ih =>
      unfold Selection.firstUsable
      refine (Program.onlyLooksUp_find _).bind fun c => ?_
      cases c with
      | none => exact ih
      | some c =>
          refine (onlyLooksUp_isUsable csiNode node c).bind fun usable => ?_
          cases usable with
          | true => exact Program.onlyLooksUp_done _
          | false => exact ih

/-- Selecting a class changes nothing. -/
theorem onlyLooksUp_selectClass (node : Node) (candidates : List String) :
    (selectClass Lister.asked node candidates).OnlyLooksUp := by
  unfold selectClass
  refine (Program.onlyLooksUp_find _).bind fun csiNode => ?_
  cases csiNode with
  | none => exact Program.onlyLooksUp_done _
  | some csiNode =>
      refine (onlyLooksUp_firstUsable csiNode node candidates).bind fun found => ?_
      cases found with
      | none => exact Program.onlyLooksUp_done _
      | some c => exact Program.onlyLooksUp_done _

/-! ## Calls to provision -/

/-- How a call goes on with the class it has selected. -/
def handOn (config : Config) (options : ProvisionOptions) (storageClass : StorageClass)
    (node : Node) : Program (Except Failure Volume) := do
  match ← (handOver config options storageClass node).run with
  | .error e => return .error ⟨.inBackground, e⟩
  | .ok volume => return .ok (adopted volume)

/-- A call ends before it asks for anything, or while it selects a class, or it hands over a
volume of the class it has selected. -/
theorem provision_cases {config : Config} {options : ProvisionOptions}
    {o : Option (Except Failure Volume)} (run : (provision config options).Traces h o) :
    (∃ e, requirements options = .error e ∧ h = [] ∧ ∀ r ∈ o, r = .error ⟨.finished, e⟩) ∨
    ∃ node candidates, requirements options = .ok (node, candidates) ∧
      ((∃ selected, (selectClass Lister.asked node candidates).Traces h selected ∧
          (∀ c, selected ≠ some (.ok c)) ∧
          ∀ r ∈ o, ∃ e, selected = some (.error e) ∧ r = .error ⟨.reschedule, e⟩) ∨
        ∃ storageClass h₀ h₁, h = h₀ ++ h₁ ∧
          (selectClass Lister.asked node candidates).Traces h₀ (some (.ok storageClass)) ∧
          (handOn config options storageClass node).Traces h₁ o) := by
  unfold provision at run
  cases needs : requirements options with
  | error e =>
      rw [needs] at run
      obtain ⟨rfl, ho⟩ := Program.traces_done_iff.mp run
      refine .inl ⟨e, rfl, rfl, fun r hr => ?_⟩
      rcases ho with rfl | rfl
      · cases hr
      · exact (Option.some.inj hr).symm
  | ok needed =>
      obtain ⟨node, candidates⟩ := needed
      rw [needs] at run
      refine .inr ⟨node, candidates, rfl, ?_⟩
      rcases Program.traces_bind run with
        ⟨selecting, rfl⟩ | ⟨selected, h₀, h₁, selecting, rest, rfl⟩
      · exact .inl ⟨none, selecting, by simp, by simp⟩
      · cases selected with
        | error e =>
            obtain ⟨rfl, ho⟩ := Program.traces_done_iff.mp rest
            rw [List.append_nil]
            refine .inl ⟨some (.error e), selecting, by simp, fun r hr => ⟨e, rfl, ?_⟩⟩
            rcases ho with rfl | rfl
            · cases hr
            · exact (Option.some.inj hr).symm
        | ok storageClass => exact .inr ⟨storageClass, h₀, h₁, rfl, selecting, rest⟩

/-- Handing over a volume follows the steps, and succeeds if and only if all of them pass. -/
theorem handOn_follows {config : Config} {options : ProvisionOptions}
    {storageClass : StorageClass} {node : Node} {o : Option (Except Failure Volume)}
    (run : (handOn config options storageClass node).Traces h o) :
    ∃ shown watch bound volume verdict, Follows
      (handoverSteps config options storageClass node shown watch bound volume) (acts h) verdict ∧
      (∀ v, o = some (.ok v) → verdict = some true) ∧
      ∀ f, o = some (.error f) → f.disposition = .inBackground ∧ verdict = some false := by
  rcases Program.traces_bind run with ⟨handing, rfl⟩ | ⟨result, h₁, h₂, handing, last, rfl⟩
  · obtain ⟨⟨shown, watch, bound, volume⟩, follows⟩ :=
      (handOver_conforms config options storageClass node).follows handing
    exact ⟨shown, watch, bound, volume, none, follows, by simp, by simp⟩
  · obtain ⟨⟨shown, watch, bound, volume⟩, follows⟩ :=
      (handOver_conforms config options storageClass node).follows handing
    refine ⟨shown, watch, bound, volume, verdict (some result), ?_⟩
    cases result with
    | error e =>
        obtain ⟨rfl, ho⟩ := Program.traces_done_iff.mp last
        rw [List.append_nil]
        refine ⟨follows, fun v hv => ?_, fun f hf => ?_⟩
        · rcases ho with rfl | rfl <;> simp at hv
        · rcases ho with rfl | rfl
          · cases hf
          · rw [← Except.error.inj (Option.some.inj hf)]
            exact ⟨rfl, rfl⟩
    | ok v =>
        obtain ⟨rfl, ho⟩ := Program.traces_done_iff.mp last
        rw [List.append_nil]
        refine ⟨follows, fun _ _ => rfl, fun f hf => ?_⟩
        rcases ho with rfl | rfl <;> simp at hf

/-- How a call to provision goes, with what exchanges and to what result. -/
inductive Conduct (config : Config) (options : ProvisionOptions) :
    List Exchange → Option (Except Failure Volume) → Prop
  /-- The options lack something: nothing is asked. -/
  | unprepared {e : Error} {o : Option (Except Failure Volume)}
      (lacks : requirements options = .error e) (result : ∀ r ∈ o, r = .error ⟨.finished, e⟩) :
      Conduct config options [] o
  /-- No class is found, or none yet: there are look-ups only. -/
  | unselected {node : Node} {candidates : List String} {h : List Exchange}
      {selected : Option (Except Error StorageClass)} {o : Option (Except Failure Volume)}
      (needs : requirements options = .ok (node, candidates))
      (selecting : (selectClass Lister.asked node candidates).Traces h selected)
      (none_found : ∀ c, selected ≠ some (.ok c)) (lookups : ∀ x ∈ h, x.isLookup = true)
      (result : ∀ r ∈ o, ∃ e, selected = some (.error e) ∧ r = .error ⟨.reschedule, e⟩) :
      Conduct config options h o
  /-- A class is found by look-ups, and then the steps of the handover are followed. -/
  | handing {node : Node} {candidates : List String} {storageClass : StorageClass}
      {h₀ h₁ : List Exchange} {o : Option (Except Failure Volume)} {verdict : Option Bool}
      {shown : Bool} {watch : Watch} {bound : BoundClaim} {volume : Volume}
      (needs : requirements options = .ok (node, candidates))
      (selecting : (selectClass Lister.asked node candidates).Traces h₀
        (some (.ok storageClass)))
      (lookups : ∀ x ∈ h₀, x.isLookup = true)
      (follows : Follows
        (handoverSteps config options storageClass node shown watch bound volume) (acts h₁)
        verdict)
      (success : ∀ v, o = some (.ok v) → verdict = some true)
      (failure : ∀ f, o = some (.error f) → f.disposition = .inBackground ∧
        verdict = some false) :
      Conduct config options (h₀ ++ h₁) o

/-- **Every call to provision keeps to the protocol**, whatever the cluster answers. -/
theorem provision_conduct {config : Config} {options : ProvisionOptions} {h : List Exchange}
    {o : Option (Except Failure Volume)} (run : (provision config options).Traces h o) :
    Conduct config options h o := by
  rcases provision_cases run with
    ⟨e, lacks, rfl, result⟩ | ⟨node, candidates, needs, ⟨selected, selecting, no, result⟩ |
      ⟨storageClass, h₀, h₁, rfl, selecting, handing⟩⟩
  · exact .unprepared lacks result
  · exact .unselected needs selecting no (onlyLooksUp_selectClass _ _ _ _ selecting) result
  · obtain ⟨shown, watch, bound, volume, verdict, follows, success, failure⟩ :=
      handOn_follows handing
    exact .handing needs selecting (onlyLooksUp_selectClass _ _ _ _ selecting) follows success
      failure

namespace Sample

/-- A cluster of two zones, each with a node and a class of its own driver, and of a claim. The
backend binds claims at once. -/
def zones : Cluster :=
  { ((((({} : Cluster).addCsiNode (csiNode "near" [("near.csi", [zoneLabel])])).addCsiNode
        (csiNode "far" [("far.csi", [zoneLabel])])).addStorageClass
        (storageClass "here" "near.csi" "Delete" [(zoneLabel, ["a"])])).addStorageClass
        (storageClass "there" "far.csi" "Retain" [(zoneLabel, ["b"])])).addClaim
        (claim "apps" "data" "u" "hybrid") with
    switches := { bindOnCreate := true } }

/-- How the claim is to be provisioned on a node in a zone. -/
def options (name zone : String) : ProvisionOptions where
  volumeName := "pvc-u"
  claim := claim "apps" "data" "u" "hybrid"
  storageClass := some (hybridClass "hybrid" "here,there")
  selectedNode := some (node name [(zoneLabel, zone)])

/-- The error of an operation that the API does not carry out in time. -/
def timedOut (operation kind name : String) : Error :=
  .ofOperation operation kind name (.refused {
    status := "Failure"
    message := "etcdserver: request timed out"
    reason := "InternalError"
    code := 500 })

end Sample

theorem sample_conduct :
    (({ cluster := Sample.zones } : World).run
      (provision { method := .pod } (Sample.options "near" "a"))).1.isOk = true ∧
    Conduct { method := .pod } (Sample.options "near" "a")
      ((provision { method := .pod } (Sample.options "near" "a")).exchanges World.answer
        { cluster := Sample.zones })
      (some (({ cluster := Sample.zones } : World).run
        (provision { method := .pod } (Sample.options "near" "a"))).1) :=
  ⟨by decide +kernel, provision_conduct (Program.traces_run _ _ _)⟩

end VolumeHandover
