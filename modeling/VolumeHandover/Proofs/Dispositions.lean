import VolumeHandover.Api.Remote
import VolumeHandover.Proofs.Protocol
import VolumeHandover.Proofs.Worlds

set_option autoImplicit false

/-! # Dispositions and reactions

A failure is classified twice: its disposition says where it arose, and the reaction to its error
says what is to be done about it. The two agree (`disposition_agrees`), whatever the cluster
answers, as long as the errors it answers with are those of an API (`Error.Reported`). A cluster in
memory and one behind a server report no other errors.
-/

namespace VolumeHandover

variable {α β : Type}

/-! ## Errors of an API -/

/-- An error that comes from an API: about an operation on an object, about a watch, or about an
object that cannot be read. -/
inductive Error.Reported : Error → Prop
  | operation (operation kind name : String) (fault : ApiFault) :
      Reported (.ofOperation operation kind name fault)
  | watch (fault : WatchFault) : Reported (.watch fault)
  | unreadable (text : String) : Reported (.unreadableJson text)

/-- If a result is an error, the error has a property. -/
def IfError {ε : Type} (bad : ε → Prop) : Except ε α → Prop
  | .ok _ => True
  | .error e => bad e

namespace Cluster

theorem patched_reported [StoredKind α] (object : α) (patch : Json) :
    IfError Error.Reported (patched object patch) := by
  unfold patched
  split
  · trivial
  · exact .unreadable _

/-- A call to a cluster in memory fails with errors of an API only. -/
theorem call_reported (s : Cluster) (c : ApiCall) : IfError Error.Reported (s.call c).1 := by
  cases c with
  | createClaim claim =>
      show IfError Error.Reported (s.createClaim claim).1
      unfold createClaim
      dsimp only
      split
      · exact .operation ..
      · trivial
  | patchClaim space name patch =>
      show IfError Error.Reported (s.patchClaim space name patch).1
      unfold patchClaim
      dsimp only
      split
      · exact .operation ..
      case h_2 claim found =>
        have reported := patched_reported claim patch
        split
        case h_1 e result =>
          rw [result] at reported
          exact reported
        case h_2 => trivial
  | deleteClaim space name =>
      show IfError Error.Reported (s.deleteClaim space name).1
      unfold deleteClaim
      dsimp only
      split
      · exact .operation ..
      · split
        · exact .operation ..
        · trivial
  | watchClaim space name => trivial
  | createPod pod =>
      show IfError Error.Reported (s.createPod pod).1
      unfold createPod
      dsimp only
      split
      · exact .operation ..
      · trivial
  | deletePod space name =>
      show IfError Error.Reported (s.deletePod space name).1
      unfold deletePod
      dsimp only
      split
      · exact .operation ..
      · split
        · trivial
        · exact .operation ..
  | createVolume volume =>
      show IfError Error.Reported (s.createVolume volume).1
      unfold createVolume
      dsimp only
      split
      · exact .operation ..
      · trivial
  | patchVolume name patch =>
      show IfError Error.Reported (s.patchVolume name patch).1
      unfold patchVolume
      dsimp only
      split
      · exact .operation ..
      case h_2 volume found =>
        have reported := patched_reported volume patch
        split
        case h_1 e result =>
          rw [result] at reported
          exact reported
        case h_2 => trivial
  | getNode name =>
      show IfError Error.Reported (s.getNode name)
      unfold getNode
      split
      · exact .operation ..
      · trivial

end Cluster

namespace Remote

variable {σ : Type}

theorem exchange_reported {r : Remote σ} {request : HttpRequest} {operation kind name : String}
    {read? : String → Option α} {result : Except Error α}
    (answered : (r.exchange request operation kind name read?).1 = some result) :
    IfError Error.Reported result := by
  unfold exchange at answered
  split at answered
  · obtain rfl := Option.some.inj answered
    exact .operation ..
  · dsimp only at answered
    split at answered
    · cases answered
    · split at answered
      · cases answered
      · split at answered
        · obtain rfl := Option.some.inj answered
          trivial
        · obtain rfl := Option.some.inj answered
          exact .operation ..

/-- A call to a cluster behind a server fails with errors of an API only. -/
theorem call_reported (r : Remote σ) (c : ApiCall) :
    ∀ result ∈ (r.call c).1, IfError Error.Reported result := by
  cases c with
  | watchClaim space name =>
      intro result answered
      obtain rfl := Option.some.inj answered
      trivial
  | createClaim | patchClaim | deleteClaim | createPod | deletePod | createVolume | patchVolume
  | getNode =>
      intro result answered
      exact exchange_reported answered

/-- A watch behind a server delivers errors of an API only. -/
theorem nextItem_reported (r : Remote σ) (watch : Watch) (fuel : Nat) :
    ∀ item ∈ (r.nextItem watch fuel).1, IfError Error.Reported item := by
  intro item delivered
  unfold nextItem at delivered
  split at delivered
  · cases delivered
  · dsimp only at delivered
    obtain ⟨news, -, rfl⟩ := Option.map_eq_some_iff.mp delivered
    cases news with
    | listed claims =>
        obtain _ | ⟨claim, _ | ⟨other, more⟩⟩ := claims
        · trivial
        · trivial
        · exact .watch .tooMany
    | changed change => cases change <;> trivial
    | failed fault => exact .watch fault

end Remote

/-! ## How programs fail -/

/-- If the answer of an exchange is an error, or brings one, it is an error of an API. -/
def Exchange.Reported : Exchange → Prop
  | ⟨.call _, answer⟩ => IfError Error.Reported answer
  | ⟨.awaitBound _ _, awaited⟩ => ∀ e, awaited = .decided (.failed e) → e.Reported
  | _ => True

/-- As long as the API reports its errors, the program fails only with errors of one kind. -/
abbrev Program.FailsBy {ε : Type} (p : Program (Except ε α)) (bad : ε → Prop) : Prop :=
  p.Yields Exchange.Reported (IfError bad)

namespace Program.Yields

variable {bad : Error → Prop}

theorem attempt {x : Attempt α} {f : α → Attempt β} (first : x.run.FailsBy bad)
    (rest : ∀ a, (f a).run.FailsBy bad) : (x >>= f).run.FailsBy bad := by
  rw [ExceptT.run_bind]
  refine first.bind fun result failed => ?_
  cases result with
  | ok a => exact rest a
  | error e => exact done (a := Except.error e) failed

end Program.Yields

/-! ## Errors in a world -/

section Decisions

variable {decision : Decision} (e : Error)

/-- Events of a cluster in memory never decide a wait by an error. -/
theorem firstDecision_ne_failed {events : List ClaimEvent}
    (h : firstDecision? events = some decision) : decision ≠ .failed e := by
  obtain ⟨event, -, decides⟩ := List.exists_of_findSome?_eq_some h
  cases event with
  | applied claim =>
      unfold decision? at decides
      obtain ⟨_, same⟩ := Option.dite_none_right_eq_some.mp decides
      rw [← Option.some.inj same]
      nofun
  | deleted =>
      cases decides
      nofun

theorem coming_ne_failed {s : Cluster} {sub : Subscription} {agenda : List (Nat × ClientAction)}
    {due : Nat} (h : World.coming? s sub agenda = some (decision, due)) :
    decision ≠ .failed e := by
  induction agenda generalizing s sub with
  | nil => cases h
  | cons entry rest ih =>
      unfold World.coming? at h
      dsimp only at h
      split at h
      case h_1 found first =>
        obtain ⟨rfl, -⟩ := Prod.mk.inj (Option.some.inj h)
        exact firstDecision_ne_failed e first
      case h_2 => exact ih h

end Decisions

/-- A call that is made to fail fails with an error that was armed, and the failures left armed
are some of those armed before. -/
theorem armedError_all {good : Error → Prop} (method : ApiMethod) {armed : List ArmedFailure}
    (all : ∀ f ∈ armed, good f.error) :
    (∀ e ∈ (armedError method armed).1, good e) ∧
      ∀ f ∈ (armedError method armed).2, good f.error := by
  induction armed with
  | nil => exact ⟨nofun, nofun⟩
  | cons f rest ih =>
      obtain ⟨first, others⟩ := List.forall_mem_cons.mp all
      unfold armedError
      split
      · split
        · exact ⟨nofun, List.forall_mem_cons.mpr ⟨first, others⟩⟩
        · refine ⟨fun e he => ?_, List.forall_mem_cons.mpr ⟨first, others⟩⟩
          obtain rfl := Option.some.inj he
          exact first
      · exact ⟨(ih others).1, List.forall_mem_cons.mpr ⟨first, (ih others).2⟩⟩

namespace World

/-- The failures that are armed in a world are those of an API. -/
def ArmedReported (w : World) : Prop := ∀ f ∈ w.failures, f.error.Reported

variable {w : World}

theorem call_armedReported (armed : w.ArmedReported) (c : ApiCall) :
    IfError Error.Reported (w.call c).1 ∧ (w.call c).2.ArmedReported := by
  obtain ⟨failing, left⟩ := armedError_all c.method armed
  unfold World.call
  generalize armedError c.method w.failures = met at failing left
  obtain ⟨error, failures⟩ := met
  cases error with
  | some e => exact ⟨failing e rfl, left⟩
  | none => exact ⟨w.cluster.call_reported c, left⟩

theorem waitUntil_failures (w : World) (time : Nat) :
    (w.waitUntil time).failures = w.failures := by
  unfold waitUntil
  split <;> rfl

theorem decided_failures (w : World) (watch : Watch) :
    (w.decided? watch).2.failures = w.failures ∧
      ∀ e, (w.decided? watch).1 ≠ some (.decided (.failed e)) := by
  cases hw : w.cluster.watch? watch with
  | none =>
      unfold decided?
      rw [hw]
      exact ⟨rfl, nofun⟩
  | some sub =>
      rw [decided_eq hw]
      refine ⟨rfl, fun e => ?_⟩
      cases first : firstDecision? (sub.drain w.cluster.events).1 with
      | some decision =>
          intro same
          cases same
          exact firstDecision_ne_failed e first rfl
      | none =>
          dsimp only
          split <;> nofun

theorem awaitBound_ne_failed (w : World) (watch : Watch) (timeout : Duration) :
    (w.awaitBound watch timeout).2.failures = w.failures ∧
      ∀ e, (w.awaitBound watch timeout).1 ≠ .decided (.failed e) := by
  obtain ⟨failures, never⟩ := w.decided_failures watch
  unfold awaitBound
  generalize w.decided? watch = read at failures never
  obtain ⟨_ | awaited, w₁⟩ := read
  · dsimp only at failures ⊢
    generalize (if w₁.now < w₁.now + timeout.ticks then
      w₁.agenda.takeWhile (·.1 < w₁.now + timeout.ticks) else []) = agenda
    split
    case h_1 decision due coming =>
      refine ⟨failures, fun e same => ?_⟩
      cases same
      obtain ⟨sub, -, found⟩ := Option.bind_eq_some_iff.mp coming
      exact coming_ne_failed e found rfl
    case h_2 => exact ⟨(w₁.waitUntil_failures _).trans failures, nofun⟩
  · exact ⟨failures, fun e same => never e (congrArg some same)⟩

/-- In a world whose armed failures are errors of an API there are no other errors. -/
theorem answer_reported (r : Request) (armed : w.ArmedReported) :
    Exchange.Reported ⟨r, (answer r w).1⟩ ∧ (answer r w).2.ArmedReported := by
  have noted : (w.noted r).ArmedReported := armed
  cases r with
  | call c => exact call_armedReported noted c
  | find l => exact ⟨trivial, noted⟩
  | awaitBound watch timeout =>
      obtain ⟨failures, never⟩ :=
        (w.noted (.awaitBound watch timeout)).awaitBound_ne_failed watch timeout
      refine ⟨fun e same => absurd same (never e), fun f hf => noted f ?_⟩
      exact failures ▸ hf
  | pause interval =>
      refine ⟨trivial, fun f hf => noted f ?_⟩
      exact (w.noted (.pause interval)).waitUntil_failures _ ▸ hf
  | clock => exact ⟨trivial, noted⟩
  | delegate options => exact ⟨trivial, noted⟩

/-- All that a program is answered in such a world. -/
theorem exchanges_reported {α : Type} (p : Program α) (armed : w.ArmedReported) :
    ∀ x ∈ p.exchanges answer w, x.Reported := by
  have all : ∀ x ∈ p.trail w, x.exchange.Reported :=
    (p.trail_all (fun w r => answer_reported (w := w) r) armed).1
  rw [← p.exchanges_trail]
  exact List.forall_mem_map.mpr all

end World

/-! ## Reactions -/

namespace Error

variable {e : Error}

/-- Nothing helps against the error until something else changes. -/
def Lasting (e : Error) : Prop := e.reaction = .never

/-- The node does not fit: nothing is known about its drivers, or it can use no class. -/
def Unsuited (e : Error) : Prop :=
  (∃ node, e = .csiNodeNotFound node) ∨ ∃ node, e = .noMatchingClass node

/-- The error may go away by itself: the reaction is to come back, soon after a claim was not bound
in time, and else with growing delays. -/
def Passing (e : Error) : Prop :=
  e.reaction = .backoff ∨ ∃ name timeout, e = .bindTimeout name timeout

theorem Reported.passing (h : e.Reported) : e.Passing := by
  refine .inl ?_
  cases h with
  | operation operation kind name fault =>
      unfold ofOperation
      split
      · split
        · rfl
        · split <;> rfl
      · rfl
  | watch fault => rfl
  | unreadable text => rfl

theorem isRetryable_eq_false_iff : e.isRetryable = false ↔ e.Lasting := by
  simp [isRetryable, Lasting]

theorem unsuited_iff : e.Unsuited ↔ e.reaction = .after (.ofSeconds 30) := by
  cases e <;> simp [Unsuited, reaction, Duration.ofSeconds]

theorem bindTimeout_iff :
    (∃ name timeout, e = .bindTimeout name timeout) ↔ e.reaction = .after (.ofSeconds 10) := by
  cases e <;> simp [reaction, Duration.ofSeconds]

/-- The reactions to errors of different kinds differ. -/
theorem Passing.not_lasting (h : e.Passing) : ¬ e.Lasting := by
  rintro lasting
  rcases h with backoff | ⟨name, timeout, rfl⟩
  · cases lasting.symm.trans backoff
  · cases lasting

theorem Passing.not_unsuited (h : e.Passing) : ¬ e.Unsuited := by
  rw [unsuited_iff]
  intro unsuited
  rcases h with backoff | ⟨name, timeout, rfl⟩
  · cases unsuited.symm.trans backoff
  · cases unsuited

theorem Unsuited.not_lasting (h : e.Unsuited) : ¬ e.Lasting := by
  intro lasting
  cases (unsuited_iff.mp h).symm.trans lasting

end Error

/-! ## What provisioning fails with -/

namespace Provision

theorem requirements_lasting (options : ProvisionOptions) :
    IfError Error.Lasting (requirements options) := by
  unfold requirements
  cases options.storageClass with
  | none => rfl
  | some c =>
      cases options.selectedNode with
      | none => rfl
      | some node =>
          dsimp only
          generalize c.parameters.bind (·.get? storageClassesParameter) = parameter
          cases parameter with
          | none => rfl
          | some value =>
              dsimp only
              unfold parseCandidates
              cases listedNames value with
              | nil => rfl
              | cons name names => trivial

end Provision

theorem selectClass_unsuited (node : Node) (candidates : List String) :
    (selectClass Lister.asked node candidates).FailsBy Error.Unsuited := by
  unfold selectClass
  refine .ask fun csiNode _ => ?_
  cases csiNode with
  | none => exact .done (.inl ⟨_, rfl⟩)
  | some csiNode =>
      have search : (Selection.firstUsable Lister.asked csiNode node candidates).Yields
          Exchange.Reported fun _ => True := fun _ _ _ _ => trivial
      show (Selection.firstUsable Lister.asked csiNode node candidates >>= _).Yields _ _
      refine search.bind fun found _ => ?_
      cases found with
      | none => exact .done (.inr ⟨_, rfl⟩)
      | some c => exact .done trivial

namespace Provision

theorem spaceOf_passing (claim : Claim) :
    (liftM (spaceOf claim) : Attempt String).run.FailsBy Error.Passing := by
  refine .done (a := spaceOf claim) ?_
  unfold spaceOf
  cases claim.metadata.space with
  | none => exact .inl rfl
  | some space => trivial

theorem call_passing (c : ApiCall) : (call c).run.FailsBy Error.Passing := by
  refine .ask fun answer reported => .done ?_
  cases answer with
  | ok value => trivial
  | error e => exact Error.Reported.passing reported

theorem tolerate_passing {reached : Error → Bool} {c : ApiCall} {answer : Except Error c.Answer}
    (reported : Exchange.Reported ⟨.call c, answer⟩) :
    IfError Error.Passing (tolerate reached answer) := by
  cases answer with
  | ok value => trivial
  | error e =>
      have passing : e.Passing := Error.Reported.passing reported
      unfold tolerate
      dsimp only
      cases reached e with
      | true => trivial
      | false => exact passing

theorem ensureClaim_passing (proxy : Claim) :
    (ensureClaim proxy).run.FailsBy Error.Passing := by
  unfold ensureClaim
  refine .attempt (spaceOf_passing proxy) fun space => ?_
  refine .ask fun shown _ => ?_
  cases shown with
  | some claim => exact .done (a := Except.ok ()) trivial
  | none => exact .ask fun answer reported => .done (tolerate_passing reported)

theorem awaitBound_passing (config : Config) (proxy : Claim) :
    (awaitBound config proxy).run.FailsBy Error.Passing := by
  unfold awaitBound
  refine .attempt (spaceOf_passing proxy) fun space => ?_
  refine .attempt (call_passing _) fun watch => ?_
  refine .ask fun awaited reported => .done ?_
  cases awaited with
  | decided decision =>
      cases decision with
      | bound claim => trivial
      | deleted => exact .inl rfl
      | failed e => exact Error.Reported.passing (reported e rfl)
  | closed => exact .inl rfl
  | timedOut => exact .inr ⟨_, _, rfl⟩

/-- Deletions that are repeated fail only when the attempts are used up. -/
theorem deleteWithRetry_passing (config : Config) (operation : String) (c : ApiCall) :
    (deleteWithRetry config operation c).run.FailsBy Error.Passing := by
  have further (left n : Nat) : (config.cleanupRetry.runFrom
      (fun d => Program.request (.pause d)) operation
      (fun _ => Program.ask (.call c) fun answer => .done (tolerate Error.isNotFound answer))
      left n).FailsBy Error.Passing := by
    induction left generalizing n with
    | zero =>
        unfold RetryPolicy.runFrom
        refine .ask fun answer _ => ?_
        dsimp only [Program.bind]
        cases tolerate Error.isNotFound answer with
        | ok value => exact .done trivial
        | error e => exact .done (.inl rfl)
    | succ left ih =>
        unfold RetryPolicy.runFrom
        refine .ask fun answer _ => ?_
        dsimp only [Program.bind]
        cases tolerate Error.isNotFound answer with
        | ok value => exact .done trivial
        | error e => exact .ask fun _ _ => ih (n + 1)
  exact further _ _

theorem obtainProxy_passing (config : Config) (options : ProvisionOptions) (c : StorageClass)
    (node : Node) : (obtainProxy config options c node).run.FailsBy Error.Passing := by
  unfold obtainProxy
  cases config.method with
  | annotations =>
      exact .attempt (ensureClaim_passing _) fun _ => awaitBound_passing config _
  | pod =>
      refine .attempt (ensureClaim_passing _) fun _ => ?_
      refine .attempt (.ask fun answer reported => .done (tolerate_passing reported)) fun _ => ?_
      refine .attempt (awaitBound_passing config _) fun bound => ?_
      refine .attempt (deleteWithRetry_passing config _ _) fun _ => ?_
      exact .done trivial

theorem releaseVolume_passing (config : Config) (bound : BoundClaim) :
    (releaseVolume config bound).run.FailsBy Error.Passing := by
  unfold releaseVolume
  refine .attempt (spaceOf_passing bound.val) fun space => ?_
  cases bound.val.volumeName? with
  | none => exact .done (a := Except.error _) (.inl rfl)
  | some volume =>
      refine .attempt (call_passing _) fun _ => ?_
      refine .attempt (call_passing _) fun _ => ?_
      refine .attempt (deleteWithRetry_passing config _ _) fun _ => ?_
      exact call_passing _

theorem rebindClaim_passing (config : Config) (claim : Claim) (volume : Volume)
    (c : StorageClass) : (rebindClaim config claim volume c).run.FailsBy Error.Passing := by
  unfold rebindClaim
  refine .attempt (spaceOf_passing claim) fun space => ?_
  refine .attempt (call_passing _) fun _ => ?_
  by_cases deletes : c.reclaimPolicy = some deletePolicy
  · rw [if_pos deletes]
    exact call_passing _
  · rw [if_neg deletes]
    exact .done (a := Except.ok volume) trivial

/-- Whatever a handover fails with may go away by itself. -/
theorem handOver_passing (config : Config) (options : ProvisionOptions) (c : StorageClass)
    (node : Node) : (handOver config options c node).run.FailsBy Error.Passing := by
  refine .attempt (obtainProxy_passing config options c node) fun bound => ?_
  refine .attempt (releaseVolume_passing config bound) fun volume => ?_
  exact rebindClaim_passing config options.claim volume c

end Provision

/-! ## Dispositions and reactions agree -/

/-- The disposition of a failure fits the reaction to its error. -/
structure Failure.Agrees (f : Failure) : Prop where
  finished : f.disposition = .finished ↔ f.error.isRetryable = false
  reschedule : f.disposition = .reschedule ↔
    (∃ node, f.error = .csiNodeNotFound node) ∨ ∃ node, f.error = .noMatchingClass node
  later : f.disposition = .reschedule ↔ f.error.reaction = .after (.ofSeconds 30)
  growing : f.disposition = .inBackground →
    (f.error.reaction = .backoff ∧ ¬ ∃ name timeout, f.error = .bindTimeout name timeout) ∨
      f.error.reaction = .after (.ofSeconds 10) ∧
        ∃ name timeout, f.error = .bindTimeout name timeout

namespace Failure

variable {e : Error}

theorem agrees_finished (lasting : e.Lasting) : Agrees ⟨.finished, e⟩ where
  finished := iff_of_true rfl (Error.isRetryable_eq_false_iff.mpr lasting)
  reschedule := iff_of_false nofun fun unsuited => Error.Unsuited.not_lasting unsuited lasting
  later := iff_of_false nofun fun unsuited =>
    (Error.unsuited_iff.mpr unsuited).not_lasting lasting
  growing := nofun

theorem agrees_reschedule (unsuited : e.Unsuited) : Agrees ⟨.reschedule, e⟩ where
  finished := iff_of_false nofun fun lasting =>
    unsuited.not_lasting (Error.isRetryable_eq_false_iff.mp lasting)
  reschedule := iff_of_true rfl unsuited
  later := iff_of_true rfl (Error.unsuited_iff.mp unsuited)
  growing := nofun

theorem agrees_inBackground (passing : e.Passing) : Agrees ⟨.inBackground, e⟩ where
  finished := iff_of_false nofun fun lasting =>
    passing.not_lasting (Error.isRetryable_eq_false_iff.mp lasting)
  reschedule := iff_of_false nofun passing.not_unsuited
  later := iff_of_false nofun fun unsuited => passing.not_unsuited (Error.unsuited_iff.mpr unsuited)
  growing _ := by
    rcases passing with backoff | timedOut
    · refine .inl ⟨backoff, fun timedOut => ?_⟩
      cases backoff.symm.trans (Error.bindTimeout_iff.mp timedOut)
    · exact .inr ⟨Error.bindTimeout_iff.mp timedOut, timedOut⟩

end Failure

/-- If no other errors come from the API, every failure of provisioning fits. -/
theorem provision_agrees (config : Config) (options : ProvisionOptions) :
    (provision config options).FailsBy Failure.Agrees := by
  unfold provision
  have lasting := Provision.requirements_lasting options
  cases needs : Provision.requirements options with
  | error e =>
      rw [needs] at lasting
      exact .done (a := Except.error _) (Failure.agrees_finished lasting)
  | ok needed =>
      refine (selectClass_unsuited needed.1 needed.2).bind fun selected unsuited => ?_
      cases selected with
      | error e => exact .done (a := Except.error _) (Failure.agrees_reschedule unsuited)
      | ok c =>
          refine (Provision.handOver_passing config options c needed.1).bind
            fun result passing => ?_
          cases result with
          | error e => exact .done (a := Except.error _) (Failure.agrees_inBackground passing)
          | ok volume => exact .done (a := Except.ok _) trivial

/-- **Disposition and reaction agree.** A cluster in memory and one behind a server answer with
errors of an API only, and so do their watches. Against any cluster that does, whatever else it
answers, the failures of provisioning are of three kinds: finished with an error that makes no
sense to try again, rescheduled because the node does not fit, which asks to come back after 30
seconds, and left in the background with an error that asks for a growing delay, or for 10 seconds
if the claim was not bound in time. -/
theorem disposition_agrees :
    (∀ (w : World) (r : Request), w.ArmedReported →
      Exchange.Reported ⟨r, (World.answer r w).1⟩) ∧
    (∀ (σ : Type) (r : Remote σ) (c : ApiCall),
      ∀ result ∈ (r.call c).1, IfError Error.Reported result) ∧
    (∀ (σ : Type) (r : Remote σ) (watch : Watch) (fuel : Nat),
      ∀ item ∈ (r.nextItem watch fuel).1, IfError Error.Reported item) ∧
    ∀ (config : Config) (options : ProvisionOptions) (h : List Exchange) (f : Failure),
      (provision config options).Traces h (some (.error f)) → (∀ x ∈ h, x.Reported) →
        f.Agrees :=
  ⟨fun _ r armed => (World.answer_reported r armed).1, fun _ r => r.call_reported,
    fun _ r => r.nextItem_reported,
    fun config options h _ run reported => provision_agrees config options h _ run reported⟩

namespace Sample

/-- A call to create a claim that gets an answer nobody can read. -/
def garbled : Error := .ofOperation "create" "PersistentVolumeClaim" "pvc-u" .unreadable

/-- The zones, with an API that garbles the first answer to a creation. -/
def garbling : World :=
  { cluster := zones, failures := [{ method := .createClaim, error := garbled }] }

end Sample

theorem sample_agreement :
    Exchange.Reported ⟨.call (.getNode "near"),
        (World.answer (.call (.getNode "near")) Sample.garbling).1⟩ ∧
      Failure.Agrees ⟨.inBackground, Sample.garbled⟩ := by
  have armed : Sample.garbling.ArmedReported := by
    refine List.forall_mem_singleton.mpr ?_
    exact .operation "create" "PersistentVolumeClaim" "pvc-u" .unreadable
  have failing : (Sample.garbling.run (provision {} (Sample.options "near" "a"))).1 =
      .error ⟨.inBackground, Sample.garbled⟩ := by decide +kernel
  have run := Program.traces_run World.answer (provision {} (Sample.options "near" "a"))
    Sample.garbling
  have reported := World.exchanges_reported (provision {} (Sample.options "near" "a")) armed
  refine ⟨disposition_agrees.1 _ _ armed, ?_⟩
  exact disposition_agrees.2.2.2 _ _ _ _ (failing ▸ run) reported

end VolumeHandover
