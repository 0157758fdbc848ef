import VolumeHandover.Proofs.CompleteHandover
import VolumeHandover.Proofs.QuietWorlds

set_option autoImplicit false

/-! # How soon a handover succeeds

Deletions may be refused for a while. A call that runs out of attempts gives up, but the next call
with the same options goes on from there: the proxy claim is not created again, and each call uses
up as many refusals as it makes attempts (`Progress.Ends`). So it can be told from the numbers of
refusals how many calls give up, on what, and which call succeeds (`handover_progress`).
-/

namespace VolumeHandover

open Provision

/-! ## Counting -/

/-- Whether an entry records that a claim was to be created. -/
def JournalEntry.createsClaim : JournalEntry → Bool
  | .createClaim _ => true
  | _ => false

/-- How many claims a cluster has been asked to create. -/
def Cluster.createCalls (s : Cluster) : Nat := s.journal.calls.countP (·.createsClaim)

theorem Cluster.createCalls_append {s s' : Cluster} {entry : JournalEntry}
    (calls : s'.journal.calls = s.journal.calls ++ [entry]) :
    s'.createCalls = s.createCalls + if entry.createsClaim then 1 else 0 := by
  unfold createCalls
  rw [calls, List.countP_append, List.countP_singleton]

theorem Cluster.createCalls_same {s s' : Cluster} {entry : JournalEntry}
    (calls : s'.journal.calls = s.journal.calls ++ [entry]) (other : entry.createsClaim = false) :
    s'.createCalls = s.createCalls := by
  rw [createCalls_append calls, other]
  rfl

namespace Progress

/-! ## How far calls have got -/

/-- How far the calls so far have got: they have not created the proxy claim yet; it is bound; or,
besides, its volume is to stay and it is not protected any more. -/
inductive Stage where
  | fresh
  | bound
  | retained

namespace Stage

/-- The stage once there is a proxy claim. -/
def begun : Stage → Stage
  | .fresh => .bound
  | stage => stage

/-- How many claims have been created. -/
def created : Stage → Nat
  | .fresh => 0
  | _ => 1

variable (o : Handover)

/-- The proxy claim. -/
def proxy? : Stage → Option Claim
  | .fresh => none
  | .bound => some (Cluster.boundClaim o.fresh)
  | .retained => some
      ((Cluster.boundClaim o.fresh).unprotected (Cluster.boundClaim o.fresh).finalizers)

/-- The volume of the proxy claim. -/
def volume? : Stage → Option Volume
  | .fresh => none
  | .bound => some (Cluster.boundVolume o.fresh)
  | .retained => some ((Cluster.boundVolume o.fresh).withSpec VolumeSpec.retained)

end Stage

variable (o : Handover)

/-- The name of the volume that the backend makes. -/
def volumeName : String := "pv-" ++ o.options.volumeName

/-- How many attempts a call makes to delete something. -/
def attempts : Nat := o.config.cleanupRetry.attempts

/-- What the cluster is like between two requests: the proxy claim, its volume, the number of claims
created since the start, and the numbers of deletions that are still refused. Nothing has happened
to the caller's claim. -/
structure Stands (proxy : Option Claim) (volume : Option Volume) (created pods claims : Nat)
    (s : Cluster) : Prop where
  binds : s.switches.bindOnCreate = true
  pods : s.switches.podDeleteFailures = pods
  claims : s.switches.claimDeleteFailures = claims
  proxy : s.claim? o.options.proxyKey = proxy
  volume : ∀ v ∈ volume, s.volume? (volumeName o) = some v
  created : s.createCalls = o.start.createCalls + created
  claim : s.claim? o.options.claim.key = o.start.claim? o.options.claim.key
  patches : s.journal.claimPatches.get? o.options.claim.key =
    o.start.journal.claimPatches.get? o.options.claim.key

/-- What the cluster is like at a stage. -/
abbrev At (stage : Stage) : Nat → Nat → Cluster → Prop :=
  Stands o (stage.proxy? o) (stage.volume? o) stage.created

/-- With so many refusals a call gets the placeholder pod out of the way, if there is one. -/
def Clears (pods : Nat) : Prop := o.config.method = .pod → pods < attempts o

/-- How many deletions of pods are still refused after that. -/
def podsLeft (pods : Nat) : Nat :=
  match o.config.method with
  | .annotations => pods
  | .pod => 0

/-- The error of a call that gives up deleting the placeholder pod. -/
def podError : Error :=
  .retryExhausted "delete pod" (attempts o)
    (Cluster.conflict "Pod" (placeholderName o.options.volumeName)).message

/-- The error of a call that gives up deleting the proxy claim. -/
def claimError : Error :=
  .retryExhausted "delete persistent volume claim" (attempts o)
    (Cluster.conflict "PersistentVolumeClaim" o.options.volumeName).message

/-! ### Facts about the stages -/

variable {o} {stage : Stage} {proxy : Option Claim} {volume : Option Volume}
  {created pods claims : Nat} {s s' : Cluster}

/-- The proxy claim as it is bound. -/
structure Held (o : Handover) (claim : Claim) : Prop where
  bound : claim.isBound = true
  name : claim.anyName = o.options.volumeName
  space : claim.metadata.space = o.options.claim.metadata.space
  volume : claim.volumeName? = some (volumeName o)
  stripped : some (claim.unprotected claim.finalizers) = Stage.retained.proxy? o

theorem Held.key {h : Holder} (held : Held o h.claim.val) :
    keyIn h.space h.claim.val.anyName = o.options.proxyKey := by
  rw [held.name]
  exact Claim.keyIn_space (held.space.symm.trans h.inSpace) _

theorem held {claim : Claim} (h : some claim = stage.begun.proxy? o) : Held o claim := by
  have volume : (Cluster.boundClaim o.fresh).volumeName? = some (volumeName o) :=
    Cluster.volumeName_boundClaim o.fresh
  cases stage with
  | fresh | bound =>
      obtain rfl := Option.some.inj h
      exact ⟨rfl, rfl, rfl, volume, rfl⟩
  | retained =>
      obtain rfl := Option.some.inj h
      exact ⟨rfl, rfl, rfl, volume, rfl⟩

theorem retained_volume {v : Volume} (h : some v = stage.begun.volume? o) :
    some (v.withSpec VolumeSpec.retained) = Stage.retained.volume? o := by
  cases stage with
  | fresh | bound | retained =>
      obtain rfl := Option.some.inj h
      rfl

theorem Stands.of_same (h : Stands o proxy volume created pods claims s)
    (switches : s'.switches = s.switches) (same_claims : s'.objects.claims = s.objects.claims)
    (volumes : s'.objects.volumes = s.objects.volumes) (calls : s'.createCalls = s.createCalls)
    (patches : s'.journal.claimPatches = s.journal.claimPatches) :
    Stands o proxy volume created pods claims s' where
  binds := switches ▸ h.binds
  pods := switches ▸ h.pods
  claims := switches ▸ h.claims
  proxy := (congrArg (·.get? o.options.proxyKey) same_claims).trans h.proxy
  volume v hv := (congrArg (·.get? (volumeName o)) volumes).trans (h.volume v hv)
  created := calls.trans h.created
  claim := (congrArg (·.get? o.options.claim.key) same_claims).trans h.claim
  patches := (congrArg (·.get? o.options.claim.key) patches).trans h.patches

/-! ## Assertions -/

/-- What is known of a call that is answered faithfully. -/
theorem answers_faithful {pre : Assertion undisturbed} {c : ApiCall}
    {post : Except Error c.Answer → Assertion undisturbed}
    (h : ∀ s, pre s → ∃ answer s', s.call c = (answer, s') ∧ post answer s') :
    Answers pre (.call c) post := by
  intro s answer s' hs _ faithful
  obtain ⟨answer', s'', comes, holds⟩ := h s hs
  obtain ⟨rfl, rfl⟩ := Prod.mk.inj (comes.symm.trans faithful)
  exact ⟨trivial, holds⟩

variable (o stage pods claims)

/-- The assertion that the cluster is as at a stage. -/
def standing : Assertion undisturbed := undisturbed.assert (At o stage pods claims)

/-- The assertion that a watch begins with the bound proxy claim. -/
def watching (watch : Watch) : Assertion undisturbed := undisturbed.assert fun s =>
  At o stage.begun pods claims s ∧
    ∃ subscription, s.watch? watch = some subscription ∧
      subscription.initial = stage.begun.proxy? o

/-- The assertion that the placeholder pod is being deleted, with so many attempts left. -/
def clearing (b : BoundClaim) (left : Nat) : Assertion undisturbed := undisturbed.assert fun s =>
  some b.val = stage.begun.proxy? o ∧
    ∃ refused, refused + attempts o = pods + left ∧ At o stage.begun refused claims s

/-- The assertion that the placeholder pod is out of the way. -/
def cleared (b : BoundClaim) : Assertion undisturbed := undisturbed.assert fun s =>
  some b.val = stage.begun.proxy? o ∧ Clears o pods ∧
    At o stage.begun (podsLeft o pods) claims s

/-- The assertion that the volume is to stay, while the proxy claim may still be protected. -/
def retaining (h : Holder) : Assertion undisturbed := undisturbed.assert fun s =>
  some h.claim.val = stage.begun.proxy? o ∧ Clears o pods ∧
    Stands o (stage.begun.proxy? o) (Stage.retained.volume? o) 1 (podsLeft o pods) claims s

/-- The assertion that the proxy claim is being deleted, with so many attempts left. -/
def removing (h : Holder) (left : Nat) : Assertion undisturbed := undisturbed.assert fun s =>
  Held o h.claim.val ∧ Clears o pods ∧
    ∃ refused, refused + attempts o = claims + left ∧
      At o .retained (podsLeft o pods) refused s

/-- The proxy claim has been deleted. -/
structure Removed (volume : Volume) (s : Cluster) : Prop where
  clears : Clears o pods
  removes : claims < attempts o
  created : s.createCalls = o.start.createCalls + 1
  claim : s.claim? o.options.claim.key = o.start.claim? o.options.claim.key
  name : volume.anyName = volumeName o
  volume : s.volume? (volumeName o) = some volume

/-- The assertion that the proxy claim has been deleted, but not yet forgotten by its volume. -/
def removed (h : Holder) : Assertion undisturbed := undisturbed.assert fun s =>
  h.volume = volumeName o ∧ ∃ volume, Removed o pods claims volume s

/-- The assertion that the volume has forgotten the proxy claim. -/
def released (volume : Volume) : Assertion undisturbed :=
  undisturbed.assert (Removed o pods claims volume)

/-- The assertion that the caller's claim is bound. -/
def rebound (volume : Volume) : Assertion undisturbed := undisturbed.assert fun s =>
  Clears o pods ∧ claims < attempts o ∧ s.createCalls = o.start.createCalls + 1 ∧
    s.volume? volume.anyName = some volume

/-- The assertion that a volume has been handed over. -/
def handed : Assertion undisturbed := undisturbed.assert fun s =>
  Clears o pods ∧ claims < attempts o ∧ s.createCalls = o.start.createCalls + 1

/-- The assertion that a call has given up with an error. -/
inductive GivesUp (s : Cluster) : Error → Prop
  | pod (method : o.config.method = .pod) (refused : attempts o ≤ pods)
      (stands : At o stage.begun (pods - attempts o) claims s) : GivesUp s (podError o)
  | claim (clears : Clears o pods) (refused : attempts o ≤ claims)
      (stands : At o .retained (podsLeft o pods) (claims - attempts o) s) : GivesUp s (claimError o)

/-- The assertion that a call gives up. -/
def failed (e : Error) : Assertion undisturbed := undisturbed.assert fun s =>
  GivesUp o stage pods claims s e

variable {o stage pods claims} {space : String}

/-! ### Up to the wait -/

theorem answers_look (hs : o.options.claim.metadata.space = some space) :
    Answers (standing o stage pods claims) (.find (.claim space o.options.volumeName)) fun shown =>
      if shown.isSome then standing o stage.begun pods claims
      else .given (stage = .fresh) (standing o stage pods claims) := by
  intro s shown s' stands serves faithful
  obtain ⟨rfl, -⟩ := serves.of_isLookup rfl
  have shown_eq : shown = stage.proxy? o := by
    have key : keyIn space o.options.volumeName = o.options.proxyKey := Claim.keyIn_space hs _
    have found : shown = s'.claim? (keyIn space o.options.volumeName) := faithful
    rw [found, key, stands.proxy]
  refine ⟨trivial, ?_⟩
  rw [shown_eq]
  cases stage with
  | fresh => exact ⟨rfl, stands⟩
  | bound | retained => exact stands

theorem answers_create : Answers (Assertion.given (stage = .fresh) (standing o stage pods claims))
    (.call (.createClaim o.fresh)) fun answer =>
      Ends (fun _ => standing o stage.begun pods claims) (failed o stage pods claims)
        (tolerate Error.isAlreadyExists answer) := by
  refine answers_faithful fun s ⟨fresh, stands⟩ => ?_
  -- only a call that finds nothing of earlier ones creates the proxy claim
  subst fresh
  have absent : s.claim? o.fresh.key = none := stands.proxy
  refine ⟨_, _, Cluster.call_createClaim absent stands.binds, {
    binds := stands.binds
    pods := stands.pods
    claims := stands.claims
    proxy := Table.get?_insert_self _
    volume := fun v hv => ?_
    created := ?_
    claim := ?_
    patches := stands.patches }⟩
  · obtain rfl := Option.some.inj hv
    exact Table.get?_insert_self _
  · exact (Cluster.createCalls_append rfl).trans (congrArg (· + 1) stands.created)
  · exact (Table.get?_insert_of_ne _ o.distinct).trans
      ((Table.get?_insert_of_ne _ o.distinct).trans stands.claim)

theorem answers_place (pod : Pod) : Answers (standing o stage.begun pods claims)
    (.call (.createPod pod)) fun answer =>
      Ends (fun _ => standing o stage.begun pods claims) (failed o stage pods claims)
        (tolerate Error.isAlreadyExists answer) := by
  refine answers_faithful fun s stands => ?_
  obtain ⟨answer, pods', comes, tolerated⟩ := s.call_createPod pod
  refine ⟨answer, _, comes, ?_⟩
  rw [tolerated]
  exact Stands.of_same stands rfl rfl rfl (Cluster.createCalls_same (by rfl) (by rfl)) rfl

theorem answers_watch (hs : o.options.claim.metadata.space = some space) :
    Answers (standing o stage.begun pods claims)
      (.call (.watchClaim space o.options.volumeName)) fun answer =>
      Ends (watching o stage pods claims) (failed o stage pods claims) answer := by
  refine answers_faithful fun s stands => ⟨_, _, rfl, ?_, _, List.getElem?_concat_length, ?_⟩
  · exact Stands.of_same stands rfl rfl rfl rfl rfl
  · have key : keyIn space o.options.volumeName = o.options.proxyKey := Claim.keyIn_space hs _
    show s.claim? (keyIn space o.options.volumeName) = _
    rw [key]
    exact stands.proxy

theorem answers_await (watch : Watch) : Answers (watching o stage pods claims watch)
    (.awaitBound watch o.config.bindTimeout) fun awaited =>
      Ends (fun b => clearing o stage pods claims b (attempts o)) (failed o stage pods claims)
        (awaited.result o.options.volumeName o.config.bindTimeout) := by
  intro s awaited s' ⟨stands, subscription, found, initial⟩ serves faithful
  refine ⟨trivial, ?_⟩
  have proxy : ∃ claim, some claim = stage.begun.proxy? o := by
    cases stage <;> exact ⟨_, rfl⟩
  obtain ⟨claim, proxy⟩ := proxy
  -- the proxy claim is bound from its creation on, so the watch begins with a bound claim
  have decided := faithful subscription ⟨claim, (held proxy).bound⟩ found (initial.trans proxy.symm)
  subst decided
  obtain ⟨watches, rfl⟩ := serves.eq_of_not_call fun _ => Request.noConfusion
  exact ⟨proxy, pods, rfl, stands.of_same rfl rfl rfl rfl rfl⟩

/-! ### From the wait on -/

theorem answers_clear (method : o.config.method = .pod) {b : BoundClaim} {left : Nat}
    (space : String) :
    Answers (clearing o stage pods claims b (left + 1))
      (.call (.deletePod space (placeholderName o.options.volumeName))) fun answer =>
      Ends (fun _ => cleared o stage pods claims b)
        (fun e => .given (e = Cluster.conflict "Pod" (placeholderName o.options.volumeName))
          (clearing o stage pods claims b left)) (tolerate Error.isNotFound answer) := by
  refine answers_faithful fun s ⟨proxy, refused, budget, stands⟩ => ?_
  cases refused with
  | zero =>
      -- no refusal is left although an attempt is: there were fewer refusals than attempts
      obtain ⟨answer, pods', comes, tolerated⟩ := Cluster.call_deletePod space
        (placeholderName o.options.volumeName) stands.pods
      refine ⟨answer, _, comes, ?_⟩
      rw [tolerated]
      have clears : Clears o pods := fun _ => by omega
      have none_left : podsLeft o pods = 0 := by
        unfold podsLeft
        rw [method]
      refine ⟨proxy, clears, ?_⟩
      rw [none_left]
      exact stands.of_same rfl rfl rfl (Cluster.createCalls_same (by rfl) (by rfl)) rfl
  | succ refused =>
      refine ⟨_, _, Cluster.call_deletePod_refused stands.pods, rfl, proxy, refused, by omega, ?_⟩
      exact {
        binds := stands.binds
        pods := rfl
        claims := stands.claims
        proxy := stands.proxy
        volume := stands.volume
        created := (Cluster.createCalls_same (by rfl) (by rfl)).trans stands.created
        claim := stands.claim
        patches := stands.patches }

theorem answers_retain (h : Holder) : Answers (cleared o stage pods claims h.claim)
    (.call (.patchVolume h.volume (Patch.reclaimPolicy retainPolicy))) fun answer =>
      Ends (fun _ => retaining o stage pods claims h) (failed o stage pods claims) answer := by
  refine answers_faithful fun s ⟨proxy, clears, stands⟩ => ?_
  have named : h.volume = volumeName o :=
    Option.some.inj (h.named.symm.trans (held proxy).volume)
  have volume : ∃ v, some v = stage.begun.volume? o := by
    cases stage <;> exact ⟨_, rfl⟩
  obtain ⟨v, volume⟩ := volume
  have found : s.volume? h.volume = some v := named ▸ stands.volume v volume.symm
  -- an earlier call may have told the volume to stay; doing so again changes nothing
  have created : stage.begun.created = 1 := by cases stage <;> rfl
  refine ⟨_, _, Cluster.call_patchVolume found (v.patched_reclaimPolicy _), proxy, clears, {
    binds := stands.binds
    pods := stands.pods
    claims := stands.claims
    proxy := stands.proxy
    volume := fun v' hv' => ?_
    created := (Cluster.createCalls_same (by rfl) (by rfl)).trans (created ▸ stands.created)
    claim := stands.claim
    patches := stands.patches }⟩
  rw [← retained_volume volume] at hv'
  obtain rfl := Option.some.inj hv'
  rw [← named]
  exact Table.get?_insert_self _

theorem answers_strip (h : Holder) : Answers (retaining o stage pods claims h)
    (.call (.patchClaim h.space h.claim.val.anyName
      (Patch.stripProtection h.claim.val.finalizers))) fun answer =>
      Ends (fun _ => removing o pods claims h (attempts o)) (failed o stage pods claims)
        answer := by
  refine answers_faithful fun s ⟨proxy, clears, stands⟩ => ?_
  -- the caller's claim goes by another key, so that its patches stay as they are
  have key : keyIn h.space h.claim.val.anyName = o.options.proxyKey := (held proxy).key
  have found : s.claim? (keyIn h.space h.claim.val.anyName) = some h.claim.val := by
    rw [key, proxy]
    exact stands.proxy
  refine ⟨_, _, Cluster.call_patchClaim found (h.claim.val.patched_stripProtection _),
    held proxy, clears, claims, rfl, {
    binds := stands.binds
    pods := stands.pods
    claims := stands.claims
    proxy := ?_
    volume := stands.volume
    created := (Cluster.createCalls_same (by rfl) (by rfl)).trans stands.created
    claim := ?_
    patches := ?_ }⟩
  · rw [← (held proxy).stripped, key]
    exact Table.get?_insert_self _
  · rw [key]
    exact (Table.get?_insert_of_ne _ o.distinct).trans stands.claim
  · rw [key]
    exact (Table.get?_insert_of_ne _ o.distinct).trans stands.patches

theorem answers_remove (h : Holder) (left : Nat) : Answers (removing o pods claims h (left + 1))
    (.call (.deleteClaim h.space h.claim.val.anyName)) fun answer =>
      Ends (fun _ => removed o pods claims h)
        (fun e => .given (e = Cluster.conflict "PersistentVolumeClaim" o.options.volumeName)
          (removing o pods claims h left)) (tolerate Error.isNotFound answer) := by
  refine answers_faithful fun s ⟨proxy, clears, refused, budget, stands⟩ => ?_
  have key : keyIn h.space h.claim.val.anyName = o.options.proxyKey := proxy.key
  cases refused with
  | zero =>
      have found : s.claim? (keyIn h.space h.claim.val.anyName) = Stage.retained.proxy? o := by
        rw [key]
        exact stands.proxy
      have removes : claims < attempts o := by omega
      have named : h.volume = volumeName o :=
        Option.some.inj (h.named.symm.trans proxy.volume)
      refine ⟨_, _, Cluster.call_deleteClaim stands.claims found, named, _, {
        clears, removes
        created := (Cluster.createCalls_same (by rfl) (by rfl)).trans stands.created
        claim := ?_
        name := by rfl
        volume := stands.volume _ rfl }⟩
      rw [key]
      exact (Table.get?_erase_of_ne _ o.distinct).trans stands.claim
  | succ refused =>
      refine ⟨_, _, Cluster.call_deleteClaim_refused stands.claims, ?_⟩
      rw [proxy.name]
      exact ⟨rfl, proxy, clears, refused, by omega, {
        binds := stands.binds
        pods := stands.pods
        claims := rfl
        proxy := stands.proxy
        volume := stands.volume
        created := (Cluster.createCalls_same (by rfl) (by rfl)).trans stands.created
        claim := stands.claim
        patches := stands.patches }⟩

/-- A patch of the volume once the proxy claim has been deleted. -/
theorem Removed.patched {v new : Volume} {name : String} {patch : Json}
    (h : Removed o pods claims v s) (named : name = volumeName o)
    (result : Cluster.patched v patch = .ok new) (same : new.anyName = v.anyName) :
    ∃ s', s.call (.patchVolume name patch) = (.ok new, s') ∧ Removed o pods claims new s' := by
  subst named
  refine ⟨_, Cluster.call_patchVolume h.volume result, {
    clears := h.clears
    removes := h.removes
    created := (Cluster.createCalls_same (by rfl) (by rfl)).trans h.created
    claim := h.claim
    name := same.trans h.name
    volume := Table.get?_insert_self _ }⟩

theorem answers_forget (h : Holder) : Answers (removed o pods claims h)
    (.call (.patchVolume h.volume Patch.clearClaimRef)) fun answer =>
      Ends (released o pods claims) (failed o stage pods claims) answer := by
  refine answers_faithful fun s ⟨named, v, removed⟩ => ?_
  obtain ⟨s', comes, after⟩ := removed.patched named v.patched_clearClaimRef rfl
  exact ⟨_, s', comes, after⟩

theorem answers_rebind (volume : Volume) (hs : o.options.claim.metadata.space = some space)
    (stored : (o.start.claim? o.options.claim.key).isSome = true) :
    Answers (released o pods claims volume) (.call (.patchClaim space o.options.claim.anyName
      (Patch.bindClaim o.storageClass.provisioner volume.anyName))) fun answer =>
      Ends (fun _ => rebound o pods claims volume) (failed o stage pods claims) answer := by
  refine answers_faithful fun s removed => ?_
  obtain ⟨claim, stored⟩ := Option.isSome_iff_exists.mp stored
  have found : s.claim? (keyIn space o.options.claim.anyName) = some claim := by
    rw [Claim.keyIn_space hs]
    exact removed.claim.trans stored
  exact ⟨_, _, Cluster.call_patchClaim found (claim.patched_bindClaim _ _), removed.clears,
    removed.removes, (Cluster.createCalls_same (by rfl) (by rfl)).trans removed.created,
    removed.name ▸ removed.volume⟩

theorem finalPatch_applies (config : Config) (claim : Claim) (v : Volume) :
    ∃ new, Cluster.patched v (finalPatch config claim) = .ok new := by
  unfold finalPatch
  cases config.method with
  | annotations => exact ⟨_, v.patched_reclaimPolicyWithClaimRef _ claim⟩
  | pod => exact ⟨_, v.patched_reclaimPolicy _⟩

theorem answers_settle (volume : Volume) : Answers (rebound o pods claims volume)
    (.call (.patchVolume volume.anyName (finalPatch o.config o.options.claim))) fun answer =>
      Ends (fun _ => handed o pods claims) (failed o stage pods claims) answer := by
  refine answers_faithful fun s ⟨clears, removes, created, found⟩ => ?_
  obtain ⟨new, result⟩ := finalPatch_applies o.config o.options.claim volume
  exact ⟨_, _, Cluster.call_patchVolume found result, clears, removes,
    (Cluster.createCalls_same (by rfl) (by rfl)).trans created⟩

/-! ## One call -/

variable (o stage pods claims) in
/-- The course of a call with so many refusals to come. -/
def outline (hs : o.options.claim.metadata.space.isSome = true)
    (stored : (o.start.claim? o.options.claim.key).isSome = true) :
    Outline undisturbed o.config o.options o.storageClass o.node where
  start := standing o stage pods claims
  missing := .given (stage = .fresh) (standing o stage pods claims)
  created := standing o stage.begun pods claims
  placed := standing o stage.begun pods claims
  watching := watching o stage pods claims
  bound := clearing o stage pods claims
  cleared := cleared o stage pods claims
  retained := retaining o stage pods claims
  stripped := removing o pods claims
  removed := removed o pods claims
  released := released o pods claims
  rebound := rebound o pods claims
  good _ := handed o pods claims
  bad := failed o stage pods claims
  podFault e := e = Cluster.conflict "Pod" (placeholderName o.options.volumeName)
  claimFault e := e = Cluster.conflict "PersistentVolumeClaim" o.options.volumeName
  pauses _ _ := trivial
  homeless none := by simp [none] at hs
  look space hs := answers_look hs
  create := answers_create
  place _ := answers_place _
  place_nothing _ _ h := h
  watch space hs := answers_watch hs
  await := answers_await
  clear method b left := answers_clear method _
  clear_in_vain method b e s fault h := by
    obtain ⟨-, refused, budget, stands⟩ := h
    rw [fault]
    have le : attempts o ≤ pods := by omega
    have left : refused = pods - attempts o := by omega
    exact .pod method le (left ▸ stands)
  clear_nothing method b s h := by
    obtain ⟨proxy, refused, budget, stands⟩ := h
    have all : refused + attempts o = pods + attempts o := budget
    have left : podsLeft o pods = refused := by
      unfold podsLeft
      rw [method]
      exact (Nat.add_right_cancel all).symm
    exact ⟨proxy, fun pod => absurd (method.symm.trans pod) nofun, left ▸ stands⟩
  lacking b lacks e s h := by
    have held := held h.1
    rcases lacks with nowhere | nameless
    · rw [← held.space, nowhere] at hs
      cases hs
    · cases held.volume.symm.trans nameless
  retain := answers_retain
  strip := answers_strip
  remove := answers_remove
  remove_in_vain h e s fault hs := by
    obtain ⟨-, clears, refused, budget, stands⟩ := hs
    rw [fault]
    have le : attempts o ≤ claims := by omega
    have left : refused = claims - attempts o := by omega
    exact .claim clears le (left ▸ stands)
  forget := answers_forget
  rebind space v hs := answers_rebind v hs stored
  settle _ := answers_settle
  settle_nothing := fun _ _ _ ⟨clears, removes, created, _⟩ => ⟨clears, removes, created⟩

/-- What a call comes to, from a stage on. -/
inductive Ends (o : Handover) (stage : Stage) (pods claims : Nat) (s : Cluster) :
    Except Failure Volume → Prop
  | failure {e : Error} (gives_up : GivesUp o stage pods claims s e) :
      Ends o stage pods claims s (.error ⟨.inBackground, e⟩)
  | success {v : Volume} (clears : Clears o pods) (removes : claims < attempts o)
      (created : s.createCalls = o.start.createCalls + 1) : Ends o stage pods claims s (.ok v)

theorem ends_of_outcome {result : Except Failure Volume}
    {hs : o.options.claim.metadata.space.isSome = true}
    {stored : (o.start.claim? o.options.claim.key).isSome = true}
    (h : (outline o stage pods claims hs stored).Outcome s result) :
    Ends o stage pods claims s result := by
  cases h with
  | ok good => exact .success good.1 good.2.1 good.2.2
  | error bad => exact .failure bad

/-- What is given for all calls: the class that is selected, a claim that is stored under its own
key and in a namespace. -/
structure Prepared (o : Handover) (candidates : List String) : Prop where
  needs : requirements o.options = .ok (o.node, candidates)
  selects : (selectClass o.start.catalog o.node candidates).run = .ok o.storageClass
  inSpace : o.options.claim.metadata.space.isSome = true
  stored : (o.start.claim? o.options.claim.key).isSome = true

/-- A world in which the next call can be made: nothing but calls has happened since the start. -/
structure Ready (o : Handover) (stage : Stage) (pods claims : Nat) (w : World) : Prop where
  quiet : w.Quiet
  catalog : w.cluster.catalog = o.start.catalog
  stands : At o stage pods claims w.cluster

/-- The call that is made again and again. -/
abbrev program (o : Handover) : Program (Except Failure Volume) := provision o.config o.options

section Calls

variable {candidates : List String} {w : World}

/-- What one call comes to. -/
theorem ends_of_ready (prepared : Prepared o candidates) (ready : Ready o stage pods claims w) :
    Ends o stage pods claims (w.run (program o)).2.cluster (w.run (program o)).1 := by
  obtain ⟨history, faithful, -⟩ := (program o).quiet_trail ready.quiet
  have run := Program.traces_run World.answer (program o) w
  rw [← Program.exchanges_trail] at run
  have selects {h₀ h₁ : List Exchange} {r : Except Error StorageClass}
      (exchanges : ((program o).trail w).map (·.exchange) = h₀ ++ h₁)
      (selecting : (selectClass Lister.asked o.node candidates).Traces h₀ (some r)) :
      r = .ok o.storageClass := by
    rw [← prepared.selects, ← ready.catalog]
    exact (Selection.selectClass_agrees candidates).unique
      (onlyLooksUp_selectClass o.node candidates) selecting history faithful exchanges
  -- the call neither lacks anything nor selects another class
  rcases provision_cases run with
    ⟨e, lacks, -, -⟩ | ⟨node, candidates', needs, ⟨selected, selecting, -, result⟩ |
      ⟨c, h₀, h₁, exchanges, selecting, handing⟩⟩
  · cases lacks.symm.trans prepared.needs
  · obtain ⟨rfl, rfl⟩ := Prod.mk.inj (Except.ok.inj (needs.symm.trans prepared.needs))
    obtain ⟨e, rfl, -⟩ := result _ rfl
    cases selects (List.append_nil _).symm selecting
  · obtain ⟨rfl, rfl⟩ := Prod.mk.inj (Except.ok.inj (needs.symm.trans prepared.needs))
    obtain rfl := Except.ok.inj (selects exchanges selecting)
    obtain ⟨-, outcome⟩ := (outline o stage pods claims prepared.inSpace prepared.stored).selected
      history faithful (fun _ _ _ => trivial) exchanges selecting handing ready.stands
    exact ends_of_outcome (outcome _ rfl)

theorem Ready.next (ready : Ready o stage pods claims w) {stage' : Stage} {pods' claims' : Nat}
    (stands : At o stage' pods' claims' (w.run (program o)).2.cluster) :
    Ready o stage' pods' claims' (w.run (program o)).2 := by
  obtain ⟨history, -, quiet⟩ := (program o).quiet_trail ready.quiet
  exact ⟨quiet, history.catalog.trans ready.catalog, stands⟩

/-- A call that cannot delete the placeholder pod uses up as many refusals as it makes attempts. -/
theorem gives_up_on_pod (prepared : Prepared o candidates) (ready : Ready o stage pods claims w)
    (method : o.config.method = .pod) (refused : attempts o ≤ pods) :
    (w.run (program o)).1 = .error ⟨.inBackground, podError o⟩ ∧
      Ready o stage.begun (pods - attempts o) claims (w.run (program o)).2 := by
  have ends := ends_of_ready prepared ready
  generalize hr : (w.run (program o)).1 = result at ends
  -- with so many refusals the pod is never out of the way
  have stuck : ¬ Clears o pods := fun clears => absurd (clears method) (by omega)
  cases ends with
  | success clears => exact absurd clears stuck
  | failure gives_up =>
      cases gives_up with
      | pod _ _ stands => exact ⟨rfl, ready.next stands⟩
      | claim clears => exact absurd clears stuck

/-- So does one that cannot delete the proxy claim. -/
theorem gives_up_on_claim (prepared : Prepared o candidates) (ready : Ready o stage pods claims w)
    (clears : Clears o pods) (refused : attempts o ≤ claims) :
    (w.run (program o)).1 = .error ⟨.inBackground, claimError o⟩ ∧
      Ready o .retained (podsLeft o pods) (claims - attempts o) (w.run (program o)).2 := by
  have ends := ends_of_ready prepared ready
  generalize hr : (w.run (program o)).1 = result at ends
  cases ends with
  | success _ removes => omega
  | failure gives_up =>
      cases gives_up with
      | pod method stuck =>
          have := clears method
          omega
      | claim _ _ stands => exact ⟨rfl, ready.next stands⟩

theorem succeeds (prepared : Prepared o candidates) (ready : Ready o stage pods claims w)
    (clears : Clears o pods) (removes : claims < attempts o) :
    (∃ v, (w.run (program o)).1 = .ok v) ∧
      (w.run (program o)).2.cluster.createCalls = o.start.createCalls + 1 := by
  have ends := ends_of_ready prepared ready
  generalize hr : (w.run (program o)).1 = result at ends
  cases ends with
  | success _ _ created => exact ⟨⟨_, rfl⟩, created⟩
  | failure gives_up =>
      cases gives_up with
      | pod method stuck =>
          have := clears method
          omega
      | claim _ stuck => omega

end Calls

end Progress

/-! ## Any number of calls -/

/-- A world after a program has been run in it so many times. -/
def World.again {α : Type} (w : World) (p : Program α) : Nat → World
  | 0 => w
  | n + 1 => ((w.again p n).run p).2

theorem World.again_add {α : Type} (w : World) (p : Program α) (m n : Nat) :
    w.again p (m + n) = (w.again p m).again p n := by
  induction n with
  | zero => rfl
  | succ n ih => exact congrArg (fun w : World => (w.run p).2) ih

namespace Progress

section Runs

variable {o : Handover} {stage : Stage} {pods claims : Nat} {candidates : List String} {w : World}

theorem attempts_pos : 0 < attempts o := Nat.lt_of_lt_of_le Nat.one_pos (Nat.le_max_left ..)

/-- As long as there are enough refusals of pod deletions, calls give up on the pod. -/
theorem ready_of_pods (prepared : Prepared o candidates) (method : o.config.method = .pod)
    (ready : Ready o stage pods claims w) (early : stage.begun = .bound) (n : Nat)
    (refused : n * attempts o ≤ pods) :
    ∃ stage', stage'.begun = .bound ∧
      Ready o stage' (pods - n * attempts o) claims (w.again (program o) n) := by
  -- by induction on the calls: each takes off as many refusals as it makes attempts
  induction n with
  | zero => exact ⟨stage, early, by simpa [World.again] using ready⟩
  | succ n ih =>
      rw [Nat.succ_mul] at refused ⊢
      obtain ⟨stage', early', ready'⟩ := ih (by omega)
      obtain ⟨-, next⟩ := gives_up_on_pod prepared ready' method (by omega)
      rw [early', Nat.sub_sub] at next
      exact ⟨.bound, rfl, next⟩

/-- As long as there are enough refusals of claim deletions, calls give up on the proxy claim. -/
theorem ready_of_claims (prepared : Prepared o candidates) (ready : Ready o stage pods claims w)
    (clears : Clears o pods) (n : Nat) (refused : n * attempts o ≤ claims) :
    ∃ stage' pods', Clears o pods' ∧
      Ready o stage' pods' (claims - n * attempts o) (w.again (program o) n) := by
  induction n with
  | zero => exact ⟨stage, pods, clears, by simpa [World.again] using ready⟩
  | succ n ih =>
      rw [Nat.succ_mul] at refused ⊢
      obtain ⟨stage', pods', clears', ready'⟩ := ih (by omega)
      obtain ⟨-, next⟩ := gives_up_on_claim prepared ready' clears' (by omega)
      rw [Nat.sub_sub] at next
      -- the pod, which the next call creates anew, is not in its way either
      have cleared : Clears o (podsLeft o pods') := fun method => by
        unfold podsLeft
        rw [method]
        exact attempts_pos
      exact ⟨.retained, _, cleared, next⟩

end Runs

end Progress

/-- How calls go that are made one after the other: so many give up on the placeholder pod, so many
on the proxy claim, and the next one succeeds. -/
structure Progress.Proceeds (o : Handover) (w : World) (onPod onClaim : Nat) : Prop where
  pod : ∀ n < onPod,
    ((w.again (program o) n).run (program o)).1 = .error ⟨.inBackground, podError o⟩ ∧
    (w.again (program o) (n + 1)).cluster.volume? (volumeName o) =
      some (Cluster.boundVolume o.fresh)
  claim : ∀ n < onClaim,
    ((w.again (program o) (onPod + n)).run (program o)).1 = .error ⟨.inBackground, claimError o⟩ ∧
    (w.again (program o) (onPod + n + 1)).cluster.volume? (volumeName o) =
      some ((Cluster.boundVolume o.fresh).withSpec VolumeSpec.retained)
  untouched : ∀ n ≤ onPod + onClaim,
    (w.again (program o) n).cluster.claim? o.options.claim.key =
        o.start.claim? o.options.claim.key ∧
      (w.again (program o) n).cluster.journal.claimPatches.get? o.options.claim.key =
        o.start.journal.claimPatches.get? o.options.claim.key
  success : ∃ v, ((w.again (program o) (onPod + onClaim)).run (program o)).1 = .ok v
  created : (w.again (program o) (onPod + onClaim + 1)).cluster.createCalls =
    o.start.createCalls + 1

namespace Progress

variable {o : Handover} {stage : Stage} {pods claims : Nat} {candidates : List String} {w : World}

/-- The number of calls that give up on the placeholder pod. -/
def callsOnPod (o : Handover) (pods : Nat) : Nat :=
  match o.config.method with
  | .annotations => 0
  | .pod => pods / attempts o

/-- With so many calls a refusal is left for each of their attempts. -/
theorem of_le_callsOnPod {n : Nat} (early : n ≤ callsOnPod o pods) :
    n = 0 ∨ o.config.method = .pod ∧ n * attempts o ≤ pods := by
  unfold callsOnPod at early
  cases method : o.config.method with
  | annotations =>
      rw [method] at early
      exact .inl (Nat.le_zero.mp early)
  | pod =>
      rw [method] at early
      exact .inr ⟨rfl, (Nat.le_div_iff_mul_le attempts_pos).mp early⟩

/-- After the calls that give up on the pod, the next one gets past it. -/
theorem ready_after_pods (prepared : Prepared o candidates)
    (ready : Ready o stage pods claims w) (early : stage.begun = .bound) :
    ∃ stage' pods', Clears o pods' ∧
      Ready o stage' pods' claims (w.again (program o) (callsOnPod o pods)) := by
  unfold callsOnPod
  cases method : o.config.method with
  | annotations =>
      exact ⟨stage, pods, fun pod => absurd (method.symm.trans pod) nofun, ready⟩
  | pod =>
      obtain ⟨stage', -, ready'⟩ :=
        ready_of_pods prepared method ready early _ (Nat.div_mul_le_self pods _)
      refine ⟨stage', _, fun _ => ?_, ready'⟩
      -- what is left is the remainder of the division
      have all := Nat.div_add_mod' pods (attempts o)
      have rest := Nat.mod_lt pods (attempts_pos (o := o))
      omega

/-- Until a call succeeds, the next one can be made. -/
theorem ready_until (prepared : Prepared o candidates) (ready : Ready o stage pods claims w)
    (early : stage.begun = .bound) {n : Nat}
    (le : n ≤ callsOnPod o pods + claims / attempts o) :
    ∃ stage' pods' claims', Ready o stage' pods' claims' (w.again (program o) n) := by
  rcases Nat.le_total n (callsOnPod o pods) with before | after
  · rcases of_le_callsOnPod before with rfl | ⟨method, refused⟩
    · exact ⟨stage, pods, claims, ready⟩
    · obtain ⟨stage', -, ready'⟩ := ready_of_pods prepared method ready early n refused
      exact ⟨stage', _, _, ready'⟩
  · obtain ⟨m, rfl⟩ := Nat.exists_eq_add_of_le after
    obtain ⟨stage₁, pods₁, clears, ready₁⟩ := ready_after_pods prepared ready early
    have refused : m * attempts o ≤ claims :=
      (Nat.le_div_iff_mul_le attempts_pos).mp (Nat.le_of_add_le_add_left le)
    obtain ⟨stage', pods', -, ready'⟩ := ready_of_claims prepared ready₁ clears m refused
    rw [World.again_add]
    exact ⟨stage', pods', _, ready'⟩

theorem proceeds (prepared : Prepared o candidates) (ready : Ready o stage pods claims w)
    (early : stage.begun = .bound) :
    Proceeds o w (callsOnPod o pods) (claims / attempts o) := by
  obtain ⟨stage₁, pods₁, clears, ready₁⟩ := ready_after_pods prepared ready early
  have last : (∃ v, ((w.again (program o) (callsOnPod o pods + claims / attempts o)).run
      (program o)).1 = .ok v) ∧ (w.again (program o)
        (callsOnPod o pods + claims / attempts o + 1)).cluster.createCalls =
          o.start.createCalls + 1 := by
    obtain ⟨stage', pods', clears', ready'⟩ :=
      ready_of_claims prepared ready₁ clears _ (Nat.div_mul_le_self claims _)
    have all := Nat.div_add_mod' claims (attempts o)
    have rest := Nat.mod_lt claims (attempts_pos (o := o))
    rw [← World.again_add] at ready'
    exact succeeds prepared ready' clears' (by omega)
  refine { pod := fun n hn => ?pod, claim := fun n hn => ?claim,
           untouched := fun n hn => ?untouched, success := last.1, created := last.2 }
  case pod =>
    rcases of_le_callsOnPod hn with none | ⟨method, refused⟩
    · cases none
    rw [Nat.succ_mul] at refused
    obtain ⟨stage', early', ready'⟩ := ready_of_pods prepared method ready early n (by omega)
    obtain ⟨result, next⟩ := gives_up_on_pod prepared ready' method (by omega)
    rw [early'] at next
    exact ⟨result, next.stands.volume _ rfl⟩
  case claim =>
    have refused := (Nat.le_div_iff_mul_le attempts_pos).mp hn
    rw [Nat.succ_mul] at refused
    obtain ⟨stage', pods', clears', ready'⟩ :=
      ready_of_claims prepared ready₁ clears n (by omega)
    obtain ⟨result, next⟩ := gives_up_on_claim prepared ready' clears' (by omega)
    rw [Nat.add_assoc, World.again_add, World.again_add]
    exact ⟨result, next.stands.volume _ rfl⟩
  case untouched =>
    obtain ⟨stage', pods', claims', ready'⟩ := ready_until prepared ready early hn
    exact ⟨ready'.stands.claim, ready'.stands.patches⟩

end Progress

/-- **Retries make exact progress.** In a quiet world, in which the proxy claim is not there yet,
each call that gives up uses up as many refusals as it makes attempts; when the refusals left do not
suffice any more, the next call succeeds. One claim is created in all these calls, and the caller's
claim is not touched before the last. -/
theorem handover_progress {w : World} {config : Config} {options : ProvisionOptions} {node : Node}
    {candidates : List String} {c : StorageClass} (quiet : w.Quiet)
    (binds : w.cluster.switches.bindOnCreate = true)
    (absent : w.cluster.claim? options.proxyKey = none)
    (stored : (w.cluster.claim? options.claim.key).isSome = true)
    (inSpace : options.claim.metadata.space.isSome = true)
    (names : options.claim.anyName ≠ options.volumeName)
    (needs : requirements options = .ok (node, candidates))
    (selects : (selectClass w.cluster.catalog node candidates).run = .ok c) :
    Progress.Proceeds
      ⟨w.cluster, config, options, c, node, ProvisionOptions.claim_ne_proxy names⟩ w
      (match config.method with
        | .annotations => 0
        | .pod => w.cluster.switches.podDeleteFailures / config.cleanupRetry.attempts)
      (w.cluster.switches.claimDeleteFailures / config.cleanupRetry.attempts) := by
  let o : Handover := ⟨w.cluster, config, options, c, node, ProvisionOptions.claim_ne_proxy names⟩
  have stands : Progress.At o .fresh w.cluster.switches.podDeleteFailures
      w.cluster.switches.claimDeleteFailures w.cluster := {
    binds := binds
    pods := rfl
    claims := rfl
    proxy := absent
    volume := fun v hv => absurd hv (Option.not_mem_none v)
    created := rfl
    claim := rfl
    patches := rfl }
  have prepared : Progress.Prepared o candidates := ⟨needs, selects, inSpace, stored⟩
  exact Progress.proceeds prepared ⟨quiet, rfl, stands⟩ rfl

namespace Sample

/-- The claim as if it were in no namespace. -/
def homelessClaim : Claim :=
  { claim "apps" "data" "u" "hybrid" with metadata := { name := some "data", uid := some "u" } }

/-- How it is to be provisioned. -/
def homelessOptions : ProvisionOptions := { options "near" "a" with claim := homelessClaim }

/-- A world in which seven deletions of pods and three of claims are going to be refused. -/
def refusing : World where
  cluster := { zones with
    switches := { bindOnCreate := true, podDeleteFailures := 7, claimDeleteFailures := 3 } }

/-- Two attempts are made to delete something. -/
def twice : Config := { method := .pod, cleanupRetry := { steps := 2 } }

end Sample

/-- A claim that is stored, but in no namespace, is never provisioned, even though a class can be
selected and no deletion is refused. -/
theorem sample_no_progress :
    (Sample.zones.addClaim Sample.homelessClaim).switches = { bindOnCreate := true } ∧
    (Sample.zones.addClaim Sample.homelessClaim).claim? Sample.homelessOptions.proxyKey = none ∧
    ((Sample.zones.addClaim Sample.homelessClaim).claim? Sample.homelessOptions.claim.key).isSome =
      true ∧
    Sample.homelessOptions.claim.anyName ≠ Sample.homelessOptions.volumeName ∧
    requirements Sample.homelessOptions =
      .ok (Sample.node "near" [(zoneLabel, "a")], ["here", "there"]) ∧
    (selectClass (Sample.zones.addClaim Sample.homelessClaim).catalog
      (Sample.node "near" [(zoneLabel, "a")]) ["here", "there"]).run.isOk = true ∧
    (World.run { cluster := Sample.zones.addClaim Sample.homelessClaim }
      (provision {} Sample.homelessOptions)).1 =
        .error ⟨.inBackground, .internal "claim pvc-u has no namespace"⟩ := by
  decide +kernel

theorem sample_progress :
    Progress.Proceeds
      ⟨Sample.refusing.cluster, Sample.twice, Sample.options "near" "a",
        Sample.storageClass "here" "near.csi" "Delete" [(zoneLabel, ["a"])],
        Sample.node "near" [(zoneLabel, "a")], ProvisionOptions.claim_ne_proxy (by decide)⟩
      Sample.refusing 3 1 := by
  have quiet : Sample.refusing.Quiet :=
    ⟨⟨fun _ h => absurd h List.not_mem_nil, .nil⟩, rfl, rfl, rfl⟩
  have needs : requirements (Sample.options "near" "a") =
      .ok (Sample.node "near" [(zoneLabel, "a")], ["here", "there"]) := by decide +kernel
  have selects : (selectClass Sample.refusing.cluster.catalog
      (Sample.node "near" [(zoneLabel, "a")]) ["here", "there"]).run =
        .ok (Sample.storageClass "here" "near.csi" "Delete" [(zoneLabel, ["a"])]) := by
    decide +kernel
  exact handover_progress quiet rfl (by decide +kernel) (by decide +kernel) rfl (by decide)
    needs selects

end VolumeHandover
