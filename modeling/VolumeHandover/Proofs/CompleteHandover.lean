import VolumeHandover.Proofs.Sources

set_option autoImplicit false

/-! # What a handover leaves behind

A handover that succeeds is complete: its proxy claim and its placeholder pod are gone, the
caller's claim is bound, and the volume that the backend has made has its final form
(`handover_complete`). One that fails may have been cut short before the caller's claim was bound,
or between that and the last patch of the volume (`Unfinished`). This needs that nobody else writes
to the cluster but a backend, which binds the proxy claim, and that objects are filed under their
own names.
-/

namespace VolumeHandover

/-! ## Candid answers in an outline -/

/-- An error that does not say of an object that it is there or that it is not. -/
def Error.Transient (e : Error) : Prop := e.isNotFound = false ∧ e.isAlreadyExists = false

/-- The backend binds the claim under a key; calls are answered, or fail without an effect. -/
def completing (key : String) : Contract where
  others := Cluster.BackendBinds key
  assumed := Occurrence.Candid Error.Transient

theorem completing_watchful (key : String) : (completing key).Watchful key where
  leaves _ _ act := act.leavesBound
  spares _ _ _ _ := trivial

section Answers

variable {key : String} {pre : Assertion (completing key)} {c : ApiCall}

theorem answers_call {good : c.Answer → Assertion (completing key)}
    {bad : Error → Assertion (completing key)} (objects : pre.OfObjects)
    (fails : ∀ e s, pre s → bad e s)
    (ok : ∀ s a s', pre s → s.call c = (.ok a, s') → good a s') :
    Answers pre (.call c) fun answer => Ends good bad answer := by
  intro s answer s' hs serves candid
  refine ⟨trivial, ?_⟩
  cases answer with
  | ok a => exact ok s a s' hs serves.call_eq
  | error e => exact fails e s' (objects s s' candid.error_objects hs)

theorem answers_tolerated {reached : Error → Bool} {good : Unit → Assertion (completing key)}
    {bad : Error → Assertion (completing key)} (objects : pre.OfObjects)
    (transient : ∀ e : Error, e.Transient → reached e = false) (fails : ∀ e s, pre s → bad e s)
    (done : ∀ s answer s', pre s → s.call c = (answer, s') →
      (∀ e, answer = .error e → reached e = true) → good () s') :
    Answers pre (.call c) fun answer => Ends good bad (Provision.tolerate reached answer) := by
  intro s answer s' hs serves candid
  refine ⟨trivial, ends_tolerate (fun a ok => ?_) (fun e failed there => ?_) fun e failed _ => ?_⟩
  · subst ok
    exact done s (.ok a) s' hs serves.call_eq nofun
  · subst failed
    rcases candid.call_cases with answered | ⟨e', same, fault, -⟩
    · exact done s _ s' hs answered.symm fun e' he => Except.error.inj he ▸ there
    · rw [Except.error.inj same, transient e' fault] at there
      cases there
  · subst failed
    exact fails e s' (objects s s' candid.error_objects hs)

end Answers

/-! ## The stages of a handover -/

/-- The key of the placeholder pod. -/
def ProvisionOptions.podKey (options : ProvisionOptions) : String :=
  keyIn options.claim.spaceName (placeholderName options.volumeName)

namespace VolumeSpec

/-- The volume is to stay. -/
def retained (s : VolumeSpec) : VolumeSpec := { s with reclaimPolicy := some retainPolicy }

/-- The volume is to stay and belongs to no claim. -/
def released (s : VolumeSpec) : VolumeSpec :=
  { s with reclaimPolicy := some retainPolicy, claimRef := none }

/-- The final form for a claim: with a class that wants so the volume is to go with its claim, to
which it refers unless a pod has chosen the node. -/
def settled (config : Config) (claim : Claim) (c : StorageClass) (s : VolumeSpec) : VolumeSpec :=
  if c.reclaimPolicy = some deletePolicy then
    { s with
      reclaimPolicy := some deletePolicy
      claimRef := match config.method with
        | .annotations => some (({} : ObjectReference).toClaim claim)
        | .pod => none }
  else s.released

variable {config : Config} {claim : Claim} {c : StorageClass}

theorem settled_of_delete (h : c.reclaimPolicy = some deletePolicy) :
    settled config claim c = fun s => { s with
      reclaimPolicy := some deletePolicy
      claimRef := match config.method with
        | .annotations => some (({} : ObjectReference).toClaim claim)
        | .pod => none } := funext fun _ => if_pos h

theorem settled_of_keep (h : c.reclaimPolicy ≠ some deletePolicy) :
    settled config claim c = released := funext fun _ => if_neg h

end VolumeSpec

theorem Volume.withSpec_withSpec (v : Volume) (first second : VolumeSpec → VolumeSpec) :
    (v.withSpec first).withSpec second = v.withSpec fun s => second (first s) := rfl

/-- A handover, with the cluster in which it begins. The caller's claim and the proxy claim have
different names. -/
structure Handover where
  start : Cluster
  config : Config
  options : ProvisionOptions
  storageClass : StorageClass
  node : Node
  distinct : options.claim.key ≠ options.proxyKey

namespace Handover

variable (o : Handover)

/-- The proxy claim, if it is created. -/
def fresh : Claim := proxyFor o.config o.options o.storageClass o.node

/-- Up to the moment when the proxy claim is bound, nothing has happened but to this claim. -/
structure Begun (s : Cluster) : Prop where
  tidy : s.Tidy o.options.proxyKey
  claim : s.claim? o.options.claim.key = o.start.claim? o.options.claim.key
  source : ∀ name volume, s.Source o.options.proxyKey o.fresh name volume →
    o.start.Source o.options.proxyKey o.fresh name volume

/-- A volume is being taken from the proxy claim, which is bound or gone. -/
structure Taken (proxy : Option Claim) (change : VolumeSpec → VolumeSpec) (volume : Volume)
    (s : Cluster) : Prop where
  tidy : s.Tidy o.options.proxyKey
  claim : s.claim? o.options.claim.key = o.start.claim? o.options.claim.key
  pod : o.config.method = .pod → s.pod? o.options.podKey = none
  proxy : s.claim? o.options.proxyKey = proxy
  stored : s.volume? volume.anyName = some volume
  source : ∃ original, o.start.Source o.options.proxyKey o.fresh volume.anyName original ∧
    volume = original.withSpec change

/-- A volume has been handed over: the proxy claim and the placeholder pod are gone, the caller's
claim is bound to the volume, and this is the one that the backend has made, but for a change. -/
structure Complete (change : VolumeSpec → VolumeSpec) (volume : Volume) (s : Cluster) : Prop where
  proxy : s.claim? o.options.proxyKey = none
  pod : o.config.method = .pod → s.pod? o.options.podKey = none
  claim : ∃ old, o.start.claim? o.options.claim.key = some old ∧
    s.claim? o.options.claim.key = some (old.boundTo o.storageClass.provisioner volume.anyName)
  stored : s.volume? volume.anyName = some volume
  source : ∃ original, o.start.Source o.options.proxyKey o.fresh volume.anyName original ∧
    volume = original.withSpec change

/-- What a handover leaves behind that fails: the caller's claim is as it was, or only the last
patch of the volume is missing. -/
structure Unfinished (s : Cluster) : Prop where
  tidy : s.Tidy o.options.proxyKey
  claim : s.claim? o.options.claim.key = o.start.claim? o.options.claim.key ∨
    o.storageClass.reclaimPolicy = some deletePolicy ∧
      ∃ volume, o.Complete VolumeSpec.released volume s

/-! ### Assertions -/

/-- A backend that waits for the proxy claim never acts if this is bound or gone. -/
theorem backend_idle {s s' : Cluster} {proxy : Option Claim}
    (act : s.BackendBinds o.options.proxyKey s') (stored : s.claim? o.options.proxyKey = proxy)
    (bound : ∀ claim ∈ proxy, claim.isBound = true) : False := by
  obtain ⟨claim, there, unbound, -⟩ := act
  exact Bool.false_ne_true (unbound.symm.trans (bound claim (stored.symm.trans there)))

/-- The assertion that a handover has begun. -/
def begun : Assertion (completing o.options.proxyKey) where
  holds := o.Begun
  stable s s' act h := by
    obtain ⟨tidy, source⟩ := act.step o.fresh h.tidy
    exact ⟨tidy, (act.claims o.distinct).trans h.claim,
      fun name volume hv => h.source name volume (source name volume hv)⟩

/-- The assertion that the proxy claim is bound and the placeholder pod gone. -/
def cleared (bound : BoundClaim) : Assertion (completing o.options.proxyKey) where
  holds s := (o.Begun s ∧ s.claim? o.options.proxyKey = some bound.val) ∧
    (o.config.method = .pod → s.pod? o.options.podKey = none)
  stable _ _ act h := (o.backend_idle act h.1.2 (by simp [bound.property])).elim

/-- The assertion that a volume of a name, which is to stay, is being taken. -/
def taking (name : String) (proxy : Option Claim) (bound : ∀ claim ∈ proxy, claim.isBound = true) :
    Assertion (completing o.options.proxyKey) where
  holds s := ∃ volume, volume.anyName = name ∧ o.Taken proxy VolumeSpec.retained volume s
  stable _ _ act h := by
    obtain ⟨volume, -, taken⟩ := h
    exact (o.backend_idle act taken.proxy bound).elim

/-- The assertion that the volume of the proxy claim is to stay. -/
def retained (h : Holder) : Assertion (completing o.options.proxyKey) :=
  o.taking h.volume (some h.claim.val) (by simp [h.claim.property])

/-- The assertion that the proxy claim is not protected any more. -/
def stripped (h : Holder) : Assertion (completing o.options.proxyKey) :=
  o.taking h.volume (some (h.claim.val.unprotected h.claim.val.finalizers)) fun claim hc => by
    rw [← Option.some.inj hc]
    exact h.claim.property

/-- The assertion that the proxy claim is gone. -/
def removed (h : Holder) : Assertion (completing o.options.proxyKey) :=
  o.taking h.volume none (by simp)

/-- The assertion that a volume has been taken from its claim, which is gone. -/
def released (volume : Volume) : Assertion (completing o.options.proxyKey) where
  holds := o.Taken none VolumeSpec.released volume
  stable _ _ act h := (o.backend_idle act h.proxy (by simp)).elim

/-- The assertion that a volume has been handed over, but for a change. -/
def complete (change : VolumeSpec → VolumeSpec) (volume : Volume) :
    Assertion (completing o.options.proxyKey) where
  holds s := s.Tidy o.options.proxyKey ∧ o.Complete change volume s
  stable _ _ act h := (o.backend_idle act h.2.proxy (by simp)).elim

/-- The assertion that a handover has failed. -/
def unfinished : Assertion (completing o.options.proxyKey) where
  holds := o.Unfinished
  stable _ _ act h := by
    refine ⟨(act.step o.fresh h.tidy).1, ?_⟩
    rcases h.claim with same | ⟨-, volume, complete⟩
    · exact .inl ((act.claims o.distinct).trans same)
    · exact (o.backend_idle act complete.proxy (by simp)).elim

variable {o} {s s' : Cluster} {proxy : Option Claim} {change : VolumeSpec → VolumeSpec}
  {volume : Volume} {space : String}

theorem Begun.of_same (h : o.Begun s) (claims : ∀ k, s'.claim? k = s.claim? k)
    (volumes : s'.objects.volumes = s.objects.volumes) : o.Begun s' where
  tidy := h.tidy.of_same (claims _) volumes
  claim := (claims _).trans h.claim
  source name volume hv := h.source name volume (hv.of_same (claims _) volumes)

theorem Begun.ofObjects (s s' : Cluster) (same : s'.objects = s.objects) (h : o.Begun s) :
    o.Begun s' := h.of_same (Cluster.claim_of_objects same) (congrArg (·.volumes) same)

theorem Begun.unfinished (h : o.Begun s) : o.Unfinished s := ⟨h.tidy, .inl h.claim⟩

theorem Taken.ofObjects (s s' : Cluster) (same : s'.objects = s.objects)
    (h : o.Taken proxy change volume s) : o.Taken proxy change volume s' where
  tidy := h.tidy.of_same (Cluster.claim_of_objects same _) (congrArg (·.volumes) same)
  claim := (Cluster.claim_of_objects same _).trans h.claim
  pod hm := (Cluster.pod_of_objects same _).trans (h.pod hm)
  proxy := (Cluster.claim_of_objects same _).trans h.proxy
  stored := (Cluster.volume_of_objects same _).trans h.stored
  source := h.source

theorem Taken.unfinished (h : o.Taken proxy change volume s) : o.Unfinished s :=
  ⟨h.tidy, .inl h.claim⟩

theorem Complete.ofObjects (s s' : Cluster) (same : s'.objects = s.objects)
    (h : s.Tidy o.options.proxyKey ∧ o.Complete change volume s) :
    s'.Tidy o.options.proxyKey ∧ o.Complete change volume s' := by
  obtain ⟨tidy, complete⟩ := h
  obtain ⟨old, before, after⟩ := complete.claim
  exact ⟨tidy.of_same (Cluster.claim_of_objects same _) (congrArg (·.volumes) same), {
    proxy := (Cluster.claim_of_objects same _).trans complete.proxy
    pod := fun hm => (Cluster.pod_of_objects same _).trans (complete.pod hm)
    claim := ⟨old, before, (Cluster.claim_of_objects same _).trans after⟩
    stored := (Cluster.volume_of_objects same _).trans complete.stored
    source := complete.source }⟩

/-! ### Up to the wait -/

theorem answers_look (space : String) :
    Answers o.begun (.find (.claim space o.options.volumeName)) fun shown =>
      if shown.isSome then o.begun else o.begun := by
  intro s shown s' hs serves _
  obtain ⟨rfl, -⟩ := serves.of_isLookup rfl
  refine ⟨trivial, ?_⟩
  dsimp only
  rw [ite_self]
  exact hs

theorem answers_create : Answers o.begun (.call (.createClaim o.fresh)) fun answer =>
    Ends (fun _ => o.begun) (fun _ => o.unfinished)
      (Provision.tolerate Error.isAlreadyExists answer) := by
  refine answers_tolerated Begun.ofObjects (fun e transient => transient.2)
    (fun e s h => h.unfinished) fun s answer s' h call _ => ?_
  have other : s'.claim? o.options.claim.key = s.claim? o.options.claim.key :=
    Cluster.call_elsewhere call fun same => o.distinct (Option.some.inj same).symm
  -- that the claim is there already is as good as its creation
  obtain ⟨tidy, source⟩ := Cluster.createClaim_step call h.tidy rfl rfl
  exact ⟨tidy, other.trans h.claim, fun name volume hv => h.source name volume (source _ _ hv)⟩

theorem answers_place (pod : Pod) : Answers o.begun (.call (.createPod pod)) fun answer =>
    Ends (fun _ => o.begun) (fun _ => o.unfinished)
      (Provision.tolerate Error.isAlreadyExists answer) := by
  refine answers_tolerated Begun.ofObjects (fun e transient => transient.2)
    (fun e s h => h.unfinished) fun s answer s' h call _ => ?_
  exact h.of_same (fun k => Cluster.call_elsewhere call nofun) (Cluster.call_volumes call rfl)

/-! ### From the wait on -/

theorem answers_clear (bound : BoundClaim) {pod : Pod} (named : pod.key = o.options.podKey) :
    Answers (o.begun.holding (completing_watchful _) bound)
      (.call (.deletePod pod.spaceName pod.anyName)) fun answer =>
      Ends (fun _ => o.cleared bound)
        (fun _ => .given True (o.begun.holding (completing_watchful _) bound))
        (Provision.tolerate Error.isNotFound answer) := by
  refine answers_tolerated (fun s s' same h => ?_) (fun e transient => transient.1)
    (fun e s h => ⟨trivial, h⟩) fun s answer s' h call gone => ?_
  · exact ⟨h.1.ofObjects s s' same, (Cluster.claim_of_objects same _).trans h.2⟩
  · have absent : s'.pod? o.options.podKey = none := named ▸ Cluster.deletePod_gone call gone
    have claims (k : String) : s'.claim? k = s.claim? k := Cluster.call_elsewhere call nofun
    have volumes : s'.objects.volumes = s.objects.volumes := Cluster.call_volumes call rfl
    exact ⟨⟨h.1.of_same claims volumes, (claims _).trans h.2⟩, fun _ => absent⟩

theorem answers_retain (h : Holder) : Answers (o.cleared h.claim)
    (.call (.patchVolume h.volume (Patch.reclaimPolicy retainPolicy))) fun answer =>
      Ends (fun _ => o.retained h) (fun _ => o.unfinished) answer := by
  refine answers_call (fun s s' same hs => ?_) (fun e s hs => hs.1.1.unfinished)
    fun s new s' hs call => ?_
  · exact ⟨⟨hs.1.1.ofObjects s s' same, (Cluster.claim_of_objects same _).trans hs.1.2⟩,
      fun hm => (Cluster.pod_of_objects same _).trans (hs.2 hm)⟩
  · obtain ⟨⟨begun, stored⟩, pod⟩ := hs
    obtain ⟨old, found, result, rfl⟩ := Cluster.patchVolume_ok call
    rw [old.patched_reclaimPolicy] at result
    obtain rfl := Except.ok.inj result
    have named : (old.withSpec VolumeSpec.retained).anyName = h.volume :=
      begun.tidy.volumes h.volume old found
    refine ⟨old.withSpec VolumeSpec.retained, named, {
      tidy := begun.tidy.withVolume named _
      claim := begun.claim
      pod := pod
      proxy := stored
      stored := ?_
      source := ?_ }⟩
    · rw [named]
      exact Table.get?_insert_self _
    · -- the volume that the bound claim names is the one the backend has made for it
      rw [named]
      exact ⟨old, begun.source _ _ (.bound stored h.claim.property h.named found), rfl⟩

/-- A claim that is stored under the key of the proxy claim goes by this key. -/
theorem Taken.key {h : Holder} {claim : Claim} (taken : o.Taken (some claim) change volume s)
    (same : claim.key = h.claim.val.key) :
    keyIn h.space h.claim.val.anyName = o.options.proxyKey :=
  h.claim_key.symm.trans (same.symm.trans (taken.tidy.claim claim taken.proxy))

theorem answers_strip (h : Holder) : Answers (o.retained h)
    (.call (.patchClaim h.space h.claim.val.anyName
      (Patch.stripProtection h.claim.val.finalizers))) fun answer =>
      Ends (fun _ => o.stripped h) (fun _ => o.unfinished) answer := by
  refine answers_call (fun s s' same ⟨volume, named, hs⟩ => ?_)
    (fun e s ⟨volume, _, hs⟩ => hs.unfinished) fun s new s' ⟨volume, named, hs⟩ call => ?_
  · exact ⟨volume, named, hs.ofObjects s s' same⟩
  · have key := hs.key (h := h) rfl
    obtain ⟨old, found, result, rfl⟩ := Cluster.patchClaim_ok call
    rw [key, hs.proxy] at found
    rw [← Option.some.inj found, h.claim.val.patched_stripProtection] at result
    obtain rfl := Except.ok.inj result
    rw [key]
    have stored : (s.objects.claims.insert o.options.proxyKey
        (h.claim.val.unprotected h.claim.val.finalizers)).get? o.options.proxyKey = some _ :=
      Table.get?_insert_self _
    refine ⟨volume, named, {
      tidy := ⟨hs.tidy.volumes, fun claim hc => ?_⟩
      claim := (Table.get?_insert_of_ne _ o.distinct).trans hs.claim
      pod := hs.pod
      proxy := stored
      stored := hs.stored
      source := hs.source }⟩
    rw [← Option.some.inj (stored.symm.trans hc)]
    exact hs.tidy.claim h.claim.val hs.proxy

theorem answers_remove (h : Holder) : Answers (o.stripped h)
    (.call (.deleteClaim h.space h.claim.val.anyName)) fun answer =>
      Ends (fun _ => o.removed h) (fun _ => .given True (o.stripped h))
        (Provision.tolerate Error.isNotFound answer) := by
  refine answers_tolerated (fun s s' same ⟨volume, named, hs⟩ => ?_)
    (fun e transient => transient.1) (fun e s h => ⟨trivial, h⟩)
    fun s answer s' ⟨volume, named, hs⟩ call gone => ?_
  · exact ⟨volume, named, hs.ofObjects s s' same⟩
  · have key := hs.key (h := h) rfl
    have absent := Cluster.deleteClaim_gone call gone
    rw [key] at absent
    have other : s'.claim? o.options.claim.key = s.claim? o.options.claim.key :=
      Cluster.call_elsewhere call fun same =>
        o.distinct ((Option.some.inj same).symm.trans key)
    have volumes : s'.objects.volumes = s.objects.volumes := Cluster.call_volumes call rfl
    have pods : s'.objects.pods = s.objects.pods := Cluster.call_pods call rfl
    have found (name : String) : s'.volume? name = s.volume? name :=
      congrArg (·.get? name) volumes
    exact ⟨volume, named, {
      tidy := ⟨fun name v hv => hs.tidy.volumes name v ((found name).symm.trans hv),
        by simp [absent]⟩
      claim := other.trans hs.claim
      pod := fun hm => (congrArg (·.get? o.options.podKey) pods).trans (hs.pod hm)
      proxy := absent
      stored := (found _).trans hs.stored
      source := hs.source }⟩

theorem answers_forget (h : Holder) : Answers (o.removed h)
    (.call (.patchVolume h.volume Patch.clearClaimRef)) fun answer =>
      Ends o.released (fun _ => o.unfinished) answer := by
  refine answers_call (fun s s' same ⟨volume, named, hs⟩ => ?_)
    (fun e s ⟨volume, _, hs⟩ => hs.unfinished) fun s new s' ⟨volume, named, hs⟩ call => ?_
  · exact ⟨volume, named, hs.ofObjects s s' same⟩
  · obtain ⟨old, found, result, rfl⟩ := Cluster.patchVolume_ok call
    rw [← named, hs.stored] at found
    rw [← Option.some.inj found, volume.patched_clearClaimRef] at result
    obtain rfl := Except.ok.inj result
    obtain ⟨original, source, rfl⟩ := hs.source
    rw [← named]
    exact {
      tidy := hs.tidy.withVolume (by rfl) _
      claim := hs.claim
      pod := hs.pod
      proxy := hs.proxy
      stored := Table.get?_insert_self _
      source := ⟨original, source, rfl⟩ }

theorem answers_rebind (volume : Volume) (hs : o.options.claim.metadata.space = some space) :
    Answers (o.released volume) (.call (.patchClaim space o.options.claim.anyName
      (Patch.bindClaim o.storageClass.provisioner volume.anyName))) fun answer =>
      Ends (fun _ => o.complete VolumeSpec.released volume) (fun _ => o.unfinished) answer := by
  refine answers_call Taken.ofObjects (fun e s hs => hs.unfinished) fun s new s' taken call => ?_
  have key : keyIn space o.options.claim.anyName = o.options.claim.key := Claim.keyIn_space hs _
  obtain ⟨old, found, result, rfl⟩ := Cluster.patchClaim_ok call
  rw [key] at found ⊢
  rw [old.patched_bindClaim] at result
  obtain rfl := Except.ok.inj result
  -- this binds the caller's claim, and does not bring the proxy claim back
  have proxy : (s.objects.claims.insert o.options.claim.key
      (old.boundTo o.storageClass.provisioner volume.anyName)).get? o.options.proxyKey = none :=
    (Table.get?_insert_of_ne _ o.distinct.symm).trans taken.proxy
  refine ⟨⟨taken.tidy.volumes, fun claim hc => ?_⟩, {
    proxy := proxy
    pod := taken.pod
    claim := ⟨old, taken.claim.symm.trans found, Table.get?_insert_self _⟩
    stored := taken.stored
    source := taken.source }⟩
  cases proxy.symm.trans hc

theorem answers_settle (volume : Volume)
    (delete : o.storageClass.reclaimPolicy = some deletePolicy) :
    Answers (o.complete VolumeSpec.released volume)
      (.call (.patchVolume volume.anyName (finalPatch o.config o.options.claim))) fun answer =>
      Ends (o.complete (VolumeSpec.settled o.config o.options.claim o.storageClass))
        (fun _ => o.unfinished) answer := by
  refine answers_call Complete.ofObjects
    (fun e s hs => ⟨hs.1, .inr ⟨delete, volume, hs.2⟩⟩) fun s new s' ⟨tidy, complete⟩ call => ?_
  obtain ⟨old, found, result, rfl⟩ := Cluster.patchVolume_ok call
  rw [complete.stored] at found
  obtain rfl := Option.some.inj found
  obtain ⟨original, source, rfl⟩ := complete.source
  -- the last patch overrides what was done to the policy and the claim reference before
  have settled : new = original.withSpec
      (VolumeSpec.settled o.config o.options.claim o.storageClass) := by
    unfold finalPatch at result
    rw [VolumeSpec.settled_of_delete delete]
    cases hm : o.config.method with
    | annotations =>
        rw [hm] at result
        dsimp only at result
        rw [Volume.patched_reclaimPolicyWithClaimRef] at result
        exact (Except.ok.inj result).symm
    | pod =>
        rw [hm] at result
        dsimp only at result
        rw [Volume.patched_reclaimPolicy] at result
        exact (Except.ok.inj result).symm
  subst settled
  exact ⟨tidy.withVolume (by rfl) _, {
    proxy := complete.proxy
    pod := complete.pod
    claim := complete.claim
    stored := Table.get?_insert_self _
    source := ⟨original, source, rfl⟩ }⟩

variable (o) in
/-- The course of a handover. -/
def outline : Outline (completing o.options.proxyKey) o.config o.options o.storageClass o.node where
  start := o.begun
  missing := o.begun
  created := o.begun
  placed := o.begun
  watching := o.begun.watching (completing_watchful _)
  bound b _ := o.begun.holding (completing_watchful _) b
  cleared := o.cleared
  retained := o.retained
  stripped h _ := o.stripped h
  removed := o.removed
  released := o.released
  rebound := o.complete VolumeSpec.released
  good := o.complete (VolumeSpec.settled o.config o.options.claim o.storageClass)
  bad _ := o.unfinished
  pauses _ _ := trivial
  homeless _ _ _ h := h.unfinished
  look space _ := o.answers_look space
  create := o.answers_create
  place _ := o.answers_place _
  place_nothing _ _ h := h
  watch space hs := answers_watchClaim _ (Claim.keyIn_space hs _) Begun.ofObjects
    fun _ _ h => h.unfinished
  await w := answers_awaitBound _ w _ _ Begun.ofObjects fun _ _ h => h.unfinished
  clear _ b _ := answers_clear b rfl
  clear_in_vain _ _ _ _ _ h := h.1.unfinished
  clear_nothing hm _ _ h := ⟨h, fun pod => absurd (hm.symm.trans pod) nofun⟩
  lacking _ _ _ _ h := h.1.1.unfinished
  retain := o.answers_retain
  strip := o.answers_strip
  remove h _ := o.answers_remove h
  remove_in_vain := fun _ _ _ _ ⟨_, _, taken⟩ => taken.unfinished
  forget := o.answers_forget
  rebind _ v hs := o.answers_rebind v hs
  settle hd v := o.answers_settle v hd
  settle_nothing hd v s h := by
    rw [VolumeSpec.settled_of_keep hd]
    exact h

/-- What a handover comes to. -/
theorem outcome_cases {result : Except Failure Volume} (h : o.outline.Outcome s result) :
    (∃ volume, result = .ok (Provision.adopted volume) ∧
      o.complete (VolumeSpec.settled o.config o.options.claim o.storageClass) volume s) ∨
    ∃ e, result = .error ⟨.inBackground, e⟩ ∧ o.unfinished s := by
  cases h with
  | ok good => exact .inl ⟨_, rfl, good⟩
  | error bad => exact .inr ⟨_, rfl, bad⟩

end Handover

/-! ## Calls that succeed -/

open Provision

theorem ProvisionOptions.claim_ne_proxy {options : ProvisionOptions}
    (h : options.claim.anyName ≠ options.volumeName) :
    options.claim.key ≠ options.proxyKey := by
  intro same
  have chars : _ = _ := congrArg String.toList same
  unfold Claim.key proxyKey keyIn at chars
  rw [String.toList_append, String.toList_append, String.toList_append, String.toList_append]
    at chars
  exact h (String.toList_inj.mp (List.append_cancel_left chars))

/-- **A call that succeeds has handed a volume over completely**, and returns it without its
version. -/
theorem handover_complete {config : Config} {options : ProvisionOptions} {s s' : Cluster}
    {t : List Occurrence} {v : Volume}
    (history : History (Cluster.BackendBinds options.proxyKey) s t s')
    (candid : ∀ x ∈ t, x.Candid Error.Transient)
    (run : (provision config options).Traces (t.map (·.exchange)) (some (.ok v)))
    (tidy : s.Tidy options.proxyKey)
    (names : options.claim.anyName ≠ options.volumeName) :
    ∃ node candidates c stored, requirements options = .ok (node, candidates) ∧
      Selected options (t.map (·.exchange)) c ∧ v = adopted stored ∧
      Handover.Complete ⟨s, config, options, c, node, ProvisionOptions.claim_ne_proxy names⟩
        (VolumeSpec.settled config options.claim c) stored s' := by
  have history : History (completing options.proxyKey).others s t s' := history
  obtain ⟨-, result⟩ := history.provision candid (fun _ _ _ => trivial) run
    (fun c node => Handover.outline
      ⟨s, config, options, c, node, ProvisionOptions.claim_ne_proxy names⟩)
    fun _ _ => ⟨tidy, rfl, fun _ _ source => source⟩
  cases result _ rfl with
  | handed needs selected outcome =>
      rcases Handover.outcome_cases outcome with ⟨stored, ok, complete⟩ | ⟨e, failed, -⟩
      · exact ⟨_, _, _, stored, needs, selected, Except.ok.inj ok, complete.2⟩
      · cases failed

namespace Sample

/-- A cluster in which the bound claim `apps/pvc-u` has got the name of another one. -/
def misnamed : Cluster :=
  (((zones.addClaim (claim "apps" "pvc-u" "p" "here")).bindClaim "apps/pvc-u").patchClaim
    "apps" "pvc-u" (.object [("metadata", .object [("name", .text "victim")])])).2.addClaim
      (claim "apps" "victim" "w" "here")

/-- A call to provision the claim on a node that a pod chooses. -/
def placed : Program (Except Failure Volume) := provision { method := .pod } (options "near" "a")

end Sample

/-- A proxy claim that does not go by the name under which it is filed is not deleted, although the
call succeeds. -/
theorem sample_proxy_left :
    (∀ name volume, Sample.misnamed.volume? name = some volume → volume.anyName = name) ∧
    (Sample.options "near" "a").claim.anyName ≠ (Sample.options "near" "a").volumeName ∧
    (World.run { cluster := Sample.misnamed } Sample.placed).1.isOk = true ∧
    ((World.run { cluster := Sample.misnamed } Sample.placed).2.cluster.claim?
      "apps/pvc-u").isSome = true := by
  refine ⟨fun name volume found => ?_, by decide, by decide +kernel, by decide +kernel⟩
  have filed : ∀ e ∈ Sample.misnamed.objects.volumes.entries, e.2.anyName = e.1 := by
    decide +kernel
  exact filed (name, volume) (mem_of_valueAt found)

theorem sample_handover_complete :
    ∃ v node candidates c stored,
      (World.run { cluster := Sample.zones } Sample.placed).1 = .ok v ∧
      requirements (Sample.options "near" "a") = .ok (node, candidates) ∧
      v = adopted stored ∧
      Handover.Complete ⟨Sample.zones, { method := .pod }, Sample.options "near" "a", c, node,
          ProvisionOptions.claim_ne_proxy (by decide)⟩
        (VolumeSpec.settled { method := .pod } (Sample.options "near" "a").claim c) stored
        (World.run { cluster := Sample.zones } Sample.placed).2.cluster := by
  have ok : (World.run { cluster := Sample.zones } Sample.placed).1.isOk = true := by
    decide +kernel
  have run := Program.traces_run World.answer Sample.placed { cluster := Sample.zones }
  rw [← Program.exchanges_trail] at run
  change Sample.placed.Traces _ (some (World.run _ Sample.placed).1) at run
  cases hr : (World.run { cluster := Sample.zones } Sample.placed).1 with
  | error f =>
      rw [hr] at ok
      cases ok
  | ok v =>
      rw [hr] at run
      have sound : World.Sound { cluster := Sample.zones } :=
        ⟨fun _ h => absurd h List.not_mem_nil, .nil⟩
      have unarmed : World.Armed Error.Transient { cluster := Sample.zones } :=
        fun f hf => absurd hf List.not_mem_nil
      have tidy : Sample.zones.Tidy "apps/pvc-u" := by
        refine ⟨fun name volume found => absurd (mem_of_valueAt found) List.not_mem_nil, ?_⟩
        intro claim stored
        have absent : Sample.zones.claim? "apps/pvc-u" = none := by decide +kernel
        cases absent.symm.trans stored
      obtain ⟨node, candidates, c, stored, needs, -, rfl, complete⟩ :=
        handover_complete (Sample.placed.history_trail_alone sound rfl).1
          (Sample.placed.trail_candid unarmed).1 run tidy (by decide)
      exact ⟨_, node, candidates, c, stored, rfl, needs, rfl, complete⟩

end VolumeHandover
