import VolumeHandover.Proofs.LocalPrograms
import VolumeHandover.Proofs.Outlines
import VolumeHandover.Proofs.Sources

set_option autoImplicit false

/-! # The scope of a call to provision

A call to provision keeps to a scope that has the claim, its proxy claim and its placeholder pod
(`Scope.Covers`), if the volume that it is going to take from the proxy claim lies in that scope as
well (`Cluster.Ready`). Then the name of the volume that it returns does too (`provision_local`).

For this the volumes and the bound proxy claim have to go by the names under which they are filed.
Each stage of the call is `Local` for itself.
-/

namespace VolumeHandover

open Provision

/-! ## Provisioning -/

/-- A scope has the claims and the pod with which a call to provision deals. -/
structure Scope.Covers (scope : Scope) (options : ProvisionOptions) : Prop where
  claim : scope.claims options.claim.key
  proxy : scope.claims options.proxyKey
  pod : scope.pods (keyIn options.claim.spaceName (placeholderName options.volumeName))

/-- The proxy claim, when it is bound, has the key under which it is looked for, and the volume that
it names lies in a scope. -/
structure Scope.Holds (scope : Scope) (options : ProvisionOptions) (proxy : Claim) : Prop where
  key : proxy.key = options.proxyKey
  volume : ∀ name, proxy.volumeName? = some name → scope.volumes name

namespace Cluster

/-- The volumes are filed under their own names. -/
def Named (s : Cluster) : Prop :=
  ∀ name volume, s.volume? name = some volume → volume.anyName = name

/-- What a call to provision finds or makes lies in a scope. -/
structure Ready (scope : Scope) (options : ProvisionOptions) (s : Cluster) : Prop where
  named : s.Named
  proxy : ∀ proxy, s.claim? options.proxyKey = some proxy → proxy.isBound = true →
    scope.Holds options proxy
  backend : s.claim? options.proxyKey = none → s.switches.bindOnCreate = true →
    scope.volumes ("pv-" ++ options.volumeName)

variable {scope : Scope} {options : ProvisionOptions} {s s' : Cluster}

theorem named_of_entries (filed : ∀ e ∈ s.objects.volumes.entries, e.2.anyName = e.1) : s.Named :=
  fun name volume found => filed (name, volume) (mem_of_valueAt found)

theorem Named.of_same (named : s.Named) (volumes : s'.objects.volumes = s.objects.volumes) :
    s'.Named :=
  fun name volume found => named name volume ((congrArg (·.get? name) volumes).symm.trans found)

/-- A patch of the spec leaves a volume its name. -/
theorem Named.patchVolume (named : s.Named) {name : String} {patch : Json}
    {change : VolumeSpec → VolumeSpec}
    (form : ∀ v : Volume, patched v patch = .ok (v.withSpec change)) :
    (s.call (.patchVolume name patch)).2.Named ∧
      ∀ volume, (s.call (.patchVolume name patch)).1 = .ok volume → volume.anyName = name := by
  cases called : s.call (.patchVolume name patch) with
  | mk answer s' =>
      cases answer with
      | error e =>
          refine ⟨named.of_same (congrArg (·.volumes) (call_error called)), fun volume ok => ?_⟩
          cases ok
      | ok new =>
          obtain ⟨old, found, result, rfl⟩ := patchVolume_ok called
          have filed : new.anyName = name := by
            rw [form] at result
            rw [← Except.ok.inj result]
            exact named name old found
          refine ⟨named_insert filed named, fun volume same => ?_⟩
          rw [← Except.ok.inj same, filed]

theorem Ready.of_same (ready : s.Ready scope options)
    (claim : s'.claim? options.proxyKey = s.claim? options.proxyKey)
    (volumes : s'.objects.volumes = s.objects.volumes) (switches : s.switches.Eases s'.switches) :
    s'.Ready scope options := by
  refine ⟨ready.named.of_same volumes, fun proxy stored => ready.proxy proxy ?_,
    fun absent binds => ready.backend ?_ ?_⟩
  · rw [← claim, stored]
  · rw [← claim, absent]
  · rw [← switches.bindOnCreate, binds]

/-- The proxy claim may be created. -/
theorem Ready.createClaim (ready : s.Ready scope options) {proxy : Claim}
    (space : proxy.spaceName = options.claim.spaceName) (name : proxy.anyName = options.volumeName)
    (unbound : proxy.isBound = false) : (s.createClaim proxy).2.Ready scope options := by
  have key : proxy.key = options.proxyKey := by
    rw [Claim.key, space, name]
    rfl
  cases s.createClaim_created proxy with
  | there present answer objects switches =>
      exact ready.of_same (claim_of_objects objects _) (congrArg (·.volumes) objects)
        (switches ▸ .refl _)
  | plain absent unbound' answer objects switches =>
      have stored : (s.createClaim proxy).2.claim? options.proxyKey = some proxy := by
        rw [claim?, objects, ← key]
        exact Table.get?_insert_self _
      refine ⟨ready.named.of_same (congrArg (·.volumes) objects), fun c found bound => ?_,
        fun gone => ?_⟩
      · rw [← Option.some.inj (stored.symm.trans found), unbound] at bound
        cases bound
      · cases stored.symm.trans gone
  | bound absent binds answer objects switches =>
      have stored : (s.createClaim proxy).2.claim? options.proxyKey = some (boundClaim proxy) := by
        rw [claim?, objects, ← key]
        exact Table.get?_insert_self _
      refine ⟨?_, fun c found bound => ?_, fun gone => ?_⟩
      -- the backend has made a volume, and files it under its own name
      · unfold Named volume?
        rw [objects]
        exact named_insert rfl ready.named
      · rw [← Option.some.inj (stored.symm.trans found)]
        refine ⟨key, fun volume named => ?_⟩
        rw [volumeName_boundClaim, name] at named
        rw [← Option.some.inj named]
        exact ready.backend (key ▸ absent) binds
      · cases stored.symm.trans gone

end Cluster

namespace Provision

variable {scope : Scope} {config : Config} {options : ProvisionOptions} {c : StorageClass}
  {node : Node} {space : String}

theorem ensureClaim_local (covers : scope.Covers options)
    (hs : options.claim.metadata.space = some space) :
    Local scope (Cluster.Ready scope options)
      (ensureClaim (proxyFor config options c node)).run fun _ => Cluster.Ready scope options := by
  have key : keyIn space options.volumeName = options.proxyKey := Claim.keyIn_space hs _
  unfold ensureClaim spaceOf
  rw [show (proxyFor config options c node).metadata.space = some space from hs]
  have within : (Lookup.claim space (proxyFor config options c node).anyName).Within scope :=
    show scope.claims (keyIn space options.volumeName) from key ▸ covers.proxy
  refine Local.ask (Local.find within) fun shown => ?_
  cases shown with
  | some claim => exact .done fun _ ready => ready
  | none =>
      exact Local.tolerated (fun s ready => ⟨covers.proxy, ready.backend⟩) nofun
        fun s ready => ready.createClaim rfl rfl rfl

theorem awaitBound_eq {proxy : Claim} (hs : proxy.metadata.space = some space) :
    (awaitBound config proxy).run =
      Program.watchOut space proxy.anyName config.bindTimeout >>= fun
        | .error e => .done (.error e)
        | .ok awaited => .done (awaited.result proxy.anyName config.bindTimeout) := by
  unfold awaitBound spaceOf
  rw [hs]
  refine congrArg (Program.ask (.call (.watchClaim space proxy.anyName))) (funext fun answer => ?_)
  cases answer <;> rfl

theorem awaitBound_local (covers : scope.Covers options)
    (hs : options.claim.metadata.space = some space) :
    Local scope (Cluster.Ready scope options)
      (awaitBound config (proxyFor config options c node)).run
      (Local.Achieves fun bound s => scope.Holds options bound.val ∧ s.Named) := by
  have key : keyIn space options.volumeName = options.proxyKey := Claim.keyIn_space hs _
  have within : scope.claims (keyIn space (proxyFor config options c node).anyName) :=
    show scope.claims (keyIn space options.volumeName) from key ▸ covers.proxy
  have waits : Local scope (Cluster.Ready scope options)
      (.watchOut space (proxyFor config options c node).anyName config.bindTimeout)
      fun result s => (∀ bound, result = .ok (.decided (.bound bound)) →
        scope.Holds options bound.val) ∧ s.Named := by
    refine Local.watchOut within (fun s watches ready => ⟨fun bound ends => ?_, ready.named⟩)
      fun s e ready => ⟨fun bound ends => ?_, ready.named⟩
    -- the claim that is delivered is the one that is stored, of which `Ready` says where it leads
    · have stored : s.claim? options.proxyKey = some bound.val :=
        key ▸ Cluster.claim_of_settled (Except.ok.inj ends)
      exact ready.proxy bound.val stored bound.property
    · cases ends
  rw [awaitBound_eq (show (proxyFor config options c node).metadata.space = some space from hs)]
  refine waits.bind fun result => ?_
  cases result with
  | error e => exact .done fun _ _ => trivial
  | ok awaited =>
      refine .done fun s holds => ?_
      cases awaited with
      | decided decision =>
          cases decision with
          | bound bound => exact ⟨holds.1 bound rfl, holds.2⟩
          | deleted => exact trivial
          | failed e => exact trivial
      | closed => exact trivial
      | timedOut => exact trivial

theorem ensurePod_local (covers : scope.Covers options) :
    Local scope (Cluster.Ready scope options) (ensurePod (podFor config options c node)).run
      fun _ => Cluster.Ready scope options := by
  refine Local.tolerated (fun _ _ => covers.pod) (fun _ _ => ApiCall.noConfusion) fun s ready => ?_
  let create := ApiCall.createPod (podFor config options c node)
  have elsewhere : create.claimKey? ≠ some options.proxyKey := (Option.some_ne_none _).symm
  have quiet : create.writesVolumes = false := rfl
  exact ready.of_same (Cluster.call_elsewhere rfl elsewhere) (Cluster.call_volumes rfl quiet)
    (s.call_eases create)

/-- A deletion that is made again while it fails, of something else than a volume. -/
theorem delete_local {operation : String} (call : ApiCall) (within : ∀ s, call.Within scope s)
    (other : ∀ space name, call ≠ .watchClaim space name) (quiet : call.writesVolumes = false) :
    Local scope Cluster.Named (deleteWithRetry config operation call).run
      (Local.Achieves fun _ => Cluster.Named) :=
  Local.achieves <| Local.retry (fun s _ => within s) other fun _ named =>
    named.of_same (Cluster.call_volumes rfl quiet)

theorem obtainProxy_local (covers : scope.Covers options)
    (hs : options.claim.metadata.space = some space) :
    Local scope (Cluster.Ready scope options) (obtainProxy config options c node).run
      (Local.Achieves fun bound s => scope.Holds options bound.val ∧ s.Named) := by
  cases method : config.method with
  | annotations =>
      rw [Outline.obtainProxy_annotations method]
      exact (Local.achieves (ensureClaim_local covers hs)).attempt fun _ =>
        awaitBound_local covers hs
  | pod =>
      rw [Outline.obtainProxy_pod method]
      refine (Local.achieves (ensureClaim_local covers hs)).attempt fun _ => ?_
      refine (Local.achieves (ensurePod_local covers)).attempt fun _ => ?_
      refine (awaitBound_local covers hs).attempt fun bound => ?_
      refine Local.given fun holds => ?_
      refine (delete_local (.deletePod (podFor config options c node).spaceName _)
        (fun _ => covers.pod) (fun _ _ => ApiCall.noConfusion) rfl).attempt fun _ => ?_
      exact Local.succeed fun _ named => ⟨holds, named⟩

theorem patchClaim_local {name : String} {patch : Json}
    (within : scope.claims (keyIn space name)) :
    Local scope Cluster.Named (Provision.call (.patchClaim space name patch)).run
      (Local.Achieves fun _ => Cluster.Named) := by
  have quiet : (ApiCall.patchClaim space name patch).writesVolumes = false := rfl
  exact Local.achieves <| Local.call (fun _ _ => within) (fun _ _ => ApiCall.noConfusion)
    (fun _ named => named.of_same (Cluster.call_volumes rfl quiet)) fun _ _ named => named

/-- A patch of the spec of a volume. -/
theorem patchVolume_local {name : String} {patch : Json} {change : VolumeSpec → VolumeSpec}
    (within : scope.volumes name)
    (form : ∀ v : Volume, Cluster.patched v patch = .ok (v.withSpec change)) :
    Local scope Cluster.Named (Provision.call (.patchVolume name patch)).run
      (Local.Achieves fun volume s => volume.anyName = name ∧ s.Named) := by
  refine Local.call (fun _ _ => within) (fun _ _ => ApiCall.noConfusion) (fun s named => ?_)
    fun _ _ _ => trivial
  have after : (s.call (.patchVolume name patch)).2.Named ∧
    ∀ volume, (s.call (.patchVolume name patch)).1 = .ok volume → volume.anyName = name :=
      named.patchVolume form
  cases answer : (s.call (.patchVolume name patch)).1 with
  | ok volume => exact ⟨after.2 volume answer, after.1⟩
  | error e => exact trivial

theorem releaseVolume_local (covers : scope.Covers options) {bound : BoundClaim}
    (holds : scope.Holds options bound.val) :
    Local scope Cluster.Named (releaseVolume config bound).run
      (Local.Achieves fun volume s => scope.volumes volume.anyName ∧ s.Named) := by
  unfold releaseVolume spaceOf
  dsimp only
  cases hs : bound.val.metadata.space with
  | none => exact Local.fail
  | some space =>
      -- the bound claim is patched and deleted by the name that it goes by, which is in the scope
      -- only because that is the name under which it was looked for
      have proxy : scope.claims (keyIn space bound.val.anyName) := by
        rw [Claim.keyIn_space hs, show keyIn _ _ = _ from holds.key]
        exact covers.proxy
      cases hv : bound.val.volumeName? with
      | none => exact Local.fail
      | some name =>
          have within := holds.volume name hv
          refine (patchVolume_local within (Volume.patched_reclaimPolicy · _)).attempt fun _ => ?_
          refine Local.given fun _ => ?_
          refine (patchClaim_local proxy).attempt fun _ => ?_
          refine (delete_local (.deleteClaim space bound.val.anyName) (fun _ => proxy)
            (fun _ _ => ApiCall.noConfusion) rfl).attempt fun _ => ?_
          refine (patchVolume_local within Volume.patched_clearClaimRef).weaken (fun _ h => h) ?_
          intro result s after
          cases result with
          | ok volume => exact ⟨after.1 ▸ within, after.2⟩
          | error e => exact trivial

theorem rebindClaim_local (covers : scope.Covers options)
    (hs : options.claim.metadata.space = some space) {volume : Volume}
    (within : scope.volumes volume.anyName) :
    Local scope Cluster.Named (rebindClaim config options.claim volume c).run
      (Local.Achieves fun volume _ => scope.volumes volume.anyName) := by
  have claim : scope.claims (keyIn space options.claim.anyName) := by
    rw [Claim.keyIn_space hs]
    exact covers.claim
  unfold rebindClaim spaceOf
  rw [hs]
  refine (patchClaim_local claim).attempt fun _ => ?_
  by_cases deletes : c.reclaimPolicy = some deletePolicy
  · rw [if_pos deletes]
    have settles (change : VolumeSpec → VolumeSpec) (patch : Json)
        (form : ∀ v : Volume, Cluster.patched v patch = .ok (v.withSpec change)) :
        Local scope Cluster.Named (Provision.call (.patchVolume volume.anyName patch)).run
          (Local.Achieves fun volume _ => scope.volumes volume.anyName) := by
      refine (patchVolume_local within form).weaken (fun _ h => h) ?_
      intro result s after
      cases result with
      | ok volume => exact after.1 ▸ within
      | error e => exact trivial
    cases config.method with
    | annotations => exact settles _ _ (Volume.patched_reclaimPolicyWithClaimRef · _ _)
    | pod => exact settles _ _ (Volume.patched_reclaimPolicy · _)
  · rw [if_neg deletes]
    exact Local.succeed fun _ _ => within

theorem handOver_local (covers : scope.Covers options) :
    Local scope (Cluster.Ready scope options) (handOver config options c node).run
      (Local.Achieves fun volume _ => scope.volumes volume.anyName) := by
  unfold handOver
  cases hs : options.claim.metadata.space with
  | none =>
      rw [obtainProxy_homeless hs]
      exact Local.fail
  | some space =>
      refine (obtainProxy_local covers hs).attempt fun bound => ?_
      refine Local.given fun holds => ?_
      refine (releaseVolume_local covers holds).attempt fun volume => ?_
      exact Local.given fun within => rebindClaim_local covers hs within

end Provision

/-! ## Selecting a class -/

namespace Selection

variable {scope : Scope} {pre : Cluster → Prop} {csiNode : CsiNode} {node : Node}

theorem isUsable_local (c : StorageClass) :
    Local scope pre (isUsable Lister.asked csiNode node c) fun _ => pre := by
  unfold isUsable
  by_cases allowed : allowsNode csiNode node c = true
  · rw [if_pos allowed]
    refine Local.ask (Local.find trivial) fun shown => ?_
    cases shown with
    | none => exact .done fun _ h => h
    | some driver => exact .done fun _ h => h
  · rw [if_neg allowed]
    exact .done fun _ h => h

theorem firstUsable_local (candidates : List String) :
    Local scope pre (firstUsable Lister.asked csiNode node candidates) fun _ => pre := by
  induction candidates with
  | nil => exact .done fun _ h => h
  | cons candidate rest ih =>
      unfold firstUsable
      refine Local.ask (Local.find trivial) fun shown => ?_
      cases shown with
      | none => exact ih
      | some c =>
          refine (isUsable_local c).bind fun usable => ?_
          cases usable with
          | true => exact .done fun _ h => h
          | false => exact ih

theorem selectClass_local (candidates : List String) :
    Local scope pre (selectClass Lister.asked node candidates) fun _ => pre := by
  unfold selectClass
  refine Local.ask (Local.find trivial) fun shown => ?_
  cases shown with
  | none => exact .done fun _ h => h
  | some csiNode =>
      refine (firstUsable_local candidates).bind fun first => ?_
      cases first with
      | none => exact .done fun _ h => h
      | some c => exact .done fun _ h => h

end Selection

/-- A call to provision keeps to its scope, and so does the name of the volume that it returns. -/
theorem provision_local {scope : Scope} {config : Config} {options : ProvisionOptions}
    (covers : scope.Covers options) :
    Local scope (Cluster.Ready scope options) (provision config options)
      fun result _ => ∀ volume, result = .ok volume → scope.volumes volume.anyName := by
  unfold provision
  cases requirements options with
  | error e => exact .done fun _ _ volume never => by cases never
  | ok needs =>
      obtain ⟨node, candidates⟩ := needs
      refine (Selection.selectClass_local candidates).bind fun selected => ?_
      cases selected with
      | error e => exact .done fun _ _ volume never => by cases never
      | ok c =>
          refine (handOver_local covers).bind fun result => ?_
          cases result with
          | error e => exact .done fun _ _ volume never => by cases never
          | ok volume =>
              refine .done fun _ within found ok => ?_
              rw [← Except.ok.inj ok]
              exact within

end VolumeHandover
