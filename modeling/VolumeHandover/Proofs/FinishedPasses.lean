import VolumeHandover.Proofs.PassScope

set_option autoImplicit false

/-! # Finished passes are fixpoints

A pass that provisions a claim leaves it naming a volume that is there; one that gives the claim
back to the scheduler leaves it as it was but for the choice of a node (`Pass.Finished`). In both
cases the next pass turns the claim away at the gate, so that nothing happens any more
(`World.reconcile_finished`).

This holds whatever fails on the way, and whatever else is in the cluster, as long as volumes go by
the names under which they are filed. So the parts of a call to provision are gone through once more
here, with less to assume about the cluster than where they have to keep to a scope.
-/

namespace VolumeHandover

/-- The scope that has everything. -/
def Scope.whole : Scope := ⟨fun _ => True, fun _ => True, fun _ => True⟩

theorem ApiCall.within_whole (c : ApiCall) (s : Cluster) : c.Within .whole s := by
  cases c with
  | createClaim => exact ⟨trivial, fun _ _ => trivial⟩
  | patchClaim | deleteClaim | watchClaim | createPod | deletePod | createVolume | patchVolume
  | getNode => exact trivial

/-! ## What is kept -/

namespace Cluster

variable {s s' : Cluster} {key volume : String}

/-- No call takes a volume away. -/
theorem volume_stays (there : (s.volume? volume).isSome = true) (c : ApiCall) :
    ((s.call c).2.volume? volume).isSome = true := by
  have filed (name : String) (new : Volume) :
      ((s.objects.volumes.insert name new).get? volume).isSome = true := by
    by_cases same : volume = name
    · rw [same, Table.get?_insert_self]
      rfl
    · rw [Table.get?_insert_of_ne _ same]
      exact there
  have effect := s.call_effect c
  unfold volume?
  generalize (s.call c).2.objects = after at effect
  generalize (s.call c).1 = answer at effect
  cases effect with
  | claimBound | volumeCreated | volumePatched => exact filed _ _
  | _ => exact there

/-- The claim under a key names a volume, and that volume is there. -/
structure Handed (s : Cluster) (key volume : String) : Prop where
  claim : ∃ bound, s.claim? key = some bound ∧ bound.volumeName? = some volume
  volume : (s.volume? volume).isSome = true

/-- Calls that are not about the claim keep it so. -/
theorem Handed.call (handed : s.Handed key volume) {c : ApiCall}
    (other : c.claimKey? ≠ some key) : (s.call c).2.Handed key volume where
  claim := by
    have same : (s.call c).2.claim? key = s.claim? key := call_elsewhere rfl other
    rw [same]
    exact handed.claim
  volume := volume_stays handed.volume c

theorem Named.createClaim (named : s.Named) (claim : Claim) : (s.createClaim claim).2.Named := by
  cases s.createClaim_created claim with
  | there _ _ objects | plain _ _ _ objects =>
      exact named.of_same (congrArg (·.volumes) objects)
  | bound _ _ _ objects =>
      unfold Named volume?
      rw [objects]
      exact named_insert rfl named

end Cluster

/-! ## The parts of a call to provision -/

namespace Provision

variable {config : Config} {c : StorageClass} {claim : Claim}

theorem ensureClaim_named (proxy : Claim) :
    Local .whole Cluster.Named (ensureClaim proxy).run fun _ => Cluster.Named := by
  unfold ensureClaim spaceOf
  cases proxy.metadata.space with
  | none => exact .done fun _ named => named
  | some space =>
      refine Local.ask (Local.find trivial) fun shown => ?_
      cases shown with
      | some claim => exact .done fun _ named => named
      | none =>
          exact Local.tolerated (fun s _ => ApiCall.within_whole _ s) nofun
            fun s named => named.createClaim proxy

theorem awaitBound_named (proxy : Claim) :
    Local .whole Cluster.Named (awaitBound config proxy).run
      (Local.Achieves fun _ => Cluster.Named) := by
  cases hs : proxy.metadata.space with
  | none =>
      unfold awaitBound spaceOf
      rw [hs]
      exact Local.fail
  | some space =>
      have waits : Local .whole Cluster.Named
          (.watchOut space proxy.anyName config.bindTimeout) fun _ => Cluster.Named :=
        Local.watchOut trivial (fun s watches named => named.of_same rfl) fun _ _ named => named
      rw [awaitBound_eq hs]
      refine waits.bind fun result => ?_
      cases result with
      | error e => exact .done fun _ _ => trivial
      | ok awaited =>
          refine .done fun s named => ?_
          cases awaited.result proxy.anyName config.bindTimeout with
          | ok bound => exact named
          | error e => exact trivial

theorem ensurePod_named (pod : Pod) :
    Local .whole Cluster.Named (ensurePod pod).run fun _ => Cluster.Named := by
  refine Local.tolerated (fun s _ => ApiCall.within_whole _ s) (fun _ _ => ApiCall.noConfusion)
    fun s named => ?_
  have quiet : (ApiCall.createPod pod).writesVolumes = false := rfl
  exact named.of_same (Cluster.call_volumes rfl quiet)

theorem obtainProxy_named (options : ProvisionOptions) (node : Node) :
    Local .whole Cluster.Named (obtainProxy config options c node).run
      (Local.Achieves fun _ => Cluster.Named) := by
  unfold obtainProxy
  cases config.method with
  | annotations =>
      exact (Local.achieves (ensureClaim_named _)).attempt fun _ => awaitBound_named _
  | pod =>
      refine (Local.achieves (ensureClaim_named _)).attempt fun _ => ?_
      refine (Local.achieves (ensurePod_named _)).attempt fun _ => ?_
      refine (awaitBound_named _).attempt fun bound => ?_
      refine (delete_local _ (ApiCall.within_whole _) (fun _ _ => ApiCall.noConfusion) rfl).attempt
        fun _ => ?_
      exact Local.succeed fun _ named => named

/-- A patch of the spec of a volume answers with a volume that goes by its name and is there; what
the patch is not about is kept. -/
theorem patchVolume_named (kept : Cluster → Prop) {name : String} {patch : Json}
    {change : VolumeSpec → VolumeSpec}
    (form : ∀ v : Volume, Cluster.patched v patch = .ok (v.withSpec change))
    (keeps : ∀ s, kept s → kept (s.call (.patchVolume name patch)).2) :
    Local .whole (fun s => kept s ∧ s.Named) (Provision.call (.patchVolume name patch)).run
      (Local.Achieves fun volume s => volume.anyName = name ∧
        (s.volume? name).isSome = true ∧ kept s ∧ s.Named) := by
  refine Local.call (fun s _ => ApiCall.within_whole _ s) (fun _ _ => ApiCall.noConfusion)
    (fun s before => ?_) fun _ _ _ => trivial
  obtain ⟨named, filed⟩ : (s.call (.patchVolume name patch)).2.Named ∧ _ :=
    before.2.patchVolume form
  cases called : s.call (.patchVolume name patch) with
  | mk answer s' =>
      rw [called] at named filed
      have later : kept s' := by
        have after := keeps s before.1
        rwa [called] at after
      cases answer with
      | error e => exact trivial
      | ok volume =>
          obtain ⟨old, found, -, rfl⟩ := Cluster.patchVolume_ok called
          refine ⟨filed volume rfl, ?_, later, named⟩
          show ((s.objects.volumes.insert name volume).get? name).isSome = true
          rw [Table.get?_insert_self]
          rfl

/-- What was released is a volume with a name, under which it is there. -/
theorem releaseVolume_named (bound : BoundClaim) :
    Local .whole Cluster.Named (releaseVolume config bound).run
      (Local.Achieves fun volume s => volume.anyName ≠ "" ∧
        (s.volume? volume.anyName).isSome = true ∧ s.Named) := by
  unfold releaseVolume spaceOf
  dsimp only
  cases bound.val.metadata.space with
  | none => exact Local.fail
  | some space =>
      cases hv : bound.val.volumeName? with
      | none => exact Local.fail
      | some name =>
          have proper : name ≠ "" := by
            simpa using (Option.filter_eq_some_iff.mp hv).2
          refine (patchVolume_local trivial (Volume.patched_reclaimPolicy · _)).attempt
            fun _ => ?_
          refine Local.given fun _ => ?_
          refine (patchClaim_local trivial).attempt fun _ => ?_
          refine (delete_local _ (ApiCall.within_whole _) (fun _ _ => ApiCall.noConfusion)
            rfl).attempt fun _ => ?_
          refine (patchVolume_named (fun _ => True) Volume.patched_clearClaimRef
            fun _ _ => trivial).weaken (fun _ named => ⟨trivial, named⟩) fun result s after => ?_
          cases result with
          | error e => exact trivial
          | ok volume =>
              obtain ⟨filed, there, -, named⟩ := after
              exact ⟨filed ▸ proper, filed ▸ there, named⟩

/-- To bind the caller's claim is to make it name the volume. -/
theorem bindClaim_handed {space provisioner volume : String}
    (hs : claim.metadata.space = some space) (proper : volume ≠ "") :
    Local .whole (fun s => (s.volume? volume).isSome = true ∧ s.Named)
      (Provision.call (.patchClaim space claim.anyName (Patch.bindClaim provisioner volume))).run
      (Local.Achieves fun _ s => s.Handed claim.key volume ∧ s.Named) := by
  refine Local.call (fun s _ => ApiCall.within_whole _ s) (fun _ _ => ApiCall.noConfusion)
    (fun s before => ?_) fun _ _ _ => trivial
  have key : keyIn space claim.anyName = claim.key := Claim.keyIn_space hs _
  have there := Cluster.volume_stays before.1
    (.patchClaim space claim.anyName (Patch.bindClaim provisioner volume))
  cases called : s.call (.patchClaim space claim.anyName (Patch.bindClaim provisioner volume)) with
  | mk answer s' =>
      rw [called] at there
      cases answer with
      | error e => exact trivial
      | ok new =>
          have quiet : (ApiCall.patchClaim space claim.anyName
              (Patch.bindClaim provisioner volume)).writesVolumes = false := rfl
          have named : s'.Named := before.2.of_same (Cluster.call_volumes called quiet)
          obtain ⟨old, -, result, rfl⟩ := Cluster.patchClaim_ok called
          rw [old.patched_bindClaim] at result
          obtain rfl := Except.ok.inj result
          refine ⟨⟨⟨old.boundTo provisioner volume, ?_, ?_⟩, there⟩, named⟩
          · rw [← key]
            exact Table.get?_insert_self _
          · exact old.volumeName_boundTo provisioner proper

/-- After rebinding, the caller's claim names the volume that is returned. -/
theorem rebindClaim_handed {volume : Volume} (proper : volume.anyName ≠ "") :
    Local .whole (fun s => (s.volume? volume.anyName).isSome = true ∧ s.Named)
      (rebindClaim config claim volume c).run
      (Local.Achieves fun volume s => s.Handed claim.key volume.anyName) := by
  unfold rebindClaim spaceOf
  cases hs : claim.metadata.space with
  | none => exact Local.fail
  | some space =>
      refine (bindClaim_handed hs proper).attempt fun _ => ?_
      by_cases deletes : c.reclaimPolicy = some deletePolicy
      · rw [if_pos deletes]
        have settles (change : VolumeSpec → VolumeSpec) (patch : Json)
            (form : ∀ v : Volume, Cluster.patched v patch = .ok (v.withSpec change)) :
            Local .whole (fun s => s.Handed claim.key volume.anyName ∧ s.Named)
              (Provision.call (.patchVolume volume.anyName patch)).run
              (Local.Achieves fun volume s => s.Handed claim.key volume.anyName) := by
          refine (patchVolume_named _ form fun s handed => ?_).weaken (fun _ h => h)
            fun result s after => ?_
          · exact handed.call (Option.some_ne_none claim.key).symm
          · cases result with
            | error e => exact trivial
            | ok new =>
                obtain ⟨filed, -, handed, -⟩ := after
                exact filed ▸ handed
        cases config.method with
        | annotations => exact settles _ _ (Volume.patched_reclaimPolicyWithClaimRef · _ _)
        | pod => exact settles _ _ (Volume.patched_reclaimPolicy · _)
      · rw [if_neg deletes]
        exact Local.succeed fun _ h => h.1

theorem handOver_handed (options : ProvisionOptions) (node : Node) :
    Local .whole Cluster.Named (handOver config options c node).run
      (Local.Achieves fun volume s => s.Handed options.claim.key volume.anyName) := by
  unfold handOver
  refine (obtainProxy_named options node).attempt fun bound => ?_
  refine (releaseVolume_named bound).attempt fun volume => ?_
  exact Local.given fun proper => rebindClaim_handed proper

end Provision

/-- What comes of a call to provision for a claim: a volume that the claim names, or a failure, and
if that asks for another node the claim is what it was. -/
structure Provided (claim : Claim) (result : Except Failure Volume) (s : Cluster) : Prop where
  handed : ∀ volume, result = .ok volume → s.Handed claim.key volume.anyName
  unchanged : ∀ failure, result = .error failure → failure.disposition = .reschedule →
    s.claim? claim.key = some claim

variable {driver : String} {config : Config} {claim : Claim}

theorem provided_of_error {failure : Failure} {s : Cluster}
    (unchanged : failure.disposition = .reschedule → s.claim? claim.key = some claim) :
    Provided claim (.error failure) s where
  handed _ never := by cases never
  unchanged other same := by
    rw [← Except.error.inj same]
    exact unchanged

theorem provision_provided (config : Config) (options : ProvisionOptions) :
    Local .whole (fun s => s.claim? options.claim.key = some options.claim ∧ s.Named)
      (provision config options) (Provided options.claim) := by
  unfold provision
  cases Provision.requirements options with
  | error e => exact .done fun _ _ => provided_of_error nofun
  | ok needs =>
      obtain ⟨node, candidates⟩ := needs
      refine (Selection.selectClass_local candidates).bind fun selected => ?_
      cases selected with
      | error e => exact .done fun _ before => provided_of_error fun _ => before.1
      | ok c =>
          have hands : Local .whole
              (fun s => s.claim? options.claim.key = some options.claim ∧ s.Named)
              (Provision.handOver config options c node).run
              (Local.Achieves fun volume s => s.Handed options.claim.key volume.anyName) :=
            (Provision.handOver_handed options node).weaken (fun _ before => before.2)
              fun _ _ after => after
          refine hands.bind fun result => ?_
          cases result with
          | error e => exact .done fun _ _ => provided_of_error nofun
          | ok volume =>
              refine .done fun s handed => ⟨fun adopted same => ?_, fun _ never => ?_⟩
              · rw [← Except.ok.inj same]
                exact handed
              · cases never

/-! ## What a pass leaves -/

/-- What a program that only looks things up comes to, it comes to in a run as well. -/
theorem Local.looksUp {α : Type} {scope : Scope} {pre : Cluster → Prop} {p : Program α}
    {post : α → Cluster → Prop} {result : α → Prop} (keeps : Local scope pre p post)
    (looks : p.LooksUp result) : Local scope pre p fun a s => result a ∧ post a s := by
  intro w w' alike hw
  have run := keeps alike hw
  obtain ⟨looked, -, -, judged⟩ := w.run_looksUp looks
  exact ⟨⟨judged, run.post⟩, run.result, run.alike, run.changes, run.elapsed⟩

namespace Claim

/-- The claim without the annotation that names the selected node. -/
def withoutNode (claim : Claim) : Claim :=
  { claim with metadata := { claim.metadata with
    annotations := claim.metadata.annotations.map (·.erase selectedNodeKey) } }

theorem unplaced_eq {node : String} (placed : claim.annotated? selectedNodeKey = some node) :
    claim.unplaced = claim.withoutNode := by
  obtain ⟨annotations, present, -⟩ := Option.bind_eq_some_iff.mp placed
  rw [unplaced, withoutNode, present]
  rfl

theorem annotated?_withoutNode (claim : Claim) :
    claim.withoutNode.annotated? selectedNodeKey = none := by
  unfold annotated? withoutNode
  cases claim.metadata.annotations with
  | none => rfl
  | some annotations => exact Table.get?_erase_self annotations

end Claim

namespace Pass

/-- What a report says of the cluster that a pass leaves. -/
structure Finished (claim : Claim) (report : Report) (s : Cluster) : Prop where
  provisioned : ∀ volume, report.conclusion = .ok (.provisioned volume) →
    s.Handed claim.key volume
  rescheduled : report.conclusion = .ok .rescheduled →
    s.claim? claim.key = some claim.withoutNode

/-- A report that says neither that the claim is provisioned nor that it is given back. -/
theorem finished_of_other {report : Report} {s : Cluster}
    (provisioned : ∀ volume, report.conclusion ≠ .ok (.provisioned volume))
    (rescheduled : report.conclusion ≠ .ok .rescheduled) : Finished claim report s :=
  ⟨fun volume same => absurd same (provisioned volume), fun same => absurd same rescheduled⟩

theorem TurnedAway.finished {report : Report} (turned : TurnedAway claim report) (s : Cluster) :
    Finished claim report s := by
  cases turned <;> exact finished_of_other nofun nofun

theorem conclude_finished {result : Except Failure Volume} {elapsed : Duration} {node : String}
    (placed : claim.annotated? selectedNodeKey = some node) :
    Local .whole (Provided claim result) (conclude claim result elapsed) (Finished claim) := by
  unfold conclude
  cases result with
  | ok volume =>
      have creates : Local .whole (Provided claim (.ok volume)) (.call (.createVolume volume))
          fun _ s => s.Handed claim.key volume.anyName := by
        refine Local.call (fun s _ => ApiCall.within_whole _ s) (fun _ _ => ApiCall.noConfusion)
          (fun s provided => ?_) fun s e provided => provided.handed volume rfl
        exact (provided.handed volume rfl).call (Option.some_ne_none claim.key).symm
      have success (s : Cluster) (handed : s.Handed claim.key volume.anyName) : Finished claim
          ⟨.ok (.provisioned volume.anyName), some (.success, elapsed), .reset⟩ s := by
        refine ⟨fun name same => ?_, nofun⟩
        cases same
        exact handed
      refine creates.bind fun answer => ?_
      cases answer with
      | ok created => exact .done success
      | error e =>
          by_cases there : e.isAlreadyExists = true
          · dsimp only
            rw [if_pos there]
            exact .done success
          · dsimp only
            rw [if_neg there]
            exact .done fun _ _ => finished_of_other nofun nofun
  | error failure =>
      dsimp only
      cases asked : failure.disposition with
      | finished | inBackground => exact .done fun _ _ => finished_of_other nofun nofun
      | reschedule =>
          have patches : Local .whole (Provided claim (.error failure))
              (.call (.patchClaim claim.spaceName claim.anyName Patch.clearSelectedNode))
              fun answer s => ∀ new, answer = .ok new →
                s.claim? claim.key = some claim.withoutNode := by
            refine Local.call (fun s _ => ApiCall.within_whole _ s)
              (fun _ _ => ApiCall.noConfusion) (fun s provided => ?_)
              fun _ _ _ _ never => by cases never
            have before := provided.unchanged failure rfl asked
            cases called : s.call
                (.patchClaim claim.spaceName claim.anyName Patch.clearSelectedNode) with
            | mk answer s' =>
                rintro new rfl
                obtain ⟨old, found, result, rfl⟩ := Cluster.patchClaim_ok called
                obtain rfl := Option.some.inj (found.symm.trans before)
                rw [old.patched_clearSelectedNode, old.unplaced_eq placed] at result
                rw [← Except.ok.inj result]
                exact Table.get?_insert_self _
          refine patches.bind fun answer => ?_
          cases answer with
          | ok new => exact .done fun s given => ⟨nofun, fun _ => given new rfl⟩
          | error e => exact .done fun _ _ => finished_of_other nofun nofun

/-- **What a pass leaves**: if it says that a claim is provisioned, the claim names a volume that
is there; if it says that the claim is given back, only the choice of a node is gone. -/
theorem pass_finished (driver : String) (config : Config) :
    Local .whole (fun s => s.claim? claim.key = some claim ∧ s.Named)
      (pass driver (provision config) claim) (Finished claim) := by
  rw [pass_eq]
  refine (gate_local.looksUp gate_screened).bind fun result => ?_
  refine Local.given fun screened => ?_
  cases result with
  | error report => exact .done fun s _ => TurnedAway.finished screened s
  | ok options =>
      obtain ⟨-, same, -⟩ := screened
      -- what the gate found out about the claim is known of the cluster in which it was asked
      have goes : Local .whole (fun s => (∃ node, claim.annotated? selectedNodeKey = some node) ∧
          s.claim? claim.key = some claim ∧ s.Named)
          (attempt (provision config) claim options) (Finished claim) := by
        refine Local.given fun placed => ?_
        obtain ⟨node, placed⟩ := placed
        have provided := provision_provided config options
        rw [same] at provided
        exact Local.timed provided fun result duration => conclude_finished placed
      refine goes.weaken (fun s before => ?_) fun _ _ h => h
      obtain ⟨judged, before⟩ := before
      cases judged with
      | due due =>
          obtain ⟨node, -, placed, -⟩ := due.selectedNode
          exact ⟨⟨node, placed⟩, before⟩

/-! ## Turning a claim away -/

/-- A claim without a selected node is not provisioned. -/
theorem gate_of_noNode (none : claim.annotated? selectedNodeKey = none) :
    (gate driver claim).run.LooksUp fun result =>
      ∃ reason step, result = .error (ignore reason step) := by
  by_cases bound : claim.volumeName?.isSome = true
  · rw [gate_of_bound bound]
    exact .done ⟨_, _, rfl⟩
  unfold gate
  rw [if_neg bound]
  by_cases deleted : claim.metadata.deletionTimestamp.isSome = true
  · dsimp only
    rw [if_pos deleted]
    exact .done ⟨_, _, rfl⟩
  dsimp only
  rw [if_neg deleted]
  cases className? claim with
  | none => exact .done ⟨_, _, rfl⟩
  | some name =>
      refine .find fun shown => ?_
      cases shown with
      | none => exact .done ⟨_, _, rfl⟩
      | some c =>
          dsimp only
          by_cases other : c.provisioner ≠ driver
          · rw [if_pos other]
            exact .done ⟨_, _, rfl⟩
          · rw [if_neg other, none]
            exact .done ⟨_, _, rfl⟩

end Pass

/-- Reports that come to the same outcome come to the same conclusion. -/
theorem Ledger.outcome_injective (delay : Duration) : Function.Injective (outcome delay) := by
  intro c c' same
  cases c <;> cases c' <;> cases same <;> rfl

theorem Ledger.conclusion_of_note {l : Ledger} {report : Report} {conclusion : Conclusion}
    (noted : ∀ delay, (l.note claim report).1 = .ok (outcome delay conclusion)) :
    report.conclusion = .ok conclusion := by
  have shown := l.note_result claim report
  rw [noted] at shown
  cases said : report.conclusion with
  | error e =>
      rw [said] at shown
      cases shown
  | ok other =>
      rw [said] at shown
      rw [outcome_injective _ (Except.ok.inj shown)]

namespace World

/-- Reconciling a claim does nothing: it is ignored, no call is made, and neither the cluster nor a
metric changes. -/
structure Settled (w : World) (r : Reconciler) (claim : Claim) : Prop where
  ignored : ∃ reason, (w.reconcile r claim).outcome = .ok (.ignored reason)
  requests : ∃ looked, (w.reconcile r claim).world.requests = w.requests ++ looked ∧
    ∀ x ∈ looked, ∃ l, x.2 = .find l
  cluster : (w.reconcile r claim).world.cluster = w.cluster
  metrics : (w.reconcile r claim).reconciler.ledger.metrics = r.ledger.metrics

/-- A claim that the gate ignores is settled. -/
theorem settled_of_gate {r : Reconciler}
    (turned : (Pass.gate r.driverName claim).run.LooksUp fun result =>
      ∃ reason step, result = .error (Pass.ignore reason step)) (w : World) :
    w.Settled r claim := by
  obtain ⟨looked, finds, after, reason, step, result⟩ := w.run_looksUp turned
  have run : w.run (r.pass claim) =
      (Pass.ignore reason step, { w with requests := w.requests ++ looked }) := by
    unfold Reconciler.pass
    rw [Pass.pass_eq, run_bind, result, after]
    rfl
  have reconciled : w.reconcile r claim =
      { outcome := (r.ledger.note claim (Pass.ignore reason step)).1
        reconciler := { r with ledger := (r.ledger.note claim (Pass.ignore reason step)).2 }
        world := { w with requests := w.requests ++ looked } } := by
    unfold reconcile
    rw [run]
    rfl
  refine ⟨⟨reason, ?_⟩, ⟨looked, ?_, finds⟩, ?_, ?_⟩
  all_goals rw [reconciled]
  · exact r.ledger.note_result claim _
  · exact r.ledger.metrics_note claim rfl

theorem settled_of_bound {r : Reconciler} (bound : claim.volumeName?.isSome = true) (w : World) :
    w.Settled r claim := by
  refine settled_of_gate ?_ w
  rw [Pass.gate_of_bound bound]
  exact .done ⟨_, _, rfl⟩

variable {w : World}

/-- **Finished passes are fixpoints.** After a pass that provisioned a claim, the stored claim names
the volume, which has a name and is there; after one that gave the claim back, the stored claim is
what it was without the selected node. In both cases reconciling the stored claim does nothing. -/
theorem reconcile_finished (driver : String) (config : Config) (ledger : Ledger)
    (alone : w.agenda = []) (named : w.cluster.Named)
    (stored : w.cluster.claim? claim.key = some claim) :
    let first := w.reconcile (.handingOver driver config ledger) claim
    (∀ volume, first.outcome = .ok (.provisioned volume) →
      volume ≠ "" ∧ (first.world.cluster.volume? volume).isSome = true ∧
      ∃ bound, first.world.cluster.claim? claim.key = some bound ∧
        bound.volumeName? = some volume ∧ first.world.Settled first.reconciler bound) ∧
    (first.outcome = .ok .rescheduled →
      let back := { claim with metadata := { claim.metadata with
        annotations := claim.metadata.annotations.map (·.erase selectedNodeKey) } }
      first.world.cluster.claim? claim.key = some back ∧
        first.world.Settled first.reconciler back) := by
  intro first
  have finished := (Pass.pass_finished driver config (.refl alone)
    ⟨stored, named⟩).post
  constructor
  · intro volume provisioned
    have said : (w.run (pass driver (provision config) claim)).1.conclusion =
        .ok (.provisioned volume) := Ledger.conclusion_of_note fun _ => provisioned
    obtain ⟨⟨bound, found, names⟩, there⟩ := finished.provisioned volume said
    have proper : volume ≠ "" := by
      simpa using (Option.filter_eq_some_iff.mp names).2
    exact ⟨proper, there, bound, found, names, settled_of_bound (names ▸ rfl) _⟩
  · intro rescheduled back
    have said : (w.run (pass driver (provision config) claim)).1.conclusion = .ok .rescheduled :=
      Ledger.conclusion_of_note fun _ => rescheduled
    refine ⟨finished.rescheduled said, settled_of_gate ?_ _⟩
    exact Pass.gate_of_noNode claim.annotated?_withoutNode

end World

namespace Sample

/-- A world in which a claim is to be provisioned with one of the given classes. -/
def offering (classes : String) : World where
  cluster := ((zones.addStorageClass (hybridClass "hybrid" classes)).addNode
    (node "near" [(zoneLabel, "a")])).addClaim placedClaim

/-- What comes of reconciling the claim there. -/
def reconciledOffering (classes : String) : Reconciled :=
  (offering classes).reconcile (.handingOver defaultDriverName {} {}) placedClaim

end Sample

/-- With a class for the selected node the claim is provisioned, with a class for another node only
it is given back; either way the next pass does nothing. -/
theorem sample_finished :
    ((Sample.reconciledOffering "here,there").outcome = .ok (.provisioned "pv-pvc-u") ∧
      ∃ bound, (Sample.reconciledOffering "here,there").world.cluster.claim? "apps/data" =
        some bound ∧ bound.volumeName? = some "pv-pvc-u" ∧
        (Sample.reconciledOffering "here,there").world.Settled
          (Sample.reconciledOffering "here,there").reconciler bound) ∧
    ((Sample.reconciledOffering "there").outcome = .ok .rescheduled ∧
      (Sample.reconciledOffering "there").world.cluster.claim? "apps/data" =
        some { Sample.placedClaim with metadata := { Sample.placedClaim.metadata with
          annotations := some .empty } }) := by
  have key : Sample.placedClaim.key = "apps/data" := by decide +kernel
  have provisions : (Sample.reconciledOffering "here,there").outcome =
      .ok (.provisioned "pv-pvc-u") := by decide +kernel
  have reschedules : (Sample.reconciledOffering "there").outcome = .ok .rescheduled := by
    decide +kernel
  have finished (classes : String)
      (stored : (Sample.offering classes).cluster.claim? Sample.placedClaim.key =
        some Sample.placedClaim) :=
    World.reconcile_finished (w := Sample.offering classes) defaultDriverName {} {} rfl
      (Cluster.named_of_entries fun e he => absurd he List.not_mem_nil) stored
  obtain ⟨-, -, bound, found, names, settled⟩ :=
    (finished "here,there" (by decide +kernel)).1 "pv-pvc-u" provisions
  obtain ⟨back, -⟩ := (finished "there" (by decide +kernel)).2 reschedules
  rw [key] at found back
  exact ⟨⟨provisions, bound, found, names, settled⟩, reschedules, back⟩

end VolumeHandover
