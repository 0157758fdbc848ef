import VolumeHandover.Proofs.AbandonedHandover
import VolumeHandover.Proofs.Ledgers
import VolumeHandover.Proofs.ProvisionScope

set_option autoImplicit false

/-! # The scope of a pass

A pass over a claim keeps to the claim, its proxy claim, its placeholder pod and the volume that is
handed over (`Claim.scope`). Whether it calls the provisioner depends on the claim, its class and
the selected node (`Pass.Due`); if it does not, it does nothing at all
(`World.reconcile_keeps_to_scope`).

All this is about a cluster in which volumes go by the names under which they are filed, and so does
the proxy claim if there is one. A proxy claim that goes by the name of another claim is patched and
deleted by that name, and the other claim is lost (`sample_stranger_deleted`).
-/

namespace VolumeHandover

variable {driver : String} {config : Config} {claim : Claim} {options : ProvisionOptions}

/-! ## Scopes -/

/-- The name of the proxy claim for a claim. -/
def Claim.proxyName (claim : Claim) : String := "pvc-" ++ claim.metadata.uid.getD ""

/-- The volume that is to be taken from a proxy claim: the one that it is bound to or, if there is
none yet, the one that the backend makes as soon as it is created. -/
def Cluster.ProxyVolume (s : Cluster) (space proxyName volume : String) : Prop :=
  match s.claim? (keyIn space proxyName) with
  | some proxy => proxy.isBound = true ∧ proxy.volumeName? = some volume
  | none => s.switches.bindOnCreate = true ∧ volume = "pv-" ++ proxyName

/-- What a pass over a claim may change in a cluster. -/
def Claim.scope (claim : Claim) (s : Cluster) : Scope where
  claims key := key = claim.key ∨ key = claim.proxyKey
  pods key := key = keyIn claim.spaceName (placeholderName claim.proxyName)
  volumes name := s.ProxyVolume claim.spaceName claim.proxyName name

/-! ## Whether to provision -/

namespace Pass

/-- The claim is to be provisioned by a driver, with these options: it is neither bound nor being
deleted, its class is one of the driver, a node has been selected that exists, and it has a uid. -/
structure Due (driver : String) (s : Cluster) (claim : Claim) (options : ProvisionOptions) :
    Prop where
  unbound : claim.volumeName? = none
  live : claim.metadata.deletionTimestamp = none
  storageClass : ∃ name c, className? claim = some name ∧
    s.find (.storageClass name) = some c ∧ c.provisioner = driver ∧ options.storageClass = some c
  selectedNode : ∃ name node, claim.annotated? selectedNodeKey = some name ∧
    s.find (.node name) = some node ∧ options.selectedNode = some node
  volumeName : ∃ uid, claim.metadata.uid = some uid ∧ options.volumeName = "pvc-" ++ uid
  claim : options.claim = claim

/-- The result of the gate says whether the claim is to be provisioned, and how. -/
inductive Judged (driver : String) (s : Cluster) (claim : Claim) :
    Except Report ProvisionOptions → Prop
  | due {options : ProvisionOptions} (due : Due driver s claim options) :
      Judged driver s claim (.ok options)
  | early {report : Report} (never : ∀ options, ¬ Due driver s claim options) :
      Judged driver s claim (.error report)

theorem Due.proxyName {s : Cluster} (due : Due driver s claim options) :
    options.volumeName = claim.proxyName := by
  obtain ⟨uid, hu, name⟩ := due.volumeName
  rw [name, Claim.proxyName, hu]
  rfl

theorem Due.class_found {s : Cluster} {name : String} (due : Due driver s claim options)
    (className : className? claim = some name) :
    ∃ c, s.find (.storageClass name) = some c ∧ c.provisioner = driver := by
  obtain ⟨name', c, named, found, provisioner, -⟩ := due.storageClass
  cases className.symm.trans named
  exact ⟨c, found, provisioner⟩

theorem Due.node_found {s : Cluster} {name : String} (due : Due driver s claim options)
    (placed : claim.annotated? selectedNodeKey = some name) :
    ∃ node, s.find (.node name) = some node := by
  obtain ⟨name', node, named, found, -⟩ := due.selectedNode
  cases placed.symm.trans named
  exact ⟨node, found⟩

theorem Due.unique {s : Cluster} {options' : ProvisionOptions} (due : Due driver s claim options)
    (due' : Due driver s claim options') : options' = options := by
  have storageClass : options'.storageClass = options.storageClass := by
    obtain ⟨name, c, named, found, -, wanted⟩ := due.storageClass
    obtain ⟨name', c', named', found', -, wanted'⟩ := due'.storageClass
    cases named.symm.trans named'
    rw [wanted, wanted', ← found, ← found']
  have selectedNode : options'.selectedNode = options.selectedNode := by
    obtain ⟨name, node, named, found, wanted⟩ := due.selectedNode
    obtain ⟨name', node', named', found', wanted'⟩ := due'.selectedNode
    cases named.symm.trans named'
    rw [wanted, wanted', ← found, ← found']
  have volumeName := due'.proxyName.trans due.proxyName.symm
  have claimed := due'.claim.trans due.claim.symm
  cases options
  cases options'
  cases storageClass
  cases selectedNode
  cases volumeName
  cases claimed
  rfl

/-- The gate judges by the claim, its class and the selected node. -/
theorem gate_local {scope : Scope} {pre : Cluster → Prop} :
    Local scope pre (gate driver claim).run
      fun result s => Judged driver s claim result ∧ pre s := by
  -- the cases follow the checks of the gate; at each of them the claim may be turned away, and
  -- then it is not due because of just what is checked there
  by_cases bound : claim.volumeName?.isSome = true
  · rw [gate_of_bound bound]
    refine .done fun s hs => ⟨.early fun options due => ?_, hs⟩
    rw [due.unbound] at bound
    cases bound
  unfold gate
  rw [if_neg bound]
  by_cases deleted : claim.metadata.deletionTimestamp.isSome = true
  · dsimp only
    rw [if_pos deleted]
    refine .done fun s hs => ⟨.early fun options due => ?_, hs⟩
    rw [due.live] at deleted
    cases deleted
  dsimp only
  rw [if_neg deleted]
  cases className : className? claim with
  | none =>
      refine .done fun s hs => ⟨.early fun options due => ?_, hs⟩
      obtain ⟨name, c, named, -⟩ := due.storageClass
      cases className.symm.trans named
  | some name =>
      refine Local.decide_lookup (fun _ _ => Lookup.noConfusion) fun shown => ?_
      cases shown with
      | none =>
          refine .done fun s hs => ⟨.early fun options due => ?_, hs.2⟩
          obtain ⟨c, found, -⟩ := due.class_found className
          cases hs.1.trans found
      | some c =>
          dsimp only
          by_cases other : c.provisioner ≠ driver
          · rw [if_pos other]
            refine .done fun s hs => ⟨.early fun options due => ?_, hs.2⟩
            obtain ⟨c', found, provisioner⟩ := due.class_found className
            cases hs.1.trans found
            exact other provisioner
          rw [if_neg other]
          cases placed : claim.annotated? selectedNodeKey with
          | none =>
              refine .done fun s hs => ⟨.early fun options due => ?_, hs.2⟩
              obtain ⟨name, node, named, -⟩ := due.selectedNode
              cases placed.symm.trans named
          | some nodeName =>
              refine Local.decide_lookup (fun _ _ => Lookup.noConfusion) fun shown => ?_
              cases shown with
              | none =>
                  refine .done fun s hs => ⟨.early fun options due => ?_, hs.2.2⟩
                  obtain ⟨node, found⟩ := due.node_found placed
                  cases hs.1.trans found
              | some node =>
                  dsimp only
                  unfold volumeNameFor
                  cases uid : claim.metadata.uid with
                  | none =>
                      refine .done fun s hs => ⟨.early fun options due => ?_, hs.2.2⟩
                      obtain ⟨u, named, -⟩ := due.volumeName
                      cases uid.symm.trans named
                  | some u =>
                      exact .done fun s hs => ⟨.due {
                        unbound := Option.not_isSome_iff_eq_none.mp bound
                        live := Option.not_isSome_iff_eq_none.mp deleted
                        storageClass :=
                          ⟨name, c, className, hs.2.1.symm, Decidable.not_not.mp other, rfl⟩
                        selectedNode := ⟨nodeName, node, placed, hs.1.symm, rfl⟩
                        volumeName := ⟨u, uid, rfl⟩
                        claim := rfl }, hs.2.2⟩

/-- The gate makes no calls, and a claim that it turns away counts as no attempt. -/
theorem gate_looksUp : (gate driver claim).run.LooksUp fun result =>
    ∀ report, result = .error report → report.attempt = none := by
  refine gate_screened.mono fun result screened report same => ?_
  rw [same] at screened
  cases screened <;> rfl

/-! ## A pass -/

/-- What a pass does if the claim is to be provisioned. -/
def attempt (provisioner : Provisioner) (claim : Claim) (options : ProvisionOptions) :
    Program Report :=
  .ask .clock fun started => provisioner options >>= fun result => .ask .clock fun ended =>
    conclude claim result (.ofMillis (ended - started))

theorem pass_eq (provisioner : Provisioner) :
    pass driver provisioner claim = (gate driver claim).run >>= fun
      | .error report => .done report
      | .ok options => attempt provisioner claim options := rfl

theorem conclude_local {scope : Scope} {pre : Cluster → Prop} {result : Except Failure Volume}
    {elapsed : Duration} (within : scope.claims claim.key)
    (named : ∀ volume, result = .ok volume → scope.volumes volume.anyName) :
    Local scope pre (conclude claim result elapsed) fun _ _ => True := by
  unfold conclude
  cases result with
  | ok volume =>
      have create : Local scope pre (.call (.createVolume volume)) fun _ _ => True :=
        Local.call (fun _ _ => named volume rfl) (fun _ _ => ApiCall.noConfusion)
          (fun _ _ => trivial) fun _ _ _ => trivial
      refine create.bind fun answer => ?_
      cases answer with
      | ok _ => exact .done fun _ _ => trivial
      | error e =>
          dsimp only
          split <;> exact .done fun _ _ => trivial
  | error failure =>
      dsimp only
      cases failure.disposition with
      | finished | inBackground => exact .done fun _ _ => trivial
      | reschedule =>
          have patch : Local scope pre
              (.call (.patchClaim claim.spaceName claim.anyName Patch.clearSelectedNode))
              fun _ _ => True :=
            Local.call (fun _ _ => within) (fun _ _ => ApiCall.noConfusion)
              (fun _ _ => trivial) fun _ _ _ => trivial
          refine patch.bind fun answer => ?_
          cases answer with
          | ok _ => exact .done fun _ _ => trivial
          | error e => exact .done fun _ _ => trivial

variable {s : Cluster}

theorem Due.covers (due : Due driver s claim options) : (claim.scope s).Covers options := by
  have key : options.proxyKey = claim.proxyKey := by
    rw [ProvisionOptions.proxyKey, due.claim, due.proxyName]
    rfl
  refine ⟨.inl (congrArg Claim.key due.claim), .inr key, ?_⟩
  rw [due.claim, due.proxyName]
  rfl

theorem Due.ready (due : Due driver s claim options) (tidy : s.Tidy claim.proxyKey) :
    s.Ready (claim.scope s) options := by
  have name := due.proxyName
  have key : options.proxyKey = claim.proxyKey := by
    rw [ProvisionOptions.proxyKey, due.claim, name]
    rfl
  refine ⟨tidy.volumes, fun proxy stored bound => ?_, fun absent binds => ?_⟩
  · rw [key] at stored
    refine ⟨(tidy.claim proxy stored).trans key.symm, fun volume named => ?_⟩
    show s.ProxyVolume claim.spaceName claim.proxyName volume
    unfold Cluster.ProxyVolume
    rw [show s.claim? (keyIn claim.spaceName claim.proxyName) = some proxy from stored]
    exact ⟨bound, named⟩
  · rw [key] at absent
    show s.ProxyVolume claim.spaceName claim.proxyName _
    unfold Cluster.ProxyVolume
    rw [show s.claim? (keyIn claim.spaceName claim.proxyName) = none from absent]
    exact ⟨binds, name ▸ rfl⟩

theorem attempt_local (due : Due driver s claim options) (tidy : s.Tidy claim.proxyKey) :
    Local (claim.scope s) (· = s) (attempt (provision config) claim options) fun _ _ => True := by
  have provisions : Local (claim.scope s) (· = s) (provision config options) fun result _ =>
      (∀ volume, result = .ok volume → (claim.scope s).volumes volume.anyName) ∧ True := by
    refine (provision_local due.covers).weaken (fun s' same => ?_) fun _ _ named => ⟨named, trivial⟩
    rw [same]
    exact due.ready tidy
  exact Local.timed provisions fun result duration =>
    Local.given fun named => conclude_local (.inl rfl) named

/-- **A pass keeps to the scope of its claim**: it comes to the same where the same is found there,
and changes nothing else. -/
theorem pass_local (tidy : s.Tidy claim.proxyKey) :
    Local (claim.scope s) (· = s) (pass driver (provision config) claim) fun _ _ => True := by
  rw [pass_eq]
  refine gate_local.bind fun result => ?_
  cases result with
  | error report => exact .done fun _ _ => trivial
  | ok options =>
      have turn : Local (claim.scope s) (fun s' => Due driver s claim options ∧ s' = s)
          (attempt (provision config) claim options) fun _ _ => True :=
        Local.given fun due => attempt_local due tidy
      refine turn.weaken (fun s' h => ?_) fun _ _ h => h
      obtain ⟨judged, rfl⟩ := h
      cases judged with
      | due due => exact ⟨due, rfl⟩

end Pass

/-! ## Calling the provisioner -/

/-- A run that only looks things up leaves nothing behind but its requests. -/
theorem World.run_looksUp {α : Type} {p : Program α} {post : α → Prop} (looks : p.LooksUp post)
    (w : World) : ∃ looked, (∀ x ∈ looked, ∃ l, x.2 = .find l) ∧
      (w.run p).2 = { w with requests := w.requests ++ looked } ∧ post (w.run p).1 := by
  induction p generalizing w with
  | done a =>
      have result := (looks [] (some a) (.finished a)).2 a rfl
      refine ⟨[], fun x hx => absurd hx List.not_mem_nil, ?_, result⟩
      rw [List.append_nil]
      rfl
  | ask r next ih =>
      -- a run may be cut short after its first request, which has to be a look-up for this
      have first := (looks [⟨r, (World.answer r w).1⟩] none (.asked (.cut _))).1 _
        List.mem_cons_self
      cases r with
      | find l =>
          have further : (next (w.find l)).LooksUp post := by
            intro h o run
            obtain ⟨all, result⟩ := looks (⟨.find l, w.find l⟩ :: h) o (.asked run)
            exact ⟨fun x hx => all x (.tail _ hx), result⟩
          obtain ⟨looked, finds, after, result⟩ := ih (w.find l) further (w.noted (.find l))
          refine ⟨(w.now, .find l) :: looked, fun x hx => ?_, ?_, result⟩
          · rcases List.mem_cons.mp hx with rfl | hx
            · exact ⟨l, rfl⟩
            · exact finds x hx
          · have appended : (w.noted (.find l)).requests ++ looked =
                w.requests ++ (w.now, .find l) :: looked := List.append_assoc ..
            rw [appended] at after
            exact after
      | call | awaitBound | pause | clock | delegate => cases first

namespace World

/-- A pass over a claim calls its provisioner with these options: whichever provisioner it has, it
is an attempt with them, before which nothing happens to the cluster. -/
def CallsProvision (w : World) (driver : String) (claim : Claim) (options : ProvisionOptions) :
    Prop :=
  ∃ w' : World, w'.cluster = w.cluster ∧ ∀ provisioner,
    w.run (pass driver provisioner claim) = w'.run (Pass.attempt provisioner claim options)

variable {w : World}

/-- What comes of the gate in a world. -/
theorem run_gate (driver : String) (claim : Claim) (alone : w.agenda = []) :
    ∃ looked, (∀ x ∈ looked, ∃ l, x.2 = .find l) ∧
      (w.run (Pass.gate driver claim).run).2 = { w with requests := w.requests ++ looked } ∧
      Pass.Judged driver w.cluster claim (w.run (Pass.gate driver claim).run).1 ∧
      ∀ report, (w.run (Pass.gate driver claim).run).1 = .error report → report.attempt = none := by
  obtain ⟨looked, finds, after, uncounted⟩ := w.run_looksUp Pass.gate_looksUp
  have gated : Local (claim.scope w.cluster) (fun _ => True) (Pass.gate driver claim).run
      fun result s => Pass.Judged driver s claim result ∧ True := Pass.gate_local
  have judged := (gated (.refl alone) trivial).post.1
  rw [after] at judged
  exact ⟨looked, finds, after, judged, uncounted⟩

/-- A pass over a claim calls its provisioner if, and only if, the claim is to be provisioned, and
as it is to be. -/
theorem callsProvision_iff (alone : w.agenda = []) :
    w.CallsProvision driver claim options ↔ Pass.Due driver w.cluster claim options := by
  obtain ⟨looked, -, after, judged, uncounted⟩ := run_gate driver claim alone
  have passes (provisioner : Provisioner) :
      w.run (pass driver provisioner claim) = (w.run (Pass.gate driver claim).run).2.run
        (match (w.run (Pass.gate driver claim).run).1 with
          | .error report => .done report
          | .ok options => Pass.attempt provisioner claim options) := by
    rw [Pass.pass_eq, run_bind]
  constructor
  · rintro ⟨w', -, same⟩
    -- a provisioner that fails in one way if it is called with these options, and else in another
    let tell : Provisioner := fun o =>
      .done (.error ⟨if o = options then .finished else .inBackground, .missingStorageClass⟩)
    have told (w : World) (o : ProvisionOptions) :
        (w.run (Pass.attempt tell claim o)).1.attempt.map (·.1) =
          some (if o = options then .failed else .inBackground) := by
      unfold Pass.attempt
      by_cases equal : o = options
      · simp only [tell, if_pos equal]
        rfl
      · simp only [tell, if_neg equal]
        rfl
    have heard := told w' options
    rw [← same tell, passes tell, if_pos rfl] at heard
    cases result : (w.run (Pass.gate driver claim).run).1 with
    | error report =>
        rw [result] at heard
        rw [show (World.run _ (.done report)).1 = report from rfl, uncounted report result] at heard
        cases heard
    | ok options' =>
        rw [result] at heard judged
        cases judged with
        | due due =>
            have heard' := (told _ _).symm.trans heard
            by_cases equal : options' = options
            · exact equal ▸ due
            · rw [if_neg equal] at heard'
              cases heard'
  · intro due
    refine ⟨(w.run (Pass.gate driver claim).run).2, by rw [after], fun provisioner => ?_⟩
    rw [passes]
    cases result : (w.run (Pass.gate driver claim).run).1 with
    | error report =>
        rw [result] at judged
        cases judged with
        | early never => exact absurd due (never options)
    | ok options' =>
        rw [result] at judged
        cases judged with
        | due due' => rw [due.unique due']

end World

/-! ## Reconciling -/

/-- A reconciler that provisions claims by handing volumes over. -/
def Reconciler.handingOver (driver : String) (config : Config) (ledger : Ledger) : Reconciler where
  driverName := driver
  provisioner := provision config
  ledger := ledger

/-- What comes of reconciling a claim. -/
structure Reconciled where
  outcome : Except Error Outcome
  reconciler : Reconciler
  world : World

/-- Reconcile a claim: make a pass over it and note the report. -/
def World.reconcile (w : World) (r : Reconciler) (claim : Claim) : Reconciled :=
  let (report, world) := w.run (r.pass claim)
  let (outcome, reconciler) := r.note claim report
  { outcome, reconciler, world }

/-- A report without an attempt leaves the metrics as they are. -/
theorem Ledger.metrics_note {report : Report} (l : Ledger) (claim : Claim)
    (uncounted : report.attempt = none) : (l.note claim report).2.metrics = l.metrics := by
  rw [note_metrics, uncounted]
  rfl

namespace World

variable {w : World} {ledger : Ledger}

/-- A pass that does not call the provisioner only looks things up. -/
theorem reconcile_idle (alone : w.agenda = [])
    (idle : ∀ options, ¬ w.CallsProvision driver claim options) :
    let after := w.reconcile (.handingOver driver config ledger) claim
    after.world.cluster = w.cluster ∧ after.reconciler.ledger.metrics = ledger.metrics ∧
      ∃ looked, after.world.requests = w.requests ++ looked ∧
        ∀ x ∈ looked, ∃ l, x.2 = .find l := by
  obtain ⟨looked, finds, after, judged, uncounted⟩ := run_gate driver claim alone
  cases result : (w.run (Pass.gate driver claim).run).1 with
  | ok options =>
      rw [result] at judged
      cases judged with
      | due due => exact absurd ((callsProvision_iff alone).mpr due) (idle options)
  | error report =>
      have run : w.run (pass driver (provision config) claim) =
          (report, { w with requests := w.requests ++ looked }) := by
        rw [Pass.pass_eq, run_bind, result, after]
        rfl
      have reconciled : w.reconcile (.handingOver driver config ledger) claim =
          { outcome := (ledger.note claim report).1
            reconciler := .handingOver driver config (ledger.note claim report).2
            world := { w with requests := w.requests ++ looked } } := by
        unfold reconcile
        rw [show w.run ((Reconciler.handingOver driver config ledger).pass claim) = _ from run]
        rfl
      rw [reconciled]
      exact ⟨rfl, ledger.metrics_note claim (uncounted report result), looked, rfl, finds⟩

/-- **A pass touches only what is its claim's own.** It calls the provisioner if, and only if, the
claim is to be provisioned; if it does not, it makes no call and changes nothing; and whatever comes
of it, nothing changes outside of the scope of the claim. -/
theorem reconcile_keeps_to_scope (driver : String) (config : Config) (ledger : Ledger)
    (alone : w.agenda = []) (tidy : w.cluster.Tidy claim.proxyKey) :
    (∀ options, w.CallsProvision driver claim options ↔
      Pass.Due driver w.cluster claim options) ∧
    let after := w.reconcile (.handingOver driver config ledger) claim
    ((∀ options, ¬ w.CallsProvision driver claim options) →
      after.world.cluster = w.cluster ∧ after.reconciler.ledger.metrics = ledger.metrics ∧
        ∃ looked, after.world.requests = w.requests ++ looked ∧
          ∀ x ∈ looked, ∃ l, x.2 = .find l) ∧
    w.cluster.ChangesOnly (claim.scope w.cluster) after.world.cluster := by
  refine ⟨fun options => callsProvision_iff alone, reconcile_idle alone, ?_⟩
  have passed : RunAlike (claim.scope w.cluster) (pass driver (provision config) claim)
      (fun _ _ => True) w w := Pass.pass_local tidy (.refl alone) rfl
  exact passed.changes.cluster

end World

namespace Sample

/-- A cluster in which a claim is to be provisioned whose proxy claim has got its volume already,
beside a claim of another namespace that is bound to a volume of its own. -/
def inUse : World where
  cluster :=
    let asked := ((zones.addStorageClass (hybridClass "hybrid" "here,there")).addNode
      (node "near" [(zoneLabel, "a")])).addClaim placedClaim
    let proxied := (asked.addClaim (Sample.claim "apps" "pvc-u" "p" "here")).bindClaim "apps/pvc-u"
    (proxied.addClaim (Sample.claim "team" "data" "v" "here")).bindClaim "team/data"

end Sample

/-- The pass hands the volume of the proxy claim over, and the other claim keeps its own. -/
theorem sample_reconcile_in_scope :
    let after := Sample.inUse.reconcile (.handingOver defaultDriverName {} {}) Sample.placedClaim
    (∃ options, Sample.inUse.CallsProvision defaultDriverName Sample.placedClaim options ∧
      options.volumeName = "pvc-u") ∧
    after.outcome.toOption = some (.provisioned "pv-pvc-u") ∧
    Sample.inUse.cluster.ChangesOnly (Sample.placedClaim.scope Sample.inUse.cluster)
      after.world.cluster ∧
    (Sample.inUse.cluster.volume? "pv-data").isSome = true ∧
    after.world.cluster.volume? "pv-data" = Sample.inUse.cluster.volume? "pv-data" ∧
    after.world.cluster.claim? "team/data" = Sample.inUse.cluster.claim? "team/data" := by
  have proxied : (Sample.inUse.cluster.claim? "apps/pvc-u").map
      (fun claim => (claim.key, claim.volumeName?)) = some ("apps/pvc-u", some "pv-pvc-u") := by
    decide +kernel
  obtain ⟨proxy, stored, names⟩ := Option.map_eq_some_iff.mp proxied
  obtain ⟨key, named⟩ := Prod.mk.inj names
  have tidy : Sample.inUse.cluster.Tidy Sample.placedClaim.proxyKey := by
    refine ⟨Cluster.named_of_entries (by decide +kernel), fun claim found => ?_⟩
    cases stored.symm.trans found
    exact key
  obtain ⟨calls, -, keeps⟩ :=
    World.reconcile_keeps_to_scope defaultDriverName {} {} rfl tidy
  let options : ProvisionOptions := {
    volumeName := "pvc-u"
    claim := Sample.placedClaim
    storageClass := some (Sample.hybridClass "hybrid" "here,there")
    selectedNode := some (Sample.node "near" [(zoneLabel, "a")]) }
  have due : Pass.Due defaultDriverName Sample.inUse.cluster Sample.placedClaim options := {
    unbound := by decide +kernel
    live := by decide +kernel
    storageClass := ⟨"hybrid", Sample.hybridClass "hybrid" "here,there", by decide +kernel,
      by decide +kernel, by decide +kernel, rfl⟩
    selectedNode := ⟨"near", Sample.node "near" [(zoneLabel, "a")], by decide +kernel,
      by decide +kernel, rfl⟩
    volumeName := ⟨"u", by decide +kernel, by decide +kernel⟩
    claim := rfl }
  refine ⟨⟨options, (calls options).mpr due, rfl⟩, by decide +kernel, keeps, by decide +kernel,
    keeps.objects.volumes "pv-data" ?_, keeps.objects.claims "team/data" ?_⟩
  -- the volume in the scope is that of the proxy claim
  · intro (mine : Sample.inUse.cluster.ProxyVolume "apps" "pvc-u" "pv-data")
    unfold Cluster.ProxyVolume at mine
    rw [show Sample.inUse.cluster.claim? (keyIn "apps" "pvc-u") = some proxy from stored] at mine
    exact absurd (Option.some.inj (mine.2.symm.trans named)) (by decide)
  · show ¬ ("team/data" = Sample.placedClaim.key ∨ "team/data" = Sample.placedClaim.proxyKey)
    decide +kernel

namespace Sample

/-- A cluster in which a claim is to be provisioned whose proxy claim goes by the name of another
claim, `apps/victim`. -/
def shadowed : World where
  cluster := ((misnamed.addStorageClass (hybridClass "hybrid" "here,there")).addNode
    (node "near" [(zoneLabel, "a")])).addClaim placedClaim

end Sample

/-- If a proxy claim goes by the name of another claim, a pass deletes that claim, although it is
not in the scope of the pass. -/
theorem sample_stranger_deleted :
    Sample.shadowed.agenda = [] ∧ Sample.shadowed.cluster.Named ∧
    ¬ (Sample.placedClaim.scope Sample.shadowed.cluster).claims "apps/victim" ∧
    (Sample.shadowed.cluster.claim? "apps/victim").isSome = true ∧
    ((Sample.shadowed.reconcile (.handingOver defaultDriverName {} {})
      Sample.placedClaim).world.cluster.claim? "apps/victim").isSome = false := by
  refine ⟨rfl, Cluster.named_of_entries (by decide +kernel), ?_, by decide +kernel,
    by decide +kernel⟩
  show ¬ ("apps/victim" = Sample.placedClaim.key ∨ "apps/victim" = Sample.placedClaim.proxyKey)
  decide +kernel

end VolumeHandover
