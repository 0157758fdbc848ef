import VolumeHandover.Proofs.CompleteHandover
import VolumeHandover.Proofs.Passes

set_option autoImplicit false

/-! # Handovers that are abandoned

Passes over one claim follow each other, each over the claim as it is stored then. A pass that has
bound the claim is the last one that does anything: the passes after it find the claim bound and
leave it alone. So a pass that fails between the patch that binds the claim and the last patch of
the volume leaves a volume that never gets its final form (`final_form_of_visits`).
-/

namespace VolumeHandover

open Provision

/-! ## Passes over a claim -/

/-- The key of the proxy claim for a claim. -/
def Claim.proxyKey (claim : Claim) : String :=
  keyIn claim.spaceName ("pvc-" ++ claim.metadata.uid.getD "")

/-- A pass over a claim, as it went. -/
structure Visit where
  claim : Claim
  occurrences : List Occurrence
  report : Report

namespace Visit

/-- The exchanges of a pass. -/
def exchanges (visit : Visit) : List Exchange := visit.occurrences.map (·.exchange)

/-- The class that a pass has selected for its claim. -/
def Selects (visit : Visit) (c : StorageClass) : Prop :=
  ∃ options h₀ h₁ h₂, visit.exchanges = h₀ ++ (h₁ ++ h₂) ∧ options.claim = visit.claim ∧
    Selected options h₁ c

/-- Whether another attempt is to go on from what a pass has left behind. -/
def Continues (visit : Visit) : Prop := visit.report.conclusion = .ok .continueLater

/-- A pass has left its claim alone because that is bound. -/
def FindsBound (visit : Visit) : Prop := visit.report.conclusion = .ok (.ignored .bound)

end Visit

/-- Passes over the claim under a key, one after the other, and what others do in between. -/
inductive Visits (others : Cluster → Cluster → Prop) (driver : String) (config : Config)
    (key : String) : Cluster → List Visit → Cluster → Prop
  | done (s : Cluster) : Visits others driver config key s [] s
  | acted {s s' s'' : Cluster} {visits : List Visit} (act : others s s')
      (rest : Visits others driver config key s' visits s'') :
      Visits others driver config key s visits s''
  | visited {s s' s'' : Cluster} {visit : Visit} {visits : List Visit}
      (stored : s.claim? key = some visit.claim)
      (history : History others s visit.occurrences s')
      (run : (pass driver (provision config) visit.claim).Traces visit.exchanges
        (some visit.report))
      (rest : Visits others driver config key s' visits s'') :
      Visits others driver config key s (visit :: visits) s''

/-! ## One pass -/

/-- The final form of a volume for a claim: there is nothing left to be settled. -/
def Volume.Settled (config : Config) (claim : Claim) (c : StorageClass) (volume : Volume) : Prop :=
  volume.withSpec (VolumeSpec.settled config claim c) = volume

namespace Visits

variable {config : Config} {driver key proxyKey : String} {s s' : Cluster} {claim : Claim}

/-- A claim that names no volume yet, with the proxy claim of a key. -/
structure Awaiting (key proxyKey : String) (claim : Claim) : Prop where
  key : claim.key = key
  proxyKey : claim.proxyKey = proxyKey
  unbound : claim.volumeName? = none

/-- The assertion that the claim under a key is as given. -/
def holding (distinct : key ≠ proxyKey) (claim : Claim) : Assertion (completing proxyKey) where
  holds s := s.Tidy proxyKey ∧ s.claim? key = some claim
  stable _ _ act h := ⟨(act.step claim h.1).1, (act.claims distinct).trans h.2⟩

/-- The assertion that the claim under a key does not name a volume yet. -/
def awaiting (distinct : key ≠ proxyKey) : Assertion (completing proxyKey) where
  holds s := s.Tidy proxyKey ∧ ∃ claim, s.claim? key = some claim ∧ Awaiting key proxyKey claim
  stable _ _ act h := by
    obtain ⟨tidy, claim, stored, waits⟩ := h
    exact ⟨(act.step claim tidy).1, claim, (act.claims distinct).trans stored, waits⟩

/-- A pass has bound the claim under a key, with a class and a volume. -/
structure Bound (config : Config) (key proxyKey : String) (visit : Visit) (c : StorageClass)
    (volume : Volume) (s : Cluster) : Prop where
  selects : visit.Selects c
  proxy : s.claim? proxyKey = none
  claim : s.claim? key = some (visit.claim.boundTo c.provisioner volume.anyName)
  stored : s.volume? volume.anyName = some volume
  named : volume.anyName ≠ ""
  settled : volume.Settled config visit.claim c ↔ ¬ visit.Continues
  ignores : ¬ visit.FindsBound

/-- What a pass leaves behind over a claim that names no volume: this is still so, or the pass has
bound the claim. -/
inductive Aftermath (config : Config) (key proxyKey : String) (visit : Visit) (s : Cluster) : Prop
  | waiting {claim : Claim} (tidy : s.Tidy proxyKey) (stored : s.claim? key = some claim)
      (waits : Awaiting key proxyKey claim) (ignores : ¬ visit.FindsBound)
  | bound {c : StorageClass} {volume : Volume}
      (bound : Bound config key proxyKey visit c volume s)

/-- What the report says of a pass that has tried to provision a claim. -/
structure Reports (continues : Prop) (report : Report) : Prop where
  continues : report.conclusion = .ok .continueLater ↔ continues
  ignores : report.conclusion ≠ .ok (.ignored .bound)

/-! ### The end of a pass -/

variable {distinct : key ≠ proxyKey} {duration : Duration}

theorem answers_clearSelectedNode (waits : Awaiting key proxyKey claim) :
    Answers (holding distinct claim)
      (.call (.patchClaim claim.spaceName claim.anyName Patch.clearSelectedNode))
      fun _ => awaiting distinct := by
  intro s answer s' ⟨tidy, stored⟩ serves candid
  refine ⟨trivial, ?_⟩
  cases answer with
  | error e =>
      have same := candid.error_objects
      exact ⟨tidy.of_same (Cluster.claim_of_objects same _) (congrArg (·.volumes) same), claim,
        (Cluster.claim_of_objects same _).trans stored, waits⟩
  | ok new =>
      have named : keyIn claim.spaceName claim.anyName = key := waits.key
      obtain ⟨old, found, result, rfl⟩ := Cluster.patchClaim_ok serves.call_eq
      rw [named, stored] at found
      rw [← Option.some.inj found, claim.patched_clearSelectedNode] at result
      obtain rfl := Except.ok.inj result
      rw [named]
      exact ⟨tidy.of_same (Table.get?_insert_of_ne _ distinct.symm) rfl, _,
        Table.get?_insert_self _, waits.key, waits.proxyKey, waits.unbound⟩

/-- After a failure before the handover the claim waits for another pass. -/
theorem conclude_early {f : Failure} (early : f.disposition ≠ .inBackground)
    (waits : Awaiting key proxyKey claim) :
    Triple (holding distinct claim) (Pass.conclude claim (.error f) duration) fun report =>
      .given (Reports False report) (awaiting distinct) := by
  have kept (s : Cluster) (h : s.Tidy proxyKey ∧ s.claim? key = some claim) :
      s.Tidy proxyKey ∧ ∃ claim, s.claim? key = some claim ∧ Awaiting key proxyKey claim :=
    ⟨h.1, claim, h.2, waits⟩
  unfold Pass.conclude
  dsimp only
  -- only a failure in the background asks for another attempt
  cases hf : f.disposition with
  | inBackground => exact absurd hf early
  | finished => exact .done _ fun s h => ⟨⟨by simp, nofun⟩, kept s h⟩
  | reschedule =>
      refine Triple.ask (answers_clearSelectedNode waits) fun answer => ?_
      cases answer with
      | ok claim => exact .done _ fun s h => ⟨⟨by simp, nofun⟩, h⟩
      | error e => exact .done _ fun s h => ⟨⟨by simp, nofun⟩, h⟩

/-- A volume that has been handed over is not created. -/
theorem answers_createVolume {o : Handover} {change : VolumeSpec → VolumeSpec} {volume : Volume} :
    Answers (o.complete change volume) (.call (.createVolume (adopted volume)))
      fun _ => o.complete change volume := by
  intro s answer s' hs serves candid
  refine ⟨trivial, ?_⟩
  cases answer with
  | error e => exact Handover.Complete.ofObjects s s' candid.error_objects hs
  | ok new =>
      -- the volume is there under its name, so that it cannot have been created
      have call : s.createVolume (adopted volume) = (.ok new, s') := serves.call_eq
      unfold Cluster.createVolume at call
      dsimp only at call
      rw [if_pos] at call
      · cases (Prod.mk.inj call).1
      · exact Option.isSome_iff_exists.mpr ⟨volume, hs.2.stored⟩

theorem conclude_ok {o : Handover} {change : VolumeSpec → VolumeSpec} {volume : Volume} :
    Triple (o.complete change volume) (Pass.conclude claim (.ok (adopted volume)) duration)
      fun report => .given (Reports False report) (o.complete change volume) := by
  unfold Pass.conclude
  refine Triple.ask answers_createVolume fun answer => ?_
  cases answer with
  | ok new => exact .done _ fun s h => ⟨⟨by simp, nofun⟩, h⟩
  | error e =>
      dsimp only [Program.bind]
      by_cases there : e.isAlreadyExists = true
      · rw [if_pos there]
        exact .done _ fun s h => ⟨⟨by simp, nofun⟩, h⟩
      · rw [if_neg there]
        exact .done _ fun s h => ⟨⟨by simp, nofun⟩, h⟩

theorem conclude_later {p : Assertion (completing proxyKey)} {e : Error} :
    Triple p (Pass.conclude claim (.error ⟨.inBackground, e⟩) duration) fun report =>
      .given (Reports True report) p := .done _ fun s h => ⟨⟨by simp, nofun⟩, h⟩

/-! ### A whole pass -/

/-- While a program looks at the clock, every assertion is kept. -/
theorem after_clock {k : Contract} {x : Occurrence} {t : List Occurrence} {time : Nat}
    (history : History k.others s (x :: t) s') (hx : x.exchange = ⟨.clock, time⟩) :
    (∀ p : Assertion k, p s → p x.after) ∧ History k.others x.after t s' := by
  obtain ⟨gap, serves, rest⟩ := history.uncons
  refine ⟨fun p hs => ?_, rest⟩
  obtain ⟨before, exchange, after⟩ := x
  cases hx
  cases serves with
  | clock => exact p.after gap hs

/-- The provisioning of a claim that names no volume, in the midst of a pass, and what the pass does
afterwards. -/
structure Provisions (driver : String) (config : Config) (visit : Visit) (s : Cluster)
    (options : ProvisionOptions) (t : List Occurrence) (result : Except Failure Volume)
    (s₁ s₂ s' : Cluster) : Prop where
  claim : options.claim = visit.claim
  proxyKey : options.proxyKey = visit.claim.proxyKey
  before : ∀ p : Assertion (completing visit.claim.proxyKey), p s → p s₁
  history : History (Cluster.BackendBinds visit.claim.proxyKey) s₁ t s₂
  candid : ∀ x ∈ t, x.Candid Error.Transient
  run : (provision config options).Traces (t.map (·.exchange)) (some result)
  selects : ∀ c, Selected options (t.map (·.exchange)) c → visit.Selects c
  after : ∀ (p : Assertion (completing visit.claim.proxyKey)) post,
    (∀ duration, Triple p (Pass.conclude visit.claim result duration) post) → p s₂ →
      post visit.report s'

/-- A pass over a claim that names no volume is stopped at the gate, or provisions the claim. -/
theorem provisions_of_run {visit : Visit} (unbound : visit.claim.volumeName? = none)
    (history : History (Cluster.BackendBinds visit.claim.proxyKey) s visit.occurrences s')
    (candid : ∀ x ∈ visit.occurrences, x.Candid Error.Transient)
    (run : (pass driver (provision config) visit.claim).Traces visit.exchanges
      (some visit.report)) :
    ((∀ p : Assertion (completing visit.claim.proxyKey), p s → p s') ∧ ¬ visit.FindsBound) ∨
    ∃ options t result s₁ s₂, Provisions driver config visit s options t result s₁ s₂ s' := by
  have history : History (completing visit.claim.proxyKey).others s visit.occurrences s' := history
  have gate : (Pass.gate driver visit.claim).run.LooksUp (Pass.Gated visit.claim) :=
    Pass.gate_of_unbound unbound
  have spared : ∀ s l answer,
      (completing visit.claim.proxyKey).owed ⟨s, ⟨.find l, answer⟩, s⟩ := fun _ _ _ => trivial
  rcases pass_cases run with
    early | ⟨options, h₀, h₁, h₂, started, result, ended, exchanges, passed, provisioned, concluded⟩
  · obtain ⟨looks, gated⟩ := gate _ _ early
    exact .inl ⟨(history.lookups (fun x hx => looks _ (List.mem_map_of_mem hx)) spared).2,
      (gated _ rfl).2⟩
  · obtain ⟨looks, gated⟩ := gate _ _ passed
    obtain ⟨claim, uid, hu, volumeName⟩ := gated _ rfl
    have proxyKey : options.proxyKey = visit.claim.proxyKey := by
      rw [ProvisionOptions.proxyKey, claim, volumeName, Claim.proxyKey, hu]
      rfl
    -- the history has the same parts as the pass
    obtain ⟨t₀, rest₀, parts, rfl, split₀⟩ := List.map_eq_append_iff.mp exchanges
    obtain ⟨x, rest₁, rfl, clock, split₁⟩ := List.map_eq_cons_iff.mp split₀
    obtain ⟨t₁, rest₂, rfl, rfl, split₂⟩ := List.map_eq_append_iff.mp split₁
    obtain ⟨y, t₂, rfl, clock', rfl⟩ := List.map_eq_cons_iff.mp split₂
    rw [parts] at history candid
    obtain ⟨s₀, looking, history₀⟩ := history.split
    obtain ⟨kept, history₁⟩ := after_clock history₀ clock
    obtain ⟨s₂, provisioning, history₂⟩ := history₁.split
    obtain ⟨kept', concluding⟩ := after_clock history₂ clock'
    refine .inr ⟨options, t₁, result, x.after, s₂, {
      claim, proxyKey
      before := fun p hs => kept p ((looking.lookups (fun z hz => ?_) spared).2 p hs)
      history := provisioning
      candid := fun z hz => candid z (by simp [hz])
      run := provisioned
      selects := fun c selected => ⟨options, t₀.map (·.exchange) ++ [⟨.clock, started⟩], _,
        ⟨.clock, ended⟩ :: t₂.map (·.exchange), ?_, claim, selected⟩
      after := fun p post triple hs => ?_ }⟩
    · exact looks _ (List.mem_map_of_mem hz)
    · rw [exchanges]
      simp
    · exact (triple _ _ _ _ _ (kept' p hs) concluding (fun z hz => candid z (by simp [hz]))
        concluded).2 visit.report rfl

/-- A volume that the backend has made has a name. -/
theorem source_named {fresh : Claim} {name : String} {volume : Volume}
    (source : s.Source key fresh name volume) : name ≠ "" := by
  cases source with
  | bound stored bound named found =>
      rintro rfl
      obtain ⟨-, there⟩ := Option.filter_eq_some_iff.mp named
      simp at there
  | unbound | absent => simp

theorem settled_settled {c : StorageClass} (v : Volume) :
    (v.withSpec (VolumeSpec.settled config claim c)).Settled config claim c := by
  unfold Volume.Settled
  rw [Volume.withSpec_withSpec]
  by_cases delete : c.reclaimPolicy = some deletePolicy
  · rw [VolumeSpec.settled_of_delete delete]
  · rw [VolumeSpec.settled_of_keep delete]
    rfl

theorem not_settled_released {c : StorageClass} (delete : c.reclaimPolicy = some deletePolicy)
    (v : Volume) : ¬ (v.withSpec VolumeSpec.released).Settled config claim c := by
  intro settled
  unfold Volume.Settled at settled
  rw [Volume.withSpec_withSpec, VolumeSpec.settled_of_delete delete] at settled
  have policy := congrArg (fun v : Volume => v.spec.bind (·.reclaimPolicy)) settled
  simp [Volume.withSpec, VolumeSpec.released, deletePolicy, retainPolicy] at policy

/-- A handover that has bound the claim has made the pass one that has bound it. -/
theorem bound_of_complete {o : Handover} {change : VolumeSpec → VolumeSpec} {volume : Volume}
    {visit : Visit} (complete : o.Complete change volume s)
    (options : o.options.claim = visit.claim)
    (started : o.start.claim? o.options.claim.key = some visit.claim)
    (selects : visit.Selects o.storageClass)
    (settled : volume.Settled config visit.claim o.storageClass ↔ ¬ visit.Continues)
    (ignores : ¬ visit.FindsBound) :
    Bound config visit.claim.key o.options.proxyKey visit o.storageClass volume s := by
  obtain ⟨old, before, after⟩ := complete.claim
  obtain ⟨original, source, -⟩ := complete.source
  rw [← Option.some.inj (started.symm.trans before), options] at after
  exact {
    selects, settled, ignores
    proxy := complete.proxy
    claim := after
    stored := complete.stored
    named := source_named source }

/-- What a pass leaves behind that has got as far as a handover. -/
theorem aftermath_of_outcome {o : Handover} {visit : Visit} {result : Except Failure Volume}
    (outcome : o.outline.Outcome s result) (options : o.options.claim = visit.claim)
    (started : o.start.claim? o.options.claim.key = some visit.claim)
    (selects : visit.Selects o.storageClass)
    (waits : Awaiting visit.claim.key o.options.proxyKey visit.claim)
    (after : ∀ (p : Assertion (completing o.options.proxyKey)) post,
      (∀ duration, Triple p (Pass.conclude visit.claim result duration) post) → p s →
        post visit.report s') :
    Aftermath o.config visit.claim.key o.options.proxyKey visit s' := by
  rcases Handover.outcome_cases outcome with ⟨volume, rfl, complete⟩ | ⟨e, rfl, failed⟩
  · obtain ⟨⟨continues, ignores⟩, -, complete⟩ := after _ _ (fun _ => conclude_ok) complete
    obtain ⟨original, -, made⟩ := complete.source
    have settled : volume.Settled o.config visit.claim o.storageClass := by
      rw [made, options]
      exact settled_settled original
    exact .bound (bound_of_complete complete options started selects
      ⟨fun _ => continues.mp, fun _ => settled⟩ ignores)
  · obtain ⟨⟨continues, ignores⟩, tidy, same | ⟨delete, volume, complete⟩⟩ :=
      after _ _ (fun _ => conclude_later) failed
    · have stored := same.trans started
      rw [options] at stored
      exact .waiting tidy stored waits ignores
    · obtain ⟨original, -, made⟩ := complete.source
      have unsettled : ¬ volume.Settled o.config visit.claim o.storageClass :=
        made ▸ not_settled_released delete original
      exact .bound (bound_of_complete complete options started selects
        ⟨fun settled => absurd settled unsettled,
          fun ended => absurd (continues.mpr trivial) ended⟩ ignores)

/-- What a pass over a claim that names no volume leaves behind. -/
theorem aftermath {visit : Visit} (distinct : key ≠ proxyKey) (tidy : s.Tidy proxyKey)
    (stored : s.claim? key = some visit.claim) (waits : Awaiting key proxyKey visit.claim)
    (history : History (Cluster.BackendBinds proxyKey) s visit.occurrences s')
    (candid : ∀ x ∈ visit.occurrences, x.Candid Error.Transient)
    (run : (pass driver (provision config) visit.claim).Traces visit.exchanges
      (some visit.report)) : Aftermath config key proxyKey visit s' := by
  obtain rfl := waits.key
  obtain rfl := waits.proxyKey
  rcases provisions_of_run waits.unbound history candid run with
    ⟨kept, ignores⟩ | ⟨options, t, result, s₁, s₂, parts⟩
  · obtain ⟨tidy', stored'⟩ := kept (holding distinct visit.claim) ⟨tidy, stored⟩
    exact .waiting tidy' stored' waits ignores
  · obtain ⟨tidy₁, stored₁⟩ := parts.before (holding distinct visit.claim) ⟨tidy, stored⟩
    obtain ⟨claim, proxyKey, -, history, candid, provisioned, selects, after⟩ := parts
    rw [← proxyKey] at history after tidy₁ distinct waits ⊢
    have apart : options.claim.key ≠ options.proxyKey := claim ▸ distinct
    have history : History (completing options.proxyKey).others s₁ t s₂ := history
    obtain ⟨-, results⟩ := history.provision candid (fun _ _ _ => trivial) provisioned
      (fun c node => Handover.outline ⟨s₁, config, options, c, node, apart⟩)
      fun _ _ => ⟨tidy₁, rfl, fun _ _ source => source⟩
    cases results _ rfl with
    | early kept unprepared =>
        obtain ⟨⟨-, ignores⟩, tidy', claim', stored', waits'⟩ :=
          after (holding distinct visit.claim) _
            (fun _ => conclude_early unprepared.not_inBackground waits)
            (kept (holding distinct visit.claim) ⟨tidy₁, stored₁⟩)
        exact .waiting tidy' stored' waits' ignores
    | handed needs selected outcome =>
        exact aftermath_of_outcome outcome claim (claim ▸ stored₁) (selects _ selected) waits after

/-! ### All passes -/

/-- A pass over a claim that is bound: it makes no request and says that it found the claim so. -/
structure Idle (claim : Claim) (visit : Visit) : Prop where
  claim : visit.claim = claim
  silent : visit.occurrences = []
  finds : visit.FindsBound

/-- The assertion that a pass has bound the claim. -/
def bound (config : Config) (key proxyKey : String) (visit : Visit) (c : StorageClass)
    (volume : Volume) : Assertion (completing proxyKey) where
  holds := Bound config key proxyKey visit c volume
  stable _ _ act h := by
    obtain ⟨proxy, there, -⟩ := act
    cases h.proxy.symm.trans there

/-- Once a pass has bound the claim, this stays so, and all further passes are idle. -/
theorem idle_of_bound {binder : Visit} {c : StorageClass} {volume : Volume} {visits : List Visit}
    (h : Visits (Cluster.BackendBinds proxyKey) driver config key s visits s')
    (bound : Bound config key proxyKey binder c volume s) :
    Bound config key proxyKey binder c volume s' ∧
      ∀ visit ∈ visits, Idle (binder.claim.boundTo c.provisioner volume.anyName) visit := by
  -- by induction on the passes: each finds the claim bound and leaves everything as it is
  induction h with
  | done s => exact ⟨bound, fun visit hv => absurd hv List.not_mem_nil⟩
  | acted act rest ih =>
      -- the proxy claim is gone, so the backend has nothing to bind
      obtain ⟨proxy, there, -⟩ := act
      cases bound.proxy.symm.trans there
  | @visited s s₁ s' visit visits stored history run rest ih =>
      have claim : visit.claim = binder.claim.boundTo c.provisioner volume.anyName :=
        Option.some.inj (stored.symm.trans bound.claim)
      have named : visit.claim.volumeName?.isSome = true := by
        rw [claim, Claim.volumeName_boundTo _ _ bound.named]
        rfl
      rw [pass_of_bound named] at run
      obtain ⟨silent, reports⟩ := Program.traces_done_iff.mp run
      have silent : visit.occurrences = [] := List.map_eq_nil_iff.mp silent
      have report : visit.report = Pass.ignore .bound .reset := by
        rcases reports with cut | same
        · cases cut
        · exact Option.some.inj same
      rw [silent] at history
      have still := (Visits.bound config key proxyKey binder c volume).after history bound
      obtain ⟨last, idle⟩ := ih still
      refine ⟨last, fun other hv => ?_⟩
      rcases List.mem_cons.mp hv with rfl | hv
      · exact ⟨claim, silent, congrArg Report.conclusion report⟩
      · exact idle other hv

/-- What passes leave behind over a claim that names no volume: this is still so, or one of them
has bound the claim, and those after it were idle. -/
inductive Course (config : Config) (key proxyKey : String) (s : Cluster) : List Visit → Prop
  | waiting {visits : List Visit} (ignores : ∀ visit ∈ visits, ¬ visit.FindsBound) :
      Course config key proxyKey s visits
  | bound (earlier : List Visit) {idle : List Visit} {binder : Visit} {c : StorageClass}
      {volume : Volume} (bound : Bound config key proxyKey binder c volume s)
      (ignores : ∀ visit ∈ earlier, ¬ visit.FindsBound)
      (idles : ∀ visit ∈ idle, Idle (binder.claim.boundTo c.provisioner volume.anyName) visit) :
      Course config key proxyKey s (earlier ++ binder :: idle)

theorem course {visits : List Visit} {claim : Claim}
    (h : Visits (Cluster.BackendBinds proxyKey) driver config key s visits s')
    (candid : ∀ visit ∈ visits, ∀ x ∈ visit.occurrences, x.Candid Error.Transient)
    (distinct : key ≠ proxyKey) (tidy : s.Tidy proxyKey) (stored : s.claim? key = some claim)
    (waits : Awaiting key proxyKey claim) : Course config key proxyKey s' visits := by
  -- by induction on the passes, up to the first that binds the claim
  induction h generalizing claim with
  | done s => exact .waiting fun visit hv => absurd hv List.not_mem_nil
  | acted act rest ih =>
      obtain ⟨tidy', stored'⟩ := (holding distinct claim).stable _ _ act ⟨tidy, stored⟩
      exact ih candid tidy' stored' waits
  | @visited s s₁ s' visit visits there history run rest ih =>
      have same : claim = visit.claim := Option.some.inj (stored.symm.trans there)
      subst same
      have first := aftermath distinct tidy there waits history
        (candid visit List.mem_cons_self) run
      have others := fun other hv => candid other (.tail _ hv)
      cases first with
      | bound bound =>
          obtain ⟨last, idle⟩ := idle_of_bound rest bound
          exact .bound [] last (fun visit hv => absurd hv List.not_mem_nil) idle
      | waiting tidy' stored' waits' ignores =>
          cases ih others tidy' stored' waits' with
          | waiting all => exact .waiting (List.forall_mem_cons.mpr ⟨ignores, all⟩)
          | bound earlier last all idles =>
              exact .bound (visit :: earlier) last (List.forall_mem_cons.mpr ⟨ignores, all⟩) idles

end Visits

/-! ## Passes in a world -/

/-- Passes over the claim under a key, one after the other, as long as there is such a claim. -/
def World.visits (driver : String) (config : Config) (key : String) :
    Nat → World → List Visit × World
  | 0, w => ([], w)
  | n + 1, w =>
      match w.cluster.claim? key with
      | none => ([], w)
      | some claim =>
          let program := pass driver (provision config) claim
          let (visits, last) := World.visits driver config key n (w.run program).2
          ({ claim, occurrences := program.trail w, report := (w.run program).1 } :: visits, last)

/-- Passes in a world without other clients go as passes over a claim can go. -/
theorem World.visits_candid {fault : Error → Prop} (others : Cluster → Cluster → Prop)
    (driver : String) (config : Config) (key : String) (n : Nat) {w : World} (sound : w.Sound)
    (alone : w.agenda = []) (armed : w.Armed fault) :
    Visits others driver config key w.cluster (w.visits driver config key n).1
      (w.visits driver config key n).2.cluster ∧
    ∀ visit ∈ (w.visits driver config key n).1, ∀ x ∈ visit.occurrences, x.Candid fault := by
  induction n generalizing w with
  | zero => exact ⟨.done _, fun visit hv => absurd hv List.not_mem_nil⟩
  | succ n ih =>
      unfold visits
      cases stored : w.cluster.claim? key with
      | none => exact ⟨.done _, fun visit hv => absurd hv List.not_mem_nil⟩
      | some claim =>
          have run := Program.traces_run World.answer (pass driver (provision config) claim) w
          rw [← Program.exchanges_trail] at run
          obtain ⟨candid, armed'⟩ := (pass driver (provision config) claim).trail_candid armed
          obtain ⟨history, sound', alone'⟩ :=
            (pass driver (provision config) claim).history_trail_alone sound alone
          obtain ⟨rest, others⟩ := ih sound' alone' armed'
          exact ⟨.visited stored history run rest, List.forall_mem_cons.mpr ⟨candid, others⟩⟩

/-! ## Passes that find the claim bound -/

open Visits in
/-- **A pass that finds the claim bound leaves its volume as it is**: exactly one of the passes
before it has bound the claim; those after that one make no request; and the volume has its final
form exactly if the pass that has bound the claim did not count on another one to go on. -/
theorem final_form_of_visits {driver : String} {config : Config} {s s' : Cluster} {claim : Claim}
    {visits : List Visit} {last : Visit}
    (passes : Visits (Cluster.BackendBinds claim.proxyKey) driver config claim.key s
      (visits ++ [last]) s')
    (candid : ∀ visit ∈ visits ++ [last], ∀ x ∈ visit.occurrences, x.Candid Error.Transient)
    (tidy : s.Tidy claim.proxyKey) (stored : s.claim? claim.key = some claim)
    (unbound : claim.volumeName? = none) (distinct : claim.key ≠ claim.proxyKey)
    (finds : last.FindsBound) :
    ∃ earlier binder between c volume, visits = earlier ++ binder :: between ∧
      binder.Selects c ∧
      last.claim = binder.claim.boundTo c.provisioner volume.anyName ∧
      (∀ visit ∈ between ++ [last], visit.occurrences = []) ∧
      s'.volume? volume.anyName = some volume ∧
      (volume.Settled config binder.claim c ↔ ¬ binder.Continues) := by
  generalize all : visits ++ [last] = passed at passes candid
  cases course passes candid distinct tidy stored ⟨rfl, rfl, unbound⟩ with
  | waiting ignores => exact absurd finds (ignores last (all ▸ List.mem_concat_self))
  | @bound earlier idle binder c volume bound ignores idles =>
      -- the pass that found the claim bound is not the one that has bound it
      rcases List.eq_nil_or_concat idle with rfl | ⟨between, idler, rfl⟩
      · obtain ⟨-, same⟩ := List.append_inj' all rfl
        rw [← (List.cons.inj same).1] at bound
        exact absurd finds bound.ignores
      · rw [List.concat_eq_append] at all idles
        rw [← List.cons_append, ← List.append_assoc] at all
        obtain ⟨split, same⟩ := List.append_inj' all rfl
        obtain rfl := (List.cons.inj same).1
        refine ⟨earlier, binder, between, c, volume, split, bound.selects, ?_,
          fun visit hv => (idles visit hv).silent, bound.stored, bound.settled⟩
        exact (idles last List.mem_concat_self).claim

namespace Sample

/-- A claim for which a node has been selected. -/
def placedClaim : Claim :=
  { claim "apps" "data" "u" "hybrid" with
    metadata := { (claim "apps" "data" "u" "hybrid").metadata with
      annotations := some (Table.ofList [(selectedNodeKey, "near")]) } }

/-- A world in which this claim is to be provisioned, while a call fails once. -/
def requested (failure : ArmedFailure) : World where
  cluster := ((zones.addStorageClass (hybridClass "hybrid" "here,there")).addNode
    (node "near" [(zoneLabel, "a")])).addClaim placedClaim
  failures := [failure]

/-- Passes over the claim. -/
def passes (failure : ArmedFailure) (n : Nat) : List Visit × World :=
  (requested failure).visits defaultDriverName {} "apps/data" n

/-- The last patch of the volume fails. -/
def unsettling : ArmedFailure where
  method := .patchVolume
  skip := 2
  error := timedOut "patch" "PersistentVolume" "pv-pvc-u"

/-- The creation of the proxy claim fails. -/
def delaying : ArmedFailure where
  method := .createClaim
  error := timedOut "create" "PersistentVolumeClaim" "pvc-u"

end Sample

/-- The first pass binds the claim, but the last patch of the volume fails. The second pass finds
the claim bound, so the volume stays as it is, although the class wants it to go with its claim. -/
theorem sample_handover_abandoned :
    (Sample.passes Sample.unsettling 2).1.map (·.report.conclusion) =
      [.ok .continueLater, .ok (.ignored .bound)] ∧
    ((Sample.passes Sample.unsettling 2).2.cluster.claim? "apps/data").map (·.volumeName?) =
      some (some "pv-pvc-u") ∧
    ((Sample.passes Sample.unsettling 2).2.cluster.find (.storageClass "here")).map
      (·.reclaimPolicy) = some (some deletePolicy) ∧
    (((Sample.passes Sample.unsettling 2).2.cluster.volume? "pv-pvc-u").bind (·.spec)).map
      (fun spec => (spec.reclaimPolicy, spec.claimRef)) = some (some retainPolicy, none) := by
  decide +kernel

/-- The first pass fails early, the second binds the claim, and the third finds it bound. -/
theorem sample_final_form :
    ∃ visits last, (Sample.passes Sample.delaying 3).1 = visits ++ [last] ∧ last.FindsBound ∧
      ∃ earlier binder between c volume, visits = earlier ++ binder :: between ∧
        binder.Selects c ∧
        last.claim = binder.claim.boundTo c.provisioner volume.anyName ∧
        (∀ visit ∈ between ++ [last], visit.occurrences = []) ∧
        (Sample.passes Sample.delaying 3).2.cluster.volume? volume.anyName = some volume ∧
        (volume.Settled {} binder.claim c ↔ ¬ binder.Continues) := by
  have conclusions : (Sample.passes Sample.delaying 3).1.map (·.report.conclusion) =
      [.ok .continueLater, .ok (.provisioned "pv-pvc-u"), .ok (.ignored .bound)] := by
    decide +kernel
  have sound : (Sample.requested Sample.delaying).Sound :=
    ⟨fun _ h => absurd h List.not_mem_nil, .nil⟩
  have armed : (Sample.requested Sample.delaying).Armed Error.Transient := fun f hf =>
    List.mem_singleton.mp hf ▸ ⟨rfl, rfl⟩
  have tidy : (Sample.requested Sample.delaying).cluster.Tidy "apps/pvc-u" := by
    refine ⟨fun name volume found => absurd (mem_of_valueAt found) List.not_mem_nil, ?_⟩
    intro claim stored
    have absent : (Sample.requested Sample.delaying).cluster.claim? "apps/pvc-u" = none := by
      decide +kernel
    cases absent.symm.trans stored
  obtain ⟨passes, candid⟩ := World.visits_candid (Cluster.BackendBinds Sample.placedClaim.proxyKey)
    defaultDriverName {} "apps/data" 3 sound rfl armed
  rcases List.eq_nil_or_concat (Sample.passes Sample.delaying 3).1 with none | ⟨visits, last, split⟩
  · rw [none] at conclusions
    cases conclusions
  · rw [List.concat_eq_append] at split
    have finds : last.report.conclusion = .ok (.ignored .bound) := by
      have all := congrArg List.getLast? conclusions
      rw [split, List.map_append] at all
      simpa using all
    rw [show (World.visits _ _ _ 3 (Sample.requested Sample.delaying)).1 = visits ++ [last] from
      split] at passes candid
    exact ⟨visits, last, split, finds, final_form_of_visits passes candid tidy
      (Table.get?_insert_self _) (by decide) (by decide) finds⟩

end VolumeHandover
