import VolumeHandover.Proofs.Contracts

set_option autoImplicit false

/-! # Outlines of a handover

To prove something of a handover, one says what holds between any two of its requests, and shows
that each request leads from one assertion to the next. An `Outline` is made up of these assertions
and of the proofs; `Outline.handOver` turns it into a triple for the whole. What a call to
provision does in front of the handover changes nothing (`History.provision`).
-/

namespace VolumeHandover

open Provision

/-- The proxy claim that a call creates, with the node in its annotations if there is no pod to
choose it. -/
def proxyFor (config : Config) (options : ProvisionOptions) (c : StorageClass) (node : Node) :
    Claim :=
  proxyClaim options.volumeName options.claim c
    (match config.method with
      | .annotations => some node.anyName
      | .pod => none)

/-- The placeholder pod that a call creates. -/
def podFor (config : Config) (options : ProvisionOptions) (c : StorageClass) (node : Node) : Pod :=
  placeholderPod (proxyFor config options c node) node.anyName config.pauseImage

/-- The last patch of a volume. -/
def finalPatch (config : Config) (claim : Claim) : Json :=
  match config.method with
  | .annotations => Patch.reclaimPolicyWithClaimRef deletePolicy claim
  | .pod => Patch.reclaimPolicy deletePolicy

/-- A bound claim from which a volume can be taken: it is in a namespace and names the volume. -/
structure Holder where
  claim : BoundClaim
  space : String
  volume : String
  inSpace : claim.val.metadata.space = some space
  named : claim.val.volumeName? = some volume

/-- The key that a holder goes by. -/
def Holder.key (h : Holder) : String := keyIn h.space h.claim.val.anyName

/-- The key under which something is filed that is in the namespace of a claim. -/
theorem Claim.keyIn_space {claim : Claim} {space : String}
    (hs : claim.metadata.space = some space) (name : String) :
    keyIn space name = keyIn claim.spaceName name := by
  unfold spaceName
  rw [hs]
  rfl

theorem Holder.claim_key (h : Holder) : h.claim.val.key = h.key :=
  (Claim.keyIn_space h.inSpace h.claim.val.anyName).symm

/-! ## Outlines -/

/-- What holds where in a handover, and why. -/
structure Outline (k : Contract) (config : Config) (options : ProvisionOptions)
    (c : StorageClass) (node : Node) where
  start : Assertion k
  /-- The caches do not show the proxy claim. -/
  missing : Assertion k
  /-- There should be a proxy claim by now. -/
  created : Assertion k
  /-- The placeholder pod should be there as well, if there is to be one. -/
  placed : Assertion k
  watching : Watch → Assertion k
  /-- The proxy claim is bound, and so many attempts are left to delete the pod. -/
  bound : BoundClaim → Nat → Assertion k
  cleared : BoundClaim → Assertion k
  /-- The volume has been told to stay. -/
  retained : Holder → Assertion k
  /-- The proxy claim has lost its protection, and so many attempts are left to delete it. -/
  stripped : Holder → Nat → Assertion k
  removed : Holder → Assertion k
  /-- The volume has forgotten the proxy claim. -/
  released : Volume → Assertion k
  /-- The caller's claim has been bound. -/
  rebound : Volume → Assertion k
  good : Volume → Assertion k
  bad : Error → Assertion k
  /-- The errors at which another attempt is made to delete the pod. -/
  podFault : Error → Prop := fun _ => True
  /-- The errors at which another attempt is made to delete the proxy claim. -/
  claimFault : Error → Prop := fun _ => True
  pauses : ∀ s interval, k.owed ⟨s, ⟨.pause interval, ()⟩, s⟩
  homeless : options.claim.metadata.space = none → ∀ e s, start s → bad e s
  look : ∀ space, options.claim.metadata.space = some space →
    Answers start (.find (.claim space options.volumeName)) fun shown =>
      if shown.isSome then created else missing
  create : Answers missing (.call (.createClaim (proxyFor config options c node))) fun answer =>
    Ends (fun _ => created) bad (tolerate Error.isAlreadyExists answer)
  place : config.method = .pod →
    Answers created (.call (.createPod (podFor config options c node))) fun answer =>
      Ends (fun _ => placed) bad (tolerate Error.isAlreadyExists answer)
  place_nothing : config.method = .annotations → ∀ s, created s → placed s
  watch : ∀ space, options.claim.metadata.space = some space →
    Answers placed (.call (.watchClaim space options.volumeName)) fun answer =>
      Ends watching bad answer
  await : ∀ w, Answers (watching w) (.awaitBound w config.bindTimeout) fun awaited =>
    Ends (fun b => bound b config.cleanupRetry.attempts) bad
      (awaited.result options.volumeName config.bindTimeout)
  clear : config.method = .pod → ∀ b left, Answers (bound b (left + 1))
    (.call (.deletePod (podFor config options c node).spaceName
      (podFor config options c node).anyName)) fun answer =>
      Ends (fun _ => cleared b) (fun e => .given (podFault e) (bound b left))
        (tolerate Error.isNotFound answer)
  clear_in_vain : config.method = .pod → ∀ b e s, podFault e → bound b 0 s →
    bad (.retryExhausted "delete pod" config.cleanupRetry.attempts e.message) s
  clear_nothing : config.method = .annotations →
    ∀ b s, bound b config.cleanupRetry.attempts s → cleared b s
  lacking : ∀ b, b.val.metadata.space = none ∨ b.val.volumeName? = none →
    ∀ e s, cleared b s → bad e s
  retain : ∀ h, Answers (cleared h.claim)
    (.call (.patchVolume h.volume (Patch.reclaimPolicy retainPolicy))) fun answer =>
      Ends (fun _ => retained h) bad answer
  strip : ∀ h, Answers (retained h)
    (.call (.patchClaim h.space h.claim.val.anyName
      (Patch.stripProtection h.claim.val.finalizers))) fun answer =>
      Ends (fun _ => stripped h config.cleanupRetry.attempts) bad answer
  remove : ∀ h left, Answers (stripped h (left + 1))
    (.call (.deleteClaim h.space h.claim.val.anyName)) fun answer =>
      Ends (fun _ => removed h) (fun e => .given (claimFault e) (stripped h left))
        (tolerate Error.isNotFound answer)
  remove_in_vain : ∀ h e s, claimFault e → stripped h 0 s →
    bad (.retryExhausted "delete persistent volume claim" config.cleanupRetry.attempts
      e.message) s
  forget : ∀ h, Answers (removed h) (.call (.patchVolume h.volume Patch.clearClaimRef))
    fun answer => Ends released bad answer
  rebind : ∀ space v, options.claim.metadata.space = some space →
    Answers (released v) (.call (.patchClaim space options.claim.anyName
      (Patch.bindClaim c.provisioner v.anyName))) fun answer =>
      Ends (fun _ => rebound v) bad answer
  settle : c.reclaimPolicy = some deletePolicy → ∀ v, Answers (rebound v)
    (.call (.patchVolume v.anyName (finalPatch config options.claim))) fun answer =>
      Ends good bad answer
  settle_nothing : c.reclaimPolicy ≠ some deletePolicy → ∀ v s, rebound v s → good v s

namespace Outline

variable {k : Contract} {config : Config} {options : ProvisionOptions} {c : StorageClass}
  {node : Node} (o : Outline k config options c node)

theorem ensureClaim {space : String} (hs : options.claim.metadata.space = some space) :
    Triple o.start (Provision.ensureClaim (proxyFor config options c node)).run
      (Ends (fun _ => o.created) o.bad) := by
  unfold Provision.ensureClaim spaceOf
  rw [show (proxyFor config options c node).metadata.space = some space from hs]
  have look : Answers o.start (.find (.claim space (proxyFor config options c node).anyName))
      fun shown => if shown.isSome then o.created else o.missing := o.look space hs
  refine Triple.ask look fun shown => ?_
  cases shown with
  | some claim => exact .done (Except.ok ()) fun _ h => h
  | none => exact Triple.tolerated o.create

theorem awaitBound {space : String} (hs : options.claim.metadata.space = some space) :
    Triple o.placed (Provision.awaitBound config (proxyFor config options c node)).run
      (Ends (fun b => o.bound b config.cleanupRetry.attempts) o.bad) := by
  unfold Provision.awaitBound spaceOf
  rw [show (proxyFor config options c node).metadata.space = some space from hs]
  have watch : Answers o.placed (.call (.watchClaim space (proxyFor config options c node).anyName))
      fun answer => Ends o.watching o.bad answer := o.watch space hs
  refine (Triple.call watch).attempt fun watch => ?_
  exact Triple.ask (o.await watch) fun awaited => .done _ fun _ h => h

theorem obtainProxy_annotations (hm : config.method = .annotations) :
    Provision.obtainProxy config options c node = (do
      Provision.ensureClaim (proxyFor config options c node)
      Provision.awaitBound config (proxyFor config options c node)) := by
  unfold Provision.obtainProxy proxyFor
  rw [hm]

theorem obtainProxy_pod (hm : config.method = .pod) :
    Provision.obtainProxy config options c node = (do
      Provision.ensureClaim (proxyFor config options c node)
      ensurePod (podFor config options c node)
      let bound ← Provision.awaitBound config (proxyFor config options c node)
      deleteWithRetry config "delete pod"
        (.deletePod (podFor config options c node).spaceName (podFor config options c node).anyName)
      return bound) := by
  unfold Provision.obtainProxy podFor proxyFor
  rw [hm]

theorem obtainProxy {space : String} (hs : options.claim.metadata.space = some space) :
    Triple o.start (Provision.obtainProxy config options c node).run (Ends o.cleared o.bad) := by
  cases hm : config.method with
  | annotations =>
      rw [obtainProxy_annotations hm]
      refine (o.ensureClaim hs).attempt fun _ => ?_
      refine Triple.weaken (o.awaitBound hs) (o.place_nothing hm) fun result s h => ?_
      cases result with
      | ok b => exact o.clear_nothing hm b s h
      | error e => exact h
  | pod =>
      rw [obtainProxy_pod hm]
      refine (o.ensureClaim hs).attempt fun _ => ?_
      refine (Triple.tolerated (o.place hm)).attempt fun _ => ?_
      refine (o.awaitBound hs).attempt fun b => ?_
      refine (Triple.retry o.pauses (o.clear hm b) (o.clear_in_vain hm b)).attempt fun _ => ?_
      exact Triple.succeed fun _ h => h

theorem releaseVolume (b : BoundClaim) :
    Triple (o.cleared b) (Provision.releaseVolume config b).run (Ends o.released o.bad) := by
  unfold Provision.releaseVolume spaceOf
  dsimp only
  cases hs : b.val.metadata.space with
  | none => exact Triple.fail (o.lacking b (.inl hs) _)
  | some space =>
      cases hv : b.val.volumeName? with
      | none => exact Triple.fail (o.lacking b (.inr hv) _)
      | some volume =>
          let h : Holder := ⟨b, space, volume, hs, hv⟩
          refine (Triple.call (o.retain h)).attempt fun _ => ?_
          refine (Triple.call (o.strip h)).attempt fun _ => ?_
          refine (Triple.retry o.pauses (o.remove h) (o.remove_in_vain h)).attempt fun _ => ?_
          exact Triple.call (o.forget h)

theorem rebindClaim {space : String} (hs : options.claim.metadata.space = some space)
    (v : Volume) : Triple (o.released v) (Provision.rebindClaim config options.claim v c).run
      (Ends o.good o.bad) := by
  unfold Provision.rebindClaim spaceOf
  rw [hs]
  refine (Triple.call (o.rebind space v hs)).attempt fun _ => ?_
  by_cases hd : c.reclaimPolicy = some deletePolicy
  · rw [if_pos hd]
    exact Triple.call (o.settle hd v)
  · rw [if_neg hd]
    exact Triple.succeed (o.settle_nothing hd v)

/-- **The outline is one of the whole handover.** -/
theorem handOver : Triple o.start (Provision.handOver config options c node).run
    (Ends o.good o.bad) := by
  unfold Provision.handOver
  cases hs : options.claim.metadata.space with
  | none =>
      rw [obtainProxy_homeless hs]
      exact Triple.fail (o.homeless hs _)
  | some space =>
      refine (o.obtainProxy hs).attempt fun b => ?_
      refine (o.releaseVolume b).attempt fun v => ?_
      exact o.rebindClaim hs v

/-- What a handover comes to: the volume without its version, or an error from which another
attempt may go on. -/
inductive Outcome (s : Cluster) : Except Failure Volume → Prop
  | ok {v : Volume} (good : o.good v s) : Outcome s (.ok (adopted v))
  | error {e : Error} (bad : o.bad e s) : Outcome s (.error ⟨.inBackground, e⟩)

/-- The outcome as an assertion. -/
def outcome (result : Except Failure Volume) : Assertion k where
  holds s := o.Outcome s result
  stable s s' act h := by
    cases h with
    | ok good => exact .ok ((o.good _).stable s s' act good)
    | error bad => exact .error ((o.bad _).stable s s' act bad)

theorem handOn : Triple o.start (VolumeHandover.handOn config options c node) o.outcome := by
  refine o.handOver.bind fun result => ?_
  cases result with
  | ok v => exact Triple.done _ fun s good => .ok good
  | error e => exact Triple.done _ fun s bad => .error bad

end Outline

/-! ## Calls to provision -/

variable {k : Contract} {config : Config} {options : ProvisionOptions} {s s' : Cluster}
  {t : List Occurrence} {o : Option (Except Failure Volume)}

/-- Why a call ends before the handover: the options lack something, or no class can be selected. -/
inductive Unprepared (options : ProvisionOptions) (h : List Exchange) : Failure → Prop
  | lacking {e : Error} (lacks : requirements options = .error e) :
      Unprepared options h ⟨.finished, e⟩
  | unselected {node : Node} {candidates : List String} {e : Error}
      (needs : requirements options = .ok (node, candidates))
      (selecting : (selectClass Lister.asked node candidates).Traces h (some (.error e))) :
      Unprepared options h ⟨.reschedule, e⟩

theorem Unprepared.not_inBackground {h : List Exchange} {f : Failure}
    (unprepared : Unprepared options h f) : f.disposition ≠ .inBackground := by
  cases unprepared with
  | lacking => exact nofun
  | unselected => exact nofun

/-- What a call comes to: it ends early, with nothing changed, or it selects a class and goes on to
the outcome of a handover. -/
inductive Result (outline : ∀ c node, Outline k config options c node) (s : Cluster)
    (t : List Occurrence) (s' : Cluster) : Except Failure Volume → Prop
  | early {f : Failure} (kept : ∀ p : Assertion k, p s → p s')
      (unprepared : Unprepared options (t.map (·.exchange)) f) : Result outline s t s' (.error f)
  | handed {r : Except Failure Volume} {node : Node} {candidates : List String}
      {c : StorageClass} (needs : requirements options = .ok (node, candidates))
      (selected : Selected options (t.map (·.exchange)) c)
      (outcome : (outline c node).Outcome s' r) : Result outline s t s' r

/-- A handover that comes after look-ups, with which a class has been selected. -/
theorem Outline.selected {c : StorageClass} {node : Node} {candidates : List String}
    {h₀ h₁ : List Exchange} {r : Except Error StorageClass}
    (outline : Outline k config options c node)
    (history : History k.others s t s') (assumed : ∀ x ∈ t, k.assumed x)
    (owed : ∀ s l answer, k.owed ⟨s, ⟨.find l, answer⟩, s⟩)
    (exchanges : t.map (·.exchange) = h₀ ++ h₁)
    (selecting : (selectClass Lister.asked node candidates).Traces h₀ (some r))
    (handing : (VolumeHandover.handOn config options c node).Traces h₁ o)
    (begins : outline.start s) :
    (∀ x ∈ t, k.owed x) ∧ ∀ r, o = some r → outline.Outcome s' r := by
  obtain ⟨t₀, t₁, rfl, rfl, rfl⟩ := List.map_eq_append_iff.mp exchanges
  obtain ⟨s₁, first, second⟩ := history.split
  have looks := onlyLooksUp_selectClass node candidates _ _ selecting
  obtain ⟨owed₀, kept⟩ := first.lookups (fun x hx => looks _ (List.mem_map_of_mem hx)) owed
  obtain ⟨owed₁, outcome⟩ := outline.handOn s₁ t₁ s' o (kept _ begins) second
    (fun x hx => assumed x (List.mem_append_right _ hx)) handing
  refine ⟨fun x hx => ?_, outcome⟩
  rcases List.mem_append.mp hx with hx | hx
  · exact owed₀ x hx
  · exact owed₁ x hx

/-- **A call fulfils its contract**, and comes to what the outlines say, one for each class and
node. -/
theorem History.provision (history : History k.others s t s') (assumed : ∀ x ∈ t, k.assumed x)
    (owed : ∀ s l answer, k.owed ⟨s, ⟨.find l, answer⟩, s⟩)
    (run : (provision config options).Traces (t.map (·.exchange)) o)
    (outline : ∀ c node, Outline k config options c node)
    (begins : ∀ c node, (outline c node).start s) :
    (∀ x ∈ t, k.owed x) ∧ ∀ r, o = some r → Result outline s t s' r := by
  rcases provision_cases run with
    ⟨e, lacks, nothing, result⟩ | ⟨node, candidates, needs, ⟨selected, selecting, -, result⟩ |
      ⟨c, h₀, h₁, exchanges, selecting, handing⟩⟩
  · obtain rfl := List.map_eq_nil_iff.mp nothing
    refine ⟨by simp, fun r hr => ?_⟩
    rw [result r hr]
    exact .early (fun p hs => p.after history hs) (.lacking lacks)
  · have looks := onlyLooksUp_selectClass node candidates _ _ selecting
    obtain ⟨owed, kept⟩ := history.lookups (fun x hx => looks _ (List.mem_map_of_mem hx)) owed
    refine ⟨owed, fun r hr => ?_⟩
    obtain ⟨e, rfl, rfl⟩ := result r hr
    exact .early kept (.unselected needs selecting)
  · have hc : Selected options (t.map (·.exchange)) c :=
      ⟨node, candidates, h₀, h₁, needs, exchanges, selecting⟩
    obtain ⟨owed, outcome⟩ := (outline c node).selected history assumed owed exchanges selecting
      handing (begins c node)
    exact ⟨owed, fun r hr => .handed needs hc (outcome r hr)⟩

end VolumeHandover
