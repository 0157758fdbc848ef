import VolumeHandover.Proofs.Protocol
import VolumeHandover.Proofs.SharedCluster

set_option autoImplicit false

/-! # The stages of a call

A call to provision obtains a proxy claim of the class it has selected, waits until this is
bound, and then takes the volume from it. Claims are created only before the wait, and patched
or deleted only after it (`stages_of_run`). A call that succeeds hands over the volume of the
claim that it has waited for (`HandsOver`), on a watch that it began at once before
(`HandsOver.stages`).
-/

namespace VolumeHandover

open Provision

/-! ## The requests of the stages -/

/-- A patch by which a call changes a claim. -/
inductive ClaimPatch : Json → Prop
  | strip (finalizers : List String) : ClaimPatch (Patch.stripProtection finalizers)
  | bind (provisioner volume : String) : ClaimPatch (Patch.bindClaim provisioner volume)

/-- The requests up to the wait. A proxy claim is of a class that is selected. -/
inductive Obtains (options : ProvisionOptions) (selected : StorageClass → Prop) :
    Request → Prop
  | find (l : Lookup) : Obtains options selected (.find l)
  | create {c : StorageClass} (hc : selected c) (node : Option String) :
      Obtains options selected
        (.call (.createClaim (proxyClaim options.volumeName options.claim c node)))
  | createPod (pod : Pod) : Obtains options selected (.call (.createPod pod))
  | watch (space name : String) : Obtains options selected (.call (.watchClaim space name))
  | await (watch : Watch) (timeout : Duration) :
      Obtains options selected (.awaitBound watch timeout)
  | pause (interval : Duration) : Obtains options selected (.pause interval)

/-- The requests after the wait. -/
inductive Hands : Request → Prop
  | deletePod (space name : String) : Hands (.call (.deletePod space name))
  | patchVolume (name : String) (patch : Json) : Hands (.call (.patchVolume name patch))
  | patchClaim (space name : String) {patch : Json} (known : ClaimPatch patch) :
      Hands (.call (.patchClaim space name patch))
  | deleteClaim (space name : String) : Hands (.call (.deleteClaim space name))
  | pause (interval : Duration) : Hands (.pause interval)
  | clock : Hands .clock

section Steps

variable {config : Config} {options : ProvisionOptions} {c : StorageClass} {node : Node}
  {space : String} {shown : Bool} {watch : Watch} {bound : BoundClaim} {volume : Volume}
  {selected : StorageClass → Prop}

/-- The two steps of waiting for the proxy claim. -/
def waiting (config : Config) (options : ProvisionOptions) (space : String) (watch : Watch)
    (bound : BoundClaim) : List Step :=
  [.obtain (.watchClaim space options.volumeName) watch, .await watch config.bindTimeout bound]

theorem waiting_obtains {step : Step} (hs : step ∈ waiting config options space watch bound) :
    Obtains options selected step.request := by
  rcases List.mem_cons.mp hs with rfl | hs
  · exact .watch _ _
  · rw [List.mem_singleton.mp hs]
    exact .await _ _

theorem ensureSteps_obtains (hc : selected c) {n : Option String} {step : Step} (hs : step ∈
    ensureSteps (proxyClaim options.volumeName options.claim c n) space shown) :
    Obtains options selected step.request := by
  rcases List.mem_cons.mp hs with rfl | hs
  · exact .find _
  · cases shown with
    | true => cases hs
    | false =>
        rw [List.mem_singleton.mp hs]
        exact .create hc n

/-- The wait for the proxy claim stands in the midst of the steps that obtain it. -/
theorem obtainSteps_eq (config : Config) (hc : selected c) : ∃ before after,
    obtainSteps config options c node space shown watch bound =
      before ++ (waiting config options space watch bound ++ after) ∧
    (∀ step ∈ before, Obtains options selected step.request) ∧
      ∀ step ∈ after, Hands step.request := by
  unfold obtainSteps
  cases config.method with
  | annotations =>
      refine ⟨_, [], by rw [List.append_nil]; rfl, fun step hs => ?_, fun step hs => ?_⟩
      · exact ensureSteps_obtains hc hs
      · cases hs
  | pod =>
      refine ⟨_, _, (List.append_assoc ..).symm, fun step hs => ?_, fun step hs => ?_⟩
      · rcases List.mem_append.mp hs with hs | hs
        · exact ensureSteps_obtains hc hs
        · rw [List.mem_singleton.mp hs]
          exact .createPod _
      · rw [List.mem_singleton.mp hs]
        exact .deletePod _ _

theorem releaseSteps_hands {step : Step} (hs : step ∈ releaseSteps config bound volume) :
    Hands step.request := by
  unfold releaseSteps at hs
  split at hs
  · simp only [List.mem_append, List.mem_singleton] at hs
    rcases hs with rfl | rfl | rfl | rfl
    · exact .patchVolume _ _
    · exact .patchClaim _ _ (.strip _)
    · exact .deleteClaim _ _
    · exact .patchVolume _ _
  · rw [List.mem_singleton.mp hs]
    exact .clock

theorem rebindSteps_hands {claim : Claim} {step : Step}
    (hs : step ∈ rebindSteps config claim space volume c) : Hands step.request := by
  unfold rebindSteps at hs
  rcases List.mem_append.mp hs with hs | hs
  · rw [List.mem_singleton.mp hs]
    exact .patchClaim _ _ (.bind _ _)
  · split at hs
    · rw [List.mem_singleton.mp hs]
      exact .patchVolume _ _
    · cases hs

theorem handoverSteps_eq (config : Config) (hc : selected c)
    (hs : options.claim.metadata.space = some space) :
    ∃ before after, handoverSteps config options c node shown watch bound volume =
      before ++ (waiting config options space watch bound ++ after) ∧
    (∀ step ∈ before, Obtains options selected step.request) ∧
      ∀ step ∈ after, Hands step.request := by
  obtain ⟨before, after, obtaining, first, second⟩ :=
    obtainSteps_eq config hc
  unfold handoverSteps
  rw [hs]
  dsimp only
  rw [obtaining, List.append_assoc, List.append_assoc]
  refine ⟨before, _, rfl, first, fun step hm => ?_⟩
  rcases List.mem_append.mp hm with hm | hm
  · exact second step hm
  · rcases List.mem_append.mp hm with hm | hm
    · exact releaseSteps_hands hm
    · exact rebindSteps_hands hm

end Steps

/-! ## Any call -/

section Calls

variable {config : Config} {options : ProvisionOptions} {h : List Exchange}
  {o : Option (Except Failure Volume)}

/-- The class that a call selects at its beginning. -/
def Selected (options : ProvisionOptions) (h : List Exchange) (c : StorageClass) : Prop :=
  ∃ node candidates h₀ h₁, requirements options = .ok (node, candidates) ∧ h = h₀ ++ h₁ ∧
    (selectClass Lister.asked node candidates).Traces h₀ (some (.ok c))

theorem Selected.unique {c d : StorageClass} (hc : Selected options h c)
    (hd : Selected options h d) : c = d := by
  obtain ⟨node, candidates, h₀, h₁, needs, rfl, selecting⟩ := hc
  obtain ⟨node', candidates', g₀, g₁, needs', split, selecting'⟩ := hd
  obtain ⟨rfl, rfl⟩ := Prod.mk.inj (Except.ok.inj (needs.symm.trans needs'))
  exact Except.ok.inj (selecting.unique selecting' split)

theorem exists_split_acts {a₁ a₂ : List Exchange} (ha : acts h = a₁ ++ a₂) :
    ∃ h₁ h₂, h = h₁ ++ h₂ ∧ acts h₁ = a₁ ∧ acts h₂ = a₂ :=
  List.filter_eq_append_iff.mp ha

/-- What can be said of every pause and of all else that is asked can be said of all requests. -/
theorem request_of_acts {p : Request → Prop} (pause : ∀ interval, p (.pause interval))
    (acting : ∀ x ∈ acts h, p x.request) {x : Exchange} (hx : x ∈ h) : p x.request := by
  by_cases hpause : x.isPause = true
  · unfold Exchange.isPause at hpause
    split at hpause
    · rename_i interval he
      rw [he]
      exact pause interval
    · cases hpause
  · exact acting x (List.mem_filter.mpr ⟨hx, by simpa using hpause⟩)

/-- What is no pause is an attempt at a step. -/
theorem request_of_follows {steps : List Step} {verdict : Option Bool} {p : Request → Prop}
    (follows : Follows steps (acts h) verdict) (hp : ∀ step ∈ steps, p step.request)
    (pause : ∀ interval, p (.pause interval)) {x : Exchange} (hx : x ∈ h) : p x.request := by
  refine request_of_acts pause (fun y hy => ?_) hx
  obtain ⟨step, hs, he⟩ := follows.request_mem hy
  rw [he]
  exact hp step hs

theorem obtains_of_isLookup {selected : StorageClass → Prop} {x : Exchange}
    (hx : x.isLookup = true) : Obtains options selected x.request := by
  unfold Exchange.isLookup at hx
  split at hx
  · rename_i l he
    rw [he]
    exact .find l
  · cases hx

/-- Every call goes through the stages, as far as it goes. -/
theorem stages_of_run (run : (provision config options).Traces h o) :
    ∃ h₁ h₂, h = h₁ ++ h₂ ∧ (∀ x ∈ h₁, Obtains options (Selected options h) x.request) ∧
      ∀ x ∈ h₂, Hands x.request := by
  rcases provision_cases run with
    ⟨e, -, rfl, -⟩ | ⟨node, candidates, needs, ⟨selected, selecting, -, -⟩ |
      ⟨c, h₀, h₁, rfl, selecting, handing⟩⟩
  · exact ⟨[], [], rfl, by simp, by simp⟩
  · refine ⟨h, [], (List.append_nil h).symm, fun x hx => ?_, by simp⟩
    exact obtains_of_isLookup (onlyLooksUp_selectClass _ _ _ _ selecting x hx)
  · have looks : ∀ x ∈ h₀, Obtains options (Selected options (h₀ ++ h₁)) x.request :=
      fun x hx => obtains_of_isLookup (onlyLooksUp_selectClass _ _ _ _ selecting x hx)
    have hc : Selected options (h₀ ++ h₁) c := ⟨node, candidates, h₀, h₁, needs, rfl, selecting⟩
    obtain ⟨shown, watch, bound, volume, verdict, follows, -, -⟩ := handOn_follows handing
    cases hs : options.claim.metadata.space with
    | none =>
        unfold handoverSteps at follows
        rw [hs] at follows
        refine ⟨h₀, h₁, rfl, looks, fun x hx => request_of_follows follows ?_ .pause hx⟩
        intro step hm
        rw [List.mem_singleton.mp hm]
        exact .clock
    | some space =>
        obtain ⟨before, after, steps, first, second⟩ := handoverSteps_eq config hc hs
        rw [steps, ← List.append_assoc] at follows
        obtain ⟨a₁, a₂, verdict₁, ha, obtaining, rest⟩ := follows.split
        obtain ⟨g₁, g₂, rfl, rfl, rfl⟩ := exists_split_acts ha
        refine ⟨h₀ ++ g₁, g₂, (List.append_assoc ..).symm, fun x hx => ?_, fun x hx => ?_⟩
        · rcases List.mem_append.mp hx with hx | hx
          · exact looks x hx
          · refine request_of_follows obtaining (fun step hm => ?_) .pause hx
            rcases List.mem_append.mp hm with hm | hm
            · exact first step hm
            · exact waiting_obtains hm
        · rcases rest with ⟨-, handing⟩ | ⟨-, -, nothing⟩
          · exact request_of_follows handing second .pause hx
          · have follows : Follows [] (acts g₂) none := by
              rw [nothing]
              exact .cut _
            exact request_of_follows follows (by simp) .pause hx

/-! ## Calls that succeed -/

/-- A call has selected a class, and has taken all steps with it to hand over the volume of a
bound proxy claim. -/
def HandsOver (config : Config) (options : ProvisionOptions) (h : List Exchange)
    (c : StorageClass) (bound : BoundClaim) : Prop :=
  ∃ node candidates h₀ h₁ shown watch volume,
    requirements options = .ok (node, candidates) ∧ h = h₀ ++ h₁ ∧
    (selectClass Lister.asked node candidates).Traces h₀ (some (.ok c)) ∧
    Follows (handoverSteps config options c node shown watch bound volume) (acts h₁) (some true)

theorem handsOver_of_run {v : Volume}
    (run : (provision config options).Traces h (some (.ok v))) :
    ∃ c bound, HandsOver config options h c bound := by
  rcases provision_cases run with
    ⟨e, -, -, result⟩ | ⟨node, candidates, needs, ⟨selected, -, -, result⟩ |
      ⟨c, h₀, h₁, rfl, selecting, handing⟩⟩
  · cases result _ rfl
  · obtain ⟨e, -, he⟩ := result _ rfl
    cases he
  · obtain ⟨shown, watch, bound, volume, verdict, follows, success, -⟩ := handOn_follows handing
    rw [success v rfl] at follows
    exact ⟨c, bound, node, candidates, h₀, h₁, shown, watch, volume, needs, rfl, selecting,
      follows⟩

theorem HandsOver.selected {c : StorageClass} {bound : BoundClaim}
    (call : HandsOver config options h c bound) : Selected options h c := by
  obtain ⟨node, candidates, h₀, h₁, -, -, -, needs, split, selecting, -⟩ := call
  exact ⟨node, candidates, h₀, h₁, needs, split, selecting⟩

/-- The whole sequence can be taken only for a claim that has a namespace. -/
theorem space_of_follows {c : StorageClass} {node : Node} {shown : Bool} {watch : Watch}
    {bound : BoundClaim} {volume : Volume}
    (follows : Follows (handoverSteps config options c node shown watch bound volume) h
      (some true)) :
    ∃ space, options.claim.metadata.space = some space := by
  cases hs : options.claim.metadata.space with
  | some space => exact ⟨space, rfl⟩
  | none =>
      unfold handoverSteps at follows
      rw [hs] at follows
      unfold Step.impossible at follows
      cases follows

/-- A call that succeeds goes through all stages: it obtains the proxy claim, waits for it, and
hands over what it has waited for. -/
theorem HandsOver.stages {c : StorageClass} {bound : BoundClaim}
    (call : HandsOver config options h c bound) :
    ∃ space watch h₁ h₂ h₃, options.claim.metadata.space = some space ∧
      h = h₁ ++ (h₂ ++ h₃) ∧
      acts h₂ = [⟨.call (.watchClaim space options.volumeName), .ok watch⟩,
        ⟨.awaitBound watch config.bindTimeout, .decided (.bound bound)⟩] ∧
      (∀ x ∈ h₁, Obtains options (Selected options h) x.request) ∧
      ∀ x ∈ h₃, Hands x.request := by
  have hc := call.selected
  obtain ⟨node, candidates, h₀, h₁, shown, watch, volume, -, rfl, selecting, follows⟩ := call
  obtain ⟨space, hs⟩ := space_of_follows follows
  obtain ⟨before, after, steps, first, second⟩ := handoverSteps_eq config hc hs
  rw [steps] at follows
  obtain ⟨a₁, a₂, ha, obtaining, rest⟩ := follows.split_of_complete
  obtain ⟨g₁, g, rfl, rfl, rfl⟩ := exists_split_acts ha
  obtain ⟨a₂, a₃, ha, wait, handing⟩ := rest.split_of_complete
  obtain ⟨g₂, g₃, rfl, rfl, rfl⟩ := exists_split_acts ha
  obtain ⟨_, _, begun, rfl, wait⟩ := wait.once
  obtain ⟨_, _, rfl, rfl, done⟩ := wait.once
  cases done
  refine ⟨space, watch, h₀ ++ g₁, g₂, g₃, hs, (List.append_assoc ..).symm, begun,
    fun x hx => ?_, fun x hx => request_of_follows handing second .pause hx⟩
  rcases List.mem_append.mp hx with hx | hx
  · exact obtains_of_isLookup (onlyLooksUp_selectClass _ _ _ _ selecting x hx)
  · exact request_of_follows obtaining first .pause hx

/-- The last thing that a call does is to bind the caller's claim on behalf of a class. -/
def Rebinds (config : Config) (options : ProvisionOptions) (h : List Exchange)
    (c : StorageClass) : Prop :=
  ∃ space volume h₁ h₂, options.claim.metadata.space = some space ∧ h = h₁ ++ h₂ ∧
    Follows (rebindSteps config options.claim space volume c) (acts h₂) (some true)

/-- The class that the caller's claim is bound for is the one that was selected. -/
theorem HandsOver.rebinds {c : StorageClass} {bound : BoundClaim}
    (call : HandsOver config options h c bound) : Rebinds config options h c := by
  obtain ⟨node, candidates, h₀, h₁, shown, watch, volume, -, rfl, -, follows⟩ := call
  obtain ⟨space, hs⟩ := space_of_follows follows
  unfold handoverSteps at follows
  rw [hs] at follows
  dsimp only at follows
  rw [← List.append_assoc] at follows
  obtain ⟨a₁, a₂, ha, -, rest⟩ := follows.split_of_complete
  obtain ⟨g₁, g₂, rfl, rfl, rfl⟩ := exists_split_acts ha
  exact ⟨space, volume, h₀ ++ g₁, g₂, hs, (List.append_assoc ..).symm, rest⟩

end Calls

/-! ## The wait in a history -/

section Histories

variable {others : Cluster → Cluster → Prop} {key : String} {p : Claim → Prop} {s s' : Cluster}
  {t : List Occurrence}

/-- The claim under a key has a property, if there is one. -/
def Cluster.Stores (p : Claim → Prop) (key : String) (s : Cluster) : Prop :=
  ∀ claim, s.claim? key = some claim → p claim

/-- A watch on the claim under a key begins, and delivers a bound claim. -/
def Delivers (key : String) (bound : BoundClaim) (t : List Occurrence) : Prop :=
  ∃ space name watch timeout, keyIn space name = key ∧
    acts (t.map (·.exchange)) = [⟨.call (.watchClaim space name), .ok watch⟩,
      ⟨.awaitBound watch timeout, .decided (.bound bound)⟩]

theorem Delivers.request {bound : BoundClaim} {p : Request → Prop} (h : Delivers key bound t)
    (pause : ∀ interval, p (.pause interval))
    (watch : ∀ space name, p (.call (.watchClaim space name)))
    (await : ∀ watch timeout, p (.awaitBound watch timeout)) {x : Exchange}
    (hx : x ∈ t.map (·.exchange)) : p x.request := by
  obtain ⟨space, name, w, timeout, -, exchanges⟩ := h
  refine request_of_acts pause (fun y hy => ?_) hx
  rw [exchanges] at hy
  rcases List.mem_cons.mp hy with rfl | hy
  · exact watch space name
  · rw [List.mem_singleton.mp hy]
    exact await w timeout

theorem stores_of_isPause {x : Exchange} (hx : x.isPause = true) (serves : s.Serves x s')
    (h : s.Stores p key) : s'.Stores p key := by
  have step := serves.claimStep key
  unfold Exchange.isPause at hx
  split at hx
  · rename_i interval he
    rw [he] at step
    cases step with
    | kept same =>
        intro claim hc
        exact h claim (same ▸ hc)
  · cases hx

/-- What a wait delivers has the property that the claim had when the watch began, if the
others keep it and a watch learns what they do. -/
theorem History.wait {bound : BoundClaim} (h : History others s t s')
    (delivers : Delivers key bound t)
    (reports : ∀ s s', others s s' → Cluster.Reports key s s')
    (keeps : ∀ s s', others s s' → s.Stores p key → s'.Stores p key)
    (stores : s.Stores p key) : p bound.val := by
  obtain ⟨space, name, watch, timeout, named, exchanges⟩ := delivers
  obtain ⟨h₁, rest, split, pauses₁, -, exchanges⟩ := List.filter_eq_cons_iff.mp exchanges
  obtain ⟨t₁, t', rfl, rfl, ht⟩ := List.map_eq_append_iff.mp split
  obtain ⟨w, t₂, rfl, begun, rfl⟩ := List.map_eq_cons_iff.mp ht
  obtain ⟨h₂, rest, split, pauses₂, -, -⟩ := List.filter_eq_cons_iff.mp exchanges
  obtain ⟨t₂, t', rfl, rfl, ht⟩ := List.map_eq_append_iff.mp split
  obtain ⟨a, t₃, rfl, delivered, -⟩ := List.map_eq_cons_iff.mp ht
  have isPause {t : List Occurrence} (pauses : ∀ x ∈ t.map (·.exchange), ¬ (!x.isPause) = true)
      {x : Occurrence} (hx : x ∈ t) : x.exchange.isPause = true := by
    simpa using pauses _ (List.mem_map_of_mem hx)
  obtain ⟨s₁, first, rest⟩ := h.split
  obtain ⟨gap, serves, rest⟩ := rest.uncons
  obtain ⟨s₂, second, rest⟩ := rest.split
  obtain ⟨gap₂, await, -⟩ := rest.uncons
  -- until the watch begins, the invariant is about the stored claim only
  have stores₁ : s₁.Stores p key :=
    first.invariant stores keeps fun x hx serves => stores_of_isPause (isPause pauses₁ hx) serves
  have stores_w : w.before.Stores p key := gap.invariant stores₁ keeps (by simp)
  -- from there on it is also about what the watch has still to deliver
  have pending : w.after.Pending p key watch.number := by
    rw [begun] at serves
    obtain ⟨hw, ha⟩ := Prod.mk.inj serves.call_eq
    rw [← ha, ← Except.ok.inj hw]
    exact Cluster.pending_watchClaim named stores_w
  have step (s s' : Cluster) (act : others s s') (h : s.Pending p key watch.number) :
      s'.Pending p key watch.number := h.step (reports s s' act) (keeps s s' act h.stored)
  have pending₂ : s₂.Pending p key watch.number :=
    second.invariant pending step fun x hx serves h =>
      h.step serves.reports (stores_of_isPause (isPause pauses₂ hx) serves h.stored)
  have pending_a : a.before.Pending p key watch.number :=
    gap₂.invariant pending₂ step (by simp)
  rw [delivered] at await
  exact pending_a.delivered await

/-- The key of the proxy claim. -/
def ProvisionOptions.proxyKey (options : ProvisionOptions) : String :=
  keyIn options.claim.spaceName options.volumeName

/-- The stages of a call that succeeds, in its history. -/
theorem HandsOver.history {call : Call} {c : StorageClass} {bound : BoundClaim}
    (hands : HandsOver call.config call.options call.exchanges c bound)
    (h : History others s call.occurrences s') (named : call.options.proxyKey = key) :
    ∃ t₁ t₂ t₃ s₁ s₂, call.occurrences = t₁ ++ (t₂ ++ t₃) ∧
      History others s t₁ s₁ ∧ History others s₁ t₂ s₂ ∧
      (∀ x ∈ t₁.map (·.exchange),
        Obtains call.options (Selected call.options call.exchanges) x.request) ∧
      Delivers key bound t₂ ∧ ∀ x ∈ t₃.map (·.exchange), Hands x.request := by
  obtain ⟨space, watch, h₁, h₂, h₃, hs, split, waits, obtains, handing⟩ := hands.stages
  obtain ⟨t₁, t', ht, rfl, split'⟩ := List.map_eq_append_iff.mp split
  obtain ⟨t₂, t₃, rfl, rfl, rfl⟩ := List.map_eq_append_iff.mp split'
  rw [ht] at h
  obtain ⟨s₁, first, rest⟩ := h.split
  obtain ⟨s₂, second, -⟩ := rest.split
  have key_eq : keyIn space call.options.volumeName = key := by
    rw [← named, ProvisionOptions.proxyKey, Claim.spaceName, hs]
    rfl
  exact ⟨t₁, t₂, t₃, s₁, s₂, ht, first, second, obtains,
    ⟨space, _, watch, _, key_eq, waits⟩, handing⟩

end Histories

end VolumeHandover
