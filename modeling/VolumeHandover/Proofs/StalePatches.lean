import VolumeHandover.Proofs.CompleteHandover

set_option autoImplicit false

/-! # Patches of claims that may have changed

A claim is patched by namespace and name, whatever has become of it since it was last seen: the
patches of a call ask for no version, and so none is compared. Two of them are good only as long
as the others are considerate.

* The patch that binds the caller's claim takes what is stored under its key by then. That is the
  claim that was asked for, without a volume, if the others see to it (`requested_claim_bound`);
  otherwise the patch takes away a volume that somebody else has given to the claim
  (`sample_claim_rebound`).
* The patch that lifts the protection of the proxy claim writes a list of finalizers that comes
  from the claim as it was delivered by the watch. The other finalizers are kept if nobody changes
  those of a bound claim (`other_finalizers_kept`); otherwise the patch drops one that has been
  added meanwhile (`sample_finalizer_lost`).
-/

namespace VolumeHandover

open Provision

/-- The key of the claim that a request patches, and the patch. -/
def Request.claimPatch? : Request → Option (String × Json)
  | .call (.patchClaim space name patch) => some (keyIn space name, patch)
  | _ => none

/-- A patch is applied to the claim under a key, which turns from `old` into `new`. -/
structure Occurrence.Patches (x : Occurrence) (key : String) (patch : Json) (old new : Claim) :
    Prop where
  request : x.exchange.request.claimPatch? = some (key, patch)
  before : x.before.claim? key = some old
  result : Cluster.patched old patch = .ok new
  after : x.after.claim? key = some new

theorem Occurrence.Patches.not_none {x : Occurrence} {key : String} {patch : Json}
    {old new : Claim} (h : x.Patches key patch old new) :
    x.exchange.request.claimPatch? ≠ none := by
  rw [h.request]
  exact Option.some_ne_none _

/-- The claim under a key before and after it has been patched, if that is what happens. -/
def Occurrence.patch? (key : String) (x : Occurrence) : Option (Claim × Claim) := do
  let (k, patch) ← x.exchange.request.claimPatch?
  let old ← x.before.claim? key
  let new ← x.after.claim? key
  if k = key ∧ Cluster.patched old patch = .ok new then some (old, new) else none

theorem Occurrence.patch?_eq_some_iff {key : String} {x : Occurrence} {old new : Claim} :
    x.patch? key = some (old, new) ↔ ∃ patch, x.Patches key patch old new := by
  constructor
  · intro h
    obtain ⟨⟨k, patch⟩, request, h⟩ := Option.bind_eq_some_iff.mp h
    obtain ⟨old', before, h⟩ := Option.bind_eq_some_iff.mp h
    obtain ⟨new', after, h⟩ := Option.bind_eq_some_iff.mp h
    obtain ⟨⟨rfl, result⟩, same⟩ := Option.ite_none_right_eq_some.mp h
    obtain ⟨rfl, rfl⟩ := Prod.mk.inj (Option.some.inj same)
    exact ⟨patch, request, before, result, after⟩
  · rintro ⟨patch, request, before, result, after⟩
    simp [patch?, request, before, after, result]

/-- A patch that lifts the protection of a claim binds no claim. -/
theorem stripProtection_ne_bindClaim (finalizers : List String) (provisioner volume : String) :
    Patch.stripProtection finalizers ≠ Patch.bindClaim provisioner volume := by
  rw [Claim.bindClaim_eq]
  intro same
  exact absurd (congrArg List.length (Json.object.inj same)) (by simp [putEntry])

/-- An end about which the same can be said whatever the result is. -/
theorem ends_of {α : Type} {k : Contract} {good : α → Assertion k} {bad : Error → Assertion k}
    {s : Cluster} (ok : ∀ a, good a s) (failed : ∀ e, bad e s) (result : Except Error α) :
    Ends good bad result s := by
  cases result with
  | ok a => exact ok a
  | error e => exact failed e

/-- An attempt after which the same is known, whether another one is needed or not. -/
theorem ends_again {α : Type} {k : Contract} {p : Assertion k} {s : Cluster} (h : p s)
    (result : Except Error α) : Ends (fun _ => p) (fun _ => .given True p) result s := by
  have failed : Assertion.given True p s := ⟨trivial, h⟩
  exact ends_of (fun _ => h) (fun _ => failed) result

/-! ## The patch that binds the caller's claim -/

/-- The claim is the one that was asked for, and it names no volume. -/
structure ProvisionOptions.Awaits (options : ProvisionOptions) (claim : Claim) : Prop where
  uid : claim.metadata.uid = options.claim.metadata.uid
  unbound : claim.volumeName? = none

/-- The claim that is stored under the key of the caller's claim, if any, is the one that was asked
for, and it names no volume. -/
def Cluster.Awaits (options : ProvisionOptions) (s : Cluster) : Prop :=
  s.Stores options.Awaits options.claim.key

/-- The others see to it that the caller's claim is not replaced and not bound, and if a claim is
bound then it is the one that was asked for. -/
def rebinding (options : ProvisionOptions) : Contract where
  others s s' := s.Awaits options → s'.Awaits options
  owed x := ∀ key provisioner volume old new,
    x.Patches key (Patch.bindClaim provisioner volume) old new →
      key = options.claim.key ∧ options.Awaits old

namespace Rebinding

variable {options : ProvisionOptions}

/-- The requests in front of the patch: they create another claim, and patch claims only to lift
their protection. -/
inductive Sparing (options : ProvisionOptions) : Request → Prop
  | create {claim : Claim} (other : claim.key ≠ options.claim.key) :
      Sparing options (.call (.createClaim claim))
  | strip {space name : String} (finalizers : List String) :
      Sparing options (.call (.patchClaim space name (Patch.stripProtection finalizers)))
  | other {r : Request} (create : r.createsClaim = false) (patch : r.claimPatch? = none) :
      Sparing options r

/-- A claim that loses its protection is still the one that was asked for. -/
theorem awaits_unprotected {claim : Claim} (h : options.Awaits claim) (finalizers : List String) :
    options.Awaits (claim.unprotected finalizers) := ⟨h.uid, h.unbound⟩

theorem awaits_step {s s' : Cluster} {r : Request}
    (step : Cluster.ClaimStep options.claim.key s r s') (sparing : Sparing options r)
    (h : s.Awaits options) : s'.Awaits options := by
  intro claim stored
  cases step with
  | kept same => exact h claim (same ▸ stored)
  | created named =>
      cases sparing with
      | create other => exact absurd named other
      | other create => cases create
  | patched named before result after =>
      -- in front of the last patch, the protection is all that a patch takes from a claim
      cases sparing with
      | strip finalizers =>
          rw [Claim.patched_stripProtection] at result
          rw [← Option.some.inj (after.symm.trans stored), ← Except.ok.inj result]
          exact awaits_unprotected (h _ before) finalizers
      | other _ none => cases none
  | removed named present absent =>
      rw [absent] at stored
      cases stored

/-- The caller's claim is as it was asked for. -/
def awaiting : Assertion (rebinding options) where
  holds s := s.Awaits options
  stable _ _ act h := act h

theorem answers_sparing {r : Request} (sparing : Sparing options r)
    {post : r.Answer → Assertion (rebinding options)}
    (goes_on : ∀ answer s, s.Awaits options → post answer s) : Answers awaiting r post := by
  intro s answer s' hs serves _
  refine ⟨fun key provisioner volume old new patches => ?_,
    goes_on answer s' (awaits_step (serves.claimStep _) sparing hs)⟩
  cases sparing with
  | create => exact absurd rfl patches.not_none
  | other _ patch => exact absurd patch patches.not_none
  | strip finalizers =>
      exact absurd (Prod.mk.inj (Option.some.inj patches.request)).2
        (stripProtection_ne_bindClaim finalizers provisioner volume)

/-- The patch itself finds what is stored by then. -/
theorem answers_rebind {space provisioner volume : String}
    (hs : options.claim.metadata.space = some space) :
    Answers awaiting (.call (.patchClaim space options.claim.anyName
      (Patch.bindClaim provisioner volume))) fun answer =>
      Ends (fun _ => (.any : Assertion (rebinding options))) (fun _ => .any) answer := by
  intro s answer s' awaits _ _
  refine ⟨fun key provisioner' volume' old new patches => ?_,
    ends_of (fun _ => trivial) (fun _ => trivial) answer⟩
  obtain ⟨rfl, -⟩ := Prod.mk.inj (Option.some.inj patches.request)
  have key_eq : keyIn space options.claim.anyName = options.claim.key :=
    Claim.keyIn_space hs options.claim.anyName
  exact ⟨key_eq, awaits old (key_eq ▸ patches.before)⟩

/-- A request that patches no claim owes nothing. -/
theorem answers_any {pre : Assertion (rebinding options)} {r : Request}
    (spares : r.claimPatch? = none) {post : r.Answer → Assertion (rebinding options)}
    (holds : ∀ answer s, post answer s) : Answers pre r post :=
  fun _ answer s' _ _ _ =>
    ⟨fun _ _ _ _ _ patches => absurd spares patches.not_none, holds answer s'⟩

/-- What is known of the caller's claim in the course of a handover. -/
def outline {config : Config} {c : StorageClass} {node : Node}
    (distinct : options.claim.key ≠ options.proxyKey) :
    Outline (rebinding options) config options c node where
  start := awaiting
  missing := awaiting
  created := awaiting
  placed := awaiting
  watching _ := awaiting
  bound _ _ := awaiting
  cleared _ := awaiting
  retained _ := awaiting
  stripped _ _ := awaiting
  removed _ := awaiting
  released _ := awaiting
  rebound _ := .any
  good _ := .any
  bad _ := .any
  pauses _ _ _ _ _ _ _ patches := absurd rfl patches.not_none
  homeless _ _ _ _ := trivial
  look space hs := answers_sparing (.other rfl rfl) fun shown s h => by
    cases shown with
    | none => exact h
    | some claim => exact h
  create := answers_sparing (.create fun same => distinct same.symm) fun _ _ h =>
    ends_of (fun _ => h) (fun _ => trivial) _
  place _ := answers_sparing (.other rfl rfl) fun _ _ h => ends_of (fun _ => h) (fun _ => trivial) _
  place_nothing _ _ h := h
  watch _ _ := answers_sparing (.other rfl rfl) fun _ _ h => ends_of (fun _ => h) (fun _ => trivial) _
  await _ := answers_sparing (.other rfl rfl) fun _ _ h => ends_of (fun _ => h) (fun _ => trivial) _
  clear _ _ _ := answers_sparing (.other rfl rfl) fun _ _ h => ends_again h _
  clear_in_vain _ _ _ _ _ _ := trivial
  clear_nothing _ _ _ h := h
  lacking _ _ _ _ _ := trivial
  retain _ := answers_sparing (.other rfl rfl) fun _ _ h => ends_of (fun _ => h) (fun _ => trivial) _
  strip _ := answers_sparing (.strip _) fun _ _ h => ends_of (fun _ => h) (fun _ => trivial) _
  remove _ _ := answers_sparing (.other rfl rfl) fun _ _ h => ends_again h _
  remove_in_vain _ _ _ _ _ := trivial
  forget _ := answers_sparing (.other rfl rfl) fun _ _ h => ends_of (fun _ => h) (fun _ => trivial) _
  rebind _ _ hs := answers_rebind hs
  settle _ _ := answers_any rfl fun _ _ => ends_of (fun _ => trivial) (fun _ => trivial) _
  settle_nothing _ _ _ _ := trivial

end Rebinding

/-- **A call binds the claim that was asked for**, and takes no volume away from it, if the others
neither replace the claim nor bind it. -/
theorem requested_claim_bound {others : Cluster → Cluster → Prop} {s s' : Cluster} {call : Call}
    (history : History others s call.occurrences s')
    (run : (provision call.config call.options).Traces call.exchanges call.result)
    (distinct : call.options.claim.anyName ≠ call.options.volumeName)
    (begins : s.Awaits call.options)
    (considerate : ∀ s s', others s s' → s.Awaits call.options → s'.Awaits call.options) :
    ∀ x ∈ call.occurrences, ∀ key provisioner volume old new,
      x.Patches key (Patch.bindClaim provisioner volume) old new →
        key = call.options.claim.key ∧ call.options.Awaits old ∧
          new = old.boundTo provisioner volume := by
  have history : History (rebinding call.options).others s call.occurrences s' :=
    history.mono considerate
  have looks : ∀ s l answer, (rebinding call.options).owed ⟨s, ⟨.find l, answer⟩, s⟩ :=
    fun _ _ _ _ _ _ _ _ patches => absurd rfl patches.not_none
  have owed := (history.provision (fun _ _ => trivial) looks run
    (fun _ _ => Rebinding.outline (ProvisionOptions.claim_ne_proxy distinct))
    fun _ _ => begins).1
  intro x hx key provisioner volume old new patches
  obtain ⟨same, awaits⟩ := owed x hx key provisioner volume old new patches
  have result := patches.result
  rw [Claim.patched_bindClaim] at result
  exact ⟨same, awaits, (Except.ok.inj result).symm⟩

namespace Sample

/-- A call to provision the claim `apps/data` on the node `near` in a world. -/
def callIn (w : World) (config : Config) : Call where
  config
  options := options "near" "a"
  occurrences := (provision config (options "near" "a")).trail w
  result := some (w.run (provision config (options "near" "a"))).1

theorem callIn_history {w : World} (allowed : ClientAction → Prop) (config : Config)
    (sound : w.Sound) (all : ∀ e ∈ w.agenda, allowed e.2) :
    ∃ s', History (Cluster.Performs allowed) w.cluster (callIn w config).occurrences s' :=
  ⟨_, (Program.history_trail _ sound all).1⟩

theorem callIn_traces (w : World) (config : Config) :
    (provision (callIn w config).config (callIn w config).options).Traces
      (callIn w config).exchanges (callIn w config).result := by
  rw [Call.exchanges]
  exact Program.exchanges_trail _ w ▸ Program.traces_run _ _ _

/-- A world in which the backend takes two seconds to bind the proxy claim. -/
def leisurely : World where
  cluster := { zones with switches := {} }
  agenda := [(2000, .bindClaim "apps" "pvc-u")]

/-- While the proxy claim is waited for, another client binds `apps/data` to a volume of its
own. -/
def overtaken : World :=
  leisurely.schedule 1000
    (.patchClaim "apps" "data" (.object [("spec", .object [("volumeName", .text "pv-other")])]))

end Sample

/-- A claim to which somebody else has given a volume meanwhile is bound to another one. -/
theorem sample_claim_rebound :
    Sample.overtaken.cluster.Awaits (Sample.options "near" "a") ∧
    ((Sample.callIn Sample.overtaken {}).occurrences.filterMap (·.patch? "apps/data")).map
        (fun (old, new) => (old.volumeName?, new.volumeName?)) =
      [(some "pv-other", some "pv-pvc-u")] := by
  refine ⟨fun claim stored => ?_, by decide +kernel⟩
  rw [← Option.some.inj ((show _ = some _ from rfl).symm.trans stored)]
  exact ⟨rfl, rfl⟩

theorem sample_requested_claim_bound :
    ((Sample.callIn Sample.leisurely {}).occurrences.filterMap (·.patch? "apps/data")).map
        (fun (old, new) => (old.volumeName?, new.volumeName?)) = [(none, some "pv-pvc-u")] ∧
    ∀ x ∈ (Sample.callIn Sample.leisurely {}).occurrences, ∀ key provisioner volume old new,
      x.Patches key (Patch.bindClaim provisioner volume) old new →
        key = "apps/data" ∧ (Sample.options "near" "a").Awaits old ∧
          new = old.boundTo provisioner volume := by
  refine ⟨by decide +kernel, ?_⟩
  have sound : Sample.leisurely.Sound :=
    ⟨fun _ h => absurd h List.not_mem_nil, List.pairwise_singleton ..⟩
  obtain ⟨s', history⟩ := Sample.callIn_history (· = .bindClaim "apps" "pvc-u") {} sound
    (by simp [Sample.leisurely])
  refine requested_claim_bound history (Sample.callIn_traces _ {}) (by decide)
    (fun claim stored => ?_) fun s s' act awaits claim stored => ?_
  · rw [← Option.some.inj ((show _ = some _ from rfl).symm.trans stored)]
    exact ⟨rfl, rfl⟩
  · obtain ⟨_, rfl, rfl⟩ := act
    refine awaits claim ?_
    rw [← stored]
    rcases s.bindClaim_cases (keyIn "apps" "pvc-u") with same | ⟨_, -, claims, -⟩
    · exact congrArg (·.claim? "apps/data") same.symm
    · exact ((claims _).trans (if_neg (by decide))).symm

/-! ## The patch that lifts the protection of the proxy claim -/

/-- The finalizers of a claim but the one that protects it. -/
def Claim.otherFinalizers (c : Claim) : List String :=
  c.finalizers.filter (· ≠ protectionFinalizer)

theorem Claim.finalizers_unprotected (c : Claim) (finalizers : List String) :
    (c.unprotected finalizers).finalizers = finalizers.filter (· ≠ protectionFinalizer) := by
  unfold unprotected Claim.finalizers
  dsimp only
  split
  case isTrue none => exact (List.isEmpty_iff.mp none).symm
  case isFalse => rfl

/-- All that matters to the patch are the other finalizers. -/
theorem Claim.unprotected_congr (c : Claim) {finalizers finalizers' : List String}
    (same : finalizers.filter (· ≠ protectionFinalizer) =
      finalizers'.filter (· ≠ protectionFinalizer)) :
    c.unprotected finalizers = c.unprotected finalizers' := by
  unfold unprotected
  rw [same]

namespace Cluster

variable {s s' : Cluster} {key : String} {finalizers : List String}

/-- The claim under a key is bound and has the given finalizers besides its protection. -/
def Bears (key : String) (finalizers : List String) (s : Cluster) : Prop :=
  ∃ claim, s.claim? key = some claim ∧ claim.isBound = true ∧ claim.otherFinalizers = finalizers

/-- A step that watches learn of, and after which a bound claim is still there, bound and with
the same other finalizers. -/
structure KeepsFinalizers (key : String) (s s' : Cluster) : Prop where
  reports : Reports key s s'
  bears : ∀ finalizers, s.Bears key finalizers → s'.Bears key finalizers

theorem Bears.of_same (h : s.Bears key finalizers) (same : s'.claim? key = s.claim? key) :
    s'.Bears key finalizers := by
  unfold Bears
  rw [same]
  exact h

theorem bears_of_bound {claim : Claim} (stored : s.claim? key = some claim)
    (bound : claim.isBound = true) : s.Bears key claim.otherFinalizers :=
  ⟨claim, stored, bound, rfl⟩

/-- The backend gives a claim nothing but its protection. -/
theorem bindClaim_keepsFinalizers (s : Cluster) (key : String) :
    s.KeepsFinalizers key (s.bindClaim key) := by
  refine ⟨s.bindClaim_reports key key, fun finalizers bears => ?_⟩
  rcases s.bindClaim_cases key with same | ⟨claim, stored, claims, -⟩
  · rw [same]
    exact bears
  · obtain ⟨claim', stored', -, rfl⟩ := bears
    obtain rfl := Option.some.inj (stored.symm.trans stored')
    refine ⟨boundClaim claim, (claims key).trans (if_pos rfl), rfl, ?_⟩
    show (claim.finalizers ++ [protectionFinalizer]).filter _ = claim.finalizers.filter _
    rw [List.filter_append]
    simp

end Cluster

/-- The others keep the other finalizers of a bound claim, and if its protection is lifted then it
is left the other finalizers that it has. -/
def unprotecting (key : String) : Contract where
  others s s' := s.KeepsFinalizers key s'
  owed x := ∀ finalizers old new, x.Patches key (Patch.stripProtection finalizers) old new →
    new = old.unprotected old.finalizers

namespace Unprotecting

variable {key : String}

/-- The bound claim that a watch delivers has the other finalizers of the one that is stored. -/
def watching (watch : Watch) : Assertion (unprotecting key) where
  holds s := s.Tracks (fun claim s => s.Bears key claim.otherFinalizers) key watch.number
  stable _ _ act h := h.step act.reports (fun _ _ => act.bears _) fun _ bound stored =>
    Cluster.bears_of_bound stored bound

/-- The proxy claim has the other finalizers that it had when it was found to be bound. -/
def bearing (b : BoundClaim) : Assertion (unprotecting key) where
  holds s := s.Bears key b.val.otherFinalizers
  stable _ _ act h := act.bears _ h

/-- A request that patches no claim owes nothing. -/
theorem owed_of_none {s s' : Cluster} {x : Exchange} (none : x.request.claimPatch? = none) :
    (unprotecting key).owed ⟨s, x, s'⟩ :=
  fun _ _ _ patches => absurd none patches.not_none

theorem answers_any {pre : Assertion (unprotecting key)} {r : Request}
    (other : r.claimPatch? = none) {post : r.Answer → Assertion (unprotecting key)}
    (holds : ∀ answer s, post answer s) : Answers pre r post :=
  fun _ answer s' _ _ _ => ⟨owed_of_none other, holds answer s'⟩

theorem answers_watch {pre : Assertion (unprotecting key)} {space name : String}
    (named : keyIn space name = key) : Answers pre (.call (.watchClaim space name)) fun answer =>
      Ends watching (fun _ => .any) answer := by
  intro s answer s' _ serves _
  refine ⟨owed_of_none rfl, ?_⟩
  cases answer with
  | error e => trivial
  | ok watch =>
      obtain ⟨hw, rfl⟩ := Prod.mk.inj serves.call_eq
      obtain rfl := Except.ok.inj hw
      exact Cluster.tracks_watchClaim named fun _ stored bound =>
        Cluster.bears_of_bound stored bound

theorem answers_await (watch : Watch) (name : String) (timeout : Duration) :
    Answers (watching watch) (.awaitBound watch timeout) fun awaited =>
      Ends (fun b => (bearing b : Assertion (unprotecting key))) (fun _ => .any)
        (awaited.result name timeout) := by
  intro s awaited s' hs serves _
  refine ⟨owed_of_none rfl, ?_⟩
  show Ends bearing (fun _ => .any) (awaited.result name timeout) s'
  cases hr : awaited.result name timeout with
  | error e => trivial
  | ok bound =>
      have delivered := (result_eq_ok_iff name timeout bound awaited).mpr hr
      rw [delivered] at serves
      have bears := hs.delivered serves
      obtain ⟨watches, rfl⟩ := serves.eq_of_not_call fun _ => Request.noConfusion
      exact bears

/-- A call that is about no claim changes no finalizers. -/
theorem answers_kept {b : BoundClaim} {c : ApiCall} (other : c.claimKey? = none)
    {post : Except Error c.Answer → Assertion (unprotecting key)}
    (goes_on : ∀ answer s, s.Bears key b.val.otherFinalizers → post answer s) :
    Answers (bearing b) (.call c) post := by
  intro s answer s' hs serves _
  refine ⟨owed_of_none ?_, goes_on answer s' (hs.of_same (serves.elsewhere ?_))⟩
  · cases c with
    | patchClaim => cases other
    | _ => rfl
  · rw [other]
    exact nofun

/-- The list that the patch writes comes from the claim as it was delivered. -/
theorem answers_strip (h : Holder) : Answers (bearing h.claim)
    (.call (.patchClaim h.space h.claim.val.anyName
      (Patch.stripProtection h.claim.val.finalizers))) fun answer =>
      Ends (fun _ => (.any : Assertion (unprotecting key))) (fun _ => .any) answer := by
  intro s answer s' hs _ _
  refine ⟨fun finalizers old new patches => ?_,
    ends_of (fun _ => trivial) (fun _ => trivial) answer⟩
  -- the stored claim may differ from the delivered one in its protection, which makes no
  -- difference to what is written
  obtain ⟨claim, stored, -, same⟩ := hs
  obtain rfl := Option.some.inj (patches.before.symm.trans stored)
  have result := patches.result
  rw [← (Prod.mk.inj (Option.some.inj patches.request)).2, Claim.patched_stripProtection]
    at result
  rw [← Except.ok.inj result]
  exact old.unprotected_congr same.symm

/-- What is known of the proxy claim in the course of a handover. -/
def outline {config : Config} {options : ProvisionOptions} {c : StorageClass} {node : Node}
    (named : options.proxyKey = key) : Outline (unprotecting key) config options c node where
  start := .any
  missing := .any
  created := .any
  placed := .any
  watching := watching
  bound b _ := bearing b
  cleared := bearing
  retained h := bearing h.claim
  stripped _ _ := .any
  removed _ := .any
  released _ := .any
  rebound _ := .any
  good _ := .any
  bad _ := .any
  pauses _ _ := owed_of_none rfl
  homeless _ _ _ _ := trivial
  look _ _ := answers_any rfl fun shown s => by cases shown <;> trivial
  create := answers_any rfl fun _ _ => ends_of (fun _ => trivial) (fun _ => trivial) _
  place _ := answers_any rfl fun _ _ => ends_of (fun _ => trivial) (fun _ => trivial) _
  place_nothing _ _ _ := trivial
  watch space hs := answers_watch ((Claim.keyIn_space hs _).trans named)
  await w := answers_await w _ _
  clear _ b _ := answers_kept rfl fun _ _ h => ends_again h _
  clear_in_vain _ _ _ _ _ _ := trivial
  clear_nothing _ _ _ h := h
  lacking _ _ _ _ _ := trivial
  retain _ := answers_kept rfl fun _ _ h => ends_of (fun _ => h) (fun _ => trivial) _
  strip := answers_strip
  remove _ _ := answers_any rfl fun _ _ => ends_again trivial _
  remove_in_vain _ _ _ _ _ := trivial
  forget _ := answers_any rfl fun _ _ => ends_of (fun _ => trivial) (fun _ => trivial) _
  rebind _ _ _ := fun _ answer _ _ _ _ =>
    ⟨fun finalizers _ _ patches => absurd (Prod.mk.inj (Option.some.inj patches.request)).2.symm
      (stripProtection_ne_bindClaim finalizers _ _),
    ends_of (fun _ => trivial) (fun _ => trivial) answer⟩
  settle _ _ := answers_any rfl fun _ _ => ends_of (fun _ => trivial) (fun _ => trivial) _
  settle_nothing _ _ _ _ := trivial

end Unprotecting

/-- **No finalizer of others is lost** when a call lifts the protection of the proxy claim, and
none comes back, if the others leave those of a bound claim as they are. -/
theorem other_finalizers_kept {others : Cluster → Cluster → Prop} {s s' : Cluster} {call : Call}
    (history : History others s call.occurrences s')
    (run : (provision call.config call.options).Traces call.exchanges call.result)
    (considerate : ∀ s s', others s s' → s.KeepsFinalizers call.options.proxyKey s') :
    ∀ x ∈ call.occurrences, ∀ finalizers old new,
      x.Patches call.options.proxyKey (Patch.stripProtection finalizers) old new →
        new = old.unprotected old.finalizers ∧ new.finalizers = old.otherFinalizers := by
  have history : History (unprotecting call.options.proxyKey).others s call.occurrences s' :=
    history.mono considerate
  have owed := (history.provision (fun _ _ => trivial)
    (fun _ _ _ => Unprotecting.owed_of_none rfl) run
    (fun _ _ => Unprotecting.outline rfl) fun _ _ => trivial).1
  intro x hx finalizers old new patches
  have same := owed x hx finalizers old new patches
  exact ⟨same, same ▸ old.finalizers_unprotected old.finalizers⟩

namespace Sample

/-- A world in which the proxy claim of an earlier attempt has a finalizer of another client, the
backend takes a second to bind it, and a deletion of a pod is refused. -/
def backedUp : World where
  cluster := { zones.addClaim
    { claim "apps" "pvc-u" "p" "here" with
      metadata := { (claim "apps" "pvc-u" "p" "here").metadata with
        finalizers := some ["example.com/backup"] } } with
    switches := { podDeleteFailures := 1 } }
  agenda := [(1000, .bindClaim "apps" "pvc-u")]

/-- While the call waits to delete the pod again, another client adds a finalizer to the proxy
claim. -/
def guarded : World :=
  backedUp.schedule 5000 (.patchClaim "apps" "pvc-u" (.object [("metadata", .object
    [("finalizers", .texts
      ["example.com/backup", protectionFinalizer, "example.com/snapshot"])])]))

/-- Meanwhile the backend binds the proxy claim once more. -/
def boundTwice : World := backedUp.schedule 5000 (.bindClaim "apps" "pvc-u")

end Sample

/-- A finalizer that another client has added to the bound proxy claim is lost. -/
theorem sample_finalizer_lost :
    ((Sample.callIn Sample.guarded { method := .pod }).occurrences.filterMap
        (·.patch? "apps/pvc-u")).map (fun (old, new) => (old.finalizers, new.finalizers)) =
      [(["example.com/backup", protectionFinalizer, "example.com/snapshot"],
        ["example.com/backup"])] := by
  decide +kernel

theorem sample_other_finalizers_kept :
    ((Sample.callIn Sample.boundTwice { method := .pod }).occurrences.filterMap
        (·.patch? "apps/pvc-u")).map (fun (old, new) => (old.finalizers, new.finalizers)) =
      [(["example.com/backup", protectionFinalizer, protectionFinalizer],
        ["example.com/backup"])] ∧
    ∀ x ∈ (Sample.callIn Sample.boundTwice { method := .pod }).occurrences,
      ∀ finalizers old new, x.Patches "apps/pvc-u" (Patch.stripProtection finalizers) old new →
        new = old.unprotected old.finalizers ∧ new.finalizers = old.otherFinalizers := by
  refine ⟨by decide +kernel, ?_⟩
  have sound : Sample.boundTwice.Sound := by
    refine ⟨fun _ h => absurd h List.not_mem_nil, ?_⟩
    simp [Sample.boundTwice, Sample.backedUp, World.schedule]
  obtain ⟨s', history⟩ := Sample.callIn_history (· = .bindClaim "apps" "pvc-u")
    { method := .pod } sound (by simp [Sample.boundTwice, Sample.backedUp, World.schedule])
  refine other_finalizers_kept history (Sample.callIn_traces _ _) fun s s' act => ?_
  obtain ⟨_, rfl, rfl⟩ := act
  exact s.bindClaim_keepsFinalizers "apps/pvc-u"

end VolumeHandover
