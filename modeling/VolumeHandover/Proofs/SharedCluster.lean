import VolumeHandover.Proofs.Entries
import VolumeHandover.Proofs.Trace
import Mathlib.Data.List.Forall2
import Mathlib.Logic.Relation

set_option autoImplicit false

/-! # A cluster shared with others

A `History` is what happens to a cluster while programs put their requests to it and others act
on it in between. The cluster serves a call, or the call fails, with or without having taken
effect. Caches may show anything, and a watch delivers nothing but what was stored or happened
since it began. `ClaimStep` says all that a request can do to the claim under a key, and
`Reports` what a watch can learn from it.

Calls to provision that follow each other on one cluster form a `Session`.
-/

namespace VolumeHandover

/-! ## Serving requests -/

namespace Subscription

/-- A watch is a later stage of another: it was read, or nothing happened to it. -/
structure Advances (w w' : Subscription) : Prop where
  key : w'.key = w.key
  initial : w'.initial = w.initial ∨ w'.initial = none
  next : ∀ m ∈ w'.next, ∃ n ∈ w.next, n ≤ m

theorem Advances.refl (w : Subscription) : w.Advances w :=
  ⟨rfl, .inl rfl, fun m hm => ⟨m, hm, Nat.le_refl m⟩⟩

/-- The versions of the claim that a watch has still to deliver. -/
def Offers (w : Subscription) (events : List (String × ClaimEvent)) (claim : Claim) : Prop :=
  w.initial = some claim ∨ ∃ n ∈ w.next, (w.key, ClaimEvent.applied claim) ∈ events.drop n

variable {w w' : Subscription} {events more : List (String × ClaimEvent)} {claim : Claim}

/-- What a later stage of a watch has to deliver, the watch has to deliver as well. -/
theorem Advances.offers (h : w.Advances w') (offers : w'.Offers events claim) :
    w.Offers events claim := by
  rcases offers with initial | ⟨m, hm, event⟩
  · rcases h.initial with same | none
    · exact .inl (same ▸ initial)
    · rw [none] at initial
      cases initial
  · obtain ⟨n, hn, le⟩ := h.next m hm
    rw [h.key] at event
    exact .inr ⟨n, hn, List.drop_subset_drop_left _ le event⟩

theorem Offers.append (offers : w.Offers events claim) : w.Offers (events ++ more) claim := by
  rcases offers with initial | ⟨n, hn, event⟩
  · exact .inl initial
  · refine .inr ⟨n, hn, ?_⟩
    rw [List.drop_append]
    exact List.mem_append_left _ event

/-- What a watch has to deliver was there before, or is among the events that were added. -/
theorem offers_append (offers : w.Offers (events ++ more) claim) :
    w.Offers events claim ∨ (w.key, ClaimEvent.applied claim) ∈ more := by
  rcases offers with initial | ⟨n, hn, event⟩
  · exact .inl (.inl initial)
  · rw [List.drop_append] at event
    rcases List.mem_append.mp event with old | new
    · exact .inl (.inr ⟨n, hn, old⟩)
    · exact .inr (List.mem_of_mem_drop new)

end Subscription

namespace Cluster

/-- The cluster can answer a request in a way and be in a state afterwards. -/
inductive Serves : Cluster → Exchange → Cluster → Prop
  | answered (s : Cluster) (c : ApiCall) : Serves s ⟨.call c, (s.call c).1⟩ (s.call c).2
  /-- The call did not reach the cluster. -/
  | refused (s : Cluster) (c : ApiCall) (e : Error) : Serves s ⟨.call c, .error e⟩ s
  /-- The call took effect, but its answer did not come back. -/
  | lost (s : Cluster) (c : ApiCall) (e : Error) : Serves s ⟨.call c, .error e⟩ (s.call c).2
  | found (s : Cluster) (l : Lookup) (answer : Option l.Answer) : Serves s ⟨.find l, answer⟩ s
  | awaited (s : Cluster) {watch : Watch} {timeout : Duration} {answer : Awaited}
      {watches : List Subscription}
      (read : List.Forall₂ Subscription.Advances s.watches watches)
      (honest : ∀ bound, answer = .decided (.bound bound) →
        ∃ w, s.watch? watch = some w ∧ w.Offers s.events bound.val) :
      Serves s ⟨.awaitBound watch timeout, answer⟩ { s with watches }
  | paused (s : Cluster) (interval : Duration) : Serves s ⟨.pause interval, ()⟩ s
  | clock (s : Cluster) (time : Nat) : Serves s ⟨.clock, time⟩ s
  | delegated (s : Cluster) (options : ProvisionOptions) (answer : Except Failure Volume) :
      Serves s ⟨.delegate options, answer⟩ s

/-- The claim under a key. -/
def claim? (s : Cluster) (key : String) : Option Claim := s.objects.claims.get? key

/-! ## What happens to a claim -/

/-- All that a request can do to the claim under a key. -/
inductive ClaimStep (key : String) (s : Cluster) : Request → Cluster → Prop
  | kept {r : Request} {s' : Cluster} (same : s'.claim? key = s.claim? key) :
      ClaimStep key s r s'
  | created {claim stored : Claim} {s' : Cluster} (named : claim.key = key)
      (absent : s.claim? key = none) (present : s'.claim? key = some stored)
      (fresh : stored = claim ∨ stored = boundClaim claim) :
      ClaimStep key s (.call (.createClaim claim)) s'
  | patched {space name : String} {patch : Json} {old new : Claim} {s' : Cluster}
      (named : keyIn space name = key) (before : s.claim? key = some old)
      (result : Cluster.patched old patch = .ok new) (after : s'.claim? key = some new) :
      ClaimStep key s (.call (.patchClaim space name patch)) s'
  | removed {space name : String} {claim : Claim} {s' : Cluster}
      (named : keyIn space name = key) (present : s.claim? key = some claim)
      (absent : s'.claim? key = none) :
      ClaimStep key s (.call (.deleteClaim space name)) s'

/-- What a watch can learn of a step: events are only added, those that show the claim under
the key show it as it is stored afterwards, and watches are read at most. -/
structure Reports (key : String) (s s' : Cluster) : Prop where
  events : ∃ more, s'.events = s.events ++ more ∧
    ∀ claim, (key, ClaimEvent.applied claim) ∈ more → s'.claim? key = some claim
  watches : ∀ (n : Nat) (w : Subscription), s.watches[n]? = some w →
    ∃ w', s'.watches[n]? = some w' ∧ w.Advances w'

theorem reports_of_same {key : String} {s s' : Cluster} (events : s'.events = s.events)
    (watches : s'.watches = s.watches) : Reports key s s' := by
  refine ⟨⟨[], by rw [events, List.append_nil], fun claim hc => ?_⟩, fun n w hw => ?_⟩
  · exact absurd hc List.not_mem_nil
  · exact ⟨w, by rw [watches, hw], .refl w⟩

/-- A claim is stored, and shown by an event. -/
theorem reports_of_applied {key k : String} {claim : Claim} {s s' : Cluster}
    (events : s'.events = s.events ++ [(k, .applied claim)]) (watches : s'.watches = s.watches)
    (stored : s'.claim? k = some claim) : Reports key s s' := by
  refine ⟨⟨_, events, fun c hc => ?_⟩, fun n w hw => ⟨w, by rw [watches, hw], .refl w⟩⟩
  obtain ⟨rfl, he⟩ := Prod.mk.inj (List.mem_singleton.mp hc)
  rw [stored, ClaimEvent.applied.inj he]

section Calls

variable (s : Cluster) (key : String)

/-- A step that leaves the claims, the events and the watches alone. -/
theorem claimStep_of_same {r : Request} {s' : Cluster}
    (claims : s'.objects.claims = s.objects.claims) : ClaimStep key s r s' :=
  .kept (by rw [claim?, claims, claim?])

/-- A claim is created only where there is none. It may be bound at once. -/
theorem createClaim_cases (claim : Claim) :
    (s.createClaim claim).2 = s.record (.createClaim claim.key) ∨
    s.claim? claim.key = none ∧ ∃ stored, (stored = claim ∨ stored = boundClaim claim) ∧
      (∀ k, (s.createClaim claim).2.claim? k =
        if k = claim.key then some stored else s.claim? k) ∧
      (s.createClaim claim).2.events = s.events ++ [(claim.key, .applied stored)] ∧
      (s.createClaim claim).2.watches = s.watches := by
  unfold createClaim
  by_cases hc : (s.record (.createClaim claim.key)).objects.claims.contains claim.key = true
  · exact .inl (congrArg Prod.snd (if_pos hc))
  · have absent : s.claim? claim.key = none := by
      rwa [Table.contains, Option.not_isSome_iff_eq_none] at hc
    refine .inr ⟨absent, ?_⟩
    simp only [if_neg hc]
    by_cases hb : s.switches.bindOnCreate = true
    · refine ⟨boundClaim claim, .inr rfl, fun k => ?_, ?_, ?_⟩
      all_goals simp only [record, withClaims, withVolumes, backendBind, emit, claim?, hb,
        Table.get?_insert_self, if_true, Option.map_some, Option.getD_some]
      by_cases hk : k = claim.key
      · rw [if_pos hk, hk, Table.get?_insert_self]
      · rw [if_neg hk, Table.get?_insert_of_ne _ hk, Table.get?_insert_of_ne _ hk]
    · refine ⟨claim, .inl rfl, fun k => ?_, ?_, ?_⟩
      all_goals simp only [record, withClaims, emit, claim?, hb, if_false, Bool.false_eq_true]
      exact Table.get?_insert _

/-- A claim is patched only where there is one and what comes out is a claim. -/
theorem patchClaim_cases (space name : String) (patch : Json) :
    (s.patchClaim space name patch).2 = s.recordPatch (keyIn space name) patch ∨
    ∃ old new, s.claim? (keyIn space name) = some old ∧ Cluster.patched old patch = .ok new ∧
      (∀ k, (s.patchClaim space name patch).2.claim? k =
        if k = keyIn space name then some new else s.claim? k) ∧
      (s.patchClaim space name patch).2.events =
        s.events ++ [(keyIn space name, .applied new)] ∧
      (s.patchClaim space name patch).2.watches = s.watches := by
  cases hc : s.objects.claims.get? (keyIn space name) with
  | none => exact .inl (by simp only [patchClaim, recordPatch, record, hc])
  | some old =>
      cases hp : Cluster.patched old patch with
      | error e => exact .inl (by simp only [patchClaim, recordPatch, record, hc, hp])
      | ok new =>
          refine .inr ⟨old, new, hc, hp, fun k => ?_, ?_, ?_⟩
          all_goals simp only [patchClaim, recordPatch, record, withClaims, emit, claim?, hc, hp]
          exact Table.get?_insert _

/-- A claim is deleted only where there is one. -/
theorem deleteClaim_cases (space name : String) :
    ((s.deleteClaim space name).2.objects = s.objects ∧
      (s.deleteClaim space name).2.events = s.events ∧
      (s.deleteClaim space name).2.watches = s.watches) ∨
    ∃ claim, s.claim? (keyIn space name) = some claim ∧
      (∀ k, (s.deleteClaim space name).2.claim? k =
        if k = keyIn space name then none else s.claim? k) ∧
      (s.deleteClaim space name).2.events = s.events ++ [(keyIn space name, .deleted)] ∧
      (s.deleteClaim space name).2.watches = s.watches := by
  cases hf : s.switches.claimDeleteFailures with
  | succ left => exact .inl (by simp only [deleteClaim, record, hf, and_self])
  | zero =>
      cases hc : s.objects.claims.get? (keyIn space name) with
      | none => exact .inl (by simp only [deleteClaim, record, hf, hc, and_self])
      | some claim =>
          refine .inr ⟨claim, hc, fun k => ?_, ?_, ?_⟩
          all_goals simp only [deleteClaim, record, withClaims, emit, claim?, hf, hc]
          exact Table.get?_erase _

/-- Nothing happens to claims, events and watches. -/
structure Untouched (s s' : Cluster) : Prop where
  claims : s'.objects.claims = s.objects.claims
  events : s'.events = s.events
  watches : s'.watches = s.watches

theorem createPod_untouched (pod : Pod) : s.Untouched (s.createPod pod).2 := by
  unfold createPod
  dsimp only
  split <;> exact ⟨rfl, rfl, rfl⟩

theorem deletePod_untouched (space name : String) : s.Untouched (s.deletePod space name).2 := by
  unfold deletePod
  dsimp only
  split
  · exact ⟨rfl, rfl, rfl⟩
  · split <;> exact ⟨rfl, rfl, rfl⟩

theorem createVolume_untouched (volume : Volume) : s.Untouched (s.createVolume volume).2 := by
  unfold createVolume
  dsimp only
  split <;> exact ⟨rfl, rfl, rfl⟩

theorem patchVolume_untouched (name : String) (patch : Json) :
    s.Untouched (s.patchVolume name patch).2 := by
  unfold patchVolume
  dsimp only
  split
  · exact ⟨rfl, rfl, rfl⟩
  · split <;> exact ⟨rfl, rfl, rfl⟩

theorem claimStep_call (c : ApiCall) : ClaimStep key s (.call c) (s.call c).2 := by
  cases c with
  | createClaim claim =>
      rcases s.createClaim_cases claim with h | ⟨absent, stored, fresh, claims, -, -⟩
      · exact claimStep_of_same s key (congrArg (·.objects.claims) h)
      · by_cases hk : key = claim.key
        · refine .created hk.symm (hk ▸ absent) ?_ fresh
          exact (claims key).trans (if_pos hk)
        · exact .kept ((claims key).trans (if_neg hk))
  | patchClaim space name patch =>
      rcases s.patchClaim_cases space name patch with h | ⟨old, new, before, result, claims, -, -⟩
      · exact claimStep_of_same s key (congrArg (·.objects.claims) h)
      · by_cases hk : key = keyIn space name
        · exact .patched hk.symm (hk ▸ before) result ((claims key).trans (if_pos hk))
        · exact .kept ((claims key).trans (if_neg hk))
  | deleteClaim space name =>
      rcases s.deleteClaim_cases space name with ⟨h, -, -⟩ | ⟨claim, present, claims, -, -⟩
      · exact claimStep_of_same s key (congrArg (·.claims) h)
      · by_cases hk : key = keyIn space name
        · exact .removed hk.symm (hk ▸ present) ((claims key).trans (if_pos hk))
        · exact .kept ((claims key).trans (if_neg hk))
  | watchClaim space name => exact claimStep_of_same s key rfl
  | createPod pod => exact claimStep_of_same s key (s.createPod_untouched pod).claims
  | deletePod space name =>
      exact claimStep_of_same s key (s.deletePod_untouched space name).claims
  | createVolume volume => exact claimStep_of_same s key (s.createVolume_untouched volume).claims
  | patchVolume name patch =>
      exact claimStep_of_same s key (s.patchVolume_untouched name patch).claims
  | getNode name => exact claimStep_of_same s key rfl

theorem Untouched.reports {s s' : Cluster} (h : s.Untouched s') : Reports key s s' :=
  reports_of_same h.events h.watches

theorem reports_call (c : ApiCall) : Reports key s (s.call c).2 := by
  cases c with
  | createClaim claim =>
      rcases s.createClaim_cases claim with h | ⟨-, stored, -, claims, events, watches⟩
      · exact reports_of_same (congrArg (·.events) h) (congrArg (·.watches) h)
      · exact reports_of_applied events watches ((claims claim.key).trans (if_pos rfl))
  | patchClaim space name patch =>
      rcases s.patchClaim_cases space name patch with h | ⟨-, new, -, -, claims, events, watches⟩
      · exact reports_of_same (congrArg (·.events) h) (congrArg (·.watches) h)
      · exact reports_of_applied events watches ((claims (keyIn space name)).trans (if_pos rfl))
  | deleteClaim space name =>
      rcases s.deleteClaim_cases space name with ⟨-, events, watches⟩ |
        ⟨claim, -, -, events, watches⟩
      · exact reports_of_same events watches
      · refine ⟨⟨_, events, fun c hc => ?_⟩, fun n w hw => ⟨w, ?_, .refl w⟩⟩
        · cases (Prod.mk.inj (List.mem_singleton.mp hc)).2
        · rw [← hw]
          exact congrArg (·[n]?) watches
  | watchClaim space name =>
      refine ⟨⟨[], (List.append_nil _).symm, fun c hc => absurd hc List.not_mem_nil⟩,
        fun n w hw => ⟨w, ?_, .refl w⟩⟩
      obtain ⟨hn, -⟩ := List.getElem?_eq_some_iff.mp hw
      exact (List.getElem?_append_left hn).trans hw
  | createPod pod => exact (s.createPod_untouched pod).reports key
  | deletePod space name => exact (s.deletePod_untouched space name).reports key
  | createVolume volume => exact (s.createVolume_untouched volume).reports key
  | patchVolume name patch => exact (s.patchVolume_untouched name patch).reports key
  | getNode name => exact reports_of_same rfl rfl

end Calls

/-! ## Steps of a served program -/

variable {key : String} {s s' : Cluster} {x : Exchange}

theorem Serves.claimStep (h : s.Serves x s') (key : String) :
    ClaimStep key s x.request s' := by
  cases h with
  | answered c => exact s.claimStep_call key c
  | refused c e => exact .kept rfl
  | lost c e => exact s.claimStep_call key c
  | found l answer => exact .kept rfl
  | awaited read honest => exact .kept rfl
  | paused interval => exact .kept rfl
  | clock time => exact .kept rfl
  | delegated options answer => exact .kept rfl

theorem Serves.reports (h : s.Serves x s') : Reports key s s' := by
  cases h with
  | answered c => exact s.reports_call key c
  | refused c e => exact reports_of_same rfl rfl
  | lost c e => exact s.reports_call key c
  | found l answer => exact reports_of_same rfl rfl
  | awaited read honest =>
      refine ⟨⟨[], (List.append_nil _).symm, fun c hc => absurd hc List.not_mem_nil⟩,
        fun n w hw => ?_⟩
      obtain ⟨hn, rfl⟩ := List.getElem?_eq_some_iff.mp hw
      have hn' : n < _ := read.length_eq ▸ hn
      exact ⟨_, List.getElem?_eq_getElem hn', List.Forall₂.get read hn hn'⟩
  | paused interval => exact reports_of_same rfl rfl
  | clock time => exact reports_of_same rfl rfl
  | delegated options answer => exact reports_of_same rfl rfl

/-- A call that succeeds has been served. -/
theorem Serves.call_eq {c : ApiCall} {a : c.Answer} (h : s.Serves ⟨.call c, .ok a⟩ s') :
    s.call c = (.ok a, s') := by
  generalize hx : (⟨.call c, .ok a⟩ : Exchange) = x at h
  cases h with
  | answered c' =>
      obtain ⟨hr, ha⟩ := Exchange.mk.inj hx
      cases hr
      exact Prod.ext (eq_of_heq ha).symm rfl
  | refused c' e =>
      obtain ⟨hr, ha⟩ := Exchange.mk.inj hx
      cases hr
      cases ha
  | lost c' e =>
      obtain ⟨hr, ha⟩ := Exchange.mk.inj hx
      cases hr
      cases ha
  | found l answer => cases (Exchange.mk.inj hx).1
  | awaited read honest => cases (Exchange.mk.inj hx).1
  | paused interval => cases (Exchange.mk.inj hx).1
  | clock time => cases (Exchange.mk.inj hx).1
  | delegated options answer => cases (Exchange.mk.inj hx).1

/-! ## What a watch has still to deliver -/

/-- The claim under a key has a property, and so has every version of it that a watch has still
to deliver. -/
structure Pending (p : Claim → Prop) (key : String) (number : Nat) (s : Cluster) : Prop where
  stored : ∀ claim, s.claim? key = some claim → p claim
  watch : ∃ w, s.watches[number]? = some w ∧ w.key = key ∧
    ∀ claim, w.Offers s.events claim → p claim

variable {p : Claim → Prop} {number : Nat}

/-- A watch begins with the claim as it is. -/
theorem pending_watchClaim {space name : String} (named : keyIn space name = key)
    (stored : ∀ claim, s.claim? key = some claim → p claim) :
    Pending p key (s.watchClaim space name).1.number (s.watchClaim space name).2 := by
  refine ⟨stored, _, List.getElem?_concat_length, named, fun claim offers => ?_⟩
  rcases offers with initial | ⟨n, hn, event⟩
  · exact stored claim (named ▸ initial)
  · -- a new watch begins behind all events so far
    have end_reached : (s.watchClaim space name).2.events.drop n = [] := by
      refine List.drop_eq_nil_of_le ?_
      by_cases hc : s.switches.closeWatches = true
      · simp [hc] at hn
      · simp only [hc, Bool.false_eq_true, if_false, Option.mem_def, Option.some.injEq] at hn
        exact Nat.le_of_eq hn
    rw [end_reached] at event
    exact absurd event List.not_mem_nil

/-- What is pending keeps its property as long as the stored claim has it. -/
theorem Pending.step (h : Pending p key number s) (reports : Reports key s s')
    (stored : ∀ claim, s'.claim? key = some claim → p claim) : Pending p key number s' := by
  obtain ⟨w, hw, hk, offers⟩ := h.watch
  obtain ⟨w', hw', advances⟩ := reports.watches number w hw
  obtain ⟨more, events, shown⟩ := reports.events
  refine ⟨stored, w', hw', advances.key.trans hk, fun claim offer => ?_⟩
  rw [events] at offer
  rcases Subscription.offers_append (advances.offers offer) with old | new
  · exact offers claim old
  · rw [hk] at new
    exact stored claim (shown claim new)

theorem Pending.delivered {watch : Watch} {timeout : Duration} {bound : BoundClaim}
    (h : Pending p key watch.number s)
    (serves : s.Serves ⟨.awaitBound watch timeout, .decided (.bound bound)⟩ s') :
    p bound.val := by
  cases serves with
  | awaited read honest =>
      obtain ⟨w, hw, offer⟩ := honest bound rfl
      obtain ⟨w', hw', -, offers⟩ := h.watch
      rw [Option.some.inj (hw'.symm.trans hw)] at offers
      exact offers bound.val offer

end Cluster

/-! ## Histories -/

/-- An exchange, with the cluster before and after it. -/
structure Occurrence where
  before : Cluster
  exchange : Exchange
  after : Cluster

/-- What happens to a cluster while requests are put to it and others act. -/
inductive History (others : Cluster → Cluster → Prop) :
    Cluster → List Occurrence → Cluster → Prop
  | done (s : Cluster) : History others s [] s
  | acted {s s' s'' : Cluster} {t : List Occurrence} (act : others s s')
      (rest : History others s' t s'') : History others s t s''
  | served {s s' s'' : Cluster} {x : Exchange} {t : List Occurrence} (serves : s.Serves x s')
      (rest : History others s' t s'') : History others s (⟨s, x, s'⟩ :: t) s''

namespace History

variable {others : Cluster → Cluster → Prop} {s s' s'' : Cluster} {t t₁ t₂ : List Occurrence}
  {x : Occurrence}

theorem append (first : History others s t₁ s') (second : History others s' t₂ s'') :
    History others s (t₁ ++ t₂) s'' := by
  induction first with
  | done => exact second
  | acted act _ ih => exact .acted act (ih second)
  | served serves _ ih => exact .served serves (ih second)

theorem split (h : History others s (t₁ ++ t₂) s'') :
    ∃ s', History others s t₁ s' ∧ History others s' t₂ s'' := by
  generalize ht : t₁ ++ t₂ = t at h
  induction h generalizing t₁ with
  | done s =>
      obtain ⟨rfl, rfl⟩ := List.append_eq_nil_iff.mp ht
      exact ⟨s, .done s, .done s⟩
  | acted act _ ih =>
      obtain ⟨s', first, second⟩ := ih ht
      exact ⟨s', .acted act first, second⟩
  | served serves rest ih =>
      cases t₁ with
      | nil =>
          subst ht
          exact ⟨_, .done _, .served serves rest⟩
      | cons y t₁ =>
          obtain ⟨rfl, rest_eq⟩ := List.cons.inj ht
          obtain ⟨s', first, second⟩ := ih rest_eq
          exact ⟨s', .served serves first, second⟩

/-- In front of an occurrence only the others act. -/
theorem uncons (h : History others s (x :: t) s') :
    History others s [] x.before ∧ x.before.Serves x.exchange x.after ∧
      History others x.after t s' := by
  generalize ht : x :: t = l at h
  induction h with
  | done => cases ht
  | acted act _ ih =>
      obtain ⟨first, serves, rest⟩ := ih ht
      exact ⟨.acted act first, serves, rest⟩
  | served serves rest =>
      obtain ⟨rfl, rfl⟩ := List.cons.inj ht
      exact ⟨.done _, serves, rest⟩

/-- What the others keep, and what every occurrence keeps, holds in the end. -/
theorem invariant {p : Cluster → Prop} (h : History others s t s') (hs : p s)
    (act : ∀ s s', others s s' → p s → p s')
    (serve : ∀ x ∈ t, x.before.Serves x.exchange x.after → p x.before → p x.after) : p s' := by
  induction h with
  | done => exact hs
  | acted step _ ih => exact ih (act _ _ step hs) serve
  | served serves _ ih =>
      exact ih (serve _ List.mem_cons_self serves hs) fun x hx => serve x (.tail _ hx)

/-- Others who do less may be taken for others who do more. -/
theorem mono {others others' : Cluster → Cluster → Prop} {s s' : Cluster}
    {t : List Occurrence} (h : History others s t s')
    (le : ∀ s s', others s s' → others' s s') : History others' s t s' := by
  induction h with
  | done s => exact .done s
  | acted act _ ih => exact .acted (le _ _ act) ih
  | served serves _ ih => exact .served serves ih

theorem of_reaches (reach : Relation.ReflTransGen others s s')
    (rest : History others s' t s'') : History others s t s'' := by
  induction reach using Relation.ReflTransGen.head_induction_on with
  | refl => exact rest
  | head act _ ih => exact .acted act ih

end History

/-! ## Sessions -/

/-- A call to provision, as it went. -/
structure Call where
  config : Config
  options : ProvisionOptions
  occurrences : List Occurrence
  result : Option (Except Failure Volume)

/-- The exchanges of a call. -/
def Call.exchanges (c : Call) : List Exchange := c.occurrences.map (·.exchange)

/-- Calls to provision, one after the other on one cluster. -/
structure Session (others : Cluster → Cluster → Prop) (s : Cluster) (calls : List Call)
    (s' : Cluster) : Prop where
  history : History others s (calls.flatMap (·.occurrences)) s'
  traces : ∀ call ∈ calls,
    (provision call.config call.options).Traces call.exchanges call.result

/-- The last call of a session comes after a session of the others. -/
theorem Session.split {others : Cluster → Cluster → Prop} {s s' : Cluster} {calls : List Call}
    {call : Call} (session : Session others s (calls ++ [call]) s') :
    ∃ s₁, Session others s calls s₁ ∧ History others s₁ call.occurrences s' ∧
      (provision call.config call.options).Traces call.exchanges call.result := by
  have history := session.history
  rw [List.flatMap_append, List.flatMap_singleton] at history
  obtain ⟨s₁, first, second⟩ := history.split
  exact ⟨s₁, ⟨first, fun c hc => session.traces c (List.mem_append_left _ hc)⟩, second,
    session.traces call (by simp)⟩

end VolumeHandover
