import VolumeHandover.Proofs.PatchEffects
import VolumeHandover.Proofs.Worlds

set_option autoImplicit false

/-! # What calls do to the objects of a cluster

What a call that the cluster answers means for the objects is said once (`call_effect`). From this
follows what a call is not about and leaves alone (`call_volumes`, `call_pods`, `call_elsewhere`),
and that a call that fails changes nothing (`call_error`). A call that is answered by somebody else
has taken effect or has not (`Serves.call_cases`); in a world it takes effect, or it fails as it is
armed to (`Program.trail_candid`).
-/

namespace VolumeHandover

namespace Cluster

variable {s s' : Cluster}

/-- The volume of a name. -/
def volume? (s : Cluster) (name : String) : Option Volume := s.objects.volumes.get? name

/-- The pod under a key. -/
def pod? (s : Cluster) (key : String) : Option Pod := s.objects.pods.get? key

theorem claim_of_objects (same : s'.objects = s.objects) (key : String) :
    s'.claim? key = s.claim? key := congrArg (·.claims.get? key) same

theorem volume_of_objects (same : s'.objects = s.objects) (name : String) :
    s'.volume? name = s.volume? name := congrArg (·.volumes.get? name) same

theorem pod_of_objects (same : s'.objects = s.objects) (key : String) :
    s'.pod? key = s.pod? key := congrArg (·.pods.get? key) same

/-! ## Answers -/

/-- A call is answered by the cluster, or it fails, with or without an effect. -/
theorem Serves.call_cases {c : ApiCall} {answer : Except Error c.Answer}
    (h : s.Serves ⟨.call c, answer⟩ s') :
    (answer, s') = s.call c ∨ ∃ e, answer = .error e ∧ (s' = s ∨ s' = (s.call c).2) := by
  generalize hx : (⟨.call c, answer⟩ : Exchange) = x at h
  cases h with
  | answered c' =>
      obtain ⟨hr, ha⟩ := Exchange.mk.inj hx
      cases hr
      cases ha
      exact .inl rfl
  | refused c' e =>
      obtain ⟨hr, ha⟩ := Exchange.mk.inj hx
      cases hr
      cases ha
      exact .inr ⟨e, rfl, .inl rfl⟩
  | lost c' e =>
      obtain ⟨hr, ha⟩ := Exchange.mk.inj hx
      cases hr
      cases ha
      exact .inr ⟨e, rfl, .inr rfl⟩
  | found l answer => cases (Exchange.mk.inj hx).1
  | awaited read honest => cases (Exchange.mk.inj hx).1
  | paused interval => cases (Exchange.mk.inj hx).1
  | clock time => cases (Exchange.mk.inj hx).1
  | delegated options answer => cases (Exchange.mk.inj hx).1

/-- After a call the cluster is as it was, or as the call makes it. -/
theorem Serves.call_state {c : ApiCall} {answer : Except Error c.Answer}
    (h : s.Serves ⟨.call c, answer⟩ s') : s' = s ∨ s' = (s.call c).2 := by
  rcases h.call_cases with answered | ⟨e, -, same | effect⟩
  · exact .inr (congrArg Prod.snd answered)
  · exact .inl same
  · exact .inr effect

/-- A request that is no call changes nothing but how far the watches have been read. -/
theorem Serves.eq_of_not_call {x : Exchange} (h : s.Serves x s')
    (hx : ∀ c, x.request ≠ .call c) : ∃ watches, s' = { s with watches } := by
  cases h with
  | answered c | refused c e | lost c e => exact absurd rfl (hx c)
  | awaited read honest => exact ⟨_, rfl⟩
  | found l answer | paused interval | clock time | delegated options answer =>
      exact ⟨s.watches, rfl⟩

end Cluster

/-! ## What calls do to the objects -/

namespace Cluster

/-- What an answer to a call means for the objects. -/
inductive Effect (s : Cluster) : (c : ApiCall) → Except Error c.Answer → Objects → Prop
  | failed {c : ApiCall} (e : Error) : Effect s c (.error e) s.objects
  | claimCreated {claim : Claim} (absent : s.claim? claim.key = none) :
      Effect s (.createClaim claim) (.ok claim)
        { s.objects with claims := s.objects.claims.insert claim.key claim }
  | claimBound {claim : Claim} (absent : s.claim? claim.key = none) :
      Effect s (.createClaim claim) (.ok (boundClaim claim))
        { s.objects with
          claims := (s.objects.claims.insert claim.key claim).insert claim.key (boundClaim claim)
          volumes := s.objects.volumes.insert ("pv-" ++ claim.anyName) (boundVolume claim) }
  | claimPatched {space name : String} {patch : Json} {old new : Claim}
      (found : s.claim? (keyIn space name) = some old) (result : patched old patch = .ok new) :
      Effect s (.patchClaim space name patch) (.ok new)
        { s.objects with claims := s.objects.claims.insert (keyIn space name) new }
  | claimDeleted {space name : String} {claim : Claim}
      (found : s.claim? (keyIn space name) = some claim) :
      Effect s (.deleteClaim space name) (.ok ())
        { s.objects with claims := s.objects.claims.erase (keyIn space name) }
  | claimWatched {space name : String} (watch : Watch) :
      Effect s (.watchClaim space name) (.ok watch) s.objects
  | podCreated {pod : Pod} :
      Effect s (.createPod pod) (.ok pod)
        { s.objects with pods := s.objects.pods.insert pod.key pod }
  | podDeleted {space name : String} :
      Effect s (.deletePod space name) (.ok ())
        { s.objects with pods := s.objects.pods.erase (keyIn space name) }
  | volumeCreated {volume : Volume} (absent : s.volume? volume.anyName = none) :
      Effect s (.createVolume volume) (.ok volume)
        { s.objects with volumes := s.objects.volumes.insert volume.anyName volume }
  | volumePatched {name : String} {patch : Json} {old new : Volume}
      (found : s.volume? name = some old) (result : patched old patch = .ok new) :
      Effect s (.patchVolume name patch) (.ok new)
        { s.objects with volumes := s.objects.volumes.insert name new }
  | nodeFound {name : String} (node : Node) : Effect s (.getNode name) (.ok node) s.objects

variable {s s' : Cluster}

theorem createClaim_effect (s : Cluster) (claim : Claim) :
    s.Effect (.createClaim claim) (s.createClaim claim).1 (s.createClaim claim).2.objects := by
  unfold createClaim
  by_cases there : (s.record (.createClaim claim.key)).objects.claims.contains claim.key = true
  · simp only [if_pos there]
    exact .failed _
  · have absent : s.claim? claim.key = none := by
      rwa [Table.contains, Option.not_isSome_iff_eq_none] at there
    simp only [if_neg there]
    -- the backend finds the claim that has just been stored
    by_cases binds : s.switches.bindOnCreate = true
    · simp only [record, withClaims, withVolumes, backendBind, emit, binds, Table.get?_insert_self,
        if_true, Option.map_some, Option.getD_some]
      exact .claimBound absent
    · simp only [record, withClaims, emit, binds, if_false, Bool.false_eq_true]
      exact .claimCreated absent

/-- **What a call that the cluster answers does to the objects.** -/
theorem call_effect (s : Cluster) (c : ApiCall) : s.Effect c (s.call c).1 (s.call c).2.objects := by
  cases c with
  | createClaim claim => exact s.createClaim_effect claim
  | patchClaim space name patch =>
      show s.Effect (.patchClaim space name patch) (s.patchClaim space name patch).1
        (s.patchClaim space name patch).2.objects
      unfold patchClaim
      dsimp only
      split
      case h_1 => exact .failed _
      case h_2 old found =>
        split
        case h_1 => exact .failed _
        case h_2 new result => exact .claimPatched found result
  | deleteClaim space name =>
      show s.Effect (.deleteClaim space name) (s.deleteClaim space name).1
        (s.deleteClaim space name).2.objects
      unfold deleteClaim
      dsimp only
      split
      case h_1 => exact .failed _
      case h_2 =>
        split
        case h_1 => exact .failed _
        case h_2 claim found => exact .claimDeleted found
  | watchClaim space name => exact .claimWatched _
  | createPod pod =>
      show s.Effect (.createPod pod) (s.createPod pod).1
        (s.createPod pod).2.objects
      unfold createPod
      dsimp only
      split
      case isTrue => exact .failed _
      case isFalse => exact .podCreated
  | deletePod space name =>
      show s.Effect (.deletePod space name) (s.deletePod space name).1
        (s.deletePod space name).2.objects
      unfold deletePod
      dsimp only
      split
      case h_1 => exact .failed _
      case h_2 =>
        split
        case isTrue => exact .podDeleted
        case isFalse => exact .failed _
  | createVolume volume =>
      show s.Effect (.createVolume volume) (s.createVolume volume).1
        (s.createVolume volume).2.objects
      unfold createVolume
      dsimp only
      split
      case isTrue => exact .failed _
      case isFalse there =>
        exact .volumeCreated (Option.not_isSome_iff_eq_none.mp there)
  | patchVolume name patch =>
      show s.Effect (.patchVolume name patch) (s.patchVolume name patch).1
        (s.patchVolume name patch).2.objects
      unfold patchVolume
      dsimp only
      split
      case h_1 => exact .failed _
      case h_2 old found =>
        split
        case h_1 => exact .failed _
        case h_2 new result => exact .volumePatched found result
  | getNode name =>
      show s.Effect (.getNode name) (s.getNode name) s.objects
      cases s.getNode name with
      | error e => exact .failed e
      | ok node => exact .nodeFound node

variable {c : ApiCall} {answer : Except Error c.Answer} {key : String}

theorem effect_of_call (h : s.call c = (answer, s')) : s.Effect c answer s'.objects := by
  have effect := s.call_effect c
  rw [h] at effect
  exact effect

/-- A call that the cluster answers with an error changes no object. -/
theorem call_error {e : Error} (h : s.call c = (.error e, s')) : s'.objects = s.objects := by
  have effect := effect_of_call h
  generalize s'.objects = after at effect
  cases effect
  rfl

/-! ### What a call is not about -/

end Cluster

namespace ApiCall

/-- The calls that may change volumes; a claim that is created may be bound at once. -/
def writesVolumes : ApiCall → Bool
  | .createClaim _ | .createVolume _ | .patchVolume _ _ => true
  | _ => false

/-- The calls that may change pods. -/
def writesPods : ApiCall → Bool
  | .createPod _ | .deletePod _ _ => true
  | _ => false

/-- The key of the claim that a call may change. -/
def claimKey? : ApiCall → Option String
  | .createClaim claim => some claim.key
  | .patchClaim space name _ => some (keyIn space name)
  | .deleteClaim space name => some (keyIn space name)
  | _ => none

end ApiCall

namespace Cluster

variable {s s' : Cluster} {c : ApiCall} {answer : Except Error c.Answer} {key : String}

theorem call_volumes (h : s.call c = (answer, s')) (quiet : c.writesVolumes = false) :
    s'.objects.volumes = s.objects.volumes := by
  have effect := effect_of_call h
  generalize s'.objects = after at effect
  cases effect with
  | claimCreated | claimBound | volumeCreated | volumePatched => cases quiet
  | _ => rfl

theorem call_pods (h : s.call c = (answer, s')) (quiet : c.writesPods = false) :
    s'.objects.pods = s.objects.pods := by
  have effect := effect_of_call h
  generalize s'.objects = after at effect
  cases effect with
  | podCreated | podDeleted => cases quiet
  | _ => rfl

theorem call_elsewhere (h : s.call c = (answer, s')) (other : c.claimKey? ≠ some key) :
    s'.claim? key = s.claim? key := by
  have apart {k : String} (hk : c.claimKey? = some k) : key ≠ k := fun same =>
    other (hk.trans (congrArg some same.symm))
  have effect := effect_of_call h
  unfold claim?
  generalize s'.objects = after at effect
  cases effect with
  | claimCreated => exact Table.get?_insert_of_ne _ (apart rfl)
  | claimBound =>
      exact (Table.get?_insert_of_ne _ (apart rfl)).trans (Table.get?_insert_of_ne _ (apart rfl))
  | claimPatched => exact Table.get?_insert_of_ne _ (apart rfl)
  | claimDeleted => exact Table.get?_erase_of_ne _ (apart rfl)
  | _ => rfl

theorem Serves.volumes (h : s.Serves ⟨.call c, answer⟩ s') (quiet : c.writesVolumes = false) :
    s'.objects.volumes = s.objects.volumes := by
  rcases h.call_state with rfl | rfl
  · rfl
  · exact call_volumes rfl quiet

theorem Serves.elsewhere (h : s.Serves ⟨.call c, answer⟩ s') (other : c.claimKey? ≠ some key) :
    s'.claim? key = s.claim? key := by
  rcases h.call_state with rfl | rfl
  · rfl
  · exact call_elsewhere rfl other

/-! ## What calls come to -/

theorem call_patchVolume {name : String} {patch : Json} {old new : Volume}
    (found : s.volume? name = some old) (result : patched old patch = .ok new) :
    s.call (.patchVolume name patch) =
      (.ok new,
        (s.record (.patchVolume name)).withVolumes (s.objects.volumes.insert name new)) := by
  change s.patchVolume name patch = _
  unfold patchVolume
  dsimp only
  rw [show (s.record (.patchVolume name)).objects.volumes.get? name = some old from found]
  dsimp only
  rw [result]
  rfl

theorem call_patchClaim {space name : String} {patch : Json} {old new : Claim}
    (found : s.claim? (keyIn space name) = some old) (result : patched old patch = .ok new) :
    s.call (.patchClaim space name patch) =
      (.ok new, ((s.recordPatch (keyIn space name) patch).withClaims
        (s.objects.claims.insert (keyIn space name) new)).emit (keyIn space name)
          (.applied new)) := by
  change s.patchClaim space name patch = _
  unfold patchClaim
  dsimp only
  rw [show (s.recordPatch (keyIn space name) patch).objects.claims.get? (keyIn space name) =
    some old from found]
  dsimp only
  rw [result]
  rfl

/-- A claim that is bound as soon as it is created. -/
theorem call_createClaim {claim : Claim} (absent : s.claim? claim.key = none)
    (binds : s.switches.bindOnCreate = true) :
    s.call (.createClaim claim) = (.ok (boundClaim claim),
      { s with
        objects := { s.objects with
          claims := (s.objects.claims.insert claim.key claim).insert claim.key (boundClaim claim)
          volumes := s.objects.volumes.insert ("pv-" ++ claim.anyName) (boundVolume claim) }
        journal := { s.journal with
          calls := s.journal.calls ++ [.createClaim claim.key]
          createdClaims := s.journal.createdClaims ++ [claim] }
        events := s.events ++ [(claim.key, .applied (boundClaim claim))] }) := by
  have new : ¬ (s.record (.createClaim claim.key)).objects.claims.contains claim.key = true := by
    rw [Table.contains, Option.not_isSome_iff_eq_none]
    exact absent
  change s.createClaim claim = _
  unfold createClaim
  simp only [if_neg new]
  simp only [record, withClaims, withVolumes, backendBind, emit, binds, Table.get?_insert_self,
    if_true, Option.map_some, Option.getD_some]

theorem call_deleteClaim_refused {space name : String} {left : Nat}
    (refused : s.switches.claimDeleteFailures = left + 1) :
    s.call (.deleteClaim space name) = (.error (conflict "PersistentVolumeClaim" name),
      { s.record (.deleteClaim (keyIn space name)) with
        switches := { s.switches with claimDeleteFailures := left } }) := by
  change s.deleteClaim space name = _
  unfold deleteClaim
  dsimp only
  rw [show (s.record (.deleteClaim (keyIn space name))).switches.claimDeleteFailures = left + 1
    from refused]
  rfl

theorem call_deletePod_refused {space name : String} {left : Nat}
    (refused : s.switches.podDeleteFailures = left + 1) :
    s.call (.deletePod space name) = (.error (conflict "Pod" name),
      { s.record (.deletePod (keyIn space name)) with
        switches := { s.switches with podDeleteFailures := left } }) := by
  change s.deletePod space name = _
  unfold deletePod
  dsimp only
  rw [show (s.record (.deletePod (keyIn space name))).switches.podDeleteFailures = left + 1
    from refused]
  rfl

theorem call_deleteClaim {space name : String} {claim : Claim}
    (free : s.switches.claimDeleteFailures = 0)
    (stored : s.claim? (keyIn space name) = some claim) :
    s.call (.deleteClaim space name) = (.ok (),
      { s with
        objects := { s.objects with claims := s.objects.claims.erase (keyIn space name) }
        journal := { s.journal with
          calls := s.journal.calls ++ [.deleteClaim (keyIn space name)]
          deletedFinalizers :=
            s.journal.deletedFinalizers.insert (keyIn space name) claim.finalizers }
        events := s.events ++ [(keyIn space name, .deleted)] }) := by
  change s.deleteClaim space name = _
  unfold deleteClaim
  dsimp only
  rw [show (s.record (.deleteClaim (keyIn space name))).switches.claimDeleteFailures = 0 from free,
    show (s.record (.deleteClaim (keyIn space name))).objects.claims.get? (keyIn space name) =
      some claim from stored]
  rfl

/-- If deletions of pods are not refused, a pod is gone after one, whether it was there or not. -/
theorem call_deletePod (space name : String) (free : s.switches.podDeleteFailures = 0) :
    ∃ answer pods, s.call (.deletePod space name) =
        (answer, (s.record (.deletePod (keyIn space name))).withPods pods) ∧
      Provision.tolerate Error.isNotFound answer = .ok () := by
  change ∃ answer pods, s.deletePod space name = _ ∧ _
  unfold deletePod
  dsimp only
  rw [show (s.record (.deletePod (keyIn space name))).switches.podDeleteFailures = 0 from free]
  dsimp only
  split
  · exact ⟨_, _, rfl, rfl⟩
  · exact ⟨_, s.objects.pods, rfl, rfl⟩

/-- A pod is there once it has been created, whether it was there before or not. -/
theorem call_createPod (s : Cluster) (pod : Pod) :
    ∃ answer pods, s.call (.createPod pod) =
        (answer, (s.record (.createPod pod.key)).withPods pods) ∧
      Provision.tolerate Error.isAlreadyExists answer = .ok () := by
  change ∃ answer pods, s.createPod pod = _ ∧ _
  unfold createPod
  dsimp only
  split
  · exact ⟨_, s.objects.pods, rfl, rfl⟩
  · exact ⟨_, _, rfl, rfl⟩

/-! ## What success means -/

/-- A volume is patched if it is there and what comes out is a volume. -/
theorem patchVolume_ok {name : String} {patch : Json} {new : Volume}
    (h : s.call (.patchVolume name patch) = (.ok new, s')) :
    ∃ old, s.volume? name = some old ∧ patched old patch = .ok new ∧
      s' = (s.record (.patchVolume name)).withVolumes (s.objects.volumes.insert name new) := by
  have effect := effect_of_call h
  generalize s'.objects = after at effect
  cases effect with
  | volumePatched found result =>
      exact ⟨_, found, result, (Prod.mk.inj (h.symm.trans (call_patchVolume found result))).2⟩

/-- A claim is patched if it is there and what comes out is a claim. -/
theorem patchClaim_ok {space name : String} {patch : Json} {new : Claim}
    (h : s.call (.patchClaim space name patch) = (.ok new, s')) :
    ∃ old, s.claim? (keyIn space name) = some old ∧ patched old patch = .ok new ∧
      s' = ((s.recordPatch (keyIn space name) patch).withClaims
        (s.objects.claims.insert (keyIn space name) new)).emit (keyIn space name)
          (.applied new) := by
  have effect := effect_of_call h
  generalize s'.objects = after at effect
  cases effect with
  | claimPatched found result =>
      exact ⟨_, found, result, (Prod.mk.inj (h.symm.trans (call_patchClaim found result))).2⟩

/-- A claim is deleted if it is there, and the journal keeps its finalizers. -/
theorem deleteClaim_ok {space name : String}
    (h : s.call (.deleteClaim space name) = (.ok (), s')) :
    ∃ claim, s.claim? (keyIn space name) = some claim ∧
      s'.objects = { s.objects with claims := s.objects.claims.erase (keyIn space name) } ∧
      s'.journal.deletedFinalizers =
        s.journal.deletedFinalizers.insert (keyIn space name) claim.finalizers := by
  have effect := effect_of_call h
  generalize s'.objects = after at effect
  cases effect with
  | claimDeleted found =>
      cases free : s.switches.claimDeleteFailures with
      | zero =>
          rw [call_deleteClaim free found] at h
          rw [← (Prod.mk.inj h).2]
          exact ⟨_, found, rfl, rfl⟩
      | succ left =>
          rw [call_deleteClaim_refused free] at h
          cases (Prod.mk.inj h).1

/-! ## What is gone -/

/-- A claim of which a deletion says that it is gone, now or before, is gone. -/
theorem deleteClaim_gone {space name : String} {answer : Except Error Unit}
    (h : s.call (.deleteClaim space name) = (answer, s'))
    (gone : ∀ e, answer = .error e → e.isNotFound = true) :
    s'.claim? (keyIn space name) = none := by
  change s.deleteClaim space name = _ at h
  unfold deleteClaim at h
  dsimp only at h
  split at h
  · exact absurd (gone _ (Prod.mk.inj h).1.symm) nofun
  · split at h
    · rename_i absent
      rw [← (Prod.mk.inj h).2]
      exact absent
    · rw [← (Prod.mk.inj h).2]
      exact Table.get?_erase_self _

/-- A pod of which a deletion says that it is gone, now or before, is gone. -/
theorem deletePod_gone {space name : String} {answer : Except Error Unit}
    (h : s.call (.deletePod space name) = (answer, s'))
    (gone : ∀ e, answer = .error e → e.isNotFound = true) :
    s'.pod? (keyIn space name) = none := by
  change s.deletePod space name = _ at h
  unfold deletePod at h
  dsimp only at h
  split at h
  · exact absurd (gone _ (Prod.mk.inj h).1.symm) nofun
  · split at h
    · rw [← (Prod.mk.inj h).2]
      exact Table.get?_erase_self _
    · rename_i absent
      rw [← (Prod.mk.inj h).2]
      exact Option.not_isSome_iff_eq_none.mp absent

end Cluster

/-! ## Candid answers -/

namespace Occurrence

/-- A call is answered by the cluster, or fails in one of the given ways without an effect. -/
inductive Candid (fault : Error → Prop) : Occurrence → Prop
  | answered (s : Cluster) (c : ApiCall) :
      Candid fault ⟨s, ⟨.call c, (s.call c).1⟩, (s.call c).2⟩
  | failed (s : Cluster) (c : ApiCall) {e : Error} (h : fault e) :
      Candid fault ⟨s, ⟨.call c, .error e⟩, s⟩
  | asked {x : Occurrence} (h : ∀ c, x.exchange.request ≠ .call c) : Candid fault x

variable {fault : Error → Prop}

theorem Candid.call_cases {s s' : Cluster} {c : ApiCall} {answer : Except Error c.Answer}
    (h : Candid fault ⟨s, ⟨.call c, answer⟩, s'⟩) :
    (answer, s') = s.call c ∨ ∃ e, answer = .error e ∧ fault e ∧ s' = s := by
  generalize hx : (⟨s, ⟨.call c, answer⟩, s'⟩ : Occurrence) = x at h
  cases h with
  | answered s₁ c₁ =>
      obtain ⟨rfl, exchange, rfl⟩ := Occurrence.mk.inj hx
      obtain ⟨request, same⟩ := Exchange.mk.inj exchange
      cases request
      cases same
      exact .inl rfl
  | failed s₁ c₁ he =>
      obtain ⟨rfl, exchange, rfl⟩ := Occurrence.mk.inj hx
      obtain ⟨request, same⟩ := Exchange.mk.inj exchange
      cases request
      cases same
      exact .inr ⟨_, rfl, he, rfl⟩
  | asked not_call =>
      subst hx
      exact absurd rfl (not_call c)

/-- A call that fails changes no object. -/
theorem Candid.error_objects {s s' : Cluster} {c : ApiCall} {e : Error}
    (h : Candid fault ⟨s, ⟨.call c, .error e⟩, s'⟩) : s'.objects = s.objects := by
  rcases h.call_cases with answered | ⟨-, -, -, rfl⟩
  · exact Cluster.call_error answered.symm
  · rfl

end Occurrence

/-! ### Worlds -/

/-- The failures that are armed are of the given kind. -/
def World.Armed (fault : Error → Prop) (w : World) : Prop := ∀ f ∈ w.failures, fault f.error

variable {fault : Error → Prop}

theorem armedError_cases (method : ApiMethod) {failures : List ArmedFailure}
    (armed : ∀ f ∈ failures, fault f.error) :
    (∀ e, (armedError method failures).1 = some e → fault e) ∧
      ∀ f ∈ (armedError method failures).2, fault f.error := by
  induction failures with
  | nil => exact ⟨nofun, nofun⟩
  | cons f rest ih =>
      have first : fault f.error := armed f List.mem_cons_self
      have others : ∀ g ∈ rest, fault g.error := fun g hg => armed g (.tail _ hg)
      obtain ⟨error, left⟩ := ih others
      rw [armedError]
      by_cases hit : (decide (f.method = method) && decide (f.count ≠ 0)) = true
      · rw [if_pos hit]
        cases hs : f.skip with
        | zero =>
            refine ⟨fun e he => Option.some.inj he ▸ first, fun g hg => ?_⟩
            rcases List.mem_cons.mp hg with rfl | hg
            · exact first
            · exact others g hg
        | succ skip =>
            refine ⟨nofun, fun g hg => ?_⟩
            rcases List.mem_cons.mp hg with rfl | hg
            · exact first
            · exact others g hg
      · rw [if_neg hit]
        refine ⟨error, fun g hg => ?_⟩
        rcases List.mem_cons.mp hg with rfl | hg
        · exact first
        · exact left g hg

namespace World

/-- What has been arranged in a world: which calls fail, and whether the caches show claims. -/
def arranged (w : World) : List ArmedFailure × Bool := (w.failures, w.claimsHidden)

theorem arranged_waitUntil (w : World) (time : Nat) : (w.waitUntil time).arranged = w.arranged := by
  unfold waitUntil
  split <;> rfl

theorem arranged_decided (w : World) (watch : Watch) :
    (w.decided? watch).2.arranged = w.arranged := by
  unfold decided?
  cases w.cluster.watch? watch with
  | none => rfl
  | some subscription =>
      dsimp only
      cases firstDecision? (subscription.drain w.cluster.events).1 <;> rfl

theorem arranged_awaitBound (w : World) (watch : Watch) (timeout : Duration) :
    (w.awaitBound watch timeout).2.arranged = w.arranged := by
  have same := w.arranged_decided watch
  unfold awaitBound
  generalize w.decided? watch = d at same
  obtain ⟨decided, w₁⟩ := d
  cases decided with
  | some awaited => exact same
  | none =>
      dsimp only
      split
      · exact same
      · exact (arranged_waitUntil _ _).trans same

/-- Only a call changes what has been arranged. -/
theorem arranged_answer (w : World) {r : Request} (h : ∀ c, r ≠ .call c) :
    (answer r w).2.arranged = w.arranged := by
  cases r with
  | call c => exact absurd rfl (h c)
  | awaitBound watch timeout =>
      exact (w.noted (.awaitBound watch timeout)).arranged_awaitBound watch timeout
  | pause interval => exact (w.noted (.pause interval)).arranged_waitUntil _
  | find l | clock | delegate options => rfl

/-- A call is answered by the cluster, or fails as it is armed to. -/
theorem call_candid {w : World} (armed : w.Armed fault) (c : ApiCall) :
    (w.occurrence (.call c)).Candid fault ∧ (w.call c).2.Armed fault := by
  obtain ⟨error, left⟩ := armedError_cases c.method armed
  show Occurrence.Candid fault ⟨w.cluster, ⟨.call c, ((w.noted (.call c)).call c).1⟩,
    ((w.noted (.call c)).call c).2.cluster⟩ ∧ _
  unfold World.call
  rw [show (w.noted (.call c)).failures = w.failures from rfl]
  generalize armedError c.method w.failures = outcome at error left
  obtain ⟨failure, failures⟩ := outcome
  cases failure with
  | none => exact ⟨.answered w.cluster c, left⟩
  | some e => exact ⟨.failed w.cluster c (error e rfl), left⟩

/-- A world answers candidly, and its failures stay of their kind. -/
theorem answer_candid {w : World} (armed : w.Armed fault) (r : Request) :
    (w.occurrence r).Candid fault ∧ (answer r w).2.Armed fault := by
  have asked (h : ∀ c, r ≠ .call c) :
      (w.occurrence r).Candid fault ∧ (answer r w).2.Armed fault := by
    have failures : (answer r w).2.failures = w.failures := congrArg Prod.fst (w.arranged_answer h)
    exact ⟨.asked h, fun f hf => armed f (failures ▸ hf)⟩
  cases r with
  | call c => exact ⟨(call_candid armed c).1, (call_candid (w := w.noted (.call c)) armed c).2⟩
  | find l | awaitBound watch timeout | pause interval | clock | delegate options =>
      exact asked fun _ => Request.noConfusion

end World

/-- All occurrences of a run in a world are candid. -/
theorem Program.trail_candid {α : Type} (p : Program α) {w : World} (armed : w.Armed fault) :
    (∀ x ∈ p.trail w, x.Candid fault) ∧ (w.run p).2.Armed fault :=
  p.trail_all (fun _ r h => World.answer_candid h r) armed

end VolumeHandover
