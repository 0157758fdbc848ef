import VolumeHandover.Proofs.QuietWorlds

set_option autoImplicit false

/-! # What a call looks at and what it changes

A `Scope` is a part of a cluster: some of its claims, pods and volumes. Two clusters may agree on a
scope (`AgreesOn`), and a step may change nothing outside of one (`ChangesOnly`). A call that is
about something in the scope (`ApiCall.Within`) does the latter (`call_changesOnly`), and it is
answered alike by clusters that agree on the scope, which agree on it afterwards (`call_agrees`).
-/

namespace VolumeHandover

/-- Some of the claims and pods in a cluster, by their keys, and of its volumes, by their names. -/
structure Scope where
  claims : String → Prop
  pods : String → Prop
  volumes : String → Prop

/-! ## Objects -/

namespace Objects

/-- What no call changes: the classes, the nodes and the drivers. -/
def fixed (o : Objects) : Objects :=
  { o with claims := .empty, pods := .empty, volumes := .empty }

/-- The same is found in a scope, and among what no call changes. -/
structure AgreesOn (scope : Scope) (o o' : Objects) : Prop where
  fixed : o'.fixed = o.fixed
  claims : ∀ key, scope.claims key → o'.claims.get? key = o.claims.get? key
  pods : ∀ key, scope.pods key → o'.pods.get? key = o.pods.get? key
  volumes : ∀ name, scope.volumes name → o'.volumes.get? name = o.volumes.get? name

/-- Nothing changes outside of a scope. -/
structure ChangesOnly (scope : Scope) (o o' : Objects) : Prop where
  fixed : o'.fixed = o.fixed
  claims : ∀ key, ¬ scope.claims key → o'.claims.get? key = o.claims.get? key
  pods : ∀ key, ¬ scope.pods key → o'.pods.get? key = o.pods.get? key
  volumes : ∀ name, ¬ scope.volumes name → o'.volumes.get? name = o.volumes.get? name

variable {scope : Scope} {o o' o'' : Objects} {key : String}

theorem AgreesOn.refl (o : Objects) : o.AgreesOn scope o :=
  ⟨rfl, fun _ _ => rfl, fun _ _ => rfl, fun _ _ => rfl⟩

theorem ChangesOnly.refl (o : Objects) : o.ChangesOnly scope o :=
  ⟨rfl, fun _ _ => rfl, fun _ _ => rfl, fun _ _ => rfl⟩

theorem ChangesOnly.trans (first : o.ChangesOnly scope o') (second : o'.ChangesOnly scope o'') :
    o.ChangesOnly scope o'' where
  fixed := second.fixed.trans first.fixed
  claims key out := (second.claims key out).trans (first.claims key out)
  pods key out := (second.pods key out).trans (first.pods key out)
  volumes name out := (second.volumes name out).trans (first.volumes name out)

/-! ### Entries -/

section Entries

variable {α : Type} {t t' : Table α} {p : String → Prop}

/-- What is filed in both tables they agree on. -/
theorem insert_agrees (value : α) (agree : ∀ k, p k → t'.get? k = t.get? k) :
    ∀ k, p k → (t'.insert key value).get? k = (t.insert key value).get? k := by
  intro k hk
  rw [Table.get?_insert, Table.get?_insert, agree k hk]

theorem erase_agrees (agree : ∀ k, p k → t'.get? k = t.get? k) :
    ∀ k, p k → (t'.erase key).get? k = (t.erase key).get? k := by
  intro k hk
  rw [Table.get?_erase, Table.get?_erase, agree k hk]

theorem insert_changes (value : α) (within : p key) :
    ∀ k, ¬ p k → (t.insert key value).get? k = t.get? k :=
  fun _ out => Table.get?_insert_of_ne _ fun same => out (same ▸ within)

theorem erase_changes (within : p key) : ∀ k, ¬ p k → (t.erase key).get? k = t.get? k :=
  fun _ out => Table.get?_erase_of_ne _ fun same => out (same ▸ within)

end Entries

namespace AgreesOn

theorem insertClaim (h : o.AgreesOn scope o') (key : String) (claim : Claim) :
    { o with claims := o.claims.insert key claim }.AgreesOn scope
      { o' with claims := o'.claims.insert key claim } :=
  ⟨h.fixed, insert_agrees claim h.claims, h.pods, h.volumes⟩

theorem eraseClaim (h : o.AgreesOn scope o') (key : String) :
    { o with claims := o.claims.erase key }.AgreesOn scope
      { o' with claims := o'.claims.erase key } :=
  ⟨h.fixed, erase_agrees h.claims, h.pods, h.volumes⟩

theorem insertPod (h : o.AgreesOn scope o') (key : String) (pod : Pod) :
    { o with pods := o.pods.insert key pod }.AgreesOn scope
      { o' with pods := o'.pods.insert key pod } :=
  ⟨h.fixed, h.claims, insert_agrees pod h.pods, h.volumes⟩

theorem erasePod (h : o.AgreesOn scope o') (key : String) :
    { o with pods := o.pods.erase key }.AgreesOn scope { o' with pods := o'.pods.erase key } :=
  ⟨h.fixed, h.claims, erase_agrees h.pods, h.volumes⟩

theorem insertVolume (h : o.AgreesOn scope o') (name : String) (volume : Volume) :
    { o with volumes := o.volumes.insert name volume }.AgreesOn scope
      { o' with volumes := o'.volumes.insert name volume } :=
  ⟨h.fixed, h.claims, h.pods, insert_agrees volume h.volumes⟩

end AgreesOn

namespace ChangesOnly

theorem insertClaim (within : scope.claims key) (claim : Claim) :
    o.ChangesOnly scope { o with claims := o.claims.insert key claim } :=
  ⟨rfl, insert_changes claim within, fun _ _ => rfl, fun _ _ => rfl⟩

theorem eraseClaim (within : scope.claims key) :
    o.ChangesOnly scope { o with claims := o.claims.erase key } :=
  ⟨rfl, erase_changes within, fun _ _ => rfl, fun _ _ => rfl⟩

theorem insertPod (within : scope.pods key) (pod : Pod) :
    o.ChangesOnly scope { o with pods := o.pods.insert key pod } :=
  ⟨rfl, fun _ _ => rfl, insert_changes pod within, fun _ _ => rfl⟩

theorem erasePod (within : scope.pods key) :
    o.ChangesOnly scope { o with pods := o.pods.erase key } :=
  ⟨rfl, fun _ _ => rfl, erase_changes within, fun _ _ => rfl⟩

theorem insertVolume (within : scope.volumes key) (volume : Volume) :
    o.ChangesOnly scope { o with volumes := o.volumes.insert key volume } :=
  ⟨rfl, fun _ _ => rfl, fun _ _ => rfl, insert_changes volume within⟩

end ChangesOnly

end Objects

/-! ## Clusters -/

/-- The same switches, with no more deletions still to be refused. -/
structure Switches.Eases (s s' : Switches) : Prop where
  bindOnCreate : s'.bindOnCreate = s.bindOnCreate
  closeWatches : s'.closeWatches = s.closeWatches
  pods : s'.podDeleteFailures ≤ s.podDeleteFailures
  claims : s'.claimDeleteFailures ≤ s.claimDeleteFailures

namespace Switches.Eases

variable {s s' s'' : Switches}

theorem refl (s : Switches) : s.Eases s := ⟨rfl, rfl, Nat.le_refl _, Nat.le_refl _⟩

theorem trans (first : s.Eases s') (second : s'.Eases s'') : s.Eases s'' where
  bindOnCreate := second.bindOnCreate.trans first.bindOnCreate
  closeWatches := second.closeWatches.trans first.closeWatches
  pods := Nat.le_trans second.pods first.pods
  claims := Nat.le_trans second.claims first.claims

/-- Switches by which no deletion is refused stay as they are. -/
theorem eq (h : s.Eases s') (pods : s.podDeleteFailures = 0)
    (claims : s.claimDeleteFailures = 0) : s' = s := by
  have fewer := h.pods
  have fewer' := h.claims
  obtain ⟨bind, close, n, m⟩ := s
  obtain ⟨bind', close', n', m'⟩ := s'
  obtain rfl : bind' = bind := h.bindOnCreate
  obtain rfl : close' = close := h.closeWatches
  dsimp only at *
  congr <;> omega

end Switches.Eases

namespace Cluster

variable {scope : Scope} {s s' s'' : Cluster}

/-- The same is found in a scope, and the clusters behave alike. -/
structure AgreesOn (scope : Scope) (s s' : Cluster) : Prop where
  objects : s.objects.AgreesOn scope s'.objects
  switches : s'.switches = s.switches

/-- Nothing changes outside of a scope, and the cluster refuses no more than before. -/
structure ChangesOnly (scope : Scope) (s s' : Cluster) : Prop where
  objects : s.objects.ChangesOnly scope s'.objects
  switches : s.switches.Eases s'.switches

theorem AgreesOn.refl (s : Cluster) : s.AgreesOn scope s := ⟨.refl _, rfl⟩

theorem ChangesOnly.refl (s : Cluster) : s.ChangesOnly scope s := ⟨.refl _, .refl _⟩

theorem ChangesOnly.trans (first : s.ChangesOnly scope s') (second : s'.ChangesOnly scope s'') :
    s.ChangesOnly scope s'' :=
  ⟨first.objects.trans second.objects, first.switches.trans second.switches⟩

end Cluster

/-- What a call is about lies in a scope: what it looks at and what it may change. -/
def ApiCall.Within (scope : Scope) (s : Cluster) : ApiCall → Prop
  | .createClaim claim => scope.claims claim.key ∧
      (s.claim? claim.key = none → s.switches.bindOnCreate = true →
        scope.volumes ("pv-" ++ claim.anyName))
  | .patchClaim space name _ => scope.claims (keyIn space name)
  | .deleteClaim space name => scope.claims (keyIn space name)
  | .watchClaim space name => scope.claims (keyIn space name)
  | .createPod pod => scope.pods pod.key
  | .deletePod space name => scope.pods (keyIn space name)
  | .createVolume volume => scope.volumes volume.anyName
  | .patchVolume name _ => scope.volumes name
  | .getNode _ => True

namespace Cluster

variable {scope : Scope} {s s' : Cluster}

/-! ### Creating a claim -/

/-- What comes of the creation of a claim: the answer, the objects and the switches. -/
inductive Created (s : Cluster) (claim : Claim) (outcome : Except Error Claim × Cluster) : Prop
  | there (present : s.claim? claim.key ≠ none)
      (answer : outcome.1 = .error (alreadyThere "PersistentVolumeClaim" claim.anyName))
      (objects : outcome.2.objects = s.objects)
      (switches : outcome.2.switches = s.switches)
  | plain (absent : s.claim? claim.key = none) (unbound : s.switches.bindOnCreate = false)
      (answer : outcome.1 = .ok claim)
      (objects : outcome.2.objects =
        { s.objects with claims := s.objects.claims.insert claim.key claim })
      (switches : outcome.2.switches = s.switches)
  | bound (absent : s.claim? claim.key = none) (binds : s.switches.bindOnCreate = true)
      (answer : outcome.1 = .ok (boundClaim claim))
      (objects : outcome.2.objects = { s.objects with
        claims := (s.objects.claims.insert claim.key claim).insert claim.key (boundClaim claim)
        volumes := s.objects.volumes.insert ("pv-" ++ claim.anyName) (boundVolume claim) })
      (switches : outcome.2.switches = s.switches)

theorem createClaim_created (s : Cluster) (claim : Claim) :
    s.Created claim (s.createClaim claim) := by
  cases there : s.claim? claim.key with
  | some old =>
      have found : (s.record (.createClaim claim.key)).objects.claims.contains claim.key = true :=
        Option.isSome_iff_exists.mpr ⟨old, there⟩
      unfold createClaim
      simp only [if_pos found]
      exact .there (there ▸ Option.some_ne_none old) rfl rfl rfl
  | none =>
      cases binds : s.switches.bindOnCreate with
      | true =>
          have result : s.createClaim claim = _ := call_createClaim there binds
          rw [result]
          exact .bound there binds rfl rfl rfl
      | false =>
          have new : ¬ (s.record (.createClaim claim.key)).objects.claims.contains claim.key =
              true := by
            rw [Table.contains, Option.not_isSome_iff_eq_none]
            exact there
          unfold createClaim
          simp only [if_neg new]
          simp only [record, withClaims, emit, binds, if_false, Bool.false_eq_true]
          exact .plain there binds rfl rfl rfl

/-! ### What a call changes -/

/-- A call refuses no more than before it. -/
theorem call_eases (s : Cluster) (c : ApiCall) : s.switches.Eases (s.call c).2.switches := by
  cases c with
  | createClaim claim =>
      show s.switches.Eases (s.createClaim claim).2.switches
      cases s.createClaim_created claim <;> rename_i switches <;> rw [switches] <;> exact .refl _
  | patchClaim space name patch =>
      show s.switches.Eases (s.patchClaim space name patch).2.switches
      unfold patchClaim
      dsimp only
      split
      · exact .refl _
      · split <;> exact .refl _
  | deleteClaim space name =>
      show s.switches.Eases (s.deleteClaim space name).2.switches
      unfold deleteClaim
      dsimp only
      split
      -- a refused deletion uses up one of the refusals that are due
      case h_1 left refused => exact ⟨rfl, rfl, Nat.le_refl _, refused ▸ Nat.le_succ left⟩
      case h_2 => split <;> exact .refl _
  | deletePod space name =>
      show s.switches.Eases (s.deletePod space name).2.switches
      unfold deletePod
      dsimp only
      split
      case h_1 left refused => exact ⟨rfl, rfl, refused ▸ Nat.le_succ left, Nat.le_refl _⟩
      case h_2 => split <;> exact .refl _
  | createPod pod =>
      show s.switches.Eases (s.createPod pod).2.switches
      unfold createPod
      dsimp only
      split <;> exact .refl _
  | createVolume volume =>
      show s.switches.Eases (s.createVolume volume).2.switches
      unfold createVolume
      dsimp only
      split <;> exact .refl _
  | patchVolume name patch =>
      show s.switches.Eases (s.patchVolume name patch).2.switches
      unfold patchVolume
      dsimp only
      split
      · exact .refl _
      · split <;> exact .refl _
  | watchClaim space name | getNode name => exact .refl _

theorem createClaim_changesOnly {claim : Claim}
    (within : (ApiCall.createClaim claim).Within scope s) :
    s.objects.ChangesOnly scope (s.createClaim claim).2.objects := by
  cases s.createClaim_created claim with
  | there present answer objects switches =>
      rw [objects]
      exact .refl _
  | plain absent unbound answer objects switches =>
      rw [objects]
      exact .insertClaim within.1 claim
  | bound absent binds answer objects switches =>
      rw [objects]
      exact (Objects.ChangesOnly.insertClaim within.1 claim).trans
        ((Objects.ChangesOnly.insertClaim within.1 _).trans
          (.insertVolume (within.2 absent binds) _))

/-- A call changes only what it is about. -/
theorem call_changesOnly {c : ApiCall} (within : c.Within scope s) :
    s.ChangesOnly scope (s.call c).2 := by
  refine ⟨?_, s.call_eases c⟩
  by_cases creates : ∃ claim, c = .createClaim claim
  · obtain ⟨claim, rfl⟩ := creates
    exact createClaim_changesOnly within
  · have effect := s.call_effect c
    generalize (s.call c).1 = answer, (s.call c).2.objects = after at effect
    cases effect with
    | claimCreated | claimBound => exact absurd ⟨_, rfl⟩ creates
    | failed | claimWatched | nodeFound => exact .refl _
    | claimPatched => exact .insertClaim within _
    | claimDeleted => exact .eraseClaim within
    | podCreated => exact .insertPod within _
    | podDeleted => exact .erasePod within
    | volumeCreated | volumePatched => exact .insertVolume within _

/-! ### What a call depends on -/

/-- What a call is about is the same in clusters that agree on it. -/
theorem AgreesOn.within (agrees : s.AgreesOn scope s') {c : ApiCall} (within : c.Within scope s) :
    c.Within scope s' := by
  cases c with
  | createClaim claim =>
      refine ⟨within.1, fun absent binds => within.2 ?_ ?_⟩
      · exact (agrees.objects.claims _ within.1).symm.trans absent
      · exact agrees.switches ▸ binds
  | patchClaim | deleteClaim | watchClaim | createPod | deletePod | createVolume | patchVolume
  | getNode => exact within

theorem createClaim_agrees (agrees : s.AgreesOn scope s') {claim : Claim}
    (within : scope.claims claim.key) :
    (s'.createClaim claim).1 = (s.createClaim claim).1 ∧
      (s.createClaim claim).2.AgreesOn scope (s'.createClaim claim).2 := by
  have there : s'.claim? claim.key = s.claim? claim.key := agrees.objects.claims _ within
  -- the clusters agree on the key and on the switches, so that both take the same branch
  cases s.createClaim_created claim with
  | there present answer objects switches =>
      cases s'.createClaim_created claim with
      | there present' answer' objects' switches' =>
          refine ⟨answer'.trans answer.symm, ?_, ?_⟩
          · rw [objects, objects']
            exact agrees.objects
          · rw [switches, switches']
            exact agrees.switches
      | plain absent | bound absent => exact absurd (there.symm.trans absent) present
  | plain absent unbound answer objects switches =>
      cases s'.createClaim_created claim with
      | there present' => exact absurd (there.trans absent) present'
      | plain absent' unbound' answer' objects' switches' =>
          refine ⟨answer'.trans answer.symm, ?_, ?_⟩
          · rw [objects, objects']
            exact agrees.objects.insertClaim _ _
          · rw [switches, switches']
            exact agrees.switches
      | bound absent' binds' =>
          rw [agrees.switches, unbound] at binds'
          cases binds'
  | bound absent binds answer objects switches =>
      cases s'.createClaim_created claim with
      | there present' => exact absurd (there.trans absent) present'
      | plain absent' unbound' =>
          rw [agrees.switches, binds] at unbound'
          cases unbound'
      | bound absent' binds' answer' objects' switches' =>
          refine ⟨answer'.trans answer.symm, ?_, ?_⟩
          · rw [objects, objects']
            exact ((agrees.objects.insertClaim _ _).insertClaim _ _).insertVolume _ _
          · rw [switches, switches']
            exact agrees.switches

/-- A call that begins no watch is answered alike by clusters that agree on what it is about, and
they agree on it afterwards. -/
theorem call_agrees (agrees : s.AgreesOn scope s') {c : ApiCall} (within : c.Within scope s)
    (other : ∀ space name, c ≠ .watchClaim space name) :
    (s'.call c).1 = (s.call c).1 ∧ (s.call c).2.AgreesOn scope (s'.call c).2 := by
  -- in each case what the call looks up is rewritten first, and then both calls go one way
  have objects := agrees.objects
  have switches := agrees.switches
  cases c with
  | createClaim claim => exact createClaim_agrees agrees within.1
  | patchClaim space name patch =>
      have there : s'.objects.claims.get? (keyIn space name) = s.objects.claims.get? _ :=
        objects.claims _ within
      show (s'.patchClaim space name patch).1 = (s.patchClaim space name patch).1 ∧
        (s.patchClaim space name patch).2.AgreesOn scope (s'.patchClaim space name patch).2
      unfold patchClaim
      simp only [recordPatch, record, there]
      cases s.objects.claims.get? (keyIn space name) with
      | none => exact ⟨rfl, objects, switches⟩
      | some old =>
          dsimp only
          cases patched old patch with
          | error e => exact ⟨rfl, objects, switches⟩
          | ok new => exact ⟨rfl, objects.insertClaim _ _, switches⟩
  | deleteClaim space name =>
      have there : s'.objects.claims.get? (keyIn space name) = s.objects.claims.get? _ :=
        objects.claims _ within
      show (s'.deleteClaim space name).1 = (s.deleteClaim space name).1 ∧
        (s.deleteClaim space name).2.AgreesOn scope (s'.deleteClaim space name).2
      unfold deleteClaim
      simp only [record, there, switches]
      cases s.switches.claimDeleteFailures with
      | succ left => exact ⟨rfl, objects, rfl⟩
      | zero =>
          dsimp only
          cases s.objects.claims.get? (keyIn space name) with
          | none => exact ⟨rfl, objects, rfl⟩
          | some old => exact ⟨rfl, objects.eraseClaim _, rfl⟩
  | watchClaim space name => exact absurd rfl (other space name)
  | createPod pod =>
      have there : s'.objects.pods.get? pod.key = s.objects.pods.get? pod.key :=
        objects.pods _ within
      show (s'.createPod pod).1 = (s.createPod pod).1 ∧
        (s.createPod pod).2.AgreesOn scope (s'.createPod pod).2
      unfold createPod
      simp only [record, Table.contains, there]
      by_cases old : (s.objects.pods.get? pod.key).isSome = true
      · simp only [old, if_true]
        exact ⟨trivial, objects, switches⟩
      · simp only [old, Bool.false_eq_true, if_false]
        exact ⟨trivial, objects.insertPod _ _, switches⟩
  | deletePod space name =>
      have there : s'.objects.pods.get? (keyIn space name) = s.objects.pods.get? _ :=
        objects.pods _ within
      show (s'.deletePod space name).1 = (s.deletePod space name).1 ∧
        (s.deletePod space name).2.AgreesOn scope (s'.deletePod space name).2
      unfold deletePod
      simp only [record, Table.contains, there, switches]
      cases s.switches.podDeleteFailures with
      | succ left => exact ⟨rfl, objects, rfl⟩
      | zero =>
          dsimp only
          by_cases old : (s.objects.pods.get? (keyIn space name)).isSome = true
          · simp only [old, if_true]
            exact ⟨trivial, objects.erasePod _, rfl⟩
          · simp only [old, Bool.false_eq_true, if_false]
            exact ⟨trivial, objects, rfl⟩
  | createVolume volume =>
      have there : s'.objects.volumes.get? volume.anyName = s.objects.volumes.get? _ :=
        objects.volumes _ within
      show (s'.createVolume volume).1 = (s.createVolume volume).1 ∧
        (s.createVolume volume).2.AgreesOn scope (s'.createVolume volume).2
      unfold createVolume
      simp only [record, Table.contains, there]
      by_cases old : (s.objects.volumes.get? volume.anyName).isSome = true
      · simp only [old, if_true]
        exact ⟨trivial, objects, switches⟩
      · simp only [old, Bool.false_eq_true, if_false]
        exact ⟨trivial, objects.insertVolume _ _, switches⟩
  | patchVolume name patch =>
      have there : s'.objects.volumes.get? name = s.objects.volumes.get? name :=
        objects.volumes _ within
      show (s'.patchVolume name patch).1 = (s.patchVolume name patch).1 ∧
        (s.patchVolume name patch).2.AgreesOn scope (s'.patchVolume name patch).2
      unfold patchVolume
      simp only [record, there]
      cases s.objects.volumes.get? name with
      | none => exact ⟨rfl, objects, switches⟩
      | some old =>
          dsimp only
          cases patched old patch with
          | error e => exact ⟨rfl, objects, switches⟩
          | ok new => exact ⟨rfl, objects.insertVolume _ _, switches⟩
  | getNode name =>
      have nodes : s'.objects.nodes.get? name = s.objects.nodes.get? name :=
        congrArg (·.nodes.get? name) objects.fixed
      show s'.getNode name = s.getNode name ∧ s.AgreesOn scope s'
      unfold getNode
      rw [nodes]
      exact ⟨rfl, agrees⟩

end Cluster

end VolumeHandover
