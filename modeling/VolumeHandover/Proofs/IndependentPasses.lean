import VolumeHandover.Proofs.PassScope

set_option autoImplicit false

/-! # Passes over independent claims

Two claims are independent if what a pass over one of them touches is nothing to the other
(`Claim.Independent`). Passes over them may be made in either order: the outcomes are the same, and
so are the objects that are left in the cluster, the counted attempts and the backoffs
(`World.reconcile_commutes`). What passes leave in the cluster does not depend on the ledger, and
reports on claims with different uids may be noted in either order (`Ledger.note_commutes`).

Different uids and names are not enough for this (`sample_order_matters`): two claims may go by one
name without being filed under it, a proxy claim may go by the name of the other claim, and if there
are slashes in namespaces two proxy claims may be filed under one key.
-/

namespace VolumeHandover

variable {driver : String} {config : Config} {a b : Claim}

/-! ## Keys -/

/-- A namespace without a slash and the name are read back from a key. -/
theorem keyParts_keyIn {space : String} (name : String) (plain : '/' ∉ space.toList) :
    keyParts (keyIn space name) = (space, name) := by
  have chars : (keyIn space name).toList = space.toList ++ '/' :: name.toList := by
    simp [keyIn]
  have before : ∀ c ∈ space.toList, decide (c ≠ '/') = true := by
    intro c hc
    exact decide_eq_true fun same => plain (same ▸ hc)
  unfold keyParts
  dsimp only
  rw [chars, List.takeWhile_append_of_pos before, List.dropWhile_append_of_pos before]
  simp

theorem keyIn_injective {space space' name name' : String} (plain : '/' ∉ space.toList)
    (plain' : '/' ∉ space'.toList) (same : keyIn space name = keyIn space' name') :
    name = name' := by
  have parts := congrArg keyParts same
  rw [keyParts_keyIn name plain, keyParts_keyIn name' plain'] at parts
  exact (Prod.mk.inj parts).2

/-! ## Independent claims -/

/-- Two claims have different uids, neither is named like the proxy claim for the other, and their
proxy claims are not bound to one volume nor to one that the backend would make for the other. -/
structure Claim.Separate (s : Cluster) (a b : Claim) : Prop where
  uid : a.metadata.uid.getD "" ≠ b.metadata.uid.getD ""
  key : a.key ≠ b.proxyKey
  key' : b.key ≠ a.proxyKey
  bound : ∀ p q name, s.claim? a.proxyKey = some p → s.claim? b.proxyKey = some q →
    p.isBound = true → q.isBound = true → p.volumeName? = some name → q.volumeName? ≠ some name
  made : ∀ p, s.claim? a.proxyKey = some p → p.isBound = true →
    p.volumeName? ≠ some ("pv-" ++ b.proxyName)
  made' : ∀ q, s.claim? b.proxyKey = some q → q.isBound = true →
    q.volumeName? ≠ some ("pv-" ++ a.proxyName)

/-- Separate claims go by different keys, their proxy claims go by the keys under which they are
filed, and there is no slash in their namespaces. -/
structure Claim.Independent (s : Cluster) (a b : Claim) : Prop where
  separate : a.Separate s b
  keys : a.key ≠ b.key
  proxy : ∀ p, s.claim? a.proxyKey = some p → p.key = a.proxyKey
  proxy' : ∀ q, s.claim? b.proxyKey = some q → q.key = b.proxyKey
  space : '/' ∉ a.spaceName.toList
  space' : '/' ∉ b.spaceName.toList

namespace Claim

variable {s : Cluster}

theorem Separate.proxyName (h : a.Separate s b) : a.proxyName ≠ b.proxyName :=
  fun same => h.uid ((String.append_right_inj "pvc-").mp same)

/-- Without proxy claims there is nothing to ask of volumes. -/
theorem separate_of_absent (absent : s.claim? a.proxyKey = none)
    (absent' : s.claim? b.proxyKey = none) (uid : a.metadata.uid.getD "" ≠ b.metadata.uid.getD "")
    (key : a.key ≠ b.proxyKey) (key' : b.key ≠ a.proxyKey) : a.Separate s b where
  uid := uid
  key := key
  key' := key'
  bound p q name stored := by cases absent.symm.trans stored
  made p stored := by cases absent.symm.trans stored
  made' q stored := by cases absent'.symm.trans stored

/-- The volumes that are taken from the proxy claims are different ones. -/
theorem Separate.volumes (h : a.Separate s b) (name : String)
    (forA : s.ProxyVolume a.spaceName a.proxyName name) :
    ¬ s.ProxyVolume b.spaceName b.proxyName name := by
  unfold Cluster.ProxyVolume at *
  cases proxy : s.claim? (keyIn a.spaceName a.proxyName) with
  | some p =>
      rw [proxy] at forA
      cases proxy' : s.claim? (keyIn b.spaceName b.proxyName) with
      | some q => exact fun forB => h.bound p q name proxy proxy' forA.1 forB.1 forA.2 forB.2
      | none =>
          rintro ⟨-, rfl⟩
          exact h.made p proxy forA.1 forA.2
  | none =>
      rw [proxy] at forA
      obtain ⟨-, rfl⟩ := forA
      cases proxy' : s.claim? (keyIn b.spaceName b.proxyName) with
      | some q => exact fun forB => h.made' q proxy' forB.1 forB.2
      | none => exact fun forB => h.proxyName ((String.append_right_inj "pv-").mp forB.2)

/-- Independent claims have scopes without anything in common. -/
theorem Independent.apart (h : a.Independent s b) : (a.scope s).Apart (b.scope s) where
  claims key forA forB := by
    have proxies : a.proxyKey ≠ b.proxyKey := fun same =>
      h.separate.proxyName (keyIn_injective h.space h.space' same)
    rcases forA with rfl | rfl
    · exact forB.elim h.keys h.separate.key
    · exact forB.elim h.separate.key'.symm proxies
  pods key forA forB := by
    have names := keyIn_injective h.space h.space' (forA.symm.trans forB)
    exact h.separate.proxyName ((String.append_right_inj "provisioner-").mp names)
  volumes := h.separate.volumes

end Claim

/-! ## Ledgers -/

/-- A table of counts after one more has been counted under a label. -/
def Table.counted (counts : Table Nat) (label : String) : Table Nat :=
  counts.insert label ((counts.get? label).getD 0 + 1)

theorem Table.counted_commutes (counts : Table Nat) (x y : String) :
    (counts.counted x).counted y = (counts.counted y).counted x := by
  by_cases same : x = y
  · rw [same]
  have other : y ≠ x := Ne.symm same
  refine Table.ext_get? fun label => ?_
  unfold counted
  by_cases hy : label = y
  · rw [hy, get?_insert_self, get?_insert_of_ne _ other, get?_insert_of_ne _ other,
      get?_insert_self]
  by_cases hx : label = x
  · rw [hx, get?_insert_self, get?_insert_of_ne _ same, get?_insert_self,
      get?_insert_of_ne _ same]
  · rw [get?_insert_of_ne _ hy, get?_insert_of_ne _ hx, get?_insert_of_ne _ hx,
      get?_insert_of_ne _ hy]

namespace Ledger

variable {l l' : Ledger}

theorem counts_note (l : Ledger) (claim : Claim) (report : Report) :
    (l.note claim report).2.metrics.counts =
      match report.attempt with
      | none => l.metrics.counts
      | some (result, _) => l.metrics.counts.counted result.label := by
  rw [note_metrics]
  cases report.attempt <;> rfl

/-- **Reports on claims with different uids may be noted in either order.** -/
theorem note_commutes (l : Ledger) (forA forB : Report)
    (apart : a.metadata.uid.getD "" ≠ b.metadata.uid.getD "") :
    let afterA := (l.note a forA).2
    let afterB := (l.note b forB).2
    (afterB.note a forA).1 = (l.note a forA).1 ∧ (afterA.note b forB).1 = (l.note b forB).1 ∧
      (afterA.note b forB).2.metrics.counts = (afterB.note a forA).2.metrics.counts ∧
      (afterA.note b forB).2.backoffs = (afterB.note a forA).2.backoffs := by
  intro afterA afterB
  obtain ⟨outcomeA, agreesA⟩ := (l.agrees_note apart forB).noted forA
  obtain ⟨outcomeB, agreesB⟩ := (l.agrees_note apart.symm forA).noted forB
  refine ⟨outcomeA, outcomeB, ?_, ?_⟩
  · rw [counts_note, counts_note, counts_note, counts_note]
    cases forA.attempt with
    | none => rfl
    | some attempt =>
        cases forB.attempt with
        | none => rfl
        | some attempt' => exact Table.counted_commutes _ _ _
  -- each report changes one backoff, which the other one neither reads nor changes
  · exact Table.changes_commute (fun uid forA forB => apart (forA.symm.trans forB))
      (fun uid other => (l.agrees_note other forA).entry)
      (fun uid other => (afterA.agrees_note other forB).entry)
      (fun uid other => (l.agrees_note other forB).entry)
      (fun uid other => (afterB.agrees_note other forA).entry)
      (fun uid own => own ▸ agreesA.entry) (fun uid own => own ▸ agreesB.entry)

end Ledger

/-! ## Reconciling two claims -/

/-- What comes of reconciling two claims one after the other. -/
structure InTurn where
  /-- The outcomes for the first claim and for the second. -/
  outcomes : Except Error Outcome × Except Error Outcome
  reconciler : Reconciler
  world : World

namespace World

variable {w : World}

/-- Reconcile one claim and then another. -/
def reconcileBoth (w : World) (r : Reconciler) (first second : Claim) : InTurn :=
  let one := w.reconcile r first
  let two := one.world.reconcile one.reconciler second
  { outcomes := (one.outcome, two.outcome), reconciler := two.reconciler, world := two.world }

/-- **Independent claims may be reconciled in either order.** -/
theorem reconcile_commutes (driver : String) (config : Config) (ledger : Ledger)
    (reliable : w.Reliable) (named : w.cluster.Named) (independent : a.Independent w.cluster b) :
    let one := w.reconcileBoth (.handingOver driver config ledger) a b
    let other := w.reconcileBoth (.handingOver driver config ledger) b a
    one.outcomes = other.outcomes.swap ∧
      one.world.cluster.objects = other.world.cluster.objects ∧
      one.reconciler.ledger.metrics.counts = other.reconciler.ledger.metrics.counts ∧
      one.reconciler.ledger.backoffs = other.reconciler.ledger.backoffs := by
  have passA : Local (a.scope w.cluster) (· = w.cluster) (pass driver (provision config) a)
      fun _ _ => True := Pass.pass_local ⟨named, independent.proxy⟩
  have passB : Local (b.scope w.cluster) (· = w.cluster) (pass driver (provision config) b)
      fun _ _ => True := Pass.pass_local ⟨named, independent.proxy'⟩
  obtain ⟨resultB, resultA, objects⟩ := passA.commute passB independent.apart reliable rfl rfl
  -- a pass does not read the ledger, so that the reports may be noted after both passes
  have both (first second : Claim) :
      w.reconcileBoth (.handingOver driver config ledger) first second =
        let p := pass driver (provision config) first
        let q := pass driver (provision config) second
        let l := (ledger.note first (w.run p).1).2
        { outcomes :=
            ((ledger.note first (w.run p).1).1, (l.note second ((w.run p).2.run q).1).1)
          reconciler := .handingOver driver config (l.note second ((w.run p).2.run q).1).2
          world := ((w.run p).2.run q).2 } := rfl
  intro one other
  obtain ⟨outcomeA, outcomeB, counts, backoffs⟩ :=
    ledger.note_commutes (w.run (pass driver (provision config) a)).1
      (w.run (pass driver (provision config) b)).1 independent.separate.uid
  simp only [one, other, both a b, both b a, resultA, resultB]
  exact ⟨Prod.ext outcomeA.symm outcomeB, objects, counts, backoffs⟩

end World

/-! ## Samples -/

namespace Sample

/-- A claim of the delegating class for which a node has been selected. -/
def asking (space name uid : String) : Claim :=
  { claim space name uid "hybrid" with
    metadata := { (claim space name uid "hybrid").metadata with
      annotations := some (Table.ofList [(selectedNodeKey, "near")]) } }

/-- The cluster of two zones with that class and that node. -/
def ground : Cluster :=
  (zones.addStorageClass (hybridClass "hybrid" "here,there")).addNode
    (node "near" [(zoneLabel, "a")])

/-- Reconcile two claims one after the other. -/
def inTurn (s : Cluster) (first second : Claim) : InTurn :=
  World.reconcileBoth { cluster := s } (.handingOver defaultDriverName {} {}) first second

/-- Two claims of different namespaces. -/
def neighbours : Cluster :=
  (ground.addClaim (asking "apps" "data" "u")).addClaim (asking "team" "data" "v")

end Sample

/-- Claims of different namespaces are provisioned in either order. -/
theorem sample_reconcile_commutes :
    let one := Sample.inTurn Sample.neighbours (Sample.asking "apps" "data" "u")
      (Sample.asking "team" "data" "v")
    let other := Sample.inTurn Sample.neighbours (Sample.asking "team" "data" "v")
      (Sample.asking "apps" "data" "u")
    one.outcomes.map (·.toOption) (·.toOption) =
        (some (.provisioned "pv-pvc-u"), some (.provisioned "pv-pvc-v")) ∧
      one.outcomes = other.outcomes.swap ∧
      one.world.cluster.objects = other.world.cluster.objects := by
  have absent : Sample.neighbours.claim? (Sample.asking "apps" "data" "u").proxyKey = none := by
    decide +kernel
  have absent' : Sample.neighbours.claim? (Sample.asking "team" "data" "v").proxyKey = none := by
    decide +kernel
  have named : Sample.neighbours.Named := Cluster.named_of_entries (by decide +kernel)
  have reliable : World.Reliable { cluster := Sample.neighbours } := ⟨rfl, rfl, rfl, rfl⟩
  have independent : (Sample.asking "apps" "data" "u").Independent Sample.neighbours
      (Sample.asking "team" "data" "v") := {
    separate := Claim.separate_of_absent absent absent' (by decide) (by decide) (by decide)
    keys := by decide
    proxy := fun p stored => by cases absent.symm.trans stored
    proxy' := fun q stored => by cases absent'.symm.trans stored
    space := by decide
    space' := by decide }
  obtain ⟨outcomes, objects, -, -⟩ :=
    World.reconcile_commutes defaultDriverName {} {} reliable named independent
  exact ⟨by decide +kernel, outcomes, objects⟩

/-- Two claims are filed, in a world in which nothing fails and volumes go by their own names, and
are separate from each other. -/
structure World.Hosts (w : World) (a b : Claim) : Prop where
  reliable : w.Reliable
  named : w.cluster.Named
  stored : ∃ key, w.cluster.claim? key = some a
  stored' : ∃ key, w.cluster.claim? key = some b
  separate : a.Separate w.cluster b

namespace Sample

/-- Give an object another name. -/
def newName (name : String) : Json := .object [("metadata", .object [("name", .text name)])]

/-- A claim that is filed under `apps/other` goes by the name of another one. -/
def namesakes : Cluster :=
  (((ground.addClaim (asking "apps" "data" "u")).addClaim (asking "apps" "other" "v")).patchClaim
    "apps" "other" (newName "data")).2

/-- The proxy claim for one claim goes by the name of another one. -/
def borrowed : Cluster :=
  ((((ground.addClaim (claim "apps" "pvc-u" "p" "here")).bindClaim "apps/pvc-u").patchClaim
    "apps" "pvc-u" (newName "other")).2.addClaim (asking "apps" "data" "u")).addClaim
      (asking "apps" "other" "v")

/-- The proxy claims for two claims are to be filed under one key, and nothing gets bound. -/
def slashed : Cluster :=
  { (ground.addClaim (asking "x" "data" "y/pvc-z")).addClaim (asking "x/pvc-y" "data" "z") with
    switches := {} }

end Sample

/-- It matters which claim is reconciled first if both go by one name, or if the proxy claim for one
goes by the name of the other, or if their proxy claims are filed under one key. -/
theorem sample_order_matters :
    (World.Hosts { cluster := Sample.namesakes } (Sample.asking "apps" "data" "u")
        (Sample.asking "apps" "data" "v") ∧
      ((Sample.inTurn Sample.namesakes (Sample.asking "apps" "data" "u")
        (Sample.asking "apps" "data" "v")).world.cluster.claim? "apps/data").bind (·.volumeName?) =
          some "pv-pvc-v" ∧
      ((Sample.inTurn Sample.namesakes (Sample.asking "apps" "data" "v")
        (Sample.asking "apps" "data" "u")).world.cluster.claim? "apps/data").bind (·.volumeName?) =
          some "pv-pvc-u") ∧
    (World.Hosts { cluster := Sample.borrowed } (Sample.asking "apps" "data" "u")
        (Sample.asking "apps" "other" "v") ∧
      (Sample.inTurn Sample.borrowed (Sample.asking "apps" "data" "u")
        (Sample.asking "apps" "other" "v")).outcomes.2.toOption =
          some (.requeueAfter (.ofSeconds 1)) ∧
      (Sample.inTurn Sample.borrowed (Sample.asking "apps" "other" "v")
        (Sample.asking "apps" "data" "u")).outcomes.1.toOption =
          some (.provisioned "pv-pvc-v")) ∧
    (World.Hosts { cluster := Sample.slashed } (Sample.asking "x" "data" "y/pvc-z")
        (Sample.asking "x/pvc-y" "data" "z") ∧
      ((Sample.inTurn Sample.slashed (Sample.asking "x" "data" "y/pvc-z")
        (Sample.asking "x/pvc-y" "data" "z")).world.cluster.claim? "x/pvc-y/pvc-z").map
          (·.anyName) = some "pvc-y/pvc-z" ∧
      ((Sample.inTurn Sample.slashed (Sample.asking "x/pvc-y" "data" "z")
        (Sample.asking "x" "data" "y/pvc-z")).world.cluster.claim? "x/pvc-y/pvc-z").map
          (·.anyName) = some "pvc-z") := by
  refine ⟨⟨?_, by decide +kernel, by decide +kernel⟩, ⟨?_, by decide +kernel, by decide +kernel⟩,
    ⟨?_, by decide +kernel, by decide +kernel⟩⟩
  -- the claims are separate as long as none of the proxy claims exists
  · exact ⟨⟨rfl, rfl, by decide +kernel, by decide +kernel⟩,
      Cluster.named_of_entries (by decide +kernel), ⟨"apps/data", by decide +kernel⟩,
      ⟨"apps/other", by decide +kernel⟩, Claim.separate_of_absent (by decide +kernel)
        (by decide +kernel) (by decide) (by decide) (by decide)⟩
  -- there is one proxy claim, and its volume is not the one to be made for the other claim
  · have proxy : (Sample.borrowed.claim? "apps/pvc-u").map (·.volumeName?) =
        some (some "pv-pvc-u") := by decide +kernel
    have absent : Sample.borrowed.claim? "apps/pvc-v" = none := by decide +kernel
    refine ⟨⟨rfl, rfl, by decide +kernel, by decide +kernel⟩,
      Cluster.named_of_entries (by decide +kernel), ⟨"apps/data", by decide +kernel⟩,
      ⟨"apps/other", by decide +kernel⟩, ⟨by decide, by decide, by decide, ?_, ?_, ?_⟩⟩
    · intro p q name _ stored
      cases absent.symm.trans stored
    · intro p stored _ named
      have key : Sample.borrowed.claim? "apps/pvc-u" = some p := stored
      rw [key, Option.map_some, named] at proxy
      revert proxy
      decide
    · intro q stored
      cases absent.symm.trans stored
  · exact ⟨⟨rfl, rfl, by decide +kernel, by decide +kernel⟩,
      Cluster.named_of_entries (by decide +kernel), ⟨"x/data", by decide +kernel⟩,
      ⟨"x/pvc-y/data", by decide +kernel⟩, Claim.separate_of_absent (by decide +kernel)
        (by decide +kernel) (by decide) (by decide) (by decide)⟩

end VolumeHandover
