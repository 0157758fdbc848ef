import VolumeHandover.Cluster.Sample
import VolumeHandover.Proofs.Topology
import VolumeHandover.Selection

set_option autoImplicit false

/-! # What is selected

A class is `Usable` by a node if the node's labels satisfy one of the class's topologies as
they stand, without terms and merges, and if the class's driver is either not registered or
installed on the node. `Selects` says what a selection yields in terms of this, and
`selectClass_eq_iff` that it yields nothing else. The topologies have to be well-formed, as
they are where they have been validated: no key twice in one topology, and no expression
without values.
-/

namespace VolumeHandover

/-- What validation ensures of a topology. -/
structure TopologySelector.WellFormed (s : TopologySelector) : Prop where
  keys : (s.expressions.map (·.key)).Nodup
  valued : ∀ e ∈ s.expressions, e.values ≠ []

instance (s : TopologySelector) : Decidable s.WellFormed :=
  decidable_of_iff ((s.expressions.map (·.key)).Nodup ∧ ∀ e ∈ s.expressions, e.values ≠ [])
    ⟨fun h => ⟨h.1, h.2⟩, fun h => ⟨h.keys, h.valued⟩⟩

namespace Selection

/-! ## Usable classes -/

/-- The labels satisfy a topology, read from the labels with the given keys only. -/
structure Satisfies (labels : Table String) (keys : List String) (s : TopologySelector) :
    Prop where
  some_expression : s.expressions ≠ []
  each : ∀ e ∈ s.expressions,
    e.key ∈ keys ∧ ∃ value ∈ e.values, labels.get? e.key = some value

/-- A node can use a class. -/
structure Usable (lister : Lister Id) (csiNode : CsiNode) (node : Node) (c : StorageClass) :
    Prop where
  place : c.topologies = [] ∨
    (∀ key ∈ csiNode.topologyKeys c.provisioner, (node.labels.get? key).isSome = true) ∧
      ∃ s ∈ c.topologies, Satisfies node.labels (csiNode.topologyKeys c.provisioner) s
  driver : lister.csiDriver c.provisioner = none ∨
    ∃ installed ∈ csiNode.drivers, installed.name = c.provisioner

variable {labels : Table String} {keys : List String}

/-- A place fits one of the terms of a topology just if the labels satisfy the topology. -/
theorem fits_iff {place : Term} (hp : Topology.nodeTerm? labels keys = some place)
    {s : TopologySelector} (hs : s.WellFormed) :
    (∃ t ∈ Topology.expand s, t.sort.subset place = true) ↔ Satisfies labels keys s := by
  -- what the merge needs of a place: a node has one value for each label
  have determined : ∀ g ∈ place.segments, ∀ g' ∈ place.segments, g.key = g'.key →
      g.value = g'.value := by
    intro g hg g' hg' hk
    have h₁ := ((Topology.mem_nodeTerm_iff hp).mp hg).2
    have h₂ := ((Topology.mem_nodeTerm_iff hp).mp hg').2
    rw [hk, h₂] at h₁
    exact (Option.some.inj h₁).symm
  have subset_iff (t : Term) (picks : List.Forall₂ Topology.Picks s.expressions t.segments) :
      t.sort.subset place = true ↔ ∀ g ∈ t.segments, g ∈ place.segments := by
    have distinct : (t.sort.segments.map (·.key)).Nodup := by
      rw [(t.sort_perm.map _).nodup_iff, Topology.keys_of_picks picks]
      exact hs.keys
    rw [Term.subset, Term.foundIn_iff t.sort_sorted distinct (Topology.nodeTerm_sorted hp)
      determined]
    simp
  have all : Topology.effective s.expressions = s.expressions := Topology.effective_eq hs.valued
  constructor
  · rintro ⟨t, ht, found⟩
    rw [Topology.mem_expand_iff, all] at ht
    refine ⟨ht.1, fun e he => ?_⟩
    obtain ⟨value, hv, hg⟩ := Topology.exists_picks_iff.mp
      ⟨t.segments, ht.2, (subset_iff t ht.2).mp found⟩ e he
    obtain ⟨hkey, hlabel⟩ := (Topology.mem_nodeTerm_iff hp).mp hg
    exact ⟨hkey, value, hv, hlabel⟩
  · intro sat
    obtain ⟨segments, picks, hg⟩ := Topology.exists_picks_iff.mpr fun e he => by
      obtain ⟨hkey, value, hv, hlabel⟩ := sat.each e he
      exact ⟨value, hv, (Topology.mem_nodeTerm_iff (s := ⟨e.key, value⟩) hp).mpr ⟨hkey, hlabel⟩⟩
    refine ⟨⟨segments⟩, ?_, (subset_iff ⟨segments⟩ picks).mpr hg⟩
    rw [Topology.mem_expand_iff, all]
    exact ⟨sat.some_expression, picks⟩

theorem allowsNode_iff {csiNode : CsiNode} {node : Node} {c : StorageClass}
    (wellFormed : ∀ s ∈ c.topologies, s.WellFormed) :
    allowsNode csiNode node c = true ↔ c.topologies = [] ∨
      (∀ key ∈ csiNode.topologyKeys c.provisioner, (node.labels.get? key).isSome = true) ∧
        ∃ s ∈ c.topologies,
          Satisfies node.labels (csiNode.topologyKeys c.provisioner) s := by
  rw [allowsNode, Bool.or_eq_true, List.isEmpty_iff, ← Topology.nodeTerm_isSome_iff]
  refine or_congr_right ?_
  cases hp : Topology.nodeTerm? node.labels (csiNode.topologyKeys c.provisioner) with
  | none => simp
  | some place =>
      simp only [List.any_eq_true, Option.isSome_some, true_and]
      constructor
      · rintro ⟨t, ht, found⟩
        obtain ⟨s, hs, u, hu, rfl⟩ := Topology.mem_flatten_iff.mp ht
        exact ⟨s, hs, (fits_iff hp (wellFormed s hs)).mp ⟨u, hu, found⟩⟩
      · rintro ⟨s, hs, sat⟩
        obtain ⟨u, hu, found⟩ := (fits_iff hp (wellFormed s hs)).mpr sat
        exact ⟨u.sort, Topology.mem_flatten_iff.mpr ⟨s, hs, u, hu, rfl⟩, found⟩

variable {lister : Lister Id} {csiNode : CsiNode} {node : Node}

/-- A class can be used if it allows the node, and if its driver is not registered or installed. -/
theorem isUsable_eq (lister : Lister Id) (csiNode : CsiNode) (node : Node) (c : StorageClass) :
    (isUsable lister csiNode node c).run = (allowsNode csiNode node c &&
      (!(lister.csiDriver c.provisioner).isSome || csiNode.hasDriver c.provisioner)) := by
  unfold isUsable
  cases allowsNode csiNode node c with
  | false => rfl
  | true =>
      show (match lister.csiDriver c.provisioner with
        | none => true
        | some _ => csiNode.hasDriver c.provisioner) = _
      cases lister.csiDriver c.provisioner with
      | none => rfl
      | some d => rfl

theorem isUsable_iff {c : StorageClass} (wellFormed : ∀ s ∈ c.topologies, s.WellFormed) :
    (isUsable lister csiNode node c).run = true ↔ Usable lister csiNode node c := by
  have driver : (!(lister.csiDriver c.provisioner).isSome ||
      csiNode.hasDriver c.provisioner) = true ↔
      lister.csiDriver c.provisioner = none ∨
        ∃ installed ∈ csiNode.drivers, installed.name = c.provisioner := by
    cases lister.csiDriver c.provisioner with
    | none => simp
    | some d => simp [CsiNode.hasDriver]
  rw [isUsable_eq, Bool.and_eq_true, allowsNode_iff wellFormed, driver]
  exact ⟨fun h => ⟨h.1, h.2⟩, fun h => ⟨h.place, h.driver⟩⟩

/-! ## The first usable class -/

/-- A candidate as a class, if there is one and the node can use it. -/
def usable? (lister : Lister Id) (csiNode : CsiNode) (node : Node) (name : String) :
    Option StorageClass :=
  (lister.storageClass name).filter fun c => (isUsable lister csiNode node c).run

theorem firstUsable_eq (candidates : List String) :
    (firstUsable lister csiNode node candidates).run =
      candidates.findSome? (usable? lister csiNode node) := by
  induction candidates with
  | nil => rfl
  | cons candidate rest ih =>
      rw [List.findSome?_cons, ← ih]
      show (match lister.storageClass candidate with
        | none => (firstUsable lister csiNode node rest).run
        | some c => if (isUsable lister csiNode node c).run = true then some c
            else (firstUsable lister csiNode node rest).run) = _
      cases hc : lister.storageClass candidate with
      | none => simp [usable?, hc]
      | some c =>
          by_cases hu : (isUsable lister csiNode node c).run = true
          · simp only [usable?, hc, if_pos hu, Option.filter_some]
          · simp only [usable?, hc, if_neg hu, Option.filter_some]

theorem usable_eq_some_iff {name : String} {c : StorageClass}
    (wellFormed : ∀ c, lister.storageClass name = some c → ∀ s ∈ c.topologies, s.WellFormed) :
    usable? lister csiNode node name = some c ↔
      lister.storageClass name = some c ∧ Usable lister csiNode node c := by
  rw [usable?, Option.filter_eq_some_iff]
  exact and_congr_right fun hc => isUsable_iff (wellFormed c hc)

theorem usable_eq_none_iff {name : String}
    (wellFormed : ∀ c, lister.storageClass name = some c → ∀ s ∈ c.topologies, s.WellFormed) :
    usable? lister csiNode node name = none ↔
      ∀ c, lister.storageClass name = some c → ¬ Usable lister csiNode node c := by
  rw [usable?, Option.filter_eq_none_iff]
  exact forall₂_congr fun c hc => not_congr (isUsable_iff (wellFormed c hc))

/-! ## The outcome -/

/-- What selecting a class yields. -/
inductive Selects (lister : Lister Id) (node : Node) (candidates : List String) :
    Except Error StorageClass → Prop
  /-- Nothing is known about the drivers of the node. -/
  | unknown (missing : lister.csiNode node.anyName = none) :
      Selects lister node candidates (.error (.csiNodeNotFound node.anyName))
  /-- A candidate exists and can be used, and all before it do not exist or cannot. -/
  | selected {csiNode : CsiNode} {before after : List String} {name : String} {c : StorageClass}
      (known : lister.csiNode node.anyName = some csiNode)
      (listed : candidates = before ++ name :: after)
      (exists_class : lister.storageClass name = some c)
      (usable : Usable lister csiNode node c)
      (first : ∀ earlier ∈ before, ∀ d, lister.storageClass earlier = some d →
        ¬ Usable lister csiNode node d) :
      Selects lister node candidates (.ok c)
  /-- No candidate exists and can be used. -/
  | unmatched {csiNode : CsiNode} (known : lister.csiNode node.anyName = some csiNode)
      (none_usable : ∀ name ∈ candidates, ∀ d, lister.storageClass name = some d →
        ¬ Usable lister csiNode node d) :
      Selects lister node candidates (.error (.noMatchingClass node.anyName))

theorem selectClass_of_none {candidates : List String}
    (missing : lister.csiNode node.anyName = none) :
    (selectClass lister node candidates).run = .error (.csiNodeNotFound node.anyName) := by
  unfold selectClass
  rw [Id.run_bind, show (lister.csiNode node.anyName).run = none from missing]
  rfl

theorem selectClass_of_some {candidates : List String}
    (known : lister.csiNode node.anyName = some csiNode) :
    (selectClass lister node candidates).run =
      match candidates.findSome? (usable? lister csiNode node) with
      | none => .error (.noMatchingClass node.anyName)
      | some c => .ok c := by
  rw [← firstUsable_eq]
  show (match lister.csiNode node.anyName with
    | none => Except.error (Error.csiNodeNotFound node.anyName)
    | some csiNode => match (firstUsable lister csiNode node candidates).run with
      | none => Except.error (Error.noMatchingClass node.anyName)
      | some c => Except.ok c) = _
  rw [known]

/-- **Selection is exact**: it yields what `Selects` says, and nothing else. -/
theorem selectClass_eq_iff {candidates : List String} {result : Except Error StorageClass}
    (wellFormed : ∀ name ∈ candidates, ∀ c, lister.storageClass name = some c →
      ∀ s ∈ c.topologies, s.WellFormed) :
    (selectClass lister node candidates).run = result ↔
      Selects lister node candidates result := by
  constructor
  · rintro rfl
    cases known : lister.csiNode node.anyName with
    | none =>
        rw [selectClass_of_none known]
        exact .unknown known
    | some csiNode =>
        rw [selectClass_of_some known]
        cases found : candidates.findSome? (usable? lister csiNode node) with
        | none =>
            rw [List.findSome?_eq_none_iff] at found
            exact .unmatched known fun name hn =>
              (usable_eq_none_iff (wellFormed name hn)).mp (found name hn)
        | some c =>
            obtain ⟨before, name, after, rfl, hc, none_before⟩ :=
              List.findSome?_eq_some_iff.mp found
            obtain ⟨exists_class, usable⟩ :=
              (usable_eq_some_iff (wellFormed name (by simp))).mp hc
            exact .selected known rfl exists_class usable fun earlier he =>
              (usable_eq_none_iff (wellFormed earlier (by simp [he]))).mp (none_before earlier he)
  · intro selects
    cases selects with
    | unknown missing => exact selectClass_of_none missing
    | @unmatched csiNode known none_usable =>
        have found : candidates.findSome? (usable? lister csiNode node) = none :=
          List.findSome?_eq_none_iff.mpr fun name hn =>
            (usable_eq_none_iff (wellFormed name hn)).mpr (none_usable name hn)
        rw [selectClass_of_some known, found]
    | @selected csiNode before after name c known listed exists_class usable first =>
        have found : candidates.findSome? (usable? lister csiNode node) = some c := by
          subst listed
          refine List.findSome?_eq_some_iff.mpr ⟨before, name, after, rfl, ?_, ?_⟩
          · exact (usable_eq_some_iff (wellFormed name (by simp))).mpr ⟨exists_class, usable⟩
          · exact fun earlier he =>
              (usable_eq_none_iff (wellFormed earlier (by simp [he]))).mpr (first earlier he)
        rw [selectClass_of_some known, found]

/-- A lister of one driver on every node, and of two classes of it in two zones. -/
def twoZones : Lister Id where
  storageClass name := [("far", "b"), ("near", "a")].lookup name |>.map fun zone =>
    Sample.storageClass name "disk.csi" "Delete" [(zoneLabel, [zone])]
  csiNode name := some (Sample.csiNode name [("disk.csi", [zoneLabel, zoneLabel])])
  csiDriver name := if name = "disk.csi" then some (Sample.csiDriver name) else none
  node _ := none
  claim _ _ := none

theorem selects_near_class :
    Selects twoZones (Sample.node "worker" [(zoneLabel, "a")]) ["missing", "far", "near"]
      (.ok (Sample.storageClass "near" "disk.csi" "Delete" [(zoneLabel, ["a"])])) := by
  have wellFormed : ∀ name ∈ ["missing", "far", "near"],
      ∀ c ∈ (twoZones.storageClass name).run, ∀ s ∈ c.topologies, s.WellFormed := by decide
  have known : twoZones.csiNode (Sample.node "worker" [(zoneLabel, "a")]).anyName =
      some (Sample.csiNode "worker" [("disk.csi", [zoneLabel, zoneLabel])]) := rfl
  have found : ["missing", "far", "near"].findSome? (usable? twoZones
      (Sample.csiNode "worker" [("disk.csi", [zoneLabel, zoneLabel])])
      (Sample.node "worker" [(zoneLabel, "a")])) =
      some (Sample.storageClass "near" "disk.csi" "Delete" [(zoneLabel, ["a"])]) := by
    decide +kernel
  refine (selectClass_eq_iff wellFormed).mp ?_
  rw [selectClass_of_some known, found]

end Selection

end VolumeHandover
