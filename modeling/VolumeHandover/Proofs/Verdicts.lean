import VolumeHandover.Proofs.Selection

set_option autoImplicit false

/-! # Two verdicts on a place

Whether a place is allowed is decided in two ways. `Topology.allows` judges by the terms alone and
takes it for a class without restrictions if there are none; selecting a class looks at the
topologies first. The two disagree just where there are topologies and flattening leaves nothing of
any of them (`verdicts_differ_iff`), and this shows at the last expression of each.
-/

namespace VolumeHandover

/-! ## Topologies that vanish -/

/-- A topology has no expressions, or the last of them has no values. -/
def TopologySelector.Hollow (s : TopologySelector) : Prop :=
  s.expressions = [] ∨ ∃ last, s.expressions.getLast? = some last ∧ last.values = []

namespace Topology

/-- Flattening leaves nothing of a topology just if it is hollow: the values of the last expression
make terms, whatever the expressions before it have left. -/
theorem expand_eq_nil_iff {s : TopologySelector} : expand s = [] ↔ s.Hollow := by
  unfold expand TopologySelector.Hollow
  obtain none | ⟨before, last, ending⟩ := List.eq_nil_or_concat' s.expressions
  · rw [none]
    exact iff_of_true rfl (.inl rfl)
  · rw [ending, List.foldl_append, List.foldl_cons, List.foldl_nil, extend_eq_nil_iff]
    simp

theorem flatten_eq_nil_iff {allowed : List TopologySelector} :
    flatten allowed = [] ↔ ∀ s ∈ allowed, s.Hollow := by
  rw [flatten, List.map_eq_nil_iff, List.flatMap_eq_nil_iff]
  exact forall₂_congr fun s _ => expand_eq_nil_iff

end Topology

/-! ## The verdict of the selection -/

namespace Selection

/-- Whether topologies admit a place: there are none, or one of their terms stands in the place. -/
def admits (allowed : List TopologySelector) (place : Term) : Bool :=
  allowed.isEmpty || (Topology.flatten allowed).any (·.subset place)

variable {csiNode : CsiNode} {node : Node} {c : StorageClass} {place : Term}

/-- This is how a class is judged by the place of a node. -/
theorem allowsNode_of_place
    (found : Topology.nodeTerm? node.labels (csiNode.topologyKeys c.provisioner) = some place) :
    allowsNode csiNode node c = admits c.topologies place := by
  rw [allowsNode, found, admits]

/-- Hollow topologies admit no place. -/
theorem not_admits {allowed : List TopologySelector} (listed : allowed ≠ [])
    (hollow : ∀ s ∈ allowed, s.Hollow) : admits allowed place = false := by
  rw [admits, Topology.flatten_eq_nil_iff.mpr hollow, List.any_nil, Bool.or_false]
  exact List.isEmpty_eq_false_iff.mpr listed

/-- If flattening leaves any terms, the terms decide in both ways. -/
theorem allows_eq_admits {allowed : List TopologySelector} (left : Topology.flatten allowed ≠ []) :
    Topology.allows (Topology.flatten allowed) place = admits allowed place := by
  have listed : allowed ≠ [] := by
    rintro rfl
    exact left rfl
  rw [Topology.allows, admits, List.isEmpty_eq_false_iff.mpr left,
    List.isEmpty_eq_false_iff.mpr listed]

/-- A class with hollow topologies does not allow a node, with a place or without. -/
theorem not_allowsNode (listed : c.topologies ≠ []) (hollow : ∀ s ∈ c.topologies, s.Hollow) :
    allowsNode csiNode node c = false := by
  cases found : Topology.nodeTerm? node.labels (csiNode.topologyKeys c.provisioner) with
  | none =>
      rw [allowsNode, found, Bool.or_false]
      exact List.isEmpty_eq_false_iff.mpr listed
  | some place => rw [allowsNode_of_place found, not_admits listed hollow]

/-- A class that is selected allows the node. -/
theorem allowsNode_of_selected {lister : Lister Id} {candidates : List String}
    (selected : (selectClass lister node candidates).run = .ok c) :
    ∃ csiNode, allowsNode csiNode node c = true := by
  cases known : lister.csiNode node.anyName with
  | none =>
      rw [selectClass_of_none known] at selected
      cases selected
  | some csiNode =>
      refine ⟨csiNode, ?_⟩
      rw [selectClass_of_some known] at selected
      cases found : candidates.findSome? (usable? lister csiNode node) with
      | none =>
          rw [found] at selected
          cases selected
      | some d =>
          rw [found] at selected
          obtain rfl : d = c := Except.ok.inj selected
          obtain ⟨name, -, usable⟩ := List.exists_of_findSome?_eq_some found
          have fits : (isUsable lister csiNode node d).run = true :=
            (Option.filter_eq_some_iff.mp usable).2
          rw [isUsable_eq, Bool.and_eq_true] at fits
          exact fits.1

/-- **Where the verdicts part**: for any place the terms and the topologies judge differently just
if there are topologies and all of them are hollow. Then the terms allow every place, and the
topologies admit none: a class with them allows no node and is never selected. The verdict on a node
that selecting a class goes by is the one of the topologies. -/
theorem verdicts_differ_iff (allowed : List TopologySelector) :
    (∀ place, Topology.allows (Topology.flatten allowed) place ≠ admits allowed place ↔
      allowed ≠ [] ∧ ∀ s ∈ allowed, s.Hollow) ∧
    (allowed ≠ [] → (∀ s ∈ allowed, s.Hollow) →
      (∀ place, Topology.allows (Topology.flatten allowed) place = true ∧
        admits allowed place = false) ∧
      ∀ (node : Node) (c : StorageClass), c.topologies = allowed →
        (∀ csiNode, allowsNode csiNode node c = false) ∧
        ∀ (lister : Lister Id) candidates, (selectClass lister node candidates).run ≠ .ok c) ∧
    ∀ (csiNode : CsiNode) (node : Node) (c : StorageClass) place, c.topologies = allowed →
      Topology.nodeTerm? node.labels (csiNode.topologyKeys c.provisioner) = some place →
      allowsNode csiNode node c = admits allowed place := by
  refine ⟨fun place => ⟨fun differ => ?_, ?_⟩, fun listed hollow => ⟨fun place => ?_, ?_⟩, ?_⟩
  · have vanished : Topology.flatten allowed = [] := by
      by_contra left
      exact differ (allows_eq_admits left)
    refine ⟨?_, Topology.flatten_eq_nil_iff.mp vanished⟩
    rintro rfl
    exact differ rfl
  · rintro ⟨listed, hollow⟩
    rw [Topology.flatten_eq_nil_iff.mpr hollow, not_admits listed hollow]
    exact nofun
  · rw [Topology.flatten_eq_nil_iff.mpr hollow, not_admits listed hollow]
    exact ⟨rfl, rfl⟩
  · rintro node c rfl
    refine ⟨fun csiNode => not_allowsNode listed hollow, fun lister candidates selected => ?_⟩
    obtain ⟨csiNode, allows⟩ := allowsNode_of_selected selected
    rw [not_allowsNode listed hollow] at allows
    cases allows
  · rintro csiNode node c place rfl found
    exact allowsNode_of_place found

end Selection

namespace Sample

/-- A topology without expressions, and one whose last expression has no values. -/
def hollows : List TopologySelector := [{}, topology [("rack", ["x"]), ("zone", [])]]

/-- A class with these topologies. -/
def hollowClass : StorageClass :=
  { storageClass "hollow" "disk.csi" "Delete" [] with allowedTopologies := some hollows }

/-- A node in a rack. -/
def rackNode : Node := node "worker" [("rack", "x")]

/-- The driver of that class on the node, which knows racks. -/
def rackDriver : CsiNode := csiNode "worker" [("disk.csi", ["rack"])]

/-- A lister of that class and of the drivers on that node. -/
def hollowLister : Lister Id where
  storageClass name := if name = "hollow" then some hollowClass else none
  csiNode name := if name = "worker" then some rackDriver else none
  csiDriver _ := none
  node _ := none
  claim _ _ := none

end Sample

/-- The terms of hollow topologies allow the place of a node, and a class with these topologies does
not allow the node and is not selected for it. -/
theorem sample_verdicts_differ :
    Sample.hollows ≠ [] ∧ (∀ s ∈ Sample.hollows, s.Hollow) ∧
      Topology.allows (Topology.flatten Sample.hollows) ⟨[⟨"rack", "x"⟩]⟩ = true ∧
      Selection.admits Sample.hollows ⟨[⟨"rack", "x"⟩]⟩ = false ∧
      Selection.allowsNode Sample.rackDriver Sample.rackNode Sample.hollowClass = false ∧
      (selectClass Sample.hollowLister Sample.rackNode ["hollow"]).run ≠
        .ok Sample.hollowClass := by
  have listed : Sample.hollows ≠ [] := List.cons_ne_nil _ _
  have hollow : ∀ s ∈ Sample.hollows, s.Hollow :=
    List.forall_mem_cons.mpr
      ⟨.inl rfl, List.forall_mem_singleton.mpr (.inr ⟨⟨"zone", []⟩, rfl, rfl⟩)⟩
  obtain ⟨-, part, judges⟩ := Selection.verdicts_differ_iff Sample.hollows
  obtain ⟨judged, classes⟩ := part listed hollow
  obtain ⟨-, unselected⟩ := classes Sample.rackNode Sample.hollowClass rfl
  obtain ⟨allows, refuses⟩ := judged ⟨[⟨"rack", "x"⟩]⟩
  have same := judges Sample.rackDriver Sample.rackNode Sample.hollowClass ⟨[⟨"rack", "x"⟩]⟩ rfl
    (by decide)
  exact ⟨listed, hollow, allows, refuses, same.trans refuses, unselected _ _⟩

end VolumeHandover
