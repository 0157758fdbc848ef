import VolumeHandover.Proofs.Selection

set_option autoImplicit false

/-! # What a selection looks at

Of a node, a selection looks at the labels that the drivers of the candidate classes registered as
topology keys, and at no others. Of the entries for the drivers on the node it looks at the names
and the keys, and the order in which an entry lists its keys does not count: the place of the node
is put in order, so it is the same term (`nodeTerm_congr`). From there on the two selections cannot
be told apart (`isUsable_congr`), whatever the topologies of the classes are, well-formed or not.
-/

namespace VolumeHandover

/-! ## The place of a node -/

namespace Topology

theorem mapM_option_perm {α β : Type} {f g : α → Option β} {as bs : List α} (perm : as.Perm bs)
    (agree : ∀ a ∈ as, f a = g a) : Option.Rel List.Perm (as.mapM f) (bs.mapM g) := by
  rw [mapM_option_eq, mapM_option_eq]
  by_cases all : ∀ a ∈ as, (f a).isSome
  · have all' : ∀ b ∈ bs, (g b).isSome := by
      intro b hb
      rw [← agree b (perm.mem_iff.mpr hb)]
      exact all b (perm.mem_iff.mpr hb)
    rw [if_pos all, if_pos all', List.filterMap_congr agree]
    exact .some (perm.filterMap g)
  · have not_all' : ¬ ∀ b ∈ bs, (g b).isSome := by
      intro all'
      refine all fun a ha => ?_
      rw [agree a ha]
      exact all' a (perm.mem_iff.mp ha)
    rw [if_neg all, if_neg not_all']
    exact .none

/-- The place depends on the labels with one of the keys only, and not on the order of the keys. -/
theorem nodeTerm_congr {labels labels' : Table String} {keys keys' : List String}
    (perm : keys.Perm keys') (agree : ∀ key ∈ keys, labels.get? key = labels'.get? key) :
    nodeTerm? labels keys = nodeTerm? labels' keys' := by
  -- the labels are found in the order of the keys, which sorting forgets
  have sorted : ∀ {o o' : Option (List Segment)}, Option.Rel List.Perm o o' →
      o.map (fun segments => Term.sort ⟨segments⟩) =
        o'.map (fun segments => Term.sort ⟨segments⟩) := by
    rintro _ _ (same | _)
    · exact congrArg some (Term.sort_eq_sort_iff.mpr same)
    · rfl
  refine sorted (mapM_option_perm perm fun key hkey => ?_)
  rw [agree key hkey]

end Topology

/-! ## Drivers on a node -/

/-- Two entries for one driver, which list the same topology keys, each as often. -/
structure InstalledDriver.Matches (d d' : InstalledDriver) : Prop where
  name : d.name = d'.name
  keys : (d.topologyKeys.getD []).Perm (d'.topologyKeys.getD [])

/-- The first entries for a driver match, if there are any. -/
theorem InstalledDriver.matches_find {drivers drivers' : List InstalledDriver}
    (h : List.Forall₂ Matches drivers drivers') (driver : String) :
    Option.Rel Matches (drivers.find? (·.name = driver)) (drivers'.find? (·.name = driver)) := by
  induction h with
  | nil => exact .none
  | @cons d d' rest rest' same _ ih =>
      -- the names agree, so both searches stop at this entry or neither does
      by_cases here : d.name = driver
      · have here' : d'.name = driver := same.name ▸ here
        rw [List.find?_cons_of_pos (by simpa using here),
          List.find?_cons_of_pos (by simpa using here')]
        exact .some same
      · have not_here' : d'.name ≠ driver := same.name ▸ here
        rw [List.find?_cons_of_neg (by simpa using here),
          List.find?_cons_of_neg (by simpa using not_here')]
        exact ih

namespace CsiNode

/-- The same drivers on a node, in the same order. -/
def Matches (n n' : CsiNode) : Prop := List.Forall₂ InstalledDriver.Matches n.drivers n'.drivers

variable {n n' : CsiNode}

theorem Matches.topologyKeys (h : n.Matches n') (driver : String) :
    (n.topologyKeys driver).Perm (n'.topologyKeys driver) := by
  have keys : ∀ {o o' : Option InstalledDriver}, Option.Rel InstalledDriver.Matches o o' →
      ((o.bind (·.topologyKeys)).getD []).Perm ((o'.bind (·.topologyKeys)).getD []) := by
    rintro _ _ (same | _)
    · exact same.keys
    · exact .refl []
  exact keys (InstalledDriver.matches_find h driver)

theorem Matches.hasDriver (h : n.Matches n') (driver : String) :
    n.hasDriver driver = n'.hasDriver driver := by
  have found : ∀ {o o' : Option InstalledDriver}, Option.Rel InstalledDriver.Matches o o' →
      o.isSome = o'.isSome := by
    rintro _ _ (_ | _) <;> rfl
  rw [CsiNode.hasDriver, CsiNode.hasDriver, ← List.isSome_find?, ← List.isSome_find?]
  exact found (InstalledDriver.matches_find h driver)

end CsiNode

/-! ## Selections that cannot be told apart -/

namespace Selection

variable {lister lister' : Lister Id} {csiNode csiNode' : CsiNode} {node node' : Node}

theorem allowsNode_congr {c : StorageClass} (drivers : csiNode.Matches csiNode')
    (labels : ∀ key ∈ csiNode.topologyKeys c.provisioner,
      node.labels.get? key = node'.labels.get? key) :
    allowsNode csiNode node c = allowsNode csiNode' node' c := by
  rw [allowsNode, allowsNode,
    Topology.nodeTerm_congr (drivers.topologyKeys c.provisioner) labels]

theorem isUsable_congr {c : StorageClass} (drivers : csiNode.Matches csiNode')
    (registered : (lister.csiDriver c.provisioner).isSome =
      (lister'.csiDriver c.provisioner).isSome)
    (labels : ∀ key ∈ csiNode.topologyKeys c.provisioner,
      node.labels.get? key = node'.labels.get? key) :
    (isUsable lister csiNode node c).run = (isUsable lister' csiNode' node' c).run := by
  rw [isUsable_eq, isUsable_eq, allowsNode_congr drivers labels, registered,
    drivers.hasDriver c.provisioner]

/-- Two listers and two nodes that are the same to the selection among some candidates. -/
structure SameView (lister lister' : Lister Id) (node node' : Node) (candidates : List String) :
    Prop where
  /-- The nodes have one name. -/
  name : node.anyName = node'.anyName
  /-- The listers know the same classes. -/
  classes : ∀ name ∈ candidates, lister.storageClass name = lister'.storageClass name
  /-- The same drivers are registered. -/
  registered : ∀ driver, (lister.csiDriver driver).isSome = (lister'.csiDriver driver).isSome
  /-- The same drivers are installed on the node, with the same keys in any order, or nothing is
  known about them in both. -/
  installed : Option.Rel CsiNode.Matches (lister.csiNode node.anyName)
    (lister'.csiNode node'.anyName)
  /-- The labels agree on the keys that are registered for the driver of a candidate. -/
  labels : ∀ csiNode, lister.csiNode node.anyName = some csiNode →
    ∀ name ∈ candidates, ∀ c, lister.storageClass name = some c →
      ∀ key ∈ csiNode.topologyKeys c.provisioner, node.labels.get? key = node'.labels.get? key

variable {candidates : List String}

theorem SameView.usable (view : SameView lister lister' node node' candidates)
    (known : lister.csiNode node.anyName = some csiNode) (drivers : csiNode.Matches csiNode')
    {name : String} (listed : name ∈ candidates) :
    usable? lister csiNode node name = usable? lister' csiNode' node' name := by
  rw [usable?, usable?, ← view.classes name listed]
  cases hc : lister.storageClass name with
  | none => rfl
  | some c =>
      rw [Option.filter_some, Option.filter_some, isUsable_congr drivers
        (view.registered c.provisioner) (view.labels csiNode known name listed c hc)]

/-- **A selection ignores what is irrelevant**: if the nodes have one name, the listers know the
same classes and drivers, the entries of the drivers on the node have the same keys in any order,
and the labels agree on the keys that are registered for the driver of a candidate, then the same
class is selected, or there is the same error. -/
theorem selectClass_congr (view : SameView lister lister' node node' candidates) :
    (selectClass lister node candidates).run = (selectClass lister' node' candidates).run := by
  have installed := view.installed
  cases known : lister.csiNode node.anyName with
  | none =>
      rw [known] at installed
      cases known' : lister'.csiNode node'.anyName with
      | none => rw [selectClass_of_none known, selectClass_of_none known', view.name]
      | some csiNode' =>
          rw [known'] at installed
          cases installed
  | some csiNode =>
      rw [known] at installed
      cases known' : lister'.csiNode node'.anyName with
      | none =>
          rw [known'] at installed
          cases installed
      | some csiNode' =>
          rw [known'] at installed
          obtain ⟨drivers⟩ := installed
          have same : candidates.findSome? (usable? lister csiNode node) =
              candidates.findSome? (usable? lister' csiNode' node') := by
            rw [← List.head?_filterMap, ← List.head?_filterMap,
              List.filterMap_congr fun name listed => view.usable known drivers listed]
          rw [selectClass_of_some known, selectClass_of_some known', same, view.name]

end Selection

namespace Sample

/-- A class of one driver with topologies, which need not be well-formed. -/
def placedClass (name : String) (topologies : List TopologySelector) : StorageClass :=
  { storageClass name "disk.csi" "Delete" [] with allowedTopologies := some topologies }

/-- A class that gives the zone twice, and so refuses every place with one zone. -/
def twiceZonedClass : StorageClass :=
  placedClass "twice" [topology [("zone", ["a"]), ("zone", ["a"])]]

/-- A class whose topology begins with an expression without values, which is forgotten. -/
def rackClass : StorageClass := placedClass "racks" blankInFront

/-- The driver of these classes on a node, with topology keys. -/
def placeDriver (keys : List String) : CsiNode := csiNode "worker" [("disk.csi", keys)]

/-- A lister of these classes and of their driver. -/
def placeLister (keys : List String) : Lister Id where
  storageClass name := [("twice", twiceZonedClass), ("racks", rackClass)].lookup name
  csiNode name := if name = "worker" then some (placeDriver keys) else none
  csiDriver name := if name = "disk.csi" then some (csiDriver name) else none
  node _ := none
  claim _ _ := none

/-- A node in a rack of a zone with one more label. -/
def labelledNode (key value : String) : Node :=
  node "worker" [("rack", "x"), ("zone", "a"), (key, value)]

/-- Names of these classes, and one without a class. -/
def placedNames : List String := ["missing", "twice", "racks"]

end Sample

/-- With another label besides and with the keys in another order, the same class is selected. -/
theorem sample_same_selection :
    Selection.SameView (Sample.placeLister ["rack", "zone"]) (Sample.placeLister ["zone", "rack"])
        (Sample.labelledNode "disk" "fast") (Sample.labelledNode "region" "r") Sample.placedNames ∧
      (selectClass (Sample.placeLister ["zone", "rack"]) (Sample.labelledNode "region" "r")
        Sample.placedNames).run = .ok Sample.rackClass := by
  have known : (Sample.placeLister ["rack", "zone"]).csiNode
      (Sample.labelledNode "disk" "fast").anyName = some (Sample.placeDriver ["rack", "zone"]) :=
    rfl
  have agree : ∀ name ∈ Sample.placedNames,
      ∀ c ∈ ((Sample.placeLister ["rack", "zone"]).storageClass name).run,
      ∀ key ∈ (Sample.placeDriver ["rack", "zone"]).topologyKeys c.provisioner,
      (Sample.labelledNode "disk" "fast").labels.get? key =
        (Sample.labelledNode "region" "r").labels.get? key := by
    decide
  have view : Selection.SameView (Sample.placeLister ["rack", "zone"])
      (Sample.placeLister ["zone", "rack"]) (Sample.labelledNode "disk" "fast")
      (Sample.labelledNode "region" "r") Sample.placedNames := by
    refine ⟨rfl, fun _ _ => rfl, fun _ => rfl, ?_, fun csiNode hn name listed c hc => ?_⟩
    · exact .some (.cons ⟨rfl, .swap "zone" "rack" []⟩ .nil)
    · obtain rfl : Sample.placeDriver ["rack", "zone"] = csiNode :=
        Option.some.inj (known.symm.trans hn)
      exact agree name listed c hc
  have found : Sample.placedNames.findSome? (Selection.usable?
      (Sample.placeLister ["rack", "zone"]) (Sample.placeDriver ["rack", "zone"])
      (Sample.labelledNode "disk" "fast")) = some Sample.rackClass := by
    decide +kernel
  refine ⟨view, (Selection.selectClass_congr view).symm.trans ?_⟩
  rw [Selection.selectClass_of_some known, found]

/-- A label under a registered key does count: the class cannot be used from another rack. -/
example : Selection.usable? (Sample.placeLister ["rack"]) (Sample.placeDriver ["rack"])
    (Sample.node "worker" [("rack", "y")]) "racks" = none := by
  decide +kernel

end VolumeHandover
