import VolumeHandover.Object.StorageClass
import VolumeHandover.Topology.Term

set_option autoImplicit false

/-! # Allowed topologies as terms

The allowed topologies of a class are alternatives; the expressions of one topology hold
together; the values of one expression are alternatives again. `flatten` distributes the
values over the expressions, so that what is left is a list of plain terms. An expression
without values leaves nothing of what stands before it.
-/

namespace VolumeHandover

namespace Topology

/-- The terms after one more expression: each value on its own if there are no terms yet, and
else behind each term, all terms with the first value coming first. -/
def extend (terms : List Term) (e : TopologyExpression) : List Term :=
  e.values.flatMap fun value =>
    match terms with
    | [] => [Term.ofPairs [(e.key, value)]]
    | _ :: _ => terms.map (·.push ⟨e.key, value⟩)

/-- The unsorted terms of one topology. -/
def expand (s : TopologySelector) : List Term := s.expressions.foldl extend []

/-- The terms that the allowed topologies come to, each in order. -/
def flatten (allowed : List TopologySelector) : List Term :=
  (allowed.flatMap expand).map Term.sort

/-- The place of a node that the given keys describe: the label of each key; nothing if one of
the labels is missing. -/
def nodeTerm? (labels : Table String) (keys : List String) : Option Term :=
  (keys.mapM fun key => (labels.get? key).map (Segment.mk key)).map fun segments =>
    Term.sort ⟨segments⟩

/-- Whether a place is allowed: no terms at all allow every place. -/
def allows (allowed : List Term) (place : Term) : Bool :=
  allowed.isEmpty || allowed.any (·.subset place)

/-- Terms as tables of labels; of two segments with one key the later counts. -/
def segmentTables (terms : List Term) : List (Table String) :=
  terms.map fun t => Table.ofList t.pairs

end Topology

end VolumeHandover
