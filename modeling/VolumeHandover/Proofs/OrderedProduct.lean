import VolumeHandover.Proofs.Topology
import Mathlib.Algebra.BigOperators.Group.List.Basic
import Mathlib.Algebra.GroupWithZero.Nat

set_option autoImplicit false

/-! # The order of flattened topologies

The terms of one topology are the choices of one value for each of its expressions, and they stand
in a fixed order: the first expression runs through its values fastest, the last one slowest
(`getElem?_product`). So the place of a choice is the number whose digits are the chosen indices,
the numbers of values being the bases (`Choice.position`), and `flatten` puts the topologies one
behind the other (`flatten_lists_choices`).

The accumulator of `flatten` takes "no terms so far" as its beginning, so all this needs that every
expression has a value.
-/

namespace VolumeHandover

namespace Topology

/-! ## Choices and their places -/

/-- A choice of one value for each of some expressions, by the index of the value. -/
inductive Choice : List TopologyExpression → Type
  | nil : Choice []
  | cons {e : TopologyExpression} {rest : List TopologyExpression}
      (index : Fin e.values.length) (others : Choice rest) : Choice (e :: rest)

/-- The number of choices for some expressions. -/
def choices (expressions : List TopologyExpression) : Nat :=
  (expressions.map (·.values.length)).prod

namespace Choice

/-- The place of a choice: `i₁ + n₁ * (i₂ + n₂ * (i₃ + …))` for the indices `i` out of `n`. -/
def position : {expressions : List TopologyExpression} → Choice expressions → Nat
  | [], .nil => 0
  | e :: _, .cons index others => index + e.values.length * others.position

/-- The chosen keys and values, in the order of the expressions. -/
def segments : {expressions : List TopologyExpression} → Choice expressions → List Segment
  | [], .nil => []
  | e :: _, .cons index others => ⟨e.key, e.values[index]⟩ :: others.segments

variable {expressions : List TopologyExpression}

/-- Different choices have different places. -/
theorem position_inj {c c' : Choice expressions} (same : c.position = c'.position) : c = c' := by
  induction c with
  | nil =>
      cases c' with
      | nil => rfl
  | @cons e rest index others ih =>
      cases c' with
      | cons index' others' =>
          rw [position, position] at same
          have some_value : 0 < e.values.length := index.pos
          -- the first index is the remainder by the number of values, the other digits are the
          -- quotient
          have digits : index.val = index'.val := by
            have remainders := congrArg (· % e.values.length) same
            simpa only [Nat.add_mul_mod_self_left, Nat.mod_eq_of_lt index.isLt,
              Nat.mod_eq_of_lt index'.isLt] using remainders
          have positions : others.position = others'.position := by
            have quotients := congrArg (· / e.values.length) same
            simpa only [Nat.add_mul_div_left _ _ some_value, Nat.div_eq_of_lt index.isLt,
              Nat.div_eq_of_lt index'.isLt, Nat.zero_add] using quotients
          rw [Fin.ext digits, ih positions]

/-- Every place belongs to a choice. -/
theorem exists_position {place : Nat} (inside : place < choices expressions) :
    ∃ c : Choice expressions, c.position = place := by
  induction expressions generalizing place with
  | nil => exact ⟨.nil, (Nat.lt_one_iff.mp inside).symm⟩
  | cons e rest ih =>
      rw [choices, List.map_cons, List.prod_cons] at inside
      have some_value : 0 < e.values.length := Nat.pos_of_mul_pos_right (Nat.zero_lt_of_lt inside)
      obtain ⟨others, quotient⟩ := ih (Nat.div_lt_of_lt_mul inside)
      refine ⟨.cons ⟨place % e.values.length, Nat.mod_lt place some_value⟩ others, ?_⟩
      rw [position, quotient]
      exact Nat.mod_add_div place e.values.length

end Choice

/-! ## The product -/

/-- The ways to pick a value for each expression, those that differ in the first value only side
by side. -/
def product : List TopologyExpression → List (List Segment)
  | [] => [[]]
  | e :: rest =>
      (product rest).flatMap fun others => e.values.map fun value => ⟨e.key, value⟩ :: others

theorem length_product (expressions : List TopologyExpression) :
    (product expressions).length = choices expressions := by
  induction expressions with
  | nil => rfl
  | cons e rest ih =>
      rw [choices, List.map_cons, List.prod_cons, ← choices, ← ih, product, List.length_flatMap]
      simp [Nat.mul_comm]

/-- An item of one of several lists of the same length. -/
theorem getElem?_flatMap {α β : Type} {f : α → List β} {n i : Nat} (below : i < n) {as : List α}
    (length : ∀ a ∈ as, (f a).length = n) (k : Nat) :
    (as.flatMap f)[i + n * k]? = as[k]?.bind fun a => (f a)[i]? := by
  induction as generalizing k with
  | nil => rfl
  | cons a rest ih =>
      have first : (f a).length = n := length a List.mem_cons_self
      rw [List.flatMap_cons]
      cases k with
      | zero => rw [Nat.mul_zero, Nat.add_zero, List.getElem?_append_left (first ▸ below)]; rfl
      | succ k =>
          have behind : i + n * (k + 1) = n + (i + n * k) := by rw [Nat.mul_succ]; omega
          rw [behind, List.getElem?_append_right (by rw [first]; exact Nat.le_add_right n _), first,
            Nat.add_sub_cancel_left, ih fun a mem => length a (.tail _ mem)]
          rfl

/-- Each choice stands at its place. -/
theorem getElem?_product {expressions : List TopologyExpression} (c : Choice expressions) :
    (product expressions)[c.position]? = some c.segments := by
  induction c with
  | nil => rfl
  | @cons e rest index others ih =>
      rw [Choice.position, product,
        getElem?_flatMap index.isLt (fun others _ => List.length_map _), ih, Option.bind_some,
        List.getElem?_map]
      simp [Choice.segments]

/-! ## Flattening -/

/-- Further expressions with values put each way to pick from them behind the terms so far. -/
theorem foldl_extend_eq {expressions : List TopologyExpression}
    (valued : ∀ e ∈ expressions, e.values ≠ []) {terms : List Term} (some_term : terms ≠ []) :
    expressions.foldl extend terms =
      (product expressions).flatMap fun others => terms.map fun t => ⟨t.segments ++ others⟩ := by
  induction expressions generalizing terms with
  | nil => simp [product]
  | cons e rest ih =>
      have more : extend terms e ≠ [] := fun none =>
        valued e List.mem_cons_self (extend_eq_nil_iff.mp none)
      rw [List.foldl_cons, ih (fun e mem => valued e (.tail _ mem)) more, extend_eq,
        starts_eq some_term, product, List.flatMap_assoc]
      refine congrArg (List.flatMap · (product rest)) (funext fun others => ?_)
      rw [List.map_flatMap, List.flatMap_map]
      refine congrArg (List.flatMap · e.values) (funext fun value => ?_)
      rw [List.map_map]
      refine List.map_congr_left fun t _ => ?_
      show Term.mk ((t.segments ++ [⟨e.key, value⟩]) ++ others) = _
      rw [List.append_assoc, List.singleton_append]

/-- The terms of a topology whose expressions all have values are the ways to pick from them. -/
theorem expand_eq_product {s : TopologySelector} (some_expression : s.expressions ≠ [])
    (valued : ∀ e ∈ s.expressions, e.values ≠ []) :
    expand s = (product s.expressions).map Term.mk := by
  have begun : expand s = s.expressions.foldl extend [Term.empty] := by
    obtain ⟨e, rest, first⟩ := List.exists_cons_of_ne_nil some_expression
    rw [expand, first, List.foldl_cons, List.foldl_cons, extend_eq, extend_eq]
    rfl
  rw [begun, foldl_extend_eq valued (List.cons_ne_nil _ _)]
  exact List.map_eq_flatMap.symm

theorem flatten_singleton (s : TopologySelector) : flatten [s] = (expand s).map Term.sort := by
  rw [flatten, List.flatMap_singleton]

/-- A topology without expressions comes to no terms. -/
theorem expand_eq_nil {s : TopologySelector} (none : s.expressions = []) : expand s = [] := by
  rw [expand, none]
  rfl

/-- The topologies that have expressions. -/
def described (allowed : List TopologySelector) : List TopologySelector :=
  allowed.filter fun s => s.expressions ≠ []

theorem mem_described_iff {allowed : List TopologySelector} {s : TopologySelector} :
    s ∈ described allowed ↔ s ∈ allowed ∧ s.expressions ≠ [] := by
  rw [described, List.mem_filter, decide_eq_true_iff]

/-- The terms of the topologies stand one behind the other. -/
theorem flatten_eq (allowed : List TopologySelector) :
    flatten allowed = (described allowed).flatMap fun s => flatten [s] := by
  induction allowed with
  | nil => rfl
  | cons s rest ih =>
      have first : flatten (s :: rest) = flatten [s] ++ flatten rest := by simp [flatten]
      rw [first, ih]
      unfold described
      by_cases none : s.expressions = []
      · rw [List.filter_cons_of_neg (by simpa using none), flatten_singleton, expand_eq_nil none]
        rfl
      · rw [List.filter_cons_of_pos (by simpa using none), List.flatMap_cons]

/-- A list of terms holds one term for each choice, at the place of the choice: the chosen keys and
values, as often as they were chosen, in order of key, then value. -/
structure Enumerates (terms : List Term) (expressions : List TopologyExpression) : Prop where
  length : terms.length = choices expressions
  term : ∀ c : Choice expressions, ∃ t, terms[c.position]? = some t ∧
    t.Sorted ∧ t.segments.Perm c.segments
  place : ∀ place < terms.length, ∃! c : Choice expressions, c.position = place

theorem enumerates_flatten {s : TopologySelector} (some_expression : s.expressions ≠ [])
    (valued : ∀ e ∈ s.expressions, e.values ≠ []) :
    Enumerates (flatten [s]) s.expressions := by
  have terms : flatten [s] =
      (product s.expressions).map fun segments => Term.sort ⟨segments⟩ := by
    rw [flatten_singleton, expand_eq_product some_expression valued, List.map_map]
    rfl
  have length : (flatten [s]).length = choices s.expressions := by
    rw [terms, List.length_map, length_product]
  refine ⟨length, fun c => ?_, fun place inside => ?_⟩
  case refine_1 =>
    refine ⟨Term.sort ⟨c.segments⟩, ?_, Term.sort_sorted _, Term.sort_perm _⟩
    rw [terms, List.getElem?_map, getElem?_product]
    rfl
  case refine_2 =>
    obtain ⟨c, there⟩ := Choice.exists_position (length ▸ inside)
    exact ⟨c, there, fun c' there' => Choice.position_inj (there'.trans there.symm)⟩

/-- **Flattening is the ordered product**: if all expressions have values, the terms of the
topologies that have expressions stand one behind the other, those of each topology being one for
each choice of values, at the place of the choice. So their number is the sum of the products of
the numbers of values. -/
theorem flatten_lists_choices (allowed : List TopologySelector)
    (valued : ∀ s ∈ allowed, ∀ e ∈ s.expressions, e.values ≠ []) :
    flatten allowed = (described allowed).flatMap (fun s => flatten [s]) ∧
      (∀ s ∈ described allowed, Enumerates (flatten [s]) s.expressions) ∧
      (flatten allowed).length =
        ((described allowed).map fun s => (s.expressions.map (·.values.length)).prod).sum := by
  have enumerates : ∀ s ∈ described allowed, Enumerates (flatten [s]) s.expressions := by
    intro s mem
    obtain ⟨mem, some_expression⟩ := mem_described_iff.mp mem
    exact enumerates_flatten some_expression (valued s mem)
  refine ⟨flatten_eq allowed, enumerates, ?_⟩
  rw [flatten_eq, List.length_flatMap]
  exact congrArg List.sum (List.map_congr_left fun s mem => (enumerates s mem).length)

end Topology

namespace Sample

/-- Topologies with three, no and one expressions; one value is repeated, and so is one key. -/
def manifold : List TopologySelector :=
  [topology [("zone", ["a", "b"]), ("rack", ["x", "y", "x"]), ("zone", ["b"])], {},
    topology [("rack", ["w"])]]

/-- The second zone with the third rack. -/
def lastChoice : Topology.Choice (topology
    [("zone", ["a", "b"]), ("rack", ["x", "y", "x"]), ("zone", ["b"])]).expressions :=
  .cons ⟨1, by decide⟩ (.cons ⟨2, by decide⟩ (.cons ⟨0, by decide⟩ .nil))

end Sample

/-- Six terms of one topology and one of another; the last of the six has its keys in order. -/
theorem sample_product_listed :
    (∀ s ∈ Sample.manifold, ∀ e ∈ s.expressions, e.values ≠ []) ∧
      (Topology.flatten Sample.manifold).length = 2 * 3 * 1 + 1 ∧
      ∃ t : Term, (Topology.flatten (Sample.manifold.take 1))[5]? = some t ∧ t.Sorted ∧
        t.segments.Perm [⟨"zone", "b"⟩, ⟨"rack", "x"⟩, ⟨"zone", "b"⟩] := by
  have valued : ∀ s ∈ Sample.manifold, ∀ e ∈ s.expressions, e.values ≠ [] := by decide
  obtain ⟨-, enumerates, length⟩ := Topology.flatten_lists_choices Sample.manifold valued
  refine ⟨valued, length, ?_⟩
  exact (enumerates (Sample.manifold.head (by decide)) (by decide)).term Sample.lastChoice

end VolumeHandover
