import VolumeHandover.Topology.Selector
import Mathlib.Data.List.Forall2
import Mathlib.Data.List.Sort

set_option autoImplicit false

/-! # What terms and selectors mean

Segments are linearly ordered, and sorting by insertion is the library's. On this rest two
facts. `flatten` lists, for each topology, the ways to pick one value for each expression
(`mem_expand_iff`); the expressions up to the last one without values do not count. So labels
bear one of its terms if they satisfy the other expressions of a topology, which need not be the
topology itself (`flatten_keeps_meaning`). The linear merge decides inclusion where it is used
(`foundIn_iff`), on segments in order, with the keys of the first list distinct and the values of
the second list determined by their keys: the place of a node is such a list, whether or not a
driver repeats a key (`mem_nodeTerm_iff`).
-/

namespace VolumeHandover

/-! ## The order of segments -/

attribute [ext] Segment

namespace Segment

instance : Std.TransCmp compare :=
  inferInstanceAs (Std.TransCmp (compareLex (compareOn Segment.key) (compareOn Segment.value)))

instance : Std.LawfulEqCmp compare where
  eq_of_compare {a b} h := by
    rw [compare, Ordering.then_eq_eq, Std.LawfulEqOrd.compare_eq_iff_eq,
      Std.LawfulEqOrd.compare_eq_iff_eq] at h
    exact Segment.ext h.1 h.2

instance : LE Segment := ⟨fun a b => a.le b = true⟩

instance : DecidableLE Segment := fun a b => inferInstanceAs (Decidable (a.le b = true))

theorem le_iff {a b : Segment} : a ≤ b ↔ (a.compare b).isLE = true := by
  show (a.compare b != .gt) = true ↔ _
  cases a.compare b <;> decide

theorem le_total (a b : Segment) : a ≤ b ∨ b ≤ a := by
  have swap : b.compare a = (a.compare b).swap := Std.OrientedCmp.eq_swap
  rw [le_iff, le_iff, swap]
  cases a.compare b <;> decide

theorem le_trans {a b c : Segment} (hab : a ≤ b) (hbc : b ≤ c) : a ≤ c := by
  rw [le_iff] at *
  exact Std.TransCmp.isLE_trans hab hbc

theorem le_antisymm {a b : Segment} (hab : a ≤ b) (hba : b ≤ a) : a = b := by
  rw [le_iff] at *
  exact Std.LawfulEqCmp.compare_eq_iff_eq.mp (Std.OrientedCmp.isLE_antisymm hab hba)

instance : Std.Total fun a b : Segment => a ≤ b := ⟨le_total⟩

instance : IsTrans Segment fun a b => a ≤ b := ⟨fun _ _ _ => le_trans⟩

instance : Std.Antisymm fun a b : Segment => a ≤ b := ⟨fun _ _ => le_antisymm⟩

/-! ## Sorting -/

theorem insertInto_eq (s : Segment) (segments : List Segment) :
    s.insertInto segments = segments.orderedInsert (· ≤ ·) s := by
  induction segments with
  | nil => rfl
  | cons head rest ih =>
      rw [List.orderedInsert_cons, insertInto, ih]
      rfl

theorem inOrder_eq (segments : List Segment) :
    inOrder segments = segments.insertionSort (· ≤ ·) := by
  induction segments with
  | nil => rfl
  | cons head rest ih =>
      rw [List.insertionSort_cons, ← ih, ← insertInto_eq]
      rfl

theorem inOrder_perm (segments : List Segment) : (inOrder segments).Perm segments := by
  rw [inOrder_eq]
  exact List.perm_insertionSort _ segments

theorem inOrder_sorted (segments : List Segment) :
    (inOrder segments).Pairwise (· ≤ ·) := by
  rw [inOrder_eq]
  exact List.pairwise_insertionSort _ segments

/-- Put in order, lists are the same just if they have the same segments, each as often. -/
theorem inOrder_eq_iff {a b : List Segment} : inOrder a = inOrder b ↔ a.Perm b := by
  constructor
  · intro same
    have back : (inOrder a).Perm b := same ▸ inOrder_perm b
    exact (inOrder_perm a).symm.trans back
  · intro perm
    have same : (inOrder a).Perm (inOrder b) :=
      (inOrder_perm a).trans (perm.trans (inOrder_perm b).symm)
    exact same.eq_of_pairwise' (inOrder_sorted a) (inOrder_sorted b)

end Segment

/-! ## The merge -/

namespace Term

/-- The segments stand in order. -/
def Sorted (t : Term) : Prop := t.segments.Pairwise (· ≤ ·)

instance (t : Term) : Decidable t.Sorted :=
  inferInstanceAs (Decidable (t.segments.Pairwise (· ≤ ·)))

theorem sort_sorted (t : Term) : t.sort.Sorted := Segment.inOrder_sorted t.segments

theorem sort_perm (t : Term) : t.sort.segments.Perm t.segments :=
  Segment.inOrder_perm t.segments

theorem sort_eq_sort_iff {a b : Term} : a.sort = b.sort ↔ a.segments.Perm b.segments := by
  rw [sort, sort, mk.injEq, Segment.inOrder_eq_iff]

@[simp] theorem mem_sort {t : Term} {s : Segment} :
    s ∈ t.sort.segments ↔ s ∈ t.segments := t.sort_perm.mem_iff

/-- What the merge finds stands there in the same order, sorted or not. -/
theorem sublist_of_foundIn {a b : List Segment} (found : foundIn a b = true) :
    a.Sublist b := by
  induction a, b using foundIn.induct with
  | case1 b => exact List.nil_sublist b
  | case2 => simp [foundIn] at found
  | case3 a as b bs other ih =>
      rw [foundIn, if_pos other] at found
      exact (ih found).cons b
  | case4 a as b bs same other =>
      rw [foundIn, if_neg same, if_pos other] at found
      cases found
  | case5 a as b bs key value ih =>
      rw [foundIn, if_neg key, if_neg value] at found
      rw [show a = b from Segment.ext (not_not.mp key) (not_not.mp value)]
      exact (ih found).cons_cons b

/-- The merge decides inclusion in a place, which has one value for each key. -/
theorem foundIn_iff {a b : List Segment} (ha : a.Pairwise (· ≤ ·)) (keys : (a.map (·.key)).Nodup)
    (hb : b.Pairwise (· ≤ ·)) (place : ∀ s ∈ b, ∀ t ∈ b, s.key = t.key → s.value = t.value) :
    foundIn a b = true ↔ ∀ s ∈ a, s ∈ b := by
  refine ⟨fun found s hs => (sublist_of_foundIn found).subset hs, fun sub => ?_⟩
  induction a, b using foundIn.induct with
  | case1 b => rw [foundIn]
  | case2 a as => exact absurd (sub a List.mem_cons_self) List.not_mem_nil
  | case3 a as b bs other ih =>
      rw [foundIn, if_pos other]
      -- `b` stands before `a` in `b :: bs`, so nothing from `a` on can be `b`
      have later : ∀ s ∈ a :: as, s ∈ bs := by
        intro s hs
        rcases List.mem_cons.mp (sub s hs) with rfl | hm
        · rcases List.mem_cons.mp hs with rfl | hs
          · exact absurd rfl other
          · rcases List.mem_cons.mp (sub a List.mem_cons_self) with rfl | hm
            · exact absurd rfl other
            · have h₁ : a ≤ s := (List.pairwise_cons.mp ha).1 s hs
              have h₂ : s ≤ a := (List.pairwise_cons.mp hb).1 a hm
              exact absurd (congrArg Segment.key (Segment.le_antisymm h₁ h₂)) other
        · exact hm
      exact ih ha keys (List.pairwise_cons.mp hb).2
        (fun s hs t ht => place s (.tail _ hs) t (.tail _ ht)) later
  | case4 a as b bs same other =>
      exact absurd (place a (sub a List.mem_cons_self) b List.mem_cons_self (not_not.mp same)) other
  | case5 a as b bs key value ih =>
      rw [foundIn, if_neg key, if_neg value]
      have later : ∀ s ∈ as, s ∈ bs := by
        intro s hs
        rcases List.mem_cons.mp (sub s (.tail _ hs)) with rfl | hm
        · have fresh : a.key ∉ as.map (·.key) := (List.nodup_cons.mp keys).1
          rw [not_not.mp key] at fresh
          exact absurd (List.mem_map_of_mem hs) fresh
        · exact hm
      exact ih (List.pairwise_cons.mp ha).2 (List.nodup_cons.mp keys).2
        (List.pairwise_cons.mp hb).2 (fun s hs t ht => place s (.tail _ hs) t (.tail _ ht)) later

end Term

namespace Topology

/-! ## Picking values -/

/-- A segment says that the key of an expression has one of its values. -/
def Picks (e : TopologyExpression) (s : Segment) : Prop := s.key = e.key ∧ s.value ∈ e.values

/-- One more expression: without values it leaves nothing of what stands before it. -/
def keep (kept : List TopologyExpression) (e : TopologyExpression) : List TopologyExpression :=
  if e.values = [] then [] else kept ++ [e]

/-- The expressions that count: those after the last one without values. -/
def effective (expressions : List TopologyExpression) : List TopologyExpression :=
  expressions.foldl keep []

theorem foldl_keep {expressions : List TopologyExpression}
    (valued : ∀ e ∈ expressions, e.values ≠ []) (kept : List TopologyExpression) :
    expressions.foldl keep kept = kept ++ expressions := by
  induction expressions generalizing kept with
  | nil => exact (List.append_nil kept).symm
  | cons e rest ih =>
      rw [List.foldl_cons, ih fun e he => valued e (.tail _ he), keep,
        if_neg (valued e List.mem_cons_self), List.append_assoc, List.singleton_append]

/-- If all expressions have values, all of them count. -/
theorem effective_eq {expressions : List TopologyExpression}
    (valued : ∀ e ∈ expressions, e.values ≠ []) : effective expressions = expressions :=
  foldl_keep valued []

/-- What counts are the expressions behind the last one without values. -/
theorem effective_behind {before after : List TopologyExpression} {e : TopologyExpression}
    (blank : e.values = []) (valued : ∀ e ∈ after, e.values ≠ []) :
    effective (before ++ e :: after) = after := by
  rw [effective, List.foldl_append, List.foldl_cons, keep, if_pos blank]
  exact foldl_keep valued []

/-- What the values of an expression are put behind: the terms so far, or the empty term. -/
def starts : List Term → List Term
  | [] => [Term.empty]
  | t :: terms => t :: terms

theorem starts_ne_nil (terms : List Term) : starts terms ≠ [] := by
  cases terms <;> exact List.cons_ne_nil _ _

theorem starts_eq {terms : List Term} (h : terms ≠ []) : starts terms = terms := by
  cases terms with
  | nil => exact absurd rfl h
  | cons t terms => rfl

theorem extend_eq (terms : List Term) (e : TopologyExpression) :
    extend terms e =
      e.values.flatMap fun value => (starts terms).map (·.push ⟨e.key, value⟩) := by
  cases terms <;> rfl

theorem extend_eq_nil_iff {terms : List Term} {e : TopologyExpression} :
    extend terms e = [] ↔ e.values = [] := by
  rw [extend_eq, List.flatMap_eq_nil_iff]
  refine ⟨fun h => ?_, fun h => by simp [h]⟩
  cases hv : e.values with
  | nil => rfl
  | cons value rest =>
      exact absurd (List.map_eq_nil_iff.mp (h value (by simp [hv]))) (starts_ne_nil terms)

theorem forall₂_concat_iff {α β : Type} {r : α → β → Prop} {as : List α} {a : α}
    {bs : List β} : List.Forall₂ r (as ++ [a]) bs ↔
      ∃ bs' b, List.Forall₂ r as bs' ∧ r a b ∧ bs = bs' ++ [b] := by
  induction as generalizing bs with
  | nil => simp [List.forall₂_cons_left_iff, List.forall₂_nil_left_iff]
  | cons head as ih =>
      rw [List.cons_append, List.forall₂_cons_left_iff]
      constructor
      · rintro ⟨c, rest, hc, hrest, rfl⟩
        obtain ⟨bs', b, hbs, hb, rfl⟩ := ih.mp hrest
        exact ⟨c :: bs', b, .cons hc hbs, hb, rfl⟩
      · rintro ⟨bs', b, hbs, hb, rfl⟩
        obtain ⟨c, rest, hc, hrest, rfl⟩ := List.forall₂_cons_left_iff.mp hbs
        exact ⟨c, rest ++ [b], hc, ih.mpr ⟨rest, b, hrest, hb, rfl⟩, rfl⟩

/-- Terms list the ways to pick values for the expressions kept so far. -/
structure Lists (terms : List Term) (kept : List TopologyExpression) : Prop where
  nil : terms = [] ↔ kept = []
  mem : ∀ t, t ∈ starts terms ↔ List.Forall₂ Picks kept t.segments

theorem lists_nil : Lists [] [] := by
  refine ⟨iff_of_true rfl rfl, fun t => ?_⟩
  rw [List.forall₂_nil_left_iff, starts, List.mem_singleton]
  exact ⟨fun ht => congrArg Term.segments ht, fun ht => congrArg Term.mk ht⟩

theorem Lists.extend {terms : List Term} {kept : List TopologyExpression}
    (h : Lists terms kept) (e : TopologyExpression) : Lists (extend terms e) (keep kept e) := by
  by_cases hv : e.values = []
  · rw [extend_eq_nil_iff.mpr hv, keep, if_pos hv]
    exact lists_nil
  · rw [keep, if_neg hv]
    have more : Topology.extend terms e ≠ [] := fun no => hv (extend_eq_nil_iff.mp no)
    refine ⟨⟨fun no => absurd no more, fun no => by simp at no⟩, fun t => ?_⟩
    rw [starts_eq more, extend_eq, List.mem_flatMap, forall₂_concat_iff]
    constructor
    · rintro ⟨value, hvalue, ht⟩
      obtain ⟨start, hstart, rfl⟩ := List.mem_map.mp ht
      exact ⟨start.segments, ⟨e.key, value⟩, (h.mem start).mp hstart, ⟨rfl, hvalue⟩, rfl⟩
    · rintro ⟨segments, ⟨key, value⟩, hsegments, ⟨rfl, hvalue⟩, ht⟩
      refine ⟨value, hvalue, List.mem_map.mpr ⟨⟨segments⟩, (h.mem ⟨segments⟩).mpr hsegments, ?_⟩⟩
      exact congrArg Term.mk ht.symm

theorem Lists.foldl {expressions : List TopologyExpression} {terms : List Term}
    {kept : List TopologyExpression} (h : Lists terms kept) :
    Lists (expressions.foldl Topology.extend terms) (expressions.foldl keep kept) := by
  induction expressions generalizing terms kept with
  | nil => exact h
  | cons e rest ih => exact ih (h.extend e)

/-- The terms of a topology are the ways to pick one value for each expression that counts,
provided there is one. -/
theorem mem_expand_iff {s : TopologySelector} {t : Term} :
    t ∈ expand s ↔
      effective s.expressions ≠ [] ∧ List.Forall₂ Picks (effective s.expressions) t.segments := by
  have all : Lists (expand s) (effective s.expressions) := lists_nil.foldl
  by_cases hn : expand s = []
  · rw [hn]
    exact ⟨fun h => absurd h List.not_mem_nil, fun h => absurd (all.nil.mp hn) h.1⟩
  · rw [← all.mem t, starts_eq hn]
    exact ⟨fun h => ⟨fun no => hn (all.nil.mpr no), h⟩, fun h => h.2⟩

theorem mem_flatten_iff {allowed : List TopologySelector} {t : Term} :
    t ∈ flatten allowed ↔ ∃ s ∈ allowed, ∃ u ∈ expand s, u.sort = t := by
  simp only [flatten, List.mem_map, List.mem_flatMap]
  constructor
  · rintro ⟨u, ⟨s, hs, hu⟩, ht⟩
    exact ⟨s, hs, u, hu, ht⟩
  · rintro ⟨s, hs, u, hu, ht⟩
    exact ⟨u, ⟨s, hs, hu⟩, ht⟩

/-- Picks can be made from all expressions such that a property holds of each of them just if
each expression has a pick with that property. -/
theorem exists_picks_iff {expressions : List TopologyExpression} {p : Segment → Prop} :
    (∃ segments, List.Forall₂ Picks expressions segments ∧ ∀ s ∈ segments, p s) ↔
      ∀ e ∈ expressions, ∃ value ∈ e.values, p ⟨e.key, value⟩ := by
  induction expressions with
  | nil => simp
  | cons e rest ih =>
      rw [List.forall_mem_cons, ← ih]
      constructor
      · rintro ⟨segments, picks, hp⟩
        obtain ⟨⟨key, value⟩, others, ⟨rfl, hv⟩, hothers, rfl⟩ :=
          List.forall₂_cons_left_iff.mp picks
        exact ⟨⟨value, hv, hp _ List.mem_cons_self⟩, others, hothers,
          fun s hs => hp s (.tail _ hs)⟩
      · rintro ⟨⟨value, hv, hp⟩, others, hothers, hps⟩
        exact ⟨⟨e.key, value⟩ :: others, .cons ⟨rfl, hv⟩ hothers,
          List.forall_mem_cons.mpr ⟨hp, hps⟩⟩

theorem keys_of_picks {expressions : List TopologyExpression} {segments : List Segment}
    (picks : List.Forall₂ Picks expressions segments) :
    segments.map (·.key) = expressions.map (·.key) := by
  induction picks with
  | nil => rfl
  | cons h _ ih => rw [List.map_cons, List.map_cons, ih, h.1]

/-! ## The place of a node -/

theorem mapM_option_eq {α β : Type} (f : α → Option β) (as : List α) :
    as.mapM f = if ∀ a ∈ as, (f a).isSome then some (as.filterMap f) else none := by
  induction as with
  | nil => rfl
  | cons a as ih =>
      rw [List.mapM_cons, ih]
      cases ha : f a with
      | none => simp [ha]
      | some b =>
          by_cases hs : ∀ a ∈ as, (f a).isSome
          · rw [if_pos hs, if_pos (by simpa [ha] using hs), List.filterMap_cons_some ha]
            rfl
          · rw [if_neg hs, if_neg (by simpa [ha] using hs)]
            rfl

variable {labels : Table String} {keys : List String}

/-- A node has a place just if it has all the labels. -/
theorem nodeTerm_isSome_iff :
    (nodeTerm? labels keys).isSome = true ↔ ∀ key ∈ keys, (labels.get? key).isSome = true := by
  rw [nodeTerm?, mapM_option_eq, Option.isSome_map]
  simp

/-- The segments of a place are the node's labels with one of the keys. -/
theorem mem_nodeTerm_iff {place : Term} (h : nodeTerm? labels keys = some place) {s : Segment} :
    s ∈ place.segments ↔ s.key ∈ keys ∧ labels.get? s.key = some s.value := by
  rw [nodeTerm?, mapM_option_eq, Option.map_eq_some_iff] at h
  obtain ⟨segments, hs, rfl⟩ := h
  rw [Term.mem_sort]
  obtain ⟨-, hs⟩ := Option.ite_none_right_eq_some.mp hs
  rw [← Option.some.inj hs, List.mem_filterMap]
  constructor
  · rintro ⟨key, hkey, hv⟩
    obtain ⟨value, hvalue, rfl⟩ := Option.map_eq_some_iff.mp hv
    exact ⟨hkey, hvalue⟩
  · rintro ⟨hkey, hvalue⟩
    exact ⟨s.key, hkey, by rw [hvalue]; rfl⟩

theorem nodeTerm_sorted {place : Term} (h : nodeTerm? labels keys = some place) :
    place.Sorted := by
  rw [nodeTerm?, Option.map_eq_some_iff] at h
  obtain ⟨segments, -, rfl⟩ := h
  exact Term.sort_sorted _

/-! ## Labels that satisfy a topology -/

/-- Labels satisfy expressions: there are some, and the label of each has one of its values. -/
structure Satisfied (labels : Table String) (expressions : List TopologyExpression) : Prop where
  some_expression : expressions ≠ []
  each : ∀ e ∈ expressions, ∃ value ∈ e.values, labels.get? e.key = some value

/-- All segments of a term are labels. -/
def Borne (labels : Table String) (t : Term) : Prop :=
  ∀ s ∈ t.segments, labels.get? s.key = some s.value

theorem exists_expand_iff {s : TopologySelector} :
    (∃ t ∈ expand s, Borne labels t) ↔ Satisfied labels (effective s.expressions) := by
  constructor
  · rintro ⟨t, ht, borne⟩
    obtain ⟨counted, picks⟩ := mem_expand_iff.mp ht
    exact ⟨counted, exists_picks_iff.mp ⟨t.segments, picks, borne⟩⟩
  · rintro ⟨counted, each⟩
    obtain ⟨segments, picks, borne⟩ :=
      (exists_picks_iff (p := fun g => labels.get? g.key = some g.value)).mpr each
    exact ⟨⟨segments⟩, mem_expand_iff.mpr ⟨counted, picks⟩, borne⟩

/-- Labels bear one of the terms just if they satisfy the expressions that count of one of the
topologies. -/
theorem exists_flatten_iff {allowed : List TopologySelector} :
    (∃ t ∈ flatten allowed, Borne labels t) ↔
      ∃ s ∈ allowed, Satisfied labels (effective s.expressions) := by
  have sorted (t : Term) : Borne labels t.sort ↔ Borne labels t := by
    simp only [Borne, Term.mem_sort]
  constructor
  · rintro ⟨t, ht, borne⟩
    obtain ⟨s, hs, u, hu, rfl⟩ := mem_flatten_iff.mp ht
    exact ⟨s, hs, exists_expand_iff.mp ⟨u, hu, (sorted u).mp borne⟩⟩
  · rintro ⟨s, hs, sat⟩
    obtain ⟨u, hu, borne⟩ := exists_expand_iff.mpr sat
    exact ⟨u.sort, mem_flatten_iff.mpr ⟨s, hs, u, hu, rfl⟩, (sorted u).mpr borne⟩

/-- If any of the expressions has no values, the last one has none. -/
def BlankAtEnd (expressions : List TopologyExpression) : Prop :=
  ∀ e ∈ expressions, e.values = [] → ∀ last ∈ expressions.getLast?, last.values = []

theorem satisfied_effective_iff {expressions : List TopologyExpression}
    (blank : BlankAtEnd expressions) :
    Satisfied labels (effective expressions) ↔ Satisfied labels expressions := by
  by_cases valued : ∀ e ∈ expressions, e.values ≠ []
  · rw [effective_eq valued]
  push Not at valued
  obtain ⟨e, he, hv⟩ := valued
  obtain rfl | ⟨before, last, rfl⟩ := List.eq_nil_or_concat' expressions
  · exact absurd he List.not_mem_nil
  -- nothing counts, and nothing satisfies the last expression
  have hlast : last.values = [] := blank e he hv last (by simp)
  rw [effective_behind hlast fun e he => absurd he List.not_mem_nil]
  refine iff_of_false (fun sat => sat.some_expression rfl) fun sat => ?_
  obtain ⟨value, hvalue, -⟩ := sat.each last (by simp)
  rw [hlast] at hvalue
  exact absurd hvalue List.not_mem_nil

/-- **What flattening keeps**: labels bear one of the terms just if they satisfy, in one of the
topologies, the expressions behind the last one without values. So they satisfy the topology
itself, provided that an expression without values is not followed by one that has some. -/
theorem flatten_keeps_meaning (allowed : List TopologySelector) (labels : Table String) :
    ((∃ t ∈ flatten allowed, Borne labels t) ↔
      ∃ s ∈ allowed, Satisfied labels (effective s.expressions)) ∧
    ((∀ s ∈ allowed, BlankAtEnd s.expressions) →
      ((∃ t ∈ flatten allowed, Borne labels t) ↔
        ∃ s ∈ allowed, Satisfied labels s.expressions)) := by
  refine ⟨exists_flatten_iff, fun blank => exists_flatten_iff.trans ?_⟩
  constructor
  · rintro ⟨s, hs, sat⟩
    exact ⟨s, hs, (satisfied_effective_iff (blank s hs)).mp sat⟩
  · rintro ⟨s, hs, sat⟩
    exact ⟨s, hs, (satisfied_effective_iff (blank s hs)).mpr sat⟩

end Topology

namespace Sample

/-- A topology of expressions with keys and values. -/
def topology (expressions : List (String × List String)) : TopologySelector where
  matchLabelExpressions := some (expressions.map fun (key, values) => { key, values })

/-- The labels of a node in a rack of a zone. -/
def racked : Table String := .ofList [("rack", "x"), ("zone", "a")]

/-- Two topologies, one of which ends with an expression without values. -/
def blankAtEnd : List TopologySelector :=
  [topology [("rack", ["x"]), ("zone", [])], topology [("rack", ["w", "x"]), ("zone", ["a", "b"])]]

/-- A topology that begins with an expression without values. -/
def blankInFront : List TopologySelector := [topology [("zone", []), ("rack", ["x"])]]

end Sample

/-- A topology that ends with an expression without values is passed over for another one. -/
theorem sample_meaning_kept :
    (∀ s ∈ Sample.blankAtEnd, Topology.BlankAtEnd s.expressions) ∧
      ∃ t ∈ Topology.flatten Sample.blankAtEnd, Topology.Borne Sample.racked t := by
  have blank : ∀ s ∈ Sample.blankAtEnd, Topology.BlankAtEnd s.expressions := by
    unfold Topology.BlankAtEnd
    decide
  refine ⟨blank, ((Topology.flatten_keeps_meaning Sample.blankAtEnd Sample.racked).2 blank).mpr ?_⟩
  exact ⟨Sample.topology [("rack", ["w", "x"]), ("zone", ["a", "b"])], .tail _ List.mem_cons_self,
    nofun, by decide⟩

/-- An expression without values in front of another one is forgotten: labels bear a term although
they satisfy no topology. -/
theorem sample_blank_forgotten :
    (∃ t ∈ Topology.flatten Sample.blankInFront, Topology.Borne Sample.racked t) ∧
      ¬ ∃ s ∈ Sample.blankInFront, Topology.Satisfied Sample.racked s.expressions := by
  constructor
  · refine ⟨⟨[⟨"rack", "x"⟩]⟩, by decide, ?_⟩
    unfold Topology.Borne
    decide
  · rintro ⟨s, hs, sat⟩
    obtain rfl := List.mem_singleton.mp hs
    obtain ⟨value, hvalue, -⟩ := sat.each ⟨"zone", []⟩ (by decide)
    exact absurd hvalue List.not_mem_nil

end VolumeHandover
