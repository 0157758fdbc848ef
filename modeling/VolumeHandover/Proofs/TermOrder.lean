import Mathlib.Data.List.Perm.Basic
import VolumeHandover.Proofs.Topology

set_option autoImplicit false

/-! # The order of terms

Terms are compared by their sizes first and segment by segment after that. The comparison segment by
segment is the library's one of lists (`compareLists_eq`), so the laws of an order pass from segments
to lists of them and on to terms, and none of them needs the segments to be in order. Which of two
terms comes first can be said without comparisons (`compare_eq_lt_iff`).

Sorting forgets in which order the segments were given, and nothing else: terms have one sorted form
just if they have the same segments, each as often. So a term that is made from pairs is a canonical
form of the pairs (`ofPairs_eq_iff`), and what is in order is not changed by sorting it again.
-/

namespace VolumeHandover

namespace Segment

/-! ## One segment before another -/

/-- A segment stands before another one: its key is smaller, or the keys are the same and its value
is smaller. -/
def Before (a b : Segment) : Prop := a.key < b.key ∨ a.key = b.key ∧ a.value < b.value

theorem compare_eq_lt_iff {a b : Segment} : a.compare b = .lt ↔ a.Before b := by
  have keys : Ord.compare a.key b.key = .lt ↔ a.key < b.key := compareOfLessAndEq_eq_lt
  have values : Ord.compare a.value b.value = .lt ↔ a.value < b.value := compareOfLessAndEq_eq_lt
  rw [compare, Ordering.then_eq_lt, keys, values, Std.LawfulEqOrd.compare_eq_iff_eq, Before]

theorem le_iff_before {a b : Segment} : a ≤ b ↔ a.Before b ∨ a = b := by
  rw [le_iff, Ordering.isLE_iff_eq_lt_or_eq_eq, compare_eq_lt_iff,
    Std.LawfulEqCmp.compare_eq_iff_eq]

/-! ## Lists of segments -/

theorem compareLists_eq : compareLists = List.compareLex compare := by
  funext as bs
  induction as, bs using compareLists.induct with
  | case1 => rfl
  | case2 b bs => rfl
  | case3 a as => rfl
  | case4 a as b bs ih => rw [compareLists, ih, List.compareLex_cons_cons]

instance : Std.TransCmp compareLists :=
  compareLists_eq ▸ inferInstanceAs (Std.TransCmp (List.compareLex compare))

instance : Std.LawfulEqCmp compareLists :=
  compareLists_eq ▸ inferInstanceAs (Std.LawfulEqCmp (List.compareLex compare))

theorem compareLists_eq_lt_iff {as bs : List Segment} :
    compareLists as bs = .lt ↔ List.Lex Before as bs := by
  induction as, bs using compareLists.induct with
  | case1 => exact iff_of_false nofun nofun
  | case2 b bs => exact iff_of_true rfl .nil
  | case3 a as => exact iff_of_false nofun nofun
  | case4 a as b bs ih =>
      rw [compareLists, Ordering.then_eq_lt, compare_eq_lt_iff, Std.LawfulEqCmp.compare_eq_iff_eq,
        ih]
      constructor
      · rintro (first | ⟨rfl, rest⟩)
        · exact .rel first
        · exact .cons rest
      · intro before
        cases before with
        | rel first => exact .inl first
        | cons rest => exact .inr ⟨rfl, rest⟩

end Segment

namespace Term

/-! ## The order of terms -/

instance : Std.TransCmp fun a b : Term => Segment.compareLists a.segments b.segments where
  eq_swap := Std.OrientedCmp.eq_swap
  isLE_trans := Std.TransCmp.isLE_trans

instance : Std.TransCmp compare :=
  inferInstanceAs (Std.TransCmp (compareLex (compareOn size)
    fun a b => Segment.compareLists a.segments b.segments))

theorem compare_eq_eq_iff {a b : Term} : a.compare b = .eq ↔ a.segments = b.segments := by
  rw [compare, Ordering.then_eq_eq, Nat.compare_eq_eq, Std.LawfulEqCmp.compare_eq_iff_eq]
  refine and_iff_right_of_imp fun same => ?_
  rw [size, size, same]

theorem compare_eq_lt_iff {a b : Term} :
    a.compare b = .lt ↔
      a.size < b.size ∨ a.size = b.size ∧ List.Lex Segment.Before a.segments b.segments := by
  rw [compare, Ordering.then_eq_lt, Nat.compare_eq_lt, Nat.compare_eq_eq,
    Segment.compareLists_eq_lt_iff]

/-- An outcome that two comparisons in a row have is the outcome of the whole. -/
theorem compare_trans {a b c : Term} {outcome : Ordering} (hab : a.compare b = outcome)
    (hbc : b.compare c = outcome) : a.compare c = outcome := by
  cases outcome with
  | lt => exact Std.TransCmp.lt_trans hab hbc
  | eq => exact Std.TransCmp.eq_trans hab hbc
  | gt => exact Std.TransCmp.gt_trans hab hbc

/-! ## Canonical forms -/

theorem ofPairs_eq_iff {p q : List (String × String)} : ofPairs p = ofPairs q ↔ q.Perm p := by
  have segment_injective :
      Function.Injective fun pair : String × String => Segment.mk pair.1 pair.2 := by
    intro pair other same
    exact Prod.ext (Segment.mk.inj same).1 (Segment.mk.inj same).2
  rw [ofPairs, ofPairs, mk.injEq, Segment.inOrder_eq_iff, List.map_perm_map_iff segment_injective]
  exact List.perm_comm

theorem sort_of_sorted {t : Term} (sorted : t.Sorted) : t.sort = t :=
  congrArg mk (t.sort_perm.eq_of_pairwise' t.sort_sorted sorted)

/-- **Terms have a canonical form and a total order.** Terms made from pairs are the same, and
compare as the same, just if the pairs are, up to their order. The order is one of all terms, in
order or not: the smaller come first, and of two terms of one size the one whose first differing
segment has the smaller key, or else the smaller value. Sorting keeps the segments, puts them in
order, and changes nothing when it is done again. -/
theorem canonical_and_ordered :
    (∀ p q : List (String × String), (ofPairs p = ofPairs q ↔ q.Perm p) ∧
      ((ofPairs p).compare (ofPairs q) = .eq ↔ q.Perm p)) ∧
    (∀ a b : Term, a.compare b = .eq ↔ a.segments = b.segments) ∧
    (∀ a b : Term, a.compare b = .lt ↔
      a.size < b.size ∨ a.size = b.size ∧ List.Lex Segment.Before a.segments b.segments) ∧
    (∀ a b : Term, b.compare a = (a.compare b).swap) ∧
    (∀ (a b c : Term) (outcome : Ordering),
      a.compare b = outcome → b.compare c = outcome → a.compare c = outcome) ∧
    (∀ a b c : Term,
      (a.compare b).isLE = true → (b.compare c).isLE = true → (a.compare c).isLE = true) ∧
    ∀ t : Term, t.sort.sort = t.sort ∧ t.sort.segments.Perm t.segments ∧
      t.sort.segments.Pairwise fun s u => s.Before u ∨ s = u := by
  refine ⟨fun p q => ⟨ofPairs_eq_iff, ?_⟩, fun a b => compare_eq_eq_iff,
    fun a b => compare_eq_lt_iff, fun a b => Std.OrientedCmp.eq_swap,
    fun a b c outcome => compare_trans, fun a b c => Std.TransCmp.isLE_trans, fun t => ?_⟩
  · calc (ofPairs p).compare (ofPairs q) = .eq
        ↔ (ofPairs p).segments = (ofPairs q).segments := compare_eq_eq_iff
      _ ↔ ofPairs p = ofPairs q := by rw [mk.injEq]
      _ ↔ q.Perm p := ofPairs_eq_iff
  · refine ⟨sort_of_sorted t.sort_sorted, t.sort_perm, t.sort_sorted.imp ?_⟩
    intro s u before
    exact Segment.le_iff_before.mp before

end Term

namespace Sample

/-- A zone and, behind it, a rack. -/
def zoneThenRack (rack : String) : Term := ⟨[⟨"zone", "a"⟩, ⟨"rack", rack⟩]⟩

/-- A rack and a zone, which is given twice. -/
def rackInZones : List (String × String) := [("rack", "x"), ("zone", "a"), ("zone", "a")]

end Sample

/-- Pairs given the other way round make the same term, and pairs given once more do not; a later
zone alone comes before terms that are not in order. -/
theorem sample_terms_ordered :
    Term.ofPairs Sample.rackInZones = Term.ofPairs Sample.rackInZones.reverse ∧
      Term.ofPairs Sample.rackInZones ≠ Term.ofPairs Sample.rackInZones.eraseDups ∧
      Term.compare ⟨[⟨"zone", "b"⟩]⟩ (Sample.zoneThenRack "y") = .lt := by
  obtain ⟨canonical, -, -, -, trans, -, -⟩ := Term.canonical_and_ordered
  refine ⟨(canonical _ _).1.mpr (List.reverse_perm _), fun same => ?_, ?_⟩
  · exact absurd ((canonical _ _).1.mp same).length_eq (by decide)
  · exact trans _ (Sample.zoneThenRack "x") _ .lt (by decide) (by decide)

end VolumeHandover
