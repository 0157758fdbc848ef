import VolumeHandover.Proofs.Topology

set_option autoImplicit false

/-! # What the merge of two terms decides

The merge takes one segment at hand for each segment that it seeks, and gives up at the first
value that differs under a key it seeks. On terms in order it therefore compares the terms key by
key: what is sought under a key has to stand in front of what is at hand under it
(`foundIn_iff_under`). That is inclusion where keys are not repeated
(`subset_iff_under`); a key that occurs twice, as flattening two expressions about one key leaves
it, can make the merge miss segments that are there (`sample_repeated_missed`).

Even so the merge decides an order (`subset_isOrder`): "stands in front of" is one for lists of
segments, and so it is key by key for terms.
-/

namespace VolumeHandover

namespace Segment

/-! ## Segments under a key -/

/-- The segments with a key. -/
def under (key : String) (segments : List Segment) : List Segment :=
  segments.filter fun s => s.key = key

@[simp] theorem under_nil (key : String) : under key [] = [] := rfl

theorem under_cons_self (s : Segment) (segments : List Segment) :
    under s.key (s :: segments) = s :: under s.key segments :=
  List.filter_cons_of_pos (by simp)

theorem under_cons_of_ne {s : Segment} {key : String} (other : s.key ≠ key)
    (segments : List Segment) : under key (s :: segments) = under key segments :=
  List.filter_cons_of_neg (by simpa using other)

theorem mem_under {s : Segment} {key : String} {segments : List Segment} :
    s ∈ under key segments ↔ s ∈ segments ∧ s.key = key := by
  rw [under, List.mem_filter, decide_eq_true_iff]

theorem key_le {a b : Segment} (h : a ≤ b) : (Ord.compare a.key b.key).isLE = true := by
  rw [le_iff, compare] at h
  revert h
  cases Ord.compare a.key b.key <;> simp

/-- What stands between two segments with one key has that key too. -/
theorem key_between {a b c : Segment} (hab : a ≤ b) (hbc : b ≤ c) (same : c.key = a.key) :
    b.key = a.key := by
  have back : (Ord.compare b.key a.key).isLE = true := same ▸ key_le hbc
  exact Std.LawfulEqOrd.compare_eq_iff_eq.mp (Std.OrientedCmp.isLE_antisymm back (key_le hab))

/-- Behind a segment with a greater key there is nothing under a key. -/
theorem under_eq_nil {a b : Segment} {as : List Segment} (sorted : (a :: as).Pairwise (· ≤ ·))
    (before : b ≤ a) (other : a.key ≠ b.key) : under b.key (a :: as) = [] := by
  rw [List.eq_nil_iff_forall_not_mem]
  intro s hs
  obtain ⟨hs, same⟩ := mem_under.mp hs
  have after : a ≤ s := by
    rcases List.mem_cons.mp hs with rfl | hs
    · exact (le_total s s).elim id id
    · exact (List.pairwise_cons.mp sorted).1 s hs
  exact other (key_between before after same)

end Segment

namespace Term

open Segment

/-! ## The merge, key by key -/

/-- Of segments in order, the merge finds those whose segments under each key stand in front of
the ones at hand under it. -/
theorem foundIn_iff_under {a b : List Segment} (ha : a.Pairwise (· ≤ ·))
    (hb : b.Pairwise (· ≤ ·)) :
    foundIn a b = true ↔ ∀ key, under key a <+: under key b := by
  induction a, b using foundIn.induct with
  | case1 b =>
      rw [foundIn]
      exact iff_of_true rfl fun key => List.nil_prefix
  | case2 a as =>
      refine iff_of_false (by simp [foundIn]) fun every => ?_
      have front := every a.key
      rw [under_cons_self, under_nil, List.prefix_nil] at front
      exact absurd front (List.cons_ne_nil _ _)
  | case3 a as b bs other ih =>
      rw [foundIn, if_pos other, ih ha (List.pairwise_cons.mp hb).2]
      -- `b` counts under its own key only; there nothing is sought, if `a` comes later
      have skip (key : String) (found : a ∈ bs) :
          under key (a :: as) <+: under key bs ↔ under key (a :: as) <+: under key (b :: bs) := by
        by_cases same : b.key = key
        · have before : b ≤ a := (List.pairwise_cons.mp hb).1 a found
          rw [← same, under_eq_nil ha before other]
          exact iff_of_true List.nil_prefix List.nil_prefix
        · rw [under_cons_of_ne same]
      constructor
      · intro every key
        have found : a ∈ under a.key bs :=
          (every a.key).subset (mem_under.mpr ⟨List.mem_cons_self, rfl⟩)
        exact (skip key (mem_under.mp found).1).mp (every key)
      · intro every key
        have found : a ∈ under a.key (b :: bs) :=
          (every a.key).subset (mem_under.mpr ⟨List.mem_cons_self, rfl⟩)
        rw [under_cons_of_ne fun same => other same.symm] at found
        exact (skip key (mem_under.mp found).1).mpr (every key)
  | case4 a as b bs same other =>
      rw [foundIn, if_neg same, if_pos other]
      refine iff_of_false (by decide) fun every => ?_
      have front := every a.key
      have here : under a.key (b :: bs) = b :: under a.key bs := by
        rw [not_not.mp same, under_cons_self]
      rw [under_cons_self, here, List.cons_prefix_cons] at front
      exact other (congrArg Segment.value front.1)
  | case5 a as b bs key value ih =>
      rw [foundIn, if_neg key, if_neg value,
        ih (List.pairwise_cons.mp ha).2 (List.pairwise_cons.mp hb).2]
      obtain rfl : a = b := Segment.ext (not_not.mp key) (not_not.mp value)
      refine forall_congr' fun other => ?_
      by_cases same : a.key = other
      · rw [← same, under_cons_self, under_cons_self, List.cons_prefix_cons]
        exact (and_iff_right rfl).symm
      · rw [under_cons_of_ne same, under_cons_of_ne same]

/-- **What `subset` decides on terms in order**: whether under each key the segments of the first
term stand in front of those of the second. So nothing is found that is not there, and it is
inclusion if the first term repeats no key and the second has one value for each. -/
theorem subset_iff_under {a b : Term} (ha : a.Sorted) (hb : b.Sorted) :
    (a.subset b = true ↔ ∀ key, under key a.segments <+: under key b.segments) ∧
    (a.subset b = true → ∀ s ∈ a.segments, s ∈ b.segments) ∧
    ((a.segments.map (·.key)).Nodup →
      (∀ s ∈ b.segments, ∀ t ∈ b.segments, s.key = t.key → s.value = t.value) →
      (a.subset b = true ↔ ∀ s ∈ a.segments, s ∈ b.segments)) := by
  refine ⟨foundIn_iff_under ha hb, fun found s hs => ?_, fun keys place => ?_⟩
  · exact (sublist_of_foundIn found).subset hs
  · exact foundIn_iff ha keys hb place

end Term

namespace Sample

/-- Being in a zone. -/
def zone (value : String) : Segment := ⟨"zone", value⟩

/-- The wish for a region and a zone. -/
def regionAndZone : Term := ⟨[⟨"region", "r"⟩, zone "a"]⟩

/-- The place of a node in a rack of that zone. -/
def rackPlace : Term := ⟨[⟨"rack", "x"⟩, ⟨"region", "r"⟩, zone "a"]⟩

/-- A topology with two expressions about the zone, which leave one value. -/
def twiceZoned : List TopologySelector := [topology [("zone", ["a"]), ("zone", ["a"])]]

end Sample

/-- A region and a zone are found in a place that has a rack as well. -/
theorem sample_place_searched :
    Sample.regionAndZone.Sorted ∧ Sample.rackPlace.Sorted ∧
      Sample.regionAndZone.subset Sample.rackPlace = true := by
  have sought : Sample.regionAndZone.Sorted := by
    unfold Term.Sorted
    decide
  have place : Sample.rackPlace.Sorted := by
    unfold Term.Sorted
    decide
  have inclusion := (Term.subset_iff_under sought place).2.2 (by decide) (by decide)
  exact ⟨sought, place, inclusion.mpr (by decide)⟩

/-- Segments that are there are missed: one sought twice, as flattening leaves it, and one that
stands behind another value of its key. -/
theorem sample_repeated_missed :
    (∃ a ∈ Topology.flatten Sample.twiceZoned, ∃ b : Term, a.Sorted ∧ b.Sorted ∧
      (∀ s ∈ a.segments, s ∈ b.segments) ∧ a.subset b = false) ∧
    ∃ a b : Term, a.Sorted ∧ b.Sorted ∧ (a.segments.map (·.key)).Nodup ∧
      (∀ s ∈ a.segments, s ∈ b.segments) ∧ a.subset b = false := by
  unfold Term.Sorted
  refine ⟨⟨⟨[Sample.zone "a", Sample.zone "a"]⟩, by decide, ⟨[Sample.zone "a"]⟩, by decide⟩,
    ⟨[Sample.zone "b"]⟩, ⟨[Sample.zone "a", Sample.zone "b"]⟩, by decide⟩

/-! ## The order of terms -/

namespace Term

open Segment

theorem foundIn_self (segments : List Segment) : foundIn segments segments = true := by
  induction segments with
  | nil => rw [foundIn]
  | cons s rest ih => rw [foundIn, if_neg (not_not.mpr rfl), if_neg (not_not.mpr rfl), ih]

theorem foundIn_trans {a b c : List Segment} (ha : a.Pairwise (· ≤ ·)) (hb : b.Pairwise (· ≤ ·))
    (hc : c.Pairwise (· ≤ ·)) (hab : foundIn a b = true) (hbc : foundIn b c = true) :
    foundIn a c = true := by
  rw [foundIn_iff_under ha hc]
  intro key
  have front : under key a <+: under key b := (foundIn_iff_under ha hb).mp hab key
  exact front.trans ((foundIn_iff_under hb hc).mp hbc key)

/-- **`subset` orders the terms that are in order**, also those with a key twice. That it is
transitive needs the order of the segments. Whether they are in order or not, a term is accepted in
itself, two terms that are accepted in each other are one, and what is accepted is a subsequence. -/
theorem subset_isOrder :
    (∀ a : Term, a.subset a = true) ∧
    (∀ a b c : Term, a.Sorted → b.Sorted → c.Sorted →
      a.subset b = true → b.subset c = true → a.subset c = true) ∧
    (∀ a b : Term, a.subset b = true → b.subset a = true → a = b) ∧
    ∀ a b : Term, a.subset b = true →
      a.segments.Sublist b.segments ∧ ∀ s ∈ a.segments, s ∈ b.segments := by
  refine ⟨fun a => foundIn_self a.segments, ?_, ?_, ?_⟩
  · intro a b c ha hb hc hab hbc
    exact foundIn_trans ha hb hc hab hbc
  · intro a b hab hba
    have same : a.segments = b.segments :=
      (sublist_of_foundIn hab).antisymm (sublist_of_foundIn hba)
    exact congrArg Term.mk same
  · intro a b found
    have part : a.segments.Sublist b.segments := sublist_of_foundIn found
    exact ⟨part, fun s hs => part.subset hs⟩

end Term

namespace Sample

/-- Two zones together, one of them twice. -/
def zonesTwice : Term := ⟨[zone "a", zone "b", zone "b"]⟩

/-- The place of a node in a rack of the same zones. -/
def rackZonesTwice : Term := ⟨⟨"rack", "x"⟩ :: zonesTwice.segments⟩

end Sample

/-- A zone is accepted in a term that repeats another one, and so in a place that has a rack as
well; and terms that are accepted in each other are one, though given in different orders. -/
theorem sample_inclusion_ordered :
    Term.subset ⟨[Sample.zone "a"]⟩ Sample.rackZonesTwice = true ∧
      Term.ofPairs [("zone", "b"), ("rack", "x")] = Term.ofPairs [("rack", "x"), ("zone", "b")] ∧
      Sample.zonesTwice.segments.Sublist Sample.rackZonesTwice.segments := by
  obtain ⟨-, trans, antisymm, sublist⟩ := Term.subset_isOrder
  have small : Term.Sorted ⟨[Sample.zone "a"]⟩ := by decide
  have twice : Sample.zonesTwice.Sorted := by decide
  have wide : Sample.rackZonesTwice.Sorted := by decide
  refine ⟨trans _ Sample.zonesTwice _ small twice wide (by decide) (by decide), ?_, ?_⟩
  · exact antisymm _ _ (by decide) (by decide)
  · exact (sublist _ _ (by decide)).1

/-- Out of order, the merge can miss behind another value what it finds in a part. -/
example : ∃ a b c : Term, a.subset b = true ∧ b.subset c = true ∧ a.subset c = false :=
  ⟨⟨[Sample.zone "a"]⟩, ⟨[⟨"rack", "x"⟩, Sample.zone "a"]⟩,
    ⟨[Sample.zone "b", ⟨"rack", "x"⟩, Sample.zone "a"]⟩, by decide⟩

end VolumeHandover
