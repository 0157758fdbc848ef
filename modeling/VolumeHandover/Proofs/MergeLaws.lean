import VolumeHandover.Proofs.OrderedValues
import VolumeHandover.Proofs.PatchFrames

set_option autoImplicit false

/-! # Laws of merge patches

A patch is sent again when its answer was lost, and two clients may patch one object at the same
time. What comes out then rests on two laws of the merge: a patch that was applied already changes
nothing (`Json.merge_again`), and object patches that have no more than objects in common, down to
the bottom, may be applied in either order (`Json.merge_comm`). Both follow from what a patch makes
of one field (`valueAt_mergeFields`), since values in order are known by their look-ups.

Every value that is read is in order (`Json.ordered_of_read`), and patches keep it so
(`Json.Ordered.merge`). Without the order the second law fails: where a new field goes among fields
out of order depends on which of them are still there.
-/

namespace VolumeHandover

namespace Json

/-! ## What a patch makes of one field -/

/-- What a patch makes of a field, given what it says of it: nothing, that it be removed, or a
value to be merged into what was there. -/
def patchedField (old : Option Json) : Option Json → Option Json
  | none => old
  | some .null => none
  | some value => some ((old.getD .null).merge value)

theorem patchedField_some {value : Json} (there : value ≠ .null) (old : Option Json) :
    patchedField old (some value) = some ((old.getD .null).merge value) := by
  cases value with
  | null => exact absurd rfl there
  | bool _ | int _ | real _ | text _ | list _ | object _ => rfl

theorem valueAt_mergeField (key : String) (value : Json) (fields : List (String × Json)) :
    valueAt? key (mergeField fields (key, value)) =
      patchedField (valueAt? key fields) (some value) := by
  by_cases there : value = .null
  · subst there
    exact valueAt_dropEntry_self fields
  · rw [valueAt_mergeField_self key there, patchedField_some there]

/-- A patch whose keys are distinct does to each field what it says of it. -/
theorem valueAt_mergeFields {patch : List (String × Json)} (increasing : Increasing patch)
    (key : String) (fields : List (String × Json)) :
    valueAt? key (mergeFields fields patch) =
      patchedField (valueAt? key fields) (valueAt? key patch) := by
  induction patch generalizing fields with
  | nil => rfl
  | cons field rest ih =>
      obtain ⟨k, value⟩ := field
      rw [mergeFields, ih increasing.of_cons, valueAt?]
      by_cases same : k = key
      · subst same
        rw [if_pos rfl, valueAt_of_increasing increasing, valueAt_mergeField]
        rfl
      · rw [if_neg same, valueAt_mergeField_of_ne fun equal => same equal.symm]

theorem increasing_mergeField {fields : List (String × Json)} (increasing : Increasing fields)
    (field : String × Json) : Increasing (mergeField fields field) := by
  obtain ⟨key, value⟩ := field
  cases value with
  | null => exact increasing_dropEntry key increasing
  | bool _ | int _ | real _ | text _ | list _ | object _ =>
      exact increasing_putEntry key _ increasing

theorem increasing_mergeFields {fields : List (String × Json)} (increasing : Increasing fields)
    (patch : List (String × Json)) : Increasing (mergeFields fields patch) := by
  induction patch generalizing fields with
  | nil => exact increasing
  | cons field rest ih => exact ih (increasing_mergeField increasing field)

/-! ## Patched values -/

theorem merge_object (j : Json) (patch : List (String × Json)) :
    j.merge (.object patch) = .object (mergeFields j.fields patch) := by
  rw [merge]

/-- A patch that is no object replaces the target. -/
theorem merge_leaf {patch : Json} (leaf : ∀ fields, patch ≠ .object fields) (j : Json) :
    j.merge patch = patch := by
  cases patch with
  | object fields => exact absurd rfl (leaf fields)
  | null | bool _ | int _ | real _ | text _ | list _ =>
      rw [merge]
      exact fun _ => Json.noConfusion

theorem get?_merge {patch : List (String × Json)} (increasing : Increasing patch) (key : String)
    (j : Json) : (j.merge (.object patch)).get? key =
      patchedField (j.get? key) (valueAt? key patch) := by
  rw [merge_object, get?_object, valueAt_mergeFields increasing]
  rfl

/-- A value in order stays so under a patch in order. -/
theorem Ordered.merge {j patch : Json} (ordered : j.Ordered) (patch_ordered : patch.Ordered) :
    (j.merge patch).Ordered := by
  induction patch using object_induction generalizing j with
  | leaf patch leaf => rwa [merge_leaf leaf]
  | object patch ih =>
      obtain ⟨increasing, values⟩ := ordered_object_iff.mp patch_ordered
      rw [merge_object]
      refine ordered_object_iff.mpr
        ⟨increasing_mergeFields ordered.increasing patch, fun key value found => ?_⟩
      rw [valueAt_mergeFields increasing] at found
      cases said : valueAt? key patch with
      | none =>
          rw [said] at found
          have kept := ordered.get?_getD key
          rwa [show j.get? key = some value from found] at kept
      | some inner =>
          by_cases there : inner = .null
          · rw [said, there] at found
            cases found
          · rw [said, patchedField_some there] at found
            exact Option.some.inj found ▸
              ih key inner said (ordered.get?_getD key) (values key inner said)

/-- Patched objects in order are known by their look-ups. -/
theorem merge_ext {j j' : Json} (ordered : j.Ordered) (ordered' : j'.Ordered)
    {patch patch' : List (String × Json)}
    (same : ∀ key, (j.merge (.object patch)).get? key = (j'.merge (.object patch')).get? key) :
    j.merge (.object patch) = j'.merge (.object patch') := by
  rw [merge_object, merge_object] at same ⊢
  exact congrArg Json.object (entries_ext (increasing_mergeFields ordered.increasing patch)
    (increasing_mergeFields ordered'.increasing patch') same)

/-! ## The same patch again -/

theorem patchedField_again {old new : Option Json}
    (again : ∀ value, new = some value →
      ((old.getD .null).merge value).merge value = (old.getD .null).merge value) :
    patchedField (patchedField old new) new = patchedField old new := by
  cases new with
  | none => rfl
  | some value =>
      by_cases there : value = .null
      · subst there
        rfl
      · rw [patchedField_some there, patchedField_some there, Option.getD_some, again value rfl]

/-- A patch that was applied already changes nothing. -/
theorem merge_again {j patch : Json} (ordered : j.Ordered) (patch_ordered : patch.Ordered) :
    (j.merge patch).merge patch = j.merge patch := by
  induction patch using object_induction generalizing j with
  | leaf patch leaf => rw [merge_leaf leaf, merge_leaf leaf]
  | object patch ih =>
      obtain ⟨increasing, values⟩ := ordered_object_iff.mp patch_ordered
      refine merge_ext (ordered.merge patch_ordered) ordered fun key => ?_
      rw [get?_merge increasing, get?_merge increasing]
      exact patchedField_again fun value said =>
        ih key value said (ordered.get?_getD key) (values key value said)

/-! ## Patches in either order -/

/-- Object patches that have no more than objects in common: a key that occurs in both has an
object as its value in both, and of these the same holds. -/
inductive Disjoint : Json → Json → Prop
  | object {p q : List (String × Json)}
      (shared : ∀ key v w, valueAt? key p = some v → valueAt? key q = some w → Disjoint v w) :
      Disjoint (.object p) (.object q)

theorem Disjoint.ne_null {p q : Json} (disjoint : Disjoint p q) : p ≠ .null ∧ q ≠ .null := by
  cases disjoint
  exact ⟨Json.noConfusion, Json.noConfusion⟩

theorem patchedField_comm {old new new' : Option Json}
    (shared : ∀ v w, new = some v → new' = some w → v ≠ .null ∧ w ≠ .null ∧
      ((old.getD .null).merge v).merge w = ((old.getD .null).merge w).merge v) :
    patchedField (patchedField old new) new' = patchedField (patchedField old new') new := by
  cases new with
  | none => rfl
  | some v =>
      cases new' with
      | none => rfl
      | some w =>
          obtain ⟨hv, hw, comm⟩ := shared v w rfl rfl
          rw [patchedField_some hv, patchedField_some hw, patchedField_some hw,
            patchedField_some hv, Option.getD_some, Option.getD_some, comm]

/-- Disjoint patches may be applied in either order. -/
theorem merge_comm {j p q : Json} (disjoint : Disjoint p q) (ordered : j.Ordered)
    (p_ordered : p.Ordered) (q_ordered : q.Ordered) :
    (j.merge p).merge q = (j.merge q).merge p := by
  induction disjoint generalizing j with
  | @object p q shared ih =>
      obtain ⟨p_increasing, p_values⟩ := ordered_object_iff.mp p_ordered
      obtain ⟨q_increasing, q_values⟩ := ordered_object_iff.mp q_ordered
      refine merge_ext (ordered.merge p_ordered) (ordered.merge q_ordered) fun key => ?_
      rw [get?_merge q_increasing, get?_merge p_increasing, get?_merge p_increasing,
        get?_merge q_increasing]
      refine patchedField_comm fun v w hv hw => ?_
      obtain ⟨v_there, w_there⟩ := (shared key v w hv hw).ne_null
      exact ⟨v_there, w_there, ih key v w hv hw (ordered.get?_getD key)
        (p_values key v hv) (q_values key w hw)⟩

/-- **The laws of merge patches**: whatever a patch is applied to, to apply it again changes
nothing, and a disjoint patch may be applied before it or after it. -/
theorem merge_repeats_and_commutes (j patch : Json) (ordered : j.Ordered)
    (patch_ordered : patch.Ordered) :
    (j.merge patch).merge patch = j.merge patch ∧
      ∀ other : Json, other.Ordered → Disjoint patch other →
        (j.merge patch).merge other = (j.merge other).merge patch :=
  ⟨merge_again ordered patch_ordered, fun _ other_ordered disjoint =>
    merge_comm disjoint ordered patch_ordered other_ordered⟩

end Json

namespace Sample

/-- A text where an object is going to be. -/
def flat : Json := .object [("a", .int 1), ("b", .text "x")]

/-- Add one field inside `b` and remove another. -/
def firstPatch : Json := .object [("b", .object [("c", .null), ("e", .int 4)])]

/-- Set a field in another object inside `b`, and one beside it. -/
def secondPatch : Json :=
  .object [("b", .object [("d", .object [("g", .bool true)])]), ("f", .list [.int 1])]

end Sample

/-- Two patches that both make an object of a text, in either order. -/
theorem sample_patches_commute :
    Sample.flat.Ordered ∧ Sample.firstPatch.Ordered ∧ Sample.secondPatch.Ordered ∧
      Json.Disjoint Sample.firstPatch Sample.secondPatch ∧
      (Sample.flat.merge Sample.firstPatch).merge Sample.firstPatch =
        Sample.flat.merge Sample.firstPatch ∧
      (Sample.flat.merge Sample.firstPatch).merge Sample.secondPatch =
        (Sample.flat.merge Sample.secondPatch).merge Sample.firstPatch ∧
      (Sample.flat.merge Sample.firstPatch).merge Sample.secondPatch =
        .object [("a", .int 1), ("b", .object [("d", .object [("g", .bool true)]), ("e", .int 4)]),
          ("f", .list [.int 1])] := by
  have flat : Sample.flat.Ordered := by decide
  have first : Sample.firstPatch.Ordered := by decide
  have second : Sample.secondPatch.Ordered := by decide
  have disjoint : Json.Disjoint Sample.firstPatch Sample.secondPatch := by
    refine .object fun key v w hv hw => ?_
    obtain ⟨rfl, rfl⟩ : "b" = key ∧ Json.object [("c", .null), ("e", .int 4)] = v := by
      simpa [valueAt?] using hv
    obtain rfl : Json.object [("d", .object [("g", .bool true)])] = w := by
      simpa [valueAt?] using hw
    refine .object fun key v w hv hw => ?_
    obtain ⟨rfl, -⟩ : "d" = key ∧ Json.object [("g", .bool true)] = w := by
      simpa [valueAt?] using hw
    simp [valueAt?] at hv
  obtain ⟨again, commutes⟩ :=
    Json.merge_repeats_and_commutes Sample.flat Sample.firstPatch flat first
  exact ⟨flat, first, second, disjoint, again, commutes _ second disjoint, by rfl⟩

end VolumeHandover
