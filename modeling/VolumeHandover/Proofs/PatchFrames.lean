import VolumeHandover.Proofs.PatchEffects

set_option autoImplicit false

/-! # What the patches leave alone

A merge patch names the paths of fields on which it sets or removes something. Whatever JSON value
it is applied to, what lies at the end of a path that branches off from all of these is still the
same (`Json.merge_frame`), also a field that no record here has. The patches of a handover can be
applied to every claim and every volume; what comes out is the object with the parts they are for
replaced (`patches_change_what_they_name`).
-/

namespace VolumeHandover

namespace Json

/-! ## Paths of fields -/

/-- The value at the end of a path of fields. -/
def at? (j : Json) : List String → Option Json
  | [] => some j
  | key :: path => (j.get? key).bind (·.at? path)

/-- Neither of two paths leads on from the end of the other. -/
def Apart (a b : List String) : Prop := ¬ a <+: b ∧ ¬ b <+: a

theorem apart_cons_iff {key : String} {a b : List String} :
    Apart (key :: a) (key :: b) ↔ Apart a b := by
  rw [Apart, Apart, List.cons_prefix_cons, List.cons_prefix_cons, and_iff_right rfl,
    and_iff_right rfl]

theorem not_apart_nil_left (path : List String) : ¬ Apart [] path := fun h => h.1 List.nil_prefix

theorem not_apart_nil_right (path : List String) : ¬ Apart path [] := fun h => h.2 List.nil_prefix

mutual

/-- The paths at whose ends a patch sets or removes something. -/
def named : Json → List (List String)
  | .object (field :: rest) => namedBy field ++ namedIn rest
  | _ => [[]]
termination_by structural patch => patch

/-- The paths that the fields of a patch name. -/
def namedIn : List (String × Json) → List (List String)
  | [] => []
  | field :: rest => namedBy field ++ namedIn rest
termination_by structural fields => fields

/-- The paths that one field of a patch names. -/
def namedBy : String × Json → List (List String)
  | (key, value) => value.named.map (key :: ·)
termination_by structural field => field

end

theorem named_object {fields : List (String × Json)} (some_field : fields ≠ []) :
    (Json.object fields).named = namedIn fields := by
  cases fields with
  | nil => exact absurd rfl some_field
  | cons field rest => rw [named, namedIn]

/-- Every patch names something. -/
theorem named_ne_nil : ∀ patch : Json, patch.named ≠ []
  | .object ((key, value) :: rest) => by
      have inner : value.named ≠ [] := named_ne_nil value
      rw [named, namedBy]
      intro none
      exact inner (List.map_eq_nil_iff.mp (List.append_eq_nil_iff.mp none).1)
  | .object [] | .null | .bool _ | .int _ | .real _ | .text _ | .list _ => by
      rw [named] <;> simp

/-! ## The frame of a patch -/

theorem valueAt_mergeField_self (key : String) {value : Json} (there : value ≠ .null)
    (fields : List (String × Json)) :
    valueAt? key (mergeField fields (key, value)) =
      some (((valueAt? key fields).getD .null).merge value) := by
  cases value with
  | null => exact absurd rfl there
  | bool _ | int _ | real _ | text _ | list _ | object _ => exact valueAt_putEntry_self fields

theorem at?_null {path : List String} (further : path ≠ []) : Json.null.at? path = none := by
  cases path with
  | nil => exact absurd rfl further
  | cons key path => rfl

/-- **The frame of a patch**: what lies at the end of a path apart from all that the patch names is
not changed, whatever value the patch is applied to. -/
theorem merge_frame {path : List String} {patch : Json} (j : Json)
    (apart : ∀ leaf ∈ patch.named, Apart leaf path) : (j.merge patch).at? path = j.at? path := by
  induction path generalizing patch j with
  | nil =>
      obtain ⟨leaf, rest, named⟩ := List.exists_cons_of_ne_nil (named_ne_nil patch)
      exact absurd (apart leaf (named ▸ List.mem_cons_self)) (not_apart_nil_right leaf)
  | cons key path ih =>
      cases patch with
      | null | bool _ | int _ | real _ | text _ | list _ =>
          rw [named] at apart
          · exact absurd (apart [] List.mem_cons_self) (not_apart_nil_left _)
          · nofun
      | object patch =>
          have some_field : patch ≠ [] := by
            rintro rfl
            exact not_apart_nil_left _ (apart [] (by rw [named] <;> simp))
          rw [named_object some_field] at apart
          clear some_field
          rw [Json.merge]
          show (valueAt? key (mergeFields j.fields patch)).bind _ = (valueAt? key j.fields).bind _
          generalize j.fields = fields
          -- the fields of the patch are applied in turn; each leaves alone what lies on the path
          induction patch generalizing fields with
          | nil => rw [mergeFields]
          | cons field rest ih_rest =>
              obtain ⟨k, value⟩ := field
              rw [namedIn, namedBy] at apart
              have later : ∀ leaf ∈ namedIn rest, Apart leaf (key :: path) := fun leaf hl =>
                apart leaf (List.mem_append_right _ hl)
              rw [mergeFields, ih_rest later]
              by_cases same : k = key
              · subst same
                have inner : ∀ leaf ∈ value.named, Apart leaf path := fun leaf hl =>
                  apart_cons_iff.mp (apart _ (List.mem_append_left _ (List.mem_map_of_mem hl)))
                have there : value ≠ .null := by
                  rintro rfl
                  exact not_apart_nil_left _ (inner [] (by rw [named] <;> simp))
                have further : path ≠ [] := by
                  rintro rfl
                  obtain ⟨leaf, rest, named⟩ := List.exists_cons_of_ne_nil (named_ne_nil value)
                  exact not_apart_nil_right leaf (inner leaf (named ▸ List.mem_cons_self))
                rw [valueAt_mergeField_self k there, Option.bind_some, ih _ inner]
                cases valueAt? k fields with
                | none => exact at?_null further
                | some old => rfl
              · rw [valueAt_mergeField_of_ne fun equal => same equal.symm]

end Json

/-! ## The patches of a handover -/

/-- A patch turns an object into another one; of any JSON value it changes only what lies on one of
the given paths or at its end. -/
structure Patch.Makes {α : Type} [StoredKind α] (patch : Json) (old new : α)
    (paths : List (List String)) : Prop where
  patched : Cluster.patched old patch = .ok new
  frame : ∀ (j : Json) (path : List String), (∀ leaf ∈ paths, Json.Apart leaf path) →
    (j.merge patch).at? path = j.at? path

theorem Patch.makes_of_patched {α : Type} [StoredKind α] {patch : Json} {old new : α}
    {paths : List (List String)} (patched : Cluster.patched old patch = .ok new)
    (named : patch.named = paths) : Patch.Makes patch old new paths where
  patched := patched
  frame j path apart := by
    subst named
    exact Json.merge_frame j apart

namespace Claim

variable (c : Claim)

theorem get?_annotations_getD (key : String) :
    (c.metadata.annotations.getD .empty).get? key = c.annotated? key := by
  unfold annotated?
  cases c.metadata.annotations <;> rfl

/-- The annotations of a claim that is bound to a volume: four are set, the others are kept. -/
theorem annotated?_boundTo (provisioner volume key : String) :
    (c.boundTo provisioner volume).annotated? key =
      if key = storageProvisionerKey ∨ key = betaStorageProvisionerKey then some provisioner
      else if key = bindCompletedKey ∨ key = boundByControllerKey then some "yes"
      else c.annotated? key := by
  rw [annotated?, boundTo, Option.bind_some]
  by_cases h₁ : key = storageProvisionerKey
  · rw [if_pos (.inl h₁), h₁, Table.get?_insert_self]
  rw [Table.get?_insert_of_ne _ h₁]
  by_cases h₂ : key = betaStorageProvisionerKey
  · rw [if_pos (.inr h₂), h₂, Table.get?_insert_self]
  rw [Table.get?_insert_of_ne _ h₂, if_neg (not_or.mpr ⟨h₁, h₂⟩)]
  by_cases h₃ : key = boundByControllerKey
  · rw [if_pos (.inr h₃), h₃, Table.get?_insert_self]
  rw [Table.get?_insert_of_ne _ h₃]
  by_cases h₄ : key = bindCompletedKey
  · rw [if_pos (.inl h₄), h₄, Table.get?_insert_self]
  rw [Table.get?_insert_of_ne _ h₄, if_neg (not_or.mpr ⟨h₄, h₃⟩), get?_annotations_getD]

/-- The annotations of a claim whose choice of a node is taken back. -/
theorem annotated?_unplaced (key : String) :
    c.unplaced.annotated? key = if key = selectedNodeKey then none else c.annotated? key := by
  rw [annotated?, unplaced, Option.bind_some, Table.get?_erase, get?_annotations_getD]

end Claim

/-- **The patches of a handover change only what they name.** Each can be applied to every object
of its kind, and what comes out is that object but for the parts given here, a missing spec or
table of annotations counting as an empty one. On fields that the records here do not have, it
touches nothing but the listed paths either. -/
theorem patches_change_what_they_name :
    (∀ (c : Claim) (provisioner volume : String), ∃ annotations : Table String,
      (∀ key, annotations.get? key =
        if key = storageProvisionerKey ∨ key = betaStorageProvisionerKey then some provisioner
        else if key = bindCompletedKey ∨ key = boundByControllerKey then some "yes"
        else c.annotated? key) ∧
      Patch.Makes (Patch.bindClaim provisioner volume) c
        { c with
          metadata := { c.metadata with annotations := some annotations }
          spec := some { c.spec.getD {} with volumeName := some volume } }
        [["metadata", "annotations", bindCompletedKey],
          ["metadata", "annotations", boundByControllerKey],
          ["metadata", "annotations", betaStorageProvisionerKey],
          ["metadata", "annotations", storageProvisionerKey], ["spec", "volumeName"]]) ∧
    (∀ c : Claim, ∃ annotations : Table String,
      (∀ key, annotations.get? key = if key = selectedNodeKey then none else c.annotated? key) ∧
      Patch.Makes Patch.clearSelectedNode c
        { c with metadata := { c.metadata with annotations := some annotations } }
        [["metadata", "annotations", selectedNodeKey]]) ∧
    (∀ (c : Claim) (finalizers : List String),
      Patch.Makes (Patch.stripProtection finalizers) c
        { c with metadata := { c.metadata with
          finalizers := match finalizers.filter (· ≠ protectionFinalizer) with
            | [] => none
            | remaining => some remaining } }
        [["metadata", "finalizers"]]) ∧
    (∀ (v : Volume) (policy : String),
      Patch.Makes (Patch.reclaimPolicy policy) v
        { v with spec := some { v.spec.getD {} with reclaimPolicy := some policy } }
        [["spec", "persistentVolumeReclaimPolicy"]]) ∧
    (∀ v : Volume,
      Patch.Makes Patch.clearClaimRef v
        { v with spec := some { v.spec.getD {} with claimRef := none } }
        [["spec", "claimRef"]]) ∧
    (∀ (v : Volume) (policy : String) (c : Claim),
      Patch.Makes (Patch.reclaimPolicyWithClaimRef policy c) v
        { v with spec := some { v.spec.getD {} with
          reclaimPolicy := some policy
          claimRef := some { (v.spec.getD {}).claimRef.getD {} with
            apiVersion := some "v1"
            kind := some "PersistentVolumeClaim"
            name := some c.anyName
            space := c.metadata.space
            uid := c.metadata.uid } } }
        [["spec", "claimRef", "apiVersion"], ["spec", "claimRef", "kind"],
          ["spec", "claimRef", "name"], ["spec", "claimRef", "namespace"],
          ["spec", "claimRef", "uid"], ["spec", "persistentVolumeReclaimPolicy"]]) := by
  refine ⟨fun c provisioner volume => ?_, fun c => ?_, fun c finalizers => ?_, fun v policy => ?_,
    fun v => ?_, fun v policy c => ?_⟩
  case refine_1 =>
    refine ⟨_, c.annotated?_boundTo provisioner volume, Patch.makes_of_patched
      (c.patched_bindClaim provisioner volume) ?_⟩
    rw [Claim.bindClaim_eq]
    rfl
  case refine_2 =>
    exact ⟨_, c.annotated?_unplaced, Patch.makes_of_patched c.patched_clearSelectedNode rfl⟩
  case refine_3 =>
    have remaining : c.unprotected finalizers = { c with metadata := { c.metadata with
        finalizers := match finalizers.filter (· ≠ protectionFinalizer) with
          | [] => none
          | remaining => some remaining } } := by
      unfold Claim.unprotected
      cases finalizers.filter (· ≠ protectionFinalizer) <;> rfl
    refine Patch.makes_of_patched (remaining ▸ c.patched_stripProtection finalizers) ?_
    unfold Patch.stripProtection
    cases finalizers.filter (· ≠ protectionFinalizer) <;> rfl
  case refine_4 =>
    exact Patch.makes_of_patched (v.patched_reclaimPolicy policy) rfl
  case refine_5 =>
    exact Patch.makes_of_patched v.patched_clearClaimRef rfl
  case refine_6 =>
    refine Patch.makes_of_patched (v.patched_reclaimPolicyWithClaimRef policy c) ?_
    rw [Volume.reclaimPolicyWithClaimRef_eq]
    cases c.metadata.space <;> cases c.metadata.uid <;> rfl

end VolumeHandover
