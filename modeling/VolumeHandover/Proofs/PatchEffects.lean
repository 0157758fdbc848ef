import VolumeHandover.Proofs.WrittenForms

set_option autoImplicit false

/-! # What the patches do

To apply a patch of a handover to a written object is to write an object that was changed
(`merge_record` and its relatives). Since objects are read as they are written, the patch has just
this effect on the stored object, whatever that is (`patched_reclaimPolicy` and so on): the fields
that the patch names change, and no others.
-/

namespace VolumeHandover

namespace Json

/-! ## Patching records -/

/-- The fields of a record, with another value under `key`. -/
def setField (key : String) (value : Option Json) (fields : List (String × Option Json)) :
    List (String × Option Json) :=
  fields.map fun field => if field.1 = key then (key, value) else field

variable {key : String} {value : Json} {fields : List (String × Option Json)}

theorem setField_of_not_mem {value : Option Json} (h : key ∉ fields.map (·.1)) :
    setField key value fields = fields := by
  induction fields with
  | nil => rfl
  | cons field rest ih =>
      rw [List.map_cons, List.mem_cons, not_or] at h
      rw [setField, List.map_cons, if_neg fun he => h.1 he.symm]
      exact congrArg (field :: ·) (ih h.2)

/-- The fields of a record that are present. -/
def present (fields : List (String × Option Json)) : List (String × Json) :=
  fields.filterMap fun (key, value) => value.map (key, ·)

@[simp] theorem present_none (key : String) : present ((key, none) :: fields) = present fields :=
  rfl

@[simp] theorem present_some (key : String) (value : Json) :
    present ((key, some value) :: fields) = (key, value) :: present fields := rfl

theorem mem_present {e : String × Json} (h : e ∈ present fields) : e.1 ∈ fields.map (·.1) := by
  obtain ⟨field, hf, he⟩ := List.mem_filterMap.mp h
  obtain ⟨value, -, rfl⟩ := Option.map_eq_some_iff.mp he
  exact List.mem_map_of_mem hf

theorem dropEntry_present (key : String) (fields : List (String × Option Json)) :
    dropEntry key (present fields) = present (setField key none fields) := by
  induction fields with
  | nil => rfl
  | cons field rest ih =>
      obtain ⟨k, value⟩ := field
      unfold dropEntry setField at *
      rw [List.map_cons]
      by_cases hk : k = key
      · rw [if_pos hk, present_none, ← ih]
        cases value with
        | none => rfl
        | some value => exact List.filter_cons_of_neg (by simpa using hk)
      · rw [if_neg hk]
        cases value with
        | none => exact ih
        | some value =>
            rw [present_some, present_some, ← ih]
            exact List.filter_cons_of_pos (by simpa using hk)

/-- A value is put into its place among the fields that are present. -/
theorem putEntry_present (sorted : (fields.map (·.1)).Pairwise (· < ·))
    (mem : key ∈ fields.map (·.1)) :
    putEntry key value (present fields) = present (setField key (some value) fields) := by
  induction fields with
  | nil => cases mem
  | cons field rest ih =>
      obtain ⟨k, old⟩ := field
      obtain ⟨first, sorted_rest⟩ := List.pairwise_cons.mp sorted
      by_cases hk : k = key
      · subst hk
        have absent : k ∉ rest.map (·.1) := fun h => String.lt_irrefl k (first k h)
        have behind : setField k (some value) ((k, old) :: rest) = (k, some value) :: rest := by
          rw [setField, List.map_cons, if_pos rfl]
          exact congrArg (_ :: ·) (setField_of_not_mem absent)
        rw [behind, present_some]
        cases old with
        | some old => rw [present_some, putEntry, if_neg (String.lt_irrefl k), if_pos rfl]
        | none =>
            -- the value goes in front of the next field that is present, if there is one
            rw [present_none]
            cases hr : present rest with
            | nil => rfl
            | cons e later =>
                have less : k < e.1 := first e.1 (mem_present (hr ▸ List.mem_cons_self))
                rw [putEntry, if_pos less]
      · have mem_rest : key ∈ rest.map (·.1) :=
          (List.mem_cons.mp mem).resolve_left fun he => hk he.symm
        have less : k < key := first key mem_rest
        have not_less : ¬ key < k := fun h => String.lt_irrefl k (String.lt_trans less h)
        have same : setField key (some value) ((k, old) :: rest) =
            (k, old) :: setField key (some value) rest := by
          rw [setField, List.map_cons, if_neg hk]
          rfl
        rw [same]
        cases old with
        | none => exact ih sorted_rest mem_rest
        | some old =>
            rw [present_some, present_some, putEntry, if_neg not_less,
              if_neg fun h => hk h.symm, ih sorted_rest mem_rest]

/-- A patch of one field replaces the field of a record by what is merged into it. -/
theorem merge_record (sorted : (fields.map (·.1)).Pairwise (· < ·))
    (mem : key ∈ fields.map (·.1)) (there : value ≠ .null) :
    (record fields).merge (.object [(key, value)]) =
      record
        (setField key (some (((valueAt? key fields).join.getD .null).merge value)) fields) := by
  have distinct : (fields.map (·.1)).Nodup := by
    refine sorted.imp ?_
    intro a b less same
    rw [same] at less
    exact String.lt_irrefl b less
  have field : mergeField (present fields) (key, value) =
      putEntry key (((valueAt? key (present fields)).getD .null).merge value) (present fields) := by
    cases value with
    | null => exact absurd rfl there
    | bool _ | int _ | real _ | text _ | list _ | object _ => rfl
  rw [Json.merge, mergeFields, mergeFields]
  show Json.object (mergeField (present fields) (key, value)) = _
  rw [field, present, valueAt_filterMap fields key distinct]
  exact congrArg Json.object (putEntry_present sorted mem)

/-- A patch with null takes a field out of a record. -/
theorem merge_record_null (key : String) (fields : List (String × Option Json)) :
    (record fields).merge (.object [(key, .null)]) = record (setField key none fields) := by
  rw [Json.merge, mergeFields, mergeFields, mergeField]
  exact congrArg Json.object (dropEntry_present key fields)

/-- The fields of a patch are applied one after the other. -/
theorem merge_cons (j : Json) (field : String × Json) (patch : List (String × Json)) :
    j.merge (.object (field :: patch)) =
      (j.merge (.object [field])).merge (.object patch) := by
  rw [Json.merge, Json.merge, Json.merge, mergeFields, mergeFields, mergeFields]
  rfl

/-- A part that is missing is patched like one without fields. -/
theorem merge_missing {α : Type} (write : α → Json) {default : α}
    (empty : (write default).fields = []) (part : Option α) (inner : List (String × Json)) :
    ((part.map write).getD .null).merge (.object inner) =
      (write (part.getD default)).merge (.object inner) := by
  cases part with
  | some a => rfl
  | none =>
      rw [Json.merge, Json.merge, Option.getD_none, empty]
      rfl

@[simp] theorem merge_text (j : Json) (s : String) : j.merge (.text s) = .text s := by
  rw [Json.merge]
  exact fun _ => Json.noConfusion

theorem keys_setField (key : String) (value : Option Json)
    (fields : List (String × Option Json)) :
    (setField key value fields).map (·.1) = fields.map (·.1) := by
  rw [setField, List.map_map]
  refine List.map_congr_left fun field _ => ?_
  show (if field.1 = key then (key, value) else field).1 = field.1
  by_cases hk : field.1 = key
  · rw [if_pos hk, hk]
  · rw [if_neg hk]

/-- Fields that are texts or null are set and taken out one after the other. -/
theorem merge_record_texts (sorted : (fields.map (·.1)).Pairwise (· < ·))
    (patch : List (String × Option String)) (mem : ∀ e ∈ patch, e.1 ∈ fields.map (·.1)) :
    (record fields).merge (.object (patch.map fun e => (e.1, .ofText? e.2))) =
      record (patch.foldl (fun fields e => setField e.1 (e.2.map .text) fields) fields) := by
  induction patch generalizing fields with
  | nil =>
      rw [List.map_nil, Json.merge, mergeFields]
      rfl
  | cons e patch ih =>
      obtain ⟨key, value⟩ := e
      have first : (record fields).merge (.object [(key, .ofText? value)]) =
          record (setField key (value.map .text) fields) := by
        cases value with
        | none => exact merge_record_null key fields
        | some s =>
            have known : key ∈ fields.map (·.1) := mem (key, some s) List.mem_cons_self
            have there : Json.text s ≠ .null := Json.noConfusion
            rw [ofText?, merge_record sorted known there, merge_text]
            rfl
      rw [List.map_cons, merge_cons, first, List.foldl_cons]
      refine ih ?_ fun e he => ?_
      · rwa [keys_setField]
      · rw [keys_setField]
        exact mem e (.tail _ he)

/-- A table is patched by filing a text. -/
theorem merge_ofTable (t : Table String) (key value : String) :
    (ofTable t).merge (.object [(key, .text value)]) = ofTable (t.insert key value) := by
  have put (entries : List (String × String)) :
      putEntry key (Json.text value) (entries.map fun e => (e.1, .text e.2)) =
        (putEntry key value entries).map fun e => (e.1, .text e.2) := by
    induction entries with
    | nil => rfl
    | cons e rest ih =>
        obtain ⟨k, v⟩ := e
        rw [List.map_cons, putEntry, putEntry, ih]
        by_cases less : key < k
        · rw [if_pos less, if_pos less]
          rfl
        · by_cases same : key = k
          · rw [if_neg less, if_neg less, if_pos same, if_pos same]
            rfl
          · rw [if_neg less, if_neg less, if_neg same, if_neg same]
            rfl
  rw [Json.merge, mergeFields, mergeFields, mergeField, merge_text]
  · exact congrArg Json.object (put t.entries)
  · exact Json.noConfusion

/-- A table is patched with null by erasing a text. -/
theorem merge_ofTable_null (t : Table String) (key : String) :
    (ofTable t).merge (.object [(key, .null)]) = ofTable (t.erase key) := by
  rw [Json.merge, mergeFields, mergeFields, mergeField]
  exact congrArg Json.object List.filter_map

end Json

open Json (merge_record merge_record_null merge_cons merge_missing merge_text
  merge_ofTable merge_ofTable_null)

/-- A patch that turns the written form of an object into that of another replaces the object by
the other one. -/
theorem patched_of_merge {α : Type} [StoredKind α] [StoredKind.Faithful α] {old new : α}
    {patch : Json} (h : (StoredKind.toJson old).merge patch = StoredKind.toJson new) :
    Cluster.patched old patch = .ok new := by
  unfold Cluster.patched
  rw [h, StoredKind.Faithful.ofJson_toJson]

/-! ## Volumes -/

/-- The reference to a claim, in place of what was referred to before. -/
def ObjectReference.toClaim (r : ObjectReference) (claim : Claim) : ObjectReference :=
  { r with
    apiVersion := some "v1"
    kind := some "PersistentVolumeClaim"
    name := some claim.anyName
    space := claim.metadata.space
    uid := claim.metadata.uid }

theorem ObjectReference.merge_toClaim (r : ObjectReference) (claim : Claim) :
    r.toJson.merge (.object [("apiVersion", .text "v1"),
      ("kind", .text "PersistentVolumeClaim"), ("name", .text claim.anyName),
      ("namespace", .ofText? claim.metadata.space), ("uid", .ofText? claim.metadata.uid)]) =
      (r.toClaim claim).toJson := by
  have patch := @Json.merge_record_texts
    [("apiVersion", r.apiVersion.map .text), ("kind", r.kind.map .text),
      ("name", r.name.map .text), ("namespace", r.space.map .text),
      ("resourceVersion", r.resourceVersion.map .text), ("uid", r.uid.map .text)]
    (by dsimp only [List.map]; decide) [("apiVersion", some "v1"), ("kind", some "PersistentVolumeClaim"),
      ("name", some claim.anyName), ("namespace", claim.metadata.space),
      ("uid", claim.metadata.uid)] (by simp)
  exact patch

namespace VolumeSpec

variable (s : VolumeSpec)

theorem merge_reclaimPolicy (policy : String) :
    s.toJson.merge (.object [("persistentVolumeReclaimPolicy", .text policy)]) =
      { s with reclaimPolicy := some policy }.toJson := by
  rw [toJson, merge_record]
  · rfl
  · dsimp only [List.map]
    decide
  · simp
  · exact Json.noConfusion

theorem merge_claimRef_null :
    s.toJson.merge (.object [("claimRef", .null)]) = { s with claimRef := none }.toJson := by
  rw [toJson, merge_record_null]
  rfl

theorem merge_claimRef {inner : List (String × Json)} {r : ObjectReference}
    (h : (s.claimRef.getD {}).toJson.merge (.object inner) = r.toJson) :
    s.toJson.merge (.object [("claimRef", .object inner)]) =
      { s with claimRef := some r }.toJson := by
  have part : ((s.claimRef.map ObjectReference.toJson).getD .null).merge (.object inner) =
      r.toJson := (merge_missing ObjectReference.toJson rfl s.claimRef inner).trans h
  rw [toJson, merge_record]
  · show Json.record (Json.setField "claimRef"
      (some (((s.claimRef.map ObjectReference.toJson).getD .null).merge _)) _) = _
    rw [part]
    rfl
  · dsimp only [List.map]
    decide
  · simp
  · exact Json.noConfusion

end VolumeSpec

namespace Volume

variable (v : Volume)

theorem merge_spec {inner : List (String × Json)} {s : VolumeSpec}
    (h : (v.spec.getD {}).toJson.merge (.object inner) = s.toJson) :
    (StoredKind.toJson v).merge (.object [("spec", .object inner)]) =
      StoredKind.toJson { v with spec := some s } := by
  have part : ((v.spec.map VolumeSpec.toJson).getD .null).merge (.object inner) = s.toJson :=
    (merge_missing VolumeSpec.toJson rfl v.spec inner).trans h
  show (Json.record [_, _, _, ("spec", v.spec.map VolumeSpec.toJson)]).merge _ = _
  rw [merge_record]
  · show Json.record (Json.setField "spec"
      (some (((v.spec.map VolumeSpec.toJson).getD .null).merge _)) _) = _
    rw [part]
    rfl
  · dsimp only [List.map]
    decide
  · simp
  · exact Json.noConfusion

/-- The volume with another spec, which is made from the old one. -/
def withSpec (change : VolumeSpec → VolumeSpec) : Volume :=
  { v with spec := some (change (v.spec.getD {})) }

theorem patched_reclaimPolicy (policy : String) :
    Cluster.patched v (Patch.reclaimPolicy policy) =
      .ok (v.withSpec fun s => { s with reclaimPolicy := some policy }) :=
  patched_of_merge (v.merge_spec (VolumeSpec.merge_reclaimPolicy _ policy))

theorem patched_clearClaimRef : Cluster.patched v Patch.clearClaimRef =
    .ok (v.withSpec fun s => { s with claimRef := none }) :=
  patched_of_merge (v.merge_spec (VolumeSpec.merge_claimRef_null _))

theorem reclaimPolicyWithClaimRef_eq (policy : String) (claim : Claim) :
    Patch.reclaimPolicyWithClaimRef policy claim = .object [("spec", .object [
      ("claimRef", .object [("apiVersion", .text "v1"),
        ("kind", .text "PersistentVolumeClaim"), ("name", .text claim.anyName),
        ("namespace", .ofText? claim.metadata.space), ("uid", .ofText? claim.metadata.uid)]),
      ("persistentVolumeReclaimPolicy", .text policy)])] := by
  simp only [Patch.reclaimPolicyWithClaimRef, Json.ofFields, List.foldl_cons, List.foldl_nil,
    putEntry, String.reduceLT, String.reduceEq, if_true, if_false]

theorem patched_reclaimPolicyWithClaimRef (policy : String) (claim : Claim) :
    Cluster.patched v (Patch.reclaimPolicyWithClaimRef policy claim) =
      .ok (v.withSpec fun s => { s with
        reclaimPolicy := some policy
        claimRef := some ((s.claimRef.getD {}).toClaim claim) }) := by
  rw [reclaimPolicyWithClaimRef_eq]
  refine patched_of_merge (v.merge_spec ?_)
  rw [merge_cons, VolumeSpec.merge_claimRef _ (ObjectReference.merge_toClaim _ claim),
    VolumeSpec.merge_reclaimPolicy]

end Volume

/-! ## Claims -/

namespace Meta

variable (m : Meta)

theorem merge_finalizers (items : List String) :
    m.toJson.merge (.object [("finalizers", .texts items)]) =
      { m with finalizers := some items }.toJson := by
  rw [toJson, merge_record]
  · rfl
  · dsimp only [List.map]
    decide
  · simp
  · exact Json.noConfusion

theorem merge_finalizers_null :
    m.toJson.merge (.object [("finalizers", .null)]) = { m with finalizers := none }.toJson := by
  rw [toJson, merge_record_null]
  rfl

theorem merge_annotations {inner : List (String × Json)} {t : Table String}
    (h : (Json.ofTable (m.annotations.getD .empty)).merge (.object inner) = .ofTable t) :
    m.toJson.merge (.object [("annotations", .object inner)]) =
      { m with annotations := some t }.toJson := by
  have part : ((m.annotations.map Json.ofTable).getD .null).merge (.object inner) = .ofTable t :=
    (merge_missing Json.ofTable rfl m.annotations inner).trans h
  rw [toJson, merge_record]
  · show Json.record (Json.setField "annotations"
      (some (((m.annotations.map Json.ofTable).getD .null).merge _)) _) = _
    rw [part]
    rfl
  · dsimp only [List.map]
    decide
  · simp
  · exact Json.noConfusion

end Meta

theorem ClaimSpec.merge_volumeName (s : ClaimSpec) (volume : String) :
    s.toJson.merge (.object [("volumeName", .text volume)]) =
      { s with volumeName := some volume }.toJson := by
  rw [toJson, merge_record]
  · rfl
  · dsimp only [List.map]
    decide
  · simp
  · exact Json.noConfusion

namespace Claim

variable (c : Claim)

theorem merge_metadata {inner : List (String × Json)} {m : Meta}
    (h : c.metadata.toJson.merge (.object inner) = m.toJson) :
    (StoredKind.toJson c).merge (.object [("metadata", .object inner)]) =
      StoredKind.toJson { c with metadata := m } := by
  show (Json.record _).merge _ = Json.record [_, _, ("metadata", some m.toJson), _, _]
  rw [merge_record, ← h]
  · rfl
  · dsimp only [List.map]
    decide
  · simp
  · exact Json.noConfusion

theorem merge_spec {inner : List (String × Json)} {s : ClaimSpec}
    (h : (c.spec.getD {}).toJson.merge (.object inner) = s.toJson) :
    (StoredKind.toJson c).merge (.object [("spec", .object inner)]) =
      StoredKind.toJson { c with spec := some s } := by
  have part : ((c.spec.map ClaimSpec.toJson).getD .null).merge (.object inner) = s.toJson :=
    (merge_missing ClaimSpec.toJson rfl c.spec inner).trans h
  show (Json.record [_, _, _, ("spec", c.spec.map ClaimSpec.toJson), _]).merge _ = _
  rw [merge_record]
  · show Json.record (Json.setField "spec"
      (some (((c.spec.map ClaimSpec.toJson).getD .null).merge _)) _) = _
    rw [part]
    rfl
  · dsimp only [List.map]
    decide
  · simp
  · exact Json.noConfusion

/-- The claim with the given finalizers, of which the one that protects it is left out. -/
def unprotected (finalizers : List String) : Claim :=
  let remaining := finalizers.filter (· ≠ protectionFinalizer)
  { c with metadata := { c.metadata with
    finalizers := if remaining.isEmpty then none else some remaining } }

theorem patched_stripProtection (finalizers : List String) :
    Cluster.patched c (Patch.stripProtection finalizers) = .ok (c.unprotected finalizers) := by
  refine patched_of_merge (c.merge_metadata ?_)
  by_cases none : (finalizers.filter (· ≠ protectionFinalizer)).isEmpty = true
  · rw [if_pos none, if_pos none]
    exact c.metadata.merge_finalizers_null
  · rw [if_neg none, if_neg none]
    exact c.metadata.merge_finalizers _

/-- The claim once it is bound to a volume on behalf of a provisioner. -/
def boundTo (provisioner volume : String) : Claim :=
  { c with
    metadata := { c.metadata with
      annotations := some (((((c.metadata.annotations.getD .empty).insert
        bindCompletedKey "yes").insert boundByControllerKey "yes").insert
        betaStorageProvisionerKey provisioner).insert storageProvisionerKey provisioner) }
    spec := some { c.spec.getD {} with volumeName := some volume } }

theorem bindClaim_eq (provisioner volume : String) :
    Patch.bindClaim provisioner volume = .object [
      ("metadata", .object [("annotations", .object [
        (bindCompletedKey, .text "yes"), (boundByControllerKey, .text "yes"),
        (betaStorageProvisionerKey, .text provisioner),
        (storageProvisionerKey, .text provisioner)])]),
      ("spec", .object [("volumeName", .text volume)])] := by
  simp only [Patch.bindClaim, Json.ofFields, List.foldl_cons, List.foldl_nil, putEntry,
    bindCompletedKey, boundByControllerKey, betaStorageProvisionerKey, storageProvisionerKey,
    String.reduceLT, String.reduceEq, if_true, if_false]

theorem patched_bindClaim (provisioner volume : String) :
    Cluster.patched c (Patch.bindClaim provisioner volume) =
      .ok (c.boundTo provisioner volume) := by
  rw [bindClaim_eq]
  refine patched_of_merge ?_
  rw [merge_cons, c.merge_metadata (Meta.merge_annotations _ ?annotated)]
  case annotated => rw [merge_cons, merge_cons, merge_cons, merge_ofTable, merge_ofTable,
    merge_ofTable, merge_ofTable]
  exact merge_spec _ (ClaimSpec.merge_volumeName _ volume)

theorem volumeName_boundTo (provisioner : String) {volume : String} (named : volume ≠ "") :
    (c.boundTo provisioner volume).volumeName? = some volume := by
  unfold volumeName? boundTo
  rw [Option.bind_some, Option.filter_some, if_pos]
  simp [named]

/-- The claim without a choice of a node. -/
def unplaced : Claim :=
  { c with metadata := { c.metadata with
    annotations := some ((c.metadata.annotations.getD .empty).erase selectedNodeKey) } }

theorem patched_clearSelectedNode :
    Cluster.patched c Patch.clearSelectedNode = .ok c.unplaced := by
  refine patched_of_merge (c.merge_metadata (Meta.merge_annotations _ ?_))
  exact merge_ofTable_null _ _

end Claim

end VolumeHandover
