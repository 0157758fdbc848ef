import VolumeHandover.Cluster.State
import VolumeHandover.Patch
import VolumeHandover.Proofs.Entries

set_option autoImplicit false

/-! # What a patch leaves alone

A merge patch goes through the written form of an object, from which the object is read again.
The text under a path of keys is followed through the three steps: writing a claim puts its
class there, the patches that a call makes do not touch it, and reading takes it from there. So
the patches leave a claim its class (`className_patched`).
-/

namespace VolumeHandover

/-! ## Texts under a path -/

namespace Json

/-- The text that is reached by following the keys of a path. -/
def textAt? : List String → Json → Option String
  | [], j => j.asText
  | key :: path, j => (j.get? key).bind (textAt? path)

theorem get?_object (fields : List (String × Json)) (key : String) :
    (Json.object fields).get? key = valueAt? key fields := rfl

theorem valueAt_filterMap (fields : List (String × Option Json)) (key : String)
    (distinct : (fields.map (·.1)).Nodup) :
    valueAt? key (fields.filterMap fun (key, value) => value.map (key, ·)) =
      (valueAt? key fields).join := by
  induction fields with
  | nil => rfl
  | cons field rest ih =>
      obtain ⟨k, value⟩ := field
      obtain ⟨fresh, rest_distinct⟩ := List.nodup_cons.mp distinct
      have found := ih rest_distinct
      rw [valueAt?, List.filterMap_cons]
      by_cases hk : k = key
      · subst hk
        rw [valueAt_eq_none fresh] at found
        cases value with
        | none => simpa using found
        | some value => simp [valueAt?]
      · rw [if_neg hk, ← found]
        cases value with
        | none => rfl
        | some value => simp [valueAt?, hk]

/-- What is found in a record. -/
theorem get?_record {fields : List (String × Option Json)} (key : String)
    (distinct : (fields.map (·.1)).Nodup) :
    (Json.record fields).get? key = (valueAt? key fields).join :=
  valueAt_filterMap fields key distinct

/-- Two fields that are listed in order of their keys. -/
theorem ofFields_pair (k₁ k₂ : String) {v₁ v₂ : Json} (h : ¬ k₂ < k₁) (hne : k₂ ≠ k₁) :
    Json.ofFields [(k₁, v₁), (k₂, v₂)] = .object ([(k₁, v₁)] ++ [(k₂, v₂)]) := by
  unfold Json.ofFields
  simp only [List.foldl_cons, List.foldl_nil, putEntry]
  rw [if_neg h, if_neg hne]
  rfl

/-! ## Merging -/

theorem valueAt_mergeField_of_ne {key : String} {field : String × Json} (hne : key ≠ field.1)
    (fields : List (String × Json)) :
    valueAt? key (mergeField fields field) = valueAt? key fields := by
  obtain ⟨k, value⟩ := field
  cases value with
  | null => exact valueAt_dropEntry_of_ne hne fields
  | bool _ | int _ | real _ | text _ | list _ | object _ =>
      exact valueAt_putEntry_of_ne hne fields

/-- A patch leaves the fields alone that it does not name. -/
theorem get?_merge_of_not_mem {key : String} {patch : List (String × Json)}
    (hne : ∀ field ∈ patch, key ≠ field.1) (j : Json) :
    (j.merge (.object patch)).get? key = j.get? key := by
  have all (fields : List (String × Json)) :
      valueAt? key (mergeFields fields patch) = valueAt? key fields := by
    induction patch generalizing fields with
    | nil => rfl
    | cons field patch ih =>
        rw [mergeFields, ih fun f hf => hne f (.tail _ hf)]
        exact valueAt_mergeField_of_ne (hne field List.mem_cons_self) fields
  rw [Json.merge, get?_object, all]
  rfl

/-- The field that a patch ends with is merged with what was there. -/
theorem get?_merge_concat {key : String} {inner : List (String × Json)}
    {patch : List (String × Json)} (hne : ∀ field ∈ patch, key ≠ field.1) (j : Json) :
    (j.merge (.object (patch ++ [(key, .object inner)]))).get? key =
      some (((j.get? key).getD .null).merge (.object inner)) := by
  have all (fields : List (String × Json)) :
      valueAt? key (mergeFields fields (patch ++ [(key, .object inner)])) =
        some (((valueAt? key fields).getD .null).merge (.object inner)) := by
    induction patch generalizing fields with
    | nil => exact valueAt_putEntry_self fields
    | cons field patch ih =>
        rw [List.cons_append, mergeFields, ih fun f hf => hne f (.tail _ hf),
          valueAt_mergeField_of_ne (hne field List.mem_cons_self)]
  rw [Json.merge, get?_object, all]
  rfl

end Json

/-! ## Reading fields -/

namespace Fields

variable {α β : Type} {j : Json}

theorem map_ofRecord? {f : α → β} {fields : Fields α} {b : β}
    (h : (f <$> fields).ofRecord? j = some b) :
    ∃ a, fields.ofRecord? j = some a ∧ b = f a := by
  obtain ⟨a, ha, h⟩ := Option.bind_eq_some_iff.mp h
  exact ⟨a, ha, (Option.some.inj h).symm⟩

theorem seq_ofRecord? {functions : Fields (α → β)} {fields : Fields α} {b : β}
    (h : (functions <*> fields).ofRecord? j = some b) :
    ∃ f a, functions.ofRecord? j = some f ∧ fields.ofRecord? j = some a ∧ b = f a := by
  obtain ⟨f, hf, h⟩ := Option.bind_eq_some_iff.mp h
  obtain ⟨a, ha, h⟩ := Option.bind_eq_some_iff.mp h
  exact ⟨f, a, hf, ha, (Option.some.inj h).symm⟩

end Fields

namespace Json

theorem textAt_of_optional {j : Json} {key : String} {value : Option String}
    (h : j.optional key Json.asText = some value) : j.textAt? [key] = value := by
  unfold Json.optional at h
  unfold textAt?
  cases hv : j.get? key with
  | none =>
      rw [hv] at h
      exact Option.some.inj h
  | some v =>
      rw [hv] at h
      cases v with
      | null => exact Option.some.inj h
      | text s => exact Option.some.inj h
      | bool _ | int _ | real _ | list _ | object _ => cases h

end Json

/-! ## The class of a claim -/

/-- The class that a claim asks for. -/
def Claim.className? (c : Claim) : Option String := c.spec.bind (·.storageClassName)

/-- Where the class stands in a claim. -/
def classPath : List String := ["spec", "storageClassName"]

theorem textAt_toJson (c : Claim) :
    (StoredKind.toJson c).textAt? classPath = c.className? := by
  have spec : (StoredKind.toJson c).get? "spec" = c.spec.map ClaimSpec.toJson :=
    (Json.get?_record "spec" (by simp)).trans (by simp [valueAt?])
  have name (s : ClaimSpec) :
      s.toJson.get? "storageClassName" = s.storageClassName.map Json.text :=
    (Json.get?_record "storageClassName" (by simp)).trans (by simp [valueAt?])
  rw [classPath, Json.textAt?, spec, Claim.className?]
  cases c.spec with
  | none => rfl
  | some s =>
      show (s.toJson.get? "storageClassName").bind _ = s.storageClassName
      rw [name]
      cases s.storageClassName <;> rfl

theorem storageClassName_ofJson {j : Json} {s : ClaimSpec}
    (h : ClaimSpec.format.ofJson? j = some s) :
    s.storageClassName = j.textAt? ["storageClassName"] := by
  cases j with
  | object fields =>
      obtain ⟨_, _, h₁, -, rfl⟩ := Fields.seq_ofRecord? h
      obtain ⟨_, _, h₂, -, rfl⟩ := Fields.seq_ofRecord? h₁
      obtain ⟨_, name, h₃, found, rfl⟩ := Fields.seq_ofRecord? h₂
      obtain ⟨_, _, h₄, -, rfl⟩ := Fields.seq_ofRecord? h₃
      obtain ⟨_, _, h₅, -, rfl⟩ := Fields.seq_ofRecord? h₄
      obtain ⟨_, _, h₆, -, rfl⟩ := Fields.seq_ofRecord? h₅
      obtain ⟨_, -, rfl⟩ := Fields.map_ofRecord? h₆
      exact (Json.textAt_of_optional found).symm
  | null | bool _ | int _ | real _ | text _ | list _ => cases h

theorem className_ofJson {j : Json} {c : Claim} (h : StoredKind.ofJson? j = some c) :
    c.className? = j.textAt? classPath := by
  cases j with
  | object fields =>
      unfold StoredKind.ofJson? Json.asRecord at h
      dsimp only at h
      split at h
      · obtain ⟨_, _, h₁, -, rfl⟩ := Fields.seq_ofRecord? h
        obtain ⟨_, spec, h₂, found, rfl⟩ := Fields.seq_ofRecord? h₁
        obtain ⟨_, -, rfl⟩ := Fields.map_ofRecord? h₂
        rw [classPath, Json.textAt?]
        show spec.bind _ = _
        change Json.optional _ "spec" ClaimSpec.format.ofJson? = some spec at found
        unfold Json.optional at found
        split at found
        · rename_i missing
          rw [missing, ← Option.some.inj found]
          rfl
        · rename_i null
          rw [null, ← Option.some.inj found]
          rfl
        · rename_i value _ there
          obtain ⟨s, read, rfl⟩ := Option.map_eq_some_iff.mp found
          rw [there]
          exact storageClassName_ofJson read
      · cases h
  | null | bool _ | int _ | real _ | text _ | list _ => cases h

theorem textAt_stripProtection (finalizers : List String) (j : Json) :
    (j.merge (Patch.stripProtection finalizers)).textAt? classPath = j.textAt? classPath := by
  have spec : (j.merge (Patch.stripProtection finalizers)).get? "spec" = j.get? "spec" :=
    Json.get?_merge_of_not_mem (by simp [putEntry]) j
  rw [classPath, Json.textAt?, Json.textAt?, spec]

theorem textAt_bindClaim (provisioner volume : String) (j : Json) :
    (j.merge (Patch.bindClaim provisioner volume)).textAt? classPath = j.textAt? classPath := by
  -- the annotations come first, and what they are does not matter to the spec
  have fields : ∃ annotated, Patch.bindClaim provisioner volume =
      .object ([("metadata", annotated)] ++ [("spec", .object [("volumeName", .text volume)])]) :=
    ⟨_, Json.ofFields_pair "metadata" "spec" (by decide) (by decide)⟩
  obtain ⟨annotated, patch⟩ := fields
  have name (spec : Json) :
      (spec.merge (.object [("volumeName", .text volume)])).get? "storageClassName" =
        spec.get? "storageClassName" :=
    Json.get?_merge_of_not_mem (by simp) spec
  rw [patch, classPath, Json.textAt?, Json.textAt?, Json.get?_merge_concat (by simp)]
  show ((((j.get? "spec").getD .null).merge _).get? "storageClassName").bind _ = _
  rw [name]
  cases j.get? "spec" <;> rfl

/-! ## The claims of a cluster -/

/-- A patch that leaves the class of a written claim alone leaves it to the claim. -/
theorem className_patched {patch : Json} {old new : Claim}
    (keeps : ∀ j : Json, (j.merge patch).textAt? classPath = j.textAt? classPath)
    (result : Cluster.patched old patch = .ok new) : new.className? = old.className? := by
  unfold Cluster.patched at result
  split at result
  · rename_i read
    rw [← Except.ok.inj result, className_ofJson read, keeps, textAt_toJson]
  · cases result

theorem className_boundClaim (c : Claim) :
    (Cluster.boundClaim c).className? = c.className? := by
  unfold Claim.className? Cluster.boundClaim
  cases c.spec <;> rfl

end VolumeHandover
