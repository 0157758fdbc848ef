import VolumeHandover.Proofs.MomentText
import VolumeHandover.Proofs.PatchedClaims

set_option autoImplicit false

/-! # Objects are read as they are written

Claims and volumes are read back from their written form without a loss
(`StoredKind.ofJson_toJson`, for the kinds that are `Faithful`). A format is faithful to a way of
writing if it reads what was written; that of a record is so if those of its fields are.
-/

namespace VolumeHandover

/-! ## Tables -/

namespace Table

variable {α : Type}

/-- An entry behind all others is put at the end. -/
theorem putEntry_concat {key : String} {value : α} {entries : List (String × α)}
    (last : ∀ e ∈ entries, e.1 < key) : putEntry key value entries = entries ++ [(key, value)] := by
  induction entries with
  | nil => rfl
  | cons head rest ih =>
      obtain ⟨k, v⟩ := head
      have before : k < key := last _ List.mem_cons_self
      have not_less : ¬ key < k := fun less => String.lt_irrefl k (String.lt_trans before less)
      have other : key ≠ k := fun same => String.lt_irrefl k (same ▸ before)
      rw [putEntry, if_neg not_less, if_neg other, ih fun e he => last e (.tail _ he)]
      rfl

/-- A table is the table of its entries. -/
theorem ofList_entries (t : Table α) : ofList t.entries = t := by
  -- the entries are filed from the first to the last, so each of them comes to the end
  have filed (first rest : List (String × α)) (ht : Increasing (first ++ rest)) (t : Table α)
      (h : t.entries = first) :
      (rest.foldl (fun t e => t.insert e.1 e.2) t).entries = first ++ rest := by
    induction rest generalizing first t with
    | nil => simpa using h
    | cons e rest ih =>
        have last : ∀ a ∈ first, a.1 < e.1 := fun a ha =>
          (List.pairwise_append.mp ht).2.2 a ha e List.mem_cons_self
        rw [List.foldl_cons, List.append_cons]
        refine ih (first ++ [e]) (by rwa [← List.append_cons]) _ ?_
        show putEntry e.1 e.2 t.entries = _
        rw [h, putEntry_concat last]
  have entries := filed [] t.entries t.increasing empty rfl
  rw [List.nil_append] at entries
  obtain ⟨list, increasing⟩ := t
  change (ofList list).entries = list at entries
  generalize ofList list = other at entries
  obtain ⟨list', increasing'⟩ := other
  cases entries
  rfl

end Table

/-! ## Faithful formats -/

/-- What is written in a certain way is read with the format, and is not null. -/
class Format.Faithful {α : Type} (format : Format α) (write : outParam (α → Json)) : Prop where
  read_write : ∀ a, format.ofJson? (write a) = some a
  present : ∀ a, write a ≠ .null

instance : Format.text.Faithful .text := ⟨fun _ => rfl, nofun⟩

instance : Format.texts.Faithful .texts where
  read_write items := by
    show (items.map Json.text).mapM Json.asText = some items
    induction items with
    | nil => rfl
    | cons item items ih =>
        rw [List.map_cons, List.mapM_cons, ih]
        rfl
  present := nofun

instance : Format.table.Faithful .ofTable where
  read_write t := by
    have entries (list : List (String × String)) :
        (list.map fun e => (e.1, Json.text e.2)).mapM
          (fun field => (Json.asText field.2).map (field.1, ·)) = some list := by
      induction list with
      | nil => rfl
      | cons e list ih =>
          rw [List.map_cons, List.mapM_cons, ih]
          rfl
    show Option.map Table.ofList (List.mapM _ (t.entries.map _)) = some t
    rw [entries, Option.map_some, t.ofList_entries]
  present := nofun

theorem Moment.ofJson_format (j : Json) : format.ofJson? j = j.asText.bind read? := rfl

instance : Moment.format.Faithful (fun m => .text m.text) where
  read_write m := by rw [Moment.ofJson_format, Json.asText, Option.bind_some, m.read_text]
  present _ := Json.noConfusion

/-! ## Fields of a record -/

namespace Fields

variable {α β : Type} {j : Json}

/-- The fields of an object are read as a value. -/
def Yield (fields : Fields α) (j : Json) (a : α) : Prop := fields.ofRecord? j = some a

theorem Yield.map {fields : Fields α} {a : α} (f : α → β) (h : fields.Yield j a) :
    (f <$> fields).Yield j (f a) := by
  show (fields.ofRecord? j).bind (fun a => some (f a)) = some (f a)
  rw [show fields.ofRecord? j = some a from h, Option.bind_some]

theorem Yield.seq {functions : Fields (α → β)} {fields : Fields α} {f : α → β} {a : α}
    (hf : functions.Yield j f) (ha : fields.Yield j a) : (functions <*> fields).Yield j (f a) := by
  show (functions.ofRecord? j).bind (fun f => (fields.ofRecord? j).bind fun a => some (f a)) = _
  rw [show functions.ofRecord? j = some f from hf, Option.bind_some,
    show fields.ofRecord? j = some a from ha, Option.bind_some]

variable {format : Format α} {write : α → Json} {key : String}
  {fields : List (String × Option Json)}

/-- A field that is written if it is present is read as what it was. -/
theorem optional_record [faithful : format.Faithful write] {value : Option α}
    (distinct : (fields.map (·.1)).Nodup)
    (field : valueAt? key fields = some (value.map write)) :
    (optional key format).Yield (.record fields) value := by
  have found : (Json.record fields).get? key = value.map write := by
    rw [Json.get?_record key distinct, field]
    rfl
  unfold Yield optional Json.optional
  dsimp only
  rw [found]
  cases value with
  | none => rfl
  | some a =>
      have read := faithful.read_write a
      have present := faithful.present a
      rw [Option.map_some]
      generalize write a = j at read present
      cases j with
      | null => exact absurd rfl present
      | bool _ | int _ | real _ | text _ | list _ | object _ =>
          exact congrArg (Option.map some) read

theorem orDefault_record [format.Faithful write] {a default : α}
    (distinct : (fields.map (·.1)).Nodup) (field : valueAt? key fields = some (some (write a))) :
    (orDefault key format default).Yield (.record fields) a := by
  have there : (optional key format).Yield (.record fields) (some a) :=
    optional_record distinct field
  exact congrArg (Option.map fun value => value.getD default) there

end Fields

/-! ## Parts of objects -/

open Fields (optional_record orDefault_record)

theorem record_ne_null (fields : List (String × Option Json)) : Json.record fields ≠ .null :=
  Json.noConfusion

instance : Resources.format.Faithful Resources.toJson where
  read_write r := by
    refine ((Fields.Yield.map Resources.mk (a := r.limits) ?_).seq (a := r.requests) ?_)
    all_goals exact optional_record (by simp) (by simp [valueAt?])
  present _ := record_ne_null _

instance : LabelSelector.format.Faithful LabelSelector.toJson where
  read_write s := by
    refine Fields.Yield.map LabelSelector.mk (a := s.matchLabels) ?_
    exact optional_record (by simp) (by simp [valueAt?])
  present _ := record_ne_null _

instance : DataSource.format.Faithful DataSource.toJson where
  read_write d := by
    refine ((Fields.Yield.map DataSource.mk (a := d.apiGroup) ?_).seq (a := d.kind) ?_).seq
      (a := d.name) ?_
    · exact optional_record (by simp) (by simp [valueAt?])
    · exact orDefault_record (by simp) (by simp [valueAt?])
    · exact orDefault_record (by simp) (by simp [valueAt?])
  present _ := record_ne_null _

instance : ClaimSpec.format.Faithful ClaimSpec.toJson where
  read_write s := by
    refine (((((((Fields.Yield.map ClaimSpec.mk (a := s.accessModes) ?_).seq
      (a := s.dataSource) ?_).seq (a := s.resources) ?_).seq (a := s.selector) ?_).seq
      (a := s.storageClassName) ?_).seq (a := s.volumeMode) ?_).seq (a := s.volumeName) ?_)
    all_goals exact optional_record (by simp) (by simp [valueAt?])
  present _ := record_ne_null _

instance : ClaimStatus.format.Faithful ClaimStatus.toJson where
  read_write s := by
    refine Fields.Yield.map ClaimStatus.mk (a := s.phase) ?_
    exact optional_record (by simp) (by simp [valueAt?])
  present _ := record_ne_null _

instance : ObjectReference.format.Faithful ObjectReference.toJson where
  read_write r := by
    refine ((((((Fields.Yield.map ObjectReference.mk (a := r.apiVersion) ?_).seq
      (a := r.kind) ?_).seq (a := r.name) ?_).seq (a := r.space) ?_).seq
      (a := r.resourceVersion) ?_).seq (a := r.uid) ?_)
    all_goals exact optional_record (by simp) (by simp [valueAt?])
  present _ := record_ne_null _

instance : VolumeSpec.format.Faithful VolumeSpec.toJson where
  read_write s := by
    refine (((((Fields.Yield.map VolumeSpec.mk (a := s.capacity) ?_).seq
      (a := s.claimRef) ?_).seq (a := s.mountOptions) ?_).seq (a := s.reclaimPolicy) ?_).seq
      (a := s.storageClassName) ?_)
    all_goals exact optional_record (by simp) (by simp [valueAt?])
  present _ := record_ne_null _

instance : Meta.format.Faithful Meta.toJson where
  read_write m := by
    refine (((((((((Fields.Yield.map Meta.mk (a := m.name) ?_).seq (a := m.generateName) ?_).seq
      (a := m.space) ?_).seq (a := m.uid) ?_).seq (a := m.resourceVersion) ?_).seq
      (a := m.labels) ?_).seq (a := m.annotations) ?_).seq (a := m.finalizers) ?_).seq
      (a := m.deletionTimestamp) ?_)
    all_goals exact optional_record (by simp) (by simp [valueAt?])
  present _ := record_ne_null _

/-! ## Objects -/

/-- Objects of a kind are read back from their written form. -/
class StoredKind.Faithful (α : Type) [StoredKind α] : Prop where
  ofJson_toJson : ∀ object : α, StoredKind.ofJson? (StoredKind.toJson object) = some object

instance : StoredKind.Faithful Claim where
  ofJson_toJson c := by
    refine ((Fields.Yield.map Claim.mk (a := c.metadata) ?_).seq (a := c.spec) ?_).seq
      (a := c.status) ?_
    · exact orDefault_record (by simp) (by simp [valueAt?])
    · exact optional_record (by simp) (by simp [valueAt?])
    · exact optional_record (by simp) (by simp [valueAt?])

instance : StoredKind.Faithful Volume where
  ofJson_toJson v := by
    refine (Fields.Yield.map Volume.mk (a := v.metadata) ?_).seq (a := v.spec) ?_
    · exact orDefault_record (by simp) (by simp [valueAt?])
    · exact optional_record (by simp) (by simp [valueAt?])

end VolumeHandover
