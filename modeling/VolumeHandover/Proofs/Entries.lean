import VolumeHandover.Table

set_option autoImplicit false

/-! # Looking up what was filed

What is found under a key after an entry was filed or removed. The lists of entries need not be
in order for this, so that the lemmas serve tables as well as the fields of a JSON object.
-/

namespace VolumeHandover

variable {α : Type} {key key' : String} {value : α}

/-! ## Entry lists -/

theorem valueAt_eq_none {entries : List (String × α)} (h : key ∉ entries.map (·.1)) :
    valueAt? key entries = none := by
  induction entries with
  | nil => rfl
  | cons head rest ih =>
      rw [List.map_cons, List.mem_cons, not_or] at h
      rw [valueAt?, if_neg fun he => h.1 he.symm]
      exact ih h.2

theorem mem_of_valueAt {entries : List (String × α)} (h : valueAt? key entries = some value) :
    (key, value) ∈ entries := by
  induction entries with
  | nil => cases h
  | cons head rest ih =>
      obtain ⟨k, v⟩ := head
      rw [valueAt?] at h
      by_cases he : k = key
      · rw [if_pos he] at h
        rw [he, Option.some.inj h]
        exact List.mem_cons_self
      · rw [if_neg he] at h
        exact .tail _ (ih h)

theorem valueAt_putEntry_self (entries : List (String × α)) :
    valueAt? key (putEntry key value entries) = some value := by
  induction entries with
  | nil => simp [putEntry, valueAt?]
  | cons head rest ih =>
      obtain ⟨k, v⟩ := head
      rw [putEntry]
      by_cases hlt : key < k
      · rw [if_pos hlt, valueAt?, if_pos rfl]
      · rw [if_neg hlt]
        by_cases he : key = k
        · rw [if_pos he, valueAt?, if_pos rfl]
        · rw [if_neg he, valueAt?, if_neg fun h => he h.symm]
          exact ih

theorem valueAt_putEntry_of_ne (hne : key' ≠ key) (entries : List (String × α)) :
    valueAt? key' (putEntry key value entries) = valueAt? key' entries := by
  induction entries with
  | nil => simp [putEntry, valueAt?, hne.symm]
  | cons head rest ih =>
      obtain ⟨k, v⟩ := head
      rw [putEntry]
      by_cases hlt : key < k
      · rw [if_pos hlt, valueAt?, if_neg hne.symm]
      · rw [if_neg hlt]
        by_cases he : key = k
        · rw [if_pos he, valueAt?, if_neg hne.symm, valueAt?,
            if_neg fun h : k = key' => hne (h.symm.trans he.symm)]
        · rw [if_neg he, valueAt?, valueAt?, ih]

theorem valueAt_dropEntry_self (entries : List (String × α)) :
    valueAt? key (dropEntry key entries) = none := by
  induction entries with
  | nil => rfl
  | cons head rest ih =>
      obtain ⟨k, v⟩ := head
      unfold dropEntry at *
      by_cases he : k = key
      · rw [List.filter_cons_of_neg (by simpa using he)]
        exact ih
      · rw [List.filter_cons_of_pos (by simpa using he), valueAt?, if_neg he]
        exact ih

theorem valueAt_dropEntry_of_ne (hne : key' ≠ key) (entries : List (String × α)) :
    valueAt? key' (dropEntry key entries) = valueAt? key' entries := by
  induction entries with
  | nil => rfl
  | cons head rest ih =>
      obtain ⟨k, v⟩ := head
      unfold dropEntry at *
      by_cases he : k = key
      · rw [List.filter_cons_of_neg (by simpa using he), valueAt?,
          if_neg fun h => hne (h.symm.trans he)]
        exact ih
      · rw [List.filter_cons_of_pos (by simpa using he), valueAt?, valueAt?, ih]

instance (entries : List (String × α)) : Decidable (Increasing entries) :=
  inferInstanceAs (Decidable (List.Pairwise _ entries))

/-- Among entries in increasing order every one is found under its key. -/
theorem valueAt_of_mem {entries : List (String × α)} (increasing : Increasing entries)
    (mem : (key, value) ∈ entries) : valueAt? key entries = some value := by
  induction entries with
  | nil => exact absurd mem List.not_mem_nil
  | cons head rest ih =>
      obtain ⟨k, v⟩ := head
      rcases List.mem_cons.mp mem with here | behind
      · obtain ⟨rfl, rfl⟩ := Prod.mk.inj here
        rw [valueAt?, if_pos rfl]
      · have less : k < key := List.rel_of_pairwise_cons increasing behind
        rw [valueAt?, if_neg fun same : k = key => String.lt_irrefl key (same ▸ less)]
        exact ih increasing.of_cons behind

/-- The key of an entry in front is not found behind it. -/
theorem valueAt_of_increasing {entries : List (String × α)}
    (h : Increasing ((key, value) :: entries)) : valueAt? key entries = none := by
  refine valueAt_eq_none fun mem => ?_
  obtain ⟨e, he, same⟩ := List.mem_map.mp mem
  have less := List.rel_of_pairwise_cons h he
  rw [same] at less
  exact String.lt_irrefl key less

/-- A smaller key than all is not found. -/
theorem valueAt_of_lt {value' : α} {entries : List (String × α)}
    (h : Increasing ((key', value') :: entries)) (less : key < key') :
    valueAt? key ((key', value') :: entries) = none := by
  refine valueAt_eq_none fun mem => ?_
  obtain ⟨e, he, same⟩ := List.mem_map.mp mem
  have later : key < e.1 := by
    rcases List.mem_cons.mp he with rfl | behind
    · exact less
    · exact String.lt_trans less (List.rel_of_pairwise_cons h behind)
  rw [same] at later
  exact String.lt_irrefl key later

/-- Entries in increasing order are known by what is found among them. -/
theorem entries_ext {entries entries' : List (String × α)} (increasing : Increasing entries)
    (increasing' : Increasing entries')
    (same : ∀ key, valueAt? key entries = valueAt? key entries') : entries = entries' := by
  induction entries generalizing entries' with
  | nil =>
      cases entries' with
      | nil => rfl
      | cons head' rest' =>
          have first := same head'.1
          rw [valueAt?, valueAt?, if_pos rfl] at first
          cases first
  | cons head rest ih =>
      obtain ⟨k, v⟩ := head
      have first : valueAt? k entries' = some v := by
        rw [← same k, valueAt?, if_pos rfl]
      cases entries' with
      | nil => cases first
      | cons head' rest' =>
          obtain ⟨k', v'⟩ := head'
          have first' : valueAt? k' ((k, v) :: rest) = some v' := by
            rw [same k', valueAt?, if_pos rfl]
          -- of two different first keys the smaller one is found in one of the lists only
          have keys : k = k' := by
            by_cases less : k < k'
            · rw [valueAt_of_lt increasing' less] at first
              cases first
            by_cases greater : k' < k
            · rw [valueAt_of_lt increasing greater] at first'
              cases first'
            exact String.le_antisymm (String.not_lt.mp greater) (String.not_lt.mp less)
          subst keys
          rw [valueAt?, if_pos rfl] at first
          cases first
          have rests : rest = rest' := by
            refine ih increasing.of_cons increasing'.of_cons fun key => ?_
            by_cases equal : k = key
            · subst equal
              rw [valueAt_of_increasing increasing, valueAt_of_increasing increasing']
            · have found := same key
              rw [valueAt?, valueAt?, if_neg equal, if_neg equal] at found
              exact found
          rw [rests]

/-! ## Tables -/

namespace Table

variable (t : Table α)

@[simp] theorem get?_insert_self : (t.insert key value).get? key = some value :=
  valueAt_putEntry_self t.entries

theorem get?_insert_of_ne (hne : key' ≠ key) :
    (t.insert key value).get? key' = t.get? key' := valueAt_putEntry_of_ne hne t.entries

@[simp] theorem get?_erase_self : (t.erase key).get? key = none :=
  valueAt_dropEntry_self t.entries

theorem get?_erase_of_ne (hne : key' ≠ key) : (t.erase key).get? key' = t.get? key' :=
  valueAt_dropEntry_of_ne hne t.entries

theorem get?_insert :
    (t.insert key value).get? key' = if key' = key then some value else t.get? key' := by
  by_cases same : key' = key
  · rw [if_pos same, same, get?_insert_self]
  · rw [if_neg same, t.get?_insert_of_ne same]

theorem get?_erase : (t.erase key).get? key' = if key' = key then none else t.get? key' := by
  by_cases same : key' = key
  · rw [if_pos same, same, get?_erase_self]
  · rw [if_neg same, t.get?_erase_of_ne same]

/-- Tables are known by their look-ups. -/
theorem ext_get? {t t' : Table α} (same : ∀ key, t.get? key = t'.get? key) : t = t' := by
  obtain ⟨entries, increasing⟩ := t
  obtain ⟨entries', increasing'⟩ := t'
  obtain rfl : entries = entries' := entries_ext increasing increasing' same
  rfl

end Table

end VolumeHandover
