set_option autoImplicit false

/-! # Ordered tables keyed by text

A `Table α` files values under text keys. Its entries stand in increasing key order, code
point by code point, and no key occurs twice, so two tables with the same look-ups are the
same list of entries. Labels, annotations, quantities and the stores of a cluster are tables.
-/

namespace VolumeHandover

/-! ## Entry lists -/

/-- The first value filed under `key` in a list of entries. -/
def valueAt? {α : Type} (key : String) : List (String × α) → Option α
  | [] => none
  | (k, v) :: rest => if k = key then some v else valueAt? key rest

/-- File `value` under `key`: replace the entry of that key, or put a new one before the
first larger key. -/
def putEntry {α : Type} (key : String) (value : α) : List (String × α) → List (String × α)
  | [] => [(key, value)]
  | (k, v) :: rest =>
      if key < k then (key, value) :: (k, v) :: rest
      else if key = k then (key, value) :: rest
      else (k, v) :: putEntry key value rest

def dropEntry {α : Type} (key : String) (entries : List (String × α)) : List (String × α) :=
  entries.filter fun e => e.1 ≠ key

/-- The keys increase strictly from each entry to all later ones. -/
def Increasing {α : Type} (entries : List (String × α)) : Prop :=
  entries.Pairwise fun a b => a.1 < b.1

theorem mem_putEntry {α : Type} {key : String} {value : α} {e : String × α}
    {entries : List (String × α)} (h : e ∈ putEntry key value entries) :
    e = (key, value) ∨ e ∈ entries := by
  induction entries with
  | nil => simpa [putEntry] using h
  | cons head rest ih =>
      obtain ⟨k, v⟩ := head
      simp only [putEntry] at h
      split at h
      · simpa using h
      · split at h
        · simp only [List.mem_cons] at h ⊢
          exact h.imp id .inr
        · simp only [List.mem_cons] at h ⊢
          rcases h with h | h
          · exact .inr (.inl h)
          · exact (ih h).imp id .inr

theorem increasing_putEntry {α : Type} (key : String) (value : α)
    {entries : List (String × α)} (h : Increasing entries) :
    Increasing (putEntry key value entries) := by
  induction entries with
  | nil => simp [putEntry, Increasing]
  | cons head rest ih =>
      obtain ⟨k, v⟩ := head
      obtain ⟨hk, hrest⟩ := List.pairwise_cons.1 h
      simp only [putEntry]
      split
      case isTrue hlt =>
        refine List.pairwise_cons.2 ⟨fun e he => ?_, h⟩
        rcases List.mem_cons.1 he with rfl | he
        · exact hlt
        · exact String.lt_trans hlt (hk e he)
      case isFalse hlt =>
        split
        case isTrue heq =>
          subst heq
          exact List.pairwise_cons.2 ⟨hk, hrest⟩
        case isFalse hne =>
          refine List.pairwise_cons.2 ⟨fun e he => ?_, ih hrest⟩
          rcases mem_putEntry he with rfl | he
          · have hle : k ≤ key := String.not_lt.1 hlt
            exact Decidable.byContradiction fun hn =>
              hne (String.le_antisymm (String.not_lt.1 hn) hle)
          · exact hk e he

theorem increasing_dropEntry {α : Type} (key : String) {entries : List (String × α)}
    (h : Increasing entries) : Increasing (dropEntry key entries) :=
  List.Pairwise.filter _ h

/-! ## Tables -/

/-- A finite map from text to `α`, kept in increasing key order. -/
structure Table (α : Type) where
  entries : List (String × α)
  /-- No key occurs twice and the keys increase. -/
  increasing : Increasing entries

namespace Table

variable {α β : Type}

def empty : Table α := ⟨[], List.Pairwise.nil⟩

instance : Inhabited (Table α) := ⟨empty⟩

instance [DecidableEq α] : DecidableEq (Table α) := fun a b =>
  if h : a.entries = b.entries then
    isTrue (by cases a; cases b; cases h; rfl)
  else isFalse fun he => h (congrArg entries he)

def get? (t : Table α) (key : String) : Option α := valueAt? key t.entries

def contains (t : Table α) (key : String) : Bool := (t.get? key).isSome

/-- File `value` under `key`, in place of what was there. -/
def insert (t : Table α) (key : String) (value : α) : Table α :=
  ⟨putEntry key value t.entries, increasing_putEntry key value t.increasing⟩

def erase (t : Table α) (key : String) : Table α :=
  ⟨dropEntry key t.entries, increasing_dropEntry key t.increasing⟩

/-- The table of a list of entries; of two entries with one key the later counts. -/
def ofList (entries : List (String × α)) : Table α :=
  entries.foldl (fun t e => t.insert e.1 e.2) empty

def toList (t : Table α) : List (String × α) := t.entries

end Table

end VolumeHandover
