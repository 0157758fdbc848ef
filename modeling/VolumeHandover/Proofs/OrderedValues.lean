import VolumeHandover.Json.Reader
import VolumeHandover.Proofs.Entries

set_option autoImplicit false

/-! # JSON values in order

The fields of an object are kept in increasing key order, in the objects inside it as well
(`Json.Ordered`). Of values in order, two are equal if the same is found under every key. What is
read from a text is in order (`Json.ordered_of_read`), whatever the order of the fields in the text
and however often a key is repeated there.
-/

namespace VolumeHandover

namespace Json

/-! ## Fields in order -/

mutual

/-- Whether the fields of every object in a value stand in increasing key order. -/
def isOrdered : Json → Bool
  | .list items => areOrdered items
  | .object fields => decide (Increasing fields) && fieldsOrdered fields
  | _ => true
termination_by structural j => j

/-- Whether all items of a list are in order. -/
def areOrdered : List Json → Bool
  | [] => true
  | item :: rest => item.isOrdered && areOrdered rest
termination_by structural items => items

/-- Whether the values of all fields are in order. -/
def fieldsOrdered : List (String × Json) → Bool
  | [] => true
  | field :: rest => fieldOrdered field && fieldsOrdered rest
termination_by structural fields => fields

/-- Whether the value of a field is in order. -/
def fieldOrdered : String × Json → Bool
  | (_, value) => value.isOrdered
termination_by structural field => field

end

/-- The fields of every object in a value stand in increasing key order. -/
def Ordered (j : Json) : Prop := j.isOrdered = true

instance (j : Json) : Decidable j.Ordered := inferInstanceAs (Decidable (_ = true))

@[simp] theorem ordered_null : Json.null.Ordered := rfl

@[simp] theorem ordered_bool (b : Bool) : (Json.bool b).Ordered := rfl

@[simp] theorem ordered_int (n : Int) : (Json.int n).Ordered := rfl

@[simp] theorem ordered_real (x : Double) : (Json.real x).Ordered := rfl

theorem areOrdered_iff {items : List Json} :
    areOrdered items = true ↔ ∀ item ∈ items, item.Ordered := by
  induction items with
  | nil => simp [areOrdered]
  | cons item rest ih =>
      rw [areOrdered, Bool.and_eq_true, ih, List.forall_mem_cons]
      rfl

theorem fieldsOrdered_iff {fields : List (String × Json)} :
    fieldsOrdered fields = true ↔ ∀ field ∈ fields, field.2.Ordered := by
  induction fields with
  | nil => simp [fieldsOrdered]
  | cons field rest ih =>
      rw [fieldsOrdered, Bool.and_eq_true, ih, List.forall_mem_cons, fieldOrdered]
      rfl

theorem ordered_list_iff {items : List Json} :
    (Json.list items).Ordered ↔ ∀ item ∈ items, item.Ordered := by
  rw [Ordered, isOrdered, areOrdered_iff]

/-- An object is in order if its fields are and what is found under its keys is. -/
theorem ordered_object_iff {fields : List (String × Json)} :
    (Json.object fields).Ordered ↔
      Increasing fields ∧ ∀ key value, valueAt? key fields = some value → value.Ordered := by
  rw [Ordered, isOrdered, Bool.and_eq_true, decide_eq_true_iff, fieldsOrdered_iff]
  refine and_congr_right fun increasing => ⟨fun each key value found => ?_, fun each field mem => ?_⟩
  · exact each (key, value) (mem_of_valueAt found)
  · exact each field.1 field.2 (valueAt_of_mem increasing mem)

theorem Ordered.increasing {j : Json} (ordered : j.Ordered) : Increasing j.fields := by
  cases j with
  | object fields => exact (ordered_object_iff.mp ordered).1
  | null | bool _ | int _ | real _ | text _ | list _ => exact List.Pairwise.nil

/-- What a field holds is in order, also if the field is missing and counts as null. -/
theorem Ordered.get?_getD {j : Json} (ordered : j.Ordered) (key : String) :
    ((j.get? key).getD .null).Ordered := by
  cases found : j.get? key with
  | none => rfl
  | some value =>
      cases j with
      | object fields => exact (ordered_object_iff.mp ordered).2 key value found
      | null | bool _ | int _ | real _ | text _ | list _ => cases found

/-- To put a value into an object leaves it in order. -/
theorem Ordered.putEntry {fields : List (String × Json)} (ordered : (Json.object fields).Ordered)
    {value : Json} (value_ordered : value.Ordered) (key : String) :
    (Json.object (putEntry key value fields)).Ordered := by
  obtain ⟨increasing, each⟩ := ordered_object_iff.mp ordered
  refine ordered_object_iff.mpr ⟨increasing_putEntry key value increasing, fun k v found => ?_⟩
  by_cases same : k = key
  · subst same
    rw [valueAt_putEntry_self] at found
    exact Option.some.inj found ▸ value_ordered
  · rw [valueAt_putEntry_of_ne same] at found
    exact each k v found

/-- An induction over the objects in a value: what holds of every value that is no object, and of
every object if it holds of what its fields hold, holds of every value. -/
@[elab_as_elim]
theorem object_induction {motive : Json → Prop}
    (leaf : ∀ j, (∀ fields, j ≠ .object fields) → motive j)
    (object : ∀ fields, (∀ key value, valueAt? key fields = some value → motive value) →
      motive (.object fields)) :
    ∀ j, motive j
  | .object fields => object fields fun key value _ => object_induction leaf object value
  | .null | .bool _ | .int _ | .real _ | .text _ | .list _ => leaf _ fun _ => Json.noConfusion
termination_by j => sizeOf j
decreasing_by
  have inside : sizeOf (key, value) < sizeOf fields := List.sizeOf_lt_of_mem (mem_of_valueAt ‹_›)
  simp only [Prod.mk.sizeOf_spec] at inside
  simp only [Json.object.sizeOf_spec]
  omega

/-! ## What is read from a text -/

/-- A value that was read is in order. -/
def Reading.Orderly (r : Reading Json) : Prop := ∀ j rest, r = .ok (j, rest) → j.Ordered

@[simp] theorem orderly_ok_iff {j : Json} {rest : List Char} :
    Reading.Orderly (.ok (j, rest)) ↔ j.Ordered := by
  refine ⟨fun h => h j rest rfl, fun ordered j' rest' h => ?_⟩
  obtain ⟨rfl, -⟩ := Prod.mk.inj (Except.ok.inj h)
  exact ordered

@[simp] theorem orderly_error (e : FaultAt) : Reading.Orderly (.error e) := fun _ _ h => by cases h

@[simp] theorem orderly_failHere (fault : Fault) (s : List Char) :
    (failHere fault s : Reading Json).Orderly := orderly_error _

@[simp] theorem orderly_failAhead (fault : Fault) (s : List Char) :
    (failAhead fault s : Reading Json).Orderly := orderly_error _

theorem orderly_word {value : Json} (ordered : value.Ordered) (letters s : List Char) :
    (word value letters s).Orderly := by
  induction letters generalizing s with
  | nil => exact orderly_ok_iff.mpr ordered
  | cons w ws ih =>
      cases s with
      | nil => exact orderly_failHere _ _
      | cons c rest =>
          rw [word]
          split
          · exact ih rest
          · exact orderly_failAhead _ _

@[simp] theorem orderly_realNumber (negative : Bool) (digits : Nat) (exponent : Int)
    (s : List Char) : (realNumber negative digits exponent s).Orderly := by
  unfold realNumber
  split <;> simp

@[simp] theorem orderly_exponentPart (negative : Bool) (digits : Nat) (scale : Int)
    (s : List Char) : (exponentPart negative digits scale s).Orderly := by
  unfold exponentPart
  dsimp only
  repeat' split
  all_goals simp

@[simp] theorem orderly_numberTail (negative : Bool) (digits left : Nat) (s : List Char) :
    (numberTail negative digits left s).Orderly := by
  unfold numberTail
  dsimp only
  repeat' split
  all_goals simp

theorem orderly_number (negative : Bool) (s : List Char) : (number negative s).Orderly := by
  unfold number
  repeat' split
  all_goals simp

/-- What is read within a number of steps is in order, provided that what was read before is. -/
theorem orderly_within (fuel : Nat) :
    (∀ depth s, (value fuel depth s).Orderly) ∧
    (∀ depth done s, (Json.list done).Ordered → (listItems fuel depth done s).Orderly) ∧
    (∀ depth first done s, (Json.object done).Ordered →
      (objectFields fuel depth first done s).Orderly) := by
  induction fuel with
  | zero => exact ⟨fun _ _ => orderly_failHere _ _, fun _ _ _ _ => orderly_failHere _ _,
      fun _ _ _ _ _ => orderly_failHere _ _⟩
  | succ fuel ih =>
      obtain ⟨values, lists, objects⟩ := ih
      refine ⟨fun depth s => ?_, fun depth done s done_ordered => ?_,
        fun depth first done s done_ordered => ?_⟩
      case refine_1 =>
        rw [value]
        cases skipSpace s with
        | nil => exact orderly_failAhead _ _
        | cons c rest =>
            dsimp only
            split
            · exact orderly_word ordered_null _ _
            split
            · exact orderly_word (ordered_bool true) _ _
            split
            · exact orderly_word (ordered_bool false) _ _
            split
            · exact orderly_number _ _
            split
            · exact orderly_number _ _
            split
            · split
              · exact orderly_error _
              · exact orderly_ok_iff.mpr rfl
            split
            · cases depth with
              | zero => exact orderly_failAhead _ _
              | succ depth => exact lists _ _ _ rfl
            split
            · cases depth with
              | zero => exact orderly_failAhead _ _
              | succ depth => exact objects _ _ _ _ rfl
            · exact orderly_failAhead _ _
      case refine_2 =>
        rw [listItems]
        split
        case h_1 => exact orderly_error _
        case h_2 =>
          exact orderly_ok_iff.mpr (ordered_list_iff.mpr fun item mem =>
            ordered_list_iff.mp done_ordered item (List.mem_reverse.mp mem))
        case h_3 =>
          split
          case h_1 => exact orderly_error _
          case h_2 read =>
            exact lists _ _ _ (ordered_list_iff.mpr (List.forall_mem_cons.mpr
              ⟨values _ _ _ _ read, ordered_list_iff.mp done_ordered⟩))
      case refine_3 =>
        rw [objectFields]
        split
        case h_1 => exact orderly_error _
        case h_2 => exact orderly_ok_iff.mpr done_ordered
        case h_3 =>
          split
          case h_1 => exact orderly_error _
          case h_2 =>
            split
            case h_1 => exact orderly_error _
            case h_2 read => exact objects _ _ _ _ (done_ordered.putEntry (values _ _ _ _ read) _)

/-- **What is read is in order**, whatever the order of the fields in the text. -/
theorem ordered_of_read {text : String} {j : Json} (read : Json.read text = .ok j) : j.Ordered := by
  unfold Json.read readWhole at read
  dsimp only at read
  split at read
  case h_1 => cases read
  case h_2 found =>
    split at read
    case h_1 => exact Except.ok.inj read ▸ (orderly_within _).1 _ _ _ _ found
    case h_2 => cases read

end Json

end VolumeHandover
