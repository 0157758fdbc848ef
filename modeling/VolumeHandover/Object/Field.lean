import VolumeHandover.Json.Shape

set_option autoImplicit false

/-! # Formats

A `Format` says how values of a type are read: the shape of their texts, and what a JSON value
of that shape stands for. `Fields` does the same for fields of an object, and is put together
field by field. An object is a record or a form. Reading a record drops the fields it does not
name, and takes a field that is missing or null as absent; a form has a field that is required,
or a default for one that is missing but not null. Nothing is read from a value of the wrong
type.
-/

namespace VolumeHandover

/-! ## Fields of a value -/

namespace Json

def asText : Json → Option String
  | .text s => some s
  | _ => none

def asList {α : Type} (item : Json → Option α) : Json → Option (List α)
  | .list items => items.mapM item
  | _ => none

def asTable : Json → Option (Table String)
  | .object fields => (fields.mapM fun field => (asText field.2).map (field.1, ·)).map Table.ofList
  | _ => none

def asRecord {α : Type} (body : Json → Option α) : Json → Option α
  | .object fields => body (.object fields)
  | _ => none

/-- The field under `key`, if it is neither missing nor null. -/
def optional {α : Type} (j : Json) (key : String) (read : Json → Option α) :
    Option (Option α) :=
  match j.get? key with
  | none => some none
  | some .null => some none
  | some v => (read v).map some

/-- The field under `key`, or `default` if it is missing or null. -/
def orDefault {α : Type} (j : Json) (key : String) (read : Json → Option α) (default : α) :
    Option α :=
  (j.optional key read).map (·.getD default)

/-- Whether the field under `key` is missing or is the given text. -/
def missingOr (j : Json) (key expected : String) : Bool :=
  match j.get? key with
  | none => true
  | some (.text s) => s = expected
  | some _ => false

end Json

/-! ## Formats -/

/-- How values of a type are read. -/
structure Format (α : Type) where
  /-- The shape of a text that can be read. -/
  shape : Json.Shape
  /-- What a JSON value stands for. -/
  ofJson? : Json → Option α

/-- How fields of an object are read. -/
structure Fields (α : Type) where
  /-- The keys of the fields and the shapes of their values. -/
  shapes : List (String × Json.Shape)
  /-- The keys of the fields that have to be there. -/
  needed : List String := []
  /-- What the fields of an object stand for. -/
  ofRecord? : Json → Option α

namespace Fields

instance : Applicative Fields where
  pure a := { shapes := [], ofRecord? := fun _ => some a }
  seq f a := {
    shapes := f.shapes ++ (a ()).shapes
    needed := f.needed ++ (a ()).needed
    ofRecord? := fun j => do
      let f ← f.ofRecord? j
      let a ← (a ()).ofRecord? j
      return f a }

variable {α : Type}

def optional (key : String) (format : Format α) : Fields (Option α) where
  shapes := [(key, .nullable format.shape)]
  ofRecord? j := j.optional key format.ofJson?

def orDefault (key : String) (format : Format α) (default : α) : Fields α where
  shapes := [(key, .nullable format.shape)]
  ofRecord? j := j.orDefault key format.ofJson? default

def required (key : String) (format : Format α) : Fields α where
  shapes := [(key, format.shape)]
  needed := [key]
  ofRecord? j := (j.get? key).bind format.ofJson?

/-- A field with a default for when it is missing; if it is there, it may not be null. -/
def ifThere (key : String) (format : Format α) (default : α) : Fields α where
  shapes := [(key, format.shape)]
  ofRecord? j :=
    match j.get? key with
    | none => some default
    | some v => format.ofJson? v

end Fields

namespace Format

variable {α : Type}

instance : Functor Format where
  map f format := { shape := format.shape, ofJson? := fun j => (format.ofJson? j).map f }

def text : Format String := ⟨.text fun _ => true, Json.asText⟩

def list (item : Format α) : Format (List α) := ⟨.list item.shape, Json.asList item.ofJson?⟩

def texts : Format (List String) := list text

def table : Format (Table String) := ⟨.table text.shape, Json.asTable⟩

def whole (least most : Int) : Format Int where
  shape := .whole fun i => least ≤ i && i ≤ most
  ofJson?
    | .int i => if least ≤ i && i ≤ most then some i else none
    | _ => none

def below (bound : Nat) : Format Nat where
  shape := .whole fun i => 0 ≤ i && i < bound
  ofJson?
    | .int (.ofNat n) => if n < bound then some n else none
    | _ => none

def choice (names : List String) : Format String := ⟨.choice names, Json.asText⟩

def nullable (format : Format α) : Format (Option α) where
  shape := .nullable format.shape
  ofJson?
    | .null => some none
    | j => (format.ofJson? j).map some

def record (fields : Fields α) : Format α :=
  ⟨.record fields.shapes, Json.asRecord fields.ofRecord?⟩

def form (others : Json.Others) (fields : Fields α) : Format α :=
  ⟨.form fields.shapes fields.needed others, Json.asRecord fields.ofRecord?⟩

def read? (format : Format α) (text : String) : Option α :=
  (Json.readAs format.shape text).toOption.bind format.ofJson?

end Format

end VolumeHandover
