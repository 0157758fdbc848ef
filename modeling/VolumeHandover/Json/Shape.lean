import VolumeHandover.Json.Skip

set_option autoImplicit false

/-! # Reading by shape

A `Shape` says what a text is expected to hold: which fields of an object matter, and what
their values look like. `readAs` reads a text by a shape. What comes out holds nothing but the
fields that the shape names; all other values are skipped. The text is looked at from left to
right, and the first thing that is wrong with it decides, be it a value that does not fit the
shape, a fault of the text or its end.

In a `record` each field may be there or not, and of two fields of one key the later counts,
though each of them has to fit. A `form` is stricter: no field may be there twice, and some
have to be there. A form may also be written as the list of its values.
-/

namespace VolumeHandover

namespace Json

/-! ## Shapes -/

/-- What is done with the fields that a form does not name. -/
inductive Others where
  | skipped
  /-- They are read in full; those listed must be among them, each of them once and a text. -/
  | kept (texts : List String)
deriving DecidableEq, Inhabited, Repr

inductive Shape where
  | text (fits : String → Bool)
  | whole (fits : Int → Bool)
  /-- One of the names, or an object with it as the only key and null as its value. -/
  | choice (names : List String)
  | nullable (shape : Shape)
  | list (item : Shape)
  | table (value : Shape)
  | record (fields : List (String × Shape))
  /-- The fields with the keys that must be there, and what is done with other fields. -/
  | form (fields : List (String × Shape)) (required : List String) (others : Others)
deriving Inhabited

/-! ## Reading -/

/-- Fail because a value of another form is expected, or because the value is not even one. -/
def unfitting {α : Type} (s : List Char) : Reading α :=
  match skipSpace s with
  | [] => failAhead .endInValue []
  | c :: rest =>
      if c = '[' || c = '\x7b' then failAhead .unfit (c :: rest)
      else match value 1 0 (c :: rest) with
        | .error e => .error e
        | .ok (_, rest) => failHere .unfit rest

def fittingText (fits : String → Bool) (s : List Char) : Reading String :=
  match skipSpace s with
  | '"' :: rest =>
      match textBody (rest.length + 1) [] rest with
      | .error e => .error e
      | .ok (t, rest) => if fits t then .ok (t, rest) else failHere .unfit rest
  | s => unfitting s

def fittingNumber (fits : Int → Bool) (s : List Char) : Reading Json :=
  match skipSpace s with
  | [] => failAhead .endInValue []
  | c :: rest =>
      if c = '-' || c.isDigit then
        match if c = '-' then number true rest else number false (c :: rest) with
        | .ok (.int i, rest) => if fits i then .ok (.int i, rest) else failHere .unfit rest
        | .ok (_, rest) => failHere .unfit rest
        | .error e => .error e
      else unfitting (c :: rest)

def chosenName (names : List String) (s : List Char) : Reading Json :=
  match skipSpace s with
  | '"' :: rest =>
      match fittingText (names.contains ·) ('"' :: rest) with
      | .error e => .error e
      | .ok (name, rest) => .ok (.text name, rest)
  | [] => failAhead .endInValue []
  | rest => failAhead .expectedValue rest

def chosenKey (names : List String) (s : List Char) : Reading Json :=
  match fittingText (names.contains ·) s with
  | .error e => .error e
  | .ok (name, rest) =>
      match colon rest with
      | .error e => .error e
      | .ok ((), rest) =>
          match skipSpace rest with
          | 'n' :: rest =>
              match word .null ['u', 'l', 'l'] rest with
              | .error e => .error e
              | .ok (_, rest) =>
                  match skipSpace rest with
                  | '\x7d' :: rest => .ok (.text name, rest)
                  | [] => failHere .endInObject []
                  | rest => failHere .expectedValue rest
          | rest => unfitting rest

def listEnd (s : List Char) : Reading Unit :=
  match skipSpace s with
  | ']' :: rest => .ok ((), rest)
  | [] => failAhead .endInList []
  | rest => failAhead .trailingText rest

/-- Read any value, and skip it if it is not to be kept. -/
def otherValue (others : Others) (depth : Nat) (s : List Char) : Reading (Option Json) :=
  match others with
  | .skipped =>
      match skipValue s with
      | .ok ((), rest) => .ok (none, rest)
      | .error e => .error e
  | .kept _ =>
      match anyValue depth s with
      | .ok (v, rest) => .ok (some v, rest)
      | .error e => .error e

/-- The fields that a form keeps besides those it names, if they are as they must be. -/
def keptTexts? (others : Others) (fields : List (String × Json)) :
    Option (List (String × Json)) :=
  match others with
  | .skipped => some []
  | .kept texts => texts.mapM fun key =>
      match fields.filter (·.1 = key) with
      | [(_, .text s)] => some (key, .text s)
      | _ => none

/-- The object that a form is read as, if everything is there. -/
def completed? (required : List String) (others : Others) (done rest : List (String × Json)) :
    Option Json :=
  if required.all fun key => done.any (·.1 = key) then
    (keptTexts? others rest).map fun kept =>
      .object (kept.foldl (fun fields e => putEntry e.1 e.2 fields) done)
  else none

mutual

/-- Read a value by its shape; `fuel` bounds the number of steps and `depth` the levels still
allowed. -/
def valueAs (fuel depth : Nat) (shape : Shape) (s : List Char) : Reading Json :=
  match fuel with
  | 0 => failHere .endInValue s
  | fuel + 1 =>
      match shape with
      | .text fits =>
          match fittingText fits s with
          | .error e => .error e
          | .ok (t, rest) => .ok (.text t, rest)
      | .whole fits => fittingNumber fits s
      | .nullable shape =>
          match skipSpace s with
          | 'n' :: rest => word .null ['u', 'l', 'l'] rest
          | s => valueAs fuel depth shape s
      | shape =>
          match skipSpace s, depth with
          | '[' :: rest, 0 => failAhead .tooDeep ('[' :: rest)
          | '[' :: rest, depth + 1 =>
              match shape with
              | .list item => itemsAs fuel depth item [] rest
              | .form fields required .skipped => slotsAs fuel depth fields required true [] rest
              | .choice _ => failAhead .expectedValue ('[' :: rest)
              | _ => failAhead .unfit ('[' :: rest)
          | '\x7b' :: rest, 0 => failAhead .tooDeep ('\x7b' :: rest)
          | '\x7b' :: rest, depth + 1 =>
              match shape with
              | .table value => tableAs fuel depth value true [] rest
              | .record fields => fieldsAs fuel depth fields true [] rest
              | .form fields required others =>
                  formAs fuel depth fields required others true [] [] rest
              | .choice names => chosenKey names rest
              | _ => failAhead .unfit ('\x7b' :: rest)
          | s, _ =>
              match shape with
              | .choice names => chosenName names s
              | _ => unfitting s
termination_by structural fuel

def itemsAs (fuel depth : Nat) (item : Shape) (done : List Json) (s : List Char) :
    Reading Json :=
  match fuel with
  | 0 => failHere .endInList s
  | fuel + 1 =>
      match nextItem done.isEmpty s with
      | .error e => .error e
      | .ok (false, rest) => .ok (.list done.reverse, rest)
      | .ok (true, rest) =>
          match valueAs fuel depth item rest with
          | .error e => .error e
          | .ok (v, rest) => itemsAs fuel depth item (v :: done) rest
termination_by structural fuel

def tableAs (fuel depth : Nat) (shape : Shape) (first : Bool) (done : List (String × Json))
    (s : List Char) : Reading Json :=
  match fuel with
  | 0 => failHere .endInObject s
  | fuel + 1 =>
      match nextKey first s with
      | .error e => .error e
      | .ok (none, rest) => .ok (.object done, rest)
      | .ok (some key, rest) =>
          match colon rest with
          | .error e => .error e
          | .ok ((), rest) =>
              match valueAs fuel depth shape rest with
              | .error e => .error e
              | .ok (v, rest) => tableAs fuel depth shape false (putEntry key v done) rest
termination_by structural fuel

def fieldsAs (fuel depth : Nat) (fields : List (String × Shape)) (first : Bool)
    (done : List (String × Json)) (s : List Char) : Reading Json :=
  match fuel with
  | 0 => failHere .endInObject s
  | fuel + 1 =>
      match nextKey first s with
      | .error e => .error e
      | .ok (none, rest) => .ok (.object done, rest)
      | .ok (some key, rest) =>
          match colon rest with
          | .error e => .error e
          | .ok ((), rest) =>
              match fields.lookup key with
              | some shape =>
                  match valueAs fuel depth shape rest with
                  | .error e => .error e
                  | .ok (v, rest) => fieldsAs fuel depth fields false (putEntry key v done) rest
              | none =>
                  match skipValue rest with
                  | .error e => .error e
                  | .ok ((), rest) => fieldsAs fuel depth fields false done rest
termination_by structural fuel

/-- Read the fields of a form, `kept` being the fields it does not name. -/
def formAs (fuel depth : Nat) (fields : List (String × Shape)) (required : List String)
    (others : Others) (first : Bool) (done kept : List (String × Json)) (s : List Char) :
    Reading Json :=
  match fuel with
  | 0 => failHere .endInObject s
  | fuel + 1 =>
      match nextKey first s with
      | .error e => .error e
      | .ok (none, rest) =>
          match completed? required others done kept with
          | some j => .ok (j, rest)
          | none => failHere .unfit rest
      | .ok (some key, rest) =>
          if done.any (·.1 = key) then failHere .unfit rest
          else match colon rest with
            | .error e => .error e
            | .ok ((), rest) =>
                match fields.lookup key with
                | some shape =>
                    match valueAs fuel depth shape rest with
                    | .error e => .error e
                    | .ok (v, rest) =>
                        formAs fuel depth fields required others false (putEntry key v done)
                          kept rest
                | none =>
                    match otherValue others depth rest with
                    | .error e => .error e
                    | .ok (v, rest) =>
                        formAs fuel depth fields required others false done
                          (kept ++ v.toList.map (key, ·)) rest
termination_by structural fuel

/-- Read the values of a form that is written as a list. -/
def slotsAs (fuel depth : Nat) (fields : List (String × Shape)) (required : List String)
    (first : Bool) (done : List (String × Json)) (s : List Char) : Reading Json :=
  match fuel with
  | 0 => failHere .endInList s
  | fuel + 1 =>
      match fields with
      | [] =>
          match listEnd s with
          | .error e => .error e
          | .ok ((), rest) => .ok (.object done, rest)
      | (key, shape) :: fields =>
          match nextItem first s with
          | .error e => .error e
          | .ok (false, rest) =>
              match completed? required .skipped done [] with
              | some j => .ok (j, rest)
              | none => failHere .unfit rest
          | .ok (true, rest) =>
              match valueAs fuel depth shape rest with
              | .error e => .error e
              | .ok (v, rest) =>
                  slotsAs fuel depth fields required false (putEntry key v done) rest
termination_by structural fuel

end

def shaped (shape : Shape) (depth : Nat) (s : List Char) : Reading Json :=
  valueAs (4 * s.length + 8) depth shape s

/-- Read a text by its shape, with nothing but blanks around the value. -/
def readAs (shape : Shape) (text : String) : Except ReadError Json :=
  readWhole (shaped shape depthLimit) text

end Json

end VolumeHandover
