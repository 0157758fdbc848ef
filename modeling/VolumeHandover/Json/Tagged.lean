import VolumeHandover.Json.Shape

set_option autoImplicit false

/-! # Tagged values

A tagged value is an object with two fields: a tag, which is one of some names, and a content
whose shape hangs on the tag. It may also be written as the list of the two. The fields may
stand in any order; a content in front of its tag has to be a value in every part, as it is not
yet known which parts matter. Other fields are skipped.

As a field the tag is a choice, which has two spellings; in a list it is a plain text.
-/

namespace VolumeHandover

namespace Json

/-- The keys of a tagged value, and the tags with the shapes of their contents. -/
structure Tagging where
  tag : String
  content : String
  shapes : List (String × Shape)

namespace Tagging

variable (t : Tagging)

/-- Skip fields up to the next one that has one of the two keys; nothing at the end of the
object. -/
def relevantKey (fuel : Nat) (first : Bool) (s : List Char) : Reading (Option String) :=
  match fuel with
  | 0 => failHere .endInObject s
  | fuel + 1 =>
      match nextKey first s with
      | .error e => .error e
      | .ok (none, rest) => .ok (none, rest)
      | .ok (some key, rest) =>
          if key = t.tag || key = t.content then .ok (some key, rest)
          else match colon rest with
            | .error e => .error e
            | .ok ((), rest) =>
                match skipValue rest with
                | .error e => .error e
                | .ok ((), rest) => relevantKey fuel false rest

/-- Pass the key of a field that is expected next, and its colon. -/
def expectKey (key : String) (first : Bool) (s : List Char) : Reading Unit :=
  match t.relevantKey (s.length + 1) first s with
  | .error e => .error e
  | .ok (found, rest) => if found = some key then colon rest else failHere .unfit rest

/-- Pass the end of the object, before which neither key may come again. -/
def objectEnd (s : List Char) : Reading Unit :=
  match t.relevantKey (s.length + 1) false s with
  | .error e => .error e
  | .ok (none, rest) => .ok ((), rest)
  | .ok (some _, rest) => failHere .unfit rest

def tags : List String := t.shapes.map (·.1)

def readTag (depth : Nat) (s : List Char) : Reading String :=
  match shaped (.choice t.tags) depth s with
  | .error e => .error e
  | .ok (.text tag, rest) => .ok (tag, rest)
  | .ok (_, rest) => failHere .unfit rest

def readContent (tag : String) (depth : Nat) (s : List Char) : Reading Json :=
  match t.shapes.lookup tag with
  | some shape => shaped shape depth s
  | none => failHere .unfit s

abbrev Found := Except FaultAt ((String × Json) × List Char)

/-- Read a tagged value, behind the brace and the key of the tag. -/
def tagFirst (depth : Nat) (s : List Char) : Found := do
  let (tag, rest) ← t.readTag depth s
  let ((), rest) ← t.expectKey t.content false rest
  let (content, rest) ← t.readContent tag depth rest
  let ((), rest) ← t.objectEnd rest
  return ((tag, content), rest)

/-- Read a tagged value, behind the brace and the key of the content. -/
def contentFirst (depth : Nat) (s : List Char) : Found := do
  let (_, rest) ← anyValue depth s
  let ((), rest) ← t.expectKey t.tag false rest
  let (tag, rest) ← t.readTag depth rest
  let (content, _) ← t.readContent tag depth s
  let ((), rest) ← t.objectEnd rest
  return ((tag, content), rest)

/-- Read a tagged value that is written as an object, behind the brace. -/
def inObject (depth : Nat) (s : List Char) : Found := do
  let (key, rest) ← t.relevantKey (s.length + 1) true s
  match key with
  | none => failHere .unfit rest
  | some key =>
      let ((), rest) ← colon rest
      if key = t.tag then t.tagFirst depth rest else t.contentFirst depth rest

/-- Read a tagged value that is written as a list, behind the bracket. -/
def inList (depth : Nat) (s : List Char) : Found := do
  let (more, rest) ← nextItem true s
  if !more then failHere .unfit rest
  else
    let (tag, rest) ← fittingText (t.tags.contains ·) rest
    let (more, rest) ← nextItem false rest
    if !more then failHere .unfit rest
    else
      let (content, rest) ← t.readContent tag depth rest
      let ((), rest) ← listEnd rest
      return ((tag, content), rest)

/-- Read a tagged value, at most `depth + 1` levels being allowed. -/
def reader (depth : Nat) (s : List Char) : Found :=
  match skipSpace s with
  | '\x7b' :: rest => t.inObject depth rest
  | '[' :: rest => t.inList depth rest
  | s => unfitting s

/-- Read a text as a tag with its content, with nothing but blanks around. -/
def read (text : String) : Except ReadError (String × Json) :=
  readWhole (t.reader (depthLimit - 1)) text

end Tagging

end Json

end VolumeHandover
