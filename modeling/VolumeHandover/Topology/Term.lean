set_option autoImplicit false

/-! # Topology terms

A segment says that a label has a value; a term is a conjunction of segments. Terms are meant
to be kept in order of key, then value: `Term.subset` decides inclusion by one linear merge,
which relies on that order in both terms and does not check it.
-/

namespace VolumeHandover

structure Segment where
  key : String
  value : String
deriving DecidableEq, Inhabited, Repr

namespace Segment

/-- The order of segments: by key, then by value. -/
def compare (a b : Segment) : Ordering :=
  (Ord.compare a.key b.key).then (Ord.compare a.value b.value)

def le (a b : Segment) : Bool := a.compare b != .gt

def text (s : Segment) : String := s.key ++ "=" ++ s.value

/-- Put a segment into a list before the first one that is not smaller. -/
def insertInto (s : Segment) : List Segment → List Segment
  | [] => [s]
  | head :: rest => if s.le head then s :: head :: rest else head :: insertInto s rest

/-- Put segments in order, keeping repetitions. -/
def inOrder (segments : List Segment) : List Segment := segments.foldr insertInto []

/-- Compare lists of segments one by one; a list comes before its continuations. -/
def compareLists : List Segment → List Segment → Ordering
  | [], [] => .eq
  | [], _ :: _ => .lt
  | _ :: _, [] => .gt
  | a :: as, b :: bs => (a.compare b).then (compareLists as bs)

end Segment

/-- A conjunction of segments. -/
structure Term where
  segments : List Segment
deriving DecidableEq, Inhabited, Repr

namespace Term

def empty : Term := ⟨[]⟩

/-- The term of the given keys and values, in order. -/
def ofPairs (pairs : List (String × String)) : Term :=
  ⟨Segment.inOrder (pairs.map fun (key, value) => ⟨key, value⟩)⟩

def push (t : Term) (s : Segment) : Term := ⟨t.segments ++ [s]⟩

def size (t : Term) : Nat := t.segments.length

def sort (t : Term) : Term := ⟨Segment.inOrder t.segments⟩

/-- The order of terms: the shorter first, else segment by segment. -/
def compare (a b : Term) : Ordering :=
  (Ord.compare a.size b.size).then (Segment.compareLists a.segments b.segments)

/-- Merge the segments that are sought into those at hand: a segment with another key is
passed over, one with the same key and another value ends the search. -/
def foundIn : List Segment → List Segment → Bool
  | [], _ => true
  | _ :: _, [] => false
  | a :: as, b :: bs =>
      if a.key ≠ b.key then foundIn (a :: as) bs
      else if a.value ≠ b.value then false
      else foundIn as bs

/-- Whether every segment of `a` stands in `b`, both being in order. -/
def subset (a b : Term) : Bool := foundIn a.segments b.segments

/-- The text of a term: its segments in braces, separated by commas. -/
def text (t : Term) : String :=
  "\x7b" ++ ",".intercalate (t.segments.map Segment.text) ++ "\x7d"

/-- The term as a map from keys to values; of two segments with one key the later counts. -/
def pairs (t : Term) : List (String × String) := t.segments.map fun s => (s.key, s.value)

end Term

end VolumeHandover
