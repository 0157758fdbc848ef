set_option autoImplicit false

/-! # Blank characters and comma-separated lists

A character is blank when it has the Unicode property White_Space: 25 characters, among them
the no-break space and the ideographic space, but neither the zero-width space nor the
byte-order mark. A comma-separated list is read by cutting at every comma, trimming blanks
from both ends of each piece and leaving out what is then empty.
-/

namespace VolumeHandover

/-- The code point ranges of the property White_Space. -/
def blankRanges : List (Nat × Nat) :=
  [(0x9, 0xd), (0x20, 0x20), (0x85, 0x85), (0xa0, 0xa0), (0x1680, 0x1680), (0x2000, 0x200a),
   (0x2028, 0x2029), (0x202f, 0x202f), (0x205f, 0x205f), (0x3000, 0x3000)]

/-- Whether a character lies in one of the given code point ranges, ends included. -/
def inRanges (ranges : List (Nat × Nat)) (c : Char) : Bool :=
  ranges.any fun r => r.1 ≤ c.toNat && c.toNat ≤ r.2

def isBlank (c : Char) : Bool := inRanges blankRanges c

def trimBlanks (s : List Char) : List Char :=
  ((s.dropWhile isBlank).reverse.dropWhile isBlank).reverse

/-- Cut at every occurrence of `separator`; there is always one piece more than there are
separators. -/
def cutAt (separator : Char) : List Char → List (List Char)
  | [] => [[]]
  | c :: rest =>
      if c = separator then [] :: cutAt separator rest
      else match cutAt separator rest with
        | [] => [[c]]
        | piece :: pieces => (c :: piece) :: pieces

/-- The names in a comma-separated list: trimmed pieces, without the empty ones. -/
def listedNames (s : String) : List String :=
  (((cutAt ',' s.toList).map trimBlanks).filter (· ≠ [])).map String.ofList

end VolumeHandover
