import VolumeHandover.Text.Blank
import VolumeHandover.Text.CaseTable

set_option autoImplicit false

/-! # Lower case

`lowercase` maps a text to lower case by the full Unicode mapping. Two characters are
special: `İ` becomes `i` with a combining dot above, and `Σ` becomes `ς` at the end of a word
and `σ` elsewhere. A sigma ends a word when, case-ignorable characters aside, a cased
character stands before it and none stands after it.
-/

namespace VolumeHandover

/-- Whether the first character that is not case-ignorable is cased. -/
def startsCased (s : List Char) : Bool :=
  match s.dropWhile (inRanges caseIgnorableRanges) with
  | [] => false
  | c :: _ => inRanges casedRanges c

/-- The lower-case form of a character other than `İ` and `Σ`. -/
def lowerChar (c : Char) : Char :=
  if c.toNat < 128 then c.toLower
  else match lowercaseRuns.find? fun (first, last, step, _) =>
      first ≤ c.toNat && c.toNat ≤ last && (c.toNat - first) % step = 0 with
    | some (_, _, _, shift) => Char.ofNat (c.toNat + shift).toNat
    | none => c

/-- Map the characters `s` to lower case, `before` being those already passed, last first. -/
def lowerChars (before : List Char) : List Char → List Char
  | [] => []
  | c :: rest =>
      let mapped :=
        if c = 'Σ' then [if startsCased before && !startsCased rest then 'ς' else 'σ']
        else if c = 'İ' then ['i', '\u0307']
        else [lowerChar c]
      mapped ++ lowerChars (c :: before) rest

def lowercase (s : String) : String := String.ofList (lowerChars [] s.toList)

end VolumeHandover
