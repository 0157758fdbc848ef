import VolumeHandover.Json.Reader

set_option autoImplicit false

/-! # Skipping values

A value that nobody asks for is skipped: its text is followed to its end, but not turned into
anything. So nothing is too deep or too large, and halves of surrogate pairs may stand alone. A
number that stops too early is wrong, and not merely cut.
-/

namespace VolumeHandover

namespace Json

/-- Skip a text up to its closing quote. The fuel bounds the number of characters. -/
def skipText : Nat → List Char → Reading Unit
  | 0, rest => failHere .endInText rest
  | _ + 1, [] => failHere .endInText []
  | fuel + 1, c :: rest =>
      if c = '"' then .ok ((), rest)
      else if c = '\\' then
        match rest with
        | 'u' :: rest =>
            match hexFour rest with
            | .ok (_, rest) => skipText fuel rest
            | .error e => .error e
        | rest =>
            match escape rest with
            | .ok (_, rest) => skipText fuel rest
            | .error e => .error e
      else if c.toNat < 32 then failAhead .controlCharacter (c :: rest)
      else skipText fuel rest

def skipExponent (s : List Char) : Reading Unit :=
  let s := match s with
    | '+' :: s => s
    | '-' :: s => s
    | s => s
  match s with
  | [] => failHere .badNumber []
  | c :: rest =>
      if c.isDigit then .ok ((), rest.dropWhile Char.isDigit) else failAhead .badNumber (c :: rest)

def skipNumberTail : List Char → Reading Unit
  | '.' :: rest =>
      let after := rest.dropWhile Char.isDigit
      if after.length = rest.length then failAhead .badNumber after
      else match after with
        | 'e' :: after => skipExponent after
        | 'E' :: after => skipExponent after
        | after => .ok ((), after)
  | 'e' :: rest => skipExponent rest
  | 'E' :: rest => skipExponent rest
  | rest => .ok ((), rest)

def skipNumber : List Char → Reading Unit
  | [] => failHere .badNumber []
  | '0' :: rest =>
      match rest with
      | c :: _ => if c.isDigit then failAhead .badNumber rest else skipNumberTail rest
      | [] => .ok ((), [])
  | c :: rest =>
      if c.isDigit then skipNumberTail (rest.dropWhile Char.isDigit)
      else failAhead .badNumber (c :: rest)

def skipScalar (c : Char) (rest : List Char) : Reading Unit :=
  let wordEnd (letters : List Char) : Reading Unit :=
    match word .null letters rest with
    | .ok (_, rest) => .ok ((), rest)
    | .error e => .error e
  if c = 'n' then wordEnd ['u', 'l', 'l']
  else if c = 't' then wordEnd ['r', 'u', 'e']
  else if c = 'f' then wordEnd ['a', 'l', 's', 'e']
  else if c = '-' then skipNumber rest
  else if c.isDigit then skipNumber (c :: rest)
  else if c = '"' then skipText (rest.length + 1) rest
  else failAhead .expectedValue (c :: rest)

/-- Skip the key of a field, if there is one in front, up to behind its colon. -/
def skipKey (s : List Char) : Reading Unit :=
  match skipSpace s with
  | [] => failAhead .endInObject []
  | '"' :: rest =>
      match skipText (rest.length + 1) rest with
      | .error e => .error e
      | .ok ((), rest) =>
          match skipSpace rest with
          | ':' :: rest => .ok ((), rest)
          | [] => failAhead .endInObject []
          | rest => failAhead .expectedColon rest
  | rest => failAhead .keyNotText rest

inductive Bracket where
  | list | object
deriving DecidableEq, Inhabited, Repr

def Bracket.endFault : Bracket → Fault
  | .list => .endInList
  | .object => .endInObject

/-- The fault of an item that is followed by neither a comma nor the end of the bracket. -/
def Bracket.commaFault : Bracket → Fault
  | .list => .expectedListEnd
  | .object => .expectedObjectEnd

def Bracket.closing : Bracket → Char
  | .list => ']'
  | .object => '\x7d'

/-- What comes next while a value is skipped. -/
inductive SkipPlace where
  | value
  /-- The first item of the innermost bracket, or its end. -/
  | opened
  /-- A comma, or the end of the innermost bracket. -/
  | behind
deriving DecidableEq, Inhabited, Repr

/-- Skip up to the end of the outermost of the brackets that are open, which are listed from
the innermost one on; `fuel` bounds the number of steps. -/
def skipFrom (fuel : Nat) (place : SkipPlace) (brackets : List Bracket) (s : List Char) :
    Reading Unit :=
  match fuel with
  | 0 => failHere .endInValue s
  | fuel + 1 =>
      match place, brackets with
      | .value, brackets =>
          match skipSpace s with
          | [] => failAhead .endInValue []
          | '[' :: rest => skipFrom fuel .opened (.list :: brackets) rest
          | '\x7b' :: rest => skipFrom fuel .opened (.object :: brackets) rest
          | c :: rest =>
              match skipScalar c rest with
              | .error e => .error e
              | .ok ((), rest) => skipFrom fuel .behind brackets rest
      | _, [] => .ok ((), s)
      | place, bracket :: outer =>
          match skipSpace s with
          | [] => failAhead bracket.endFault []
          | c :: rest =>
              if c = bracket.closing then skipFrom fuel .behind outer rest
              else if place = .behind && c ≠ ',' then failAhead bracket.commaFault (c :: rest)
              else
                let item := if place = .behind then rest else c :: rest
                match bracket with
                | .list => skipFrom fuel .value brackets item
                | .object =>
                    match skipKey item with
                    | .error e => .error e
                    | .ok ((), rest) => skipFrom fuel .value brackets rest

def skipValue (s : List Char) : Reading Unit := skipFrom (2 * s.length + 2) .value [] s

end Json

end VolumeHandover
