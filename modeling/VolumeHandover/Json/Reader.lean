import VolumeHandover.Json.Value

set_option autoImplicit false

/-! # Reading JSON

`Json.read` reads a text as one JSON value. A text that is none yields a `ReadError`: what was
found wrong and where, by line and by column in bytes. The reader looks at one character at a
time, so a text that merely stops too early is told apart from one that no continuation could
mend (`Fault.isEnd`). Of two fields of one key the later counts.

Of the digits of a number only those count that fit into 64 bits; the others are taken for
zeros.
-/

namespace VolumeHandover

namespace Json

inductive Fault where
  | endInList | endInObject | endInText | endInValue
  | expectedColon | expectedListEnd | expectedObjectEnd | expectedWord | expectedValue
  | badEscape | badNumber | numberTooLarge | controlCharacter | keyNotText
  | loneSurrogate | brokenPair | trailingComma | trailingText | tooDeep
  | unfit
deriving DecidableEq, Repr, Inhabited

def Fault.isEnd : Fault → Bool
  | .endInList | .endInObject | .endInText | .endInValue => true
  | _ => false

def Fault.message : Fault → String
  | .endInList => "EOF while parsing a list"
  | .endInObject => "EOF while parsing an object"
  | .endInText => "EOF while parsing a string"
  | .endInValue => "EOF while parsing a value"
  | .expectedColon => "expected \x60:\x60"
  | .expectedListEnd => "expected \x60,\x60 or \x60]\x60"
  | .expectedObjectEnd => "expected \x60,\x60 or \x60\x7d\x60"
  | .expectedWord => "expected ident"
  | .expectedValue => "expected value"
  | .badEscape => "invalid escape"
  | .badNumber => "invalid number"
  | .numberTooLarge => "number out of range"
  | .controlCharacter =>
      "control character (\\u0000-\\u001F) found while parsing a string"
  | .keyNotText => "key must be a string"
  | .loneSurrogate => "lone leading surrogate in hex escape"
  | .brokenPair => "unexpected end of hex escape"
  | .trailingComma => "trailing comma"
  | .trailingText => "trailing characters"
  | .tooDeep => "recursion limit exceeded"
  | .unfit => "unexpected value"

/-- A fault `past` bytes behind the end of what was read, the characters `rest` being left. -/
structure FaultAt where
  fault : Fault
  rest : List Char
  past : Nat

/-- The result of reading: what was read and the characters left, or a fault. -/
abbrev Reading (α : Type) := Except FaultAt (α × List Char)

/-- Fail behind the characters read so far. -/
def failHere {α : Type} (fault : Fault) (rest : List Char) : Reading α :=
  .error ⟨fault, rest, 0⟩

/-- Fail behind the next byte, be it the whole of a character or not. -/
def failAhead {α : Type} (fault : Fault) (rest : List Char) : Reading α :=
  .error ⟨fault, rest, 1⟩

def isSpace (c : Char) : Bool := c = ' ' || c = '\n' || c = '\t' || c = '\r'

def skipSpace (s : List Char) : List Char := s.dropWhile isSpace

def word (value : Json) : List Char → List Char → Reading Json
  | [], rest => .ok (value, rest)
  | _ :: _, [] => failHere .endInValue []
  | w :: ws, c :: rest => if c = w then word value ws rest else failAhead .expectedWord (c :: rest)

def hexValue? (c : Char) : Option Nat :=
  if '0' ≤ c && c ≤ '9' then some (c.toNat - '0'.toNat)
  else if 'a' ≤ c && c ≤ 'f' then some (c.toNat - 'a'.toNat + 10)
  else if 'A' ≤ c && c ≤ 'F' then some (c.toNat - 'A'.toNat + 10)
  else none

def failBehind {α : Type} (fault : Fault) : Nat → List Char → Reading α
  | bytes, [] => .error ⟨fault, [], bytes⟩
  | bytes, c :: rest =>
      if c.utf8Size ≤ bytes then failBehind fault (bytes - c.utf8Size) rest
      else .error ⟨fault, c :: rest, bytes⟩

/-- Four hexadecimal digits as a number. It shows that there are none when four bytes do. -/
def hexFour (s : List Char) : Reading Nat :=
  match s with
  | a :: b :: c :: d :: rest =>
      match hexValue? a, hexValue? b, hexValue? c, hexValue? d with
      | some a, some b, some c, some d => .ok (((a * 16 + b) * 16 + c) * 16 + d, rest)
      | _, _, _, _ => failBehind .badEscape 4 s
  | _ =>
      if 4 ≤ s.foldl (fun n c => n + c.utf8Size) 0 then failBehind .badEscape 4 s
      else failHere .endInText []

/-- The character of a surrogate pair, its first half `high` being read. -/
def lowSurrogate (high : Nat) (s : List Char) : Reading Char :=
  match hexFour s with
  | .error e => .error e
  | .ok (low, rest) =>
      if low < 0xdc00 || 0xdfff < low then failHere .loneSurrogate rest
      else .ok (Char.ofNat (0x10000 + (high - 0xd800) * 0x400 + (low - 0xdc00)), rest)

/-- The character of an escape after the backslash and the letter `u`; a pair of surrogates
stands for one character. -/
def unicodeEscape (s : List Char) : Reading Char :=
  match hexFour s with
  | .error e => .error e
  | .ok (n, rest) =>
      if 0xdc00 ≤ n && n ≤ 0xdfff then failHere .loneSurrogate rest
      else if n < 0xd800 || 0xdfff < n then .ok (Char.ofNat n, rest)
      else match rest with
        | [] => failHere .endInText []
        | '\\' :: 'u' :: rest => lowSurrogate n rest
        | '\\' :: [] => failHere .endInText []
        | '\\' :: rest => failAhead .brokenPair rest
        | rest => failAhead .brokenPair rest

def escape : List Char → Reading Char
  | [] => failHere .endInText []
  | '"' :: rest => .ok ('"', rest)
  | '\\' :: rest => .ok ('\\', rest)
  | '/' :: rest => .ok ('/', rest)
  | 'b' :: rest => .ok ('\x08', rest)
  | 'f' :: rest => .ok ('\x0c', rest)
  | 'n' :: rest => .ok ('\n', rest)
  | 'r' :: rest => .ok ('\r', rest)
  | 't' :: rest => .ok ('\t', rest)
  | 'u' :: rest => unicodeEscape rest
  | rest => failAhead .badEscape rest

/-- The characters of a text up to its closing quote, collected last first. The fuel bounds
the number of characters. -/
def textBody : Nat → List Char → List Char → Reading String
  | 0, _, rest => failHere .endInText rest
  | _ + 1, _, [] => failHere .endInText []
  | fuel + 1, done, c :: rest =>
      if c = '"' then .ok (String.ofList done.reverse, rest)
      else if c = '\\' then
        match escape rest with
        | .ok (e, rest) => textBody fuel (e :: done) rest
        | .error e => .error e
      else if c.toNat < 32 then failAhead .controlCharacter (c :: rest)
      else textBody fuel (c :: done) rest

/-- Put decimal digits behind a number as long as it stays below `bound`: the number, and how
many digits are left. -/
def absorb (bound n : Nat) : List Char → Nat × Nat
  | [] => (n, 0)
  | c :: rest =>
      let next := n * 10 + (c.toNat - '0'.toNat)
      if next < bound then absorb bound next rest else (n, rest.length + 1)

def absorbDigits (n : Nat) (digits : List Char) : Nat × Nat := absorb (Nat.pow 2 64) n digits

def realNumber (negative : Bool) (digits : Nat) (exponent : Int) (rest : List Char) :
    Reading Json :=
  match Double.ofDecimal? digits exponent with
  | some x => .ok (.real (x.withSign negative), rest)
  | none => failHere .numberTooLarge rest

/-- The exponent of a number, after its letter. One of more than 31 bits makes the number too
large or zero. -/
def exponentPart (negative : Bool) (digits : Nat) (scale : Int) (s : List Char) :
    Reading Json :=
  let (down, s) := match s with
    | '+' :: s => (false, s)
    | '-' :: s => (true, s)
    | s => (false, s)
  match s with
  | [] => failHere .endInValue []
  | c :: _ =>
      if c.isDigit then
        let run := s.takeWhile Char.isDigit
        let after := s.dropWhile Char.isDigit
        match absorb (Nat.pow 2 31) 0 run with
        | (e, 0) =>
            let e := Int.ofNat e
            realNumber negative digits (if down then scale - e else scale + e) after
        | (_, left + 1) =>
            if digits ≠ 0 && !down then failHere .numberTooLarge (s.drop (run.length - left))
            else .ok (.real ((Double.ofNat 0).withSign negative), after)
      else failAhead .badNumber s

/-- The part of a number that follows its whole digits, of which `left` are not among
`digits`. -/
def numberTail (negative : Bool) (digits left : Nat) : List Char → Reading Json
  | '.' :: rest =>
      let decimals := rest.takeWhile Char.isDigit
      let after := rest.dropWhile Char.isDigit
      if decimals.isEmpty then
        match after with
        | [] => failAhead .endInValue []
        | _ => failAhead .badNumber after
      else
        let (digits, dropped) := absorbDigits digits decimals
        let scale := Int.ofNat left - Int.ofNat (decimals.length - dropped)
        match after with
        | 'e' :: after => exponentPart negative digits scale after
        | 'E' :: after => exponentPart negative digits scale after
        | after => realNumber negative digits scale after
  | 'e' :: rest => exponentPart negative digits (Int.ofNat left) rest
  | 'E' :: rest => exponentPart negative digits (Int.ofNat left) rest
  | rest =>
      if 0 < left then realNumber negative digits (Int.ofNat left) rest
      else if !negative then .ok (.int (Int.ofNat digits), rest)
      else if 0 < digits && digits ≤ Nat.pow 2 63 then .ok (.int (-Int.ofNat digits), rest)
      else realNumber negative digits 0 rest

def number (negative : Bool) : List Char → Reading Json
  | [] => failHere .endInValue []
  | '0' :: rest =>
      match rest with
      | c :: _ => if c.isDigit then failAhead .badNumber rest else numberTail negative 0 0 rest
      | [] => numberTail negative 0 0 []
  | c :: rest =>
      if c.isDigit then
        let (digits, left) := absorbDigits 0 ((c :: rest).takeWhile Char.isDigit)
        numberTail negative digits left (rest.dropWhile Char.isDigit)
      else failAhead .badNumber (c :: rest)

/-- How deep lists and objects may stand inside each other. -/
def depthLimit : Nat := 127

/-- Whether another item of a list follows, up to which the comma and the blanks are passed;
if not, the end of the list is passed. -/
def nextItem (first : Bool) (s : List Char) : Reading Bool :=
  match skipSpace s with
  | [] => failAhead .endInList []
  | ']' :: rest => .ok (false, rest)
  | c :: rest =>
      if first then .ok (true, c :: rest)
      else if c = ',' then
        match skipSpace rest with
        | [] => failAhead .endInValue []
        | ']' :: rest => failAhead .trailingComma (']' :: rest)
        | rest => .ok (true, rest)
      else failAhead .expectedListEnd (c :: rest)

/-- Read the key of the next field of an object, if another one follows; if not, the end of
the object is passed. -/
def nextKey (first : Bool) (s : List Char) : Reading (Option String) :=
  let key (rest : List Char) : Reading (Option String) :=
    match textBody (rest.length + 1) [] rest with
    | .error e => .error e
    | .ok (key, rest) => .ok (some key, rest)
  match skipSpace s with
  | [] => failAhead .endInObject []
  | '\x7d' :: rest => .ok (none, rest)
  | c :: rest =>
      if first then if c = '"' then key rest else failAhead .keyNotText (c :: rest)
      else if c = ',' then
        match skipSpace rest with
        | [] => failAhead .endInValue []
        | '"' :: rest => key rest
        | '\x7d' :: rest => failAhead .trailingComma ('\x7d' :: rest)
        | rest => failAhead .keyNotText rest
      else failAhead .expectedObjectEnd (c :: rest)

def colon (s : List Char) : Reading Unit :=
  match skipSpace s with
  | ':' :: rest => .ok ((), rest)
  | [] => failAhead .endInObject []
  | rest => failAhead .expectedColon rest

mutual

/-- Read a value; `fuel` bounds the number of steps and `depth` the levels still allowed. -/
def value (fuel depth : Nat) (s : List Char) : Reading Json :=
  match fuel with
  | 0 => failHere .endInValue s
  | fuel + 1 =>
      match skipSpace s with
      | [] => failAhead .endInValue []
      | c :: rest =>
          if c = 'n' then word .null ['u', 'l', 'l'] rest
          else if c = 't' then word (.bool true) ['r', 'u', 'e'] rest
          else if c = 'f' then word (.bool false) ['a', 'l', 's', 'e'] rest
          else if c = '-' then number true rest
          else if c.isDigit then number false (c :: rest)
          else if c = '"' then
            match textBody (rest.length + 1) [] rest with
            | .error e => .error e
            | .ok (t, rest) => .ok (.text t, rest)
          else if c = '[' then
            match depth with
            | 0 => failAhead .tooDeep (c :: rest)
            | depth + 1 => listItems fuel depth [] rest
          else if c = '\x7b' then
            match depth with
            | 0 => failAhead .tooDeep (c :: rest)
            | depth + 1 => objectFields fuel depth true [] rest
          else failAhead .expectedValue (c :: rest)
termination_by structural fuel

/-- Read the items of a list up to its end, `done` being those read, last first. -/
def listItems (fuel depth : Nat) (done : List Json) (s : List Char) : Reading Json :=
  match fuel with
  | 0 => failHere .endInList s
  | fuel + 1 =>
      match nextItem done.isEmpty s with
      | .error e => .error e
      | .ok (false, rest) => .ok (.list done.reverse, rest)
      | .ok (true, rest) =>
          match value fuel depth rest with
          | .error e => .error e
          | .ok (item, rest) => listItems fuel depth (item :: done) rest
termination_by structural fuel

/-- Read the fields of an object up to its end; `first` before the first field. -/
def objectFields (fuel depth : Nat) (first : Bool) (done : List (String × Json))
    (s : List Char) : Reading Json :=
  match fuel with
  | 0 => failHere .endInObject s
  | fuel + 1 =>
      match nextKey first s with
      | .error e => .error e
      | .ok (none, rest) => .ok (.object done, rest)
      | .ok (some key, rest) =>
          match colon rest with
          | .error e => .error e
          | .ok ((), rest) =>
              match value fuel depth rest with
              | .error e => .error e
              | .ok (v, rest) => objectFields fuel depth false (putEntry key v done) rest
termination_by structural fuel

end

def anyValue (depth : Nat) (s : List Char) : Reading Json := value (2 * s.length + 2) depth s

/-- A fault with its place in the text: lines from one on, columns in bytes. -/
structure ReadError where
  fault : Fault
  line : Nat
  column : Nat
deriving DecidableEq, Repr, Inhabited

def ReadError.message (e : ReadError) : String :=
  e.fault.message ++ " at line " ++ toString e.line ++ " column " ++ toString e.column

def place (passed : List Char) : Nat × Nat :=
  passed.foldl (fun (line, column) c =>
    if c = '\n' then (line + 1, 0) else (line, column + c.utf8Size)) (1, 0)

def FaultAt.locate (f : FaultAt) (s : List Char) : ReadError :=
  let (line, column) := place (s.take (s.length - f.rest.length))
  match f.past, f.rest with
  | _, [] => ⟨f.fault, line, column⟩
  | _ + 1, '\n' :: _ => ⟨f.fault, line + 1, 0⟩
  | past, _ :: _ => ⟨f.fault, line, column + past⟩

/-- Read a text to its end, with nothing but blanks behind what is read. -/
def readWhole {α : Type} (reader : List Char → Reading α) (text : String) :
    Except ReadError α :=
  let s := text.toList
  match reader s with
  | .error f => .error (f.locate s)
  | .ok (a, rest) =>
      match skipSpace rest with
      | [] => .ok a
      | rest => .error (FaultAt.locate ⟨.trailingText, rest, 1⟩ s)

/-- Read a text as one value, with nothing but blanks around it. -/
def read (text : String) : Except ReadError Json := readWhole (anyValue depthLimit) text

def read? (text : String) : Option Json := (read text).toOption

end Json

end VolumeHandover
