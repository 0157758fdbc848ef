import VolumeHandover.Object.Field
import VolumeHandover.Text.Blank

set_option autoImplicit false

/-! # Moments

A moment is a second of the common calendar, in universal time. Its written form is
`YYYY-MM-DDTHH:MM:SSZ`; a year that is not of four digits has a sign. The second 60 stands for
a leap second, which any minute may have.

Moments are read more freely: leading zeros may be left out, a blank or a small letter may
stand for the `T`, blanks are allowed around the parts, fractions of a second are dropped, and
the distance from universal time may be given as `±HH:MM`, with or without the colon.
-/

namespace VolumeHandover

/-- Year, month, day and time of day, which need not be there in the calendar. -/
structure CivilTime where
  year : Int
  month : Nat
  day : Nat
  hour : Nat
  minute : Nat
  second : Nat
deriving DecidableEq, Inhabited, Repr

namespace CivilTime

/-! ## The calendar -/

def daysInMonth (year : Int) (month : Nat) : Nat :=
  if month = 2 then
    if year % 4 = 0 && (year % 100 ≠ 0 || year % 400 = 0) then 29 else 28
  else if month = 4 || month = 6 || month = 9 || month = 11 then 30
  else 31

/-- Whether there is such a second. The calendar has about 262,000 years before and behind the
year zero. -/
def isValid (m : CivilTime) : Bool :=
  -262143 ≤ m.year && m.year ≤ 262142 && 1 ≤ m.month && m.month ≤ 12 && 1 ≤ m.day &&
    m.day ≤ daysInMonth m.year m.month && m.hour ≤ 23 && m.minute ≤ 59 && m.second ≤ 60

def dayBefore (m : CivilTime) : CivilTime :=
  if 1 < m.day then { m with day := m.day - 1 }
  else if 1 < m.month then
    { m with month := m.month - 1, day := daysInMonth m.year (m.month - 1) }
  else { m with year := m.year - 1, month := 12, day := 31 }

def dayAfter (m : CivilTime) : CivilTime :=
  if m.day < daysInMonth m.year m.month then { m with day := m.day + 1 }
  else if m.month < 12 then { m with month := m.month + 1, day := 1 }
  else { m with year := m.year + 1, month := 1, day := 1 }

/-- The time that lies `minutes`, which are less than a day, before this one. -/
def earlier (m : CivilTime) (minutes : Int) : CivilTime :=
  let time := Int.ofNat (m.hour * 60 + m.minute) - minutes
  let m :=
    if time < 0 then m.dayBefore else if 1440 ≤ time then m.dayAfter else m
  let time := (time % 1440).toNat
  { m with hour := time / 60, minute := time % 60 }

/-! ## Writing -/

/-- A number of at least `places` digits. -/
def padded (places n : Nat) : String :=
  let digits := Nat.toDigits 10 n
  String.ofList (List.replicate (places - digits.length) '0' ++ digits)

def yearText (year : Int) : String :=
  let digits := padded 4 year.natAbs
  if year < 0 then "-" ++ digits else if 9999 < year then "+" ++ digits else digits

def text (m : CivilTime) : String :=
  yearText m.year ++ "-" ++ padded 2 m.month ++ "-" ++ padded 2 m.day ++ "T" ++
    padded 2 m.hour ++ ":" ++ padded 2 m.minute ++ ":" ++ padded 2 m.second ++ "Z"

end CivilTime

/-- A second of the calendar. -/
structure Moment where
  civil : CivilTime
  valid : civil.isValid = true
deriving DecidableEq, Repr

namespace Moment

def text (m : Moment) : String := m.civil.text

/-- The moment of the given year, month, day and time of day, if there is one. -/
def ofCivil? (c : CivilTime) : Option Moment :=
  if h : c.isValid = true then some ⟨c, h⟩ else none

/-! ## Reading -/

def skipBlanks (s : List Char) : List Char := s.dropWhile isBlank

/-- Read a number from the digits in front, of which there is at least one; at most `most`
are taken. -/
def digits? (most : Nat) (s : List Char) : Option (Nat × List Char) :=
  match (s.takeWhile Char.isDigit).take most with
  | [] => none
  | run => some (Nat.ofDigitChars 10 run 0, s.drop run.length)

/-- Read a number of at most two digits, which may have blanks in front. -/
def part? (s : List Char) : Option (Nat × List Char) := digits? 2 (skipBlanks s)

/-- Read a year. Only a year with a sign may have more than four digits. -/
def year? (s : List Char) : Option (Int × List Char) :=
  match skipBlanks s with
  | '-' :: rest => (digits? rest.length rest).map fun (n, rest) => (-Int.ofNat n, rest)
  | '+' :: rest => (digits? rest.length rest).map fun (n, rest) => (Int.ofNat n, rest)
  | s => (digits? 4 s).map fun (n, rest) => (Int.ofNat n, rest)

/-- Pass a character, which may have blanks in front. -/
def mark? (c : Char) (s : List Char) : Option (List Char) :=
  match skipBlanks s with
  | d :: rest => if d = c then some rest else none
  | [] => none

def fraction? : List Char → Option (List Char)
  | '.' :: rest => (digits? rest.length rest).map (·.2)
  | s => some s

def twoDigits? : List Char → Option (Nat × List Char)
  | a :: b :: rest =>
      if a.isDigit && b.isDigit then
        some ((a.toNat - '0'.toNat) * 10 + (b.toNat - '0'.toNat), rest)
      else none
  | _ => none

/-- Read a distance from universal time, in minutes, behind its sign. -/
def distance? (s : List Char) : Option (Nat × List Char) := do
  let (hours, rest) ← twoDigits? s
  let (minutes, rest) ← twoDigits? (rest.dropWhile fun c => c = ':' || isBlank c)
  if hours ≤ 23 && minutes ≤ 59 then some (hours * 60 + minutes, rest) else none

/-- Read the distance of a zone from universal time, in minutes. -/
def zone? (s : List Char) : Option (Int × List Char) :=
  match s with
  | c :: rest =>
      if c = 'Z' || c = 'z' then some (0, rest)
      else if (s.take 3).map Char.toUpper = ['U', 'T', 'C'] then some (0, s.drop 3)
      else if c = '+' then (distance? rest).map fun (n, rest) => (Int.ofNat n, rest)
      else if c = '-' || c = '−' then (distance? rest).map fun (n, rest) => (-Int.ofNat n, rest)
      else none
  | [] => none

def read? (s : String) : Option Moment := do
  let (year, rest) ← year? s.toList
  let (month, rest) ← part? (← mark? '-' rest)
  let (day, rest) ← part? (← mark? '-' rest)
  let rest ← match rest with
    | c :: rest => if c = 'T' || c = 't' || c = ' ' then some rest else none
    | [] => none
  let (hour, rest) ← part? rest
  let (minute, rest) ← part? (← mark? ':' rest)
  let (second, rest) ← part? (← mark? ':' rest)
  let (distance, rest) ← zone? (skipBlanks (← fraction? rest))
  let there : CivilTime := { year, month, day, hour, minute, second }
  if (skipBlanks rest).isEmpty && there.isValid then ofCivil? (there.earlier distance) else none

def format : Format Moment where
  shape := .text fun s => (read? s).isSome
  ofJson? j := j.asText.bind read?

end Moment

end VolumeHandover
