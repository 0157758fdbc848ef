import VolumeHandover.Json.Value
import VolumeHandover.Decimal.Shortest
import VolumeHandover.Text.Quoted

set_option autoImplicit false

/-! # Writing JSON

The compact text of a JSON value: no blanks, a text with only those characters escaped that
must be, and a number that is no integer in the shortest form that reads back.
-/

namespace VolumeHandover

namespace Json

/-- A character inside the quotes of a JSON text. -/
def escapedChar (c : Char) : List Char :=
  if c = '"' then ['\\', '"']
  else if c = '\\' then ['\\', '\\']
  else if c = '\n' then ['\\', 'n']
  else if c = '\r' then ['\\', 'r']
  else if c = '\t' then ['\\', 't']
  else if c = '\x08' then ['\\', 'b']
  else if c = '\x0c' then ['\\', 'f']
  else if c.toNat < 32 then
    let digits := hexDigits c.toNat
    '\\' :: 'u' :: List.replicate (4 - digits.length) '0' ++ digits
  else [c]

def writeText (s : String) : String :=
  String.ofList ('"' :: s.toList.flatMap escapedChar ++ ['"'])

mutual

/-- The compact text of a value. -/
def write : Json → String
  | .null => "null"
  | .bool b => if b then "true" else "false"
  | .int i => toString i
  | .real x => jsonText x
  | .text s => writeText s
  | .list items => "[" ++ writeItems items ++ "]"
  | .object fields => "\x7b" ++ writeFields fields ++ "\x7d"
termination_by structural j => j

def writeItems : List Json → String
  | [] => ""
  | [item] => item.write
  | item :: items => item.write ++ "," ++ writeItems items
termination_by structural items => items

def writeFields : List (String × Json) → String
  | [] => ""
  | [field] => writeField field
  | field :: fields => writeField field ++ "," ++ writeFields fields
termination_by structural fields => fields

def writeField : String × Json → String
  | (key, value) => writeText key ++ ":" ++ value.write
termination_by structural field => field

end

end Json

end VolumeHandover
