import VolumeHandover.Text.Blank
import VolumeHandover.Text.NumberedTable

set_option autoImplicit false

/-! # Quoted text

`quoted s` is `s` between double quotes, for use in messages. Inside, a backslash and a double
quote follow a backslash, the tabulator, line feed, carriage return and the zero character
have their letters, and any other character that would not show, or would join the character
before it, is written by its number in hexadecimal, as in `\u{200b}`.
-/

namespace VolumeHandover

/-- The hexadecimal digits of a number, in lower case and without leading zeros. -/
def hexDigits (n : Nat) : List Char := Nat.toDigits 16 n

def quotedChar (c : Char) : List Char :=
  if c = '\t' then ['\\', 't']
  else if c = '\n' then ['\\', 'n']
  else if c = '\r' then ['\\', 'r']
  else if c = '\x00' then ['\\', '0']
  else if c = '\\' then ['\\', '\\']
  else if c = '"' then ['\\', '"']
  else if 32 ≤ c.toNat && c.toNat < 127 then [c]
  else if inRanges numberedRanges c then
    '\\' :: 'u' :: '\x7b' :: hexDigits c.toNat ++ ['\x7d']
  else [c]

/-- A text between double quotes, with all that would not show written out. -/
def quoted (s : String) : String :=
  String.ofList ('"' :: s.toList.flatMap quotedChar ++ ['"'])

end VolumeHandover
