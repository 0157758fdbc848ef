set_option autoImplicit false

/-! # Form encoding

The encoding of texts in the query of an address: letters, digits and four marks stand for
themselves, a blank becomes a plus sign, and every other byte of the UTF-8 form a percent sign
and two hexadecimal digits.
-/

namespace VolumeHandover

/-- Whether a byte stands for itself. -/
def isFormSafe (b : UInt8) : Bool :=
  let c := Char.ofNat b.toNat
  b < 128 && (c.isAlphanum || c = '*' || c = '-' || c = '.' || c = '_')

def upperHexDigit (n : Nat) : Char := (Nat.digitChar n).toUpper

def formByte (b : UInt8) : List Char :=
  if isFormSafe b then [Char.ofNat b.toNat]
  else if b = 32 then ['+']
  else ['%', upperHexDigit (b.toNat / 16), upperHexDigit (b.toNat % 16)]

def formEncoded (s : String) : String :=
  String.ofList (s.toUTF8.toList.flatMap formByte)

/-- The pairs of a query, each behind an ampersand. -/
def formQuery (pairs : List (String × String)) : String :=
  String.join (pairs.map fun (key, value) => "&" ++ formEncoded key ++ "=" ++ formEncoded value)

end VolumeHandover
