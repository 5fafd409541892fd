/-
# ASCII

Protocol words (schemes, algorithm names, header names) are compared without regard to the case
of ASCII letters; every other character counts as itself.
-/
namespace BearerBridge.Ascii

/-- The byte of an ASCII character. -/
def byte (c : Char) : UInt8 :=
  UInt8.ofNat c.toNat

/-- The character with a byte's number. -/
def char (b : UInt8) : Char :=
  Char.ofNat b.toNat

/-- A text with its ASCII letters in lower case. -/
def lower (s : String) : String :=
  String.ofList (s.toList.map Char.toLower)

/-- A text with its ASCII letters in upper case. -/
def upper (s : String) : String :=
  String.ofList (s.toList.map Char.toUpper)

/-- Equality of texts up to the case of ASCII letters. -/
def sameWord (a b : String) : Bool :=
  lower a == lower b

/-- A number's two hexadecimal digits, for a number below 256. -/
def hexByte (b : UInt8) : List Char :=
  [Nat.digitChar (b.toNat / 16), Nat.digitChar (b.toNat % 16)]

/-- Bytes in hexadecimal, lower case. -/
def hex (bs : List UInt8) : List Char :=
  bs.flatMap hexByte

/-- The value of a hexadecimal digit of either case. -/
def hexDigit? (c : Char) : Option Nat :=
  if '0' ≤ c ∧ c ≤ '9' then some (c.toNat - 0x30)
  else if 'a' ≤ c ∧ c ≤ 'f' then some (c.toNat - 0x57)
  else if 'A' ≤ c ∧ c ≤ 'F' then some (c.toNat - 0x37)
  else none

/-- The bytes that a text of hexadecimal pairs names. -/
def unhex? : List Char → Option (List UInt8)
  | [] => some []
  | [_] => none
  | a :: b :: cs =>
    match hexDigit? a, hexDigit? b, unhex? cs with
    | some x, some y, some bs => some (UInt8.ofNat (16 * x + y) :: bs)
    | _, _, _ => none

end BearerBridge.Ascii
