/-
# Percent escapes

A byte may be written as a percent sign and two hexadecimal digits.  Which characters must be
written so depends on where a text stands.

* `Percent.encode`, `Percent.decode` : escapes written and resolved.
-/
import BearerBridge.Text.Ascii
import BearerBridge.Text.Utf8

namespace BearerBridge.Percent

/-! ## Writing -/

/-- A byte as an escape. -/
def escape (b : UInt8) : List Char :=
  '%' :: (Ascii.hexByte b).map Char.toUpper

/-- A text with the characters of a set escaped. -/
def encode (inSet : Char → Bool) (cs : List Char) : List Char :=
  cs.flatMap (fun c => if inSet c then (Utf8.encodeChar c).flatMap escape else [c])

/-- What is escaped everywhere: control characters and everything beyond ASCII. -/
def control (c : Char) : Bool :=
  c.toNat < 0x20 || 0x7E < c.toNat

/-- What is escaped in a query. -/
def inQuery (c : Char) : Bool :=
  control c || [' ', '"', '#', '<', '>'].contains c

/-- What is escaped in a fragment. -/
def inFragment (c : Char) : Bool :=
  control c || [' ', '"', '<', '>', '\x60'].contains c

/-- What is escaped in a path. -/
def inPath (c : Char) : Bool :=
  inFragment c || ['#', '?', '\x7b', '\x7d'].contains c

/-- What is escaped in the name and password of a user. -/
def inUser (c : Char) : Bool :=
  inPath c || ['/', ':', ';', '=', '@', '[', '\\', ']', '^', '|'].contains c

/-! ## Reading -/

/-- Bytes with their escapes resolved; what is no escape stays. -/
def decode : List UInt8 → List UInt8
  | [] => []
  | b :: rest =>
    if b = Ascii.byte '%' then
      match rest with
      | x :: y :: rest' =>
        match Ascii.hexDigit? (Ascii.char x), Ascii.hexDigit? (Ascii.char y) with
        | some h, some l => UInt8.ofNat (16 * h + l) :: decode rest'
        | _, _ => b :: decode (x :: y :: rest')
      | rest => b :: rest
    else b :: decode rest

end BearerBridge.Percent
