/-
# JSON as it is written

A JSON text is read in two steps.  The first, here, is syntax alone: it finds out where values
begin and end and keeps texts and numbers as they are written.  The second gives them meaning
(`Json/Value.lean`), and only for the parts that somebody asks for: a member that nobody asks
for may hold any number, any escape and any depth, as long as its syntax is right.

* `Tree.read?` : the tree of a whole text, blanks around it allowed.
-/
import BearerBridge.Text.Ascii

namespace BearerBridge.Json

open Ascii (byte)

/-! ## Trees -/

/-- A number as written: its sign, the digits before and after the point, and the digits of the
exponent with their sign. -/
structure Numeral where
  negative : Bool
  whole : List Nat
  fraction : List Nat
  exponent : Option (Bool × List Nat)
  deriving DecidableEq, Repr

/-- A value as written.  A text is kept as the bytes between its quotes, members in order and
with repetitions. -/
inductive Tree where
  | null
  | boolean (b : Bool)
  | number (n : Numeral)
  | text (body : List UInt8)
  | array (items : List Tree)
  | object (members : List (List UInt8 × Tree))
  deriving Repr

/-! ## Words and numbers -/

/-- The four blanks of the syntax. -/
def isBlankByte (b : UInt8) : Bool :=
  b == 0x20 || b == 0x09 || b == 0x0A || b == 0x0D

/-- What follows the blanks at the front. -/
def skipBlank (s : List UInt8) : List UInt8 :=
  s.dropWhile isBlankByte

/-- What follows a word, when the text starts with it. -/
def after? : List Char → List UInt8 → Option (List UInt8)
  | [], s => some s
  | _ :: _, [] => none
  | c :: cs, b :: s => if b = byte c then after? cs s else none

/-- The value of a decimal digit. -/
def digit? (b : UInt8) : Option Nat :=
  if 0x30 ≤ b ∧ b ≤ 0x39 then some (b.toNat - 0x30) else none

/-- The digits at the front, and what follows them. -/
def digits : List UInt8 → List Nat × List UInt8
  | [] => ([], [])
  | b :: s =>
    match digit? b with
    | some d => (d :: (digits s).1, (digits s).2)
    | none => ([], b :: s)

/-- The digits before the point: a zero stands alone. -/
def readWhole (s : List UInt8) : Option (List Nat × List UInt8) :=
  match digits s with
  | ([], _) => none
  | (0 :: _ :: _, _) => none
  | (ds, rest) => some (ds, rest)

/-- The digits after the point, at least one, if there is a point. -/
def readFraction : List UInt8 → Option (List Nat × List UInt8)
  | [] => some ([], [])
  | b :: s =>
    if b = byte '.' then
      match digits s with
      | ([], _) => none
      | (ds, rest) => some (ds, rest)
    else some ([], b :: s)

/-- The sign of an exponent, and what follows it. -/
def readSign : List UInt8 → Bool × List UInt8
  | [] => (false, [])
  | b :: s =>
    if b = byte '-' then (true, s) else if b = byte '+' then (false, s) else (false, b :: s)

/-- The exponent, with at least one digit, if there is one. -/
def readExponent : List UInt8 → Option (Option (Bool × List Nat) × List UInt8)
  | [] => some (none, [])
  | b :: s =>
    if b = byte 'e' ∨ b = byte 'E' then
      match digits (readSign s).2 with
      | ([], _) => none
      | (ds, rest) => some (some ((readSign s).1, ds), rest)
    else some (none, b :: s)

/-- A number without its sign. -/
def readUnsigned (negative : Bool) (s : List UInt8) : Option (Numeral × List UInt8) := do
  let (whole, s) ← readWhole s
  let (fraction, s) ← readFraction s
  let (exponent, s) ← readExponent s
  return (⟨negative, whole, fraction, exponent⟩, s)

/-- A number. -/
def readNumeral : List UInt8 → Option (Numeral × List UInt8)
  | [] => none
  | b :: s => if b = byte '-' then readUnsigned true s else readUnsigned false (b :: s)

/-! ## Texts -/

/-- The value of a hexadecimal digit. -/
def hexDigit? (b : UInt8) : Option Nat :=
  Ascii.hexDigit? (Ascii.char b)

/-- The characters that may follow a backslash, `u` apart. -/
def isShortEscape (b : UInt8) : Bool :=
  ['"', '\\', '/', 'b', 'f', 'n', 'r', 't'].any (byte · == b)

/-- The bytes up to the closing quote and what follows it.  Escapes are checked for their form,
control characters are refused. -/
def readBody : List UInt8 → Option (List UInt8 × List UInt8)
  | [] => none
  | b :: s =>
    if b = byte '"' then some ([], s)
    else if b < 0x20 then none
    else if b = byte '\\' then
      match s with
      | [] => none
      | e :: s =>
        if isShortEscape e then (readBody s).map (fun r => (b :: e :: r.1, r.2))
        else if e = byte 'u' then
          match s with
          | h1 :: h2 :: h3 :: h4 :: s =>
            if [h1, h2, h3, h4].all (hexDigit? · |>.isSome) then
              (readBody s).map (fun r => (b :: e :: h1 :: h2 :: h3 :: h4 :: r.1, r.2))
            else none
          | _ => none
        else none
    else (readBody s).map (fun r => (b :: r.1, r.2))

/-! ## Values -/

mutual

/-- A value, and what follows it. -/
def readTree : Nat → List UInt8 → Option (Tree × List UInt8)
  | 0, _ => none
  | fuel + 1, s =>
    match skipBlank s with
    | [] => none
    | b :: rest =>
      if b = byte '{' then
        match after? ['}'] (skipBlank rest) with
        | some rest => some (.object [], rest)
        | none => (readMembers fuel rest).map (fun r => (.object r.1, r.2))
      else if b = byte '[' then
        match after? [']'] (skipBlank rest) with
        | some rest => some (.array [], rest)
        | none => (readItems fuel rest).map (fun r => (.array r.1, r.2))
      else if b = byte '"' then (readBody rest).map (fun r => (.text r.1, r.2))
      else if b = byte 'n' then (after? ['u', 'l', 'l'] rest).map (fun r => (.null, r))
      else if b = byte 't' then (after? ['r', 'u', 'e'] rest).map (fun r => (.boolean true, r))
      else if b = byte 'f' then
        (after? ['a', 'l', 's', 'e'] rest).map (fun r => (.boolean false, r))
      else (readNumeral (b :: rest)).map (fun r => (.number r.1, r.2))

/-- The values of an array that is not empty, up to its end, and what follows it. -/
def readItems : Nat → List UInt8 → Option (List Tree × List UInt8)
  | 0, _ => none
  | fuel + 1, s =>
    match readTree fuel s with
    | none => none
    | some (item, rest) =>
      match skipBlank rest with
      | [] => none
      | b :: rest =>
        if b = byte ',' then (readItems fuel rest).map (fun r => (item :: r.1, r.2))
        else if b = byte ']' then some ([item], rest)
        else none

/-- The members of an object that is not empty, up to its end, and what follows it. -/
def readMembers : Nat → List UInt8 → Option (List (List UInt8 × Tree) × List UInt8)
  | 0, _ => none
  | fuel + 1, s =>
    match (after? ['"'] (skipBlank s)).bind readBody with
    | none => none
    | some (name, rest) =>
      match (after? [':'] (skipBlank rest)).bind (readTree fuel) with
      | none => none
      | some (item, rest) =>
        match skipBlank rest with
        | [] => none
        | b :: rest =>
          if b = byte ',' then (readMembers fuel rest).map (fun r => ((name, item) :: r.1, r.2))
          else if b = byte '}' then some ([(name, item)], rest)
          else none

end

/-- The tree of a text that holds one value and blanks around it.  A value and the list it
opens take two steps for each byte at most, which bounds the fuel. -/
def Tree.read? (s : List UInt8) : Option Tree :=
  match readTree (2 * s.length + 2) s with
  | some (t, rest) => if skipBlank rest = [] then some t else none
  | none => none

end BearerBridge.Json
