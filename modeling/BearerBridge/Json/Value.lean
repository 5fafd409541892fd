/-
# JSON values

The meaning of a tree: texts with their escapes resolved, numbers as integers of 64 bits or as
floating-point magnitudes, arrays and objects nested to a limited depth.  Objects hold their
members sorted by name, the last of two members of one name counting.

* `Tree.value?` : the meaning of a tree, if it has one;
* `Value.text` : the compact text of a value.
-/
import BearerBridge.Json.Tree
import BearerBridge.Number.Binary64
import BearerBridge.Text.Utf8

namespace BearerBridge.Json

open Ascii (byte)

/-! ## Texts -/

/-- The number of a group of four hexadecimal digits. -/
def codeUnit? : UInt8 → UInt8 → UInt8 → UInt8 → Option Nat
  | a, b, c, d =>
    match hexDigit? a, hexDigit? b, hexDigit? c, hexDigit? d with
    | some a, some b, some c, some d => some (((a * 16 + b) * 16 + c) * 16 + d)
    | _, _, _, _ => none

/-- The character that a short escape stands for. -/
def shortEscape? (b : UInt8) : Option Char :=
  if b = byte '"' then some '"'
  else if b = byte '\\' then some '\\'
  else if b = byte '/' then some '/'
  else if b = byte 'b' then some '\x08'
  else if b = byte 'f' then some '\x0c'
  else if b = byte 'n' then some '\n'
  else if b = byte 'r' then some '\r'
  else if b = byte 't' then some '\t'
  else none

/-- The bytes of a text with its escapes resolved.  Two escaped surrogates make one character;
one that stands alone is refused. -/
def unescape : List UInt8 → Option (List UInt8)
  | [] => some []
  | b :: s =>
    if b = byte '\\' then
      match s with
      | [] => none
      | e :: s =>
        if e = byte 'u' then
          match s with
          | h1 :: h2 :: h3 :: h4 :: s =>
            match codeUnit? h1 h2 h3 h4 with
            | none => none
            | some n =>
              if n < 0xD800 ∨ 0xDFFF < n then
                (unescape s).map (Utf8.encodeChar (Char.ofNat n) ++ ·)
              else if 0xDBFF < n then none
              else
                match s with
                | b1 :: b2 :: l1 :: l2 :: l3 :: l4 :: s =>
                  if b1 = byte '\\' ∧ b2 = byte 'u' then
                    match codeUnit? l1 l2 l3 l4 with
                    | none => none
                    | some m =>
                      if m < 0xDC00 ∨ 0xDFFF < m then none
                      else
                        let c := Char.ofNat (0x10000 + (n - 0xD800) * 0x400 + (m - 0xDC00))
                        (unescape s).map (Utf8.encodeChar c ++ ·)
                  else none
                | _ => none
          | _ => none
        else
          match shortEscape? e with
          | none => none
          | some c => (unescape s).map (Utf8.encodeChar c ++ ·)
    else (unescape s).map (b :: ·)

/-- The text that a body stands for. -/
def textOfBody? (body : List UInt8) : Option String :=
  (unescape body).bind Utf8.string?

/-! ## Numbers -/

/-- A number that has a meaning: an integer of 64 bits with or without sign, or else a
floating-point number. -/
inductive Number where
  | integer (n : Int)
  | real (negative : Bool) (x : Binary64.Magnitude)
  deriving DecidableEq, Repr

/-- Digits taken into a significand for as long as it fits into 64 bits; the rest is returned. -/
def takeDigits (significand : Nat) : List Nat → Nat × List Nat
  | [] => (significand, [])
  | d :: ds =>
    if significand * 10 + d < UInt64.size then takeDigits (significand * 10 + d) ds
    else (significand, d :: ds)

/-- The meaning of a number.  Digits before the point that do not fit into 64 bits raise the
exponent, those after it are dropped; a magnitude beyond the greatest one has no meaning. -/
def Numeral.number? (n : Numeral) : Option Number :=
  let whole := takeDigits 0 n.whole
  if n.fraction = [] ∧ n.exponent = none ∧ whole.2 = []
      ∧ (n.negative = false ∨ (0 < whole.1 ∧ whole.1 ≤ Int64.minValue.toInt.natAbs)) then
    some (.integer (if n.negative then -(whole.1 : Int) else whole.1))
  else
    let fraction := takeDigits whole.1 n.fraction
    let places : Int := n.fraction.length - fraction.2.length
    let power : Int := match n.exponent with
      | none => 0
      | some (negative, ds) =>
        let k : Nat := ds.foldl (fun k d => k * 10 + d) 0
        if negative then -(k : Int) else k
    (Binary64.ofDecimal fraction.1 (whole.2.length - places + power)).map (.real n.negative)

/-! ## Values -/

/-- A value with a meaning. -/
inductive Value where
  | null
  | boolean (b : Bool)
  | number (n : Number)
  | text (s : String)
  | array (items : List Value)
  | object (members : List (String × Value))
  deriving Repr

/-- A member put into its place by name, instead of one of the same name. -/
def insertMember (name : String) (v : Value) : List (String × Value) → List (String × Value)
  | [] => [(name, v)]
  | (n, w) :: ms =>
    if name = n then (name, v) :: ms
    else if name < n then (name, v) :: (n, w) :: ms
    else (n, w) :: insertMember name v ms

/-- Members sorted by name, the last of one name counting. -/
def sortMembers (ms : List (String × Value)) : List (String × Value) :=
  ms.foldl (fun acc m => insertMember m.1 m.2 acc) []

mutual

/-- The meaning of a tree whose arrays and objects nest `depth` deep at most. -/
def Tree.value? (depth : Nat) : Tree → Option Value
  | .null => some .null
  | .boolean b => some (.boolean b)
  | .number n => n.number?.map .number
  | .text body => (textOfBody? body).map .text
  | .array items => if depth = 0 then none else (itemValues? (depth - 1) items).map .array
  | .object members =>
    if depth = 0 then none
    else (memberValues? (depth - 1) members).map (fun ms => .object (sortMembers ms))

/-- The meanings of the items of an array. -/
def itemValues? (depth : Nat) : List Tree → Option (List Value)
  | [] => some []
  | t :: ts =>
    match t.value? depth, itemValues? depth ts with
    | some v, some vs => some (v :: vs)
    | _, _ => none

/-- The meanings of the members of an object, in order and with repetitions. -/
def memberValues? (depth : Nat) : List (List UInt8 × Tree) → Option (List (String × Value))
  | [] => some []
  | (name, t) :: ms =>
    match textOfBody? name, t.value? depth, memberValues? depth ms with
    | some n, some v, some vs => some ((n, v) :: vs)
    | _, _, _ => none

end

/-- The depth to which arrays and objects may nest. -/
def maxDepth : Nat := 127

/-! ## Writing -/

/-- A character inside quotes. -/
def quoteChar (c : Char) : List Char :=
  if c = '"' then ['\\', '"']
  else if c = '\\' then ['\\', '\\']
  else if c = '\n' then ['\\', 'n']
  else if c = '\r' then ['\\', 'r']
  else if c = '\t' then ['\\', 't']
  else if c = '\x08' then ['\\', 'b']
  else if c = '\x0c' then ['\\', 'f']
  else if c.toNat < 0x20 then ['\\', 'u', '0', '0'] ++ Ascii.hexByte (UInt8.ofNat c.toNat)
  else [c]

/-- A text in quotes. -/
def quote (s : String) : List Char :=
  '"' :: s.toList.flatMap quoteChar ++ ['"']

/-- An integer in decimal. -/
def integerText (n : Int) : List Char :=
  if n < 0 then '-' :: Nat.toDigits 10 n.natAbs else Nat.toDigits 10 n.natAbs

/-- Digits with a point after the first `k`; at least one digit stands on each side. -/
def withPoint (ds : List Char) (k : Nat) : List Char :=
  let whole := ds.take k ++ List.replicate (k - ds.length) '0'
  let fraction := ds.drop k
  whole ++ '.' :: (if fraction = [] then ['0'] else fraction)

/-- A magnitude in decimal: with a point when the first digit's exponent is between -5 and 15,
otherwise with one digit before the point and a signed exponent. -/
def magnitudeText (x : Binary64.Magnitude) : List Char :=
  let (significand, last) := x.shortest
  let ds := Nat.toDigits 10 significand
  let exponent : Int := last + ds.length - 1
  if -5 ≤ exponent ∧ exponent < 0 then
    ['0', '.'] ++ List.replicate (exponent.natAbs - 1) '0' ++ ds
  else if 0 ≤ exponent ∧ exponent ≤ 15 then withPoint ds (exponent.toNat + 1)
  else
    ds.take 1 ++ (if ds.length ≤ 1 then [] else '.' :: ds.drop 1)
      ++ ['e', if exponent < 0 then '-' else '+'] ++ Nat.toDigits 10 exponent.natAbs

/-- A number in decimal. -/
def Number.chars : Number → List Char
  | .integer n => integerText n
  | .real negative x => if negative then '-' :: magnitudeText x else magnitudeText x

/-- Pieces with commas between them. -/
def commaSeparated : List (List Char) → List Char
  | [] => []
  | [x] => x
  | x :: xs => x ++ ',' :: commaSeparated xs

mutual

/-- The compact text of a value. -/
def Value.chars : Value → List Char
  | .null => "null".toList
  | .boolean true => "true".toList
  | .boolean false => "false".toList
  | .number n => n.chars
  | .text s => quote s
  | .array items => '[' :: commaSeparated (itemChars items) ++ [']']
  | .object members => '{' :: commaSeparated (memberChars members) ++ ['}']

/-- The texts of the items of an array. -/
def itemChars : List Value → List (List Char)
  | [] => []
  | v :: vs => v.chars :: itemChars vs

/-- The texts of the members of an object. -/
def memberChars : List (String × Value) → List (List Char)
  | [] => []
  | (n, v) :: ms => (quote n ++ ':' :: v.chars) :: memberChars ms

end

/-- The compact text of a value. -/
def Value.render (v : Value) : String :=
  String.ofList v.chars

/-- An object written with its members as they come. -/
def objectChars (members : List (String × Value)) : List Char :=
  '{' :: commaSeparated (memberChars members) ++ ['}']

/-- The value of a whole text, if it has one. -/
def Value.read? (s : List UInt8) : Option Value :=
  (Tree.read? s).bind (Tree.value? maxDepth)

end BearerBridge.Json
