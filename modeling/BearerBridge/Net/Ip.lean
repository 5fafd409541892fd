/-
# Network addresses

Addresses of version 4 and 6 with their texts.  An address of version 4 may also appear as one of
version 6; `canonical` undoes that, and trust is a matter of canonical addresses only.

* `Address.canonical_mapped` : an address of version 4 and its form in version 6 agree.
-/
import BearerBridge.Text.Ascii

namespace BearerBridge

/-- An address: the two halves of an address of version 4, or the eight groups of version 6. -/
inductive Address where
  | v4 (high low : UInt16)
  | v6 (a b c d e f g h : UInt16)
  deriving DecidableEq, Repr

namespace Address

/-! ## Version 4 inside version 6 -/

/-- The form of an address of version 4 among those of version 6. -/
def mapped : Address → Address
  | v4 high low => v6 0 0 0 0 0 0xFFFF high low
  | a => a

/-- The shortest form of an address. -/
def canonical : Address → Address
  | v6 0 0 0 0 0 0xFFFF high low => v4 high low
  | a => a

/-- **An address of version 4 and its form in version 6 agree.** -/
theorem canonical_mapped (a : Address) : a.mapped.canonical = a.canonical := by
  cases a <;> rfl

theorem canonical_canonical (a : Address) : a.canonical.canonical = a.canonical := by
  fun_cases canonical a with
  | case1 => rfl
  | case2 =>
    unfold canonical
    split <;> simp_all

/-! ## Writing -/

/-- Four decimal numbers with points between them. -/
def text4 (high low : UInt16) : String :=
  ".".intercalate
    ([high.toNat / 0x100, high.toNat % 0x100, low.toNat / 0x100, low.toNat % 0x100].map toString)

/-- Groups in hexadecimal with colons between them. -/
def groupsText (gs : List UInt16) : String :=
  ":".intercalate (gs.map (fun g => String.ofList (Nat.toDigits 16 g.toNat)))

/-- The number of zeros at the front. -/
def zeroRun (gs : List UInt16) : Nat :=
  (gs.takeWhile (· == 0)).length

/-- Start and length of the first longest run of zeros, from a position on. -/
def longestRun (start : Nat) : List UInt16 → Nat × Nat
  | [] => (start, 0)
  | g :: gs =>
    let here := zeroRun (g :: gs)
    let later := longestRun (start + 1) gs
    if later.2 ≤ here then (start, here) else later

/-- Eight groups, the first longest run of at least two zeros left out. -/
def text6 (gs : List UInt16) : String :=
  let (start, length) := longestRun 0 gs
  if 1 < length then
    groupsText (gs.take start) ++ "::" ++ groupsText (gs.drop (start + length))
  else groupsText gs

/-- The text of an address. -/
def text : Address → String
  | v4 high low => text4 high low
  | v6 0 0 0 0 0 0xFFFF high low => "::ffff:" ++ text4 high low
  | v6 a b c d e f g h => text6 [a, b, c, d, e, f, g, h]

/-! ## Reading -/

/-- The value of digits in a base. -/
def digitsValue (base : Nat) (ds : List Nat) : Nat :=
  ds.foldl (fun n d => n * base + d) 0

/-- The digits of a base at the front, and what follows them. -/
def digitRun (base : Nat) : List Char → List Nat × List Char
  | [] => ([], [])
  | c :: cs =>
    match (Ascii.hexDigit? c).filter (· < base) with
    | some d => (d :: (digitRun base cs).1, (digitRun base cs).2)
    | none => ([], c :: cs)

/-- A number below 256 without leading zeros, and what follows it. -/
def readOctet (cs : List Char) : Option (Nat × List Char) :=
  match digitRun 10 cs with
  | ([], _) => none
  | (0 :: _ :: _, _) => none
  | (ds, rest) =>
    if 3 < ds.length ∨ 255 < digitsValue 10 ds then none else some (digitsValue 10 ds, rest)

/-- What follows a character, when it stands at the front. -/
def afterChar? (c : Char) : List Char → Option (List Char)
  | d :: cs => if d = c then some cs else none
  | [] => none

/-- An address of version 4, and what follows it. -/
def read4 (cs : List Char) : Option ((UInt16 × UInt16) × List Char) := do
  let (a, cs) ← readOctet cs
  let (b, cs) ← (afterChar? '.' cs).bind readOctet
  let (c, cs) ← (afterChar? '.' cs).bind readOctet
  let (d, cs) ← (afterChar? '.' cs).bind readOctet
  return ((UInt16.ofNat (a * 0x100 + b), UInt16.ofNat (c * 0x100 + d)), cs)

/-- A group of at most four hexadecimal digits, and what follows it. -/
def readGroup (cs : List Char) : Option (UInt16 × List Char) :=
  match digitRun 16 cs with
  | ([], _) => none
  | (ds, rest) => if 4 < ds.length then none else some (UInt16.ofNat (digitsValue 16 ds), rest)

/-- At most `limit` groups with colons between them, the last two perhaps written as an address
of version 4; whether they are, and what follows. -/
def readGroups (first : Bool) : Nat → List Char → List UInt16 × Bool × List Char
  | 0, cs => ([], false, cs)
  | limit + 1, cs =>
    match if first then some cs else afterChar? ':' cs with
    | none => ([], false, cs)
    | some body =>
      match if limit = 0 then none else read4 body with
      | some ((high, low), rest) => ([high, low], true, rest)
      | none =>
        match readGroup body with
        | none => ([], false, cs)
        | some (g, rest) =>
          let (gs, dotted, rest) := readGroups false limit rest
          (g :: gs, dotted, rest)

/-- The address of eight groups. -/
def ofGroups? : List UInt16 → Option Address
  | [a, b, c, d, e, f, g, h] => some (v6 a b c d e f g h)
  | _ => none

/-- An address of version 6, and what follows it. -/
def read6 (cs : List Char) : Option (Address × List Char) :=
  let (front, dotted, rest) := readGroups true 8 cs
  if front.length = 8 then (ofGroups? front).map (·, rest)
  else if dotted then none
  else do
    let rest ← (afterChar? ':' rest).bind (afterChar? ':')
    let (back, _, rest) := readGroups true (7 - front.length) rest
    let zeros := List.replicate (8 - front.length - back.length) 0
    (ofGroups? (front ++ zeros ++ back)).map (·, rest)

/-- An address of either version, and what follows it. -/
def read (cs : List Char) : Option (Address × List Char) :=
  match read4 cs with
  | some ((high, low), rest) => some (v4 high low, rest)
  | none => read6 cs

/-- The address that a text spells. -/
def parse? (s : String) : Option Address :=
  match read s.toList with
  | some (a, []) => some a
  | _ => none

/-- The address of a peer written as address and port, an address of version 6 in brackets. -/
def ofPeer? (s : String) : Option Address :=
  match s.toList with
  | '[' :: cs => (read6 cs).map (·.1)
  | cs => (read4 cs).map (fun r => v4 r.1.1 r.1.2)

end Address

end BearerBridge
