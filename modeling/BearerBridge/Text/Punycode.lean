/-
# Punycode

A label of a domain name that goes beyond ASCII is spelled in ASCII: its ASCII characters first,
then the others in ascending order as differences, each in digits of base 36 whose thresholds
adapt to the differences seen before.

* `encode`, `decode?` : the spelling of a label and the label of a spelling.
-/
import BearerBridge.Text.Split

namespace BearerBridge.Punycode

/-! ## Digits -/

/-- The character of a digit: letters, then numerals. -/
def digitChar (d : Nat) : Char :=
  if d < 26 then Char.ofNat (0x61 + d) else Char.ofNat (0x16 + d)

/-- The digit of a character, whose case does not count. -/
def digit? (c : Char) : Option Nat :=
  if 'a' ≤ c ∧ c ≤ 'z' then some (c.toNat - 0x61)
  else if 'A' ≤ c ∧ c ≤ 'Z' then some (c.toNat - 0x41)
  else if '0' ≤ c ∧ c ≤ '9' then some (c.toNat - 0x16)
  else none

/-- The threshold at a position of a number: a digit below it is the last one. -/
def threshold (bias position : Nat) : Nat :=
  if position ≤ bias then 1 else min 26 (position - bias)

theorem threshold_pos (bias position : Nat) : 0 < threshold bias position := by
  unfold threshold
  split <;> omega

/-- How often a difference is scaled down, and what remains of it. -/
def scaled (delta : Nat) : Nat × Nat :=
  if 455 < delta then ((scaled (delta / 35)).1 + 1, (scaled (delta / 35)).2) else (0, delta)
termination_by delta
decreasing_by all_goals omega

/-- The bias after a difference, the first one or a later one, among `count` characters. -/
def adapt (delta count : Nat) (first : Bool) : Nat :=
  let d := if first then delta / 700 else delta / 2
  let (steps, rest) := scaled (d + d / count)
  36 * steps + 36 * rest / (rest + 38)

/-! ## Writing -/

/-- A difference in digits. -/
def writeDigits (bias position n : Nat) : List Char :=
  let t := threshold bias position
  if n < t then [digitChar n]
  else
    digitChar (t + (n - t) % (36 - t)) :: writeDigits bias (position + 36) ((n - t) / (36 - t))
termination_by n
decreasing_by
  have h : (n - threshold bias position) / (36 - threshold bias position)
      ≤ n - threshold bias position := Nat.div_le_self _ _
  have := threshold_pos bias position
  omega

/-- How far the writing of a label has come. -/
structure Progress where
  written : List Char
  delta : Nat
  bias : Nat
  handled : Nat

/-- One character of the label passed while the occurrences of the code point `m` are written. -/
def Progress.pass (basic m : Nat) (p : Progress) (c : Char) : Progress :=
  if c.toNat < m then { p with delta := p.delta + 1 }
  else if c.toNat = m then
    { written := p.written ++ writeDigits p.bias 36 p.delta
      delta := 0
      bias := adapt p.delta (p.handled + 1) (p.handled == basic)
      handled := p.handled + 1 }
  else p

/-- The label with the code points of a list written, which ascend from `n` on. -/
def writePoints (cs : List Char) (basic : Nat) : Nat → List Nat → Progress → Progress
  | _, [], p => p
  | n, m :: ms, p =>
    let p := { p with delta := p.delta + (m - n) * (p.handled + 1) }
    let p := cs.foldl (Progress.pass basic m) p
    writePoints cs basic (m + 1) ms { p with delta := p.delta + 1 }

/-- Whether a character belongs to ASCII. -/
def isBasic (c : Char) : Bool := c.toNat < 0x80

/-- The spelling of a label. -/
def encode (cs : List Char) : List Char :=
  let basic := cs.filter isBasic
  let points := ((cs.filter (!isBasic ·)).map Char.toNat).mergeSort.eraseDups
  let delimiter := if basic.isEmpty then [] else ['-']
  basic ++ delimiter
    ++ (writePoints cs basic.length 0x80 points ⟨[], 0, 72, basic.length⟩).written

/-! ## Reading -/

/-- A difference read from digits, and what follows it. -/
def readDigits (bias : Nat) : Nat → Nat → Nat → List Char → Option (Nat × List Char)
  | _, _, _, [] => none
  | position, weight, n, c :: cs =>
    match digit? c with
    | none => none
    | some d =>
      let t := threshold bias position
      if d < t then some (n + d * weight, cs)
      else readDigits bias (position + 36) (weight * (36 - t)) (n + d * weight) cs

/-- The greatest number that a difference may reach. -/
def maxDelta : Nat := UInt32.size

/-- Differences read one after the other, at most `fuel` of them, and their characters inserted
into the label. -/
def readPoints (fuel bias n i : Nat) (label : List Char) : List Char → Option (List Char)
  | [] => some label
  | cs =>
    match fuel with
    | 0 => none
    | fuel + 1 =>
      match readDigits bias 36 1 i cs with
      | none => none
      | some (j, rest) =>
        let count := label.length + 1
        let m := n + j / count
        if j < maxDelta ∧ m.isValidChar then
          readPoints fuel (adapt (j - i) count (i == 0)) m (j % count + 1)
            (label.insertIdx (j % count) (Char.ofNat m)) rest
        else none

/-- The label of a spelling. -/
def decode? (cs : List Char) : Option (List Char) :=
  let (basic, digits) := (atLast? '-' cs).getD ([], cs)
  if basic.all isBasic then readPoints digits.length 72 0x80 0 basic digits else none

end BearerBridge.Punycode
