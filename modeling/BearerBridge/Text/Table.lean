/-
# Tables of code points

What is known about characters is kept in tables: ranges of code points with both ends, in
ascending order, and runs, which hold a word for each of some successive code points.

* `covers`, `noteAt?` : what ranges say about a code point;
* `wordAt?` : what runs say about it.
-/
import BearerBridge.Text.Split

namespace BearerBridge.Table

/-! ## Ranges -/

/-- Whether a code point lies in one of several ranges. -/
def covers (ranges : List (Nat × Nat)) (n : Nat) : Bool :=
  (ranges.find? (n ≤ ·.2)).any (·.1 ≤ n)

/-- What is noted at the range that a code point lies in. -/
def noteAt? {α : Type} (ranges : List (Nat × Nat × α)) (n : Nat) : Option α :=
  match ranges.find? (n ≤ ·.2.1) with
  | some (low, _, note) => if low ≤ n then some note else none
  | none => none

/-! ## Runs -/

/-- The words for successive code points. -/
structure Run where
  first : Nat
  words : Array (List Char)

/-- The run that a row writes down, its words with blanks between them. -/
def Run.ofRow (row : Nat × String) : Run :=
  { first := row.1, words := (splitAll ' ' row.2.toList).toArray }

/-- The word for a code point. -/
def wordAt? (runs : List Run) (n : Nat) : Option (List Char) :=
  runs.findSome? (fun r => if r.first ≤ n then r.words[n - r.first]? else none)

/-- The characters of a text two by two. -/
def couples : List Char → List (Char × Char)
  | c :: d :: rest => (c, d) :: couples rest
  | _ => []

end BearerBridge.Table
