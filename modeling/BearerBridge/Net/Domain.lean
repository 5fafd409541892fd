/-
# Domains

A domain is a row of labels with points between them.  Its characters are folded and composed,
and then every label is spelled in ASCII: a label beyond ASCII in Punycode, behind `xn--`.  A
label that comes spelled has to be the spelling of such a label.

* `Domain.ascii?` : the one spelling of a domain in ASCII.
-/
import BearerBridge.Net.Folding
import BearerBridge.Text.Direction
import BearerBridge.Text.Joining
import BearerBridge.Text.Normal
import BearerBridge.Text.Punycode

namespace BearerBridge.Domain

/-! ## Labels -/

/-- A label: its characters and its spelling in ASCII. -/
structure Label where
  chars : List Char
  spelling : List Char
  deriving DecidableEq, Repr

/-- The ASCII characters that no label may hold. -/
def isForbidden (c : Char) : Bool :=
  c.toNat ≤ 0x20 || c.toNat == 0x7F
    || ['%', '#', '/', ':', '<', '>', '?', '@', '[', '\\', ']', '^', '|'].contains c

/-- Whether a character stands for itself in a label. -/
def isPlain (c : Char) : Bool :=
  c != '.' && !isForbidden c && Folding.folded? c == some [c]

/-- The most characters of a label beyond ASCII. -/
def maxChars : Nat := 1000

/-- The most characters of a spelling, the mark of spellings left out. -/
def maxSpelling : Nat := 2000

/-- Whether characters may stand together in a label beyond ASCII. -/
def standTogether (cs : List Char) : Bool :=
  !cs.head?.any isMark && joinersFit cs && cs.length ≤ maxChars

/-- What marks a label as the spelling of another. -/
def spelled : List Char := ['x', 'n', '-', '-']

/-- The label with a spelling. -/
def ofSpelling? (spelling : List Char) : Option Label :=
  if spelling.getLast?.all (· == '-') ∨ maxSpelling < spelling.length then none
  else
    match Punycode.decode? spelling with
    | some cs =>
      if cs.all isPlain && Normal.composed cs == cs && standTogether cs
          && Punycode.encode cs == spelling then
        some { chars := cs, spelling := spelled ++ spelling }
      else none
    | none => none

/-- The label that folded and composed characters make. -/
def label? (cs : List Char) : Option Label :=
  if cs.any isForbidden then none
  else if spelled.isPrefixOf cs then
    if cs.all Punycode.isBasic then ofSpelling? (cs.drop spelled.length) else none
  else if cs.all Punycode.isBasic then some { chars := cs, spelling := cs }
  else if standTogether cs then some { chars := cs, spelling := spelled ++ Punycode.encode cs }
  else none

/-! ## Rows of labels -/

/-- Whether the directions of labels go together; they matter only where a script is written
from right to left. -/
def directionsFit (labels : List Label) : Bool :=
  let directions := labels.map (·.chars.map Direction.of)
  !directions.any (·.any Direction.turns) || directions.all directionFits

/-- The labels of a domain. -/
def labels? (cs : List Char) : Option (List Label) :=
  match cs.mapM Folding.folded? with
  | some folded =>
    ((splitAll '.' (Normal.composed folded.flatten)).mapM label?).filter directionsFit
  | none => none

/-- **The spelling of a domain in ASCII**, if it is one. -/
def ascii? (cs : List Char) : Option (List Char) :=
  (labels? cs).map (fun labels => ['.'].intercalate (labels.map (·.spelling)))

end BearerBridge.Domain
