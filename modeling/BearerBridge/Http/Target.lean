/-
# Targets of requests

A target says what a request asks for: a path and perhaps a query.  It is spelled with its path at
the front, with a scheme and an authority before the path, as an authority alone, or as an asterisk.

* `isAuthority` : the texts that name a host, with a user and a port if need be;
* `Target.parse?` : the target that a text spells.
-/
import BearerBridge.Text.Split
import BearerBridge.Text.Utf8

namespace BearerBridge

namespace Http

/-- What a request asks for: a path and perhaps a query. -/
structure Target where
  /-- The path; it is empty when only an authority is named. -/
  path : String
  query : Option String
  deriving DecidableEq, Repr

/-! ## Paths and queries -/

/-- A character that a path may hold as it is. -/
def isPathChar (c : Char) : Bool :=
  0x20 < c.toNat && !(['#', '<', '>', '?', '\x60'].contains c)

/-- A character that a query may hold as it is. -/
def isQueryChar (c : Char) : Bool :=
  0x20 < c.toNat && !(['"', '#', '<', '>'].contains c)

/-- The path and the query that a text spells, without its fragment.  An empty path stands for the
root. -/
def pathAndQuery? (cs : List Char) : Option Target :=
  let (path, query) := upTo '?' (upTo '#' cs).1
  if path.all isPathChar ∧ (query.getD []).all isQueryChar then
    some ⟨if path = [] then "/" else String.ofList path, query.map String.ofList⟩
  else none

/-! ## Authorities -/

/-- A character that an authority may hold anywhere. -/
def isAuthorityChar (c : Char) : Bool :=
  c.isAlphanum || ['!', '$', '&', '\'', '(', ')', '*', '+', ',', '-', '.', ';', '=', '_',
    '~'].contains c

/-- What is kept in mind while an authority is read.  The colons and the percent signs of a user or
in brackets do not matter for what follows. -/
structure AuthorityState where
  colons : Nat
  opened : Bool
  closed : Bool
  percent : Bool
  deriving DecidableEq, Repr

/-- The most colons that stand together, before a bracket is closed or a user ends. -/
def maxColons : Nat := 8

/-- One character of an authority; there is one pair of brackets at most. -/
def AuthorityState.next? (s : AuthorityState) : Char → Option AuthorityState
  | ':' => if s.colons < maxColons then some { s with colons := s.colons + 1 } else none
  | '[' => if s.percent || s.opened then none else some { s with opened := true }
  | ']' =>
    if s.opened && !s.closed then some { s with closed := true, colons := 0, percent := false }
    else none
  | '@' => some { s with colons := 0, percent := false }
  | '%' => some { s with percent := true }
  | c => if isAuthorityChar c then some s else none

/-- Whether a text is an authority: its brackets are closed, a port has one colon, only a user or
what is in brackets has percent signs, and something follows a user. -/
def isAuthority (cs : List Char) : Bool :=
  match cs.foldlM AuthorityState.next? ⟨0, false, false, false⟩ with
  | some s => s.opened == s.closed && s.colons ≤ 1 && !s.percent && cs.getLast? != some '@'
  | none => false

/-! ## Targets -/

/-- A character of a scheme. -/
def isSchemeChar (c : Char) : Bool :=
  c.isAlphanum || c == '+' || c == '-' || c == '.'

/-- The longest scheme. -/
def maxSchemeLength : Nat := 64

/-- The scheme at the front of a text, and what follows its two slashes. -/
def scheme? (cs : List Char) : Option (List Char × List Char) :=
  match upTo ':' cs with
  | (scheme, some ('/' :: '/' :: rest)) =>
    if scheme.all isSchemeChar then some (scheme, rest) else none
  | _ => none

/-- The longest target in bytes; marks in it are 16 bits wide, and one value stands for none. -/
def maxTargetLength : Nat := 65534

/-- The target that characters spell, whatever their number. -/
def Target.spelled? (cs : List Char) : Option Target :=
  match cs with
  | [] => none
  | ['*'] => some ⟨"*", none⟩
  | '/' :: _ => pathAndQuery? cs
  | _ =>
    match scheme? cs with
    | some (scheme, rest) =>
      let (authority, path) := rest.span (fun c => c != '/' && c != '?' && c != '#')
      if scheme.length ≤ maxSchemeLength ∧ authority ≠ [] ∧ isAuthority authority then
        pathAndQuery? path
      else none
    | none => if isAuthority cs then some ⟨"", none⟩ else none

/-- The target that a text spells, if it spells one. -/
def Target.parse? (s : String) : Option Target :=
  if (Utf8.ofString s).length ≤ maxTargetLength then spelled? s.toList else none

end Http

end BearerBridge
