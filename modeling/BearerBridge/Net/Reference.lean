/-
# References

A reference is the text of a URL, or of a part of one that is completed by a base.  Blanks around
it do not count, and neither do tabs and line breaks inside it; only behind a drive do they set
off what follows.

* `Url.resolve` : the URL that a reference means, seen from a base;
* `Url.parse` : the URL that a text means by itself.
-/
import BearerBridge.Net.Url

namespace BearerBridge.Url

/-! ## Cutting a reference -/

/-- A tab or a line break. -/
def isBreak (c : Char) : Bool :=
  c == '\t' || c == '\n' || c == '\r'

/-- The characters of a text that count. -/
def unbroken (cs : List Char) : List Char :=
  cs.filter (!isBreak ·)

/-- The first character that counts, and what follows it. -/
def next? (cs : List Char) : Option (Char × List Char) :=
  match cs.dropWhile isBreak with
  | [] => none
  | c :: rest => some (c, rest)

/-- A reference without the blanks around it. -/
def trimmed (cs : List Char) : List Char :=
  let isPadding (c : Char) : Bool := c.toNat ≤ 0x20
  ((cs.dropWhile isPadding).reverse.dropWhile isPadding).reverse

/-- A reference, or the rest of one, with query and fragment cut off. -/
structure Cut where
  /-- What is left, with its tabs and line breaks. -/
  front : List Char
  query : Option (List Char)
  fragment : Option (List Char)

/-- What counts of the part before query and fragment. -/
def Cut.body (c : Cut) : List Char :=
  unbroken c.front

/-- Cuts off the fragment and then the query. -/
def cut (cs : List Char) : Cut :=
  let (rest, fragment) := upTo '#' cs
  let (front, query) := upTo '?' rest
  ⟨front, query.map unbroken, fragment.map unbroken⟩

/-- A character of a scheme. -/
def isSchemeChar (c : Char) : Bool :=
  c.isAlphanum || ['+', '-', '.'].contains c

/-- The scheme of a reference in lower case, and what follows it. -/
def scheme? (cs : List Char) : Option (String × List Char) :=
  match cs, atFirst? ':' cs with
  | c :: _, some (scheme, rest) =>
    if c.isAlpha && (unbroken scheme).all isSchemeChar then
      some (String.ofList ((unbroken scheme).map Char.toLower), rest)
    else none
  | _, _ => none

/-- Whether a character separates segments. -/
def isSlash (kind : Kind) (c : Char) : Bool :=
  c == '/' || (kind != .general && c == '\\')

/-- Whether a character is a slash or a backslash. -/
def isAnySlash (c : Char) : Bool :=
  c == '/' || c == '\\'

/-! ## Paths -/

/-- The pieces of a path between its separators. -/
def pieces (kind : Kind) (cs : List Char) : List (List Char) :=
  splitAll '/' (cs.map (fun c => if isSlash kind c then '/' else c))

/-- Whether a piece means the segment where it stands. -/
def isHere (piece : List Char) : Bool :=
  [".", "%2e"].contains (Ascii.lower (String.ofList piece))

/-- Whether a piece means the segment before. -/
def isBack (piece : List Char) : Bool :=
  ["..", ".%2e", "%2e.", "%2e%2e"].contains (Ascii.lower (String.ofList piece))

/-- Whether a text is a drive: a letter and a colon, or a bar for it. -/
def isDrive : List Char → Bool
  | [c, d] => c.isAlpha && (d == ':' || d == '|')
  | _ => false

/-- Whether a text is a drive with a colon. -/
def isPlainDrive (cs : List Char) : Bool :=
  isDrive cs && cs.getLast? == some ':'

/-- Whether a text starts with a drive that is a whole segment. -/
def startsWithDrive : List Char → Bool
  | c :: d :: [] => isDrive [c, d]
  | c :: d :: e :: _ => isDrive [c, d] && isAnySlash e
  | _ => false

/-- A drive at the front of a piece and the text that a tab or a line break sets off from it. -/
def offDrive? (piece : List Char) : Option (List Char × List Char) := do
  let (c, rest) ← next? piece
  let (d, rest) ← next? rest
  if isPlainDrive [c, d] && rest.head?.any isBreak && (next? rest).isSome then
    some ([c, d], unbroken rest)
  else none

/-- What counts of a piece, escaped. -/
def segment (piece : List Char) : String :=
  String.ofList (Percent.encode Percent.inPath (unbroken piece))

/-- How far the reading of a path has come. -/
structure Trail where
  segments : List String
  /-- Whether the path of a file has been found to start with a drive. -/
  drive : Bool
  deriving DecidableEq, Repr

namespace Trail

/-- A trail without its last segment; a drive stays. -/
def back (t : Trail) : Trail :=
  if t.segments.getLast?.any (startsWithDrive ·.toList) then t
  else { t with segments := t.segments.dropLast }

/-- A trail with a piece that is a name.  Where the path of a file starts, a drive is written with
a colon. -/
def enter (kind : Kind) (t : Trail) (piece : List Char) : Trail :=
  let further : Trail := { t with segments := t.segments ++ [segment piece] }
  if kind = .file ∧ t.segments = [] then
    if isDrive (unbroken piece) then
      { segments := [String.ofList ((unbroken piece).take 1 ++ [':'])], drive := true }
    else
      match offDrive? piece with
      | some (drive, rest) => { t with segments := [segment drive, segment rest] }
      | none => further
  else further

/-- A trail followed by pieces.  A last piece that means a place leaves an empty segment. -/
def follow (kind : Kind) (t : Trail) : List (List Char) → Trail
  | [] => t
  | p :: ps =>
    let closed (t : Trail) : Trail :=
      if ps.isEmpty then { t with segments := t.segments ++ [""] } else t
    if isBack (unbroken p) then follow kind (closed t.back) ps
    else if isHere (unbroken p) then follow kind (closed t) ps
    else follow kind (t.enter kind p) ps

end Trail

/-- Segments without the empty ones in front, but at least one. -/
def withoutEmptyFront : List String → List String
  | "" :: s :: ss => withoutEmptyFront (s :: ss)
  | ss => ss

/-- The path at the end of a trail. -/
def Trail.path (kind : Kind) (t : Trail) : UrlPath :=
  .segments (if kind = .file then withoutEmptyFront t.segments else t.segments)

/-- Segments followed by the pieces of a path. -/
def pathFrom (kind : Kind) (ss : List String) (cs : List Char) : UrlPath :=
  (Trail.follow kind ⟨ss, false⟩ (pieces kind cs)).path kind

/-- The segments of a path; a literal one has none. -/
def pathSegments (u : Url) : List String :=
  match u.path with
  | .segments ss => ss
  | .literal _ => []

/-! ## Authorities -/

/-- Host and port of an authority; a colon inside brackets belongs to the host. -/
def splitPort (inside : Bool) : List Char → List Char × Option (List Char)
  | [] => ([], none)
  | c :: cs =>
    if c = ':' ∧ !inside then ([], some cs)
    else
      let (host, port) := splitPort (if c = '[' then true else if c = ']' then false else inside) cs
      (c :: host, port)

/-- A port number, unless it is the one that the scheme implies. -/
def parsePort (scheme : String) (cs : List Char) : Except UrlFault (Option Nat) :=
  match Address.digitRun 10 cs with
  | (ds, []) =>
    let n := Address.digitsValue 10 ds
    if 65535 < n then .error .port
    else .ok (if ds = [] ∨ defaultPort? scheme = some n then none else some n)
  | _ => .error .port

/-- Host and port under a scheme. -/
def parseHostPort (scheme : String) (name : List Char) (port : Option (List Char)) :
    Except UrlFault (Host × Option Nat) := do
  let general := kindOf scheme = .general
  if name = [] ∧ (!general ∨ port.isSome) then throw .emptyHost
  let host ← if general then Host.parseLiteral name else Host.parse name
  return (host, ← (port.map (parsePort scheme)).getD (.ok none))

/-- Name and password of a user. -/
def userOf (cs : List Char) : String × String :=
  let (name, password) := upTo ':' cs
  let escaped (cs : List Char) : String := String.ofList (Percent.encode Percent.inUser cs)
  (escaped name, escaped (password.getD []))

/-- The URL whose authority starts a cut text.  A backslash ends a port under every scheme. -/
def withAuthority (scheme : String) (c : Cut) : Except UrlFault Url := do
  let kind := kindOf scheme
  let authority := c.body.takeWhile (!isSlash kind ·)
  let path := c.body.dropWhile (!isSlash kind ·)
  let ended := path.isEmpty && c.query.isNone && c.fragment.isNone
  let (user, hostPort) := (atLast? '@' authority).getD ([], authority)
  let (username, password) := userOf user
  if authority = ['@'] ∧ !ended then throw .emptyHost
  let (name, afterName) := splitPort false hostPort
  let (host, port) ← parseHostPort scheme name (afterName.map (·.takeWhile (· != '\\')))
  if host = .domain "" ∧ (username ≠ "" ∨ password ≠ "") then throw .emptyHost
  return {
    scheme, username, password, port
    host := some host
    path := match (afterName.getD []).dropWhile (· != '\\') ++ path with
      | [] => if kind = .general then .segments [] else .segments [""]
      | x :: rest => pathFrom kind [] (if isSlash kind x then rest else x :: rest)
    query := none
    fragment := none }

/-! ## Files -/

/-- A file with some host and path. -/
def ofFile (host : Host) (path : UrlPath) : Url :=
  ⟨"file", "", "", some host, none, path, none, none⟩

/-- The URL of a file on a host; a drive removes the host.  After an empty host written with
backslashes a bar does not make a drive. -/
def fileOnHost (cs : List Char) : Except UrlFault Url := do
  let name := unbroken (cs.takeWhile (!isAnySlash ·))
  let path := cs.dropWhile (!isAnySlash ·)
  let hostless := ofFile (.domain "")
    (pathFrom .file (if path.head? = some '\\' then [""] else []) (path.drop 1))
  if isDrive name then return ofFile (.domain "") (pathFrom .file [] cs)
  if name = [] then return hostless
  match ← Host.parse name with
  | .domain "localhost" => return hostless
  | host =>
    let trail := Trail.follow .file ⟨[], false⟩ (pieces .file (path.drop 1))
    return ofFile (if trail.drive then .domain "" else host) (trail.path .file)

/-- The path that a relative text means, seen from the segments of a file.  The last segment is
left out, unless it is a drive: text goes on right after a drive that is not the first segment. -/
def fileFrom (ss : List String) (cs : List Char) : UrlPath :=
  match ss.getLast? with
  | some s =>
    if isPlainDrive s.toList then
      match ss.dropLast, pieces .file cs with
      | front@(_ :: _), p :: ps =>
        if isBack (unbroken p) && ps.isEmpty then .segments ss
        else if isBack (unbroken p) || isHere (unbroken p) then pathFrom .file ss cs
        else (Trail.follow .file ⟨front ++ [s ++ segment p], false⟩ ps).path .file
      | _, _ => pathFrom .file ss cs
    else pathFrom .file ss.dropLast cs
  | none => pathFrom .file [] cs

/-- The URL of a file, seen from the one of another. -/
def resolveFile (base : Option Url) (cs : List Char) : Except UrlFault Url :=
  match next? cs with
  | some (c, rest) =>
    if isAnySlash c then
      match next? rest with
      | some (d, more) =>
        if isAnySlash d then fileOnHost more else .ok (fromRoot base rest)
      | none => .ok (fromRoot base rest)
    else
      match base with
      | some b =>
        if startsWithDrive (unbroken cs) then .ok (ofFile (.domain "") (pathFrom .file [] cs))
        else .ok { b with path := fileFrom b.pathSegments cs }
      | none => .ok (ofFile (.domain "") (pathFrom .file [] cs))
  | none =>
    match base with
    | some b => .ok b
    | none => .ok (ofFile (.domain "") (.segments [""]))
where
  /-- The file at a path from the root of the base's drive, or else of its host. -/
  fromRoot (base : Option Url) (cs : List Char) : Url :=
    match base with
    | some b =>
      if startsWithDrive (unbroken cs) then ofFile (.domain "") (pathFrom .file [] cs)
      else if (b.pathSegments.take 1).any (isPlainDrive ·.toList) then
        ofFile (.domain "") (pathFrom .file (b.pathSegments.take 1) cs)
      else ofFile (b.host.getD (.domain "")) (pathFrom .file [] cs)
    | none => ofFile (.domain "") (pathFrom .file [] cs)

/-! ## References -/

/-- The URL with the query and fragment of a cut text; an empty text keeps the query that is
there. -/
def finish (c : Cut) (u : Url) : Url :=
  let inQuery (x : Char) : Bool := Percent.inQuery x || (u.kind != .general && x == '\'')
  let query := c.query.map (fun cs => String.ofList (Percent.encode inQuery cs))
  { u with
    query := if c.body.isEmpty then query <|> u.query else query
    fragment := c.fragment.map (fun cs => String.ofList (Percent.encode Percent.inFragment cs)) }

/-- The URL that a cut text without a scheme means, seen from a base with a hierarchy. -/
def relative (base : Url) (c : Cut) : Except UrlFault Url :=
  let slashes := c.body.takeWhile isAnySlash
  match c.body with
  | [] => .ok base
  | x :: rest =>
    if 2 ≤ slashes.length then
      let after := if slashes.take 2 = ['/', '/'] then 2 else slashes.length
      withAuthority base.scheme { c with front := c.body.drop after }
    else if isAnySlash x then .ok { base with path := pathFrom base.kind [] rest }
    else .ok { base with path := pathFrom base.kind base.pathSegments.dropLast c.body }

/-- The URL that a cut text after a general scheme means. -/
def general (scheme : String) (c : Cut) : Except UrlFault Url :=
  let rootless (path : UrlPath) : Url := ⟨scheme, "", "", none, none, path, none, none⟩
  match c.body with
  | '/' :: '/' :: rest => withAuthority scheme { c with front := rest }
  | '/' :: rest => .ok (rootless (pathFrom .general [] rest))
  | body => .ok (rootless (.literal (String.ofList (Percent.encode Percent.control body))))

/-- The URL that a cut text after its scheme means, seen from a base. -/
def afterScheme (base : Option Url) (scheme : String) (c : Cut) : Except UrlFault Url :=
  let alike := base.filter (·.scheme == scheme)
  let slashes := c.body.takeWhile isAnySlash
  match kindOf scheme with
  | .file => resolveFile alike c.front
  | .general => general scheme c
  | .network =>
    match alike with
    | some b =>
      if slashes.length < 2 then relative b c
      else withAuthority scheme { c with front := c.body.drop slashes.length }
    | none => withAuthority scheme { c with front := c.body.drop slashes.length }

/-- The URL that a cut text without a scheme means, seen from a base; only a fragment can be
put to a literal path. -/
def withoutScheme (base : Url) (c : Cut) : Except UrlFault Url :=
  if c.body.isEmpty && c.query.isNone && c.fragment.isSome then .ok base
  else
    match base.path with
    | .literal _ => .error .literalBase
    | .segments _ =>
      if base.kind = .file then resolveFile (some base) c.front else relative base c

/-- **The URL that a reference means**, seen from a base. -/
def resolve (base : Option Url) (reference : String) : Except UrlFault Url :=
  let cs := trimmed reference.toList
  match scheme? cs, base with
  | some (scheme, rest), _ => (afterScheme base scheme (cut rest)).map (finish (cut rest))
  | none, some b => (withoutScheme b (cut cs)).map (finish (cut cs))
  | none, none => .error .noBase

/-- The URL that a text means by itself. -/
def parse (s : String) : Except UrlFault Url :=
  resolve none s

end BearerBridge.Url
