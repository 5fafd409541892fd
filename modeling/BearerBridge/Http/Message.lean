/-
# Requests and responses

The parts of HTTP messages that the bridge looks at.  Header names are kept in lower case; header
values are bytes, and read as text only when every byte is a visible ASCII character, a space or
a tab.
-/
import BearerBridge.Http.Target
import BearerBridge.Json.Value
import BearerBridge.Net.Ip
import BearerBridge.Text.Percent

namespace BearerBridge

namespace Http

/-! ## Headers -/

/-- The characters of header names, letters in lower case. -/
def isNameChar (c : Char) : Bool :=
  ('a' ≤ c && c ≤ 'z') || ('0' ≤ c && c ≤ '9')
    || ['!', '#', '$', '%', '&', '\'', '*', '+', '-', '.', '^', '_', '\x60', '|', '~'].contains c

/-- The longest header name. -/
def maxNameLength : Nat := 65535

/-- The header name that a text spells, letters in lower case. -/
def headerName? (s : String) : Option String :=
  let name := Ascii.lower s
  if name ≠ "" ∧ name.toList.all isNameChar ∧ name.toList.length ≤ maxNameLength then some name
  else none

/-- Headers in order. -/
abbrev Headers := List (String × List UInt8)

/-- A byte that stands for a character in a header value read as text. -/
def isTextByte (b : UInt8) : Bool :=
  (0x20 ≤ b && b ≤ 0x7E) || b == 0x09

/-- A byte that a header value may hold. -/
def isValueByte (b : UInt8) : Bool :=
  (0x20 ≤ b && b != 0x7F) || b == 0x09

/-- A header value as text, if it reads as text. -/
def valueText? (v : List UInt8) : Option String :=
  if v.all isTextByte then some (String.ofList (v.map Ascii.char)) else none

namespace Headers

/-- The values of a name, in order. -/
def values (hs : Headers) (name : String) : List (List UInt8) :=
  (hs.filter (·.1 == name)).map (·.2)

/-- The first value of a name. -/
def get? (hs : Headers) (name : String) : Option (List UInt8) :=
  (hs.find? (·.1 == name)).map (·.2)

/-- The first value of a name, when it reads as text. -/
def text? (hs : Headers) (name : String) : Option String :=
  (hs.get? name).bind valueText?

end Headers

/-! ## Requests -/

/-- The versions of the protocol. -/
inductive Version where
  | v09
  | v10
  | v11
  | v20
  | v30
  deriving DecidableEq, Repr

/-- The name of a version. -/
def Version.name : Version → String
  | v09 => "HTTP/0.9"
  | v10 => "HTTP/1.0"
  | v11 => "HTTP/1.1"
  | v20 => "HTTP/2.0"
  | v30 => "HTTP/3.0"

/-- The version of a name. -/
def Version.ofName? (s : String) : Option Version :=
  [v09, v10, v11, v20, v30].find? (·.name == s)

/-- A request. -/
structure Request where
  method : String
  target : Target
  version : Version
  headers : Headers
  /-- The address that the request comes from, if it is known. -/
  peer : Option Address
  deriving DecidableEq, Repr

/-! ## Responses -/

/-- A response; its headers are sorted by name. -/
structure Response where
  status : Nat
  headers : List (String × String)
  body : String
  deriving DecidableEq, Repr

namespace Response

/-- The response with a header put into its place by name. -/
def withHeader (r : Response) (name value : String) : Response :=
  { r with
    headers := r.headers.takeWhile (·.1 < name) ++ (name, value)
      :: r.headers.dropWhile (·.1 < name) }

/-- A response with a body of some type. -/
def ofBody (status : Nat) (type body : String) : Response :=
  ⟨status, [("content-length", toString body.utf8ByteSize), ("content-type", type)], body⟩

/-- A response with a plain text. -/
def plain (status : Nat) (body : String) : Response :=
  ofBody status "text/plain; charset=utf-8" body

/-- A response with a JSON object. -/
def json (status : Nat) (members : List (String × Json.Value)) : Response :=
  ofBody status "application/json" (String.ofList (Json.objectChars members))

/-- A response without a body. -/
def empty (status : Nat) : Response :=
  ⟨status, [("content-length", "0")], ""⟩

/-- The response without its body. -/
def withoutBody (r : Response) : Response :=
  { r with body := "" }

end Response

/-! ## Queries -/

/-- A part of a form: plus signs are spaces, escapes are resolved, damage is repaired. -/
def formText (cs : List Char) : String :=
  let spaced := cs.map (fun c => if c = '+' then ' ' else c)
  String.ofList (Utf8.repair (Percent.decode (Utf8.encode spaced)))

/-- The pairs of a query. -/
def formPairs (query : String) : List (String × String) :=
  ((splitAll '&' query.toList).filter (· ≠ [])).map fun piece =>
    let (name, value) := upTo '=' piece
    (formText name, formText (value.getD []))

end Http

end BearerBridge
