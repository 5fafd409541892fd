/-
# URLs

A URL has a scheme, perhaps an authority, a path, and perhaps a query and a fragment.  Its path
is a list of segments, or a literal text under schemes without hierarchy.

* `Url.text` : the one text of a URL.
-/
import BearerBridge.Net.Host

namespace BearerBridge

/-- The path of a URL. -/
inductive UrlPath where
  | literal (text : String)
  | segments (ss : List String)
  deriving DecidableEq, Repr

/-- An absolute URL, everything in it escaped. -/
structure Url where
  scheme : String
  username : String
  /-- Empty for no password. -/
  password : String
  host : Option Host
  port : Option Nat
  path : UrlPath
  query : Option String
  fragment : Option String
  deriving DecidableEq, Repr

namespace Url

/-! ## Schemes -/

/-- The ways in which schemes are read. -/
inductive Kind where
  /-- Paths with drives, hardly a host. -/
  | file
  /-- A host is required, and a backslash counts as a slash. -/
  | network
  | general
  deriving DecidableEq, Repr

/-- The port that a scheme implies. -/
def defaultPort? : String → Option Nat
  | "http" => some 80
  | "ws" => some 80
  | "https" => some 443
  | "wss" => some 443
  | "ftp" => some 21
  | _ => none

/-- The way in which a scheme is read. -/
def kindOf (scheme : String) : Kind :=
  if scheme = "file" then .file
  else if (defaultPort? scheme).isSome then .network
  else .general

/-- The way in which a URL's scheme is read. -/
def kind (u : Url) : Kind := kindOf u.scheme

/-! ## Writing -/

/-- The text of a path. -/
def pathText : UrlPath → String
  | .literal s => s
  | .segments ss => String.join (ss.map ("/" ++ ·))

/-- The text of name and password. -/
def userText (u : Url) : String :=
  if u.username = "" ∧ u.password = "" then ""
  else u.username ++ (if u.password = "" then "" else ":" ++ u.password) ++ "@"

/-- The text of the authority; without one, a path that looks like one is set off. -/
def authorityText (u : Url) : String :=
  match u.host with
  | some h =>
    "//" ++ u.userText ++ h.text ++ ((u.port.map (fun n => ":" ++ toString n)).getD "")
  | none =>
    match u.path with
    | .segments ("" :: _ :: _) => "/."
    | _ => ""

/-- **The text of a URL.** -/
def text (u : Url) : String :=
  u.scheme ++ ":" ++ u.authorityText ++ pathText u.path
    ++ ((u.query.map ("?" ++ ·)).getD "") ++ ((u.fragment.map ("#" ++ ·)).getD "")

end Url

end BearerBridge
