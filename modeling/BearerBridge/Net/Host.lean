/-
# Hosts

The host of a URL is a domain or an address.  A domain is spelled in ASCII; one that ends in a
number has to be an address of version 4, whose numbers may be written in three bases.

* `Host.parse` : the host that a text names under a scheme with hosts of its own;
* `Host.parseLiteral` : the host under any other scheme, where a text stands for itself.
-/
import BearerBridge.Net.Domain
import BearerBridge.Net.Ip
import BearerBridge.Text.Percent

namespace BearerBridge

/-- Why a text is no URL. -/
inductive UrlFault where
  | emptyHost
  | domainName
  | port
  | address4
  | address6
  | domainCharacter
  | noBase
  /-- The base has a literal path. -/
  | literalBase
  deriving DecidableEq, Repr

/-- The wording of a fault. -/
def UrlFault.message : UrlFault → String
  | emptyHost => "empty host"
  | domainName => "invalid international domain name"
  | port => "invalid port number"
  | address4 => "invalid IPv4 address"
  | address6 => "invalid IPv6 address"
  | domainCharacter => "invalid domain character"
  | noBase => "relative URL without a base"
  | literalBase => "relative URL with a cannot-be-a-base base"

/-- The host of a URL. -/
inductive Host where
  /-- A domain in ASCII; the empty one stands for no host. -/
  | domain (name : String)
  | address (a : Address)
  deriving DecidableEq, Repr

namespace Host

/-- The groups of an address of version 6. -/
def groups : Address → List UInt16
  | .v6 a b c d e f g h => [a, b, c, d, e, f, g, h]
  | .v4 high low => [0, 0, 0, 0, 0, 0xFFFF, high, low]

/-- The text of a host; an address of version 6 stands in brackets. -/
def text : Host → String
  | domain name => name
  | address (.v4 high low) => Address.text4 high low
  | address a => "[" ++ Address.text6 (groups a) ++ "]"

/-! ## Numbers that are addresses -/

/-- A number in base 10, in base 8 after a zero, or in base 16 after a zero and an x. -/
def number? (cs : List Char) : Option Nat :=
  let inBase (base : Nat) (ds : List Char) : Option Nat :=
    match Address.digitRun base ds with
    | (values, []) => some (Address.digitsValue base values)
    | _ => none
  match cs with
  | [] => none
  | '0' :: 'x' :: ds => inBase 16 ds
  | '0' :: 'X' :: ds => inBase 16 ds
  | '0' :: d :: ds => inBase 8 (d :: ds)
  | ds => inBase 10 ds

/-- The labels of a domain, without the empty one after a point at the end. -/
def labels (cs : List Char) : List (List Char) :=
  match (splitAll '.' cs).reverse with
  | [] :: (l :: ls) => (l :: ls).reverse
  | ls => ls.reverse

/-- Whether the last label of a domain is a number. -/
def endsInNumber (cs : List Char) : Bool :=
  match (labels cs).getLast? with
  | some l => (l != [] && l.all Char.isDigit) || (number? l).isSome
  | none => false

/-- The address of version 4 that numbers name; the last one fills what the others leave. -/
def ofNumbers? : List Nat → Nat → Nat → Option Nat
  | [], _, _ => none
  | [n], room, sum => if n < room then some (sum + n) else none
  | n :: ns, room, sum =>
    if n ≤ 255 then ofNumbers? ns (room / 256) (sum + n * (room / 256)) else none

/-- The address of version 4 that a domain names. -/
def address4? (cs : List Char) : Option Address := do
  let ls := labels cs
  if 4 < ls.length then none
  let n ← ofNumbers? (← ls.mapM number?) UInt32.size 0
  return .v4 (UInt16.ofNat (n / 0x10000)) (UInt16.ofNat (n % 0x10000))

/-! ## Hosts -/

/-- An address of version 6 in brackets. -/
def parseBrackets (cs : List Char) : Except UrlFault Host :=
  match cs.reverse with
  | ']' :: inside =>
    match Address.read6 inside.reverse with
    | some (a, []) => .ok (.address a)
    | _ => .error .address6
  | _ => .error .address6

/-- The host that a text names under a scheme with hosts of its own. -/
def parse (cs : List Char) : Except UrlFault Host :=
  match cs with
  | '[' :: rest => parseBrackets rest
  | _ =>
    match (Utf8.decode? (Percent.decode (Utf8.encode cs))).bind Domain.ascii? with
    | none => .error .domainName
    | some [] => .error .emptyHost
    | some name =>
      if endsInNumber name then
        match address4? name with
        | some a => .ok (.address a)
        | none => .error .address4
      else .ok (.domain (String.ofList name))

/-- The characters that no literal host may hold. -/
def isHostDelimiter (c : Char) : Bool :=
  ['\x00', '\t', '\n', '\r', ' ', '#', '/', ':', '<', '>', '?', '@', '[', '\\', ']', '^',
    '|'].contains c

/-- The host under a scheme without hosts of its own. -/
def parseLiteral (cs : List Char) : Except UrlFault Host :=
  match cs with
  | '[' :: rest => parseBrackets rest
  | _ =>
    if cs.any isHostDelimiter then .error .domainCharacter
    else .ok (.domain (String.ofList (Percent.encode Percent.control cs)))

end Host

end BearerBridge
