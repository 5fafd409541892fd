/-
# Spans of time

A span is told in its largest unit with as few decimals as it needs.
-/
namespace BearerBridge

/-- Thousandths after a point, without zeros at the end. -/
def thousandths (n : Nat) : List Char :=
  let ds := [n / 100 % 10, n / 10 % 10, n % 10]
  match (ds.reverse.dropWhile (· = 0)).reverse with
  | [] => []
  | shown => '.' :: shown.map Nat.digitChar

/-- The description of a span given in milliseconds. -/
def describeMillis (n : Nat) : String :=
  if n = 0 then "0ns"
  else if n < 1000 then toString n ++ "ms"
  else toString (n / 1000) ++ String.ofList (thousandths (n % 1000)) ++ "s"

/-- The description of a span given in seconds. -/
def describeSeconds (n : Nat) : String :=
  describeMillis (1000 * n)

end BearerBridge
