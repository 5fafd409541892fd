/-
# Natural numbers in settings

A count is written in decimal digits, perhaps after a plus sign, and has to fit into 64 bits.
The first character that makes this impossible decides the fault.
-/
namespace BearerBridge

/-- Why a text is no count. -/
inductive CountFault where
  | digit
  | tooLarge
  deriving DecidableEq, Repr

/-- The wording of a fault. -/
def CountFault.message : CountFault → String
  | digit => "invalid digit found in string"
  | tooLarge => "number too large to fit in target type"

/-- The number that digits spell after the number read so far. -/
def countDigits (n : Nat) : List Char → Except CountFault UInt64
  | [] => .ok (UInt64.ofNat n)
  | c :: cs =>
    if '0' ≤ c ∧ c ≤ '9' then
      let m := n * 10 + (c.toNat - 0x30)
      if m < UInt64.size then countDigits m cs else .error .tooLarge
    else .error .digit

/-- The count that a text spells. -/
def readCount (s : String) : Except CountFault UInt64 :=
  match s.toList with
  | [] => .error .digit
  | ['+'] => .error .digit
  | '+' :: cs => countDigits 0 cs
  | cs => countDigits 0 cs

end BearerBridge
