/-
# Records in JSON

A record is read from an object by the names of its parts, or from an array by their order.
Members with other names are passed over unread; a part that occurs twice spoils the record.
-/
import BearerBridge.Json.Value

namespace BearerBridge.Json

/-! ## Parts by name -/

/-- The one item of a given name: `some none` when there is none, `none` when there are two. -/
def unique? {α : Type} (name : String) (ms : List (String × α)) : Option (Option α) :=
  match ms.filter (·.1 == name) with
  | [] => some none
  | [m] => some (some m.2)
  | _ => none

/-- The members of an object with their names resolved. -/
def named? : List (List UInt8 × Tree) → Option (List (String × Tree))
  | [] => some []
  | (body, t) :: ms =>
    match textOfBody? body, named? ms with
    | some name, some rest => some ((name, t) :: rest)
    | _, _ => none

/-- The parts of a record in the order of their names, absent ones included. -/
def Tree.parts? (names : List String) : Tree → Option (List (Option Tree))
  | .object members => (named? members).bind (fun ms => names.mapM (unique? · ms))
  | .array items =>
    if names.length < items.length then none
    else some (items.map some ++ List.replicate (names.length - items.length) none)
  | _ => none

/-! ## Kinds of parts -/

/-- A text. -/
def Tree.text? : Tree → Option String
  | .text body => textOfBody? body
  | _ => none

/-- A text that may be absent or null. -/
def optionalText? : Option Tree → Option (Option String)
  | none => some none
  | some .null => some none
  | some t => t.text?.map some

/-- A list of texts. -/
def Tree.texts? : Tree → Option (List String)
  | .array items => items.mapM Tree.text?
  | _ => none

/-- A list of texts that may be absent or null. -/
def optionalTexts? : Option Tree → Option (Option (List String))
  | none => some none
  | some .null => some none
  | some t => t.texts?.map some

/-- One of several words, written as a text or as the only member of an object, with null. -/
def Tree.word? (words : List String) : Tree → Option String
  | .text body => (textOfBody? body).filter (words.contains ·)
  | .object [(body, .null)] => (textOfBody? body).filter (words.contains ·)
  | _ => none

/-- An integer that 64 bits with sign hold. -/
def Number.int64? : Number → Option Int64
  | .integer n =>
    if Int64.minValue.toInt ≤ n ∧ n ≤ Int64.maxValue.toInt then some (Int64.ofInt n) else none
  | .real _ _ => none

/-- An integer that 64 bits with sign hold, read from a tree. -/
def Tree.int64? : Tree → Option Int64
  | .number n => n.number?.bind Number.int64?
  | _ => none

/-- **An integer of 64 bits reads back.** -/
theorem int64?_toInt (n : Int64) : (Number.integer n.toInt).int64? = some n := by
  rw [Number.int64?, if_pos ⟨n.minValue_le_toInt, n.toInt_le⟩, Int64.ofInt_toInt]

end BearerBridge.Json
