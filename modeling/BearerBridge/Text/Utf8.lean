/-
# UTF-8

Texts travel as bytes: token segments, header values and response bodies.  Writing a text
is one table on the size of a character; reading is a machine that takes one byte at a
time, so it can be used both to refuse a damaged text and to repair it.

* `decode?_encode` : what is written reads back;
* `repair_encode` : repairing changes nothing in an undamaged text.
-/
namespace BearerBridge.Utf8

/-! ## Writing -/

/-- The bytes of one character: a lead byte that tells the length, then tails of six bits. -/
def encodeChar (c : Char) : List UInt8 :=
  let n := c.toNat
  if n < 0x80 then [UInt8.ofNat n]
  else if n < 0x800 then [UInt8.ofNat (0xC0 + n / 0x40), UInt8.ofNat (0x80 + n % 0x40)]
  else if n < 0x10000 then
    [UInt8.ofNat (0xE0 + n / 0x1000), UInt8.ofNat (0x80 + n / 0x40 % 0x40),
      UInt8.ofNat (0x80 + n % 0x40)]
  else
    [UInt8.ofNat (0xF0 + n / 0x40000), UInt8.ofNat (0x80 + n / 0x1000 % 0x40),
      UInt8.ofNat (0x80 + n / 0x40 % 0x40), UInt8.ofNat (0x80 + n % 0x40)]

/-- The bytes of a text, character by character. -/
def encode (cs : List Char) : List UInt8 :=
  cs.flatMap encodeChar

/-- The bytes of a string. -/
def ofString (s : String) : List UInt8 :=
  encode s.toList

@[simp] theorem encode_nil : encode [] = [] := rfl

@[simp] theorem encode_cons (c : Char) (cs : List Char) :
    encode (c :: cs) = encodeChar c ++ encode cs := by
  simp [encode]

@[simp] theorem encode_append (a b : List Char) : encode (a ++ b) = encode a ++ encode b := by
  simp [encode]

/-! ## Reading one byte at a time -/

/-- Where a reader stands inside a character: the tails still owed, the bits read so far,
and the bounds of the next byte (narrower than a tail's after some lead bytes, which rules
out overlong forms, surrogates and code points above the last one). -/
structure Pending where
  owed : Nat
  bits : Nat
  low : Nat
  high : Nat
  deriving DecidableEq, Repr

/-- What one byte does to a reader. -/
inductive Outcome where
  /-- The byte ends a character. -/
  | complete (c : Char)
  /-- The byte belongs to a character that goes on. -/
  | more (p : Pending)
  /-- No character continues with this byte. -/
  | refused
  deriving DecidableEq, Repr

/-- The first byte of a character. -/
def lead (b : UInt8) : Outcome :=
  let n := b.toNat
  if n < 0x80 then .complete (Char.ofNat n)
  else if n < 0xC2 then .refused
  else if n < 0xE0 then .more ⟨1, n - 0xC0, 0x80, 0xBF⟩
  else if n < 0xF0 then
    .more ⟨2, n - 0xE0, if n = 0xE0 then 0xA0 else 0x80, if n = 0xED then 0x9F else 0xBF⟩
  else if n < 0xF5 then
    .more ⟨3, n - 0xF0, if n = 0xF0 then 0x90 else 0x80, if n = 0xF4 then 0x8F else 0xBF⟩
  else .refused

/-- A byte inside a character. -/
def Pending.tail (p : Pending) (b : UInt8) : Outcome :=
  let n := b.toNat
  if n < p.low ∨ p.high < n then .refused
  else
    let bits := p.bits * 0x40 + (n - 0x80)
    if p.owed ≤ 1 then .complete (Char.ofNat bits) else .more ⟨p.owed - 1, bits, 0x80, 0xBF⟩

/-- A byte between characters (`none`) or inside one. -/
def step : Option Pending → UInt8 → Outcome
  | none, b => lead b
  | some p, b => p.tail b

/-- Reads bytes to the end, failing at the first that no text continues with. -/
def run : Option Pending → List UInt8 → Option (List Char)
  | none, [] => some []
  | some _, [] => none
  | p, b :: bs =>
    match step p b with
    | .complete c => (run none bs).map (c :: ·)
    | .more q => run (some q) bs
    | .refused => none

/-- The text that the bytes hold, if they hold one. -/
def decode? (bs : List UInt8) : Option (List Char) :=
  run none bs

/-- The string that the bytes hold, if they hold one. -/
def string? (bs : List UInt8) : Option String :=
  (decode? bs).map String.ofList

/-! ## Repairing -/

/-- The character that stands for a damaged one. -/
def replacement : Char := '\uFFFD'

/-- Reads bytes to the end with one replacement character for each longest damaged start of a
character; the byte that shows the damage is read afresh. -/
def runRepairing : Option Pending → List UInt8 → List Char
  | none, [] => []
  | some _, [] => [replacement]
  | p, b :: bs =>
    match step p b with
    | .complete c => c :: runRepairing none bs
    | .more q => runRepairing (some q) bs
    | .refused =>
      match p, lead b with
      | none, _ => replacement :: runRepairing none bs
      | some _, .complete c => replacement :: c :: runRepairing none bs
      | some _, .more q => replacement :: runRepairing (some q) bs
      | some _, .refused => replacement :: replacement :: runRepairing none bs

/-- The bytes as a text, damaged characters replaced. -/
def repair (bs : List UInt8) : List Char :=
  runRepairing none bs

/-! ## A written text reads back -/

theorem run_cons (p : Option Pending) (b : UInt8) (bs : List UInt8) :
    run p (b :: bs) = match step p b with
      | .complete c => (run none bs).map (c :: ·)
      | .more q => run (some q) bs
      | .refused => none := by
  cases p <;> rfl

theorem toNat_ofNat_of_lt {n : Nat} (h : n < 0x100) : (UInt8.ofNat n).toNat = n := by
  simp [UInt8.toNat_ofNat', Nat.mod_eq_of_lt h]

/-- The code points that characters have. -/
theorem charToNat_bound (c : Char) :
    c.toNat < 0xD800 ∨ (0xDFFF < c.toNat ∧ c.toNat < 0x110000) :=
  c.valid

/-- A tail within the bounds, when it is the last one owed. -/
theorem tail_last {low high bits v : Nat} (h : v < 0x40) (hl : low ≤ 0x80 + v)
    (hh : 0x80 + v ≤ high) :
    step (some ⟨1, bits, low, high⟩) (UInt8.ofNat (0x80 + v))
      = .complete (Char.ofNat (bits * 0x40 + v)) := by
  simp only [step, Pending.tail]
  rw [toNat_ofNat_of_lt (by omega), if_neg (by omega), if_pos (Nat.le_refl 1),
    Nat.add_sub_cancel_left]

/-- A tail within the bounds, when more are owed. -/
theorem tail_more {k low high bits v : Nat} (h : v < 0x40) (hl : low ≤ 0x80 + v)
    (hh : 0x80 + v ≤ high) :
    step (some ⟨k + 2, bits, low, high⟩) (UInt8.ofNat (0x80 + v))
      = .more ⟨k + 1, bits * 0x40 + v, 0x80, 0xBF⟩ := by
  simp only [step, Pending.tail]
  rw [toNat_ofNat_of_lt (by omega), if_neg (by omega), if_neg (by omega),
    Nat.add_sub_cancel_left]
  rfl

theorem run_encodeChar (c : Char) (bs : List UInt8) :
    run none (encodeChar c ++ bs) = (run none bs).map (c :: ·) := by
  have hc := charToNat_bound c
  have hv : Char.ofNat c.toNat = c := Char.ofNat_toNat c
  unfold encodeChar
  generalize c.toNat = n at hc hv
  dsimp only
  split
  · next h1 =>
    rw [List.singleton_append, run_cons, step, lead, toNat_ofNat_of_lt (by omega)]
    simp only [h1, if_true, hv]
  split
  · next h1 h2 =>
    have hlead : step none (UInt8.ofNat (0xC0 + n / 0x40)) = .more ⟨1, n / 0x40, 0x80, 0xBF⟩ := by
      rw [step, lead, toNat_ofNat_of_lt (by omega), if_neg (by omega), if_neg (by omega),
        if_pos (by omega), Nat.add_sub_cancel_left]
    rw [List.cons_append, run_cons, hlead]
    simp only [List.cons_append, List.nil_append]
    rw [run_cons, tail_last (by omega) (by omega) (by omega),
      show n / 0x40 * 0x40 + n % 0x40 = n by omega, hv]
  split
  · next h1 h2 h3 =>
    have hlead : step none (UInt8.ofNat (0xE0 + n / 0x1000))
        = .more ⟨2, n / 0x1000, if n / 0x1000 = 0 then 0xA0 else 0x80,
            if n / 0x1000 = 0xD then 0x9F else 0xBF⟩ := by
      rw [step, lead, toNat_ofNat_of_lt (by omega), if_neg (by omega), if_neg (by omega),
        if_neg (by omega), if_pos (by omega), Nat.add_sub_cancel_left]
      simp only [show (0xE0 + n / 0x1000 = 0xE0) = (n / 0x1000 = 0) by simp,
        show (0xE0 + n / 0x1000 = 0xED) = (n / 0x1000 = 0xD) by simp only [eq_iff_iff]; omega]
    rw [List.cons_append, run_cons, hlead]
    simp only [List.cons_append, List.nil_append]
    rw [run_cons, tail_more (by omega) (by split <;> omega) (by split <;> omega)]
    simp only
    rw [run_cons, tail_last (by omega) (by omega) (by omega),
      show (n / 0x1000 * 0x40 + n / 0x40 % 0x40) * 0x40 + n % 0x40 = n by omega, hv]
  · next h1 h2 h3 =>
    have hlead : step none (UInt8.ofNat (0xF0 + n / 0x40000))
        = .more ⟨3, n / 0x40000, if n / 0x40000 = 0 then 0x90 else 0x80,
            if n / 0x40000 = 4 then 0x8F else 0xBF⟩ := by
      rw [step, lead, toNat_ofNat_of_lt (by omega), if_neg (by omega), if_neg (by omega),
        if_neg (by omega), if_neg (by omega), if_pos (by omega), Nat.add_sub_cancel_left]
      simp only [show (0xF0 + n / 0x40000 = 0xF0) = (n / 0x40000 = 0) by simp,
        show (0xF0 + n / 0x40000 = 0xF4) = (n / 0x40000 = 4) by simp only [eq_iff_iff]; omega]
    rw [List.cons_append, run_cons, hlead]
    simp only [List.cons_append, List.nil_append]
    rw [run_cons, tail_more (by omega) (by split <;> omega) (by split <;> omega)]
    simp only
    rw [run_cons, tail_more (by omega) (by omega) (by omega)]
    simp only
    rw [run_cons, tail_last (by omega) (by omega) (by omega),
      show ((n / 0x40000 * 0x40 + n / 0x1000 % 0x40) * 0x40 + n / 0x40 % 0x40) * 0x40
          + n % 0x40 = n by omega, hv]

/-- **What is written reads back.** -/
theorem decode?_encode (cs : List Char) : decode? (encode cs) = some cs := by
  unfold decode?
  induction cs with
  | nil => rfl
  | cons c cs ih => rw [encode_cons, run_encodeChar, ih]; rfl

theorem string?_ofString (s : String) : string? (ofString s) = some s := by
  simp [string?, ofString, decode?_encode]

theorem runRepairing_of_run {p : Option Pending} {bs : List UInt8} {cs : List Char}
    (h : run p bs = some cs) : runRepairing p bs = cs := by
  induction bs generalizing p cs with
  | nil => cases p <;> simp_all [run, runRepairing]
  | cons b bs ih =>
    rw [run_cons] at h
    rw [runRepairing.eq_def]
    split at h
    · next c hs =>
      obtain ⟨ds, hd, rfl⟩ := Option.map_eq_some_iff.1 h
      simp [hs, ih hd]
    · next q hs => simp [hs, ih h]
    · exact absurd h (by simp)

/-- **Repairing changes nothing in an undamaged text.** -/
theorem repair_encode (cs : List Char) : repair (encode cs) = cs :=
  runRepairing_of_run (decode?_encode cs)

end BearerBridge.Utf8
