/-
# Base64

Three bytes become four symbols of six bits.  Two variants are in use: the one of compact
tokens, with the URL-safe alphabet and without padding, and the one of key material, with the
standard alphabet and padding.  Reading is strict, and a refused text is refused for the first
fault that a reader of whole quads meets.

* `decode_encode` : what is written reads back;
* `length_encode_url` : four symbols for three bytes, and no padding.
-/
import BearerBridge.Text.Ascii
import BearerBridge.Text.Utf8

namespace BearerBridge.Base64

/-! ## Variants -/

/-- The last two symbols of the alphabet, and whether a short last quad is filled up. -/
structure Variant where
  sixtyTwo : Char
  sixtyThree : Char
  padded : Bool
  deriving DecidableEq, Repr

/-- The variant of compact tokens. -/
def url : Variant := ⟨'-', '_', false⟩

/-- The variant of key material. -/
def standard : Variant := ⟨'+', '/', true⟩

/-- The byte that fills up a short last quad. -/
def padding : UInt8 := Ascii.byte '='

/-- The symbol of six bits. -/
def Variant.symbol (v : Variant) (n : Nat) : UInt8 :=
  if n < 26 then UInt8.ofNat (0x41 + n)
  else if n < 52 then UInt8.ofNat (0x61 + (n - 26))
  else if n < 62 then UInt8.ofNat (0x30 + (n - 52))
  else if n = 62 then Ascii.byte v.sixtyTwo
  else Ascii.byte v.sixtyThree

/-- The six bits of a symbol. -/
def Variant.bits? (v : Variant) (b : UInt8) : Option Nat :=
  let n := b.toNat
  if 0x41 ≤ n ∧ n ≤ 0x5A then some (n - 0x41)
  else if 0x61 ≤ n ∧ n ≤ 0x7A then some (n - 0x61 + 26)
  else if 0x30 ≤ n ∧ n ≤ 0x39 then some (n - 0x30 + 52)
  else if b = Ascii.byte v.sixtyTwo then some 62
  else if b = Ascii.byte v.sixtyThree then some 63
  else none

/-! ## Writing -/

/-- The symbols of a byte sequence. -/
def encode (v : Variant) : List UInt8 → List UInt8
  | [] => []
  | [x] =>
    [v.symbol (x.toNat / 4), v.symbol (x.toNat % 4 * 16)]
      ++ if v.padded then [padding, padding] else []
  | [x, y] =>
    [v.symbol (x.toNat / 4), v.symbol (x.toNat % 4 * 16 + y.toNat / 16),
      v.symbol (y.toNat % 16 * 4)]
      ++ if v.padded then [padding] else []
  | x :: y :: z :: rest =>
    v.symbol (x.toNat / 4) :: v.symbol (x.toNat % 4 * 16 + y.toNat / 16)
      :: v.symbol (y.toNat % 16 * 4 + z.toNat / 64) :: v.symbol (z.toNat % 64)
      :: encode v rest

/-- The symbols as a text. -/
def text (v : Variant) (bs : List UInt8) : String :=
  String.ofList ((encode v bs).map Ascii.char)

/-! ## Reading -/

/-- Why a text is no base64. -/
inductive Fault where
  /-- A byte outside the alphabet, or padding where none may stand. -/
  | symbol (byte : UInt8) (offset : Nat)
  /-- A last symbol with bits that belong to no byte. -/
  | lastSymbol (byte : UInt8) (offset : Nat)
  /-- A last quad of fewer than two symbols. -/
  | length (count : Nat)
  /-- A last quad not filled up, or filled up where that is not allowed. -/
  | padding
  deriving DecidableEq, Repr

/-- The wording of a fault. -/
def Fault.message : Fault → String
  | .symbol b k => "Invalid symbol " ++ toString b.toNat ++ ", offset " ++ toString k ++ "."
  | .lastSymbol b k =>
    "Invalid last symbol " ++ toString b.toNat ++ ", offset " ++ toString k ++ "."
  | .length n => "Invalid input length: " ++ toString n
  | .padding => "Invalid padding"

/-- The six bits of the symbol at an offset. -/
def Variant.bits (v : Variant) (offset : Nat) (b : UInt8) : Except Fault Nat :=
  match v.bits? b with
  | some n => .ok n
  | none => .error (.symbol b offset)

/-- The symbols of a last quad with the number of padding bytes after them, `seen` of its bytes
being read. -/
def lastQuad (v : Variant) (offset : Nat) :
    Nat → List UInt8 → Except Fault (List (UInt8 × Nat) × Nat)
  | _, [] => .ok ([], 0)
  | seen, b :: bs =>
    if b = padding then
      if seen < 2 then .error (.symbol b (offset + seen))
      else if bs.all (· == padding) then .ok ([], bs.length + 1)
      else .error (.symbol b (offset + seen))
    else do
      let n ← v.bits (offset + seen) b
      let (symbols, fill) ← lastQuad v offset (seen + 1) bs
      return ((b, n) :: symbols, fill)

/-- The bytes of a last quad. -/
def decodeLast (v : Variant) (offset : Nat) (bs : List UInt8) : Except Fault (List UInt8) := do
  let (symbols, fill) ← lastQuad v offset 0 bs
  if symbols.length < 2 then throw (.length (offset + symbols.length))
  if (if v.padded then symbols.length + fill ≠ 4 else fill ≠ 0) then throw .padding
  match symbols with
  | [(_, a), (s, b)] =>
    if b % 16 ≠ 0 then throw (.lastSymbol s (offset + 1))
    return [UInt8.ofNat (a * 4 + b / 16)]
  | [(_, a), (_, b), (s, c)] =>
    if c % 4 ≠ 0 then throw (.lastSymbol s (offset + 2))
    return [UInt8.ofNat (a * 4 + b / 16), UInt8.ofNat (b * 16 + c / 4)]
  | [(_, a), (_, b), (_, c), (_, d)] =>
    return [UInt8.ofNat (a * 4 + b / 16), UInt8.ofNat (b * 16 + c / 4), UInt8.ofNat (c * 64 + d)]
  | _ => throw (.length (offset + symbols.length))

/-- Reads whole quads up to the last one, which may be short. -/
def decodeFrom (v : Variant) (offset : Nat) : List UInt8 → Except Fault (List UInt8)
  | a :: b :: c :: d :: e :: rest => do
    let w ← v.bits offset a
    let x ← v.bits (offset + 1) b
    let y ← v.bits (offset + 2) c
    let z ← v.bits (offset + 3) d
    let more ← decodeFrom v (offset + 4) (e :: rest)
    return UInt8.ofNat (w * 4 + x / 16) :: UInt8.ofNat (x * 16 + y / 4)
      :: UInt8.ofNat (y * 64 + z) :: more
  | [] => .ok []
  | last => decodeLast v offset last

/-- The bytes that a text spells.  A foreign byte that stands alone after whole quads is told
before any other fault. -/
def decode (v : Variant) (bs : List UInt8) : Except Fault (List UInt8) :=
  match bs.getLast? with
  | some b =>
    if bs.length % 4 = 1 ∧ b ≠ padding ∧ v.bits? b = none then
      .error (.symbol b (bs.length - 1))
    else decodeFrom v 0 bs
  | none => decodeFrom v 0 bs

/-- The bytes that a text spells, if it spells any. -/
def decode? (v : Variant) (s : String) : Option (List UInt8) :=
  (decode v (Utf8.ofString s)).toOption

/-! ## What is written reads back -/

/-- The two variants in use. -/
def Known (v : Variant) : Prop := v = url ∨ v = standard

theorem bits?_symbol {v : Variant} (hv : Known v) {n : Nat} (h : n < 64) :
    v.bits? (v.symbol n) = some n := by
  have key : ∀ n < 64, url.bits? (url.symbol n) = some n
      ∧ standard.bits? (standard.symbol n) = some n := by decide
  rcases hv with rfl | rfl
  · exact (key n h).1
  · exact (key n h).2

theorem symbol_ne_padding {v : Variant} (hv : Known v) {n : Nat} (h : n < 64) :
    v.symbol n ≠ padding := by
  have key : ∀ n < 64, url.symbol n ≠ padding ∧ standard.symbol n ≠ padding := by decide
  rcases hv with rfl | rfl
  · exact (key n h).1
  · exact (key n h).2

theorem bits_symbol {v : Variant} (hv : Known v) {n : Nat} (h : n < 64) (k : Nat) :
    v.bits k (v.symbol n) = .ok n := by
  rw [Variant.bits, bits?_symbol hv h]

theorem ofNat_toNat_of_eq {n : Nat} {x : UInt8} (h : n % 256 = x.toNat) : UInt8.ofNat n = x :=
  UInt8.toNat_inj.1 (by rw [UInt8.toNat_ofNat', h])

theorem lastQuad_symbol {v : Variant} (hv : Known v) {n : Nat} (h : n < 64) (k seen : Nat)
    (bs : List UInt8) :
    lastQuad v k seen (v.symbol n :: bs)
      = (lastQuad v k (seen + 1) bs).map (fun r => ((v.symbol n, n) :: r.1, r.2)) := by
  rw [lastQuad, if_neg (symbol_ne_padding hv h), bits_symbol hv h]
  cases lastQuad v k (seen + 1) bs <;> rfl

theorem lastQuad_nil (v : Variant) (k seen : Nat) : lastQuad v k seen [] = .ok ([], 0) := rfl

theorem decodeFrom_encode {v : Variant} (hv : Known v) (bs : List UInt8) (k : Nat) :
    decodeFrom v k (encode v bs) = .ok bs := by
  have lt (x : UInt8) : x.toNat < 256 := x.toNat_lt
  fun_induction encode v bs generalizing k with
  | case1 => rfl
  | case2 x =>
    have h1 : x.toNat / 4 < 64 := by have := lt x; omega
    have h2 : x.toNat % 4 * 16 < 64 := by omega
    have e1 : x.toNat % 4 * 16 % 16 = 0 := by omega
    have e2 : UInt8.ofNat (x.toNat / 4 * 4 + x.toNat % 4 * 16 / 16) = x :=
      ofNat_toNat_of_eq (by have := lt x; omega)
    have key : ∀ fill, lastQuad v k 2 fill = .ok ([], fill.length) →
        (if v.padded then 2 + fill.length ≠ 4 else fill.length ≠ 0) = False →
        decodeLast v k (v.symbol (x.toNat / 4) :: v.symbol (x.toNat % 4 * 16) :: fill)
          = .ok [x] := by
      intro fill hf hp
      simp only [decodeLast, lastQuad_symbol hv h1, lastQuad_symbol hv h2, hf, Except.map,
        bind, Except.bind, List.length_cons, List.length_nil, Nat.zero_add, hp, e1, e2]
      rfl
    rcases hv with rfl | rfl
    · exact key [] rfl (by simp [url])
    · exact key [padding, padding] rfl (by simp [standard])
  | case3 x y =>
    have h1 : x.toNat / 4 < 64 := by have := lt x; omega
    have h2 : x.toNat % 4 * 16 + y.toNat / 16 < 64 := by have := lt y; omega
    have h3 : y.toNat % 16 * 4 < 64 := by omega
    have e1 : y.toNat % 16 * 4 % 4 = 0 := by omega
    have e2 : UInt8.ofNat (x.toNat / 4 * 4 + (x.toNat % 4 * 16 + y.toNat / 16) / 16) = x :=
      ofNat_toNat_of_eq (by have := lt x; have := lt y; omega)
    have e3 : UInt8.ofNat ((x.toNat % 4 * 16 + y.toNat / 16) * 16 + y.toNat % 16 * 4 / 4) = y :=
      ofNat_toNat_of_eq (by have := lt x; have := lt y; omega)
    have key : ∀ fill, lastQuad v k 3 fill = .ok ([], fill.length) →
        (if v.padded then 3 + fill.length ≠ 4 else fill.length ≠ 0) = False →
        decodeLast v k (v.symbol (x.toNat / 4) :: v.symbol (x.toNat % 4 * 16 + y.toNat / 16)
          :: v.symbol (y.toNat % 16 * 4) :: fill) = .ok [x, y] := by
      intro fill hf hp
      simp only [decodeLast, lastQuad_symbol hv h1, lastQuad_symbol hv h2, lastQuad_symbol hv h3,
        hf, Except.map, bind, Except.bind, List.length_cons, List.length_nil, Nat.zero_add, hp,
        e1, e2, e3]
      rfl
    rcases hv with rfl | rfl
    · exact key [] rfl (by simp [url])
    · exact key [padding] rfl (by simp [standard])
  | case4 x y z rest ih =>
    have h1 : x.toNat / 4 < 64 := by have := lt x; omega
    have h2 : x.toNat % 4 * 16 + y.toNat / 16 < 64 := by have := lt y; omega
    have h3 : y.toNat % 16 * 4 + z.toNat / 64 < 64 := by have := lt z; omega
    have h4 : z.toNat % 64 < 64 := by omega
    have e1 : UInt8.ofNat (x.toNat / 4 * 4 + (x.toNat % 4 * 16 + y.toNat / 16) / 16) = x :=
      ofNat_toNat_of_eq (by have := lt x; have := lt y; omega)
    have e2 : UInt8.ofNat ((x.toNat % 4 * 16 + y.toNat / 16) * 16
        + (y.toNat % 16 * 4 + z.toNat / 64) / 4) = y :=
      ofNat_toNat_of_eq (by have := lt x; have := lt y; have := lt z; omega)
    have e3 : UInt8.ofNat ((y.toNat % 16 * 4 + z.toNat / 64) * 64 + z.toNat % 64) = z :=
      ofNat_toNat_of_eq (by have := lt y; have := lt z; omega)
    cases hr : encode v rest with
    | nil =>
      have hn : rest = [] := by
        have h := ih 0
        rw [hr] at h
        exact (Except.ok.inj h).symm
      subst hn
      have hp : (if v.padded then 1 + 1 + 1 + 1 + 0 ≠ 4 else (0 : Nat) ≠ 0) = False := by simp
      simp only [decodeFrom, decodeLast, lastQuad_symbol hv h1, lastQuad_symbol hv h2,
        lastQuad_symbol hv h3, lastQuad_symbol hv h4, lastQuad_nil, Except.map, bind, Except.bind,
        List.length_cons, List.length_nil, Nat.zero_add, hp, e1, e2, e3]
      rfl
    | cons e es =>
      have h := ih (k + 4)
      rw [hr] at h
      simp only [decodeFrom, bits_symbol hv h1, bits_symbol hv h2, bits_symbol hv h3,
        bits_symbol hv h4, bind, Except.bind, h, e1, e2, e3]
      rfl

theorem length_encode_mod {v : Variant} (bs : List UInt8) : (encode v bs).length % 4 ≠ 1 := by
  fun_induction encode v bs with
  | case1 => simp
  | case2 x => cases v.padded <;> simp
  | case3 x y => cases v.padded <;> simp
  | case4 x y z rest ih =>
    simp only [List.length_cons]
    omega

/-- **What is written reads back.** -/
theorem decode_encode {v : Variant} (hv : Known v) (bs : List UInt8) :
    decode v (encode v bs) = .ok bs := by
  unfold decode
  split
  · rw [if_neg (fun h => length_encode_mod bs h.1), decodeFrom_encode hv]
  · rw [decodeFrom_encode hv]

/-- Every byte of a text in the URL-safe variant is a letter, a digit, a dash or a low line. -/
theorem mem_encode_url {b : UInt8} {bs : List UInt8} (h : b ∈ encode url bs) :
    ∃ n < 64, b = url.symbol n := by
  have lt (x : UInt8) : x.toNat < 256 := x.toNat_lt
  fun_induction encode url bs with
  | case1 => simp at h
  | case2 x =>
    simp only [url, Bool.false_eq_true, if_false, List.append_nil, List.mem_cons,
      List.not_mem_nil, or_false] at h
    rcases h with rfl | rfl
    · exact ⟨_, by have := lt x; omega, rfl⟩
    · exact ⟨_, by omega, rfl⟩
  | case3 x y =>
    simp only [url, Bool.false_eq_true, if_false, List.append_nil, List.mem_cons,
      List.not_mem_nil, or_false] at h
    rcases h with rfl | rfl | rfl
    · exact ⟨_, by have := lt x; omega, rfl⟩
    · exact ⟨_, by have := lt y; omega, rfl⟩
    · exact ⟨_, by omega, rfl⟩
  | case4 x y z rest ih =>
    simp only [List.mem_cons] at h
    rcases h with rfl | rfl | rfl | rfl | h
    · exact ⟨_, by have := lt x; omega, rfl⟩
    · exact ⟨_, by have := lt y; omega, rfl⟩
    · exact ⟨_, by have := lt z; omega, rfl⟩
    · exact ⟨_, by omega, rfl⟩
    · exact ih h

/-- **Four symbols for three bytes, and no padding.** -/
theorem length_encode_url (bs : List UInt8) :
    (encode url bs).length = (4 * bs.length + 2) / 3 := by
  fun_induction encode url bs with
  | case1 => rfl
  | case2 x => simp [url]
  | case3 x y => simp [url]
  | case4 x y z rest ih =>
    simp only [List.length_cons, ih]
    omega

end BearerBridge.Base64
