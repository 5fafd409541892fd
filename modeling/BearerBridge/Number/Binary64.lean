/-
# Floating-point magnitudes

A magnitude is a finite double without its sign, as an exact multiple of a power of two.
Rounding, products and quotients are computed in natural numbers, and so is the shortest
decimal that reads back.

* `roundRatio` : the nearest magnitude to a ratio, a tie going to the even one;
* `Magnitude.shortest` : the fewest decimal digits that tell a magnitude from its neighbours.
-/
namespace BearerBridge.Binary64

/-! ## Magnitudes -/

/-- The magnitude `mantissa * 2 ^ scale / 2 ^ 1074`. -/
structure Magnitude where
  mantissa : Nat
  scale : Nat
  deriving DecidableEq, Repr

/-- The number of quanta of the least magnitude in one. -/
def unit : Nat := 1 <<< 1074

/-- The value of a magnitude, in quanta. -/
def Magnitude.quanta (x : Magnitude) : Nat :=
  x.mantissa <<< x.scale

/-- The magnitude zero. -/
def zero : Magnitude := ⟨0, 0⟩

/-- A quotient rounded to the nearest number, a tie going to the even one. -/
def divRound (num den : Nat) : Nat :=
  let q := num / den
  let r := num % den
  if 2 * r < den then q
  else if den < 2 * r then q + 1
  else if q % 2 = 0 then q else q + 1

/-- The number of binary digits. -/
def bitLength (n : Nat) : Nat :=
  if n = 0 then 0 else Nat.log2 n + 1

/-- The magnitude nearest to `num / den`, unless it is beyond the greatest one. -/
def roundRatio (num den : Nat) : Option Magnitude :=
  let num := num * unit
  let scale := bitLength (num / den) - 53
  let mantissa := divRound num (den <<< scale)
  let x : Magnitude := if mantissa = 1 <<< 53 then ⟨1 <<< 52, scale + 1⟩ else ⟨mantissa, scale⟩
  if 2045 < x.scale then none else some x

/-- The magnitude nearest to a product. -/
def Magnitude.times (x y : Magnitude) : Option Magnitude :=
  roundRatio (x.quanta * y.quanta) (unit * unit)

/-- The magnitude nearest to a quotient. -/
def Magnitude.dividedBy (x y : Magnitude) : Option Magnitude :=
  roundRatio x.quanta y.quanta

/-! ## Decimal scaling -/

/-- A power of ten. -/
def tenToThe (k : Nat) : Nat :=
  Nat.pow 10 k

/-- The magnitude nearest to a power of ten, for exponents up to 308. -/
def powerOfTen (k : Nat) : Magnitude :=
  (roundRatio (tenToThe k) 1).getD zero

/-- A magnitude divided by a power of ten, in steps of 308 places.  A number of at most 64 bits
is zero after two such steps, so three rounds are enough. -/
def Magnitude.scaleDown : Nat → Magnitude → Nat → Option Magnitude
  | 0, _, _ => some zero
  | rounds + 1, x, k =>
    if k ≤ 308 then x.dividedBy (powerOfTen k)
    else if x.mantissa = 0 then some x
    else (x.dividedBy (powerOfTen 308)).bind (fun y => y.scaleDown rounds (k - 308))

/-- A significand times a power of ten: first the significand is rounded, then the product or
quotient with the rounded power. -/
def ofDecimal (significand : Nat) (exponent : Int) : Option Magnitude :=
  (roundRatio significand 1).bind fun x =>
    if 0 ≤ exponent then
      if exponent ≤ 308 then x.times (powerOfTen exponent.toNat)
      else if significand = 0 then some zero else none
    else x.scaleDown 3 exponent.natAbs

/-! ## Shortest digits -/

/-- Whether `num / den` lies so near to a magnitude that it rounds to it: half a step up, half a
step down (a quarter below a power of two), the ends included when the mantissa is even. -/
def Magnitude.covers (x : Magnitude) (num den : Nat) : Bool :=
  let quarter := 1 <<< x.scale
  let low := 4 * x.quanta - (if x.mantissa = 1 <<< 52 ∧ 0 < x.scale then 1 else 2) * quarter
  let high := 4 * x.quanta + 2 * quarter
  let n := 4 * num * unit
  if x.mantissa % 2 = 0 then low * den ≤ n && n ≤ high * den
  else low * den < n && n < high * den

/-- Of the two neighbours of a magnitude among the multiples of `10 ^ k`, the one that reads back
as the magnitude, the nearer one if both do. -/
def Magnitude.onGrid? (x : Magnitude) (k : Int) : Option Nat :=
  let up := tenToThe k.toNat
  let down := tenToThe (-k).toNat
  let below := x.quanta * down / (unit * up)
  let covers (d : Nat) : Bool := x.covers (d * up) down
  match covers below, covers (below + 1) with
  | true, true =>
    let nearer := divRound (x.quanta * down) (unit * up)
    some nearer
  | true, false => some below
  | false, true => some (below + 1)
  | false, false => none

/-- The first grid with a hit, from `10 ^ k` on to finer ones. -/
def Magnitude.search (x : Magnitude) : Nat → Int → Nat × Int
  | 0, k => (0, k)
  | fuel + 1, k =>
    match x.onGrid? k with
    | some d => (d, k)
    | none => x.search fuel (k - 1)

/-- A power of ten above a magnitude that is not zero. -/
def Magnitude.topExponent (x : Magnitude) : Int :=
  ((bitLength x.quanta : Int) - 1074) * 30103 / 100000 + 1

/-- **The fewest decimal digits that tell a magnitude from its neighbours**, with the exponent
of the last one.  Seventeen digits are always enough. -/
def Magnitude.shortest (x : Magnitude) : Nat × Int :=
  if x.mantissa = 0 then (0, 0) else x.search 20 x.topExponent

end BearerBridge.Binary64
