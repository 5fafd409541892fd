/-
# The SHA-2 family

SHA-256 works on words of 32 bits, SHA-384 and SHA-512 on words of 64 bits; otherwise the
halves of the family differ in rotation amounts and the number of rounds only.  The constants
are the first bits of the fractional parts of the cube roots (rounds) and square roots
(starting state) of the first primes, so one table of 64-bit words serves both halves.

* `length_digest` : a digest has the length that its algorithm states.
-/
namespace BearerBridge.Sha2

/-! ## Constants -/

/-- The first 64 bits of the fractional parts of the cube roots of the first eighty primes. -/
def cubeRoots : List UInt64 :=
  [
    0x428a2f98d728ae22, 0x7137449123ef65cd, 0xb5c0fbcfec4d3b2f, 0xe9b5dba58189dbbc,
    0x3956c25bf348b538, 0x59f111f1b605d019, 0x923f82a4af194f9b, 0xab1c5ed5da6d8118,
    0xd807aa98a3030242, 0x12835b0145706fbe, 0x243185be4ee4b28c, 0x550c7dc3d5ffb4e2,
    0x72be5d74f27b896f, 0x80deb1fe3b1696b1, 0x9bdc06a725c71235, 0xc19bf174cf692694,
    0xe49b69c19ef14ad2, 0xefbe4786384f25e3, 0x0fc19dc68b8cd5b5, 0x240ca1cc77ac9c65,
    0x2de92c6f592b0275, 0x4a7484aa6ea6e483, 0x5cb0a9dcbd41fbd4, 0x76f988da831153b5,
    0x983e5152ee66dfab, 0xa831c66d2db43210, 0xb00327c898fb213f, 0xbf597fc7beef0ee4,
    0xc6e00bf33da88fc2, 0xd5a79147930aa725, 0x06ca6351e003826f, 0x142929670a0e6e70,
    0x27b70a8546d22ffc, 0x2e1b21385c26c926, 0x4d2c6dfc5ac42aed, 0x53380d139d95b3df,
    0x650a73548baf63de, 0x766a0abb3c77b2a8, 0x81c2c92e47edaee6, 0x92722c851482353b,
    0xa2bfe8a14cf10364, 0xa81a664bbc423001, 0xc24b8b70d0f89791, 0xc76c51a30654be30,
    0xd192e819d6ef5218, 0xd69906245565a910, 0xf40e35855771202a, 0x106aa07032bbd1b8,
    0x19a4c116b8d2d0c8, 0x1e376c085141ab53, 0x2748774cdf8eeb99, 0x34b0bcb5e19b48a8,
    0x391c0cb3c5c95a63, 0x4ed8aa4ae3418acb, 0x5b9cca4f7763e373, 0x682e6ff3d6b2b8a3,
    0x748f82ee5defb2fc, 0x78a5636f43172f60, 0x84c87814a1f0ab72, 0x8cc702081a6439ec,
    0x90befffa23631e28, 0xa4506cebde82bde9, 0xbef9a3f7b2c67915, 0xc67178f2e372532b,
    0xca273eceea26619c, 0xd186b8c721c0c207, 0xeada7dd6cde0eb1e, 0xf57d4f7fee6ed178,
    0x06f067aa72176fba, 0x0a637dc5a2c898a6, 0x113f9804bef90dae, 0x1b710b35131c471b,
    0x28db77f523047d84, 0x32caab7b40c72493, 0x3c9ebe0a15c9bebc, 0x431d67c49c100d4c,
    0x4cc5d4becb3e42b6, 0x597f299cfc657e2a, 0x5fcb6fab3ad6faec, 0x6c44198c4a475817]

/-- The first 64 bits of the fractional parts of the square roots of the first eight primes. -/
def squareRoots : List UInt64 :=
  [
    0x6a09e667f3bcc908, 0xbb67ae8584caa73b, 0x3c6ef372fe94f82b, 0xa54ff53a5f1d36f1,
    0x510e527fade682d1, 0x9b05688c2b3e6c1f, 0x1f83d9abfb41bd6b, 0x5be0cd19137e2179]

/-- The same for the next eight primes. -/
def laterSquareRoots : List UInt64 :=
  [
    0xcbbb9d5dc1059ed8, 0x629a292a367cd507, 0x9159015a3070dd17, 0x152fecd8f70e5939,
    0x67332667ffc00b31, 0x8eb44a8768581511, 0xdb0c2e0d64f98fa7, 0x47b5481dbefa4fa4]

/-! ## Words and bytes, most significant first -/

/-- The number that bytes spell. -/
def ofBytes (bs : List UInt8) : Nat :=
  bs.foldl (fun n b => n * 0x100 + b.toNat) 0

/-- The last `k` bytes of a number. -/
def toBytes : Nat → Nat → List UInt8
  | 0, _ => []
  | k + 1, n => toBytes k (n / 0x100) ++ [UInt8.ofNat n]

theorem length_toBytes (k n : Nat) : (toBytes k n).length = k := by
  induction k generalizing n with
  | zero => rfl
  | succ k ih => simp [toBytes, ih]

/-- A list cut into pieces of `k`, a shorter rest left out; `fuel` pieces at most. -/
def chunks {α : Type} (k : Nat) : Nat → List α → List (List α)
  | 0, _ => []
  | fuel + 1, xs =>
    if xs.length < k ∨ k = 0 then [] else xs.take k :: chunks k fuel (xs.drop k)

/-! ## The compression function -/

/-- Where the two halves of the family differ. -/
structure Half (W : Type) where
  /-- The number of bytes of a word. -/
  wordBytes : Nat
  /-- One constant for each round. -/
  constants : List W
  ofNat : Nat → W
  toNat : W → Nat
  /-- The mixing of the first word of the state. -/
  sigmaA : W → W
  /-- The mixing of the fifth word of the state. -/
  sigmaE : W → W
  /-- The mixing of the word fifteen rounds back in the schedule. -/
  sigmaOld : W → W
  /-- The mixing of the word two rounds back in the schedule. -/
  sigmaNew : W → W

/-- The eight words between two blocks. -/
structure State (W : Type) where
  a : W
  b : W
  c : W
  d : W
  e : W
  f : W
  g : W
  h : W

namespace State

variable {W : Type}

/-- The state whose words are the first eight of a list. -/
def ofList (zero : W) : List W → State W
  | [a, b, c, d, e, f, g, h] => ⟨a, b, c, d, e, f, g, h⟩
  | _ => ⟨zero, zero, zero, zero, zero, zero, zero, zero⟩

/-- The words in order. -/
def toList (s : State W) : List W :=
  [s.a, s.b, s.c, s.d, s.e, s.f, s.g, s.h]

/-- Word by word sum. -/
def add [Add W] (s t : State W) : State W :=
  ⟨s.a + t.a, s.b + t.b, s.c + t.c, s.d + t.d, s.e + t.e, s.f + t.f, s.g + t.g, s.h + t.h⟩

end State

section Compression

variable {W : Type} [Add W] [AndOp W] [XorOp W] [Complement W]

/-- One round, from a constant and a word of the schedule. -/
def round (half : Half W) (s : State W) (k w : W) : State W :=
  let choice := (s.e &&& s.f) ^^^ (~~~s.e &&& s.g)
  let majority := (s.a &&& s.b) ^^^ (s.a &&& s.c) ^^^ (s.b &&& s.c)
  let t := s.h + half.sigmaE s.e + choice + k + w
  ⟨t + (half.sigmaA s.a + majority), s.a, s.b, s.c, s.d + t, s.e, s.f, s.g⟩

/-- The window of sixteen words, moved on by one. -/
def slide (half : Half W) : List W → List W
  | w0 :: w1 :: rest =>
    match rest[7]?, rest[12]? with
    | some w9, some w14 => w1 :: rest ++ [half.sigmaNew w14 + w9 + half.sigmaOld w1 + w0]
    | _, _ => w1 :: rest
  | ws => ws

/-- All rounds of a block: each takes the first word of the window and moves it on. -/
def rounds (half : Half W) : List W → List W → State W → State W
  | [], _, s => s
  | _ :: _, [], s => s
  | k :: ks, w :: ws, s => rounds half ks (slide half (w :: ws)) (round half s k w)

/-- A block taken into the state. -/
def absorb (half : Half W) (s : State W) (block : List UInt8) : State W :=
  let words := (chunks half.wordBytes 16 block).map (fun bs => half.ofNat (ofBytes bs))
  s.add (rounds half half.constants words s)

/-- A message with a mark, zeros and its length in bits, up to a multiple of the block. -/
def pad (half : Half W) (message : List UInt8) : List UInt8 :=
  let block := 16 * half.wordBytes
  let length := 2 * half.wordBytes
  let zeros := (block - (message.length + 1 + length) % block) % block
  message ++ 0x80 :: List.replicate zeros 0 ++ toBytes length (8 * message.length)

/-- The bytes of the last state. -/
def hash (half : Half W) (start : State W) (message : List UInt8) : List UInt8 :=
  let padded := pad half message
  let blocks := chunks (16 * half.wordBytes) padded.length padded
  (blocks.foldl (absorb half) start).toList.flatMap
    (fun w => toBytes half.wordBytes (half.toNat w))

theorem length_hash (half : Half W) (start : State W) (message : List UInt8) :
    (hash half start message).length = 8 * half.wordBytes := by
  simp only [hash, State.toList, List.flatMap_cons, List.flatMap_nil, List.length_append,
    length_toBytes, List.length_nil]
  omega

end Compression

/-! ## The three algorithms -/

/-- A word of 32 bits rotated to the right. -/
def rotate32 (w : UInt32) (k : UInt32) : UInt32 :=
  (w >>> k) ||| (w <<< (32 - k))

/-- A word of 64 bits rotated to the right. -/
def rotate64 (w : UInt64) (k : UInt64) : UInt64 :=
  (w >>> k) ||| (w <<< (64 - k))

/-- The upper half of a word of 64 bits. -/
def upper32 (w : UInt64) : UInt32 :=
  (w >>> 32).toUInt32

/-- The half of the family on words of 32 bits, with sixty-four rounds. -/
def half32 : Half UInt32 where
  wordBytes := 4
  constants := (cubeRoots.take 64).map upper32
  ofNat := UInt32.ofNat
  toNat := UInt32.toNat
  sigmaA w := rotate32 w 2 ^^^ rotate32 w 13 ^^^ rotate32 w 22
  sigmaE w := rotate32 w 6 ^^^ rotate32 w 11 ^^^ rotate32 w 25
  sigmaOld w := rotate32 w 7 ^^^ rotate32 w 18 ^^^ (w >>> 3)
  sigmaNew w := rotate32 w 17 ^^^ rotate32 w 19 ^^^ (w >>> 10)

/-- The half of the family on words of 64 bits, with eighty rounds. -/
def half64 : Half UInt64 where
  wordBytes := 8
  constants := cubeRoots
  ofNat := UInt64.ofNat
  toNat := UInt64.toNat
  sigmaA w := rotate64 w 28 ^^^ rotate64 w 34 ^^^ rotate64 w 39
  sigmaE w := rotate64 w 14 ^^^ rotate64 w 18 ^^^ rotate64 w 41
  sigmaOld w := rotate64 w 1 ^^^ rotate64 w 8 ^^^ (w >>> 7)
  sigmaNew w := rotate64 w 19 ^^^ rotate64 w 61 ^^^ (w >>> 6)

/-- The members of the family in use. -/
inductive Algorithm where
  | sha256
  | sha384
  | sha512
  deriving DecidableEq, Repr

namespace Algorithm

/-- The number of bytes of a block. -/
def blockBytes : Algorithm → Nat
  | sha256 => 64
  | sha384 => 128
  | sha512 => 128

/-- The number of bytes of a digest. -/
def digestBytes : Algorithm → Nat
  | sha256 => 32
  | sha384 => 48
  | sha512 => 64

/-- The digest of a message; SHA-384 keeps the first six of its eight words. -/
def digest : Algorithm → List UInt8 → List UInt8
  | sha256, m => hash half32 (.ofList 0 (squareRoots.map upper32)) m
  | sha384, m => (hash half64 (.ofList 0 laterSquareRoots) m).take 48
  | sha512, m => hash half64 (.ofList 0 squareRoots) m

/-- **A digest has the length that its algorithm states.** -/
theorem length_digest (alg : Algorithm) (m : List UInt8) :
    (alg.digest m).length = alg.digestBytes := by
  cases alg <;> simp [digest, digestBytes, length_hash, half32, half64]

end Algorithm

end BearerBridge.Sha2
