/-
# Keyed hashing

HMAC over any member of the SHA-2 family: the key, brought to the size of a block, masks an
inner and an outer digest.
-/
import BearerBridge.Crypto.Sha2

namespace BearerBridge.Hmac

/-- The key as one block: hashed when longer than a block, then filled up with zeros. -/
def blockKey (alg : Sha2.Algorithm) (key : List UInt8) : List UInt8 :=
  let short := if alg.blockBytes < key.length then alg.digest key else key
  short ++ List.replicate (alg.blockBytes - short.length) 0

/-- The authentication code of a message under a key. -/
def code (alg : Sha2.Algorithm) (key message : List UInt8) : List UInt8 :=
  let block := blockKey alg key
  let inner := alg.digest (block.map (· ^^^ 0x36) ++ message)
  alg.digest (block.map (· ^^^ 0x5C) ++ inner)

theorem length_code (alg : Sha2.Algorithm) (key message : List UInt8) :
    (code alg key message).length = alg.digestBytes :=
  Sha2.Algorithm.length_digest ..

end BearerBridge.Hmac
