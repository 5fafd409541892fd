/-
# Secrets

A secret is revealed on purpose only; its description is the same for all secrets.
-/
namespace BearerBridge

/-- A text that descriptions withhold. -/
structure Secret where
  reveal : String
  deriving DecidableEq

/-- The description of every secret text. -/
def Secret.describe (_ : Secret) : String :=
  "SecretBox<str>([REDACTED])"

/-- The description of every secret key. -/
def describeKey (_ : List UInt8) : String :=
  "SecretBox<alloc::vec::Vec<u8>>([REDACTED])"

end BearerBridge
