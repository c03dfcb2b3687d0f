import Accounts.Crypto.Sha256
import Accounts.Crypto.Sha512
/-!
# Keyed hashes

A keyed hash is a hash of a hash: the key, brought to the length of a block, is
mixed with a constant in front of the message, and with another one in front of
the inner hash.  A key that is longer than a block is hashed first.
-/

namespace Accounts.Crypto

/-- A hash function and the size of its blocks. -/
structure HashFunction where
  /-- The hash of a message. -/
  hash : List UInt8 → List UInt8
  /-- The number of bytes in a block. -/
  blockSize : Nat

/-- The hash SHA-256. -/
def sha256 : HashFunction := ⟨Sha256.hash, Sha256.blockSize⟩

/-- The hash SHA-512. -/
def sha512 : HashFunction := ⟨Sha512.hash, Sha512.blockSize⟩

/-- A key with the length of a block. -/
def HashFunction.blockKey (f : HashFunction) (key : List UInt8) : List UInt8 :=
  let k := if f.blockSize < key.length then f.hash key else key
  k ++ List.replicate (f.blockSize - k.length) 0

/-- The keyed hash of a message. -/
def hmac (f : HashFunction) (key message : List UInt8) : List UInt8 :=
  let k := f.blockKey key
  f.hash (k.map (· ^^^ 0x5c) ++ f.hash (k.map (· ^^^ 0x36) ++ message))

end Accounts.Crypto
