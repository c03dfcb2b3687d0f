import Accounts.Crypto.Der
import Accounts.Crypto.Sha256
/-!
# RSA signatures

A signature is the power of a number that encodes the hash of a message, modulo
the product of two primes.  Private keys have 2048 to 4096 bits, public keys 2048
to 8192.
-/

namespace Accounts.Crypto.Rsa

/-- A public key. -/
structure PublicKey where
  /-- The modulus. -/
  modulus : Nat
  /-- The exponent. -/
  exponent : Nat
deriving DecidableEq, Repr

/-- A private key. -/
structure PrivateKey where
  /-- The modulus. -/
  modulus : Nat
  /-- The private exponent. -/
  exponent : Nat
deriving DecidableEq, Repr

/-- Why a private key is refused. -/
inductive KeyFault
  /-- It is not written as a key. -/
  | invalidEncoding
  /-- Its version is not known. -/
  | versionNotSupported
  /-- It has too few bits. -/
  | tooSmall
  /-- It has too many bits. -/
  | tooLarge
  /-- Its parts do not fit together. -/
  | inconsistent
deriving DecidableEq, Repr

/-- The name of a fault. -/
def KeyFault.name : KeyFault → String
  | .invalidEncoding => "InvalidEncoding"
  | .versionNotSupported => "VersionNotSupported"
  | .tooSmall => "TooSmall"
  | .tooLarge => "TooLarge"
  | .inconsistent => "InconsistentComponents"

/-- The number of bits of a number. -/
def bitLength (n : Nat) : Nat := if n = 0 then 0 else n.log2 + 1

/-- A power modulo `m`, with the bits of the exponent still to come, of which there are at
most `steps`. -/
def powerFrom (m result factor exponent : Nat) : Nat → Nat
  | 0 => result
  | steps + 1 =>
    if exponent = 0 then result
    else
      powerFrom m (if exponent % 2 = 1 then result * factor % m else result)
        (factor * factor % m) (exponent / 2) steps

/-- A power modulo `m`. -/
def power (m base exponent : Nat) : Nat :=
  powerFrom m (1 % m) (base % m) exponent (bitLength exponent)

/-- The bytes that announce a hash in a signature. -/
def hashMark : List UInt8 :=
  [0x30, 0x31, 0x30, 0x0d, 0x06, 0x09, 0x60, 0x86, 0x48, 0x01, 0x65, 0x03, 0x04, 0x02, 0x01,
   0x05, 0x00, 0x04, 0x20]

/-- The hash of a message, filled up to `size` bytes. -/
def encoded (size : Nat) (message : List UInt8) : List UInt8 :=
  let tail := hashMark ++ Sha256.hash message
  [0x00, 0x01] ++ List.replicate (size - 3 - tail.length) 0xff ++ 0x00 :: tail

/-- The bytes of a modulus. -/
def byteSize (modulus : Nat) : Nat := (bitLength modulus + 7) / 8

/-- The signature of a message. -/
def PrivateKey.sign (k : PrivateKey) (message : List UInt8) : List UInt8 :=
  let size := byteSize k.modulus
  Bytes.bigEndian size (power k.modulus (Bytes.ofBigEndian (encoded size message)) k.exponent)

/-- Checks a signature. -/
def PublicKey.verify (k : PublicKey) (message signature : List UInt8) : Bool :=
  let size := byteSize k.modulus
  let s := Bytes.ofBigEndian signature
  signature.length == size && s < k.modulus &&
    Bytes.bigEndian size (power k.modulus s k.exponent) == encoded size message

/-- Reads a private key.  Its version comes first, fills one byte and has to be zero. -/
def PrivateKey.parse (bytes : List UInt8) : Except KeyFault PrivateKey :=
  match Der.parse bytes with
  | some [.sequence (first :: items)] =>
    match first.natural? with
    | none => .error .invalidEncoding
    | some version =>
      if 256 ≤ version then .error .invalidEncoding
      else if version ≠ 0 then .error .versionNotSupported
      else match items.mapM Der.Block.natural? with
        | some [n, _, d, p, q, _, _, _] =>
          if bitLength n < 2048 then .error .tooSmall
          else if 4096 < bitLength n then .error .tooLarge
          else if p * q ≠ n then .error .inconsistent
          else .ok ⟨n, d⟩
        | _ => .error .invalidEncoding
  | _ => .error .invalidEncoding

/-- Reads a public key. -/
def PublicKey.parse (bytes : List UInt8) : Option PublicKey :=
  match Der.parse bytes with
  | some [.sequence [n, e]] => do
    let n ← n.natural?
    let e ← e.natural?
    if 2048 ≤ bitLength n ∧ bitLength n ≤ 8192 ∧ 3 ≤ e ∧ e < Nat.pow 2 33 ∧ e % 2 = 1 then
      some ⟨n, e⟩
    else none
  | _ => none

end Accounts.Crypto.Rsa
