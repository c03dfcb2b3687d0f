import Accounts.Account.Error
import Accounts.Crypto.Hmac
import Accounts.Crypto.Pem
import Accounts.Crypto.Rsa
import Accounts.Settings.Basic
/-!
# Keys for tokens

Tokens are signed with a shared secret or with a pair of RSA keys.  A key in
armour is accepted when it names a kind of key and, where the kind is not in the
name, an RSA key by its identifier.  Whether the numbers inside make a usable key
is only seen when it is used.
-/

namespace Accounts

/-- What is wrong with a token, a key or a signature. -/
inductive TokenFault
  /-- The token is not made as it should be. -/
  | invalidToken
  /-- The signature does not fit. -/
  | invalidSignature
  /-- A key of an elliptic curve cannot be used. -/
  | invalidEcdsaKey
  /-- An RSA key cannot be used. -/
  | invalidRsaKey (reason : String)
  /-- Signing with RSA failed. -/
  | rsaFailedSigning
  /-- The name of an algorithm is not known. -/
  | invalidAlgorithmName
  /-- A key is not written as one. -/
  | invalidKeyFormat
  /-- A claim is missing. -/
  | missingRequiredClaim (name : String)
  /-- The token has expired. -/
  | expiredSignature
  /-- The issuer is wrong. -/
  | invalidIssuer
  /-- The audience is wrong. -/
  | invalidAudience
  /-- The subject is wrong. -/
  | invalidSubject
  /-- The token is not valid yet. -/
  | immatureSignature
  /-- The algorithm is wrong. -/
  | invalidAlgorithm
  /-- The algorithm is missing. -/
  | missingAlgorithm
deriving DecidableEq, Repr

/-- The message of a fault. -/
def TokenFault.message : TokenFault → String
  | .invalidToken => "InvalidToken"
  | .invalidSignature => "InvalidSignature"
  | .invalidEcdsaKey => "InvalidEcdsaKey"
  | .invalidRsaKey reason => "RSA key invalid: " ++ reason
  | .rsaFailedSigning => "RsaFailedSigning"
  | .invalidAlgorithmName => "InvalidAlgorithmName"
  | .invalidKeyFormat => "InvalidKeyFormat"
  | .missingRequiredClaim name => "Missing required claim: " ++ name
  | .expiredSignature => "ExpiredSignature"
  | .invalidIssuer => "InvalidIssuer"
  | .invalidAudience => "InvalidAudience"
  | .invalidSubject => "InvalidSubject"
  | .immatureSignature => "ImmatureSignature"
  | .invalidAlgorithm => "InvalidAlgorithm"
  | .missingAlgorithm => "MissingAlgorithm"

/-- The faults whose message is a fixed word. -/
def TokenFault.plain : List TokenFault :=
  [.invalidToken, .invalidSignature, .invalidEcdsaKey, .rsaFailedSigning, .invalidAlgorithmName,
   .invalidKeyFormat, .expiredSignature, .invalidIssuer, .invalidAudience, .invalidSubject,
   .immatureSignature, .invalidAlgorithm, .missingAlgorithm]

namespace Token

/-- How tokens are signed. -/
inductive Algorithm
  /-- With a keyed hash. -/
  | hs256
  /-- With an RSA key. -/
  | rs256
deriving DecidableEq, Repr

/-- The name of an algorithm. -/
def Algorithm.name : Algorithm → String
  | .hs256 => "HS256"
  | .rs256 => "RS256"

/-- Signs tokens and checks them. -/
inductive Issuer
  /-- With a shared secret. -/
  | secret (key : List UInt8)
  /-- With the bytes of a private and a public key. -/
  | rsa (privateKey publicKey : List UInt8)
deriving DecidableEq, Repr

/-- The algorithm of an issuer. -/
def Issuer.algorithm : Issuer → Algorithm
  | .secret _ => .hs256
  | .rsa _ _ => .rs256

/-- The identifier of RSA keys. -/
def rsaIdentifier : List UInt8 := [0x2a, 0x86, 0x48, 0x86, 0xf7, 0x0d, 0x01, 0x01, 0x01]

/-- The identifiers of keys of elliptic curves. -/
def curveIdentifiers : List (List UInt8) :=
  [[0x2a, 0x86, 0x48, 0xce, 0x3d, 0x02, 0x01], [0x2b, 0x65, 0x70]]

/-- The bytes of an RSA key in armour. -/
def rsaKeyBytes (pem : String) : Except TokenFault (List UInt8) :=
  match Crypto.Pem.parse pem.toList with
  | none => .error .invalidKeyFormat
  | some armour =>
    match Crypto.Der.parse armour.bytes with
    | none => .error .invalidKeyFormat
    | some blocks =>
      if armour.tag = "RSA PRIVATE KEY" ∨ armour.tag = "RSA PUBLIC KEY" then .ok armour.bytes
      else if armour.tag = "PRIVATE KEY" ∨ armour.tag = "PUBLIC KEY" ∨
          armour.tag = "CERTIFICATE" then
        let known := (Crypto.Der.identifiers blocks).find? fun o =>
          o = rsaIdentifier ∨ curveIdentifiers.contains o
        match known, Crypto.Der.firstString? blocks with
        | some o, some bytes => if o = rsaIdentifier then .ok bytes else .error .invalidKeyFormat
        | _, _ => .error .invalidKeyFormat
      else .error .invalidKeyFormat

/-- The issuer for a shared secret. -/
def Issuer.ofSecret (secret : String) : Issuer := .secret (Bytes.ofText secret)

/-- The issuer for a pair of keys in armour. -/
def Issuer.ofRsaPem (privateKey publicKey : String) : Except AccountError Issuer := do
  let priv ← (rsaKeyBytes privateKey).mapError fun f =>
    .jwt ("Failed to parse RSA private key: " ++ f.message)
  let pub ← (rsaKeyBytes publicKey).mapError fun f =>
    .jwt ("Failed to parse RSA public key: " ++ f.message)
  return .rsa priv pub

/-- The issuer for the keys in settings. -/
def Issuer.ofKeys : JwtKeys → Except AccountError Issuer
  | .secret text => .ok (.ofSecret text)
  | .rsaPem priv pub => Issuer.ofRsaPem priv pub

end Token

end Accounts
