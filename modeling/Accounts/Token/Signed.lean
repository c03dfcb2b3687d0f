import Accounts.Token.Claims
import Accounts.Token.Header
/-!
# Signed tokens

A token is three parts with dots in between: a header that names the algorithm,
the claims, and the signature of the first two.  Header and claims are JSON to
base 64.

A token is accepted when its header names the algorithm of the issuer, its
signature fits, its claims can be read, it has not expired and it names no
audience.  Nothing is told about a token that is refused.
-/

namespace Accounts.Token

open Json (Tree)

/-! ## Writing -/

/-- Characters as text to base 64. -/
def part (cs : List Char) : List Char :=
  Bytes.Base64.encode .urlSafe (Bytes.ofText (String.ofList cs))

/-- The header of the tokens of an algorithm. -/
def headerChars (a : Algorithm) : List Char :=
  Json.chars (.object [("typ", .string "JWT"), ("alg", .string a.name)])

/-- The claims of a token, with the fields in the order in which they are written. -/
def claimsChars (c : Claims) : List Char :=
  Json.chars (.object [
    ("sub", .string c.sub),
    ("email", .string c.email),
    ("scp", .array (c.scp.map fun s => .string s.name)),
    ("iat", .ofInt c.iat),
    ("exp", .ofInt c.exp)])

/-- The part of a token that is signed. -/
def message (a : Algorithm) (c : Claims) : List Char :=
  part (headerChars a) ++ '.' :: part (claimsChars c)

/-- The bytes of a list of characters. -/
def charBytes (cs : List Char) : List UInt8 := Bytes.ofText (String.ofList cs)

/-- The signature of a message. -/
def Issuer.sign (i : Issuer) (message : List Char) : Except TokenFault (List UInt8) :=
  match i with
  | .secret key => .ok (Crypto.hmac Crypto.sha256 key (charBytes message))
  | .rsa priv _ =>
    match Crypto.Rsa.PrivateKey.parse priv with
    | .ok key => .ok (key.sign (charBytes message))
    | .error f => .error (.invalidRsaKey f.name)

/-- The token with the given claims. -/
def Issuer.issue (i : Issuer) (c : Claims) : Except AccountError String :=
  let m := message i.algorithm c
  match i.sign m with
  | .ok signature => .ok (String.ofList (m ++ '.' :: Bytes.Base64.encode .urlSafe signature))
  | .error f => .error (.jwt f.message)

/-! ## Reading -/

/-- A signature fits a message. -/
def Issuer.verifies (i : Issuer) (message signature : List Char) : Bool :=
  match i with
  | .secret key =>
    signature == Bytes.Base64.encode .urlSafe (Crypto.hmac Crypto.sha256 key (charBytes message))
  | .rsa _ pub =>
    match Bytes.Base64.decode .urlSafe signature, Crypto.Rsa.PublicKey.parse pub with
    | some bytes, some key => key.verify (charBytes message) bytes
    | _, _ => false

/-- The three parts of a token. -/
def parts (token : List Char) : Option (List Char × List Char × List Char) :=
  let header := token.takeWhile (· ≠ '.')
  match token.dropWhile (· ≠ '.') with
  | _ :: rest =>
    let claims := rest.takeWhile (· ≠ '.')
    match rest.dropWhile (· ≠ '.') with
    | _ :: signature => if signature.contains '.' then none else some (header, claims, signature)
    | [] => none
  | [] => none

/-- The names of the claims that are read. -/
def claimNames : List String := ["sub", "email", "scp", "iat", "exp"]

/-- The claims of a part. -/
def readClaims (fields : List (Option String × Tree)) : Option Claims := do
  let known ← pick claimNames fields
  (Claims.record.ofFields known).toOption

/-- No audience is named. -/
def namesNoAudience (fields : List (Option String × Tree)) : Bool :=
  match fields.find? fun f => f.1 == some "aud" with
  | none => true
  | some (_, .text _) => false
  | some (_, .array items) => items.any fun t => match t with
    | .text _ => false
    | _ => true
  | some _ => true

/-- A start of validity that can be passed over. -/
def passableStart (fields : List (Option String × Tree)) : Bool :=
  match fields.find? fun f => f.1 == some "nbf" with
  | some (_, .array (_ :: _)) | some (_, .object (_ :: _)) => false
  | _ => true

/-- The registered claims that are looked at stand at most once. -/
def standOnce (fields : List (Option String × Tree)) : Bool :=
  ["nbf", "iss", "aud"].all fun n => occurrences n fields ≤ 1

/-- The claims of a token that is accepted at a second. -/
def accepted? (i : Issuer) (now : Int) (token : List Char) : Option Claims := do
  let (header, claims, signature) ← parts token
  if headerNames i.algorithm header ∧ i.verifies (header ++ '.' :: claims) signature then
    let fields ← fieldsOf claims
    let c ← readClaims fields
    if now ≤ c.exp ∧ 0 ≤ c.exp ∧ namesNoAudience fields ∧ passableStart fields ∧
        standOnce fields then
      some c
    else none
  else none

/-- Reads a token at a second. -/
def Issuer.parse (i : Issuer) (now : Int) (token : String) : Except AccountError Claims :=
  match accepted? i now token.toList with
  | some c => .ok c
  | none => .error .invalidToken

end Accounts.Token
