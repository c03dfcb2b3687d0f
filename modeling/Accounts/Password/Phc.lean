import Accounts.Bytes.Base64
import Accounts.Json.Decode
import Accounts.Text.Integer
/-!
# Password hashes as text

A password hash is written as fields behind dollar signs: the algorithm, the
version, the parameters, the salt and the hash.  All but the algorithm may be
missing.  Each field has its own characters and lengths; the fields are read from
the left, and the first fault counts.
-/

namespace Accounts.Password

/-- What is wrong with a value. -/
inductive ValueFault
  /-- It holds a character that is not allowed. -/
  | invalidChar (c : Char)
  /-- It is not written in the right form. -/
  | invalidFormat
  /-- It is missing or not made as it should be. -/
  | malformed
  /-- It is too long or too large. -/
  | tooLong
  /-- It is too short or too small. -/
  | tooShort
deriving DecidableEq, Repr

/-- How a character is shown in a message. -/
def shownChar (c : Char) : String :=
  if c = '\t' then "\\t"
  else if c = '\r' then "\\r"
  else if c = '\n' then "\\n"
  else if c = '\'' then "\\'"
  else if c = '"' then "\\\""
  else if c = '\\' then "\\\\"
  else if 0x20 ≤ c.toNat ∧ c.toNat < 0x7f then String.singleton c
  else "\\u\x7b" ++ String.ofList (Nat.toDigits 16 c.toNat) ++ "\x7d"

/-- The message of a fault. -/
def ValueFault.message : ValueFault → String
  | .invalidChar c => "contains invalid character: '" ++ shownChar c ++ "'"
  | .invalidFormat => "value format is invalid"
  | .malformed => "value malformed"
  | .tooLong => "value to long"
  | .tooShort => "value to short"

/-- What is wrong with a password hash. -/
inductive PhcFault
  /-- The algorithm is not known. -/
  | algorithm
  /-- The version is not known. -/
  | version
  /-- A text to base 64 has the wrong characters or bits. -/
  | base64Encoding
  /-- A text to base 64 is too long. -/
  | base64Length
  /-- The hash is too short. -/
  | outputTooShort (least : Nat)
  /-- The name of a parameter is not allowed or not known. -/
  | paramName
  /-- The value of a parameter is wrong. -/
  | paramValue (fault : ValueFault)
  /-- The parameters are too long together. -/
  | tooManyParams
  /-- A field is missing. -/
  | missingField
  /-- There are too many fields. -/
  | trailingData
  /-- The salt is wrong. -/
  | salt (fault : ValueFault)
deriving DecidableEq, Repr

/-- The message of a fault. -/
def PhcFault.message : PhcFault → String
  | .algorithm => "unsupported algorithm"
  | .version => "invalid algorithm version"
  | .base64Encoding => "invalid Base64 encoding"
  | .base64Length => "invalid Base64 length"
  | .outputTooShort least =>
    "output size too short, expected at least " ++ toString least ++ " bytes"
  | .paramName => "invalid parameter name"
  | .paramValue f => "invalid parameter value: " ++ f.message
  | .tooManyParams => "maximum number of parameters reached"
  | .missingField => "password hash string missing field"
  | .trailingData => "password hash string contains trailing characters"
  | .salt f => "salt invalid: " ++ f.message

/-- A password hash as it is written. -/
structure Phc where
  /-- The name of the algorithm. -/
  algorithm : List Char
  /-- The version. -/
  version : Option Nat
  /-- The parameters with their values. -/
  params : List (List Char × List Char)
  /-- The salt, to base 64. -/
  salt : Option (List Char)
  /-- The hash. -/
  hash : Option (List UInt8)
deriving DecidableEq, Repr

/-! ## Reading -/

/-- Splits a list of characters at a separator. -/
def splitAt (sep : Char) : List Char → List (List Char)
  | [] => [[]]
  | c :: cs =>
    if c = sep then [] :: splitAt sep cs
    else match splitAt sep cs with
      | [] => [[c]]
      | p :: ps => (c :: p) :: ps

/-- How many bytes a list of characters takes. -/
def byteLength (cs : List Char) : Nat := cs.foldl (fun n c => n + c.utf8Size) 0

/-- Reads a name: between 1 and 32 lower-case letters, digits and hyphens. -/
def readName (cs : List Char) : Except PhcFault (List Char) :=
  if 1 ≤ byteLength cs ∧ byteLength cs ≤ 32 ∧
      cs.all fun c => c.isLower || c.isDigit || c == '-' then
    .ok cs
  else .error .paramName

/-- A character of a value. -/
def isValueChar (c : Char) : Bool :=
  c.isAlphanum || c == '/' || c == '+' || c == '.' || c == '-'

/-- Reads a value: at most 64 bytes. -/
def readValue (cs : List Char) : Except ValueFault (List Char) :=
  if 64 < byteLength cs then .error .tooLong
  else match cs.find? fun c => !isValueChar c with
    | some c => .error (.invalidChar c)
    | none => .ok cs

/-- Reads a value as a number of 32 bits without leading zeros. -/
def readDecimal (cs : List Char) : Except ValueFault Nat :=
  if cs = [] then .error .malformed
  else match cs.find? fun c => !c.isDigit with
    | some c => .error (.invalidChar c)
    | none =>
      let n := cs.foldl (fun n c => n * 10 + (c.toNat - '0'.toNat)) 0
      if (cs.head? = some '0' ∧ cs.length ≠ 1) ∨ Nat.pow 2 32 ≤ n then .error .invalidFormat
      else .ok n

/-- Reads one parameter. -/
def readParam (cs : List Char) : Except PhcFault (List Char × List Char) :=
  match splitAt '=' cs with
  | [] => .error .paramName
  | name :: rest => do
    let name ← readName name
    match rest with
    | [] => throw (.paramValue .malformed)
    | value :: more =>
      let value ← (readValue value).mapError .paramValue
      if more ≠ [] then throw (.paramValue .malformed)
      return (name, value)

/-- Reads the parameters. -/
def readParams (cs : List Char) : Except PhcFault (List (List Char × List Char)) :=
  if 127 < byteLength cs then .error .tooManyParams
  else (splitAt ',' cs).mapM readParam

/-- Reads a salt: between 4 and 64 bytes. -/
def readSalt (cs : List Char) : Except PhcFault (List Char) :=
  if byteLength cs < 4 then .error (.salt .tooShort)
  else if 64 < byteLength cs then .error (.salt .tooLong)
  else match cs.find? fun c => !isValueChar c with
    | some c => .error (.salt (.invalidChar c))
    | none => .ok cs

/-- The bytes of a text to base 64, at most `most` of them. -/
def decodeBase64 (most : Nat) (cs : List Char) : Except PhcFault (List UInt8) :=
  let n := byteLength cs
  if most < 3 * (n / 4) + n % 4 * 3 / 4 then .error .base64Length
  else match Bytes.Base64.decode .standard cs with
    | some bs => .ok bs
    | none => .error .base64Encoding

/-- Reads a hash: between 10 and 64 bytes. -/
def readHash (cs : List Char) : Except PhcFault (List UInt8) := do
  let bs ← decodeBase64 64 cs
  if bs.length < 10 then throw (.outputTooShort 10)
  return bs

/-- The version field, if the first of the fields is one. -/
def takeVersion : List (List Char) → Except PhcFault (Option Nat × List (List Char))
  | ('v' :: '=' :: value) :: rest =>
    if value.contains ',' then .ok (none, ('v' :: '=' :: value) :: rest)
    else do
      let value ← (readValue value).mapError .paramValue
      let n ← (readDecimal value).mapError .paramValue
      return (some n, rest)
  | fields => .ok (none, fields)

/-- The parameter field, if the first of the fields is one. -/
def takeParams : List (List Char) →
    Except PhcFault (List (List Char × List Char) × List (List Char))
  | field :: rest =>
    if field.contains '=' then do return (← readParams field, rest)
    else .ok ([], field :: rest)
  | [] => .ok ([], [])

/-- Reads a password hash. -/
def Phc.parse (s : String) : Except PhcFault Phc :=
  match splitAt '$' s.toList with
  | [] :: algorithm :: fields => do
    let algorithm ← readName algorithm
    let (version, fields) ← takeVersion fields
    let (params, fields) ← takeParams fields
    match fields with
    | [] => return { algorithm, version, params, salt := none, hash := none }
    | [salt] => return { algorithm, version, params, salt := some (← readSalt salt), hash := none }
    | [salt, hash] =>
      return {
        algorithm, version, params
        salt := some (← readSalt salt)
        hash := some (← readHash hash) }
    | salt :: hash :: _ =>
      let _ ← readSalt salt
      let _ ← readHash hash
      throw .trailingData
  | _ => .error .missingField

/-! ## Writing -/

/-- The text of a parameter. -/
def paramText (p : List Char × List Char) : List Char := p.1 ++ '=' :: p.2

/-- Texts with commas in between. -/
def joinCommas : List (List Char) → List Char
  | [] => []
  | [p] => p
  | p :: ps => p ++ ',' :: joinCommas ps

/-- The text of a password hash. -/
def Phc.chars (h : Phc) : List Char :=
  '$' :: h.algorithm ++
    (h.version.elim [] fun v => '$' :: 'v' :: '=' :: Nat.toDigits 10 v) ++
    (if h.params = [] then [] else '$' :: joinCommas (h.params.map paramText)) ++
    (h.salt.elim [] fun s => '$' :: s) ++
    (h.hash.elim [] fun bs => '$' :: Bytes.Base64.encode .standard bs)

/-- The text of a password hash. -/
def Phc.text (h : Phc) : String := String.ofList h.chars

end Accounts.Password
