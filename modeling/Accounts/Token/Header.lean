import Accounts.Bytes.Base64
import Accounts.Json.Decode
import Accounts.Json.Parser
import Accounts.Token.Keys
/-!
# Headers of tokens

The first two parts of a token are JSON objects, written to base 64.  `fieldsOf` gives
the fields of such a part as they stand there; `pick` gives the values of those that
are asked for, and does not look into the others.

A header names the algorithm.  What else it may hold, of which nothing is used, has
to be well formed all the same: texts, certificates as a list of texts, and a key.

Parts are read by the letter: an object, UTF-8 all through, and keys for the algorithms
of `keyAlgorithms`.  Three forms that a more lenient reader takes are left out, and a
token with one of them is refused here: a header as the list of its values, bytes that
are not UTF-8 in a text that nothing asks for, and a key for an algorithm that is not
known.  None of them comes from an issuer, and only who can sign can make one up.
-/

namespace Accounts.Token

open Json (Tree)

/-! ## Parts -/

/-- The fields of a part, which is an object in UTF-8; no other form is read. -/
def fieldsOf (part : List Char) : Option (List (Option String × Tree)) := do
  let bytes ← Bytes.Base64.decode .urlSafe part
  let text ← Bytes.toText? bytes
  match Json.tree? text.toList with
  | some (.object fields) => some fields
  | _ => none

/-- The fields of the given names as values.  Other fields are not looked at; a name of the
list may stand only once. -/
def pick (names : List String) : List (Option String × Tree) → Option (List (String × Json))
  | [] => some []
  | (none, _) :: _ => none
  | (some k, t) :: rest => do
    let more ← pick names rest
    if names.contains k then
      let v ← t.value? Json.maxDepth
      if (more.lookup k).isSome then none else some ((k, v) :: more)
    else some more

/-- How often a name stands among fields. -/
def occurrences (name : String) (fields : List (Option String × Tree)) : Nat :=
  fields.countP fun f => f.1 == some name

/-! ## Values in a header -/

/-- Fields with their values, each name once. -/
abbrev Fields := List (String × Json)

/-- A field can be read. -/
def Fields.holds {α : Type} (fields : Fields) (name : String) (d : Json.Decoder α) : Bool :=
  (d.read ((fields.lookup name).getD .null)).isOk

/-- A field can be read, or is `null` or missing. -/
def Fields.mayHold {α : Type} (fields : Fields) (name : String) (d : Json.Decoder α) : Bool :=
  fields.holds name d.optional

/-- A field names one of the given things. -/
def Fields.names (fields : Fields) (name : String) (all : List String) : Bool :=
  fields.holds name (.oneOf all id)

/-! ## Keys in a header -/

/-- What a key in a header may be for. -/
def keyAlgorithms : List String :=
  ["HS256", "HS384", "HS512", "ES256", "ES384", "RS256", "RS384", "RS512", "PS256", "PS384",
   "PS512", "EdDSA", "RSA1_5", "RSA-OAEP", "RSA-OAEP-256"]

/-- The curves of keys. -/
def keyCurves : List String := ["P-256", "P-384", "P-521", "Ed25519"]

/-- What a key says about itself is well formed. -/
def Fields.describeKey (fields : Fields) : Bool :=
  ["use", "kid", "x5u", "x5t", "x5t#S256"].all (fields.mayHold · .text) &&
    ["key_ops", "x5c"].all (fields.mayHold · (.list .text)) &&
    fields.mayHold "alg" (.oneOf keyAlgorithms id)

/-- The numbers of a key are there, as its kind asks for. -/
def Fields.numberKey (fields : Fields) : Bool :=
  (fields.names "kty" ["EC"] && fields.names "crv" keyCurves && fields.holds "x" .text &&
      fields.holds "y" .text) ||
    (fields.names "kty" ["RSA"] && fields.holds "n" .text && fields.holds "e" .text) ||
    (fields.names "kty" ["oct"] && fields.holds "k" .text) ||
    (fields.names "kty" ["OKP"] && fields.names "crv" keyCurves && fields.holds "x" .text)

/-- A value that is a key. -/
def isKey : Json → Bool
  | .object fields => Fields.describeKey fields && Fields.numberKey fields
  | _ => false

/-! ## Headers -/

/-- The fields of a header that hold a text. -/
def headerTexts : List String := ["typ", "cty", "jku", "kid", "x5u", "x5t", "x5t#S256"]

/-- A well-formed header that names the algorithm. -/
def Fields.nameAlgorithm (fields : Fields) (a : Algorithm) : Bool :=
  fields.names "alg" [a.name] && headerTexts.all (fields.mayHold · .text) &&
    fields.mayHold "x5c" (.list .text) &&
    match fields.lookup "jwk" with
    | none | some .null => true
    | some key => isKey key

/-- The header of a token names the algorithm.  The header is an object, not the list of its
values, and a key in it is for a known algorithm. -/
def headerNames (a : Algorithm) (header : List Char) : Bool :=
  match (fieldsOf header).bind (pick ("alg" :: "x5c" :: "jwk" :: headerTexts)) with
  | some fields => Fields.nameAlgorithm fields a
  | none => false

end Accounts.Token
