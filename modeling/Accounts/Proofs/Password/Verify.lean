import Accounts.Password.Hash
/-!
# A stored password hash is read back

The text of a password hash is taken apart again into what it was made of: its fields are
joined by a character that none of them has, and salt and digest are read back from base 64.
So checking a password against the hash of another one never fails.  It compares the digests
of the two under one salt, and the password of the hash is always accepted
(`stored_hash_read_back`).

A salt that is taken back has between 8 and 48 bytes.  New hashes have 16.
-/

namespace Accounts.Crypto

open Argon2

/-! ## The length of a digest -/

theorem Blake2b.length_absorb {state : List UInt64} (h : state.length = 8) (count : Nat) (last : Bool)
    (block : List UInt8) : (absorb state count last block).length = 8 := by
  unfold absorb
  dsimp only
  generalize List.foldl _ _ _ = row
  simp [Row.toList, h]

theorem Blake2b.length_absorbAll {state : List UInt64} (h : state.length = 8) (count : Nat)
    (blocks : List (List UInt8)) : (absorbAll state count blocks).length = 8 := by
  induction blocks generalizing state count with
  | nil => exact h
  | cons block rest ih =>
      cases rest with
      | nil => exact length_absorb h _ _ _
      | cons next rest => exact ih (length_absorb h _ _ _) _

theorem Blake2b.length_hash {size : Nat} (h : size ≤ 64) (message : List UInt8) :
    (Blake2b.hash size message).length = size := by
  unfold Blake2b.hash
  have hwords : ∀ ws : List UInt64,
      (ws.flatMap fun w => Bytes.littleEndian 8 w.toNat).length = ws.length * 8 := by
    intro ws
    induction ws with
    | nil => rfl
    | cons w ws ih =>
        rw [List.flatMap_cons, List.length_append, ih, Bytes.length_littleEndian, List.length_cons]
        omega
  dsimp only
  rw [List.length_take, hwords, length_absorbAll rfl]
  omega

/-- A digest of up to 64 bytes has the length that was asked for. -/
theorem Argon2.length_hash {p : Params} (h : p.size ≤ 64) (password salt : List UInt8) :
    (hash p password salt).length = p.size := by
  unfold hash longHash
  dsimp only
  rw [if_pos h]
  exact Blake2b.length_hash h _

end Accounts.Crypto

namespace Accounts.Bytes.Base64

theorem length_encode (a : Alphabet) (bytes : List UInt8) :
    (encode a bytes).length = (4 * bytes.length + 2) / 3 := by
  rw [encode, List.length_map]
  fun_induction toValues bytes with
  | case1 => rfl
  | case2 x n => simp
  | case3 x y n => simp
  | case4 x y z rest n ih =>
      simp only [List.length_cons, ih]
      omega

end Accounts.Bytes.Base64

namespace Accounts.Password

open Crypto Bytes.Base64

/-! ## Fields -/

theorem splitAt_of_not_mem {sep : Char} {cs : List Char} (h : sep ∉ cs) : splitAt sep cs = [cs] := by
  induction cs with
  | nil => rfl
  | cons c cs ih =>
      obtain ⟨hc, hcs⟩ := not_or.1 fun hor => h (List.mem_cons.2 hor)
      rw [splitAt, if_neg (Ne.symm hc), ih hcs]

theorem splitAt_append {sep : Char} {field : List Char} (h : sep ∉ field) (rest : List Char) :
    splitAt sep (field ++ sep :: rest) = field :: splitAt sep rest := by
  induction field with
  | nil => simp [splitAt]
  | cons c cs ih =>
      obtain ⟨hc, hcs⟩ := not_or.1 fun hor => h (List.mem_cons.2 hor)
      rw [List.cons_append, splitAt, if_neg (Ne.symm hc), ih hcs]

/-- What is written to base 64 may stand in a field. -/
structure Written (cs : List Char) : Prop where
  value : cs.find? (fun c => !isValueChar c) = none
  bytes : byteLength cs = cs.length
  separate : '$' ∉ cs

theorem byteLength_eq {cs : List Char} (h : ∀ c ∈ cs, c.utf8Size = 1) : byteLength cs = cs.length := by
  have hsum : ∀ n, cs.foldl (fun n c => n + c.utf8Size) n = n + cs.length := by
    intro n
    induction cs generalizing n with
    | nil => rfl
    | cons c cs ih =>
        rw [List.foldl_cons, ih (fun d hd => h d (List.mem_cons_of_mem c hd)),
          h c List.mem_cons_self, List.length_cons]
        omega
  exact (hsum 0).trans (Nat.zero_add _)

theorem written_encode (bs : List UInt8) : Written (encode .standard bs) := by
  have hdigits : ∀ n ∈ List.range 64, isValueChar (Alphabet.standard.digit n) = true ∧
      (Alphabet.standard.digit n).utf8Size = 1 ∧ Alphabet.standard.digit n ≠ '$' := by decide
  have hall : ∀ c ∈ encode .standard bs, isValueChar c = true ∧ c.utf8Size = 1 ∧ c ≠ '$' := by
    intro c hc
    obtain ⟨n, hn, rfl⟩ := List.mem_map.1 hc
    exact hdigits n (List.mem_range.2 (lt_of_mem_toValues hn))
  exact {
    value := List.find?_eq_none.2 fun c hc => by simp [(hall c hc).1]
    bytes := byteLength_eq fun c hc => (hall c hc).2.1
    separate := fun hmem => (hall '$' hmem).2.2 rfl }

theorem decodeBase64_encode {most : Nat} {bs : List UInt8} (h : bs.length ≤ most) :
    decodeBase64 most (encode .standard bs) = .ok bs := by
  unfold decodeBase64
  dsimp only
  rw [(written_encode bs).bytes, length_encode, if_neg (by omega), decode_encode Alphabet.standard_sound]

theorem readSalt_encode {salt : List UInt8} (hleast : 3 ≤ salt.length) (hmost : salt.length ≤ 48) :
    readSalt (encode .standard salt) = .ok (encode .standard salt) := by
  have hw := written_encode salt
  rw [readSalt, hw.bytes, length_encode, if_neg (by omega), if_neg (by omega), hw.value]

theorem readHash_encode {bs : List UInt8} (hleast : 10 ≤ bs.length) (hmost : bs.length ≤ 64) :
    readHash (encode .standard bs) = .ok bs := by
  rw [readHash, decodeBase64_encode hmost]
  exact if_neg (Nat.not_lt.2 hleast)

/-! ## Reading a hash back -/

/-- What a hash is with its salt and digest left open. -/
def framed (salt digest : List UInt8) : Phc :=
  { hashed "" [] with
    salt := some (encode .standard salt)
    hash := some digest }

theorem chars_framed (salt digest : List UInt8) :
    (framed salt digest).chars = [] ++ '$' :: ("argon2id".toList ++ '$' :: ("v=19".toList ++
      '$' :: ("m=19456,t=2,p=1".toList ++ '$' :: (encode .standard salt ++
        '$' :: encode .standard digest)))) := by
  have htext : (framed salt digest).chars = "$argon2id$v=19$m=19456,t=2,p=1".toList ++
      '$' :: encode .standard salt ++ '$' :: encode .standard digest := rfl
  rw [htext]
  simp

theorem parse_framed {salt digest : List UInt8} (hleast : 3 ≤ salt.length) (hmost : salt.length ≤ 48)
    (hdigest : digest.length = defaultSize) :
    Phc.parse (framed salt digest).text = .ok (framed salt digest) := by
  have hsize : defaultSize = 32 := rfl
  have hfields : splitAt '$' (framed salt digest).chars =
      [[], "argon2id".toList, "v=19".toList, "m=19456,t=2,p=1".toList,
        encode .standard salt, encode .standard digest] := by
    rw [chars_framed, splitAt_append (by decide), splitAt_append (by decide),
      splitAt_append (by decide), splitAt_append (by decide),
      splitAt_append (written_encode salt).separate, splitAt_of_not_mem (written_encode digest).separate]
  rw [Phc.parse, Phc.text, String.toList_ofList, hfields]
  have hname : readName "argon2id".toList = .ok "argon2id".toList := if_pos (by decide)
  have hversion : ∀ rest, takeVersion ("v=19".toList :: rest) = .ok (some 19, rest) := fun _ => rfl
  have hparams : ∀ rest, takeParams ("m=19456,t=2,p=1".toList :: rest) =
      .ok ((framed salt digest).params, rest) := fun _ => rfl
  have hhash : readHash (encode .standard digest) = .ok digest := readHash_encode (by omega) (by omega)
  simp only [hname, hversion, hparams, readSalt_encode hleast hmost, hhash, bind, Except.bind]
  rfl

/-- The digest of a password under a salt. -/
def digestOf (password : String) (salt : List UInt8) : List UInt8 :=
  Argon2.hash ⟨.hybrid, .v13, defaultCost, defaultSize, []⟩ (Bytes.ofText password) salt

theorem length_digestOf (password : String) (salt : List UInt8) :
    (digestOf password salt).length = defaultSize :=
  Argon2.length_hash (by decide) _ _

theorem digest_framed {salt : List UInt8} (hleast : 8 ≤ salt.length) (hmost : salt.length ≤ 64)
    (other : List UInt8) (password : String) :
    digest (framed salt other) (encode .standard salt) defaultSize password =
      .ok (digestOf password salt) := by
  have hparams : (ReadParams.mk defaultCost []).run (framed salt other).params =
      .ok ⟨defaultCost, []⟩ := rfl
  have hcost : checkCost defaultCost = .ok () := rfl
  have hvariant : variantOf? (framed salt other).algorithm = some .hybrid := rfl
  have hversion : (framed salt other).version = some Argon2.Version.v13.code := rfl
  have hcode : versionOf? Argon2.Version.v13.code = some .v13 := rfl
  simp only [digest, hparams, hcost, hvariant, hversion, hcode, decodeBase64_encode hmost, bind, Except.bind,
    if_neg (Nat.not_lt.2 hleast)]
  rfl

/-- Checking a password against a stored hash compares the digests under its salt. -/
theorem verify_hash {salt : List UInt8} (hleast : 8 ≤ salt.length) (hmost : salt.length ≤ 48)
    (other password : String) :
    verify other (hash password salt) = .ok (digestOf other salt == digestOf password salt) := by
  have hparse : Phc.parse (hash password salt) = .ok (hashed password salt) :=
    parse_framed (by omega) hmost (length_digestOf password salt)
  have hmatch : matchesPhc (hashed password salt) other =
      .ok (digestOf other salt == digestOf password salt) := by
    show (digest (framed salt (digestOf password salt)) (encode .standard salt)
      (digestOf password salt).length other).map (· == digestOf password salt) = _
    rw [length_digestOf, digest_framed hleast (by omega)]
    rfl
  rw [verify, hparse]
  dsimp only
  rw [hmatch]
  rfl

/-- The password of a stored hash is accepted. -/
theorem verify_hash_self {salt : List UInt8} (hleast : 8 ≤ salt.length) (hmost : salt.length ≤ 48)
    (password : String) : verify password (hash password salt) = .ok true := by
  rw [verify_hash hleast hmost, beq_self_eq_true]

/-! ## What a stored hash says -/

/-- How new hashes are made. -/
def newParams : Argon2.Params := ⟨.hybrid, .v13, defaultCost, defaultSize, []⟩

theorem digestOf_eq (password : String) (salt : List UInt8) :
    digestOf password salt = Argon2.hash newParams (Bytes.ofText password) salt := rfl

/-- A password hash says how a digest was made, from which salt, and the digest. -/
structure Phc.Tells (h : Phc) (p : Argon2.Params) (salt digest : List UInt8) : Prop where
  variant : variantOf? h.algorithm = some p.variant
  version : h.version.bind versionOf? = some p.version
  /-- The whole cost is said: nothing is left of what it was taken to be before. -/
  cost : ∀ before : ReadParams, before.run h.params = .ok ⟨p.cost, before.data⟩
  salted : ∃ text, h.salt = some text ∧ decodeBase64 64 text = .ok salt
  hashed : h.hash = some digest
  size : digest.length = p.size

theorem framed_tells {salt digest : List UInt8} (hmost : salt.length ≤ 64)
    (hdigest : digest.length = defaultSize) : (framed salt digest).Tells newParams salt digest where
  variant := rfl
  version := rfl
  cost _ := rfl
  salted := ⟨_, rfl, decodeBase64_encode hmost⟩
  hashed := rfl
  size := hdigest

/-- **A stored hash is read back.**  It is one text, with the parts in their order, and what is read
from it writes the same text again and says how new hashes are made, from which salt, and the digest
of the password.  So its password is accepted; any other one is accepted exactly if it has the same
digest under the salt and the parameters of the hash, and no password leads to an error. -/
theorem stored_hash_read_back (password : String) {salt : List UInt8} (hsalt : salt.length = 16) :
    ((hash password salt).toList = "$argon2id$v=19$m=19456,t=2,p=1".toList ++
      '$' :: encode .standard salt ++ '$' :: encode .standard (digestOf password salt)) ∧
    (∃ h, Phc.parse (hash password salt) = .ok h ∧ h.text = hash password salt ∧
      h.Tells newParams salt (digestOf password salt)) ∧
    verify password (hash password salt) = .ok true ∧
    ∀ other, ∃ accepted, verify other (hash password salt) = .ok accepted ∧
      (accepted = true ↔ Argon2.hash newParams (Bytes.ofText other) salt =
        Argon2.hash newParams (Bytes.ofText password) salt) := by
  have hparse : Phc.parse (hash password salt) = .ok (framed salt (digestOf password salt)) :=
    parse_framed (by omega) (by omega) (length_digestOf password salt)
  refine ⟨String.toList_ofList, ⟨_, hparse, rfl, ?_⟩, ?_, ?_⟩
  · exact framed_tells (by omega) (length_digestOf password salt)
  · exact verify_hash_self (by omega) (by omega) password
  · intro other
    refine ⟨_, verify_hash (by omega) (by omega) other password, ?_⟩
    rw [beq_iff_eq, digestOf_eq, digestOf_eq]

/-- A password outside of ASCII, and a salt that is written with the last digits of the alphabet. -/
theorem stored_hash_read_back_awkward :
    let salt : List UInt8 := [0, 1, 2, 3, 4, 5, 6, 7, 248, 249, 250, 251, 252, 253, 254, 255]
    salt.length = 16 ∧ verify "pässwörd 🔑" (hash "pässwörd 🔑" salt) = .ok true := by
  intro salt
  have hsalt : salt.length = 16 := rfl
  exact ⟨hsalt, (stored_hash_read_back "pässwörd 🔑" hsalt).2.2.1⟩

end Accounts.Password
