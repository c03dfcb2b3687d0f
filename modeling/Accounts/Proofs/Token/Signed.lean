import Accounts.Proofs.Json.Reading
import Accounts.Text.Parts
import Accounts.Token.Signed
import Mathlib.Data.List.TakeWhile
/-!
# Tokens carry their claims

A token of an issuer with a shared secret is cut at its two dots, because no part of it has a
dot inside.  Header and claims are written as objects, so their parts give back the fields, and
the names that are asked for are picked from them.

A text is accepted only if it is such a token: the header names the algorithm, the last part is
the signature of the first two, and the claims are those of the second part.  Every other text is
refused in the same way.
-/

namespace Accounts

open Json (Tree)

/-! ## Claims -/

section Claims

variable {c : Claims} {fields : List (String × Json)}

/-- A scope is written by its name, alone or as the one field of an object. -/
def Scope.Written (v : Json) (s : Scope) : Prop :=
  v = .string s.name ∨ v = .object [(s.name, .null)]

theorem Scope.read_iff {v : Json} {s : Scope} :
    Scope.decoder.read v = .ok s ↔ Scope.Written v s := by
  have hfind : ∀ name, Scope.all.find? (fun t => t.name == name) = some s ↔ name = s.name := by
    intro name
    by_cases huser : name = "user"
    · subst huser
      cases s <;> decide
    by_cases htwoFa : name = "2fa-check"
    · subst htwoFa
      cases s <;> decide
    · have hnone : Scope.all.find? (fun t => t.name == name) = none := by
        simp [Scope.all, Scope.name, @eq_comm _ _ name, huser, htwoFa]
      rw [hnone]
      cases s <;> simp [Scope.name, huser, htwoFa]
  simp [Scope.Written, Scope.decoder, Json.Decoder.read_oneOf_iff, hfind]

/-- Fields say what claims say. -/
structure Claims.Written (fields : List (String × Json)) (c : Claims) : Prop where
  sub : fields.lookup "sub" = some (.string c.sub)
  email : fields.lookup "email" = some (.string c.email)
  scp : ∃ items, fields.lookup "scp" = some (.array items) ∧ List.Forall₂ Scope.Written items c.scp
  iat : fields.lookup "iat" = some (.ofInt c.iat) ∧ c.iat < Int.pow 2 63
  exp : fields.lookup "exp" = some (.ofInt c.exp) ∧ c.exp < Int.pow 2 63

theorem Claims.ofFields_iff : Claims.record.ofFields fields = .ok c ↔ Claims.Written fields c := by
  have hscopes : ∀ scp, (Json.Record.field "scp" (.list Scope.decoder)).ofFields fields = .ok scp ↔
      ∃ items, fields.lookup "scp" = some (.array items) ∧
        List.Forall₂ Scope.Written items scp := by
    intro scp
    refine (Json.Record.ofFields_field_iff rfl).trans ?_
    simp only [Json.Decoder.read_list_iff, Scope.read_iff]
    exact ⟨fun ⟨_, hv, items, heq, hitems⟩ => ⟨items, heq ▸ hv, hitems⟩,
      fun ⟨items, hv, hitems⟩ => ⟨_, hv, items, rfl, hitems⟩⟩
  simp only [Claims.record, Json.Record.ofFields_andThen_iff, Json.Record.ofFields_text_iff,
    Json.Record.ofFields_int64_iff, hscopes]
  constructor
  · rintro ⟨_, exp, ⟨_, iat, ⟨_, scp, ⟨_, email, ⟨_, sub, hmk, hsub, rfl⟩, hemail, rfl⟩, hscp, rfl⟩,
      hiat, rfl⟩, hexp, rfl⟩
    cases hmk
    exact ⟨hsub, hemail, hscp, hiat, hexp⟩
  · rintro ⟨hsub, hemail, hscp, hiat, hexp⟩
    exact ⟨_, _, ⟨_, _, ⟨_, _, ⟨_, _, ⟨_, _, rfl, hsub, rfl⟩, hemail, rfl⟩, hscp, rfl⟩, hiat, rfl⟩,
      hexp, rfl⟩

/-- The seconds in claims have 64 bits. -/
def Claims.Int64 (c : Claims) : Prop :=
  (-Int.pow 2 63 ≤ c.iat ∧ c.iat < Int.pow 2 63) ∧ -Int.pow 2 63 ≤ c.exp ∧ c.exp < Int.pow 2 63

instance (c : Claims) : Decidable c.Int64 := inferInstanceAs (Decidable (_ ∧ _))

end Claims

namespace Token

/-! ## Parts -/

variable {token header claims signed : List Char}

theorem of_dropWhile {cs rest : List Char} {d : Char} (h : cs.dropWhile (· ≠ '.') = d :: rest) :
    cs = cs.takeWhile (· ≠ '.') ++ '.' :: rest ∧ '.' ∉ cs.takeWhile (· ≠ '.') := by
  obtain rfl : d = '.' := by
    have hhead := List.head?_dropWhile_not (fun c : Char => decide (c ≠ '.')) cs
    rw [h] at hhead
    simpa using hhead
  constructor
  · rw [← h, List.takeWhile_append_dropWhile]
  · intro hmem
    simpa using List.mem_takeWhile_imp hmem

/-- A token has three parts exactly if there are two dots in it. -/
theorem parts_eq_some_iff : parts token = some (header, claims, signed) ↔
    token = header ++ '.' :: (claims ++ '.' :: signed) ∧
      '.' ∉ header ∧ '.' ∉ claims ∧ '.' ∉ signed := by
  constructor
  · intro h
    simp only [parts] at h
    split at h
    · next d rest hrest =>
        split at h
        · next d' last hlast =>
            split at h
            · cases h
            · next hsigned =>
                cases h
                obtain ⟨htoken, hheader⟩ := of_dropWhile hrest
                obtain ⟨hrest, hclaims⟩ := of_dropWhile hlast
                rw [← hrest]
                exact ⟨htoken, hheader, hclaims, by simpa using hsigned⟩
        · cases h
    · cases h
  · rintro ⟨rfl, hheader, hclaims, hsigned⟩
    obtain ⟨htake, hdrop⟩ := Text.cut_append (claims ++ '.' :: signed) hheader
    obtain ⟨htake', hdrop'⟩ := Text.cut_append signed hclaims
    simp only [parts, htake, hdrop, htake', hdrop']
    rw [if_neg (by simpa using hsigned)]

/-! ## Fields of a part -/

theorem not_mem_encode (bytes : List UInt8) : '.' ∉ Bytes.Base64.encode .urlSafe bytes := by
  have hdigits : ∀ n < 64, Bytes.Base64.Alphabet.urlSafe.digit n ≠ '.' := by decide
  intro hmem
  obtain ⟨n, hn, heq⟩ := List.mem_map.1 hmem
  exact hdigits n (Bytes.Base64.lt_of_mem_toValues hn) heq

/-- The fields of a part are those of the object that it was made of. -/
theorem fieldsOf_part {fields : List (String × Json)} (h : (Json.object fields).Faithful) :
    fieldsOf (part (Json.chars (.object fields))) = some (Json.fieldTrees fields) := by
  rw [fieldsOf, part, Bytes.Base64.decode_encode Bytes.Base64.Alphabet.urlSafe_sound]
  simp only [bind, Option.bind, Bytes.toText?_ofText, String.toList_ofList, h.tree?_chars,
    Json.tree]

/-- The values of a part at some names. -/
def Holds (names : List String) (part : List Char) (known : List (String × Json)) : Prop :=
  ∃ fields, fieldsOf part = some fields ∧ pick names fields = some known

/-- Of fields with different names those are picked that are asked for. -/
theorem pick_fieldTrees {names : List String} {fields : List (String × Json)}
    (hvalues : ∀ f ∈ fields, f.2.Tidy Json.maxDepth) (hnodup : (fields.map Prod.fst).Nodup) :
    pick names (Json.fieldTrees fields) = some (fields.filter fun f => names.contains f.1) := by
  induction fields with
  | nil => rfl
  | cons f fs ih =>
      obtain ⟨k, v⟩ := f
      obtain ⟨hv, hfs⟩ := List.forall_mem_cons.1 hvalues
      rw [List.map_cons, List.nodup_cons] at hnodup
      have hvalue : v.tree.value? Json.maxDepth = some v := Json.Tidy.value?_tree hv
      have hnone : (fs.filter fun f => names.contains f.1).lookup k = none := by
        refine List.lookup_eq_none_iff.2 fun g hg => ?_
        have hmem := List.mem_map_of_mem (f := Prod.fst) (List.mem_filter.1 hg).1
        simpa using fun heq : k = g.1 => hnodup.1 (heq ▸ hmem)
      rw [Json.fieldTrees, pick, ih hfs hnodup.2]
      by_cases hk : names.contains k = true
      · have hfilter : ((k, v) :: fs).filter (fun f => names.contains f.1) =
            (k, v) :: fs.filter fun f => names.contains f.1 := List.filter_cons_of_pos hk
        simp only [hfilter, bind, Option.bind, if_pos hk, hvalue, hnone]
        rfl
      · have hfilter : ((k, v) :: fs).filter (fun f => names.contains f.1) =
            fs.filter fun f => names.contains f.1 := List.filter_cons_of_neg hk
        simp only [hfilter, bind, Option.bind, if_neg hk]

/-! ## Headers -/

/-- The names that are looked at in a header. -/
def headerFields : List String := "alg" :: "x5c" :: "jwk" :: headerTexts

theorem headerNames_headerChars (a : Algorithm) : headerNames a (part (headerChars a)) = true := by
  have hfaithful : (Json.object [("typ", .string "JWT"), ("alg", .string a.name)]).Faithful := by
    refine .object fun f hf => ?_
    rcases List.mem_pair.1 hf with rfl | rfl
    · exact .string _
    · exact .string _
  have htidy : ∀ f ∈ [("typ", Json.string "JWT"), ("alg", .string a.name)],
      f.2.Tidy Json.maxDepth := by
    intro f hf
    rcases List.mem_pair.1 hf with rfl | rfl
    · exact .string _ _
    · exact .string _ _
  have hpick := @pick_fieldTrees ("alg" :: "x5c" :: "jwk" :: headerTexts) _ htidy (by simp)
  rw [headerNames, headerChars, fieldsOf_part hfaithful, Option.bind_some, hpick]
  cases a with
  | hs256 => rfl
  | rs256 => rfl

/-- A header that is accepted names the algorithm. -/
theorem alg_of_headerNames {a : Algorithm} (h : headerNames a header = true) :
    ∃ named, Holds headerFields header named ∧ (named.lookup "alg" = some (.string a.name) ∨
      named.lookup "alg" = some (.object [(a.name, .null)])) := by
  rw [headerNames] at h
  split at h
  · next named hnamed =>
      obtain ⟨fields, hfields, hpick⟩ := Option.bind_eq_some_iff.1 hnamed
      refine ⟨named, ⟨fields, hfields, hpick⟩, ?_⟩
      simp only [Fields.nameAlgorithm, Bool.and_eq_true] at h
      have halg : ((Json.Decoder.oneOf [a.name] id).read ((named.lookup "alg").getD .null)).isOk =
          true := h.1.1.1
      cases hread : (Json.Decoder.oneOf [a.name] id).read ((named.lookup "alg").getD .null) with
      | error e => simp [hread, Except.isOk, Except.toBool] at halg
      | ok x =>
          obtain ⟨s, hv, hs⟩ := Json.Decoder.read_oneOf_iff.1 hread
          have hx : x = a.name := List.mem_singleton.1 (List.mem_of_find?_eq_some hs)
          obtain rfl : a.name = s := by simpa [hx] using List.find?_some hs
          cases hlookup : named.lookup "alg" with
          | none => simp [hlookup] at hv
          | some v => simpa [hlookup] using hv
  · cases h

/-! ## Tokens -/

/-- The fields of the claims of a token. -/
def claimFields (c : Claims) : List (String × Json) := [
  ("sub", .string c.sub),
  ("email", .string c.email),
  ("scp", .array (c.scp.map fun s => .string s.name)),
  ("iat", .ofInt c.iat),
  ("exp", .ofInt c.exp)]

variable {secret : String} {now : Int} {c : Claims}

theorem faithful_claimFields (h : c.Int64) : (Json.object (claimFields c)).Faithful := by
  obtain ⟨⟨hiatLeast, hiat⟩, hexpLeast, hexp⟩ := h
  refine .object ?_
  simp only [claimFields, List.forall_mem_cons, List.not_mem_nil, false_implies, implies_true,
    and_true]
  refine ⟨.string _, .string _, .array ?_, .number ?_, .number ?_⟩
  · intro v hv
    obtain ⟨s, -, rfl⟩ := List.mem_map.1 hv
    exact .string _
  · exact Json.Number.faithful_integer hiatLeast (Int.lt_trans hiat (by decide))
  · exact Json.Number.faithful_integer hexpLeast (Int.lt_trans hexp (by decide))

theorem tidy_claimFields (c : Claims) : ∀ f ∈ claimFields c, f.2.Tidy Json.maxDepth := by
  simp only [claimFields, List.forall_mem_cons, List.not_mem_nil, false_implies, implies_true,
    and_true]
  refine ⟨.string _ _, .string _ _, .array ?_, .number _ _, .number _ _⟩
  intro v hv
  obtain ⟨s, -, rfl⟩ := List.mem_map.1 hv
  exact .string _ _

theorem written_claimFields (h : c.Int64) : Claims.Written (claimFields c) c where
  sub := rfl
  email := rfl
  scp := by
    refine ⟨_, rfl, ?_⟩
    rw [List.forall₂_map_left_iff]
    exact List.forall₂_same.2 fun s _ => .inl rfl
  iat := ⟨rfl, h.1.2⟩
  exp := ⟨rfl, h.2.2⟩

theorem readClaims_claimFields (h : c.Int64) :
    readClaims (Json.fieldTrees (claimFields c)) = some c := by
  have hpick : pick claimNames (Json.fieldTrees (claimFields c)) = some (claimFields c) :=
    pick_fieldTrees (tidy_claimFields c) (by simp [claimFields])
  have hread := Claims.ofFields_iff.2 (written_claimFields h)
  simp [readClaims, hpick, hread, Except.toOption]

/-- The signature of a message under a secret. -/
def signature (secret : String) (message : List Char) : List Char :=
  Bytes.Base64.encode .urlSafe (Crypto.hmac Crypto.sha256 (Bytes.ofText secret) (charBytes message))

theorem verifies_ofSecret_iff {message signed : List Char} :
    (Issuer.ofSecret secret).verifies message signed = true ↔
      signed = signature secret message := by
  simp [Issuer.ofSecret, Issuer.verifies, signature]

/-- A token that an issuer gives out is accepted by the issuer until it expires. -/
theorem parse_issue (h : c.Int64) (hnow : 0 ≤ now ∧ now ≤ c.exp) :
    ∃ token, (Issuer.ofSecret secret).issue c = .ok token ∧
      (Issuer.ofSecret secret).parse now token = .ok c := by
  refine ⟨String.ofList (message .hs256 c ++ '.' :: signature secret (message .hs256 c)), rfl, ?_⟩
  have hparts : parts (message .hs256 c ++ '.' :: signature secret (message .hs256 c)) =
      some (part (headerChars .hs256), part (claimsChars c),
        signature secret (message .hs256 c)) := by
    refine parts_eq_some_iff.2 ⟨?_, not_mem_encode _, not_mem_encode _, not_mem_encode _⟩
    simp [message]
  have hfields : fieldsOf (part (claimsChars c)) = some (Json.fieldTrees (claimFields c)) :=
    fieldsOf_part (faithful_claimFields h)
  have haccepted : headerNames (Issuer.ofSecret secret).algorithm (part (headerChars .hs256)) ∧
      (Issuer.ofSecret secret).verifies (part (headerChars .hs256) ++ '.' :: part (claimsChars c))
        (signature secret (message .hs256 c)) :=
    ⟨headerNames_headerChars .hs256, verifies_ofSecret_iff.2 rfl⟩
  have hpassed : now ≤ c.exp ∧ 0 ≤ c.exp ∧ namesNoAudience (Json.fieldTrees (claimFields c)) ∧
      passableStart (Json.fieldTrees (claimFields c)) ∧
      standOnce (Json.fieldTrees (claimFields c)) :=
    ⟨hnow.2, Int.le_trans hnow.1 hnow.2, rfl, rfl, rfl⟩
  have : accepted? (Issuer.ofSecret secret) now
      (message .hs256 c ++ '.' :: signature secret (message .hs256 c)) = some c := by
    simp only [accepted?, hparts, Option.bind_eq_bind, Option.bind_some]
    rw [if_pos haccepted]
    simp only [hfields, readClaims_claimFields h, Option.bind_some, if_pos hpassed]
  rw [Issuer.parse, String.toList_ofList, this]

/-- The parts of a token that a secret signs, and the claims that it carries. -/
structure Signed (secret : String) (header claims signed : List Char) (c : Claims) : Prop where
  /-- There is no dot inside of a part. -/
  dots : '.' ∉ header ∧ '.' ∉ claims ∧ '.' ∉ signed
  /-- The header names the algorithm. -/
  algorithm : ∃ named, Holds headerFields header named ∧
    (named.lookup "alg" = some (.string "HS256") ∨
      named.lookup "alg" = some (.object [("HS256", .null)]))
  /-- The last part is the signature of the first two. -/
  signature_eq : signed = signature secret (header ++ '.' :: claims)
  /-- The claims are what the second part says. -/
  payload : ∃ known, Holds claimNames claims known ∧ Claims.Written known c

/-- A token that is accepted is signed and did not expire. -/
theorem signed_of_parse {token : String} (h : (Issuer.ofSecret secret).parse now token = .ok c) :
    (∃ header claims signed, token.toList = header ++ '.' :: (claims ++ '.' :: signed) ∧
      Signed secret header claims signed c) ∧ now ≤ c.exp := by
  -- Every test that the text passed on its way gives one of the conditions.
  rw [Issuer.parse] at h
  split at h
  · next d hd =>
      cases h
      rw [accepted?] at hd
      obtain ⟨⟨header, claims, signed⟩, hparts, hd⟩ := Option.bind_eq_some_iff.1 hd
      dsimp only at hd
      split at hd
      · next haccepted =>
          obtain ⟨fields, hfields, hd⟩ := Option.bind_eq_some_iff.1 hd
          obtain ⟨d, hread, hd⟩ := Option.bind_eq_some_iff.1 hd
          split at hd
          · next hpassed =>
              cases hd
              obtain ⟨htoken, hdots⟩ := parts_eq_some_iff.1 hparts
              obtain ⟨known, hknown, hrecord⟩ := Option.bind_eq_some_iff.1 hread
              have hwritten : Claims.record.ofFields known = .ok c := by
                cases hr : Claims.record.ofFields known with
                | error e => simp [hr, Except.toOption] at hrecord
                | ok b => simpa [hr, Except.toOption] using hrecord
              refine ⟨⟨header, claims, signed, htoken, hdots, ?_, ?_, ?_⟩, hpassed.1⟩
              · exact alg_of_headerNames haccepted.1
              · exact verifies_ofSecret_iff.1 haccepted.2
              · exact ⟨known, ⟨fields, hfields, hknown⟩, Claims.ofFields_iff.1 hwritten⟩
          · cases hd
      · cases hd
  · cases h

/-- Of an issuer with a shared secret every text is either a token that carries its claims, or it
is refused without saying why. -/
theorem tokens_stand_for_claims (secret : String) :
    (∀ c now, c.Int64 → 0 ≤ now → now ≤ c.exp → ∃ token,
      (Issuer.ofSecret secret).issue c = .ok token ∧
        (Issuer.ofSecret secret).parse now token = .ok c) ∧
    (∀ now token c, (Issuer.ofSecret secret).parse now token = .ok c →
      (∃ header claims signed, token.toList = header ++ '.' :: (claims ++ '.' :: signed) ∧
        Signed secret header claims signed c) ∧ now ≤ c.exp) ∧
    ∀ now token, (∃ c, (Issuer.ofSecret secret).parse now token = .ok c) ∨
      (Issuer.ofSecret secret).parse now token = .error .invalidToken := by
  refine ⟨fun c now h hleast hmost => parse_issue h ⟨hleast, hmost⟩,
    fun now token c h => signed_of_parse h, fun now token => ?_⟩
  rw [Issuer.parse]
  split
  · exact .inl ⟨_, rfl⟩
  · exact .inr rfl

/-- The address has quotes and a letter outside of ASCII. -/
theorem tokens_stand_for_claims_quoted : ∃ c : Claims, c.email = "\"ada\"@\u00e9.example" ∧
    ∃ token header claims signed, (Issuer.ofSecret "secret").issue c = .ok token ∧
      (Issuer.ofSecret "secret").parse 1700000000 token = .ok c ∧
      token.toList = header ++ '.' :: (claims ++ '.' :: signed) ∧
      Signed "secret" header claims signed c := by
  obtain ⟨hissue, hsigned, -⟩ := tokens_stand_for_claims "secret"
  obtain ⟨token, htoken, hparse⟩ := hissue
    ⟨"pid-1", "\"ada\"@\u00e9.example", [.user], 1700000000, 4102444800⟩ 1700000000
    (by decide) (by decide) (by decide)
  obtain ⟨⟨header, claims, signed, hparts, hall⟩, -⟩ := hsigned _ _ _ hparse
  exact ⟨_, rfl, token, header, claims, signed, htoken, hparse, hparts, hall⟩

end Token
end Accounts
