import Accounts.Proofs.Bytes.Base32
import Accounts.Proofs.Otp.Checked
/-!
# What a new secret is handed over as

An address is read by its marks: a fragment behind `#` does not count, the label ends at the first
`?`, parameters are split at `&`, and each of them at its first `=` (`Address.read`).  An address
that is put together from parts without marks is read back as those parts
(`Address.read_write`).

Percent-encoding leaves no mark in the names that an address holds, and neither does base 32.  So
`digits=` cannot come from a name: what stands in front of an equals sign ends with another letter
(`occursIn_address`), and the number of digits is always added.
-/

namespace Accounts.Bytes

theorem ofText_append (s s' : String) : ofText (s ++ s') = ofText s ++ ofText s' := by
  simp [ofText, toList_eq_data, String.toUTF8, String.toByteArray_append]

namespace Percent

/-- The text that a written form spells. -/
def decodeText (cs : List Char) : Option String := (decode cs).bind toText?

theorem decode_encode_append (bytes : List UInt8) (cs : List Char) :
    decode (encode bytes ++ cs) = (decode cs).map (bytes ++ ·) := by
  induction bytes with
  | nil => simp [encode]
  | cons b bytes ih =>
      rw [encode, List.flatMap_cons, ← encode, List.append_assoc, decode_escape_append, ih,
        Option.map_map]
      rfl

theorem decodeText_encode (s : String) : decodeText (encode (ofText s)) = some s := by
  rw [decodeText, decode_encode, Option.bind_some, toText?_ofText]

/-- Two names with a colon between them. -/
theorem decodeText_encode_colon (s s' : String) :
    decodeText (encode (ofText s) ++ ':' :: encode (ofText s')) = some (s ++ ":" ++ s') := by
  have hcolon : decode (':' :: encode (ofText s')) = some (0x3A :: ofText s') := by
    rw [decode.eq_3 _ _ (by intro _ _ _ he; cases he), decode_encode]
    rfl
  have hbytes : ofText s ++ 0x3A :: ofText s' = ofText (s ++ ":" ++ s') := by
    rw [ofText_append, ofText_append, List.append_assoc, show ofText ":" = [0x3A] by decide +kernel,
      List.singleton_append]
  rw [decodeText, decode_encode_append, hcolon, Option.map_some, Option.bind_some, hbytes,
    toText?_ofText]

end Percent

end Accounts.Bytes

namespace Accounts.Otp

open Bytes (ofText)
open Bytes.Base32 (InAlphabet)
open Bytes.Percent (decodeText)

/-! ## Addresses -/

/-- What is read in the address of a secret. -/
structure Address where
  /-- The label, which names the account. -/
  label : List Char
  /-- The parameters with their values. -/
  params : List (List Char × List Char)
deriving DecidableEq, Repr

/-- What stands in front of the first separator, and what stands behind it. -/
def cut (sep : Char) (cs : List Char) : List Char × List Char :=
  (cs.takeWhile (· ≠ sep), (cs.dropWhile (· ≠ sep)).tail)

namespace Address

/-- How an address of a secret starts. -/
def scheme : String := "otpauth://totp/"

/-- Reads an address. -/
def read (cs : List Char) : Option Address :=
  ((cut '#' cs).1.dropPrefix? scheme.toList).map fun rest =>
    ⟨(cut '?' rest).1, ((cut '?' rest).2.splitOn '&').map (cut '=')⟩

/-- Writes a parameter. -/
def field (p : List Char × List Char) : List Char := p.1 ++ '=' :: p.2

/-- Writes an address. -/
def write (a : Address) : List Char :=
  scheme.toList ++ a.label ++ '?' :: ['&'].intercalate (a.params.map field)

/-- The characters that an address is read by. -/
def marks : List Char := ['#', '?', '&', '=']

/-- No character is one that an address is read by. -/
def Free (cs : List Char) : Prop := ∀ c ∈ cs, c ∉ marks

instance (cs : List Char) : Decidable (Free cs) := List.decidableBAll _ cs

/-- The parts of an address have no marks, and there is a parameter. -/
structure WellFormed (a : Address) : Prop where
  label : Free a.label
  names : ∀ p ∈ a.params, Free p.1
  values : ∀ p ∈ a.params, Free p.2
  params : a.params ≠ []

variable {sep : Char} {cs front : List Char} {a : Address}

theorem Free.not_mem (h : Free cs) (hsep : sep ∈ marks) : sep ∉ cs := fun hmem => h sep hmem hsep

theorem cut_append (h : sep ∉ front) (back : List Char) :
    cut sep (front ++ sep :: back) = (front, back) := by
  obtain ⟨htake, hdrop⟩ := Text.cut_append back h
  rw [cut, htake, hdrop, List.tail_cons]

theorem cut_of_not_mem (h : sep ∉ cs) : cut sep cs = (cs, []) := by
  have hcs : ∀ c ∈ cs, decide (c ≠ sep) = true := fun c hc =>
    decide_eq_true fun heq => h (heq ▸ hc)
  rw [← List.append_nil cs, cut, List.takeWhile_append_of_pos hcs,
    List.dropWhile_append_of_pos hcs]
  rfl

theorem not_mem_intercalate {x y : Char} {parts : List (List Char)} (hne : x ≠ y)
    (h : ∀ part ∈ parts, x ∉ part) : x ∉ [y].intercalate parts := by
  induction parts with
  | nil => simp
  | cons part parts ih =>
      cases parts with
      | nil => simpa using h
      | cons part' parts =>
          rw [List.intercalate_cons_cons]
          simp only [List.mem_append, List.mem_singleton, not_or]
          exact ⟨⟨h part List.mem_cons_self, hne⟩,
            ih fun p hp => h p (List.mem_cons_of_mem part hp)⟩

theorem WellFormed.not_mem_field (h : a.WellFormed) (hsep : sep ∈ marks) (hne : sep ≠ '=')
    {part : List Char} (hpart : part ∈ a.params.map field) : sep ∉ part := by
  obtain ⟨p, hp, rfl⟩ := List.mem_map.1 hpart
  simp only [field, List.mem_append, List.mem_cons, not_or]
  exact ⟨(h.names p hp).not_mem hsep, hne, (h.values p hp).not_mem hsep⟩

theorem WellFormed.not_mem_write (h : a.WellFormed) : '#' ∉ a.write := by
  have hquery : '#' ∉ ['&'].intercalate (a.params.map field) :=
    not_mem_intercalate (by decide) fun _ => h.not_mem_field (by decide) (by decide)
  simp only [write, List.mem_append, List.mem_cons, not_or]
  exact ⟨⟨by decide, h.label.not_mem (by decide)⟩, by decide, hquery⟩

/-- An address is read back as it was put together. -/
theorem read_write (h : a.WellFormed) : read a.write = some a := by
  have hsplit : (['&'].intercalate (a.params.map field)).splitOn '&' = a.params.map field :=
    List.splitOn_intercalate '&' (fun _ => h.not_mem_field (by decide) (by decide))
      (by simpa using h.params)
  have hcuts : (a.params.map field).map (cut '=') = a.params := by
    have hcut : ∀ p ∈ a.params, (cut '=' ∘ field) p = id p := fun p hp =>
      cut_append ((h.names p hp).not_mem (by decide)) p.2
    rw [List.map_map, List.map_congr_left hcut, List.map_id]
  rw [read, cut_of_not_mem h.not_mem_write, write, List.append_assoc,
    List.dropPrefix?_append_of_beq _ (beq_self_eq_true scheme.toList), Option.map_some,
    cut_append (h.label.not_mem (by decide)), hsplit, hcuts]

end Address

/-! ## Names without marks -/

open Address (Free marks)

theorem free_append {cs cs' : List Char} (h : Free cs) (h' : Free cs') : Free (cs ++ cs') :=
  fun c hc => (List.mem_append.1 hc).elim (h c) (h' c)

theorem free_percent (bytes : List UInt8) : Free (Bytes.Percent.encode bytes) := by
  have hescape : ∀ n < 256, Free (Bytes.Percent.escape (UInt8.ofNat n)) := by decide +kernel
  intro c hc
  obtain ⟨b, -, hb⟩ := List.mem_flatMap.1 hc
  have hfree := hescape b.toNat b.toNat_lt
  rw [UInt8.ofNat_toNat] at hfree
  exact hfree c hb

theorem free_base32 (bytes : List UInt8) : Free (Bytes.Base32.encode bytes) := by
  have hdigit : ∀ n < 32, Bytes.Base32.digit n ∉ marks := by decide
  intro c hc
  rw [Bytes.Base32.encode_eq] at hc
  obtain ⟨n, hn, rfl⟩ := List.mem_map.1 hc
  exact hdigit n (Bytes.Base32.lt_of_mem_values hn)

/-- Two characters in a row, the second of which separates two lists: the first one ends the first
list, or they stand in the second. -/
theorem pair_infix_append {x sep : Char} (hne : x ≠ sep) {front back : List Char}
    (hfront : sep ∉ front) (h : [x, sep] <:+: front ++ sep :: back) :
    front.getLast? = some x ∨ [x, sep] <:+: back := by
  induction front with
  | nil =>
      rcases List.infix_cons_iff.1 h with hprefix | hinfix
      · exact absurd (List.cons_prefix_cons.1 hprefix).1 hne
      · exact .inr hinfix
  | cons c front ih =>
      obtain ⟨hc, hrest⟩ := not_or.1 fun hor => hfront (List.mem_cons.2 hor)
      rcases List.infix_cons_iff.1 h with hprefix | hinfix
      · obtain ⟨rfl, hsep⟩ := List.cons_prefix_cons.1 hprefix
        cases front with
        | nil => exact .inl rfl
        | cons d front =>
            have hfirst := (List.cons_prefix_cons.1 hsep).1
            exact absurd (hfirst ▸ List.mem_cons_self) hrest
      · refine (ih hrest hinfix).imp_left fun hlast => ?_
        rw [List.getLast?_cons, hlast, Option.getD_some]

variable {t : Totp} {secret account : String}

/-- The label of an account: who issues the codes, a colon, and the account. -/
def Totp.label (t : Totp) (account : String) : List Char :=
  Bytes.Percent.encode (ofText t.issuer) ++ ':' :: Bytes.Percent.encode (ofText account)

theorem free_label (t : Totp) (account : String) : Free (t.label account) := by
  have hcolon : Free [':'] := by decide
  exact free_append (free_percent _) (free_append hcolon (free_percent _))

/-- The equals signs of an address, each behind the name of a parameter. -/
theorem toList_address (t : Totp) (secret account : String) :
    (t.address secret account).toList =
      (Address.scheme.toList ++ t.label account ++ "?secret".toList) ++
        '=' :: ((secret.toList ++ "&algorithm".toList) ++
          '=' :: ("SHA512&issuer".toList ++ '=' :: Bytes.Percent.encode (ofText t.issuer))) := by
  have hsecret : "?secret=".toList = "?secret".toList ++ ['='] := by decide
  have hissuer : "&algorithm=SHA512&issuer=".toList =
      "&algorithm".toList ++ '=' :: ("SHA512&issuer".toList ++ ['=']) := by decide
  have hcolon : ":".toList = [':'] := by decide
  unfold Totp.address
  simp only [Totp.label, Address.scheme, Bytes.Percent.encodeText, hsecret, hissuer, hcolon,
    String.toList_append, String.toList_ofList, List.append_assoc, List.cons_append,
    List.nil_append]

theorem getLast?_append_ne {x : Char} {front name : List Char} (hne : name ≠ [])
    (h : name.getLast? ≠ some x) : (front ++ name).getLast? ≠ some x := by
  rwa [List.getLast?_append_of_ne_nil _ hne]

/-- The number of digits is not yet named, whatever the issuer and the account are. -/
theorem occursIn_address (hsecret : Free secret.toList) :
    Text.occursIn "digits=" (t.address secret account) = false := by
  have hissuer : '=' ∉ Bytes.Percent.encode (ofText t.issuer) :=
    (free_percent _).not_mem (by decide)
  have hfirst : '=' ∉ Address.scheme.toList ++ t.label account ++ "?secret".toList := by
    simp only [List.mem_append, not_or]
    exact ⟨⟨by decide, (free_label t account).not_mem (by decide)⟩, by decide⟩
  have hsecond : '=' ∉ secret.toList ++ "&algorithm".toList := by
    simp only [List.mem_append, not_or]
    exact ⟨hsecret.not_mem (by decide), by decide⟩
  have hthird : '=' ∉ "SHA512&issuer".toList := by decide
  have hne : 's' ≠ '=' := by decide
  refine Bool.eq_false_iff.2 fun hoccurs => ?_
  have hpair : ['s', '='] <:+: "digits=".toList := ⟨"digit".toList, [], by decide⟩
  have hdigits := hpair.trans (Text.occurs_iff.1 hoccurs)
  rw [toList_address] at hdigits
  -- Each of the three equals signs ends the name of a parameter, and none of them ends with `s`.
  rcases pair_infix_append hne hfirst hdigits with hlast | hdigits
  · exact getLast?_append_ne (by decide) (by decide) hlast
  rcases pair_infix_append hne hsecond hdigits with hlast | hdigits
  · exact getLast?_append_ne (by decide) (by decide) hlast
  rcases pair_infix_append hne hthird hdigits with hlast | hdigits
  · exact absurd hlast (by decide)
  · exact hissuer (hdigits.subset (List.mem_cons_of_mem _ List.mem_cons_self))

/-- The address of a secret, as it is read. -/
def Totp.shown (t : Totp) (secret account : String) : Address :=
  ⟨t.label account, [("secret".toList, secret.toList), ("algorithm".toList, "SHA512".toList),
    ("issuer".toList, Bytes.Percent.encode (ofText t.issuer)), ("digits".toList, ['6'])]⟩

theorem wellFormed_shown (t : Totp) (account : String) (hsecret : Free secret.toList) :
    (t.shown secret account).WellFormed where
  label := free_label t account
  names := by
    simp only [Totp.shown, List.forall_mem_cons, List.not_mem_nil, false_implies, implies_true,
      and_true]
    decide
  values := by
    simp only [Totp.shown, List.forall_mem_cons, List.not_mem_nil, false_implies, implies_true,
      and_true]
    exact ⟨hsecret, by decide, free_percent _, by decide⟩
  params := List.cons_ne_nil _ _

theorem toList_uri (t : Totp) (account : String) (hsecret : Free secret.toList) :
    (t.uri secret account).toList = (t.shown secret account).write := by
  have huri : t.uri secret account = t.address secret account ++ "&digits=" ++ toString digits := by
    simp only [Totp.uri, occursIn_address hsecret, Bool.false_eq_true, if_false]
  have hsecret : "?secret".toList = '?' :: "secret".toList := by decide
  have halgorithm : "&algorithm".toList = '&' :: "algorithm".toList := by decide
  have hissuer : "SHA512&issuer".toList = "SHA512".toList ++ '&' :: "issuer".toList := by decide
  have hdigits : "&digits=".toList = '&' :: ("digits".toList ++ ['=']) := by decide
  have hsix : (toString digits).toList = ['6'] := by decide
  rw [huri, String.toList_append, String.toList_append, toList_address, hsecret, halgorithm,
    hissuer, hdigits, hsix]
  simp only [Totp.shown, Address.write, Address.field, List.map_cons, List.map_nil,
    List.intercalate_cons_cons, List.intercalate_singleton, List.append_assoc, List.cons_append,
    List.nil_append]

/-- The address of a secret is read as what it was made of. -/
theorem uri_tells (t : Totp) (account : String) (hsecret : Free secret.toList) :
    ∃ a : Address, (t.uri secret account).toList = a.write ∧
      Address.read (t.uri secret account).toList = some a ∧
      decodeText a.label = some (t.issuer ++ ":" ++ account) ∧
      ∃ issuer, decodeText issuer = some t.issuer ∧
        a.params = [("secret".toList, secret.toList), ("algorithm".toList, "SHA512".toList),
          ("issuer".toList, issuer), ("digits".toList, ['6'])] := by
  have huri := toList_uri t account hsecret
  refine ⟨_, huri, ?_, Bytes.Percent.decodeText_encode_colon _ _, _,
    Bytes.Percent.decodeText_encode _, rfl⟩
  rw [huri]
  exact Address.read_write (wellFormed_shown t account hsecret)

/-! ## Setups -/

variable {bytes : List UInt8}

theorem decodeSecret_encode (bytes : List UInt8) :
    decodeSecret (String.ofList (Bytes.Base32.encode bytes)) = .ok bytes := by
  rw [decodeSecret, String.toList_ofList, Bytes.Base32.decode_encode]

theorem usable_encode (h : leastSecret ≤ bytes.length) :
    Usable (String.ofList (Bytes.Base32.encode bytes)) bytes :=
  ⟨by rw [String.toList_ofList, Bytes.Base32.decode_encode], h⟩

/-- The code of a moment is accepted at that moment. -/
theorem validateAt_codeAt {key : List UInt8} (hissuer : ':' ∉ t.issuer.toList)
    (h : Usable secret key) (seconds : UInt64) :
    ∃ code, t.codeAt secret seconds = .ok code ∧ t.validateAt secret code seconds = .ok true := by
  refine ⟨_, codeAt_of_usable hissuer h, ?_⟩
  rw [validateAt_of_sixDigits (sixDigits_keyCode key seconds), key_of_usable hissuer h,
    ← accepts_keyCode t key seconds]
  rfl

/-- And so it is by a build that checks its arithmetic, from step `skew` on. -/
theorem acceptsChecked_codeAt {key : List UInt8} (hissuer : ':' ∉ t.issuer.toList)
    (h : Usable secret key) {seconds : UInt64} (hfirst : t.skew ≤ seconds.toNat / stepSeconds) :
    ∃ code, t.codeAt secret seconds = .ok code ∧ t.acceptsChecked key code seconds = some true := by
  refine ⟨_, codeAt_of_usable hissuer h, ?_⟩
  rw [acceptsChecked_keyCode, if_pos hfirst]

theorem check_of_mem (t : Totp) (bytes : List UInt8) (h : ':' ∈ account.toList) :
    ∃ message, t.check bytes account = .error (.internal message) := by
  unfold Totp.check
  rw [if_pos (List.contains_iff_mem.2 h)]
  split
  · exact ⟨_, rfl⟩
  · split <;> exact ⟨_, rfl⟩

theorem generate_of_mem (t : Totp) (bytes : List UInt8) (h : ':' ∈ account.toList) :
    ∃ message, t.generate bytes account = .error (.internal message) := by
  obtain ⟨message, hcheck⟩ := check_of_mem t bytes h
  exact ⟨message, by rw [Totp.generate, hcheck]; rfl⟩

theorem generate_of_not_mem (hissuer : ':' ∉ t.issuer.toList) (haccount : ':' ∉ account.toList)
    (hlength : leastSecret ≤ bytes.length) :
    t.generate bytes account =
      .ok ⟨String.ofList (Bytes.Base32.encode bytes),
        t.uri (String.ofList (Bytes.Base32.encode bytes)) account⟩ := by
  have hcheck : t.check bytes account = .ok () := by
    simp [Totp.check, Nat.not_lt.2 hlength, hissuer, haccount]
  rw [Totp.generate, hcheck]
  rfl

/-- A setup is what an authenticator needs to show the codes of an account: the secret can be
used, and the address names it, the issuer, the account and the form of the codes, and each of
them once. -/
structure OtpSetup.Tells (setup : OtpSetup) (t : Totp) (bytes : List UInt8) (account : String) :
    Prop where
  length : setup.secret.length = 32
  alphabet : ∀ c ∈ setup.secret.toList, InAlphabet c
  secret : decodeSecret setup.secret = .ok bytes
  codes : ∀ seconds : UInt64, ∃ code, t.codeAt setup.secret seconds = .ok code ∧
    t.validateAt setup.secret code seconds = .ok true
  checked : ∀ seconds : UInt64, t.skew ≤ seconds.toNat / stepSeconds →
    ∃ code, t.codeAt setup.secret seconds = .ok code ∧
      t.acceptsChecked bytes code seconds = some true
  address : ∃ a : Address, setup.provisioningUri.toList = a.write ∧
    Address.read setup.provisioningUri.toList = some a ∧
    decodeText a.label = some (t.issuer ++ ":" ++ account) ∧
    ∃ issuer, decodeText issuer = some t.issuer ∧
      a.params = [("secret".toList, setup.secret.toList),
        ("algorithm".toList, "SHA512".toList), ("issuer".toList, issuer),
        ("digits".toList, ['6'])]

/-- **A new secret can be used, and its address says so.**  Whatever the issuer and the account
are called, the secret of 20 bytes is 32 characters that stand for these bytes, its code of any
moment is accepted at that moment, and the address is read as the label and the four parameters
that were meant.  An account with a colon in its name is refused.

The moments are all the seconds of a word.  Before step `skew` the steps that are tried go round,
and the current one is still among them; a build that checks its arithmetic breaks off there, and
from then on it accepts the code as well. -/
theorem generate_tells (t : Totp) (bytes : List UInt8) (hlength : bytes.length = 20)
    (account : String) :
    (':' ∈ account.toList → ∃ message, t.generate bytes account = .error (.internal message)) ∧
    (':' ∉ t.issuer.toList → ':' ∉ account.toList →
      ∃ setup, t.generate bytes account = .ok setup ∧ setup.Tells t bytes account) := by
  refine ⟨generate_of_mem t bytes, fun hissuer haccount => ?_⟩
  have hleast : leastSecret ≤ bytes.length := by rw [hlength]; decide
  have hfree : Free (String.ofList (Bytes.Base32.encode bytes)).toList := by
    rw [String.toList_ofList]
    exact free_base32 bytes
  refine ⟨_, generate_of_not_mem hissuer haccount hleast,
    { length := ?_, alphabet := ?_, secret := decodeSecret_encode bytes,
      codes := validateAt_codeAt hissuer (usable_encode hleast),
      checked := fun _ => acceptsChecked_codeAt hissuer (usable_encode hleast), address := ?_ }⟩
  · rw [String.length_ofList, Bytes.Base32.length_encode, hlength]
  · intro c hc
    rw [String.toList_ofList] at hc
    exact Bytes.Base32.inAlphabet_of_mem_encode hc
  · dsimp only
    exact uri_tells t account hfree

/-- Names that look like parameters do not become any. -/
theorem generate_tells_awkward :
    ∃ setup, (⟨"A&digits=8", 1⟩ : Totp).generate (List.replicate 20 7) "digits=ü?" = .ok setup ∧
      setup.Tells ⟨"A&digits=8", 1⟩ (List.replicate 20 7) "digits=ü?" :=
  (generate_tells ⟨"A&digits=8", 1⟩ (List.replicate 20 7) List.length_replicate
    "digits=ü?").2 (by decide) (by decide)

end Accounts.Otp
