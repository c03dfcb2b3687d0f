import Accounts.Json.Parser
import Accounts.Json.Printer
import Accounts.Proofs.Json.Fields
import Accounts.Proofs.Text.Integer
/-!
# What is written is read back

The text of a value is cut into tokens, the tokens are assembled into a tree, and the tree has
the value that was written.  `feed` puts the first two of these steps together, so a text that
starts with a whole token is read by one step of the machine (`feed_token`), and a text that
starts with a value by settling it where the machine stands (`Faithful.feed_chars`).

Only numbers can be changed on the way: a floating-point number is not always read as the one
that was written.  `Number.Faithful` says of a number that it is, and every whole number is
(`Number.faithful_integer`).
-/

namespace Accounts.Json

/-! ## Steps of reading -/

/-- Cuts characters into tokens and feeds them to the machine. -/
def feed (a : Assembly) (mode : Mode) (cs : List Char) : Option Assembly :=
  (tokensFrom mode cs).bind a.run

variable {a : Assembly} {mode : Mode} {c : Char} {cs rest : List Char} {t : Token}

/-- A character that ends no token. -/
theorem feed_cons (next : Mode) (h : cut c mode = some ([], next)) :
    feed a mode (c :: cs) = feed a next cs := by
  simp [feed, tokensFrom, h]

/-- A character that ends a token. -/
theorem feed_token (h : cut c mode = some ([t], .between)) :
    feed a mode (c :: cs) = (a.step t).bind fun b => feed b .between cs := by
  rw [feed, tokensFrom, h]
  cases ht : tokensFrom .between cs with
  | none => simp [feed, ht]
  | some ts => simp [feed, ht, Assembly.run]

/-- Nothing follows that could belong to a number or a word. -/
def Ends (rest : List Char) : Prop :=
  ∀ c cs, rest = c :: cs → isNumberChar c = false ∧ isWordChar c = false

/-- A number or a word ends where nothing more belongs to it. -/
theorem feed_finish (hfinish : mode.finish = some [t])
    (hcut : ∀ c cs, rest = c :: cs → cut c mode = (start c).map fun r => (t :: r.1, r.2)) :
    feed a mode rest = (a.step t).bind fun b => feed b .between rest := by
  cases rest with
  | nil =>
      have hend : Mode.between.finish = some [] := rfl
      simp [feed, tokensFrom, hfinish, Assembly.run, hend]
  | cons c cs =>
      have hbetween : cut c .between = start c := rfl
      simp only [feed, tokensFrom, hcut c cs rfl, hbetween]
      cases start c with
      | none => simp
      | some r =>
          cases hnext : tokensFrom r.2 cs with
          | none => simp [hnext]
          | some us => simp [hnext, Assembly.run]

/-! ## Words -/

theorem feed_word_chars {done word : List Char} (h : ∀ c ∈ word, isWordChar c = true) :
    feed a (.word done) (word ++ rest) = feed a (.word (word.reverse ++ done)) rest := by
  induction word generalizing done with
  | nil => rfl
  | cons c word ih =>
      obtain ⟨hc, hword⟩ := List.forall_mem_cons.1 h
      rw [List.cons_append, feed_cons (.word (c :: done)) (by simp [cut, hc]), ih hword]
      simp

theorem feed_word {word : List Char} (hstart : cut c .between = some ([], .word [c]))
    (hword : ∀ d ∈ word, isWordChar d = true) (ht : wordToken (word.reverse ++ [c]) = some t)
    (hrest : Ends rest) : feed a .between (c :: (word ++ rest)) =
      (a.step t).bind fun b => feed b .between rest := by
  rw [feed_cons _ hstart, feed_word_chars hword]
  refine feed_finish (by simp [Mode.finish, ht]) fun d ds hd => ?_
  have hd := (hrest d ds hd).2
  cases hs : start d with
  | none => simp [cut, hd, hs]
  | some r => simp [cut, hd, hs, ht]

/-! ## Texts -/

/-- A text that is read without halves of pairs. -/
def soFar (done : List Char) : Partial := ⟨done, none, true⟩

theorem hexValue?_digitChar : ∀ n < 16, hexValue? (Nat.digitChar n) = some n := by decide

theorem push_soFar (done : List Char) (c : Char) : (soFar done).push c = soFar (c :: done) := rfl

/-- A digit of an escaped unit. -/
theorem feed_digit {p : Partial} {n value left : Nat} (hn : n < 16) (hleft : 1 < left) :
    feed a (.unit p value left) (Nat.digitChar n :: cs) =
      feed a (.unit p (value * 16 + n) (left - 1)) cs := by
  refine feed_cons _ ?_
  simp [cut, hexValue?_digitChar n hn, Nat.not_le.2 hleft]

/-- The last digit of an escaped unit. -/
theorem feed_lastDigit {p : Partial} {n value : Nat} (hn : n < 16) :
    feed a (.unit p value 1) (Nat.digitChar n :: cs) =
      feed a (.text (p.pushUnit (value * 16 + n))) cs := by
  refine feed_cons _ ?_
  simp [cut, hexValue?_digitChar n hn]

theorem feed_control {done : List Char} (hc : c.toNat < 0x20) :
    feed a (.text (soFar done)) ('\\' :: 'u' :: (controlDigits c.toNat ++ rest)) =
      feed a (.text (soFar (c :: done))) rest := by
  have hunit : (soFar done).pushUnit c.toNat = soFar (c :: done) := by
    simp [soFar, Partial.pushUnit, show ¬ 0xD800 ≤ c.toNat by omega,
      show ¬ 0xDC00 ≤ c.toNat by omega]
  rw [feed_cons (.escape (soFar done)) rfl,
    feed_cons (.unit (soFar done) 0 4) rfl, controlDigits,
    show '0' = Nat.digitChar 0 from rfl, List.cons_append, feed_digit (by omega) (by omega),
    List.cons_append, feed_digit (by omega) (by omega), List.cons_append,
    feed_digit (by omega) (by omega), List.cons_append, feed_lastDigit (by omega), List.nil_append,
    show ((0 * 16 + 0) * 16 + 0) * 16 + c.toNat / 16 = c.toNat / 16 by omega,
    show c.toNat / 16 * 16 + c.toNat % 16 = c.toNat by omega, hunit]

/-- What is written for a character is read as the character. -/
theorem feed_escape {done : List Char} :
    feed a (.text (soFar done)) (escape c ++ rest) = feed a (.text (soFar (c :: done))) rest := by
  have hnamed : ∀ d, unescape d = some c → d ≠ 'u' →
      feed a (.text (soFar done)) ('\\' :: d :: rest) =
        feed a (.text (soFar (c :: done))) rest := by
    intro d hd hu
    rw [feed_cons (.escape (soFar done)) rfl, feed_cons (.text (soFar (c :: done)))]
    simp [cut, hd, hu, push_soFar]
  unfold escape
  split
  · next h => exact hnamed '"' (by rw [h]; rfl) (by decide)
  split
  · next h => exact hnamed '\\' (by rw [h]; rfl) (by decide)
  split
  · next h => exact hnamed 'n' (by rw [h]; rfl) (by decide)
  split
  · next h => exact hnamed 'r' (by rw [h]; rfl) (by decide)
  split
  · next h => exact hnamed 't' (by rw [h]; rfl) (by decide)
  split
  · next h => exact hnamed 'b' (by rw [h]; rfl) (by decide)
  split
  · next h => exact hnamed 'f' (by rw [h]; rfl) (by decide)
  split
  · next h => exact feed_control h
  · next hquote hbackslash _ _ _ _ _ hcontrol =>
      exact feed_cons _ (by simp [cut, hquote, hbackslash, hcontrol, push_soFar])

theorem feed_escapes {s : List Char} {done : List Char} :
    feed a (.text (soFar done)) (s.flatMap escape ++ rest) =
      feed a (.text (soFar (s.reverse ++ done))) rest := by
  induction s generalizing done with
  | nil => rfl
  | cons c s ih => rw [List.flatMap_cons, List.append_assoc, feed_escape, ih]; simp

theorem feed_quote (s : String) : feed a .between (quote s ++ rest) =
    (a.step (.text (some s))).bind fun b => feed b .between rest := by
  have htoken : (soFar s.toList.reverse).token = .text (some s) := by
    simp [soFar, Partial.token, Partial.settle]
  rw [quote, List.cons_append, feed_cons (.text (soFar [])) rfl, List.append_assoc,
    feed_escapes, List.append_nil, List.singleton_append, feed_token (t := .text (some s))]
  simp [cut, htoken]

/-! ## Numbers -/

theorem isNumberChar_of_isDigit (h : c.isDigit = true) : isNumberChar c = true := by
  simp [isNumberChar, h]

/-- What starts with digits is made of the characters of numbers if the rest is. -/
theorem chars_of_takeDigits {α : Type} {f : List Char × List Char → Option α} {x : α}
    (h : (takeDigits cs).bind f = some x)
    (hrest : ∀ ds rest, f (ds, rest) = some x → ∀ c ∈ rest, isNumberChar c = true) :
    (∀ c ∈ cs, isNumberChar c = true) ∧ ∃ c ds, cs = c :: ds ∧ c.isDigit = true := by
  obtain ⟨⟨digits, rest⟩, htake, hx⟩ := Option.bind_eq_some_iff.1 h
  have hdigits : ∀ c ∈ cs.takeWhile Char.isDigit, c.isDigit = true :=
    List.all_eq_true.1 List.all_takeWhile
  have hsplit := @List.takeWhile_append_dropWhile _ Char.isDigit cs
  rw [takeDigits] at htake
  split at htake
  · cases htake
  · next hne =>
      cases htake
      refine ⟨fun c hc => ?_, ?_⟩
      · rw [← hsplit] at hc
        rcases List.mem_append.1 hc with hc | hc
        · exact isNumberChar_of_isDigit (hdigits c hc)
        · exact hrest _ _ hx c hc
      · cases hd : cs.takeWhile Char.isDigit with
        | nil => exact (hne hd).elim
        | cons c ds =>
            rw [hd] at hdigits hsplit
            exact ⟨c, _, hsplit.symm, hdigits c List.mem_cons_self⟩

theorem chars_of_readExponent {e : Bool × List Char} (h : readExponent cs = some e) :
    ∀ c ∈ cs, isNumberChar c = true := by
  have hrest : ∀ (b : Bool) (ds rest : List Char),
      (if rest = [] then some (b, ds) else none) = some e → ∀ c ∈ rest, isNumberChar c = true := by
    intro b ds rest h
    split at h
    · next hnil => simp [hnil]
    · cases h
  unfold readExponent at h
  split at h
  · exact List.forall_mem_cons.2 ⟨rfl, (chars_of_takeDigits h (hrest _)).1⟩
  · exact List.forall_mem_cons.2 ⟨rfl, (chars_of_takeDigits h (hrest _)).1⟩
  · exact (chars_of_takeDigits h (hrest _)).1

theorem chars_of_readTail {negative : Bool} {whole : List Char} {l : Literal}
    (h : readTail negative whole cs = some l) : ∀ c ∈ cs, isNumberChar c = true := by
  have hexponent : ∀ {cs : List Char} {f : Bool × List Char → Literal},
      (readExponent cs).map f = some l → ∀ c ∈ cs, isNumberChar c = true := by
    intro cs f h
    obtain ⟨e, he, -⟩ := Option.map_eq_some_iff.1 h
    exact chars_of_readExponent he
  unfold readTail at h
  split at h
  · simp
  · exact List.forall_mem_cons.2 ⟨rfl, hexponent h⟩
  · exact List.forall_mem_cons.2 ⟨rfl, hexponent h⟩
  · refine List.forall_mem_cons.2 ⟨rfl, (chars_of_takeDigits h fun ds rest h => ?_).1⟩
    dsimp only at h
    split at h
    · simp
    · exact List.forall_mem_cons.2 ⟨rfl, hexponent h⟩
    · exact List.forall_mem_cons.2 ⟨rfl, hexponent h⟩
    · cases h
  · cases h

/-- What is read as a number is made of the characters of numbers, a minus sign or a digit first. -/
theorem chars_of_readLiteral {l : Literal} (h : readLiteral cs = some l) :
    (∀ c ∈ cs, isNumberChar c = true) ∧ ∃ c ds, cs = c :: ds ∧ (c = '-' ∨ c.isDigit = true) := by
  have hrest : ∀ (negative : Bool) (whole rest : List Char),
      (if whole.head? = some '0' ∧ whole.length ≠ 1 then none
        else readTail negative whole rest) = some l → ∀ c ∈ rest, isNumberChar c = true := by
    intro negative whole rest h
    split at h
    · cases h
    · exact chars_of_readTail h
  -- The sign is taken off before anything else is looked at.
  unfold readLiteral at h
  split at h
  next negative body hcut =>
    obtain ⟨hchars, hdigit⟩ := chars_of_takeDigits h (hrest negative)
    split at hcut
    · next tail =>
        cases hcut
        exact ⟨List.forall_mem_cons.2 ⟨rfl, hchars⟩, '-', _, rfl, .inl rfl⟩
    · cases hcut
      obtain ⟨c, ds, hcs, hc⟩ := hdigit
      exact ⟨hchars, c, ds, hcs, .inr hc⟩

/-- A number that is read as it was written. -/
def Number.Faithful (n : Number) : Prop :=
  (readLiteral n.chars).bind Literal.number? = some n

theorem feed_number_chars {done ds : List Char} (h : ∀ c ∈ ds, isNumberChar c = true) :
    feed a (.number done) (ds ++ rest) = feed a (.number (ds.reverse ++ done)) rest := by
  induction ds generalizing done with
  | nil => rfl
  | cons c ds ih =>
      obtain ⟨hc, hds⟩ := List.forall_mem_cons.1 h
      rw [List.cons_append, feed_cons (.number (c :: done)) (by simp [cut, hc]), ih hds]
      simp

theorem start_of_number (h : c = '-' ∨ c.isDigit = true) :
    cut c .between = some ([], .number [c]) := by
  rcases h with rfl | h
  · rfl
  · obtain ⟨d, hd, rfl⟩ := Text.exists_digitChar h
    have : ∀ d < 10, cut (Nat.digitChar d) .between = some ([], .number [Nat.digitChar d]) := by
      decide
    exact this d hd

theorem Number.Faithful.feed_chars {n : Number} (h : n.Faithful) (hrest : Ends rest) :
    feed a .between (n.chars ++ rest) =
      (a.step (.number (some n))).bind fun b => feed b .between rest := by
  obtain ⟨l, hread, hl⟩ := Option.bind_eq_some_iff.1 h
  obtain ⟨hchars, c, cs, hn, hfirst⟩ := chars_of_readLiteral hread
  have htoken : numberToken (cs.reverse ++ [c]) = some (.number (some n)) := by
    simp [numberToken, ← hn, hread, hl]
  rw [hn] at hchars ⊢
  rw [List.cons_append, feed_cons _ (start_of_number hfirst),
    feed_number_chars (List.forall_mem_cons.1 hchars).2]
  refine feed_finish (by simp only [Mode.finish, htoken]; rfl) fun d ds hd => ?_
  have hd := (hrest d ds hd).1
  cases hs : start d with
  | none => simp [cut, hd, hs]
  | some r => simp [cut, hd, hs, htoken]

theorem appendDigits_of_le {ds : List Char} {n : Nat}
    (h : Nat.ofDigitChars 10 ds n ≤ maxSignificand) :
    appendDigits n ds = (Nat.ofDigitChars 10 ds n, []) := by
  induction ds generalizing n with
  | nil => simp [appendDigits]
  | cons c ds ih =>
      have hnext : n * 10 + digitValue c = 10 * n + (c.toNat - '0'.toNat) := by
        rw [digitValue, Nat.mul_comm]
      rw [Nat.ofDigitChars_cons] at h ⊢
      have hle := Nat.le_trans (Text.le_ofDigitChars ds _) h
      simp only [appendDigits, hnext, if_pos hle, ih h]

theorem takeDigits_of_isDigit {ds : List Char} (hne : ds ≠ [])
    (h : ∀ c ∈ ds, c.isDigit = true) : takeDigits ds = some (ds, []) := by
  have htake : ds.takeWhile Char.isDigit = ds := by
    simpa using @List.takeWhile_append_of_pos _ Char.isDigit ds [] h
  have hdrop : ds.dropWhile Char.isDigit = [] := by
    simpa using @List.dropWhile_append_of_pos _ Char.isDigit ds [] h
  rw [takeDigits, htake, hdrop]
  cases ds with
  | nil => exact (hne rfl).elim
  | cons c ds => rfl

theorem readLiteral_toDigits (n : Nat) :
    readLiteral ('-' :: Nat.toDigits 10 n) = some ⟨true, Nat.toDigits 10 n, none, none⟩ ∧
      readLiteral (Nat.toDigits 10 n) = some ⟨false, Nat.toDigits 10 n, none, none⟩ := by
  have hdigits : ∀ c ∈ Nat.toDigits 10 n, c.isDigit = true := fun c hc =>
    Nat.isDigit_of_mem_toDigits (by omega) (by omega) hc
  have htake := takeDigits_of_isDigit Nat.toDigits_ne_nil hdigits
  have hzero : ¬ ((Nat.toDigits 10 n).head? = some '0' ∧ (Nat.toDigits 10 n).length ≠ 1) :=
    fun h => h.2 (Text.length_toDigits_of_zero h.1)
  refine ⟨by simp only [readLiteral, htake, Option.bind_some, if_neg hzero, readTail], ?_⟩
  rw [readLiteral]
  · simp only [htake, Option.bind_some, if_neg hzero, readTail]
  · intro rest heq
    cases hdigits '-' (heq ▸ List.mem_cons_self)

theorem number?_digits {negative : Bool} {ds : List Char}
    (h : Nat.ofDigitChars 10 ds 0 ≤ maxSignificand) :
    (Literal.mk negative ds none none).number? =
      if negative then
        if 0 < Nat.ofDigitChars 10 ds 0 ∧ Nat.ofDigitChars 10 ds 0 ≤ Nat.pow 2 63 then
          some (.integer (-(Nat.ofDigitChars 10 ds 0 : Nat)))
        else some (.float ⟨true, Double.nearest (Nat.ofDigitChars 10 ds 0) 1⟩)
      else some (.integer (Nat.ofDigitChars 10 ds 0 : Nat)) := by
  simp [Literal.number?, appendDigits_of_le h]

/-- Whole numbers of 64 bits are read as they were written. -/
theorem Number.faithful_integer {i : Int} (hleast : -Int.pow 2 63 ≤ i)
    (hgreatest : i < Int.pow 2 64) : (Number.integer i).Faithful := by
  have hdigits : ∀ c ∈ Nat.toDigits 10 i.natAbs, c.isDigit = true := fun c hc =>
    Nat.isDigit_of_mem_toDigits (by omega) (by omega) hc
  have hvalue : Nat.ofDigitChars 10 (Nat.toDigits 10 i.natAbs) 0 = i.natAbs :=
    Nat.ofDigitChars_toDigits (by omega) (by omega)
  have hmax : maxSignificand = 2 ^ 64 - 1 := rfl
  have hpow : Nat.pow 2 63 = 2 ^ 63 := rfl
  have hleast : -2 ^ 63 ≤ i := hleast
  have hgreatest : i < 2 ^ 64 := hgreatest
  obtain ⟨hminus, hplus⟩ := readLiteral_toDigits i.natAbs
  rw [Number.Faithful, Number.chars, integerChars]
  split
  · next hneg =>
      rw [hminus, Option.bind_some, number?_digits (by omega), hvalue, if_pos rfl,
        if_pos (by omega)]
      simp only [Option.some.injEq, Number.integer.injEq]
      omega
  · next hpos =>
      rw [hplus, Option.bind_some, number?_digits (by omega), hvalue, if_neg Bool.false_ne_true]
      simp only [Option.some.injEq, Number.integer.injEq]
      omega

/-! ## Values -/

mutual

/-- What the text of a value says. -/
def tree : Json → Tree
  | .null => .null
  | .bool b => .bool b
  | .number n => .number (some n)
  | .string s => .text (some s)
  | .array items => .array (trees items)
  | .object fields => .object (fieldTrees fields)

/-- What the texts of items say. -/
def trees : List Json → List Tree
  | [] => []
  | v :: vs => tree v :: trees vs

/-- What the texts of fields say. -/
def fieldTrees : List (String × Json) → List (Option String × Tree)
  | [] => []
  | (k, v) :: fs => (some k, tree v) :: fieldTrees fs

end

/-- All numbers in a value are read as they were written. -/
inductive Faithful : Json → Prop
  | null : Faithful .null
  | bool (b : Bool) : Faithful (.bool b)
  | string (s : String) : Faithful (.string s)
  | number {n : Number} (h : n.Faithful) : Faithful (.number n)
  | array {items : List Json} (h : ∀ v ∈ items, Faithful v) : Faithful (.array items)
  | object {fields : List (String × Json)} (h : ∀ f ∈ fields, Faithful f.2) :
      Faithful (.object fields)

/-- A value may come next. -/
def Expect.OfValue (e : Expect) : Prop := e = .value ∨ e = .valueOrEnd

/-- The text of a value settles the value where the machine stands. -/
def Settles (v : Json) : Prop := ∀ ⦃stack e rest⦄, Expect.OfValue e → Ends rest →
  feed ⟨stack, e⟩ .between (chars v ++ rest) = feed (Assembly.settle v.tree stack) .between rest

theorem ends_cons (h : isNumberChar c = false ∧ isWordChar c = false) : Ends (c :: cs) := by
  intro d ds heq
  cases heq
  exact h

variable {stack : List Frame} {e : Expect}

theorem feed_items {items : List Json} (h : ∀ v ∈ items, Settles v) {done : List Tree}
    (he : e = .valueOrEnd ∨ (e = .value ∧ items ≠ [])) :
    feed ⟨.array done :: stack, e⟩ .between (itemsChars items ++ rest) =
      feed (Assembly.settle (.array (done.reverse ++ trees items)) stack) .between rest := by
  have hcomma : ∀ cs, Ends (',' :: cs) := fun cs => ends_cons (by decide)
  have hclose : ∀ cs, Ends (']' :: cs) := fun cs => ends_cons (by decide)
  induction items generalizing done e with
  | nil =>
      obtain rfl : e = .valueOrEnd := he.resolve_right fun h => h.2 rfl
      rw [itemsChars, List.singleton_append, feed_token (t := .closeBracket) rfl]
      simp [Assembly.step, Assembly.close, trees]
  | cons v vs ih =>
      obtain ⟨hv, hvs⟩ := List.forall_mem_cons.1 h
      have hvalue : Expect.OfValue e := he.symm.imp_left And.left
      cases vs with
      | nil =>
          rw [itemsChars, List.append_assoc, List.singleton_append, hv hvalue (hclose rest),
            feed_token (t := .closeBracket) rfl]
          simp [Assembly.settle, Assembly.step, Assembly.close, trees]
      | cons w ws =>
          have hstep : (Assembly.settle v.tree (.array done :: stack)).step .comma =
              some ⟨.array (v.tree :: done) :: stack, .value⟩ := rfl
          rw [itemsChars, List.append_assoc, List.cons_append, hv hvalue (hcomma _),
            feed_token (t := .comma) rfl, hstep, Option.bind_some,
            ih hvs (.inr ⟨rfl, List.cons_ne_nil w ws⟩)]
          · simp [trees]
          · simp

theorem feed_fields {fields : List (String × Json)} (h : ∀ f ∈ fields, Settles f.2)
    {done : List (Option String × Tree)} (he : e = .nameOrEnd ∨ (e = .name ∧ fields ≠ [])) :
    feed ⟨.object done none :: stack, e⟩ .between (fieldsChars fields ++ rest) =
      feed (Assembly.settle (.object (done.reverse ++ fieldTrees fields)) stack) .between rest := by
  have hcomma : ∀ cs, Ends (',' :: cs) := fun cs => ends_cons (by decide)
  have hclose : ∀ cs, Ends ('\x7d' :: cs) := fun cs => ends_cons (by decide)
  induction fields generalizing done e with
  | nil =>
      obtain rfl : e = .nameOrEnd := he.resolve_right fun h => h.2 rfl
      rw [fieldsChars, List.singleton_append, feed_token (t := .closeBrace) rfl]
      simp [Assembly.step, Assembly.close, fieldTrees]
  | cons f fs ih =>
      obtain ⟨k, v⟩ := f
      obtain ⟨hv, hfs⟩ := List.forall_mem_cons.1 h
      have hv : Settles v := hv
      -- The name and the colon are read in the same way before every value.
      have hname : ∀ cs, feed ⟨.object done none :: stack, e⟩ .between (quote k ++ ':' :: cs) =
          feed ⟨.object done (some k) :: stack, .value⟩ .between cs := by
        intro cs
        have hstep : (Assembly.mk (.object done none :: stack) e).step (.text (some k)) =
            some ⟨.object done (some k) :: stack, .colon⟩ := by
          rcases he with rfl | ⟨rfl, -⟩
          · simp [Assembly.step, Assembly.name]
          · rfl
        rw [feed_quote, hstep, Option.bind_some, feed_token (t := .colon) rfl]
        rfl
      cases fs with
      | nil =>
          rw [fieldsChars, List.append_assoc, List.cons_append, hname, List.append_assoc,
            List.singleton_append, hv (.inl rfl) (hclose rest), feed_token (t := .closeBrace) rfl]
          simp [Assembly.settle, Assembly.step, Assembly.close, fieldTrees]
      | cons g gs =>
          have hstep : (Assembly.settle v.tree (.object done (some k) :: stack)).step .comma =
              some ⟨.object ((some k, v.tree) :: done) none :: stack, .name⟩ := rfl
          rw [fieldsChars, List.append_assoc, List.cons_append, hname, List.append_assoc,
            List.cons_append, hv (.inl rfl) (hcomma _), feed_token (t := .comma) rfl, hstep,
            Option.bind_some, ih hfs (.inr ⟨rfl, List.cons_ne_nil g gs⟩)]
          · simp [fieldTrees]
          · simp

theorem step_value (he : e.OfValue) (ht : t ≠ .closeBracket) :
    (Assembly.mk stack e).step t = Assembly.value stack t := by
  rcases he with rfl | rfl
  · rfl
  · simp [Assembly.step, ht]

/-- The text of a value is read as the value, wherever it stands. -/
theorem Faithful.settles {v : Json} (h : v.Faithful) : Settles v := by
  induction h with
  | null =>
      intro stack e rest he hrest
      rw [show chars .null = 'n' :: ['u', 'l', 'l'] from rfl, List.cons_append,
        feed_word (t := .null) rfl (List.all_eq_true.1 rfl) rfl hrest, step_value he (by decide)]
      rfl
  | bool b =>
      intro stack e rest he hrest
      cases b with
      | true =>
          rw [show chars (.bool true) = 't' :: ['r', 'u', 'e'] from rfl, List.cons_append,
            feed_word (t := .bool true) rfl (List.all_eq_true.1 rfl) rfl hrest,
            step_value he (by decide)]
          rfl
      | false =>
          rw [show chars (.bool false) = 'f' :: ['a', 'l', 's', 'e'] from rfl, List.cons_append,
            feed_word (t := .bool false) rfl (List.all_eq_true.1 rfl) rfl hrest,
            step_value he (by decide)]
          rfl
  | string s =>
      intro stack e rest he hrest
      rw [chars, feed_quote, step_value he (by simp)]
      rfl
  | number hn =>
      intro stack e rest he hrest
      rw [chars, hn.feed_chars hrest, step_value he (by simp)]
      rfl
  | @array items _ ih =>
      intro stack e rest he hrest
      rw [chars, List.cons_append, feed_token (t := .openBracket) rfl, step_value he (by decide),
        Assembly.value, Option.bind_some, feed_items ih (.inl rfl)]
      rfl
  | @object fields _ ih =>
      intro stack e rest he hrest
      rw [chars, List.cons_append, feed_token (t := .openBrace) rfl, step_value he (by decide),
        Assembly.value, Option.bind_some, feed_fields ih (.inl rfl)]
      rfl

/-- The text of a value says what the value is. -/
theorem Faithful.tree?_chars {v : Json} (h : v.Faithful) : tree? v.chars = some v.tree := by
  have hends : Ends [] := fun c cs hnil => by cases hnil
  have hfeed := @settles v h [] .value [] (.inl rfl) hends
  rw [List.append_nil] at hfeed
  have htokens : (tokens v.chars).bind (Assembly.mk [] .value).run = some ⟨[], .nothing v.tree⟩ :=
    hfeed
  obtain ⟨ts, hts, hrun⟩ := Option.bind_eq_some_iff.1 htokens
  simp [tree?, hts, hrun]

/-! ## Trees -/

/-- Objects have their fields in order, and lists and objects are nested so deep at most. -/
inductive Tidy : Nat → Json → Prop
  | null (depth : Nat) : Tidy depth .null
  | bool (depth : Nat) (b : Bool) : Tidy depth (.bool b)
  | number (depth : Nat) (n : Number) : Tidy depth (.number n)
  | string (depth : Nat) (s : String) : Tidy depth (.string s)
  | array {depth : Nat} {items : List Json} (h : ∀ v ∈ items, Tidy depth v) :
      Tidy (depth + 1) (.array items)
  | object {depth : Nat} {fields : List (String × Json)} (ordered : Ordered fields)
      (h : ∀ f ∈ fields, Tidy depth f.2) : Tidy (depth + 1) (.object fields)

theorem values?_trees {depth : Nat} {items : List Json}
    (h : ∀ v ∈ items, Tree.value? depth v.tree = some v) :
    Tree.values? depth (trees items) = some items := by
  induction items with
  | nil => rfl
  | cons v vs ih =>
      obtain ⟨hv, hvs⟩ := List.forall_mem_cons.1 h
      simp [trees, Tree.values?, hv, ih hvs]

theorem fieldValues?_fieldTrees {depth : Nat} {fields : List (String × Json)}
    (h : ∀ f ∈ fields, Tree.value? depth f.2.tree = some f.2) :
    Tree.fieldValues? depth (fieldTrees fields) = some fields := by
  induction fields with
  | nil => rfl
  | cons f fs ih =>
      obtain ⟨hv, hfs⟩ := List.forall_mem_cons.1 h
      simp [fieldTrees, Tree.fieldValues?, hv, ih hfs]

theorem Tidy.value?_tree {depth : Nat} {v : Json} (h : v.Tidy depth) :
    v.tree.value? depth = some v := by
  induction h with
  | null | bool | number | string => rfl
  | array _ ih => simp [tree, Tree.value?, values?_trees ih]
  | object ordered _ ih =>
      simp [tree, Tree.value?, fieldValues?_fieldTrees ih, ofFields, sortFields_of_ordered ordered]

/-- An object of some fields is faithful if its fields are. -/
theorem Faithful.ofFields {fields : List (String × Json)} (h : ∀ f ∈ fields, Faithful f.2) :
    Faithful (Json.ofFields fields) :=
  .object fun f hf => h f (mem_of_mem_sortFields hf)

/-- An object of some fields is one level deeper than its fields. -/
theorem Tidy.ofFields {depth : Nat} {fields : List (String × Json)}
    (h : ∀ f ∈ fields, Tidy depth f.2) : Tidy (depth + 1) (Json.ofFields fields) :=
  .object (ordered_sortFields fields) fun f hf => h f (mem_of_mem_sortFields hf)

end Accounts.Json
