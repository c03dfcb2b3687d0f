import Accounts.Text.Integer
/-!
# Which texts write whole numbers

Reading stops at the first thing that is wrong.  What is left of that for a range without
negative numbers is a simple form: digits, with a plus sign before them or without a sign,
whose value is in the range (`readChars_eq_ok_iff`).  A number that grows too large on the way
does not get smaller again, so only the value of all digits counts (`le_ofDigitChars`).

A padded number has as many digits as it is padded to, unless it has more, and its value is the
number.
-/

namespace Accounts.Text

/-- Digits, with a plus sign or without a sign, write a number. -/
def Writes (cs : List Char) (n : Nat) : Prop :=
  ∃ ds, (cs = ds ∨ cs = '+' :: ds) ∧ ds ≠ [] ∧ (∀ c ∈ ds, c.isDigit = true) ∧
    Nat.ofDigitChars 10 ds 0 = n

variable {r : IntegerRange} {n : Nat} {i : Int} {c : Char} {ds cs : List Char}

theorem isDigit_iff : c.isDigit = true ↔ '0' ≤ c ∧ c ≤ '9' := by
  rw [Char.isDigit, Bool.and_eq_true, decide_eq_true_eq, decide_eq_true_eq]
  exact Iff.rfl

@[simp] theorem digit?_of_isDigit (h : c.isDigit = true) :
    digit? c = some (c.toNat - '0'.toNat) := if_pos (isDigit_iff.1 h)

@[simp] theorem digit?_of_not_isDigit (h : c.isDigit = false) : digit? c = none :=
  if_neg fun hc => Bool.false_ne_true (h.symm.trans (isDigit_iff.2 hc))

theorem le_ofDigitChars (ds : List Char) (n : Nat) : n ≤ Nat.ofDigitChars 10 ds n := by
  induction ds generalizing n with
  | nil => simp
  | cons c ds ih =>
      rw [Nat.ofDigitChars_cons]
      have := ih (10 * n + (c.toNat - '0'.toNat))
      omega

theorem exists_digitChar (h : c.isDigit = true) : ∃ d < 10, c = Nat.digitChar d := by
  obtain ⟨hleast, hgreatest⟩ := isDigit_iff.1 h
  have hleast : 48 ≤ c.toNat := hleast
  have hgreatest : c.toNat ≤ 57 := hgreatest
  have hdigits : ∀ d < 10, Nat.digitChar d = Char.ofNat (48 + d) := by decide
  refine ⟨c.toNat - 48, by omega, ?_⟩
  rw [hdigits _ (by omega), Nat.add_sub_cancel' hleast, Char.ofNat_toNat]

theorem ofDigitChars_lt (h : ∀ c ∈ ds, c.isDigit = true) (n : Nat) :
    Nat.ofDigitChars 10 ds n < (n + 1) * Nat.pow 10 ds.length := by
  induction ds generalizing n with
  | nil => simp
  | cons c ds ih =>
      obtain ⟨hc, hds⟩ := List.forall_mem_cons.1 h
      have hnine : c.toNat - '0'.toNat ≤ 9 := by
        have : c.toNat ≤ 57 := (isDigit_iff.1 hc).2
        have : '0'.toNat = 48 := rfl
        omega
      have hle : 10 * n + (c.toNat - '0'.toNat) + 1 ≤ (n + 1) * 10 := by omega
      have hpow : Nat.pow 10 (ds.length + 1) = 10 * Nat.pow 10 ds.length := Nat.pow_succ'
      rw [Nat.ofDigitChars_cons, List.length_cons, hpow, ← Nat.mul_assoc]
      exact Nat.lt_of_lt_of_le (ih hds _) (Nat.mul_le_mul_right _ hle)

/-- A number of more than one digit is not written with a zero in front. -/
theorem length_toDigits_of_zero {n : Nat} (h : (Nat.toDigits 10 n).head? = some '0') :
    (Nat.toDigits 10 n).length = 1 := by
  obtain ⟨cs, hcs⟩ := List.head?_eq_some_iff.1 h
  have hdigits : ∀ c ∈ cs, c.isDigit = true := fun c hc =>
    Nat.isDigit_of_mem_toDigits (by omega) (by omega) (hcs ▸ List.mem_cons_of_mem _ hc)
  have hvalue : Nat.ofDigitChars 10 cs 0 = n := by
    have := Nat.ofDigitChars_toDigits (b := 10) (n := n) (by omega) (by omega)
    rwa [hcs, Nat.ofDigitChars_cons] at this
  have hlt := ofDigitChars_lt hdigits 0
  rw [hvalue, Nat.zero_add, Nat.one_mul] at hlt
  rw [hcs, List.length_cons]
  cases hlength : cs.length with
  | zero => rfl
  | succ k =>
      have hle := (Nat.length_toDigits_le_iff (k := cs.length) (by omega) (by omega)).2 hlt
      rw [hcs, List.length_cons] at hle
      omega

theorem readUp_eq_ok_iff (h : (n : Int) ≤ r.greatest) :
    readUp r n ds = .ok i ↔ (∀ c ∈ ds, c.isDigit = true) ∧ i = Nat.ofDigitChars 10 ds n ∧
      (Nat.ofDigitChars 10 ds n : Int) ≤ r.greatest := by
  induction ds generalizing n with
  | nil => simp [readUp, h, @eq_comm Int i]
  | cons c ds ih =>
      cases hc : c.isDigit with
      | false => simp [readUp, hc]
      | true =>
          have hnext : (n : Int) * 10 + (c.toNat - '0'.toNat : Nat) =
              (10 * n + (c.toNat - '0'.toNat) : Nat) := by omega
          rw [readUp, digit?_of_isDigit hc]
          simp only [hnext, Nat.ofDigitChars_cons]
          split
          · next hle => rw [ih hle, List.forall_mem_cons, and_assoc, and_iff_right hc]
          · next hgt =>
              have := le_ofDigitChars ds (10 * n + (c.toNat - '0'.toNat))
              constructor
              · intro h
                cases h
              · rintro ⟨-, -, hle⟩
                omega

theorem writes_plus : Writes ('+' :: ds) n ↔
    ds ≠ [] ∧ (∀ c ∈ ds, c.isDigit = true) ∧ Nat.ofDigitChars 10 ds 0 = n := by
  constructor
  · rintro ⟨ds', heq | heq, hne, hdigits, hvalue⟩
    · cases hdigits '+' (heq ▸ List.mem_cons_self)
    · cases heq
      exact ⟨hne, hdigits, hvalue⟩
  · rintro ⟨hne, hdigits, hvalue⟩
    exact ⟨ds, .inr rfl, hne, hdigits, hvalue⟩

theorem writes_cons (hc : c ≠ '+') : Writes (c :: cs) n ↔
    (∀ d ∈ c :: cs, d.isDigit = true) ∧ Nat.ofDigitChars 10 (c :: cs) 0 = n := by
  constructor
  · rintro ⟨ds, rfl | heq, -, hdigits, hvalue⟩
    · exact ⟨hdigits, hvalue⟩
    · cases heq
      exact (hc rfl).elim
  · rintro ⟨hdigits, hvalue⟩
    exact ⟨c :: cs, .inl rfl, List.cons_ne_nil c cs, hdigits, hvalue⟩

/-- Where there are no negative numbers a minus sign is no digit. -/
theorem readChars_cons (hleast : r.least = 0) (hc : c ≠ '+') :
    readChars r (c :: cs) = readUp r 0 (c :: cs) := by
  have hsign : ¬ (c = '-' ∧ r.least < 0) := by omega
  unfold readChars
  split
  · next heq => cases heq
  · next heq =>
      cases heq
      exact (hc rfl).elim
  · next heq =>
      cases heq
      rfl
  · next heq =>
      cases heq
      exact (hc rfl).elim
  · next heq =>
      cases heq
      exact if_neg hsign

/-- A text is read as a number exactly if it writes the number and the range holds it. -/
theorem readChars_eq_ok_iff (hleast : r.least = 0) (hgreatest : 0 ≤ r.greatest) :
    readChars r cs = .ok i ↔ ∃ n : Nat, Writes cs n ∧ i = n ∧ (n : Int) ≤ r.greatest := by
  have hdigits : ∀ ds : List Char, readUp r 0 ds = .ok i ↔ (∀ c ∈ ds, c.isDigit = true) ∧
      i = Nat.ofDigitChars 10 ds 0 ∧ (Nat.ofDigitChars 10 ds 0 : Int) ≤ r.greatest :=
    fun ds => readUp_eq_ok_iff hgreatest
  rcases cs with - | ⟨c, cs⟩
  · simp [readChars, Writes]
  by_cases hc : c = '+'
  · subst hc
    cases cs with
    | nil => simp [readChars, writes_plus]
    | cons d ds =>
        rw [show readChars r ('+' :: d :: ds) = readUp r 0 (d :: ds) from rfl, hdigits]
        simp [writes_plus, and_assoc]
  · rw [readChars_cons hleast hc, hdigits]
    simp [writes_cons hc, and_assoc]

example : Writes "+042".toList 42 :=
  ⟨"042".toList, .inr rfl, by decide, List.all_eq_true.1 rfl, by decide⟩

/-! ## Padded numbers -/

variable {width : Nat}

theorem isDigit_of_mem_padded (h : c ∈ padded width n) : c.isDigit = true := by
  rcases List.mem_append.1 h with h | h
  · rw [(List.mem_replicate.1 h).2]
    rfl
  · exact Nat.isDigit_of_mem_toDigits (by omega) (by omega) h

theorem ofDigitChars_padded (width n : Nat) : Nat.ofDigitChars 10 (padded width n) 0 = n := by
  rw [padded, Nat.ofDigitChars_append, Nat.ofDigitChars_replicate_zero, Nat.mul_zero,
    Nat.ofDigitChars_toDigits (by omega) (by omega)]

theorem length_padded (hw : 0 < width) (hn : n < Nat.pow 10 width) :
    (padded width n).length = width := by
  have hle := (Nat.length_toDigits_le_iff (n := n) (by omega) hw).2 hn
  simp only [padded, List.length_append, List.length_replicate]
  omega

end Accounts.Text
