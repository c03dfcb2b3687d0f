import Mathlib.Data.List.Basic
import Accounts.Domain.Ascii
import Accounts.Proofs.Unicode.Composition
/-!
# Domain names that end with a blank character

A blank character at the end of a domain name survives the way to the ASCII form, or the
name is refused on the way.  A blank character outside of ASCII becomes a space or is
refused, a space stays where it is when the name is composed, a label that is read back
cannot end with one because it is no digit, and a label that is written in ASCII keeps its
ASCII characters.
-/

namespace Accounts.Domain

/-! ## Labels -/

theorem exists_label {cs : List Char} {c : Char} (hc : c ∈ cs) (hdot : c ≠ '.') :
    ∃ l ∈ labelsOf cs, c ∈ l := by
  induction cs with
  | nil => cases hc
  | cons d ds ih =>
      rw [labelsOf]
      split
      · next hd =>
          have hmem : c ∈ ds := (List.mem_cons.1 hc).resolve_left fun h => hdot (h.trans hd)
          obtain ⟨l, hl, hcl⟩ := ih hmem
          exact ⟨l, List.mem_cons_of_mem _ hl, hcl⟩
      · cases hls : labelsOf ds with
        | nil =>
            rw [hls] at ih
            refine ⟨[d], List.mem_singleton_self _, ?_⟩
            rcases List.mem_cons.1 hc with rfl | hmem
            · exact List.mem_singleton_self _
            · obtain ⟨l, hl, -⟩ := ih hmem
              cases hl
        | cons l ls =>
            rw [hls] at ih
            rcases List.mem_cons.1 hc with rfl | hmem
            · exact ⟨c :: l, List.mem_cons_self, List.mem_cons_self⟩
            · obtain ⟨l', hl', hcl⟩ := ih hmem
              rcases List.mem_cons.1 hl' with rfl | hl'
              · exact ⟨d :: l', List.mem_cons_self, List.mem_cons_of_mem d hcl⟩
              · exact ⟨l', List.mem_cons_of_mem _ hl', hcl⟩

/-- A character at the end of a name is at the end of its last label. -/
theorem labelsOf_concat (cs : List Char) {c : Char} (hdot : c ≠ '.') :
    ∃ ls l, labelsOf (cs ++ [c]) = ls ++ [l ++ [c]] := by
  induction cs with
  | nil => exact ⟨[], [], by simp [labelsOf, hdot]⟩
  | cons d ds ih =>
      obtain ⟨ls, l, hls⟩ := ih
      rw [List.cons_append, labelsOf, hls]
      split
      · exact ⟨[] :: ls, l, rfl⟩
      · cases ls with
        | nil => exact ⟨[], d :: l, rfl⟩
        | cons x xs => exact ⟨(d :: x) :: xs, l, rfl⟩

theorem joinLabels_concat (ls : List (List Char)) (l : List Char) :
    ∃ front, joinLabels (ls ++ [l]) = front ++ l := by
  induction ls with
  | nil => exact ⟨[], rfl⟩
  | cons x xs ih =>
      obtain ⟨front, hfront⟩ := ih
      refine ⟨x ++ '.' :: front, ?_⟩
      cases xs with
      | nil =>
          obtain rfl : front = [] := by simpa [joinLabels] using hfront
          simp [joinLabels]
      | cons y ys =>
          rw [List.cons_append, List.cons_append, joinLabels, ← List.cons_append, hfront]
          · simp
          · simp

/-! ## Numbers of labels that are read and written -/

namespace Punycode

/-- Everything that is read as a number is made of digits. -/
theorem digits_of_readNumber {bias i weight k j : Nat} {cs rest : List Char}
    (h : readNumber bias i weight k cs = some (j, rest)) :
    ∃ used, cs = used ++ rest ∧ ∀ c ∈ used, (digitValue? c).isSome = true := by
  induction cs generalizing i weight k with
  | nil => cases h
  | cons c cs ih =>
      rw [readNumber] at h
      obtain ⟨d, hd, h₁⟩ := Option.bind_eq_some_iff.1 h
      have hc : (digitValue? c).isSome = true := by rw [hd]; rfl
      split at h₁
      · cases h₁
      · dsimp only at h₁
        split at h₁
        · cases h₁
          exact ⟨[c], rfl, by simpa using hc⟩
        · split at h₁
          · cases h₁
          · obtain ⟨used, rfl, hused⟩ := ih h₁
            exact ⟨c :: used, rfl, List.forall_mem_cons.2 ⟨hc, hused⟩⟩

theorem digits_of_insertAll {done out cs : List Char} {point i bias steps : Nat}
    (h : insertAll done point i bias cs steps = some out) :
    ∀ c ∈ cs, (digitValue? c).isSome = true := by
  induction steps generalizing done point i bias cs with
  | zero =>
      obtain ⟨rfl, -⟩ := Option.ite_none_right_eq_some.1 h
      simp
  | succ steps ih =>
      cases cs with
      | nil => simp
      | cons c cs =>
          rw [insertAll] at h
          · obtain ⟨⟨j, rest⟩, hread, h₁⟩ := Option.bind_eq_some_iff.1 h
            obtain ⟨used, hused, hdigits⟩ := digits_of_readNumber hread
            dsimp only at h₁
            split at h₁
            · cases h₁
            · split at h₁
              · rw [hused]
                exact List.forall_mem_append.2 ⟨hdigits, ih h₁⟩
              · cases h₁
          · simp

/-- A text that ends with what is neither a digit nor a hyphen stands for no label. -/
theorem decode_concat {c : Char} (hdigit : digitValue? c = none) (hyphen : c ≠ '-')
    (cs : List Char) : decode (cs ++ [c]) = none := by
  rw [Option.eq_none_iff_forall_ne_some]
  intro out h
  obtain ⟨⟨ascii, numbers⟩, hsplit, h₁⟩ := Option.bind_eq_some_iff.1 h
  have hmem : c ∈ numbers := by
    have hafter : c ∈ (cs ++ [c]).reverse.takeWhile (· ≠ '-') := by
      simp [hyphen]
    unfold splitLast at hsplit
    dsimp only at hsplit
    split at hsplit
    · cases hsplit
      simp
    · split at hsplit
      · cases hsplit
      · cases hsplit
        exact List.mem_reverse.2 hafter
  dsimp only at h₁
  split at h₁
  · have hsome := digits_of_insertAll h₁ c hmem
    rw [hdigit] at hsome
    cases hsome
  · cases h₁

theorem threshold_le (k bias : Nat) : threshold k bias ≤ 26 := by
  unfold threshold tMin tMax
  split
  · omega
  · split <;> omega

theorem digit_ne {n : Nat} (h : n < base) : digit n ≠ ']' := by
  have hall : ∀ n ∈ List.range base, digit n ≠ ']' := by decide
  exact hall n (List.mem_range.2 h)

theorem writeNumber_ne (q k bias steps : Nat) : ∀ c ∈ writeNumber q k bias steps, c ≠ ']' := by
  induction steps generalizing q k with
  | zero => simp [writeNumber]
  | succ steps ih =>
      have ht : threshold k bias < base := Nat.lt_of_le_of_lt (threshold_le k bias) (by decide)
      rw [writeNumber]
      split
      · next hq =>
          intro c hc
          rw [List.mem_singleton.1 hc]
          exact digit_ne (Nat.lt_trans hq ht)
      · refine List.forall_mem_cons.2 ⟨digit_ne ?_, ih _ _⟩
        have := Nat.mod_lt (q - threshold k bias) (y := base - threshold k bias) (by omega)
        omega

/-- What is written is written in front, and it holds no bracket. -/
def Grows (before after : List Char) : Prop := ∃ more, after = more ++ before ∧ ∀ c ∈ more, c ≠ ']'

theorem Grows.refl (out : List Char) : Grows out out := ⟨[], rfl, by simp⟩

theorem Grows.trans {a b c : List Char} (h : Grows a b) (k : Grows b c) : Grows a c := by
  obtain ⟨first, rfl, hfirst⟩ := h
  obtain ⟨second, rfl, hsecond⟩ := k
  exact ⟨second ++ first, by simp, List.forall_mem_append.2 ⟨hsecond, hfirst⟩⟩

theorem grows_pass (point ascii : Nat) (w : Writing) (c : Char) :
    Grows w.out (w.pass point ascii c).out := by
  unfold Writing.pass
  split
  · exact .refl _
  · split
    · exact ⟨_, rfl, fun c hc => writeNumber_ne _ _ _ _ c (List.mem_reverse.1 hc)⟩
    · exact .refl _

theorem grows_foldl (point ascii : Nat) (w : Writing) (label : List Char) :
    Grows w.out (label.foldl (Writing.pass point ascii) w).out := by
  induction label generalizing w with
  | nil => exact .refl _
  | cons c cs ih => exact (grows_pass point ascii w c).trans (ih _)

theorem grows_writeFrom (label : List Char) (ascii point : Nat) (w : Writing) (steps : Nat) :
    Grows w.out (writeFrom label ascii point w steps) := by
  induction steps generalizing point w with
  | zero => exact .refl _
  | succ steps ih =>
      rw [writeFrom]
      split
      · exact .refl _
      · next next _ =>
          refine Grows.trans ?_ (ih _ _)
          exact grows_foldl next ascii
            { w with delta := w.delta + (next - point) * (w.handled + 1) } label

/-- A label in ASCII keeps its ASCII characters, and it does not end with a bracket. -/
theorem encode_keeps {label : List Char} {c : Char} (hc : c ∈ label) (hascii : c.toNat < 0x80) :
    c ∈ encode label ∧ (encode label).getLast? ≠ some ']' := by
  have hmem : c ∈ label.filter fun c => c.toNat < 0x80 := List.mem_filter.2 ⟨hc, by simpa using hascii⟩
  have hfront : label.filter (fun c => c.toNat < 0x80) ≠ [] := List.ne_nil_of_mem hmem
  unfold encode
  dsimp only
  rw [if_neg hfront]
  generalize label.filter (fun c => c.toNat < 0x80) = ascii at hmem
  obtain ⟨more, hmore, hne⟩ := grows_writeFrom label ascii.length initialPoint
    ⟨0, initialBias, ascii.length, (ascii ++ ['-']).reverse⟩ label.length
  rw [hmore]
  refine ⟨by simp [hmem], ?_⟩
  rw [List.getLast?_reverse, List.head?_append]
  cases more with
  | nil => simp
  | cons d ds => simpa using hne d List.mem_cons_self

end Punycode

/-! ## Visible characters -/

theorem isGraphic_of_isAlphanum {c : Char} (h : c.isAlphanum = true) : isGraphic c = true := by
  have hrange : 48 ≤ c.toNat ∧ c.toNat ≤ 122 := by
    change ((decide (c.val ≥ 65 ∧ c.val ≤ 90) || (decide (c.val ≥ 97) && decide (c.val ≤ 122))) ||
      (decide (c.val ≥ 48) && decide (c.val ≤ 57))) = true at h
    simp only [Bool.or_eq_true, Bool.and_eq_true, decide_eq_true_eq, ge_iff_le,
      UInt32.le_iff_toNat_le] at h
    change ((65 ≤ c.toNat ∧ c.toNat ≤ 90) ∨ (97 ≤ c.toNat ∧ c.toNat ≤ 122)) ∨
      (48 ≤ c.toNat ∧ c.toNat ≤ 57) at h
    omega
  simp only [isGraphic, Bool.and_eq_true, decide_eq_true_eq]
  omega

theorem isAlphanum_of_isLower {c : Char} (h : c.isLower = true) : c.isAlphanum = true :=
  Bool.or_eq_true_iff.2 (.inl (Bool.or_eq_true_iff.2 (.inr h)))

theorem isAlphanum_of_isUpper {c : Char} (h : c.isUpper = true) : c.isAlphanum = true :=
  Bool.or_eq_true_iff.2 (.inl (Bool.or_eq_true_iff.2 (.inl h)))

theorem isAlphanum_of_isDigit {c : Char} (h : c.isDigit = true) : c.isAlphanum = true :=
  Bool.or_eq_true_iff.2 (.inr h)

theorem isGraphic_of_digit {c : Char} {n : Nat} (h : Punycode.digitValue? c = some n) :
    isGraphic c = true := by
  refine isGraphic_of_isAlphanum ?_
  unfold Punycode.digitValue? at h
  split at h
  · next hdigit => exact isAlphanum_of_isDigit hdigit
  · split at h
    · next hlower =>
        refine isAlphanum_of_isLower (Bool.and_eq_true_iff.2 ⟨?_, ?_⟩)
        · exact decide_eq_true hlower.1
        · exact decide_eq_true hlower.2
    · split at h
      · next hupper => exact isAlphanum_of_isUpper (decide_eq_true hupper)
      · cases h

theorem isGraphic_of_low {c : Char} (h : c.toNat ≤ 0x20) : isGraphic c = false := by
  simp only [isGraphic, Bool.and_eq_false_iff, decide_eq_false_iff_not]
  omega

theorem isGraphic_of_isBlank {c : Char} (h : Text.isBlank c = true) : isGraphic c = false := by
  simp only [Text.isBlank, Bool.or_eq_true, Bool.and_eq_true, beq_iff_eq, decide_eq_true_eq] at h
  simp only [isGraphic, Bool.and_eq_false_iff, decide_eq_false_iff_not]
  omega

theorem ne_of_isGraphic {c d : Char} (hc : isGraphic c = false) (hd : isGraphic d = true) : c ≠ d := by
  rintro rfl
  exact Bool.false_ne_true (hc.symm.trans hd)

/-! ## Names -/

theorem fate_of_isBlank {c : Char} (h : Text.isBlank c = true) :
    (c.toNat ≤ 0x20 ∧ fate c = .keep) ∨ fate c = .refuse ∨ fate c = .replace [' '] := by
  have hfate : fate c = blankFate c := if_pos h
  rw [hfate]
  unfold blankFate
  dsimp only
  split
  · next hlow => exact .inl ⟨hlow, rfl⟩
  · split
    · exact .inr (.inl rfl)
    · exact .inr (.inr rfl)

/-- A blank end of a name that is not refused is a control character or a space. -/
theorem mapped_concat {b : Char} (hb : Text.isBlank b = true) {cs : List Char}
    (hsound : (mapped (cs ++ [b])).2 = true) :
    ∃ front d, (mapped (cs ++ [b])).1 = front ++ [d] ∧ d.toNat ≤ 0x20 := by
  have hne : fate b ≠ .refuse := by
    simpa using (List.all_eq_true.1 hsound) b (by simp)
  unfold mapped
  dsimp only
  rw [List.flatMap_append, List.flatMap_singleton]
  obtain ⟨hlow, hkeep⟩ | hrefuse | hspace := fate_of_isBlank hb
  · exact ⟨_, b, by rw [hkeep], hlow⟩
  · exact absurd hrefuse hne
  · exact ⟨_, ' ', by rw [hspace], by decide⟩

theorem Verdict.sound_of_look {v : Verdict} {label : List Char} (h : (v.look label).sound = true) :
    v.sound = true := by
  unfold look at h
  split at h
  · split at h
    · simp only [Bool.and_eq_true] at h
      exact h.1.1
    · cases h
  · exact (Bool.and_eq_true_iff.1 h).1

theorem Verdict.sound_of_foldl {v : Verdict} {labels : List (List Char)}
    (h : (labels.foldl Verdict.look v).sound = true) : v.sound = true := by
  induction labels generalizing v with
  | nil => exact h
  | cons l ls ih => exact sound_of_look (ih h)

/-- A label with an end that is not visible is in no marked form. -/
theorem Verdict.labels_look_concat {v : Verdict} {label : List Char} {d : Char}
    (hd : isGraphic d = false) (h : (v.look (label ++ [d])).sound = true) :
    (v.look (label ++ [d])).labels = (label ++ [d]) :: v.labels := by
  unfold look at h ⊢
  split
  · next hmarked =>
      rw [if_pos hmarked] at h
      obtain ⟨rest, hrest⟩ := List.isPrefixOf_iff_prefix.1 hmarked
      have hdrop : (label ++ [d]).drop 4 = rest := by rw [← hrest]; rfl
      -- The rest still ends with the character, as the marker does not.
      have hlast : (marker ++ rest).getLast? = some d := by rw [hrest]; simp
      have hend : ∃ text, rest = text ++ [d] := by
        rcases List.eq_nil_or_concat rest with rfl | ⟨text, e, rfl⟩
        · cases hlast
          cases hd
        · obtain rfl : e = d := by simpa [List.getLast?_append] using hlast
          exact ⟨text, by simp⟩
      obtain ⟨text, rfl⟩ := hend
      have hdigit : Punycode.digitValue? d = none := by
        refine Option.eq_none_iff_forall_ne_some.2 fun n hn => ?_
        exact ne_of_isGraphic hd (isGraphic_of_digit hn) rfl
      rw [hdrop, Punycode.decode_concat hdigit (ne_of_isGraphic hd rfl)] at h
      cases h
  · rfl

/-- A control character or a space at the end of a label stays in its ASCII form. -/
theorem asciiLabel_concat {d : Char} (hd : d.toNat ≤ 0x20) (label : List Char) :
    d ∈ asciiLabel (label ++ [d]) ∧ (asciiLabel (label ++ [d])).getLast? ≠ some ']' := by
  have hmem : d ∈ label ++ [d] := by simp
  unfold asciiLabel
  split
  · have hne : d ≠ ']' := ne_of_isGraphic (isGraphic_of_low hd) rfl
    simpa using hne
  · obtain ⟨hin, hlast⟩ := Punycode.encode_keeps hmem (by omega)
    refine ⟨List.mem_append_right _ hin, ?_⟩
    rwa [List.getLast?_append_of_ne_nil _ (List.ne_nil_of_mem hin)]

theorem not_plain_of_isBlank {b : Char} (hb : Text.isBlank b = true) (cs : List Char) :
    ¬ (labelsOf (cs ++ [b])).all isPlainLabel = true := by
  intro h
  have hhidden := isGraphic_of_isBlank hb
  obtain ⟨l, hl, hbl⟩ := exists_label (List.mem_append_right cs (List.mem_singleton_self b))
    (ne_of_isGraphic hhidden rfl)
  have hplain := List.all_eq_true.1 h l hl
  simp only [isPlainLabel, Bool.and_eq_true] at hplain
  have hchar := List.all_eq_true.1 hplain.1.1.1 b hbl
  simp only [Bool.or_eq_true, beq_iff_eq] at hchar
  rcases hchar with (hyphen | hlower) | hdigit
  · exact ne_of_isGraphic hhidden rfl hyphen
  · exact ne_of_isGraphic hhidden (isGraphic_of_isAlphanum (isAlphanum_of_isLower hlower)) rfl
  · exact ne_of_isGraphic hhidden (isGraphic_of_isAlphanum (isAlphanum_of_isDigit hdigit)) rfl

/-- The ASCII form of a name that ends with a blank character has a character that is not
visible, and it does not end with a bracket. -/
theorem toAscii_concat {b : Char} (hb : Text.isBlank b = true) {cs ascii : List Char}
    (h : toAscii (cs ++ [b]) = some ascii) :
    (∃ d ∈ ascii, isGraphic d = false) ∧ ascii.getLast? ≠ some ']' := by
  rw [toAscii, if_neg (not_plain_of_isBlank hb cs)] at h
  dsimp only at h
  obtain ⟨hverdict, hascii⟩ := Option.ite_none_right_eq_some.1 h
  replace hverdict := (Bool.and_eq_true_iff.1 hverdict).1
  obtain ⟨front, d, hkept, hd⟩ := mapped_concat hb (Verdict.sound_of_foldl hverdict)
  rw [hkept, Unicode.nfc_concat hd] at hverdict hascii
  obtain ⟨ls, l, hls⟩ := labelsOf_concat (Unicode.nfc front)
    (ne_of_isGraphic (isGraphic_of_low hd) (d := '.') rfl)
  rw [hls, List.foldl_append, List.foldl_cons, List.foldl_nil] at hverdict hascii
  rw [Verdict.labels_look_concat (isGraphic_of_low hd) hverdict, List.reverse_cons, List.map_append,
    List.map_singleton] at hascii
  obtain ⟨before, hbefore⟩ := joinLabels_concat
    ((ls.foldl Verdict.look ⟨[], (mapped (cs ++ [b])).2, false⟩).labels.reverse.map asciiLabel)
    (asciiLabel (l ++ [d]))
  obtain ⟨hmem, hlast⟩ := asciiLabel_concat hd l
  have heq : ascii = before ++ asciiLabel (l ++ [d]) := by
    rw [← hbefore]
    exact (Option.some.inj hascii).symm
  subst heq
  refine ⟨⟨d, List.mem_append_right _ hmem, isGraphic_of_low hd⟩, ?_⟩
  rwa [List.getLast?_append_of_ne_nil _ (List.ne_nil_of_mem hmem)]

end Accounts.Domain
