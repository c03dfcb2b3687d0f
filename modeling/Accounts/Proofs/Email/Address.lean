import Accounts.Email.Address
import Accounts.Proofs.Domain.Ascii
/-!
# Addresses do not start or end with a blank character

A mailbox has no blank character at all.  A domain may hold some, as an international name is
a name with spaces too, but it does not end with one: its ASCII form would have a character
that no host name has, and would not end with a bracket either.

So an address that is accepted is the same text with and without trimming.
-/

namespace Accounts.Email

open Domain (labelsOf exists_label isGraphic)

theorem isBlank_of_isGraphic {c : Char} (h : isGraphic c = true) : Text.isBlank c = false := by
  cases hb : Text.isBlank c with
  | false => rfl
  | true => exact absurd (h.symm.trans (Domain.isGraphic_of_isBlank hb)) Bool.false_ne_true.symm

theorem isBlank_of_isMailboxChar {c : Char} (h : isMailboxChar c = true) :
    Text.isBlank c = false := by
  simp only [isMailboxChar, Bool.or_eq_true, beq_iff_eq] at h
  rcases h with ((halnum | hsign) | rfl) | rfl
  · exact isBlank_of_isGraphic (Domain.isGraphic_of_isAlphanum halnum)
  · have hsigns : ".!#$%&'*+/=?^_`\x7b|\x7d~-".toList.all (fun d => !Text.isBlank d) = true := by
      decide
    simpa using List.all_eq_true.1 hsigns c (List.contains_iff_mem.1 hsign)
  · rfl
  · rfl

/-! ## Domains -/

theorem isGraphic_of_isHost {cs : List Char} (h : isHost cs = true) {c : Char} (hc : c ∈ cs) :
    isGraphic c = true := by
  by_cases hdot : c = '.'
  · exact hdot ▸ rfl
  · obtain ⟨l, hl, hcl⟩ := exists_label hc hdot
    have hlabel := List.all_eq_true.1 h l hl
    simp only [isHostLabel, Bool.and_eq_true] at hlabel
    have hchar := List.all_eq_true.1 hlabel.1.1.2 c hcl
    rcases Bool.or_eq_true_iff.1 hchar with halnum | hyphen
    · exact Domain.isGraphic_of_isAlphanum halnum
    · exact (beq_iff_eq.1 hyphen) ▸ rfl

theorem getLast?_of_endsWithLiteral {cs : List Char} (h : endsWithLiteral cs = true) :
    cs.getLast? = some ']' := by
  unfold endsWithLiteral at h
  split at h
  · next back hback => rw [← List.head?_reverse, hback, List.head?_cons]
  · cases h

theorem not_isAsciiDomain {cs : List Char} (hidden : ∃ c ∈ cs, isGraphic c = false)
    (hlast : cs.getLast? ≠ some ']') : isAsciiDomain cs = false := by
  obtain ⟨c, hc, hno⟩ := hidden
  refine Bool.or_eq_false_iff.2 ⟨Bool.eq_false_iff.2 fun hhost => ?_, Bool.eq_false_iff.2 fun hlit => ?_⟩
  · exact Bool.false_ne_true (hno.symm.trans (isGraphic_of_isHost hhost hc))
  · exact hlast (getLast?_of_endsWithLiteral hlit)

/-- No domain ends with a blank character. -/
theorem isDomain_concat {b : Char} (hb : Text.isBlank b = true) (cs : List Char) :
    isDomain (cs ++ [b]) = false := by
  have hhidden := Domain.isGraphic_of_isBlank hb
  have hplain : isAsciiDomain (cs ++ [b]) = false := by
    refine not_isAsciiDomain ⟨b, by simp, hhidden⟩ ?_
    simpa using Domain.ne_of_isGraphic hhidden (d := ']') rfl
  refine Bool.eq_false_iff.2 fun h => ?_
  simp only [isDomain, hplain, Bool.false_or, Bool.and_eq_true] at h
  replace h := h.2
  split at h
  · next ascii hascii =>
      obtain ⟨hchar, hlast⟩ := Domain.toAscii_concat hb hascii
      exact Bool.false_ne_true ((not_isAsciiDomain hchar hlast).symm.trans h)
  · cases h

/-! ## Addresses -/

theorem split_eq {cs mailbox domain : List Char} (h : split cs = some (mailbox, domain)) :
    cs = mailbox ++ '@' :: domain := by
  unfold split at h
  dsimp only at h
  split at h
  · cases h
  · next hlength =>
      cases h
      have hparts : cs.reverse.takeWhile (· ≠ '@') ++ cs.reverse.dropWhile (· ≠ '@') = cs.reverse :=
        List.takeWhile_append_dropWhile
      generalize cs.reverse.takeWhile (· ≠ '@') = domain at hparts hlength
      cases hdrop : cs.reverse.dropWhile (· ≠ '@') with
      | nil =>
          rw [hdrop, List.append_nil] at hparts
          exact absurd (by rw [hparts, List.length_reverse]) hlength
      | cons c back =>
          have hsign : c = '@' := by
            have := List.head?_dropWhile_not (· ≠ '@') cs.reverse
            rw [hdrop] at this
            simpa using this
          have hcs : cs = back.reverse ++ '@' :: domain.reverse := by
            rw [hdrop, hsign] at hparts
            rw [← List.reverse_reverse cs, ← hparts]
            simp
          have hcount : cs.length - domain.length - 1 = back.reverse.length := by
            rw [hcs]
            simp
            omega
          rw [hcount]
          conv => lhs; rw [hcs]
          conv => rhs; rw [hcs, List.take_left]

/-- An address has no blank character at its ends, whatever its domain is. -/
theorem trim_of_isAddress {s : String} (h : isAddress s = true) : Text.trim s = s := by
  unfold isAddress at h
  split at h
  · next mailbox domain hsplit =>
      obtain ⟨hmailbox, hdomain⟩ := Bool.and_eq_true_iff.1 h
      have hs := split_eq hsplit
      have hself : Text.trimChars s.toList = s.toList := by
        refine Text.trimChars_eq_self (fun c hc => ?_) (fun c hc => ?_)
        · simp only [isMailbox, Bool.and_eq_true] at hmailbox
          cases mailbox with
          | nil => exact absurd hmailbox.1.1 (by decide)
          | cons d ds =>
              rw [hs] at hc
              obtain rfl : d = c := by simpa using hc
              exact isBlank_of_isMailboxChar (List.all_eq_true.1 hmailbox.2 _ List.mem_cons_self)
        · rcases List.eq_nil_or_concat domain with rfl | ⟨front, d, rfl⟩
          · obtain rfl : '@' = c := by simpa [hs] using hc
            rfl
          · obtain rfl : d = c := by simpa [hs, List.getLast?_cons] using hc
            refine Bool.eq_false_iff.2 fun hb => ?_
            rw [List.concat_eq_append, isDomain_concat hb] at hdomain
            cases hdomain
      rw [Text.trim, hself, String.ofList_toList]
  · cases h

end Accounts.Email
