import Accounts.Proofs.Otp.Window
/-!
# Builds that check their arithmetic

Seconds and steps are words, and where a build does not check its arithmetic, counting them goes
round.  One that does breaks off instead: before step `skew`, because the first step that is tried
would be before step 0, and at a step that starts at no word.

Where such a build gives an answer it is the one of the other build (`accepts_of_acceptsChecked`).
It gives one for every text as long as all steps that are tried can be (`acceptsChecked_eq`), and
one for the current code from step `skew` on (`acceptsChecked_keyCode`).
-/

namespace Accounts.Otp

/-- Tries some steps from one on; nothing once a step starts at no word. -/
def triedChecked (key : List UInt8) (code : String) : Nat → Nat → Option Bool
  | _, 0 => some false
  | step, n + 1 =>
      if stepSeconds * step < UInt64.size then
        if stepCode key step == code then some true else triedChecked key code (step + 1) n
      else none

/-- A code is that of a step around the current one; nothing if the build breaks off. -/
def Totp.acceptsChecked (t : Totp) (key : List UInt8) (code : String) (seconds : UInt64) :
    Option Bool :=
  let now := seconds.toNat / stepSeconds
  if t.skew ≤ now then triedChecked key code (now - t.skew) (2 * t.skew + 1) else none

variable {t : Totp} {code : String} {key : List UInt8} {seconds : UInt64} {step : Nat}

/-- A step whose code it is ends the trying, if the steps up to it start at words. -/
theorem triedChecked_of_code {n i : Nat} (hi : i < n) (hcode : stepCode key (step + i) = code)
    (hword : stepSeconds * (step + i) < UInt64.size) : triedChecked key code step n = some true := by
  induction n generalizing step i with
  | zero => exact absurd hi (Nat.not_lt_zero i)
  | succ n ih =>
      have hfirst : stepSeconds * step < UInt64.size :=
        Nat.lt_of_le_of_lt (Nat.mul_le_mul_left _ (Nat.le_add_right step i)) hword
      rw [triedChecked, if_pos hfirst]
      split
      case isTrue => rfl
      case isFalse hne =>
        cases i with
        | zero => exact absurd (beq_iff_eq.2 hcode) hne
        | succ i =>
            have hnext : step + (i + 1) = step + 1 + i := by omega
            exact ih (Nat.lt_of_succ_lt_succ hi) (hnext ▸ hcode) (hnext ▸ hword)

/-- An answer is about the steps that were tried, and all these start at words. -/
theorem triedChecked_eq_some {n : Nat} {accepted : Bool}
    (h : triedChecked key code step n = some accepted) :
    (accepted = true → ∃ i < n, stepSeconds * (step + i) < UInt64.size ∧
      stepCode key (step + i) = code) ∧
    (accepted = false → ∀ i < n, stepSeconds * (step + i) < UInt64.size ∧
      stepCode key (step + i) ≠ code) := by
  induction n generalizing step with
  | zero =>
      obtain rfl : false = accepted := Option.some.inj h
      exact ⟨fun h => absurd h Bool.false_ne_true, fun _ i hi => absurd hi (Nat.not_lt_zero i)⟩
  | succ n ih =>
      have hnext : ∀ i, step + (i + 1) = step + 1 + i := fun i => by omega
      rw [triedChecked] at h
      split at h
      case isFalse => cases h
      case isTrue hword =>
      split at h
      case isTrue hcode =>
        obtain rfl : true = accepted := Option.some.inj h
        exact ⟨fun _ => ⟨0, Nat.succ_pos n, hword, eq_of_beq hcode⟩,
          fun h => absurd h.symm Bool.false_ne_true⟩
      case isFalse hcode =>
        obtain ⟨hyes, hno⟩ := ih h
        constructor
        · intro haccepted
          obtain ⟨i, hi, hstep⟩ := hyes haccepted
          exact ⟨i + 1, Nat.succ_lt_succ hi, by rwa [hnext]⟩
        · rintro hrefused (_ | i) hi
          · exact ⟨hword, fun heq => hcode (beq_iff_eq.2 heq)⟩
          · rw [hnext]
            exact hno hrefused i (Nat.lt_of_succ_lt_succ hi)

/-- There is an answer if all steps that are tried start at words. -/
theorem exists_triedChecked {n : Nat} (hword : ∀ i < n, stepSeconds * (step + i) < UInt64.size) :
    ∃ accepted, triedChecked key code step n = some accepted := by
  induction n generalizing step with
  | zero => exact ⟨false, rfl⟩
  | succ n ih =>
      have hfirst : stepSeconds * step < UInt64.size := hword 0 (Nat.succ_pos n)
      rw [triedChecked, if_pos hfirst]
      split
      case isTrue => exact ⟨true, rfl⟩
      case isFalse =>
        refine ih fun i hi => ?_
        rw [Nat.add_assoc, Nat.add_comm 1 i]
        exact hword (i + 1) (Nat.succ_lt_succ hi)

/-- Where a build that checks its arithmetic gives an answer, one that does not gives the same. -/
theorem accepts_of_acceptsChecked {accepted : Bool}
    (h : t.acceptsChecked key code seconds = some accepted) :
    t.accepts key code seconds = accepted := by
  rw [Totp.acceptsChecked] at h
  split at h
  case isFalse => cases h
  case isTrue hfirst =>
  obtain ⟨hyes, hno⟩ := triedChecked_eq_some h
  cases accepted with
  | true =>
      obtain ⟨i, hi, hword, hcode⟩ := hyes rfl
      refine List.any_eq_true.2 ⟨i, List.mem_range.2 hi, beq_iff_eq.2 ?_⟩
      rw [keyCode_tried hfirst hword, hcode]
  | false =>
      refine List.any_eq_false.2 fun i hi => ?_
      obtain ⟨hword, hcode⟩ := hno rfl i (List.mem_range.1 hi)
      rw [keyCode_tried hfirst hword]
      exact mt beq_iff_eq.1 hcode

/-- Within the window both builds answer, and they answer the same. -/
theorem acceptsChecked_eq (hfirst : t.skew ≤ seconds.toNat / stepSeconds)
    (hlast : stepSeconds * (seconds.toNat / stepSeconds + t.skew) < UInt64.size) :
    t.acceptsChecked key code seconds = some (t.accepts key code seconds) := by
  obtain ⟨accepted, h⟩ : ∃ accepted, t.acceptsChecked key code seconds = some accepted := by
    rw [Totp.acceptsChecked, if_pos hfirst]
    exact exists_triedChecked fun i hi =>
      Nat.lt_of_le_of_lt (Nat.mul_le_mul_left _ (by omega)) hlast
  rw [h, accepts_of_acceptsChecked h]

/-- The current code is accepted from step `skew` on; before that the build breaks off. -/
theorem acceptsChecked_keyCode (t : Totp) (key : List UInt8) (seconds : UInt64) :
    t.acceptsChecked key (keyCode key seconds) seconds =
      if t.skew ≤ seconds.toNat / stepSeconds then some true else none := by
  rw [Totp.acceptsChecked]
  split
  case isFalse => rfl
  case isTrue hfirst =>
    have hnow : seconds.toNat / stepSeconds - t.skew + t.skew = seconds.toNat / stepSeconds :=
      Nat.sub_add_cancel hfirst
    have hcode : stepCode key (seconds.toNat / stepSeconds - t.skew + t.skew) =
        keyCode key seconds := by
      rw [hnow, keyCode, toNat_stepOf]
    have hword := stepSeconds_mul_stepOf_lt seconds
    exact triedChecked_of_code (by omega) hcode (by rwa [hnow])

end Accounts.Otp
