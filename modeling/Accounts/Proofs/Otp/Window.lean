import Accounts.Otp.Totp
import Accounts.Proofs.Otp.RecoveryCode
import Accounts.Proofs.Text.Integer
/-!
# Which codes are accepted when

The steps around the current one are tried one after another; together they are the steps that
are at most `skew` away from it, at both ends and with the ends (`accepts_iff`).  That is so as
long as none of them lies before step 0 and each of them starts at a second that is a word; the
current step is among them in any case (`accepts_keyCode`).  Before that two things can go wrong,
and they are looked at in this order: the text has not the form of a code, and the secret cannot
be used.
-/

namespace Accounts.Otp

open RecoveryCode (SixDigits)

/-- A secret that codes can be made of: base 32 for enough bytes. -/
def Usable (secret : String) (key : List UInt8) : Prop :=
  Bytes.Base32.decode secret.toList = some key ∧ leastSecret ≤ key.length

instance (secret : String) (key : List UInt8) : Decidable (Usable secret key) :=
  inferInstanceAs (Decidable (_ ∧ _))

/-- A step that is at most `skew` away from another one. -/
def Near (skew now step : Nat) : Prop := now - skew ≤ step ∧ step ≤ now + skew

instance (skew now step : Nat) : Decidable (Near skew now step) :=
  inferInstanceAs (Decidable (_ ∧ _))

/-- The number that a keyed hash is cut to, before it is cut to digits. -/
def stepNumber (key : List UInt8) (step : Nat) : Nat :=
  let mac := Crypto.hmac Crypto.sha512 key (Bytes.bigEndian 8 step)
  Bytes.ofBigEndian ((mac.drop ((mac.getLastD 0).toNat % 16)).take 4) % Nat.pow 2 31

variable {t : Totp} {secret code : String} {key : List UInt8} {seconds : UInt64} {step : Nat}

/-! ## Steps as words -/

@[simp] theorem toNat_stepOf (seconds : UInt64) :
    (stepOf seconds).toNat = seconds.toNat / stepSeconds :=
  UInt64.toNat_div seconds (.ofNat stepSeconds)

theorem stepSeconds_mul_stepOf_lt (seconds : UInt64) :
    stepSeconds * (seconds.toNat / stepSeconds) < UInt64.size :=
  Nat.lt_of_le_of_lt (Nat.mul_div_le _ _) seconds.toNat_lt_size

/-- A step that starts at a word is the step of that second. -/
theorem stepOf_startOf {step : UInt64} (h : stepSeconds * step.toNat < UInt64.size) :
    stepOf (startOf step) = step := by
  have hstart : (startOf step).toNat = step.toNat * stepSeconds := by
    rw [startOf, UInt64.toNat_mul]
    exact Nat.mod_eq_of_lt (by rwa [Nat.mul_comm] at h)
  rw [← UInt64.toNat_inj, toNat_stepOf, hstart, Nat.mul_div_cancel _ (by decide)]

theorem keyCode_startOf {step : UInt64} (h : stepSeconds * step.toNat < UInt64.size) :
    keyCode key (startOf step) = stepCode key step.toNat := by
  rw [keyCode, stepOf_startOf h]

theorem keyCode_ofNat (h : stepSeconds * step < UInt64.size) :
    keyCode key (.ofNat (stepSeconds * step)) = stepCode key step := by
  rw [keyCode, toNat_stepOf, UInt64.toNat_ofNat_of_lt' h, Nat.mul_div_cancel_left _ (by decide)]

/-- The steps that are tried follow one another, as long as the first one is not before step 0. -/
theorem toNat_first_add {i : Nat} (hfirst : t.skew ≤ seconds.toNat / stepSeconds)
    (hi : stepSeconds * (seconds.toNat / stepSeconds - t.skew + i) < UInt64.size) :
    (stepOf seconds - .ofNat t.skew + .ofNat i).toNat =
      seconds.toNat / stepSeconds - t.skew + i := by
  have hnow : seconds.toNat / stepSeconds < UInt64.size :=
    Nat.lt_of_le_of_lt (Nat.div_le_self _ _) seconds.toNat_lt_size
  have hstep : seconds.toNat / stepSeconds - t.skew + i < UInt64.size :=
    Nat.lt_of_le_of_lt (Nat.le_mul_of_pos_left _ (by decide)) hi
  have hskew : (UInt64.ofNat t.skew).toNat = t.skew :=
    UInt64.toNat_ofNat_of_lt' (Nat.lt_of_le_of_lt hfirst hnow)
  have hcount : (UInt64.ofNat i).toNat = i :=
    UInt64.toNat_ofNat_of_lt' (Nat.lt_of_le_of_lt (Nat.le_add_left _ _) hstep)
  have hle : UInt64.ofNat t.skew ≤ stepOf seconds := by
    rwa [UInt64.le_iff_toNat_le, hskew, toNat_stepOf]
  rw [UInt64.toNat_add, UInt64.toNat_sub_of_le _ _ hle, hskew, hcount, toNat_stepOf,
    Nat.mod_eq_of_lt hstep]

/-! ## The form of a code -/

theorem isCode_iff : isCode code = true ↔ SixDigits code := by
  simp [isCode, digits, SixDigits]

theorem stepCode_eq (key : List UInt8) (step : Nat) :
    stepCode key step = Text.paddedText digits (stepNumber key step % Nat.pow 10 digits) := rfl

theorem stepNumber_mod_lt (key : List UInt8) (step : Nat) :
    stepNumber key step % Nat.pow 10 digits < Nat.pow 10 digits :=
  Nat.mod_lt _ (by decide)

theorem sixDigits_stepCode (key : List UInt8) (step : Nat) : SixDigits (stepCode key step) := by
  rw [stepCode_eq, Text.paddedText, SixDigits, String.length_ofList, String.toList_ofList]
  exact ⟨Text.length_padded (by decide) (stepNumber_mod_lt key step),
    fun _ => Text.isDigit_of_mem_padded⟩

theorem sixDigits_keyCode (key : List UInt8) (seconds : UInt64) : SixDigits (keyCode key seconds) :=
  sixDigits_stepCode key _

/-- The digits of a code are those of its number, with zeros in front. -/
theorem ofDigitChars_stepCode (key : List UInt8) (step : Nat) :
    Nat.ofDigitChars 10 (stepCode key step).toList 0 =
      stepNumber key step % Nat.pow 10 digits := by
  rw [stepCode_eq, Text.paddedText, String.toList_ofList, Text.ofDigitChars_padded]

/-! ## Secrets -/

theorem key_of_decode (hdecode : Bytes.Base32.decode secret.toList = some key) :
    t.key secret = (t.check key "verify").map fun _ => key := by
  have hkey : t.key secret = t.check key "verify" >>= fun _ => pure key := by
    rw [Totp.key, decodeSecret, hdecode]
    rfl
  rw [hkey]
  cases t.check key "verify" <;> rfl

theorem key_of_usable (hissuer : ':' ∉ t.issuer.toList) (h : Usable secret key) :
    t.key secret = .ok key := by
  have hcheck : t.check key "verify" = .ok () := by
    simp [Totp.check, Nat.not_lt.2 h.2, hissuer]
  rw [key_of_decode h.1, hcheck]
  rfl

theorem key_of_not_usable (h : ∀ key, ¬ Usable secret key) : ∃ e, t.key secret = .error e := by
  cases hdecode : Bytes.Base32.decode secret.toList with
  | none =>
      rw [Totp.key, decodeSecret, hdecode]
      exact ⟨_, rfl⟩
  | some key =>
      have hlength : key.length < leastSecret := Nat.not_le.1 fun hle => h key ⟨hdecode, hle⟩
      rw [key_of_decode hdecode, Totp.check, if_pos hlength]
      exact ⟨_, rfl⟩

theorem codeAt_of_usable (hissuer : ':' ∉ t.issuer.toList) (h : Usable secret key) :
    t.codeAt secret seconds = .ok (keyCode key seconds) := by
  rw [Totp.codeAt, key_of_usable hissuer h]
  rfl

theorem codeAt_start (hissuer : ':' ∉ t.issuer.toList) (h : Usable secret key)
    (hstep : stepSeconds * step < UInt64.size) :
    t.codeAt secret (.ofNat (stepSeconds * step)) = .ok (stepCode key step) := by
  rw [codeAt_of_usable hissuer h, keyCode_ofNat hstep]

/-! ## The steps that are tried -/

/-- The code of the `i`th step that is tried. -/
theorem keyCode_tried {i : Nat} (hfirst : t.skew ≤ seconds.toNat / stepSeconds)
    (hi : stepSeconds * (seconds.toNat / stepSeconds - t.skew + i) < UInt64.size) :
    keyCode key (startOf (stepOf seconds - .ofNat t.skew + .ofNat i)) =
      stepCode key (seconds.toNat / stepSeconds - t.skew + i) := by
  have hstep := toNat_first_add hfirst hi
  rw [keyCode_startOf (by rwa [hstep]), hstep]

/-- Counting up from the first step reaches those that are near, and no others. -/
theorem accepts_iff (hfirst : t.skew ≤ seconds.toNat / stepSeconds)
    (hlast : stepSeconds * (seconds.toNat / stepSeconds + t.skew) < UInt64.size) :
    t.accepts key code seconds = true ↔
      ∃ step, Near t.skew (seconds.toNat / stepSeconds) step ∧ stepCode key step = code := by
  have htried : ∀ i < 2 * t.skew + 1,
      stepSeconds * (seconds.toNat / stepSeconds - t.skew + i) < UInt64.size := fun i hi =>
    Nat.lt_of_le_of_lt (Nat.mul_le_mul_left _ (by omega)) hlast
  simp only [Totp.accepts, List.any_eq_true, List.mem_range, beq_iff_eq]
  constructor
  · rintro ⟨i, hi, hcode⟩
    exact ⟨_, ⟨by omega, by omega⟩, keyCode_tried hfirst (htried i hi) ▸ hcode⟩
  · rintro ⟨step, ⟨hnear, hnear'⟩, hcode⟩
    have hi : step - (seconds.toNat / stepSeconds - t.skew) < 2 * t.skew + 1 := by omega
    refine ⟨_, hi, ?_⟩
    rwa [keyCode_tried hfirst (htried _ hi), Nat.add_sub_cancel' hnear]

/-- The current step is among those that are tried, also when counting goes round. -/
theorem accepts_keyCode (t : Totp) (key : List UInt8) (seconds : UInt64) :
    t.accepts key (keyCode key seconds) seconds = true := by
  have hnow : stepOf (startOf (stepOf seconds)) = stepOf seconds :=
    stepOf_startOf (by rw [toNat_stepOf]; exact stepSeconds_mul_stepOf_lt seconds)
  simp only [Totp.accepts, List.any_eq_true, List.mem_range, beq_iff_eq]
  refine ⟨t.skew, by omega, ?_⟩
  rw [UInt64.sub_add_cancel, keyCode, hnow, keyCode]

theorem validateAt_of_not_sixDigits (h : ¬ SixDigits code) :
    t.validateAt secret code seconds = .ok false :=
  if_neg (mt isCode_iff.1 h)

theorem validateAt_of_sixDigits (h : SixDigits code) :
    t.validateAt secret code seconds =
      (t.key secret).map fun key => t.accepts key code seconds :=
  if_pos (isCode_iff.2 h)

/-- With a secret that can be used the answer is never an error, and it is yes for the codes of
the near steps. -/
theorem validateAt_of_usable (hissuer : ':' ∉ t.issuer.toList) (h : Usable secret key)
    (hfirst : t.skew ≤ seconds.toNat / stepSeconds)
    (hlast : stepSeconds * (seconds.toNat / stepSeconds + t.skew) < UInt64.size) (code : String) :
    ∃ accepted, t.validateAt secret code seconds = .ok accepted ∧
      (accepted = true ↔ ∃ step, Near t.skew (seconds.toNat / stepSeconds) step ∧
        t.codeAt secret (.ofNat (stepSeconds * step)) = .ok code) := by
  have hcodes : ∀ step, Near t.skew (seconds.toNat / stepSeconds) step →
      t.codeAt secret (.ofNat (stepSeconds * step)) = .ok (stepCode key step) := fun step hnear =>
    codeAt_start hissuer h (Nat.lt_of_le_of_lt (Nat.mul_le_mul_left _ hnear.2) hlast)
  have hiff : (∃ step, Near t.skew (seconds.toNat / stepSeconds) step ∧
        t.codeAt secret (.ofNat (stepSeconds * step)) = .ok code) ↔
      ∃ step, Near t.skew (seconds.toNat / stepSeconds) step ∧ stepCode key step = code :=
    exists_congr fun step => and_congr_right fun hnear => by
      rw [hcodes step hnear, Except.ok.injEq]
  rw [hiff]
  by_cases hcode : SixDigits code
  · rw [validateAt_of_sixDigits hcode, key_of_usable hissuer h]
    exact ⟨_, rfl, accepts_iff hfirst hlast⟩
  · refine ⟨false, validateAt_of_not_sixDigits hcode, ?_⟩
    constructor
    · intro hfalse
      cases hfalse
    · rintro ⟨step, -, rfl⟩
      exact absurd (sixDigits_stepCode key step) hcode

/-- **The window of accepted codes is exact.**  With a secret of enough bytes a text is accepted
exactly if it is the code of a step that is at most `skew` away from the current one, as long as
these steps are not before step 0 and start at seconds that are words.  A code depends on the step
alone; it has six digits, which are those of its number with zeros in front; and it is accepted
for as long as its step is near.  A text that has not six digits is refused whatever the secret,
and one that has is an error if the secret cannot be used. -/
theorem validateAt_window (t : Totp) (hissuer : ':' ∉ t.issuer.toList) (secret : String) :
    (∀ key, Usable secret key →
      (∀ (code : String) (seconds : UInt64), t.skew ≤ seconds.toNat / stepSeconds →
        stepSeconds * (seconds.toNat / stepSeconds + t.skew) < UInt64.size →
        ∃ accepted, t.validateAt secret code seconds = .ok accepted ∧
          (accepted = true ↔ ∃ step, Near t.skew (seconds.toNat / stepSeconds) step ∧
            t.codeAt secret (.ofNat (stepSeconds * step)) = .ok code)) ∧
      (∀ seconds seconds' : UInt64,
        seconds.toNat / stepSeconds = seconds'.toNat / stepSeconds →
        t.codeAt secret seconds = t.codeAt secret seconds') ∧
      (∀ seconds : UInt64, ∃ code, t.codeAt secret seconds = .ok code ∧ SixDigits code ∧
        Nat.ofDigitChars 10 code.toList 0 =
          stepNumber key (seconds.toNat / stepSeconds) % Nat.pow 10 digits) ∧
      (∀ seconds seconds' : UInt64, t.skew ≤ seconds.toNat / stepSeconds →
        stepSeconds * (seconds.toNat / stepSeconds + t.skew) < UInt64.size →
        Near t.skew (seconds.toNat / stepSeconds) (seconds'.toNat / stepSeconds) →
        ∃ code, t.codeAt secret seconds' = .ok code ∧
          t.validateAt secret code seconds = .ok true)) ∧
    (∀ code seconds, ¬ SixDigits code → t.validateAt secret code seconds = .ok false) ∧
    (∀ code seconds, SixDigits code → (∀ key, ¬ Usable secret key) →
      ∃ e, t.validateAt secret code seconds = .error e) := by
  refine ⟨fun key hkey => ⟨fun code seconds hfirst hlast => ?exact,
    fun seconds seconds' hstep => ?step, fun seconds => ?digits,
    fun seconds seconds' hfirst hlast hnear => ?near⟩,
    fun code seconds hcode => validateAt_of_not_sixDigits hcode, fun code seconds hcode hkey => ?_⟩
  case exact => exact validateAt_of_usable hissuer hkey hfirst hlast code
  case step =>
    rw [codeAt_of_usable hissuer hkey, codeAt_of_usable hissuer hkey, keyCode, keyCode,
      toNat_stepOf, toNat_stepOf, hstep]
  case digits =>
    refine ⟨_, codeAt_of_usable hissuer hkey, sixDigits_keyCode key seconds, ?_⟩
    rw [keyCode, toNat_stepOf, ofDigitChars_stepCode]
  case near =>
    obtain ⟨accepted, hvalid, hiff⟩ := validateAt_of_usable hissuer hkey hfirst hlast
      (keyCode key seconds')
    have hstart : t.codeAt secret (.ofNat (stepSeconds * (seconds'.toNat / stepSeconds))) =
        .ok (keyCode key seconds') := by
      rw [codeAt_start hissuer hkey (stepSeconds_mul_stepOf_lt seconds'), keyCode, toNat_stepOf]
    obtain rfl : accepted = true := hiff.2 ⟨_, hnear, hstart⟩
    exact ⟨_, codeAt_of_usable hissuer hkey, hvalid⟩
  · obtain ⟨e, he⟩ := key_of_not_usable (t := t) hkey
    rw [validateAt_of_sixDigits hcode, he]
    exact ⟨e, rfl⟩

/-- Just before a new step the code of that step is accepted, if one step around is. -/
theorem validateAt_window_next : ∃ code, (⟨"Accounts", 1⟩ : Totp).codeAt
      (String.ofList (List.replicate 32 'A')) 60 = .ok code ∧
    (⟨"Accounts", 1⟩ : Totp).validateAt (String.ofList (List.replicate 32 'A')) code 59 =
      .ok true := by
  have hissuer : ':' ∉ (⟨"Accounts", 1⟩ : Totp).issuer.toList := by decide
  have hkey : Usable (String.ofList (List.replicate 32 'A')) (List.replicate 20 0) := by
    decide +kernel
  exact ((validateAt_window _ hissuer _).1 _ hkey).2.2.2 59 60 (by decide) (by decide) (by decide)

end Accounts.Otp
