import Accounts.Operation.Login
import Accounts.Proofs.Operation.Trace
/-!
# Traces of logins

The questions of the two steps of a login, in their order, and what the replies have
to be for a token to result.
-/

namespace Accounts.Operation

variable {β : Type} {t : Trace} {q : serviceSurroundings.Query} {tok : AuthToken} {u : User}
  {p : LoginPolicy} {claims : Claims} {now : Instant}

section Issue

variable {scope : Scope} {ttl : Span} {twoFa : Bool}

/-- A token says what it was asked for, and it is asked for once. -/
theorem issue_bind {f : AuthToken → Operation β} : (issue u scope now ttl twoFa >>= f) =
    sign (claimsFor u scope now ttl) >>= fun s =>
      f ⟨s, (claimsFor u scope now ttl).expiresAt, twoFa⟩ := by
  rw [issue, bind_assoc]
  rfl

theorem ends_issue_ok (h : (issue u scope now ttl twoFa).Ends t (.ok tok)) :
    ∃ s, t = [.sign (claimsFor u scope now ttl) (.ok s)] ∧
      tok = ⟨s, (claimsFor u scope now ttl).expiresAt, twoFa⟩ := by
  obtain ⟨s, t₁, rfl, h₁⟩ := ends_sign_bind_ok h
  obtain ⟨rfl, hs⟩ := ends_pure.1 h₁
  cases hs
  exact ⟨s, rfl, rfl⟩

theorem asks_issue (h : (issue u scope now ttl twoFa).Asks t q) :
    t = [] ∧ q = .sign (claimsFor u scope now ttl) := by
  rcases asks_sign_bind.1 h with h₁ | ⟨s, t₁, rfl, h₁⟩
  · exact h₁
  · exact (asks_pure h₁).elim

end Issue

/-! ## The first step -/

/-- The first step takes the right password of an active account. -/
theorem ends_authenticate_ok {r : CredentialRequest}
    (h : (authenticate p r now).Ends t (.ok tok)) :
    ∃ u scope ttl s, Password.verify r.password u.passwordHash = .ok true ∧ u.isActive = true ∧
      t = [.users (.findByEmail r.email) (.ok (some u)),
        .sign (claimsFor u scope now ttl) (.ok s)] ∧
      tok = ⟨s, (claimsFor u scope now ttl).expiresAt, p.otpEnabled && u.otpEnabled⟩ ∧
      if p.otpEnabled && u.otpEnabled then scope = .twoFaCheck ∧ ttl = p.twoFaTtl
      else scope = .user ∧ ttl = p.sessionTtl := by
  obtain ⟨-, h₁⟩ := ends_validate_bind_ok h
  obtain ⟨o, t₂, rfl, h₂⟩ := ends_users_bind_ok h₁
  obtain ⟨u, rfl, h₃⟩ := ends_orFail_bind_ok h₂
  obtain ⟨fits, hv, h₄⟩ := ends_ofExcept_bind_ok h₃
  obtain ⟨hb, h₅⟩ := ends_ensure_bind_ok h₄
  obtain ⟨rfl, ha⟩ := Bool.and_eq_true_iff.1 hb
  split at h₅
  · next ho =>
      obtain ⟨s, rfl, rfl⟩ := ends_issue_ok h₅
      refine ⟨u, .twoFaCheck, p.twoFaTtl, s, hv, ha, rfl, by rw [ho], ?_⟩
      rw [if_pos ho]
      exact ⟨rfl, rfl⟩
  · next ho =>
      obtain ⟨s, rfl, rfl⟩ := ends_issue_ok h₅
      refine ⟨u, .user, p.sessionTtl, s, hv, ha, rfl, by rw [eq_false_of_ne_true ho], ?_⟩
      rw [if_neg ho]
      exact ⟨rfl, rfl⟩

/-- The first step changes nobody. -/
theorem asks_authenticate {r : CredentialRequest} {c : DirectoryCall}
    (h : (authenticate p r now).Asks t (.users c)) : c = .findByEmail r.email := by
  obtain ⟨-, h₁⟩ := asks_validate_bind.1 h
  rcases asks_users_bind.1 h₁ with ⟨-, hq⟩ | ⟨o, t₂, rfl, h₂⟩
  · cases hq
    rfl
  · obtain ⟨u, rfl, h₃⟩ := asks_orFail_bind.1 h₂
    obtain ⟨fits, -, h₄⟩ := asks_ofExcept_bind.1 h₃
    obtain ⟨-, h₅⟩ := asks_ensure_bind.1 h₄
    split at h₅
    · cases (asks_issue h₅).2
    · cases (asks_issue h₅).2

/-! ## The second step -/

/-- What is asked before a recovery code is tried: the code is not a current one. -/
def rejected (u : User) (code : String) : Trace :=
  match u.otpSecret with
  | some secret => [.otp (.validate secret code) (.ok false)]
  | none => []

/-- How a code passes as the second factor of a user. -/
inductive Passed (u : User) (code : String) : Trace → Prop
  /-- It is a current code of the secret. -/
  | current {secret : String} (h : u.otpSecret = some secret) :
      Passed u code [.otp (.validate secret code) (.ok true)]
  /-- It is a recovery code, which is used up. -/
  | recovery : Passed u code
      (rejected u code ++ [.users (.consumeRecoveryCode u.id code) (.ok true)])

theorem length_rejected_le (u : User) (code : String) : (rejected u code).length ≤ 1 := by
  unfold rejected
  cases u.otpSecret with
  | none => exact Nat.zero_le 1
  | some secret => exact Nat.le_refl 1

/-- A code passes after at most two questions. -/
theorem Passed.length_le {code : String} {factor : Trace} (h : Passed u code factor) :
    factor.length ≤ 2 := by
  cases h with
  | current => simp
  | recovery =>
      have := length_rejected_le u code
      simp only [List.length_append, List.length_singleton]
      omega

/-- Only an account with a secret has current codes. -/
theorem isCurrentCode_cases (u : User) (code : String) :
    (u.otpSecret = none ∧ rejected u code = [] ∧ isCurrentCode u code = pure false) ∨
      ∃ secret, u.otpSecret = some secret ∧
        rejected u code = [.otp (.validate secret code) (.ok false)] ∧
        isCurrentCode u code = otp (.validate secret code) := by
  unfold isCurrentCode rejected
  cases u.otpSecret with
  | none => exact .inl ⟨rfl, rfl, rfl⟩
  | some secret => exact .inr ⟨secret, rfl, rfl, rfl⟩

theorem users_notMem_rejected {code : String} {c : DirectoryCall}
    {o : Except AccountError c.Result} : .users c o ∉ rejected u code := by
  unfold rejected
  cases u.otpSecret with
  | none => exact List.not_mem_nil
  | some secret =>
      intro h
      cases List.mem_singleton.1 h

section SecondFactor

variable {code : String} {e : AccountError} {f : Unit → Operation β}

/-- The part that checks the second factor, with something after it. -/
abbrev secondFactorThen (u : User) (code : String) (e : AccountError) (f : Unit → Operation β) :
    Operation β :=
  isCurrentCode u code >>= fun current =>
    if !current then users (.consumeRecoveryCode u.id code) >>= fun used => ensure used e >>= f
    else f ()

theorem ends_secondFactor_ok {b : β} (h : (secondFactorThen u code e f).Ends t (.ok b)) :
    ∃ factor t', t = factor ++ t' ∧ Passed u code factor ∧ (f ()).Ends t' (.ok b) := by
  rcases isCurrentCode_cases u code with ⟨-, hr, hc⟩ | ⟨secret, hs, hr, hc⟩
  · rw [secondFactorThen, hc] at h
    obtain ⟨used, t₁, rfl, h₁⟩ := ends_users_bind_ok h
    obtain ⟨rfl, h₂⟩ := ends_ensure_bind_ok h₁
    exact ⟨_, t₁, by rw [hr]; rfl, .recovery, h₂⟩
  · rw [secondFactorThen, hc] at h
    obtain ⟨current, t₁, rfl, h₁⟩ := ends_otp_bind_ok h
    cases current with
    | true => exact ⟨_, t₁, rfl, .current hs, h₁⟩
    | false =>
        obtain ⟨used, t₂, rfl, h₂⟩ := ends_users_bind_ok h₁
        obtain ⟨rfl, h₃⟩ := ends_ensure_bind_ok h₂
        exact ⟨_, t₂, by rw [hr]; rfl, .recovery, h₃⟩

theorem asks_secondFactor (h : (secondFactorThen u code e f).Asks t q) :
    (∃ secret, u.otpSecret = some secret ∧ t = [] ∧ q = .otp (.validate secret code)) ∨
    (t = rejected u code ∧ q = .users (.consumeRecoveryCode u.id code)) ∨
    ∃ factor t', t = factor ++ t' ∧ Passed u code factor ∧ (f ()).Asks t' q := by
  rcases isCurrentCode_cases u code with ⟨-, hr, hc⟩ | ⟨secret, hs, hr, hc⟩
  · rw [secondFactorThen, hc] at h
    rcases asks_users_bind.1 h with ⟨rfl, rfl⟩ | ⟨used, t₁, rfl, h₁⟩
    · exact .inr (.inl ⟨hr.symm, rfl⟩)
    · obtain ⟨rfl, h₂⟩ := asks_ensure_bind.1 h₁
      exact .inr (.inr ⟨_, t₁, by rw [hr]; rfl, .recovery, h₂⟩)
  · rw [secondFactorThen, hc] at h
    rcases asks_otp_bind.1 h with ⟨rfl, rfl⟩ | ⟨current, t₁, rfl, h₁⟩
    · exact .inl ⟨secret, hs, rfl, rfl⟩
    · cases current with
      | true => exact .inr (.inr ⟨_, t₁, rfl, .current hs, h₁⟩)
      | false =>
          rcases asks_users_bind.1 h₁ with ⟨rfl, rfl⟩ | ⟨used, t₂, rfl, h₂⟩
          · exact .inr (.inl ⟨hr.symm, rfl⟩)
          · obtain ⟨rfl, h₃⟩ := asks_ensure_bind.1 h₂
            exact .inr (.inr ⟨_, t₂, by rw [hr]; rfl, .recovery, h₃⟩)

end SecondFactor

theorem hasScope_of_require {scope : Scope} (h : claims.require scope = .ok ()) :
    claims.hasScope scope = true := by
  unfold Claims.require at h
  split at h
  · assumption
  · cases h

/-- The second step takes the right claims, an active account and a code. -/
theorem ends_authenticateTwoFa_ok {r : TwoFaCodeRequest}
    (h : (authenticateTwoFa p claims r now).Ends t (.ok (some tok))) :
    ∃ u s factor, p.otpEnabled = true ∧ claims.hasScope .twoFaCheck = true ∧ u.isActive = true ∧
      t = .users (.findByPublicId claims.sub) (.ok (some u)) ::
        (factor ++ [.sign (claimsFor u .user now p.sessionTtl) (.ok s)]) ∧
      Passed u r.code factor ∧
      tok = ⟨s, (claimsFor u .user now p.sessionTtl).expiresAt, false⟩ := by
  unfold authenticateTwoFa at h
  split at h
  · cases (ends_pure.1 h).2
  next ho =>
  rw [Bool.not_eq_true, Bool.not_eq_false'] at ho
  obtain ⟨_, hscope, h₁⟩ := ends_ofExcept_bind_ok h
  obtain ⟨-, h₂⟩ := ends_ensure_bind_ok h₁
  obtain ⟨o, t₃, rfl, h₃⟩ := ends_users_bind_ok h₂
  obtain ⟨u, rfl, h₄⟩ := ends_orFail_bind_ok h₃
  obtain ⟨ha, h₅⟩ := ends_ensure_bind_ok h₄
  obtain ⟨factor, t₆, rfl, hf, h₆⟩ := ends_secondFactor_ok h₅
  rw [issue_bind] at h₆
  obtain ⟨s, t₇, rfl, h₇⟩ := ends_sign_bind_ok h₆
  obtain ⟨rfl, hs⟩ := ends_pure.1 h₇
  cases hs
  exact ⟨u, s, factor, ho, hasScope_of_require hscope, ha, rfl, hf, rfl⟩

/-- What the second step asks, in its order. -/
theorem asks_authenticateTwoFa {r : TwoFaCodeRequest}
    (h : (authenticateTwoFa p claims r now).Asks t q) :
    (t = [] ∧ q = .users (.findByPublicId claims.sub)) ∨
    ∃ u t', t = .users (.findByPublicId claims.sub) (.ok (some u)) :: t' ∧
      ((∃ secret, u.otpSecret = some secret ∧ t' = [] ∧ q = .otp (.validate secret r.code)) ∨
      (t' = rejected u r.code ∧ q = .users (.consumeRecoveryCode u.id r.code)) ∨
      (Passed u r.code t' ∧ q = .sign (claimsFor u .user now p.sessionTtl))) := by
  unfold authenticateTwoFa at h
  split at h
  · exact (asks_pure h).elim
  obtain ⟨_, -, h₁⟩ := asks_ofExcept_bind.1 h
  obtain ⟨-, h₂⟩ := asks_ensure_bind.1 h₁
  rcases asks_users_bind.1 h₂ with h₃ | ⟨o, t₃, rfl, h₃⟩
  · exact .inl h₃
  obtain ⟨u, rfl, h₄⟩ := asks_orFail_bind.1 h₃
  obtain ⟨-, h₅⟩ := asks_ensure_bind.1 h₄
  refine .inr ⟨u, t₃, rfl, ?_⟩
  rcases asks_secondFactor h₅ with h₆ | h₆ | ⟨factor, t₆, rfl, hf, h₆⟩
  · exact .inl h₆
  · exact .inr (.inl h₆)
  · rw [issue_bind] at h₆
    rcases asks_sign_bind.1 h₆ with ⟨rfl, rfl⟩ | ⟨s, t₇, rfl, h₇⟩
    · exact .inr (.inr ⟨by rwa [List.append_nil], rfl⟩)
    · exact (asks_pure h₇).elim

/-! ## The second step in calm surroundings -/

/-- The surroundings of the second step are calm: the account is there and active, the
code is not a current one, and nothing fails. -/
structure Calm (sub code : String) (t : Trace) : Prop where
  /-- The account is there and active. -/
  found : ∀ {o}, .users (.findByPublicId sub) o ∈ t → ∃ u, o = .ok (some u) ∧ u.isActive = true
  /-- The code is not a current one. -/
  rejected : ∀ {secret o}, .otp (.validate secret code) o ∈ t → o = .ok false
  /-- Trying a recovery code does not fail. -/
  tried : ∀ {id o}, .users (.consumeRecoveryCode id code) o ∈ t → ∃ used, o = .ok used
  /-- Signing does not fail. -/
  signed : ∀ {c o}, .sign c o ∈ t → ∃ token, o = .ok token

theorem Calm.tail {sub code : String} {x : Exchange serviceSurroundings}
    (h : Calm sub code (x :: t)) : Calm sub code t where
  found hx := h.found (List.mem_cons_of_mem x hx)
  rejected hx := h.rejected (List.mem_cons_of_mem x hx)
  tried hx := h.tried (List.mem_cons_of_mem x hx)
  signed hx := h.signed (List.mem_cons_of_mem x hx)

section Calm

variable {sub code : String} {e : AccountError} {f : Unit → Operation β} {x : Except AccountError β}

theorem ends_recovery_of_calm (hc : Calm sub code t)
    (h : (users (.consumeRecoveryCode u.id code) >>= fun used => ensure used e >>= f).Ends t x) :
    (∃ t', t = .users (.consumeRecoveryCode u.id code) (.ok true) :: t' ∧ (f ()).Ends t' x) ∨
      (t = [.users (.consumeRecoveryCode u.id code) (.ok false)] ∧ x = .error e) := by
  rcases ends_users_bind.1 h with ⟨used, t₁, rfl, h₁⟩ | ⟨e, rfl, -⟩
  · rcases ends_ensure_bind.1 h₁ with ⟨rfl, h₂⟩ | ⟨rfl, rfl, hx⟩
    · exact .inl ⟨t₁, rfl, h₂⟩
    · exact .inr ⟨rfl, hx⟩
  · obtain ⟨used, hused⟩ := hc.tried List.mem_cons_self
    cases hused

theorem ends_secondFactor_of_calm (hc : Calm sub code t)
    (h : (secondFactorThen u code e f).Ends t x) :
    (∃ t', t = rejected u code ++ .users (.consumeRecoveryCode u.id code) (.ok true) :: t' ∧
      (f ()).Ends t' x) ∨
    (t = rejected u code ++ [.users (.consumeRecoveryCode u.id code) (.ok false)] ∧
      x = .error e) := by
  rcases isCurrentCode_cases u code with ⟨-, hr, hcur⟩ | ⟨secret, hs, hr, hcur⟩
  · rw [secondFactorThen, hcur] at h
    rw [hr]
    exact ends_recovery_of_calm hc h
  · rw [secondFactorThen, hcur] at h
    rcases ends_otp_bind.1 h with ⟨current, t₁, rfl, h₁⟩ | ⟨e, rfl, -⟩
    · cases hc.rejected List.mem_cons_self
      rw [hr]
      rcases ends_recovery_of_calm hc.tail h₁ with ⟨t₂, rfl, h₂⟩ | ⟨rfl, hx⟩
      · exact .inl ⟨t₂, rfl, h₂⟩
      · exact .inr ⟨rfl, hx⟩
    · cases hc.rejected List.mem_cons_self

end Calm

/-- In calm surroundings the recovery code decides. -/
theorem ends_authenticateTwoFa_of_calm {r : TwoFaCodeRequest}
    {x : Except AccountError (Option AuthToken)} (ho : p.otpEnabled = true)
    (hscope : claims.hasScope .twoFaCheck = true) (hr : r.faults = [])
    (hc : Calm claims.sub r.code t) (h : (authenticateTwoFa p claims r now).Ends t x) :
    ∃ u, (∃ s tok, x = .ok (some tok) ∧
      t = .users (.findByPublicId claims.sub) (.ok (some u)) :: (rejected u r.code ++
        [.users (.consumeRecoveryCode u.id r.code) (.ok true),
          .sign (claimsFor u .user now p.sessionTtl) (.ok s)])) ∨
    (x = .error .invalidOtpCode ∧
      t = .users (.findByPublicId claims.sub) (.ok (some u)) :: (rejected u r.code ++
        [.users (.consumeRecoveryCode u.id r.code) (.ok false)])) := by
  have hreq : claims.require .twoFaCheck = .ok () := by rw [Claims.require, if_pos hscope]
  unfold authenticateTwoFa at h
  rw [ho, hreq, hr] at h
  rcases ends_users_bind.1 h with ⟨o, t₁, rfl, h₁⟩ | ⟨e, rfl, -⟩
  · obtain ⟨u, hu, ha⟩ := hc.found List.mem_cons_self
    cases hu
    refine ⟨u, ?_⟩
    rcases ends_ensure_bind.1 h₁ with ⟨-, h₂⟩ | ⟨hn, -, -⟩
    · rcases ends_secondFactor_of_calm hc.tail h₂ with ⟨t₃, rfl, h₃⟩ | ⟨rfl, hx⟩
      · rw [issue_bind] at h₃
        rcases ends_sign_bind.1 h₃ with ⟨s, t₄, rfl, h₄⟩ | ⟨e, rfl, -⟩
        · obtain ⟨rfl, rfl⟩ := ends_pure.1 h₄
          exact .inl ⟨s, _, rfl, rfl⟩
        · obtain ⟨token, htoken⟩ :=
            hc.signed (c := claimsFor u .user now p.sessionTtl) (o := .error e) (by simp)
          cases htoken
      · exact .inr ⟨hx, rfl⟩
    · cases hn.symm.trans ha
  · obtain ⟨u, hu, -⟩ := hc.found List.mem_cons_self
    cases hu

end Accounts.Operation
