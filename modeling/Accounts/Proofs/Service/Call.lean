import Accounts.Operation.Enrolment
import Accounts.Operation.Passwords
import Accounts.Operation.Registration
import Accounts.Proofs.Operation.Login
import Accounts.Token.Signed
/-!
# Calls of the services

The three services offer the operations as calls.  What is random in a call, that is
the names and the codes that it hands out and the salt of a password, belongs to the
call, and so does the instant at which it is made.

A call asks for few things only, and it asks for each only after it saw what makes
it right to ask.  `Call.Justifies` lists this for every request to the directory.
-/

namespace Accounts

open Outbox (NewEnvelope)

/-- What the services are set up with. -/
structure Service where
  /-- How logins work. -/
  policy : LoginPolicy
  /-- How many recovery codes are handed out at a time. -/
  recoveryCodes : Nat
  /-- Who signed the tokens that are read. -/
  issuer : Token.Issuer

/-- A call of one of the services. -/
inductive Call
  /-- Makes an account. -/
  | register (request : RegisterRequest) (account : Operation.NewAccount)
  /-- Activates an account. -/
  | activate (code : String) (now : Instant)
  /-- Gives an account a reset code. -/
  | requestPasswordReset (request : PasswordResetRequest) (code : String) (now : Instant)
  /-- Sets a password with a reset code. -/
  | resetPassword (request : ResetPasswordRequest) (salt : List UInt8) (now : Instant)
  /-- Sets a password with a token. -/
  | changePassword (claims : Claims) (request : ChangePasswordRequest) (salt : List UInt8)
      (now : Instant)
  /-- Shows an account. -/
  | profile (claims : Claims)
  /-- The first step of a login. -/
  | authenticate (request : CredentialRequest) (now : Instant)
  /-- The second step of a login. -/
  | authenticateTwoFa (claims : Claims) (request : TwoFaCodeRequest) (now : Instant)
  /-- Reads a token. -/
  | parseToken (token : String) (second : Int)
  /-- The first step of an enrolment. -/
  | enableStep1 (claims : Claims)
  /-- The second step of an enrolment. -/
  | enableStep2 (claims : Claims) (request : TwoFaCodeRequest)
  /-- Ends an enrolment. -/
  | disable (claims : Claims)

namespace Call

open Operation (Trace)

/-- What a call that succeeds replies. -/
def Result : Call → Type
  | register _ _ | profile _ => User
  | activate _ _ | requestPasswordReset _ _ _ | resetPassword _ _ _ | changePassword _ _ _ _
  | disable _ => Unit
  | authenticate _ _ => AuthToken
  | authenticateTwoFa _ _ _ => Option AuthToken
  | parseToken _ _ => Claims
  | enableStep1 _ => Otp.OtpSetup
  | enableStep2 _ _ => List String

/-- The names and the codes that were made up for a call. -/
def madeUp : Call → List String
  | register _ a => [a.publicId, a.activationCode]
  | requestPasswordReset _ code _ => [code]
  | _ => []

/-- What a call saw before it makes a request to the directory, and what the request
says. -/
def Justifies (call : Call) (t : Trace) : DirectoryCall → Prop
  | .create n events => ∃ r a, call = register r a ∧ t = [] ∧ n = Operation.newUser r a ∧
      events = (registrationEvents n).map AccountEvent.envelope
  | .activate code now events => ∃ u, t = [.users (.findByActivationCode code) (.ok (some u))] ∧
      events = [(AccountEvent.changed (.ofUser (Operation.activated u now))).envelope]
  | .setResetCode id code _ events => ∃ email u, t = [.users (.findByEmail email) (.ok (some u))] ∧
      id = u.id ∧ events = [(AccountEvent.resetPassword
        { publicId := u.publicId, email := u.email, resetPasswordCode := code }).envelope]
  | .enableOtp _ _ codes => ∃ count, .otp (.recoveryCodes count) (.ok codes) ∈ t
  | .consumeRecoveryCode _ code => ∃ claims now, call = authenticateTwoFa claims ⟨code⟩ now
  | _ => True

end Call

namespace Service

open Operation (Trace)

/-- The operation of a call. -/
def operation (s : Service) : (c : Call) → Operation c.Result
  | .register r a => Operation.register r a
  | .activate code now => Operation.activate code now
  | .requestPasswordReset r code now => Operation.requestPasswordReset r code now
  | .resetPassword r salt now => Operation.resetPassword r salt now
  | .changePassword claims r salt now => Operation.changePassword claims r salt now
  | .profile claims => Operation.profile claims
  | .authenticate r now => Operation.authenticate s.policy r now
  | .authenticateTwoFa claims r now => Operation.authenticateTwoFa s.policy claims r now
  | .parseToken token second => Operation.ofExcept (s.issuer.parse second token)
  | .enableStep1 claims => Operation.enableStep1 claims
  | .enableStep2 claims r => Operation.enableStep2 s.recoveryCodes claims r
  | .disable claims => Operation.disable claims

end Service

/-! ## What calls ask the directory -/

section Requests

open Operation

variable {β : Type} {t : Trace} {q : serviceSurroundings.Query} {c : DirectoryCall}
  {claims : Claims} {now : Instant}

theorem asks_profile_bind {f : User → Operation β} (h : (profile claims >>= f).Asks t q) :
    (t = [] ∧ q = .users (.findByPublicId claims.sub)) ∨
      ∃ u t', t = .users (.findByPublicId claims.sub) (.ok (some u)) :: t' ∧ (f u).Asks t' q := by
  rw [profile, bind_assoc] at h
  obtain ⟨_, -, h₁⟩ := asks_ofExcept_bind.1 h
  rw [bind_assoc] at h₁
  rcases asks_users_bind.1 h₁ with h₂ | ⟨o, t₂, rfl, h₂⟩
  · exact .inl h₂
  · obtain ⟨u, rfl, h₃⟩ := asks_orFail_bind.1 h₂
    exact .inr ⟨u, t₂, rfl, h₃⟩

theorem asks_register {r : RegisterRequest} {a : NewAccount} (h : (register r a).Asks t q) :
    t = [] ∧ q = .users (.create (newUser r a)
      ((registrationEvents (newUser r a)).map AccountEvent.envelope)) := by
  obtain ⟨-, h₁⟩ := asks_validate_bind.1 h
  exact asks_users.1 h₁

theorem asks_activate {code : String} (h : (activate code now).Asks t q) :
    (t = [] ∧ q = .users (.findByActivationCode code)) ∨
      ∃ u, t = [.users (.findByActivationCode code) (.ok (some u))] ∧
        q = .users (.activate code now
          [(AccountEvent.changed (.ofUser (activated u now))).envelope]) := by
  rcases asks_users_bind.1 h with h₁ | ⟨o, t₁, rfl, h₁⟩
  · exact .inl h₁
  · obtain ⟨u, rfl, h₂⟩ := asks_orFail_bind.1 h₁
    rcases asks_users_bind.1 h₂ with ⟨rfl, rfl⟩ | ⟨fits, t₃, -, h₃⟩
    · exact .inr ⟨u, rfl, rfl⟩
    · exact (asks_ensure h₃).elim

theorem asks_requestPasswordReset {r : PasswordResetRequest} {code : String}
    (h : (requestPasswordReset r code now).Asks t q) :
    (t = [] ∧ q = .users (.findByEmail (Text.trim r.email))) ∨
      ∃ u, t = [.users (.findByEmail (Text.trim r.email)) (.ok (some u))] ∧
        q = .users (.setResetCode u.id code now [(AccountEvent.resetPassword
          { publicId := u.publicId, email := u.email, resetPasswordCode := code }).envelope]) := by
  obtain ⟨-, h₁⟩ := asks_validate_bind.1 h
  rcases asks_users_bind.1 h₁ with h₂ | ⟨o, t₂, rfl, h₂⟩
  · exact .inl h₂
  · cases o with
    | none => exact (asks_pure h₂).elim
    | some u =>
        obtain ⟨rfl, rfl⟩ := asks_users.1 h₂
        exact .inr ⟨u, rfl, rfl⟩

theorem asks_resetPassword {r : ResetPasswordRequest} {salt : List UInt8}
    (h : (resetPassword r salt now).Asks t q) :
    q = .users (.resetPassword r.resetCode (Password.hash r.password salt) now) := by
  obtain ⟨-, h₁⟩ := asks_validate_bind.1 h
  rcases asks_users_bind.1 h₁ with ⟨-, h₂⟩ | ⟨fits, t₂, -, h₂⟩
  · exact h₂
  · exact (asks_ensure h₂).elim

theorem asks_enableStep2 {count : Nat} {r : TwoFaCodeRequest}
    (h : (enableStep2 count claims r).Asks t q) :
    q = .users (.findByPublicId claims.sub) ∨ (∃ o, q = .otp o) ∨
      ∃ id secret codes, q = .users (.enableOtp id secret codes) ∧
        .otp (.recoveryCodes count) (.ok codes) ∈ t := by
  rcases asks_profile_bind h with ⟨-, h₁⟩ | ⟨u, t₁, rfl, h₁⟩
  · exact .inl h₁
  obtain ⟨-, h₂⟩ := asks_ensure_bind.1 h₁
  obtain ⟨secret, -, h₃⟩ := asks_orFail_bind.1 h₂
  rcases asks_otp_bind.1 h₃ with ⟨-, h₄⟩ | ⟨fits, t₄, rfl, h₄⟩
  · exact .inr (.inl ⟨_, h₄⟩)
  obtain ⟨-, h₅⟩ := asks_ensure_bind.1 h₄
  rcases asks_otp_bind.1 h₅ with ⟨-, h₆⟩ | ⟨codes, t₆, rfl, h₆⟩
  · exact .inr (.inl ⟨_, h₆⟩)
  rcases asks_users_bind.1 h₆ with ⟨rfl, rfl⟩ | ⟨fits, t₇, rfl, h₇⟩
  · exact .inr (.inr ⟨u.id, secret, codes, rfl, by simp⟩)
  · obtain ⟨-, h₈⟩ := asks_ensure_bind.1 h₇
    exact (asks_pure h₈).elim

/-- Every request to the directory is justified. -/
theorem Service.justifies {s : Service} {call : Call}
    (h : (s.operation call).Asks t (.users c)) : call.Justifies t c := by
  cases call with
  | register r a =>
      obtain ⟨rfl, hq⟩ := asks_register h
      cases hq
      exact ⟨r, a, rfl, rfl, rfl, rfl⟩
  | activate code now =>
      rcases asks_activate h with ⟨-, hq⟩ | ⟨u, rfl, hq⟩
      · cases hq
        trivial
      · cases hq
        exact ⟨u, rfl, rfl⟩
  | requestPasswordReset r code now =>
      rcases asks_requestPasswordReset h with ⟨-, hq⟩ | ⟨u, rfl, hq⟩
      · cases hq
        trivial
      · cases hq
        exact ⟨_, u, rfl, rfl, rfl⟩
  | resetPassword r salt now =>
      cases asks_resetPassword h
      trivial
  | changePassword claims r salt now =>
      rcases asks_profile_bind h with ⟨-, hq⟩ | ⟨u, t₁, -, h₁⟩
      · cases hq
        trivial
      · obtain ⟨-, h₂⟩ := asks_validate_bind.1 h₁
        cases (asks_users.1 h₂).2
        trivial
  | profile claims =>
      obtain ⟨_, -, h₁⟩ := asks_ofExcept_bind.1 h
      rcases asks_users_bind.1 h₁ with ⟨-, hq⟩ | ⟨o, t₂, -, h₂⟩
      · cases hq
        trivial
      · exact (asks_orFail h₂).elim
  | authenticate r now =>
      cases asks_authenticate h
      trivial
  | authenticateTwoFa claims r now =>
      rcases asks_authenticateTwoFa h with ⟨-, hq⟩ | ⟨u, t₁, -, ⟨_, -, -, hq⟩ | ⟨-, hq⟩ | ⟨-, hq⟩⟩
      · cases hq
        trivial
      · cases hq
      · cases hq
        exact ⟨claims, now, rfl⟩
      · cases hq
  | parseToken token second => exact (asks_ofExcept h).elim
  | enableStep1 claims =>
      rcases asks_profile_bind h with ⟨-, hq⟩ | ⟨u, t₁, -, h₁⟩
      · cases hq
        trivial
      · rcases asks_otp_bind.1 h₁ with ⟨-, hq⟩ | ⟨setup, t₂, -, h₂⟩
        · cases hq
        · rcases asks_users_bind.1 h₂ with ⟨-, hq⟩ | ⟨_, t₃, -, h₃⟩
          · cases hq
            trivial
          · exact (asks_pure h₃).elim
  | enableStep2 claims r =>
      rcases asks_enableStep2 h with hq | ⟨o, hq⟩ | ⟨id, secret, codes, hq, hc⟩
      · cases hq
        trivial
      · cases hq
      · cases hq
        exact ⟨_, hc⟩
  | disable claims =>
      rcases asks_profile_bind h with ⟨-, hq⟩ | ⟨u, t₁, -, h₁⟩
      · cases hq
        trivial
      · cases (asks_users.1 h₁).2
        trivial

end Requests

end Accounts
