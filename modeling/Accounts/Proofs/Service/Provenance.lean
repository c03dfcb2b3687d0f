import Accounts.Proofs.Service.RecoveryCodes
import Accounts.Proofs.Token.Lifetime
/-!
# Where tokens come from

Three ways lead to a token.  A password alone gives one that is good for everything,
unless the account has a second factor and anyone is asked for one; then the password
gives a token for the second step, and the second step gives the one that is good for
everything.

Every token says whose it is by what the directory replied at the start of the call
that handed it out, so `Provenance` is read off the trace of this call.
-/

namespace Accounts

open Operation (Trace)

/-! ## Tokens -/

namespace Call

/-- The token that a call hands out with its result, if it hands out one. -/
def token? : (c : Call) → c.Result → Option AuthToken
  | authenticate _ _, tok => some tok
  | authenticateTwoFa _ _ _, tok => tok
  | _, _ => none

/-- The instant at which a call is made, if it matters. -/
def instant? : Call → Option Instant
  | register _ a => some a.now
  | activate _ now | requestPasswordReset _ _ now | resetPassword _ _ now
  | changePassword _ _ _ now | authenticate _ now | authenticateTwoFa _ _ now => some now
  | _ => none

end Call

/-- A token says what the claims say, which are those of a user. -/
structure AuthToken.Attests (tok : AuthToken) (issued : Claims) (u : User) (scope : Scope)
    (now : Instant) (ttl : Span) : Prop where
  /-- It has one scope. -/
  scp : issued.scp = [scope]
  /-- It names the user. -/
  sub : issued.sub = u.publicId
  /-- It has the address of the user. -/
  email : issued.email = u.email
  /-- It lasts for the span. -/
  lasts : issued.LastsFor now ttl
  /-- It tells when it expires. -/
  expireAt : tok.expireAt = Instant.ofSeconds issued.exp

theorem AuthToken.attests_claimsFor {tok : AuthToken} {u : User} {scope : Scope} {now : Instant}
    {ttl : Span} (hnow : now.InRange)
    (h : tok.expireAt = (Operation.claimsFor u scope now ttl).expiresAt) :
    tok.Attests (Operation.claimsFor u scope now ttl) u scope now ttl :=
  have hlasts := Claims.lastsFor_issue hnow ttl
  ⟨rfl, rfl, rfl, hlasts, h.trans (hlasts.expiresAt hnow)⟩

namespace World

/-- A call read a user who was there, and who was active. -/
def ReadActive (w : World) (place : Nat) (x : Exchange serviceSurroundings) (u : User) : Prop :=
  ∃ e ∈ w.log, e.call = place ∧ e.exchange = x ∧ u ∈ e.before.users ∧ u.status = .activated

/-- A recovery code that a call used up was there before and was not there afterwards. -/
def UsesUp (w : World) (place : Nat) (id : Int) (code : String) : Prop :=
  ∀ e ∈ w.log, e.call = place → e.exchange.uses id code = true →
    e.before.holds id code = true ∧ e.after.holds id code = false

/-- How a call came to hand out a token. -/
inductive Provenance (s : Service) (w : World) (place : Nat) : Call → AuthToken → Prop
  /-- The password of an account that is not asked for a second factor. -/
  | password {r : CredentialRequest} {now : Instant} {u : User} {issued : Claims} {tok : AuthToken}
      (trace : w.trace place = [.users (.findByEmail r.email) (.ok (some u)),
        .sign issued (.ok tok.authToken)])
      (read : w.ReadActive place (.users (.findByEmail r.email) (.ok (some u))) u)
      (verified : Password.verify r.password u.passwordHash = .ok true)
      (single : (s.policy.otpEnabled && u.otpEnabled) = false)
      (attests : tok.Attests issued u .user now s.policy.sessionTtl)
      (final : tok.twoFaRequired = false) :
      Provenance s w place (.authenticate r now) tok
  /-- The second step, after a current code or a recovery code. -/
  | secondStep {claims : Claims} {r : TwoFaCodeRequest} {now : Instant} {u : User}
      {factor : Trace} {issued : Claims} {tok : AuthToken}
      (trace : w.trace place = .users (.findByPublicId claims.sub) (.ok (some u)) ::
        (factor ++ [.sign issued (.ok tok.authToken)]))
      (read : w.ReadActive place (.users (.findByPublicId claims.sub) (.ok (some u))) u)
      (scope : claims.hasScope .twoFaCheck = true) (sub : claims.sub = u.publicId)
      (passed : Operation.Passed u r.code factor) (usesUp : w.UsesUp place u.id r.code)
      (attests : tok.Attests issued u .user now s.policy.sessionTtl)
      (final : tok.twoFaRequired = false) :
      Provenance s w place (.authenticateTwoFa claims r now) tok
  /-- The password of an account that is asked for a second factor. -/
  | firstStep {r : CredentialRequest} {now : Instant} {u : User} {issued : Claims}
      {tok : AuthToken}
      (trace : w.trace place = [.users (.findByEmail r.email) (.ok (some u)),
        .sign issued (.ok tok.authToken)])
      (read : w.ReadActive place (.users (.findByEmail r.email) (.ok (some u))) u)
      (verified : Password.verify r.password u.passwordHash = .ok true)
      (both : (s.policy.otpEnabled && u.otpEnabled) = true)
      (attests : tok.Attests issued u .twoFaCheck now s.policy.twoFaTtl)
      (more : tok.twoFaRequired = true) :
      Provenance s w place (.authenticate r now) tok

variable {s : Service} {w : World} {place : Nat}

theorem usesUp_of_run (s : Service) (moves : List Move) (place : Nat) (id : Int) (code : String) :
    (empty.run s moves).UsesUp place id code :=
  fun e he _ huse => e.holds_of_uses ((Coherent.empty.run moves).recorded e he) huse

theorem readActive_of_email {email : String} {u : User} (ha : u.isActive = true)
    (h : .users (.findByEmail email) (.ok (some u)) ∈ w.trace place) :
    w.ReadActive place (.users (.findByEmail email) (.ok (some u))) u := by
  obtain ⟨e, he, hcall, hx⟩ := mem_trace.1 h
  obtain ⟨hmem, -⟩ := Entry.found_email hx
  exact ⟨e, he, hcall, hx, hmem, by simpa [User.isActive] using ha⟩

theorem readActive_of_publicId {sub : String} {u : User} (ha : u.isActive = true)
    (h : .users (.findByPublicId sub) (.ok (some u)) ∈ w.trace place) :
    w.ReadActive place (.users (.findByPublicId sub) (.ok (some u))) u ∧ sub = u.publicId := by
  obtain ⟨e, he, hcall, hx⟩ := mem_trace.1 h
  obtain ⟨hmem, hsub⟩ := Entry.found_publicId hx
  exact ⟨⟨e, he, hcall, hx, hmem, by simpa [User.isActive] using ha⟩, hsub.symm⟩

/-- Every token that is handed out comes from a password or from the second step. -/
theorem token_provenance (s : Service) (moves : List Move) {place : Nat} {call : Call}
    {r : call.Result} {tok : AuthToken} (h : (empty.run s moves).Returned place call (.ok r))
    (htok : call.token? r = some tok) (hnow : ∀ now ∈ call.instant?, now.InRange) :
    Provenance s (empty.run s moves) place call tok := by
  have hends := (Coherent.empty.run moves).after h
  cases call with
  | authenticate request now =>
      cases htok
      have hin := hnow now rfl
      obtain ⟨u, scope, ttl, token, hv, ha, ht, rfl, hkind⟩ := Operation.ends_authenticate_ok hends
      have hread := readActive_of_email ha (ht ▸ List.mem_cons_self)
      cases hboth : s.policy.otpEnabled && u.otpEnabled with
      | true =>
          rw [hboth, if_pos rfl] at hkind
          obtain ⟨rfl, rfl⟩ := hkind
          exact .firstStep ht hread hv hboth (AuthToken.attests_claimsFor hin rfl) rfl
      | false =>
          rw [hboth, if_neg Bool.false_ne_true] at hkind
          obtain ⟨rfl, rfl⟩ := hkind
          exact .password ht hread hv hboth (AuthToken.attests_claimsFor hin rfl) rfl
  | authenticateTwoFa claims request now =>
      have hin := hnow now rfl
      obtain rfl : r = some tok := htok
      obtain ⟨u, token, factor, -, hscope, ha, ht, hf, rfl⟩ :=
        Operation.ends_authenticateTwoFa_ok hends
      obtain ⟨hread, hsub⟩ := readActive_of_publicId ha (ht ▸ List.mem_cons_self)
      exact .secondStep ht hread hscope hsub hf (usesUp_of_run s moves place u.id request.code)
        (AuthToken.attests_claimsFor hin rfl) rfl
  | _ => cases htok

/-- The second step with a current code, after the account got a second factor. -/
def Sample.login : List Move :=
  enrolment ++ [secondStep "000000", .turn 4 moment, .turn 4 moment, .turn 4 moment]

open Sample in
/-- A token of the second step. -/
theorem token_provenance_login :
    (empty.run (service (.ofSeconds 900)) login).Returned 4
        (.authenticateTwoFa (claims .twoFaCheck) ⟨"000000"⟩ (.ofSeconds 2))
        (.ok (some ⟨"token", .ofSeconds 902, false⟩)) ∧
      Provenance (service (.ofSeconds 900)) (empty.run (service (.ofSeconds 900)) login) 4
        (.authenticateTwoFa (claims .twoFaCheck) ⟨"000000"⟩ (.ofSeconds 2))
        ⟨"token", .ofSeconds 902, false⟩ := by
  refine ⟨rfl, token_provenance (service (.ofSeconds 900)) login rfl rfl ?_⟩
  intro now hnow
  cases hnow
  decide

open Sample in
/-- A session that is longer than the rest of all instants ends with the last of them. -/
theorem session_ends_with_last_instant : ∃ issued tok,
    (empty.run (service (.ofSeconds 1000000000000000)) login).Returned 4
      (.authenticateTwoFa (claims .twoFaCheck) ⟨"000000"⟩ (.ofSeconds 2)) (.ok (some tok)) ∧
    .sign issued (.ok tok.authToken) ∈
      (empty.run (service (.ofSeconds 1000000000000000)) login).trace 4 ∧
    issued.scp = [.user] ∧ issued.exp - issued.iat ≠ 1000000000000000 := by
  refine ⟨⟨"user", "a@b.co", [.user], 2, Instant.lastSecond⟩, _, rfl, ?_, rfl, by decide⟩
  have htrace : ((empty.run (service (.ofSeconds 1000000000000000)) login).trace 4)[2]? =
      some (.sign ⟨"user", "a@b.co", [.user], 2, Instant.lastSecond⟩ (.ok "token")) := rfl
  exact List.mem_of_getElem? htrace

end World

end Accounts
