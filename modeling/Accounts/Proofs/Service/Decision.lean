import Accounts.Proofs.Service.Alone
/-!
# How the second step of a login is decided

A call that runs alone in one and the same circumstance is a function of the directory
(`Circumstance.outcome`), and it is computed part by part along the code of the operation.

Five checks decide on a second step, in a fixed order: the scope of the claims, the length of
the code, the user, the engine for the second factor and the recovery codes.  `Decision` lists
what they lead to.  Only a recovery code that is used changes something.
-/

namespace Accounts

open Operation (claimsFor)

namespace Circumstance

/-- Nothing goes wrong with a question. -/
structure Undisturbed (x : Circumstance) : Prop where
  /-- The directory does not fail. -/
  failure : x.failure = none
  /-- The directory finds who is there. -/
  missing : x.missing = false
  /-- The outbox stores what it is given. -/
  refusing : x.refusing = false
  /-- All tokens are signed. -/
  signs : ∀ k, ∃ token, x.sign k = .ok token

/-! ## A call as a function -/

variable {α β : Type} {x : Circumstance} {d : Directory}

/-- The result of a call on its own, and the directory afterwards. -/
def outcome (x : Circumstance) (d : Directory) (op : Operation α) :
    Except AccountError α × Directory :=
  let o := d.alone (fun _ => x) op.run
  (o.result, o.directory)

/-- What is left of a call after a question. -/
def goOn (x : Circumstance) (f : α → Operation β) :
    Except AccountError α × Directory → Except AccountError β × Directory
  | (.ok a, d) => x.outcome d (f a)
  | (.error e, d) => (.error e, d)

theorem outcome_question_bind {q : serviceSurroundings.Query} {f : q.Result → Operation β} :
    x.outcome d (Operation.question q >>= f) = x.goOn f (x.reply d q) := by
  rw [outcome, Operation.run_question_bind, Directory.alone]
  cases hr : x.reply d q with
  | mk r d' => cases r <;> rfl

/-- An undisturbed directory replies as it does in memory. -/
theorem Undisturbed.reply_users (hx : x.Undisturbed) (hd : d.outbox.refusing = false)
    (c : DirectoryCall) : x.reply d (.users c) = d.reply x.clock c := by
  have hswitched : d.switched x.refusing = d := by rw [hx.refusing, ← hd]; rfl
  simp only [reply, hx.failure, hx.missing, hswitched]
  rfl

section Outcome

variable {c : DirectoryCall} {o : OtpCall} {k : Claims} {e : AccountError}

theorem outcome_users_bind {f : c.Result → Operation β}
    {r : Except AccountError c.Result × Directory} (hx : x.Undisturbed)
    (hd : d.outbox.refusing = false) (h : d.reply x.clock c = r) :
    x.outcome d (Operation.users c >>= f) = x.goOn f r := by
  rw [← h, ← hx.reply_users hd]
  exact outcome_question_bind (q := .users c)

theorem outcome_otp_bind {f : o.Result → Operation β} {r : Except AccountError o.Result}
    (h : x.otp o = r) : x.outcome d (Operation.otp o >>= f) = x.goOn f (r, d) := by
  rw [← h]
  exact outcome_question_bind (q := .otp o)

theorem outcome_sign_bind {f : String → Operation β} {r : Except AccountError String}
    (h : x.sign k = r) : x.outcome d (Operation.sign k >>= f) = x.goOn f (r, d) := by
  rw [← h]
  exact outcome_question_bind (q := .sign k)

theorem outcome_ofExcept_bind (r : Except AccountError α) {f : α → Operation β} :
    x.outcome d (Operation.ofExcept r >>= f) = x.goOn f (r, d) := by
  cases r <;> rfl

theorem outcome_ensure_bind (condition : Bool) {f : Unit → Operation β} :
    x.outcome d (Operation.ensure condition e >>= f) =
      x.goOn f (if condition then .ok () else .error e, d) := by
  cases condition <;> rfl

theorem outcome_orFail_bind (a : Option α) {f : α → Operation β} :
    x.outcome d (Operation.orFail e a >>= f) =
      x.goOn f (a.elim (.error e) .ok, d) := by
  cases a <;> rfl

theorem goOn_ok (a : α) {f : α → Operation β} : x.goOn f (.ok a, d) = x.outcome d (f a) := rfl

end Outcome

end Circumstance

namespace Directory

variable {d : Directory} {u : User} {code : String}

/-- With the number of a user its codes alone are looked at. -/
theorem reply_consumeRecoveryCode (hd : d.outbox.refusing = false)
    (hids : (d.users.map User.id).Nodup) (clock : Instant) (hu : u ∈ d.users) :
    (code ∉ u.otpRecoveryCodes ∧
      d.reply clock (.consumeRecoveryCode u.id code) = (.ok false, d)) ∨
    (code ∈ u.otpRecoveryCodes ∧ ∃ before after, d.users = before ++ u :: after ∧
      d.reply clock (.consumeRecoveryCode u.id code) = (.ok true, { d with users := before ++
        { u with otpRecoveryCodes := u.otpRecoveryCodes.filter (· != code) } :: after })) := by
  have hfits : ∀ v ∈ d.users, DirectoryCall.fits (.consumeRecoveryCode u.id code) v = true ↔
      v = u ∧ code ∈ u.otpRecoveryCodes := by
    intro v hv
    simp only [DirectoryCall.fits, holdsCode, Bool.and_eq_true, beq_iff_eq,
      List.contains_iff_mem]
    constructor
    · rintro ⟨hid, hcode⟩
      obtain rfl := List.inj_on_of_nodup_map hids hv hu hid
      exact ⟨rfl, hcode⟩
    · rintro ⟨rfl, hcode⟩
      exact ⟨rfl, hcode⟩
  rcases d.mutate_cases clock (DirectoryCall.consumeRecoveryCode u.id code).fits []
    (DirectoryCall.consumeRecoveryCode u.id code).edit with
    ⟨hr, -⟩ | ⟨hnone, hm⟩ | ⟨before, v, after, husers, -, hv, -, hm⟩
  · cases hd.symm.trans hr
  · refine .inl ⟨fun hcode => ?_, hm⟩
    exact List.any_eq_false.1 hnone u hu ((hfits u hu).2 ⟨rfl, hcode⟩)
  · have hmem : v ∈ d.users := husers ▸ List.mem_append_right _ List.mem_cons_self
    obtain ⟨rfl, hcode⟩ := (hfits v hmem).1 hv
    refine .inr ⟨hcode, before, after, husers, hm.trans ?_⟩
    rw [announced_nil]
    rfl

end Directory

/-! ## The decision -/

/-- A user who may take the second step with some claims and a code of the right length. -/
structure Admitted (d : Directory) (claims : Claims) (code : String) (u : User) : Prop where
  /-- The claims are good for the second step. -/
  scope : claims.hasScope .twoFaCheck = true
  /-- The code has six characters. -/
  length : code.length = 6
  /-- The claims are about the user. -/
  found : d.users.find? (·.publicId == claims.sub) = some u
  /-- The account is active. -/
  active : u.status = .activated

/-- The engine does not take a code; it is not asked about an account without a secret. -/
def Declines (x : Circumstance) (u : User) (code : String) : Prop :=
  ∀ secret, u.otpSecret = some secret → x.otp (.validate secret code) = .ok false

/-- A token for everything, as it is told to a user. -/
def Signed (x : Circumstance) (ttl : Span) (now : Instant) (u : User) (tok : AuthToken) : Prop :=
  ∃ token, x.sign (claimsFor u .user now ttl) = .ok token ∧
    tok = ⟨token, (claimsFor u .user now ttl).expiresAt, false⟩

/-- What the checks of a second step lead to, and the directory afterwards. -/
inductive Decision (x : Circumstance) (ttl : Span) (d : Directory) (claims : Claims)
    (code : String) (now : Instant) :
    Except AccountError (Option AuthToken) × Directory → Prop
  /-- The claims are not good for the second step. -/
  | unscoped (h : claims.hasScope .twoFaCheck = false) :
      Decision x ttl d claims code now (.error (.insufficientScope "2fa-check"), d)
  /-- The code has not six characters. -/
  | malformed (scope : claims.hasScope .twoFaCheck = true) (h : code.length ≠ 6) :
      Decision x ttl d claims code now (.error .invalidOtpCode, d)
  /-- The claims are about nobody. -/
  | unknown (scope : claims.hasScope .twoFaCheck = true) (length : code.length = 6)
      (h : ∀ u ∈ d.users, u.publicId ≠ claims.sub) :
      Decision x ttl d claims code now (.error .invalidToken, d)
  /-- The account is not active. -/
  | inactive {u : User} (scope : claims.hasScope .twoFaCheck = true) (length : code.length = 6)
      (found : d.users.find? (·.publicId == claims.sub) = some u) (h : u.status ≠ .activated) :
      Decision x ttl d claims code now (.error .invalidCredentials, d)
  /-- The engine cannot use the secret. -/
  | failed {u : User} {secret : String} {e : AccountError} (admitted : Admitted d claims code u)
      (stored : u.otpSecret = some secret) (h : x.otp (.validate secret code) = .error e) :
      Decision x ttl d claims code now (.error e, d)
  /-- The engine takes the code. -/
  | current {u : User} {secret : String} {tok : AuthToken} (admitted : Admitted d claims code u)
      (stored : u.otpSecret = some secret) (h : x.otp (.validate secret code) = .ok true)
      (token : Signed x ttl now u tok) : Decision x ttl d claims code now (.ok (some tok), d)
  /-- The code is a recovery code, and is used up. -/
  | recovery {u : User} {before after : List User} {tok : AuthToken}
      (admitted : Admitted d claims code u) (declined : Declines x u code)
      (users : d.users = before ++ u :: after) (h : code ∈ u.otpRecoveryCodes)
      (token : Signed x ttl now u tok) :
      Decision x ttl d claims code now (.ok (some tok), { d with users := before ++
        { u with otpRecoveryCodes := u.otpRecoveryCodes.filter (· != code) } :: after })
  /-- The code is none of these. -/
  | refused {u : User} (admitted : Admitted d claims code u) (declined : Declines x u code)
      (h : code ∉ u.otpRecoveryCodes) :
      Decision x ttl d claims code now (.error .invalidOtpCode, d)

section Decision

variable {x : Circumstance} {d : Directory} {p : LoginPolicy} {claims : Claims} {code : String}
  {now : Instant} {ttl : Span}

theorem Decision.of_eq {r r' : Except AccountError (Option AuthToken) × Directory}
    (h : Decision x ttl d claims code now r) (heq : r' = r) :
    Decision x ttl d claims code now r' :=
  heq ▸ h

theorem TwoFaCodeRequest.faults_isEmpty : (⟨code⟩ : TwoFaCodeRequest).faults.isEmpty = true ↔
    code.length = 6 := by
  simp only [faults, FieldRule.check, FieldRule.holds, Option.all_some, Bool.and_eq_true,
    decide_eq_true_eq]
  split
  · simp
    omega
  · simp
    omega

namespace Operation

open Circumstance

/-- Nobody is asked for a second factor. -/
theorem outcome_authenticateTwoFa_disabled (hp : p.otpEnabled = false) :
    x.outcome d (authenticateTwoFa p claims ⟨code⟩ now) = (.ok none, d) := by
  rw [authenticateTwoFa, hp]
  rfl

/-- The token at the end. -/
theorem outcome_issue (hx : x.Undisturbed) (u : User) (ttl : Span) (now : Instant) :
    ∃ tok, Signed x ttl now u tok ∧ ∀ d,
      x.outcome d (issue u .user now ttl false >>= fun tok => pure (some tok)) =
        (.ok (some tok), d) := by
  obtain ⟨token, htoken⟩ := hx.signs (claimsFor u .user now ttl)
  refine ⟨_, ⟨token, htoken, rfl⟩, fun d => ?_⟩
  rw [issue_bind, outcome_sign_bind htoken]
  rfl

/-- A code that the engine does not take is looked for among the recovery codes. -/
theorem decision_recovery {u : User} (hx : x.Undisturbed) (hd : d.outbox.refusing = false)
    (hids : (d.users.map User.id).Nodup) (hadmitted : Admitted d claims code u)
    (hdeclined : Declines x u code) :
    Decision x ttl d claims code now
      (x.outcome d (users (.consumeRecoveryCode u.id code) >>= fun used =>
        ensure used .invalidOtpCode >>= fun _ =>
          issue u .user now ttl false >>= fun tok => pure (some tok))) := by
  have hu : u ∈ d.users := List.mem_of_find?_eq_some hadmitted.found
  rcases Directory.reply_consumeRecoveryCode hd hids x.clock hu with
    ⟨hcode, hreply⟩ | ⟨hcode, before, after, husers, hreply⟩
  · exact (Decision.refused hadmitted hdeclined hcode).of_eq (outcome_users_bind hx hd hreply)
  · obtain ⟨tok, htok, hissue⟩ := outcome_issue hx u ttl now
    exact (Decision.recovery hadmitted hdeclined husers hcode htok).of_eq
      ((outcome_users_bind hx hd hreply).trans (hissue _))

/-- What happens with a code once the user is known. -/
theorem decision_secondFactor {u : User} (hx : x.Undisturbed) (hd : d.outbox.refusing = false)
    (hids : (d.users.map User.id).Nodup) (hadmitted : Admitted d claims code u) :
    Decision x ttl d claims code now
      (x.outcome d (secondFactorThen u code .invalidOtpCode fun _ =>
        issue u .user now ttl false >>= fun tok => pure (some tok))) := by
  rcases isCurrentCode_cases u code with ⟨hnone, -, hcode⟩ | ⟨secret, hsecret, -, hcode⟩
  · rw [secondFactorThen, hcode]
    have hdeclined : Declines x u code := fun secret hsecret => by cases hnone.symm.trans hsecret
    exact decision_recovery hx hd hids hadmitted hdeclined
  · rw [secondFactorThen, hcode]
    cases hreply : x.otp (.validate secret code) with
    | error e => exact (Decision.failed hadmitted hsecret hreply).of_eq (outcome_otp_bind hreply)
    | ok taken =>
        cases taken with
        | true =>
            obtain ⟨tok, htok, hissue⟩ := outcome_issue hx u ttl now
            exact (Decision.current hadmitted hsecret hreply htok).of_eq
              ((outcome_otp_bind hreply).trans (hissue d))
        | false =>
            have hdeclined : Declines x u code := fun secret' hsecret' => by
              cases hsecret.symm.trans hsecret'
              exact hreply
            exact (decision_recovery hx hd hids hadmitted hdeclined).of_eq (outcome_otp_bind hreply)

/-- Where a second factor is asked for, the checks decide. -/
theorem decision_authenticateTwoFa (hx : x.Undisturbed) (hd : d.outbox.refusing = false)
    (hids : (d.users.map User.id).Nodup) (hp : p.otpEnabled = true) :
    Decision x p.sessionTtl d claims code now
      (x.outcome d (authenticateTwoFa p claims ⟨code⟩ now)) := by
  rw [authenticateTwoFa, hp]
  simp only [Bool.not_true, Bool.false_eq_true, if_false]
  rw [outcome_ofExcept_bind, Claims.require]
  by_cases hscope : claims.hasScope .twoFaCheck = true
  swap
  · rw [if_neg hscope]
    exact .unscoped (eq_false_of_ne_true hscope)
  rw [if_pos hscope, goOn_ok, outcome_ensure_bind]
  by_cases hlength : code.length = 6
  swap
  · rw [if_neg (mt TwoFaCodeRequest.faults_isEmpty.1 hlength)]
    exact .malformed hscope hlength
  rw [if_pos (TwoFaCodeRequest.faults_isEmpty.2 hlength), goOn_ok]
  refine Decision.of_eq ?_ (outcome_users_bind hx hd rfl)
  change Decision _ _ _ _ _ _ (x.outcome d (orFail .invalidToken (d.users.find? _) >>= _))
  rw [outcome_orFail_bind]
  cases hfound : d.users.find? (·.publicId == claims.sub) with
  | none =>
      exact .unknown hscope hlength fun u hu => by simpa using List.find?_eq_none.1 hfound u hu
  | some u =>
      rw [Option.elim_some, goOn_ok, outcome_ensure_bind]
      by_cases hactive : u.status = .activated
      · rw [if_pos (by simpa [User.isActive] using hactive), goOn_ok]
        exact decision_secondFactor hx hd hids ⟨hscope, hlength, hfound, hactive⟩
      · rw [if_neg (by simpa [User.isActive] using hactive)]
        exact .inactive hscope hlength hfound hactive

end Operation

end Decision

end Accounts
