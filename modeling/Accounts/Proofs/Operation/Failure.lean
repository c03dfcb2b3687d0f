import Accounts.Proofs.Directory.Reply
import Accounts.Proofs.Service.Call
/-!
# Operations that fail

An operation fails with the first error that it is replied, and it makes its only
change last: when it fails, none of its requests changed anything.  The second step of a
login is the exception.  It uses a recovery code up before the token is signed, so that
no two logins can pass with one code, and signing can fail after that.

`Operation.Strict` and `Operation.Careful` say these two things of a part of an
operation, and each way of putting parts together has a rule that keeps them.
-/

namespace Accounts

/-- The request of which the reply says that it changed something. -/
def Exchange.granted? : Exchange serviceSurroundings → Option DirectoryCall
  | ⟨.users c, r⟩ => if c.granted r then some c else none
  | _ => none

/-- The reply says that nothing was changed. -/
def Exchange.Idle (x : Exchange serviceSurroundings) : Prop := x.granted? = none

theorem Exchange.granted?_eq_some {x : Exchange serviceSurroundings} {c : DirectoryCall} :
    x.granted? = some c ↔ ∃ r, x = .users c r ∧ c.granted r = true := by
  constructor
  · intro h
    unfold granted? at h
    split at h
    · obtain ⟨hr, hc⟩ := Option.ite_none_right_eq_some.1 h
      cases hc
      exact ⟨_, rfl, hr⟩
    · cases h
  · rintro ⟨r, rfl, hr⟩
    exact if_pos hr

theorem Exchange.granted?_users {c : DirectoryCall} {r : Except AccountError c.Result}
    (h : c.granted r = true) : (Exchange.users c r).granted? = some c := if_pos h

theorem Exchange.idle_users {c : DirectoryCall} {r : Except AccountError c.Result} :
    (Exchange.users c r).Idle ↔ c.granted r = false := by
  simp [Exchange.Idle, Exchange.granted?]

namespace Operation

variable {α β : Type} {op : Operation α} {f : α → Operation β} {t : Trace}

theorem after_bind {p : Dialogue serviceSurroundings (Except AccountError β)}
    (h : (op >>= f).run.After t p) :
    (∃ m, op.run.After t m ∧ ∀ e, m = .done (.error e) → p = .done (.error e)) ∨
      ∃ a t₁ t₂, t = t₁ ++ t₂ ∧ op.Ends t₁ (.ok a) ∧ (f a).run.After t₂ p := by
  rcases Dialogue.after_bind (p := op.run) h with ⟨m, hm, rfl⟩ | ⟨x, t₁, t₂, rfl, h₁, h₂⟩
  · refine .inl ⟨m, hm, ?_⟩
    rintro e rfl
    rfl
  · cases x with
    | ok a => exact .inr ⟨a, t₁, t₂, rfl, h₁, h₂⟩
    | error e =>
        obtain ⟨rfl, rfl⟩ := Dialogue.after_done_iff.1 h₂
        rw [List.append_nil]
        refine .inl ⟨_, h₁, ?_⟩
        rintro e' he
        cases he
        rfl

theorem after_question {q : serviceSurroundings.Query}
    {p : Dialogue serviceSurroundings (Except AccountError q.Result)}
    (h : (question q).run.After t p) : t = [] ∨ ∃ r, t = [⟨q, r⟩] ∧ p = .done r := by
  cases (show (Dialogue.ask q .done).After t p from h) with
  | start => exact .inl rfl
  | reply h =>
      obtain ⟨rfl, rfl⟩ := Dialogue.after_done_iff.1 h
      exact .inr ⟨_, rfl, rfl⟩

/-! ## Errors and their replies -/

/-- All replies that an operation is given are of a kind, and it ends with the error that it
is replied. -/
def Meets (P : Exchange serviceSurroundings → Prop) (op : Operation α) : Prop :=
  ∀ ⦃t p⦄, op.run.After t p → ∀ x ∈ t, P x ∧ ∀ e, x.reply = .error e → p = .done (.error e)

/-- The operation ends with the error that it is replied. -/
abbrev Strict (op : Operation α) : Prop := op.Meets fun _ => True

/-- The operation changes nothing, and it ends with the error that it is replied. -/
abbrev Quiet (op : Operation α) : Prop := op.Meets Exchange.Idle

namespace Meets

variable {P : Exchange serviceSurroundings → Prop}

theorem strict (h : op.Meets P) : op.Strict := fun _ _ hp x hx => ⟨trivial, (h hp x hx).2⟩

theorem bind (h : op.Meets P) (hf : ∀ a, (f a).Meets P) : (op >>= f).Meets P := by
  intro t p hp x hx
  rcases after_bind hp with ⟨m, h₁, herror⟩ | ⟨a, t₁, t₂, rfl, h₁, h₂⟩
  · exact ⟨(h h₁ x hx).1, fun e he => herror e ((h h₁ x hx).2 e he)⟩
  · rcases List.mem_append.1 hx with hx | hx
    · refine ⟨(h h₁ x hx).1, fun e he => ?_⟩
      cases (h h₁ x hx).2 e he
    · exact hf a h₂ x hx

end Meets

section Rules

variable {P : Exchange serviceSurroundings → Prop}

theorem meets_question {q : serviceSurroundings.Query} (h : ∀ r, P ⟨q, r⟩) :
    (question q).Meets P := by
  intro t p hp x hx
  rcases after_question hp with rfl | ⟨r, rfl, rfl⟩
  · cases hx
  · cases List.mem_singleton.1 hx
    exact ⟨h r, fun e he => congrArg Dialogue.done he⟩

theorem meets_ofExcept (x : Except AccountError α) : (ofExcept x).Meets P := by
  intro t p hp y hy
  obtain ⟨rfl, -⟩ := Dialogue.after_done_iff.1 hp
  cases hy

theorem meets_pure (a : α) : (pure a : Operation α).Meets P := meets_ofExcept (.ok a)

theorem meets_ensure (condition : Bool) (e : AccountError) : (ensure condition e).Meets P := by
  cases condition with
  | true => exact meets_pure ()
  | false => exact meets_ofExcept (.error e)

theorem meets_orFail (e : AccountError) (o : Option α) : (orFail e o).Meets P := by
  cases o with
  | some a => exact meets_pure a
  | none => exact meets_ofExcept (.error e)

end Rules

theorem quiet_profile (claims : Claims) : (profile claims).Quiet :=
  (meets_ofExcept _).bind fun _ => (meets_question fun r => by cases r <;> rfl).bind fun _ =>
    meets_orFail _ _

theorem quiet_issue (u : User) (scope : Scope) (now : Instant) (ttl : Span) (twoFa : Bool) :
    (issue u scope now ttl twoFa).Quiet :=
  (meets_question fun _ => rfl).bind fun _ => meets_pure _

theorem quiet_isCurrentCode (u : User) (code : String) : (isCurrentCode u code).Quiet := by
  unfold isCurrentCode
  cases u.otpSecret with
  | some secret => exact meets_question fun _ => rfl
  | none => exact meets_pure false

theorem quiet_authenticate (p : LoginPolicy) (r : CredentialRequest) (now : Instant) :
    (authenticate p r now).Quiet := by
  refine (meets_ensure _ _).bind fun _ => (meets_question fun r => by cases r <;> rfl).bind fun _ =>
    (meets_orFail _ _).bind fun _ => (meets_ofExcept _).bind fun _ =>
      (meets_ensure _ _).bind fun _ => ?_
  split
  · exact quiet_issue _ _ _ _ _
  · exact quiet_issue _ _ _ _ _

/-- Every call fails with the error that it is replied. -/
theorem strict_operation (s : Service) (call : Call) : (s.operation call).Strict := by
  have ask : ∀ q, (Operation.question q).Strict := fun q => meets_question fun _ => trivial
  have account := fun claims => (quiet_profile claims).strict
  cases call with
  | register r a => exact (meets_ensure _ _).bind fun _ => ask _
  | activate code now =>
      exact (ask _).bind fun _ => (meets_orFail _ _).bind fun _ => (ask _).bind fun _ =>
        meets_ensure _ _
  | requestPasswordReset r code now =>
      refine (meets_ensure _ _).bind fun _ => (ask _).bind fun o => ?_
      cases o with
      | none => exact meets_pure ()
      | some u => exact ask _
  | resetPassword r salt now =>
      exact (meets_ensure _ _).bind fun _ => (ask _).bind fun _ => meets_ensure _ _
  | changePassword claims r salt now =>
      exact (account claims).bind fun _ => (meets_ensure _ _).bind fun _ => ask _
  | profile claims => exact account claims
  | authenticate r now => exact (quiet_authenticate _ r now).strict
  | parseToken token second => exact meets_ofExcept _
  | enableStep1 claims =>
      exact (account claims).bind fun _ => (ask _).bind fun _ => (ask _).bind fun _ => meets_pure _
  | enableStep2 claims r =>
      exact (account claims).bind fun _ => (meets_ensure _ _).bind fun _ =>
        (meets_orFail _ _).bind fun _ => (ask _).bind fun _ => (meets_ensure _ _).bind fun _ =>
          (ask _).bind fun _ => (ask _).bind fun _ => (meets_ensure _ _).bind fun _ => meets_pure _
  | disable claims => exact (account claims).bind fun _ => ask _
  | authenticateTwoFa claims r now =>
      have token := fun u => (quiet_issue u .user now s.policy.sessionTtl false).strict
      rw [Service.operation, authenticateTwoFa]
      split
      · exact meets_pure none
      refine (meets_ofExcept _).bind fun _ => (meets_ensure _ _).bind fun _ => (ask _).bind fun _ =>
        (meets_orFail _ _).bind fun u => (meets_ensure _ _).bind fun _ =>
          (quiet_isCurrentCode u _).strict.bind fun _ => ?_
      split
      · exact (ask _).bind fun _ => (meets_ensure _ _).bind fun _ => (token u).bind fun _ =>
          meets_pure _
      · exact (token u).bind fun _ => meets_pure _

/-! ## Changes come last -/

/-- When one of its requests has changed something, the operation ends with success. -/
def Careful (op : Operation α) : Prop :=
  ∀ ⦃t p⦄, op.run.After t p → ∀ x ∈ t, ¬ x.Idle → ∃ a, p = .done (.ok a)

namespace Careful

/-- When the operation fails, none of its requests changed anything. -/
theorem idle_of_error (h : op.Careful) {e : AccountError} (hend : op.Ends t (.error e)) :
    ∀ x ∈ t, x.Idle := by
  intro x hx
  by_contra hne
  obtain ⟨a, ha⟩ := h hend x hx hne
  cases ha

theorem of_quiet (h : op.Quiet) : op.Careful := fun _ _ hp x hx hne => (hne (h hp x hx).1).elim

theorem bind (h : op.Quiet) (hf : ∀ a, (f a).Careful) : (op >>= f).Careful := by
  intro t p hp x hx hne
  rcases after_bind hp with ⟨m, h₁, -⟩ | ⟨a, t₁, t₂, rfl, h₁, h₂⟩
  · exact (hne (h h₁ x hx).1).elim
  · rcases List.mem_append.1 hx with hx | hx
    · exact (hne (h h₁ x hx).1).elim
    · exact hf a h₂ x hx hne

/-- A change may be followed by what asks nothing and succeeds when the change was made. -/
theorem users_bind {c : DirectoryCall} {f : c.Result → Operation β} (hquiet : ∀ v, (f v).Quiet)
    (hf : ∀ v, c.accepts v = true → ∃ b, f v = pure b) : (users c >>= f).Careful := by
  have hfirst : ∀ {v}, ¬ (Exchange.users c (.ok v)).Idle → ∃ b, f v = pure b := fun hne =>
    hf _ (eq_true_of_ne_false fun hv => hne (Exchange.idle_users.2 hv))
  intro t p hp x hx hne
  rw [show (users c >>= f).run = _ from run_question_bind] at hp
  cases hp with
  | start => cases hx
  | @reply _ _ r t p h =>
      cases r with
      | error e =>
          obtain ⟨rfl, rfl⟩ := Dialogue.after_done_iff.1 h
          cases List.mem_singleton.1 hx
          exact (hne rfl).elim
      | ok v =>
          change (f v).run.After t p at h
          rcases List.mem_cons.1 hx with rfl | hx
          · -- The first question made the change, so nothing is left to be asked.
            obtain ⟨b, hb⟩ := hfirst hne
            rw [hb] at h
            obtain ⟨-, rfl⟩ := Dialogue.after_done_iff.1 h
            exact ⟨b, rfl⟩
          · exact (hne (hquiet v h x hx).1).elim

theorem users (c : DirectoryCall) : (users c).Careful := by
  intro t p hp x hx hne
  rcases after_question hp with rfl | ⟨r, rfl, rfl⟩
  · cases hx
  · cases List.mem_singleton.1 hx
    cases r with
    | ok v => exact ⟨v, rfl⟩
    | error e => exact (hne rfl).elim

end Careful

/-- Calls make their only change last, but for the second step of a login. -/
theorem careful_operation (s : Service) {call : Call}
    (hcall : ∀ claims r now, call ≠ .authenticateTwoFa claims r now) :
    (s.operation call).Careful := by
  have hfound : ∀ {found : Bool} {e}, found = true → ∃ b, ensure found e = pure b := by
    rintro _ e rfl
    exact ⟨(), rfl⟩
  cases call with
  | register r a => exact .bind (meets_ensure _ _) fun _ => .users _
  | activate code now =>
      exact .bind (meets_question fun r => by cases r <;> rfl) fun _ =>
        .bind (meets_orFail _ _) fun _ => .users_bind (fun _ => meets_ensure _ _) fun _ => hfound
  | requestPasswordReset r code now =>
      refine .bind (meets_ensure _ _) fun _ =>
        .bind (meets_question fun r => by cases r <;> rfl) fun o => ?_
      cases o with
      | none => exact .of_quiet (meets_pure ())
      | some u => exact .users _
  | resetPassword r salt now =>
      exact .bind (meets_ensure _ _) fun _ =>
        .users_bind (fun _ => meets_ensure _ _) fun _ => hfound
  | changePassword claims r salt now =>
      exact .bind (quiet_profile claims) fun _ => .bind (meets_ensure _ _) fun _ => .users _
  | profile claims => exact .of_quiet (quiet_profile claims)
  | authenticate r now => exact .of_quiet (quiet_authenticate _ r now)
  | authenticateTwoFa claims r now => exact (hcall claims r now rfl).elim
  | parseToken token second => exact .of_quiet (meets_ofExcept _)
  | enableStep1 claims =>
      exact .bind (quiet_profile claims) fun _ => .bind (meets_question fun _ => rfl) fun setup =>
        .users_bind (fun _ => meets_pure _) fun _ _ => ⟨setup, rfl⟩
  | enableStep2 claims r =>
      refine .bind (quiet_profile claims) fun _ => .bind (meets_ensure _ _) fun _ =>
        .bind (meets_orFail _ _) fun _ => .bind (meets_question fun _ => rfl) fun _ =>
          .bind (meets_ensure _ _) fun _ => .bind (meets_question fun _ => rfl) fun codes =>
            .users_bind (fun _ => (meets_ensure _ _).bind fun _ => meets_pure _) ?_
      rintro _ rfl
      exact ⟨codes, rfl⟩
  | disable claims => exact .bind (quiet_profile claims) fun _ => .users _

/-! ## The second step of a login -/

section SecondStep

variable {u : User} {code : String} {e e' : AccountError} {f : Unit → Operation β}

/-- Trying a code on the engine changes nothing. -/
theorem idle_rejected (u : User) (code : String) : ∀ x ∈ rejected u code, x.Idle := by
  unfold rejected
  cases u.otpSecret with
  | none => exact List.forall_mem_nil _
  | some secret => exact List.forall_mem_singleton.2 rfl

theorem ends_recovery_error (h : (users (.consumeRecoveryCode u.id code) >>= fun used =>
      ensure used e >>= f).Ends t (.error e')) :
    (∀ x ∈ t, x.Idle) ∨
      ∃ t', t = .users (.consumeRecoveryCode u.id code) (.ok true) :: t' ∧
        (f ()).Ends t' (.error e') := by
  rcases ends_users_bind.1 h with ⟨used, t₁, rfl, h₁⟩ | ⟨e, rfl, -⟩
  · rcases ends_ensure_bind.1 h₁ with ⟨rfl, h₂⟩ | ⟨rfl, rfl, -⟩
    · exact .inr ⟨t₁, rfl, h₂⟩
    · exact .inl (List.forall_mem_singleton.2 rfl)
  · exact .inl (List.forall_mem_singleton.2 rfl)

/-- What fails with the second factor fails after a change only where a recovery code was
used up. -/
theorem ends_secondFactor_error (hf : (f ()).Quiet)
    (h : (secondFactorThen u code e f).Ends t (.error e')) :
    (∀ x ∈ t, x.Idle) ∨
      ∃ t', t = rejected u code ++ .users (.consumeRecoveryCode u.id code) (.ok true) :: t' ∧
        (f ()).Ends t' (.error e') := by
  rcases isCurrentCode_cases u code with ⟨-, hr, hc⟩ | ⟨secret, -, hr, hc⟩
  · rw [secondFactorThen, hc] at h
    rw [hr]
    exact ends_recovery_error h
  · rw [secondFactorThen, hc] at h
    rw [hr]
    rcases ends_otp_bind.1 h with ⟨current, t₁, rfl, h₁⟩ | ⟨e, rfl, -⟩
    · cases current with
      | true =>
          exact .inl (List.forall_mem_cons.2 ⟨rfl, fun x hx => (hf h₁ x hx).1⟩)
      | false =>
          rcases ends_recovery_error h₁ with hidle | ⟨t₂, rfl, h₂⟩
          · exact .inl (List.forall_mem_cons.2 ⟨rfl, hidle⟩)
          · exact .inr ⟨t₂, rfl, h₂⟩
    · exact .inl (List.forall_mem_singleton.2 rfl)

/-- A second step that fails has changed nothing, or it used a recovery code up and then
got no token. -/
theorem ends_authenticateTwoFa_error {p : LoginPolicy} {claims : Claims} {r : TwoFaCodeRequest}
    {now : Instant} (h : (authenticateTwoFa p claims r now).Ends t (.error e)) :
    (∀ x ∈ t, x.Idle) ∨ ∃ u, t = .users (.findByPublicId claims.sub) (.ok (some u)) ::
      (rejected u r.code ++ [.users (.consumeRecoveryCode u.id r.code) (.ok true),
        .sign (claimsFor u .user now p.sessionTtl) (.error e)]) := by
  unfold authenticateTwoFa at h
  split at h
  · cases (ends_pure.1 h).2
  rcases ends_ofExcept_bind.1 h with ⟨_, -, h₁⟩ | ⟨_, -, rfl, -⟩
  swap
  · exact .inl (List.forall_mem_nil _)
  rcases ends_ensure_bind.1 h₁ with ⟨-, h₂⟩ | ⟨-, rfl, -⟩
  swap
  · exact .inl (List.forall_mem_nil _)
  rcases ends_users_bind.1 h₂ with ⟨o, t₃, rfl, h₃⟩ | ⟨_, rfl, -⟩
  swap
  · exact .inl (List.forall_mem_singleton.2 rfl)
  have hfind : Exchange.Idle (.users (.findByPublicId claims.sub) (.ok o)) := rfl
  rcases ends_orFail_bind.1 h₃ with ⟨u, rfl, h₄⟩ | ⟨-, rfl, -⟩
  swap
  · exact .inl (List.forall_mem_singleton.2 hfind)
  rcases ends_ensure_bind.1 h₄ with ⟨-, h₅⟩ | ⟨-, rfl, -⟩
  swap
  · exact .inl (List.forall_mem_singleton.2 hfind)
  have hquiet := (quiet_issue u .user now p.sessionTtl false).bind
    fun tok => meets_pure (some tok)
  rcases ends_secondFactor_error hquiet h₅ with hidle | ⟨t₆, rfl, h₆⟩
  · exact .inl (List.forall_mem_cons.2 ⟨hfind, hidle⟩)
  · rw [issue_bind] at h₆
    rcases ends_sign_bind.1 h₆ with ⟨s, t₇, rfl, h₇⟩ | ⟨e', rfl, he⟩
    · cases (ends_pure.1 h₇).2
    · -- Only the signer can still fail once the code is used up.
      cases he
      exact .inr ⟨u, rfl⟩

end SecondStep

end Operation

end Accounts
