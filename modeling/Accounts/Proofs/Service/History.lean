import Accounts.Proofs.Operation.Failure
import Accounts.Proofs.Service.World
/-!
# What the log tells of the past

The log of a world keeps the directory as it was before each question.  What holds of
the log so far and of the users that it led to, at all times, is `World.Throughout`: it
holds now, and it held whenever something was asked.

What a granted request did to the users is said once, in `Entry.granted_cases`, and which
call makes which request, and after what, in `Call.Makes`.  So who holds a code or a
secret, and since when, can be told from the log without a look at the operations.
-/

namespace Accounts

open Operation (Trace)

/-! ## Granted requests -/

namespace Entry

/-- The request of which the reply says that it changed something. -/
def granted? (e : Entry) : Option DirectoryCall := e.exchange.granted?

variable {e : Entry} {c : DirectoryCall}

/-- The reply to a request, and what became of the directory. -/
theorem replies (hq : e.query = .users c) :
    ∃ r, e.exchange = .users c r ∧ e.before.Replies e.moment.clock c r e.after := by
  cases hf : e.moment.failure with
  | some x =>
      obtain ⟨hx, hafter⟩ := exchange_of_some hf hq
      exact ⟨_, hx, hafter ▸ .idle rfl⟩
  | none =>
      obtain ⟨hx, hafter⟩ := exchange_of_none hf hq
      exact ⟨_, hx, hafter ▸ e.before.replies_reply e.moment.clock c⟩

/-- What was granted has made its change, but for a silent request that fits nobody. -/
theorem granted_cases (e : Entry) :
    (e.granted? = none ∧ e.after = e.before) ∨
    (∃ c, e.granted? = some c ∧ c.silent = true ∧ e.before.users.any c.fits = false ∧
      e.after = e.before) ∨
    (∃ n events, e.granted? = some (.create n events) ∧
      e.after = ⟨e.before.users ++ [User.ofNew (e.before.users.length + 1) n],
        e.before.announced e.moment.clock events⟩) ∨
    ∃ c before u after, e.granted? = some c ∧ e.before.users = before ++ u :: after ∧
      c.fits u = true ∧ e.after = ⟨before ++ c.edit u :: after,
        e.before.announced e.moment.clock c.events⟩ := by
  obtain ⟨call, m, d, q⟩ := e
  cases q with
  | otp c => exact .inl ⟨rfl, rfl⟩
  | sign c => exact .inl ⟨rfl, rfl⟩
  | users c =>
      generalize he : (⟨call, m, d, .users c⟩ : Entry) = e
      have hq : e.query = .users c := he ▸ rfl
      obtain ⟨r, hx, hr⟩ := replies hq
      rw [granted?, hx]
      generalize e.after = d' at hr
      cases hr with
      | idle h => exact .inl ⟨Exchange.idle_users.2 h, rfl⟩
      | unnoticed hsilent hnobody =>
          exact .inr (.inl ⟨c, Exchange.granted?_users (DirectoryCall.granted_of_silent hsilent _),
            hsilent, hnobody, rfl⟩)
      | created n events => exact .inr (.inr (.inl ⟨n, events, Exchange.granted?_users rfl, rfl⟩))
      | changed made before u after hu _ hfits =>
          exact .inr (.inr (.inr ⟨c, before, u, after,
            Exchange.granted?_users (DirectoryCall.granted_of_made made), hu, hfits, rfl⟩))

/-- What was not granted has changed nothing. -/
theorem after_of_idle (h : e.granted? = none) : e.after = e.before := by
  rcases e.granted_cases with ⟨-, ha⟩ | ⟨c, hg, -⟩ | ⟨n, events, hg, -⟩ | ⟨c, _, _, _, hg, -⟩
  · exact ha
  · cases h.symm.trans hg
  · cases h.symm.trans hg
  · cases h.symm.trans hg

/-- A request that does not go unnoticed and was granted has changed a user. -/
theorem changed_of_granted (hg : e.granted? = some c) (hsilent : c.silent = false)
    (hcreate : ∀ n events, c ≠ .create n events) :
    ∃ before u after, e.before.users = before ++ u :: after ∧ c.fits u = true ∧
      e.after = ⟨before ++ c.edit u :: after, e.before.announced e.moment.clock c.events⟩ := by
  rcases e.granted_cases with ⟨hnone, -⟩ | ⟨c', hc', hs, -⟩ | ⟨n, events, hc', -⟩ |
    ⟨c', before, u, after, hc', hu, hfits, ha⟩
  · cases hg.symm.trans hnone
  · cases hg.symm.trans hc'
    cases hsilent.symm.trans hs
  · cases hg.symm.trans hc'
    exact (hcreate n events rfl).elim
  · cases hg.symm.trans hc'
    exact ⟨before, u, after, hu, hfits, ha⟩

end Entry

/-! ## Who asks what -/

/-- Which call makes a request that changes something, and after which questions. -/
def Call.Makes (call : Call) (t : Trace) : DirectoryCall → Prop
  | .create n _ => ∃ r a, call = register r a ∧ t = [] ∧ n = Operation.newUser r a
  | .activate code now events => ∃ u, call = activate code now ∧
      t = [.users (.findByActivationCode code) (.ok (some u))] ∧
      events = [(AccountEvent.changed (.ofUser (Operation.activated u now))).envelope]
  | .setResetCode id code now _ => ∃ r u, call = requestPasswordReset r code now ∧
      t = [.users (.findByEmail (Text.trim r.email)) (.ok (some u))] ∧ id = u.id
  | .resetPassword code _ now => ∃ r salt, call = resetPassword r salt now ∧ t = [] ∧
      code = r.resetCode
  | .updatePassword id _ now => ∃ claims r salt u, call = changePassword claims r salt now ∧
      t = [.users (.findByPublicId claims.sub) (.ok (some u))] ∧ id = u.id
  | .setOtpSecret id secret => ∃ claims u setup, call = enableStep1 claims ∧
      t = [.users (.findByPublicId claims.sub) (.ok (some u)),
        .otp (.generate u.publicId) (.ok setup)] ∧ id = u.id ∧ secret = setup.secret
  | .enableOtp id secret codes => ∃ claims r u count, call = enableStep2 claims r ∧
      t = [.users (.findByPublicId claims.sub) (.ok (some u)),
        .otp (.validate secret r.code) (.ok true), .otp (.recoveryCodes count) (.ok codes)] ∧
      id = u.id ∧ u.otpSecret = some secret
  | .disableOtp id => ∃ claims u, call = disable claims ∧
      t = [.users (.findByPublicId claims.sub) (.ok (some u))] ∧ id = u.id
  | .consumeRecoveryCode id code => ∃ claims r now u, call = authenticateTwoFa claims r now ∧
      t = .users (.findByPublicId claims.sub) (.ok (some u)) :: Operation.rejected u code ∧
      id = u.id ∧ code = r.code
  | _ => True

section Requests

open Operation

variable {t : Trace} {c : DirectoryCall} {claims : Claims}

theorem makes_enableStep2 {s : Service} {r : TwoFaCodeRequest}
    (h : (s.operation (.enableStep2 claims r)).Asks t (.users c)) :
    (Call.enableStep2 claims r).Makes t c := by
  rcases asks_profile_bind h with ⟨-, hq⟩ | ⟨u, t₁, rfl, h₁⟩
  · cases hq
    trivial
  obtain ⟨-, h₂⟩ := asks_ensure_bind.1 h₁
  obtain ⟨secret, hs, h₃⟩ := asks_orFail_bind.1 h₂
  rcases asks_otp_bind.1 h₃ with ⟨-, hq⟩ | ⟨fits, t₄, rfl, h₄⟩
  · cases hq
  obtain ⟨rfl, h₅⟩ := asks_ensure_bind.1 h₄
  rcases asks_otp_bind.1 h₅ with ⟨-, hq⟩ | ⟨codes, t₆, rfl, h₆⟩
  · cases hq
  rcases asks_users_bind.1 h₆ with ⟨rfl, hq⟩ | ⟨fits, t₇, rfl, h₇⟩
  · cases hq
    exact ⟨claims, r, u, s.recoveryCodes, rfl, rfl, rfl, hs⟩
  · obtain ⟨-, h₈⟩ := asks_ensure_bind.1 h₇
    exact (asks_pure h₈).elim

theorem makes_enableStep1 {s : Service}
    (h : (s.operation (.enableStep1 claims)).Asks t (.users c)) :
    (Call.enableStep1 claims).Makes t c := by
  rcases asks_profile_bind h with ⟨-, hq⟩ | ⟨u, t₁, rfl, h₁⟩
  · cases hq
    trivial
  rcases asks_otp_bind.1 h₁ with ⟨-, hq⟩ | ⟨setup, t₂, rfl, h₂⟩
  · cases hq
  rcases asks_users_bind.1 h₂ with ⟨rfl, hq⟩ | ⟨_, t₃, -, h₃⟩
  · cases hq
    exact ⟨claims, u, setup, rfl, rfl, rfl, rfl⟩
  · exact (asks_pure h₃).elim

/-- Every request that changes something is made by a call of its kind. -/
theorem Service.makes {s : Service} {call : Call} (h : (s.operation call).Asks t (.users c)) :
    call.Makes t c := by
  cases call with
  | register r a =>
      obtain ⟨rfl, hq⟩ := asks_register h
      cases hq
      exact ⟨r, a, rfl, rfl, rfl⟩
  | activate code now =>
      rcases asks_activate h with ⟨-, hq⟩ | ⟨u, rfl, hq⟩
      · cases hq
        trivial
      · cases hq
        exact ⟨u, rfl, rfl, rfl⟩
  | requestPasswordReset r code now =>
      rcases asks_requestPasswordReset h with ⟨-, hq⟩ | ⟨u, rfl, hq⟩
      · cases hq
        trivial
      · cases hq
        exact ⟨r, u, rfl, rfl, rfl⟩
  | resetPassword r salt now =>
      obtain ⟨-, h₁⟩ := asks_validate_bind.1 h
      rcases asks_users_bind.1 h₁ with ⟨rfl, hq⟩ | ⟨found, t₂, -, h₂⟩
      · cases hq
        exact ⟨r, salt, rfl, rfl, rfl⟩
      · exact (asks_ensure h₂).elim
  | changePassword claims r salt now =>
      rcases asks_profile_bind h with ⟨-, hq⟩ | ⟨u, t₁, rfl, h₁⟩
      · cases hq
        trivial
      · obtain ⟨-, h₂⟩ := asks_validate_bind.1 h₁
        obtain ⟨rfl, hq⟩ := asks_users.1 h₂
        cases hq
        exact ⟨claims, r, salt, u, rfl, rfl, rfl⟩
  | profile claims =>
      obtain ⟨_, -, h₁⟩ := asks_ofExcept_bind.1 h
      rcases asks_users_bind.1 h₁ with ⟨-, hq⟩ | ⟨o, t₂, -, h₂⟩
      · cases hq
        trivial
      · exact (asks_orFail h₂).elim
  | authenticate r now =>
      cases asks_authenticate h
      trivial
  | authenticateTwoFa claims r now =>
      rcases asks_authenticateTwoFa h with
        ⟨-, hq⟩ | ⟨u, t₁, rfl, ⟨_, -, -, hq⟩ | ⟨rfl, hq⟩ | ⟨-, hq⟩⟩
      · cases hq
        trivial
      · cases hq
      · cases hq
        exact ⟨claims, r, now, u, rfl, rfl, rfl, rfl⟩
      · cases hq
  | parseToken token second => exact (asks_ofExcept h).elim
  | enableStep1 claims => exact makes_enableStep1 h
  | enableStep2 claims r => exact makes_enableStep2 h
  | disable claims =>
      rcases asks_profile_bind h with ⟨-, hq⟩ | ⟨u, t₁, rfl, h₁⟩
      · cases hq
        trivial
      · obtain ⟨rfl, hq⟩ := asks_users.1 h₁
        cases hq
        exact ⟨claims, u, rfl, rfl, rfl⟩

end Requests

namespace World

variable {s : Service} {w : World}

/-! ## The log so far -/

/-- What a call asked in a part of the log. -/
def traceIn (log : List Entry) (place : Nat) : Trace :=
  (log.filter (·.call == place)).map Entry.exchange

theorem mem_traceIn {log : List Entry} {place : Nat} {x : Exchange serviceSurroundings} :
    x ∈ traceIn log place ↔ ∃ e ∈ log, e.call = place ∧ e.exchange = x := by
  simp [traceIn, and_assoc]

/-- Whatever is in the log was asked by a call after what it had asked before. -/
theorem Coherent.asks (h : w.Coherent s) {past rest : List Entry} {e : Entry}
    (hlog : w.log = past ++ e :: rest) : ∃ call, w.calls[e.call]? = some call ∧
      (s.operation call).Asks (traceIn past e.call) e.query := by
  have hmade := h.made e (by simp [hlog])
  have hrunning := List.getElem?_eq_getElem hmade
  refine ⟨(w.running[e.call]).call, ?_, ?_⟩
  · rw [calls, List.getElem?_map, hrunning]
    rfl
  · have hafter := h.after hrunning
    have htrace : w.trace e.call = traceIn past e.call ++ e.exchange :: traceIn rest e.call := by
      simp [trace, traceIn, hlog]
    rw [htrace] at hafter
    exact hafter.asks

/-- A granted request was made by a call of its kind. -/
theorem Coherent.makes (h : w.Coherent s) {past rest : List Entry} {e : Entry}
    {c : DirectoryCall} (hlog : w.log = past ++ e :: rest) (hc : e.query = .users c) :
    ∃ call, w.calls[e.call]? = some call ∧ call.Makes (traceIn past e.call) c := by
  obtain ⟨call, hcall, hasks⟩ := h.asks hlog
  rw [hc] at hasks
  exact ⟨call, hcall, Service.makes hasks⟩

/-- A call that asks has not been granted a change yet, but for a second step of a login. -/
theorem Coherent.idle_past (h : w.Coherent s) {past rest : List Entry} {e : Entry} {call : Call}
    (hlog : w.log = past ++ e :: rest) (hcall : w.calls[e.call]? = some call)
    (hne : ∀ claims r now, call ≠ .authenticateTwoFa claims r now) :
    ∀ x ∈ past, x.call = e.call → x.granted? = none := by
  intro x hx hplace
  obtain ⟨call', hcall', next, hafter⟩ := h.asks hlog
  obtain rfl := Option.some.inj (hcall.symm.trans hcall')
  by_contra hbusy
  have hmem : x.exchange ∈ traceIn past e.call := mem_traceIn.2 ⟨x, hx, hplace, rfl⟩
  obtain ⟨v, hv⟩ := Operation.careful_operation s hne hafter _ hmem hbusy
  cases hv

/-- Something holds of the log and of the users that it led to, now and whenever something
was asked. -/
structure Throughout (P : List Entry → List User → Prop) (w : World) : Prop where
  /-- It holds now. -/
  now : P w.log w.directory.users
  /-- It held whenever something was asked. -/
  past : ∀ {past rest e}, w.log = past ++ e :: rest → P past e.before.users

/-- What every question keeps holds throughout. -/
theorem throughout_run {P : List Entry → List User → Prop} (s : Service) (start : P [] [])
    (asked : ∀ {w : World} {e : Entry} {call : Call}, w.Coherent s → w.Throughout P →
      w.calls[e.call]? = some call → e.before = w.directory →
      (s.operation call).Asks (w.trace e.call) e.query → P (w.log ++ [e]) e.after.users)
    (moves : List Move) : (empty.run s moves).Throughout P := by
  refine (run_induction .empty ⟨start, by simp [empty]⟩ ?_ moves).2
  intro w w' hw h hs
  cases hs with
  | idle => exact h
  | started call => exact ⟨h.now, h.past⟩
  | refused refusing => exact ⟨h.now, h.past⟩
  | turned e rest here hb asks =>
      refine ⟨asked hw h here hb asks, ?_⟩
      intro past after x hlog
      -- What was asked last sees the world before it; all else was there before.
      rcases List.eq_nil_or_concat after with rfl | ⟨after, last, rfl⟩
      · obtain ⟨rfl, hx⟩ := List.append_inj' hlog rfl
        cases hx
        exact hb ▸ h.now
      · rw [List.concat_eq_append, ← List.cons_append, ← List.append_assoc] at hlog
        obtain ⟨hold, -⟩ := List.append_inj' hlog rfl
        exact h.past hold

/-- Whoever was there at a question is there under the same identity. -/
def Lasting (log : List Entry) (users : List User) : Prop :=
  ∀ e ∈ log, ∀ u ∈ e.before.users, ∃ v ∈ users, v.identity = u.identity

theorem Lasting.asked {log : List Entry} {e : Entry} (h : Lasting log e.before.users) :
    Lasting (log ++ [e]) e.after.users := by
  intro x hx u hu
  have hbefore : ∃ v ∈ e.before.users, v.identity = u.identity := by
    rcases List.mem_append.1 hx with hx | hx
    · exact h x hx u hu
    · rw [List.mem_singleton.1 hx] at hu
      exact ⟨u, hu, rfl⟩
  obtain ⟨v, hv, hid⟩ := hbefore
  obtain ⟨v', hv', hid'⟩ := e.exists_identity hv
  exact ⟨v', hv', hid'.trans hid⟩

/-- Who was found by a public name had it, and is there. -/
theorem Lasting.found {log : List Entry} {users : List User} (h : Lasting log users) {place : Nat}
    {publicId : String} {u : User}
    (hx : .users (.findByPublicId publicId) (.ok (some u)) ∈ traceIn log place) :
    u.publicId = publicId ∧ ∃ v ∈ users, v.identity = u.identity := by
  obtain ⟨y, hy, -, hread⟩ := mem_traceIn.1 hx
  obtain ⟨hmem, hpublic⟩ := Entry.found_publicId hread
  exact ⟨hpublic, h y hy u hmem⟩

end World

end Accounts
