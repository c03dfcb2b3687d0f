import Accounts.Proofs.Service.Redemption
import Accounts.Proofs.Service.SecondFactor
/-!
# A confirmation and what comes in between

The second step of an enrolment reads the secret of an account, has a code of it checked
and turns the second factor on, one question after another.  In between others may store
a new secret, take the second factor away or confirm a secret as well.  The request that
turns the second factor on names the secret that was checked, and it fits an account only
as long as the account has just this secret.

The secret of an account is told from the steps of its enrolment: it is the last one that
was stored, unless the second factor was taken away since then, and confirming it does
not change it (`EnrolmentStep.secretAfter`).  So a step that takes the secret away leaves
nothing that the request fits, until the same secret is stored again.
-/

namespace Accounts

open Operation (Trace)

/-! ## The secret after some steps -/

namespace EnrolmentStep

/-- The secret that an account has after a step. -/
def secretAfter (held : Option String) : EnrolmentStep → Option String
  | stored secret => some secret
  | confirmed _ => held
  | ended => none

/-- The secret that a step stores. -/
def stored? : EnrolmentStep → Option String
  | stored secret => some secret
  | _ => none

/-- The step takes the secret of an account away, be it for another one or for none. -/
def Discards (x : EnrolmentStep) : Prop := x = ended ∨ ∃ secret, x = stored secret

/-- The secret that some steps leave behind. -/
def secretOf (steps : List EnrolmentStep) : Option String := steps.foldl secretAfter none

/-- The secrets that some steps store. -/
def secretsOf (steps : List EnrolmentStep) : List String := steps.filterMap stored?

theorem secretOf_concat (steps : List EnrolmentStep) (x : EnrolmentStep) :
    secretOf (steps ++ [x]) = secretAfter (secretOf steps) x := List.foldl_concat ..

theorem secretsOf_append (first second : List EnrolmentStep) :
    secretsOf (first ++ second) = secretsOf first ++ secretsOf second := List.filterMap_append

/-- What an account has was there before, or it was stored. -/
theorem foldl_secretAfter {steps : List EnrolmentStep} {held : Option String} {secret : String}
    (h : steps.foldl secretAfter held = some secret) :
    held = some secret ∨ secret ∈ secretsOf steps := by
  induction steps generalizing held with
  | nil => exact .inl h
  | cons x steps ih =>
      rcases ih h with hx | hmem
      · cases x with
        | stored new =>
            cases hx
            exact .inr List.mem_cons_self
        | confirmed other => exact .inl hx
        | ended => cases hx
      · obtain ⟨y, hy, hstored⟩ := List.mem_filterMap.1 hmem
        exact .inr (List.mem_filterMap.2 ⟨y, List.mem_cons_of_mem x hy, hstored⟩)

theorem mem_secretsOf {steps : List EnrolmentStep} {secret : String}
    (h : secretOf steps = some secret) : secret ∈ secretsOf steps := by
  rcases foldl_secretAfter h with hnone | hmem
  · cases hnone
  · exact hmem

/-- A secret that is there after it was taken away was stored again. -/
theorem Discards.mem_secretsOf {x : EnrolmentStep} (hx : x.Discards)
    {before after : List EnrolmentStep} {secret : String}
    (h : secretOf (before ++ x :: after) = some secret) : secret ∈ secretsOf (x :: after) := by
  rw [secretOf, List.foldl_append] at h
  have hnone : (x :: after).foldl secretAfter none = some secret := by
    rcases hx with rfl | ⟨new, rfl⟩
    · exact h
    · exact h
  exact EnrolmentStep.mem_secretsOf hnone

end EnrolmentStep

/-! ## How second steps of enrolments end -/

namespace Operation

variable {t : Trace} {claims : Claims} {r : TwoFaCodeRequest} {count : Nat}

theorem ends_profile_bind_ok {α : Type} {a : α} {f : User → Operation α}
    (h : (profile claims >>= f).Ends t (.ok a)) :
    ∃ u t', t = .users (.findByPublicId claims.sub) (.ok (some u)) :: t' ∧
      (f u).Ends t' (.ok a) := by
  rw [profile, bind_assoc] at h
  obtain ⟨_, -, h₁⟩ := ends_ofExcept_bind_ok h
  rw [bind_assoc] at h₁
  obtain ⟨o, t₁, rfl, h₂⟩ := ends_users_bind_ok h₁
  obtain ⟨u, rfl, h₃⟩ := ends_orFail_bind_ok h₂
  exact ⟨u, t₁, rfl, h₃⟩

section After

variable {α β : Type} {f : α → Operation β} {x : Exchange serviceSurroundings}
  {p : Dialogue serviceSurroundings (Except AccountError β)}

/-- Where a question leads that got a reply. -/
theorem after_question_bind {q : serviceSurroundings.Query} {f : q.Result → Operation β}
    {a : q.Result} (h : (question q >>= f).run.After (⟨q, .ok a⟩ :: t) p) :
    (f a).run.After t p := by
  rw [run_question_bind] at h
  cases h with
  | reply h => exact h

theorem query_of_after {q : serviceSurroundings.Query} {f : q.Result → Operation β}
    (h : (question q >>= f).run.After (x :: t) p) : x.query = q := by
  rw [run_question_bind] at h
  cases h with
  | reply h => rfl

/-- Whoever asked something was not stopped before. -/
theorem after_ofExcept_bind {r : Except AccountError α}
    (h : (ofExcept r >>= f).run.After (x :: t) p) :
    ∃ a, r = .ok a ∧ (f a).run.After (x :: t) p := by
  cases r with
  | ok a => exact ⟨a, rfl, h⟩
  | error e => cases (Dialogue.after_done_iff.1 h).1

theorem after_ensure_bind {condition : Bool} {e : AccountError} {f : Unit → Operation β}
    (h : (ensure condition e >>= f).run.After (x :: t) p) : (f ()).run.After (x :: t) p := by
  cases condition with
  | true => exact h
  | false => cases (Dialogue.after_done_iff.1 h).1

theorem after_profile_bind {f : User → Operation β} {u : User}
    (h : (profile claims >>= f).run.After
      (.users (.findByPublicId claims.sub) (.ok (some u)) :: t) p) : (f u).run.After t p := by
  rw [profile, bind_assoc] at h
  obtain ⟨_, -, h₁⟩ := after_ofExcept_bind h
  rw [bind_assoc] at h₁
  exact after_question_bind h₁

end After

/-- The questions of a second step whose code fits, with a reply to the last one. -/
def confirmation (claims : Claims) (u : User) (secret code : String) (count : Nat)
    (codes : List String) (found : Bool) : Trace :=
  [.users (.findByPublicId claims.sub) (.ok (some u)), .otp (.validate secret code) (.ok true),
    .otp (.recoveryCodes count) (.ok codes), .users (.enableOtp u.id secret codes) (.ok found)]

/-- A second step that succeeds replies the recovery codes that it stored. -/
theorem ends_enableStep2_ok {codes : List String}
    (h : (enableStep2 count claims r).Ends t (.ok codes)) : ∃ u secret,
      u.otpSecret = some secret ∧ t = confirmation claims u secret r.code count codes true := by
  obtain ⟨u, t₁, rfl, h₁⟩ := ends_profile_bind_ok h
  obtain ⟨-, h₂⟩ := ends_ensure_bind_ok h₁
  obtain ⟨secret, hs, h₃⟩ := ends_orFail_bind_ok h₂
  obtain ⟨fits, t₄, rfl, h₄⟩ := ends_otp_bind_ok h₃
  obtain ⟨rfl, h₅⟩ := ends_ensure_bind_ok h₄
  obtain ⟨codes', t₆, rfl, h₆⟩ := ends_otp_bind_ok h₅
  obtain ⟨found, t₇, rfl, h₇⟩ := ends_users_bind_ok h₆
  obtain ⟨rfl, h₈⟩ := ends_ensure_bind_ok h₇
  obtain ⟨rfl, hcodes⟩ := ends_pure.1 h₈
  cases hcodes
  exact ⟨u, secret, hs, rfl⟩

/-- A second step whose last request fits nobody has ended: its code is wrong. -/
theorem after_confirmation {u : User} {secret : String} {codes : List String} {count' : Nat}
    (hs : u.otpSecret = some secret)
    {p : Dialogue serviceSurroundings (Except AccountError (List String))}
    (h : (enableStep2 count claims r).run.After
      (confirmation claims u secret r.code count' codes false ++ t) p) :
    p = .done (.error .invalidOtpCode) := by
  have h₁ := after_ensure_bind (after_profile_bind h)
  rw [hs] at h₁
  have h₂ := after_ensure_bind (after_question_bind h₁)
  cases query_of_after h₂
  have h₃ := after_question_bind (after_question_bind h₂)
  exact (Dialogue.after_done_iff.1 h₃).2

end Operation

namespace World

variable {s : Service} {w : World} {e : Entry} {id : Int} {secret : String}

/-! ## The secret of an account -/

/-- A request to turn the second factor on that was granted found the secret that it names. -/
theorem changed_of_enableOtp {codes : List String}
    (hg : e.granted? = some (.enableOtp id secret codes)) :
    ∃ before u after, e.before.users = before ++ u :: after ∧ u.id = id ∧
      u.otpSecret = some secret ∧ e.after =
        ⟨before ++ { u with otpRecoveryCodes := codes, otpEnabled := true } :: after,
          e.before.outbox⟩ := by
  obtain ⟨before, u, after, hu, hfits, ha⟩ := e.changed_of_granted hg rfl (by simp)
  obtain ⟨hid, hsecret⟩ : u.id = id ∧ u.otpSecret = some secret := by
    simpa [DirectoryCall.fits] using hfits
  refine ⟨before, u, after, hu, hid, hsecret, ?_⟩
  rw [ha]
  congr 1
  exact e.before.announced_nil e.moment.clock

/-- A secret is confirmed while the account has it. -/
theorem secret_of_confirmed (hnum : e.before.Numbered) {u : User} (hu : u ∈ e.before.users)
    (hx : enrolment? u.id e = some (.confirmed secret)) : u.otpSecret = some secret := by
  obtain ⟨c, hg, hstep⟩ := enrolment?_eq_some.1 hx
  obtain ⟨codes, rfl⟩ := DirectoryCall.enrolment?_confirmed.1 hstep
  obtain ⟨before, v, after, hv, hid, hsecret, -⟩ := changed_of_enableOtp hg
  have hmem : v ∈ e.before.users := by
    rw [hv]
    exact List.mem_append_right _ List.mem_cons_self
  rwa [← hnum.eq_of_id hmem hu hid]

/-- The log tells the second factors and the secrets of the users. -/
structure SecretsTold (log : List Entry) (users : List User) : Prop where
  /-- The log tells the second factors. -/
  enrolled : Enrolled log users
  /-- The log tells the secrets. -/
  secret : ∀ u ∈ users, u.otpSecret = EnrolmentStep.secretOf (enrolment log u.id)

theorem secretsTold_run (s : Service) (moves : List Move) :
    (empty.run s moves).Throughout SecretsTold := by
  have hnobody : Enrolled [] [] := ⟨by simp [Lasting], fun _ h => (h rfl).elim, by simp⟩
  have hstart : SecretsTold [] [] := ⟨hnobody, by simp⟩
  refine throughout_run s hstart ?_ moves
  intro w e call hw h _ hb hasks
  have hnum : e.before.Numbered := hb ▸ hw.numbered
  have htold := hb ▸ h.now.secret
  refine ⟨h.now.enrolled.asked hw hb hasks, ?_⟩
  intro v hv
  rw [enrolment_concat]
  rcases secondFactor_asked hnum hv with ⟨u, hu, hid, hf⟩ | ⟨hid, hf, hnone⟩
  · have hsecret := congrArg SecondFactor.secret hf
    rw [← hid] at hsecret ⊢
    cases hx : enrolment? u.id e with
    | none =>
        rw [hx] at hsecret
        rw [Option.toList_none, List.append_nil, ← htold u hu]
        exact hsecret
    | some x =>
        rw [hx] at hsecret
        rw [Option.toList_some, EnrolmentStep.secretOf_concat, ← htold u hu]
        cases x with
        | stored new => exact hsecret
        | confirmed old =>
            rw [secret_of_confirmed hnum hu hx]
            exact hsecret
        | ended => exact hsecret
  · -- Nothing was told of a number that nobody had.
    have hnil : enrolment w.log v.id = [] := by
      by_contra hne
      obtain ⟨u, hu, huid⟩ := h.now.enrolled.known v.id hne
      have := hnum.id_le (hb ▸ hu)
      omega
    rw [hnone, hnil]
    exact congrArg SecondFactor.secret hf

/-! ## What a second step does -/

section Confirm

variable {place : Nat} {claims : Claims} {r : TwoFaCodeRequest} {past rest : List Entry}

theorem traceIn_append (first second : List Entry) (place : Nat) :
    traceIn (first ++ second) place = traceIn first place ++ traceIn second place := by
  rw [traceIn, List.filter_append, List.map_append]
  rfl

theorem trace_split (hlog : w.log = past ++ e :: rest) (hplace : e.call = place) :
    w.trace place = traceIn past place ++ e.exchange :: traceIn rest place := by
  have hcons : traceIn (e :: rest) place = e.exchange :: traceIn rest place := by
    rw [traceIn, List.filter_cons_of_pos (by simp [hplace]), List.map_cons]
    rfl
  rw [trace, ← traceIn, hlog, traceIn_append, hcons]

/-- What a second step asks before it turns the second factor on. -/
theorem Coherent.before_enableOtp (hw : w.Coherent s) (hlog : w.log = past ++ e :: rest)
    {codes : List String} (hq : e.query = .users (.enableOtp id secret codes)) :
    ∃ claims r u count, w.calls[e.call]? = some (.enableStep2 claims r) ∧ u.id = id ∧
      u.otpSecret = some secret ∧ traceIn past e.call =
        [.users (.findByPublicId claims.sub) (.ok (some u)),
          .otp (.validate secret r.code) (.ok true), .otp (.recoveryCodes count) (.ok codes)] := by
  obtain ⟨call, hcall, claims, r, u, count, rfl, ht, hid, hsecret⟩ := hw.makes hlog hq
  exact ⟨claims, r, u, count, hcall, hid.symm, hsecret, ht⟩

/-- An account that was read and has a number is there under that number. -/
theorem user_of_read {u v : User} (hd : e.before.Numbered)
    (hl : Lasting past e.before.users)
    (hread : .users (.findByPublicId claims.sub) (.ok (some u)) ∈ traceIn past place)
    (hv : v ∈ e.before.users) (hid : v.id = u.id) : v.publicId = claims.sub := by
  obtain ⟨hpublic, v', hv', hidentity⟩ := hl.found hread
  have hid' : v'.id = v.id := (congrArg Identity.id hidentity).trans hid.symm
  rw [← hd.eq_of_id hv' hv hid', ← hpublic]
  exact congrArg Identity.publicId hidentity

/-- The only change of a second step that succeeds. -/
theorem confirmed_of_returned (s : Service) (moves : List Move) {codes : List String}
    (h : (empty.run s moves).Returned place (.enableStep2 claims r) (.ok codes)) :
    ∃ past e rest before u after secret, (empty.run s moves).log = past ++ e :: rest ∧
      e.call = place ∧ .otp (.validate secret r.code) (.ok true) ∈ traceIn past place ∧
      e.before.users = before ++ u :: after ∧ u.publicId = claims.sub ∧
      u.otpSecret = some secret ∧ e.after =
        ⟨before ++ { u with otpRecoveryCodes := codes, otpEnabled := true } :: after,
          e.before.outbox⟩ ∧
      ∀ x ∈ past ++ rest, x.call = place → x.after = x.before := by
  have hw : (empty.run s moves).Coherent s := Coherent.empty.run moves
  have htold := secretsTold_run s moves
  generalize empty.run s moves = w at h hw htold ⊢
  obtain ⟨u, secret, -, ht⟩ := Operation.ends_enableStep2_ok (hw.ends h)
  obtain ⟨e, he, rfl, hexchange⟩ : ∃ e ∈ w.log, e.call = place ∧
      e.exchange = .users (.enableOtp u.id secret codes) (.ok true) := by
    refine mem_trace.1 ?_
    rw [ht]
    simp [Operation.confirmation]
  obtain ⟨past, rest, hlog⟩ := List.append_of_mem he
  obtain ⟨claims', r', v, count, hcall, hid, -, hasked⟩ :=
    hw.before_enableOtp hlog (congrArg Exchange.query hexchange)
  cases (calls_of_returned h).symm.trans hcall
  have hg : e.granted? = some (.enableOtp u.id secret codes) :=
    (congrArg Exchange.granted? hexchange).trans (Exchange.granted?_users rfl)
  obtain ⟨before, x, after, hx, hxid, hxsecret, ha⟩ := changed_of_enableOtp hg
  -- Its other questions come before, so there is nothing after that it could have changed.
  have hnothing : traceIn rest e.call = [] := by
    have hlength := congrArg List.length (ht.symm.trans (trace_split hlog rfl))
    rw [List.length_append, List.length_cons, hasked] at hlength
    have hfour : 4 = 3 + ((traceIn rest e.call).length + 1) := hlength
    exact List.eq_nil_of_length_eq_zero (by omega)
  refine ⟨past, e, rest, before, x, after, secret, hlog, rfl, ?_, hx, ?_, hxsecret, ha, ?_⟩
  · rw [hasked]
    simp
  · exact user_of_read (hw.recorded e he) (htold.past hlog).enrolled.lasting
      (hasked ▸ List.mem_cons_self) (by simp [hx]) (hxid.trans hid.symm)
  · intro y hy hplace
    rcases List.mem_append.1 hy with hy | hy
    · exact Entry.after_of_idle (hw.idle_past hlog hcall (by simp) y hy hplace)
    · have hmem : y.exchange ∈ traceIn rest e.call := mem_traceIn.2 ⟨y, hy, hplace, rfl⟩
      rw [hnothing] at hmem
      cases hmem

/-- Only a code of the secret that an account has at that moment turns its second factor on. -/
theorem enabled_of_asked (s : Service) (moves : List Move) {past rest : List Entry} {e : Entry}
    (hlog : (empty.run s moves).log = past ++ e :: rest) {u v : User} (hu : u ∈ e.before.users)
    (hv : v ∈ e.after.users) (hid : v.id = u.id) (hoff : u.otpEnabled = false)
    (hon : v.otpEnabled = true) :
    ∃ claims r secret, (empty.run s moves).calls[e.call]? = some (.enableStep2 claims r) ∧
      u.publicId = claims.sub ∧ .otp (.validate secret r.code) (.ok true) ∈ traceIn past e.call ∧
      u.otpSecret = some secret ∧ v.otpSecret = some secret := by
  have hw : (empty.run s moves).Coherent s := Coherent.empty.run moves
  have hl := ((secretsTold_run s moves).past hlog).enrolled.lasting
  have hnum : e.before.Numbered := hw.recorded e (by simp [hlog])
  rcases secondFactor_asked hnum hv with ⟨u', hu', hid', hf⟩ | ⟨hnew, -, -⟩
  · obtain rfl := hnum.eq_of_id hu' hu (hid'.trans hid)
    rw [hid] at hf
    have henabled := congrArg SecondFactor.enabled hf
    have hsecret := congrArg SecondFactor.secret hf
    cases hx : enrolment? u'.id e with
    | none =>
        rw [hx] at henabled
        cases hoff.symm.trans (henabled.symm.trans hon)
    | some x =>
        rw [hx] at henabled hsecret
        cases x with
        | stored new => cases hoff.symm.trans (henabled.symm.trans hon)
        | ended => cases henabled.symm.trans hon
        | confirmed secret =>
            obtain ⟨c, hg, hstep⟩ := enrolment?_eq_some.1 hx
            obtain ⟨codes, rfl⟩ := DirectoryCall.enrolment?_confirmed.1 hstep
            obtain ⟨reply, hexchange, -⟩ := Exchange.granted?_eq_some.1 hg
            obtain ⟨claims, r, x, count, hcall, hxid, -, hasked⟩ :=
              hw.before_enableOtp hlog (congrArg Exchange.query hexchange)
            refine ⟨claims, r, secret, hcall, ?_, by simp [hasked], ?_, hsecret⟩
            · exact user_of_read hnum hl (hasked ▸ List.mem_cons_self) hu hxid.symm
            · exact secret_of_confirmed hnum hu hx
  · have := hnum.id_le hu
    omega

/-! ## What comes in between -/

theorem enrolment_append (first second : List Entry) (id : Int) :
    enrolment (first ++ second) id = enrolment first id ++ enrolment second id :=
  List.filterMap_append

theorem enrolment_cons {x : Entry} {y : EnrolmentStep} (hx : enrolment? id x = some y)
    (log : List Entry) : enrolment (x :: log) id = y :: enrolment log id :=
  List.filterMap_cons_some hx

/-- When no secret is stored twice, one that was read is not stored again. -/
theorem not_stored_again (h : w.Throughout SecretsTold) {more : List Entry} {u : User}
    (hlog : w.log = past ++ more)
    (hread : .users (.findByPublicId claims.sub) (.ok (some u)) ∈ traceIn past place)
    (hs : u.otpSecret = some secret)
    (hnew : (EnrolmentStep.secretsOf (enrolment w.log u.id)).Nodup) :
    secret ∉ EnrolmentStep.secretsOf (enrolment more u.id) := by
  intro hagain
  obtain ⟨z, hz, -, hfound⟩ := mem_traceIn.1 hread
  obtain ⟨first, second, rfl⟩ := List.append_of_mem hz
  obtain ⟨hu, -⟩ := Entry.found_publicId hfound
  have hlog' : w.log = first ++ z :: (second ++ more) := by simp [hlog]
  have hstored : secret ∈ EnrolmentStep.secretsOf (enrolment first u.id) :=
    EnrolmentStep.mem_secretsOf (((h.past hlog').secret u hu).symm.trans hs)
  rw [hlog, enrolment_append, EnrolmentStep.secretsOf_append, enrolment_append,
    EnrolmentStep.secretsOf_append] at hnew
  exact (List.nodup_append.1 hnew).2.2 secret (List.mem_append_left _ hstored) secret hagain rfl

/-- Nobody has a secret that was discarded and not stored again. -/
theorem secret_ne_of_discarded (h : w.Throughout SecretsTold) {since : List Entry} {x : Entry}
    (hlog : w.log = past ++ x :: since ++ e :: rest) {v : User} {y : EnrolmentStep}
    (hx : enrolment? id x = some y) (hy : y.Discards)
    (hnew : secret ∉ EnrolmentStep.secretsOf (enrolment (x :: since) id))
    (hv : v ∈ e.before.users) (hid : v.id = id) : v.otpSecret ≠ some secret := by
  intro hvs
  have htold := (h.past hlog).secret v hv
  rw [hvs, hid, enrolment_append, enrolment_cons hx] at htold
  rw [enrolment_cons hx] at hnew
  exact hnew (hy.mem_secretsOf htold.symm)

/-- A second step whose secret was discarded in between fails, and it says that its code is
wrong. -/
theorem returned_of_discarded (s : Service) (moves : List Move) {past since rest : List Entry}
    {x e : Entry} {u : User} {y : EnrolmentStep} {codes : List String}
    (hcall : (empty.run s moves).calls[place]? = some (.enableStep2 claims r))
    (hlog : (empty.run s moves).log = past ++ x :: since ++ e :: rest)
    (hread : .users (.findByPublicId claims.sub) (.ok (some u)) ∈ traceIn past place)
    (hx : enrolment? u.id x = some y) (hy : y.Discards)
    (hnew : secret ∉ EnrolmentStep.secretsOf (enrolment (x :: since) u.id))
    (hplace : e.call = place) (hq : e.query = .users (.enableOtp u.id secret codes))
    (hf : e.moment.failure = none) : e.after = e.before ∧
      (empty.run s moves).Returned place (.enableStep2 claims r) (.error .invalidOtpCode) := by
  have hw : (empty.run s moves).Coherent s := Coherent.empty.run moves
  have htold := secretsTold_run s moves
  generalize empty.run s moves = w at hcall hlog hw htold ⊢
  subst hplace
  obtain ⟨claims', r', u', count, hcall', -, hs, hasked⟩ := hw.before_enableOtp hlog hq
  cases hcall.symm.trans hcall'
  have hu : u' = u := by
    have hmem : Exchange.users (.findByPublicId claims.sub) (.ok (some u)) ∈
        traceIn (past ++ x :: since) e.call := by
      rw [traceIn_append]
      exact List.mem_append_left _ hread
    rw [hasked] at hmem
    rcases List.mem_cons.1 hmem with hfound | hmem
    · cases hfound
      rfl
    · rcases List.mem_pair.1 hmem with hother | hother
      · cases hother
      · cases hother
  subst hu
  have hnobody : e.before.users.any (DirectoryCall.enableOtp u'.id secret codes).fits = false := by
    refine List.any_eq_false.2 fun v hv hfits => ?_
    obtain ⟨hid, hvs⟩ : v.id = u'.id ∧ v.otpSecret = some secret := by
      simpa [DirectoryCall.fits] using hfits
    exact secret_ne_of_discarded htold hlog hx hy hnew hv hid hvs
  have hreply := Directory.mutate_of_none hnobody e.moment.clock []
    (DirectoryCall.enableOtp u'.id secret codes).edit
  obtain ⟨hexchange, ha⟩ := Entry.exchange_of_none hf hq
  have hfalse : e.exchange = .users (.enableOtp u'.id secret codes) (.ok false) :=
    hexchange.trans (congrArg (Exchange.users (.enableOtp u'.id secret codes) ∘ Prod.fst) hreply)
  refine ⟨ha.trans (congrArg Prod.snd hreply), ?_⟩
  obtain ⟨⟨call, p⟩, hrunning, rfl⟩ : ∃ z : Running, w.running[e.call]? = some z ∧
      z.call = .enableStep2 claims r := by simpa [calls] using hcall
  have hafter := hw.after hrunning
  rw [trace_split hlog rfl, hasked, hfalse] at hafter
  obtain rfl : p = .done (.error .invalidOtpCode) := Operation.after_confirmation hs hafter
  exact hrunning

end Confirm

/-- **Confirming a secret survives what comes in between.**  In every world that can be
reached:
- a second step of an enrolment that succeeds has changed its account once; at that moment
  the account had the very secret that the code was checked against, it was given the
  recovery codes that are replied and asked for the second factor from then on, and nothing
  else changed, neither the secret nor another user nor the outbox;
- a second step that fails has changed nothing;
- a second factor is turned on only by a code of the secret that the account has at that
  moment;
- when the secret is discarded after the account was read, by an end of the second factor
  or by a new secret, then the last request of the second step changes nothing, and the
  second step fails as if its code were wrong, unless the very same secret is stored again;
- it is not, when no secret is stored twice. -/
theorem confirmation_survives_races (s : Service) (moves : List Move) :
    let w := empty.run s moves
    (∀ place claims r codes, w.Returned place (.enableStep2 claims r) (.ok codes) →
      ∃ past e rest before u after secret, w.log = past ++ e :: rest ∧ e.call = place ∧
        .otp (.validate secret r.code) (.ok true) ∈ traceIn past place ∧
        e.before.users = before ++ u :: after ∧ u.publicId = claims.sub ∧
        u.otpSecret = some secret ∧ e.after =
          ⟨before ++ { u with otpRecoveryCodes := codes, otpEnabled := true } :: after,
            e.before.outbox⟩ ∧
        ∀ x ∈ past ++ rest, x.call = place → x.after = x.before) ∧
    (∀ place claims r error, w.Returned place (.enableStep2 claims r) (.error error) →
      ∀ e ∈ w.log, e.call = place → e.after = e.before) ∧
    (∀ past e rest, w.log = past ++ e :: rest → ∀ u ∈ e.before.users, ∀ v ∈ e.after.users,
      v.id = u.id → u.otpEnabled = false → v.otpEnabled = true →
      ∃ claims r secret, w.calls[e.call]? = some (.enableStep2 claims r) ∧
        u.publicId = claims.sub ∧ .otp (.validate secret r.code) (.ok true) ∈ traceIn past e.call ∧
        u.otpSecret = some secret ∧ v.otpSecret = some secret) ∧
    (∀ place claims r u secret codes past x since e rest,
      w.calls[place]? = some (.enableStep2 claims r) →
      w.log = past ++ x :: since ++ e :: rest →
      .users (.findByPublicId claims.sub) (.ok (some u)) ∈ traceIn past place →
      (∃ y, enrolment? u.id x = some y ∧ y.Discards) →
      secret ∉ EnrolmentStep.secretsOf (enrolment (x :: since) u.id) →
      e.call = place → e.query = .users (.enableOtp u.id secret codes) → e.moment.failure = none →
      e.after = e.before ∧ w.Returned place (.enableStep2 claims r) (.error .invalidOtpCode)) ∧
    ∀ place (claims : Claims) (u : User) secret past x since more,
      w.log = past ++ x :: since ++ more →
      .users (.findByPublicId claims.sub) (.ok (some u)) ∈ traceIn past place →
      u.otpSecret = some secret → (EnrolmentStep.secretsOf (enrolment w.log u.id)).Nodup →
      secret ∉ EnrolmentStep.secretsOf (enrolment (x :: since) u.id) := by
  intro w
  have hw : w.Coherent s := Coherent.empty.run moves
  refine ⟨?changed, ?unchanged, ?enabled, ?discarded, ?unrepeated⟩
  case changed =>
    intro place claims r codes h
    exact confirmed_of_returned s moves h
  case unchanged =>
    intro place claims r error h
    exact hw.unchanged h (by simp)
  case enabled =>
    intro past e rest hlog u hu v hv hid hoff hon
    exact enabled_of_asked s moves hlog hu hv hid hoff hon
  case discarded =>
    intro place claims r u secret codes past x since e rest hcall hlog hread ⟨y, hx, hy⟩ hnew
      hplace hq hf
    exact returned_of_discarded s moves hcall hlog hread hx hy hnew hplace hq hf
  case unrepeated =>
    intro place claims u secret past x since more hlog hread hs hnew
    have hlog' : w.log = past ++ (x :: since ++ more) := by rw [hlog, List.append_assoc]
    have hmore := not_stored_again (secretsTold_run s moves) hlog' hread hs hnew
    rw [enrolment_append, EnrolmentStep.secretsOf_append] at hmore
    exact fun hmem => hmore (List.mem_append_left _ hmem)

namespace Sample

/-- A secret is confirmed, and confirmed once more while a new one is stored. -/
def overtaken : List Move := enrolment ++ [
  .start (.enableStep2 (claims .user) ⟨"000000"⟩), .turn 4 moment, .turn 4 moment,
  .start (.enableStep1 (claims .user)), .turn 5 replacing, .turn 5 replacing, .turn 5 replacing,
  .turn 4 moment, .turn 4 moment]

end Sample

open Sample in
/-- Of two second steps with the same code the one succeeds that nothing overtakes, and the other
one is refused. -/
theorem confirmation_overtaken :
    let w := empty.run (service (.ofSeconds 900)) overtaken
    (∃ past e rest, w.log = past ++ e :: rest ∧ e.call = 3 ∧
      ∀ x ∈ past ++ rest, x.call = 3 → x.after = x.before) ∧
    w.Returned 3 (.enableStep2 (claims .user) ⟨"000000"⟩) (.ok ["123456", "654321"]) ∧
    w.Returned 4 (.enableStep2 (claims .user) ⟨"000000"⟩) (.error .invalidOtpCode) := by
  intro w
  obtain ⟨hchanged, -, -, hdiscarded, -⟩ :=
    confirmation_survives_races (service (.ofSeconds 900)) overtaken
  have hfirst : w.Returned 3 (.enableStep2 (claims .user) ⟨"000000"⟩)
      (.ok ["123456", "654321"]) := rfl
  obtain ⟨past, e, rest, -, -, -, -, hlog, hplace, -, -, -, -, -, honly⟩ :=
    hchanged 3 (claims .user) ⟨"000000"⟩ ["123456", "654321"] hfirst
  refine ⟨⟨past, e, rest, hlog, hplace, honly⟩, hfirst, ?_⟩
  obtain ⟨x, hx, hstored⟩ : ∃ x, w.log[14]? = some x ∧
      enrolment? 1 x = some (.stored "other") := ⟨_, rfl, rfl⟩
  obtain ⟨y, hy, hcall, hquery, hfailure⟩ : ∃ y, w.log[16]? = some y ∧ y.call = 4 ∧
      y.query = .users (.enableOtp 1 "secret" ["123456", "654321"]) ∧ y.moment.failure = none :=
    ⟨_, rfl, rfl, rfl, rfl⟩
  have hsplit : w.log = w.log.take 14 ++ x :: (w.log.drop 15).take 1 ++ y :: [] := by
    cases hx
    cases hy
    rfl
  obtain ⟨u, hread, hid⟩ : ∃ u, (traceIn (w.log.take 14) 4).head? =
      some (.users (.findByPublicId "user") (.ok (some u))) ∧ u.id = 1 := ⟨_, rfl, rfl⟩
  have hnew : "secret" ∉ EnrolmentStep.secretsOf (enrolment (x :: (w.log.drop 15).take 1) 1) := by
    cases hx
    decide
  rw [← hid] at hstored hquery hnew
  exact (hdiscarded 4 (claims .user) ⟨"000000"⟩ u "secret" _ _ x _ y [] rfl hsplit
    (List.mem_of_head? hread) ⟨_, hstored, .inr ⟨"other", rfl⟩⟩ hnew hcall hquery hfailure).2

end World

end Accounts
