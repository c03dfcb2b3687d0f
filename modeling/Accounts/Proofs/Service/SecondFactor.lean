import Accounts.Proofs.Service.History
import Mathlib.Data.List.Induction
/-!
# Second factors and their secrets

Three requests decide on the second factor of an account: a secret is stored, it is
confirmed, and the second factor is taken away.  Nothing else changes the secret or
whether it is asked for, so both can be told from the history of these three steps.

An account with a second factor has been confirmed at some time, and since then there
were new secrets at most.  A new secret replaces the confirmed one at once, and from
then on current codes are checked against the new one.
-/

namespace Accounts

open Operation (Trace)

/-! ## Steps of an enrolment -/

/-- A step of the enrolment of an account. -/
inductive EnrolmentStep
  /-- A new secret is stored. -/
  | stored (secret : String)
  /-- A secret is confirmed. -/
  | confirmed (secret : String)
  /-- The second factor is taken away. -/
  | ended

/-- What a second factor is like. -/
structure SecondFactor where
  /-- It is asked for. -/
  enabled : Bool
  /-- The secret against which current codes are checked. -/
  secret : Option String

def User.secondFactor (u : User) : SecondFactor := ⟨u.otpEnabled, u.otpSecret⟩

namespace SecondFactor

/-- What a step makes of a second factor. -/
def after (f : SecondFactor) : EnrolmentStep → SecondFactor
  | .stored secret => { f with secret := some secret }
  | .confirmed secret => ⟨true, some secret⟩
  | .ended => ⟨false, none⟩

/-- What steps make of an account without a second factor. -/
def ofSteps (steps : List EnrolmentStep) : SecondFactor := steps.foldl after ⟨false, none⟩

theorem ofSteps_concat (steps : List EnrolmentStep) (x : EnrolmentStep) :
    ofSteps (steps ++ [x]) = (ofSteps steps).after x := List.foldl_concat ..

/-- A second factor that is asked for was confirmed, and there were new secrets at most
since then; the last of them counts. -/
theorem ofSteps_enabled {steps : List EnrolmentStep} (h : (ofSteps steps).enabled = true) :
    ∃ (before : List EnrolmentStep) (confirmed : String) (renewed : List String),
      steps = before ++ .confirmed confirmed :: renewed.map EnrolmentStep.stored ∧
      (ofSteps steps).secret = some (renewed.getLastD confirmed) := by
  -- The last step decides, so the induction is on the steps from the end.
  induction steps using List.reverseRecOn with
  | nil => cases h
  | append_singleton steps x ih =>
      rw [ofSteps_concat] at h ⊢
      cases x with
      | stored secret =>
          obtain ⟨before, confirmed, renewed, hsteps, -⟩ := ih h
          refine ⟨before, confirmed, renewed ++ [secret], ?_, ?_⟩
          · simp [hsteps]
          · simp [after]
      | confirmed secret => exact ⟨steps, secret, [], rfl, rfl⟩
      | ended => cases h

end SecondFactor

namespace DirectoryCall

/-- The step that a request is in the enrolment of a user. -/
def enrolment? (id : Int) : DirectoryCall → Option EnrolmentStep
  | setOtpSecret i secret => if i = id then some (.stored secret) else none
  | enableOtp i secret _ => if i = id then some (.confirmed secret) else none
  | disableOtp i => if i = id then some .ended else none
  | _ => none

variable {c : DirectoryCall} {u : User}

theorem enrolment?_stored {id : Int} {secret : String} :
    c.enrolment? id = some (.stored secret) ↔ c = setOtpSecret id secret := by
  cases c <;> simp [enrolment?, and_comm]

theorem enrolment?_confirmed {id : Int} {secret : String} :
    c.enrolment? id = some (.confirmed secret) ↔ ∃ codes, c = enableOtp id secret codes := by
  cases c <;> simp [enrolment?]

/-- A request is a step of the enrolment of the user that it fits. -/
theorem id_of_enrolment? {id : Int} {x : EnrolmentStep} (h : c.enrolment? id = some x)
    (hfits : c.fits u = true) : u.id = id := by
  cases c with
  | setOtpSecret | enableOtp | disableOtp =>
      obtain ⟨rfl, -⟩ := Option.ite_none_right_eq_some.1 h
      simp_all [fits]
  | _ => cases h

/-- A silent request is a step only for users whom it fits. -/
theorem fits_of_enrolment? {x : EnrolmentStep} (hs : c.silent = true)
    (h : c.enrolment? u.id = some x) : c.fits u = true := by
  cases c with
  | setOtpSecret | disableOtp =>
      obtain ⟨rfl, -⟩ := Option.ite_none_right_eq_some.1 h
      exact beq_self_eq_true u.id
  | updatePassword => cases h
  | _ => cases hs

/-- Requests that are no steps leave the second factor as it is. -/
theorem secondFactor_edit (hfits : c.fits u = true) :
    (c.edit u).secondFactor =
      ((c.enrolment? u.id).map u.secondFactor.after).getD u.secondFactor := by
  cases c with
  | setOtpSecret | enableOtp | disableOtp =>
      simp_all [fits, enrolment?, edit, User.secondFactor, SecondFactor.after]
  | _ => rfl

end DirectoryCall

namespace World

/-! ## Histories -/

/-- The step that something in the log was in the enrolment of a user. -/
def enrolment? (id : Int) (e : Entry) : Option EnrolmentStep := e.granted?.bind (·.enrolment? id)

/-- The enrolment of a user, as the log tells it. -/
def enrolment (log : List Entry) (id : Int) : List EnrolmentStep := log.filterMap (enrolment? id)

/-- The log tells of users who are there, and it tells their second factors. -/
structure Enrolled (log : List Entry) (users : List User) : Prop where
  /-- Whoever was there is still there. -/
  lasting : Lasting log users
  /-- The log tells of users who are there. -/
  known : ∀ id, enrolment log id ≠ [] → ∃ u ∈ users, u.id = id
  /-- The log tells the second factors. -/
  told : ∀ u ∈ users, u.secondFactor = .ofSteps (enrolment log u.id)

variable {s : Service} {w : World} {e : Entry} {call : Call} {id : Int} {x : EnrolmentStep}

theorem enrolment_concat (log : List Entry) (e : Entry) (id : Int) :
    enrolment (log ++ [e]) id = enrolment log id ++ (enrolment? id e).toList := by
  rw [enrolment, List.filterMap_append, enrolment]
  cases h : enrolment? id e <;> simp [h]

theorem enrolment?_eq_some : enrolment? id e = some x ↔
    ∃ c, e.granted? = some c ∧ c.enrolment? id = some x := Option.bind_eq_some_iff

/-- Every step is about a user whom the call read before.  So the log tells of nobody who
is still to come, and a new user starts without steps. -/
theorem mem_of_enrolment? (h : Lasting w.log w.directory.users)
    (hasks : (s.operation call).Asks (w.trace e.call) e.query)
    (hx : enrolment? id e = some x) : ∃ u ∈ w.directory.users, u.id = id := by
  obtain ⟨c, hc, hstep⟩ := enrolment?_eq_some.1 hx
  obtain ⟨r, hexchange, -⟩ := Exchange.granted?_eq_some.1 hc
  have hquery : e.query = .users c := congrArg Exchange.query hexchange
  rw [hquery] at hasks
  have hmakes := Service.makes hasks
  have hread : ∀ {claims : Claims} {u : User},
      .users (.findByPublicId claims.sub) (.ok (some u)) ∈ traceIn w.log e.call → u.id = id →
      ∃ u ∈ w.directory.users, u.id = id := by
    intro claims u hmem hid
    obtain ⟨-, v, hv, hidentity⟩ := h.found hmem
    exact ⟨v, hv, (congrArg Identity.id hidentity).trans hid⟩
  cases c with
  | setOtpSecret i secret =>
      obtain ⟨rfl, -⟩ := Option.ite_none_right_eq_some.1 hstep
      obtain ⟨claims, u, setup, -, ht, rfl, -⟩ := hmakes
      exact hread (ht ▸ List.mem_cons_self) rfl
  | enableOtp i secret codes =>
      obtain ⟨rfl, -⟩ := Option.ite_none_right_eq_some.1 hstep
      obtain ⟨claims, r, u, count, -, ht, rfl, -⟩ := hmakes
      exact hread (ht ▸ List.mem_cons_self) rfl
  | disableOtp i =>
      obtain ⟨rfl, -⟩ := Option.ite_none_right_eq_some.1 hstep
      obtain ⟨claims, u, -, ht, rfl⟩ := hmakes
      exact hread (ht ▸ List.mem_cons_self) rfl
  | _ => cases hstep

/-- A user after a question: there was one before of which the step of the question made
it, or it is new. -/
theorem secondFactor_asked (hnum : e.before.Numbered) {v : User} (hv : v ∈ e.after.users) :
    (∃ u ∈ e.before.users, u.id = v.id ∧ v.secondFactor =
      ((enrolment? v.id e).map u.secondFactor.after).getD u.secondFactor) ∨
    (v.id = e.before.users.length + 1 ∧ v.secondFactor = ⟨false, none⟩ ∧
      enrolment? v.id e = none) := by
  have hstay : v ∈ e.before.users → enrolment? v.id e = none → ∃ u ∈ e.before.users,
      u.id = v.id ∧ v.secondFactor =
        ((enrolment? v.id e).map u.secondFactor.after).getD u.secondFactor := by
    intro hmem hnone
    exact ⟨v, hmem, rfl, by rw [hnone]; rfl⟩
  rcases e.granted_cases with ⟨hg, ha⟩ | ⟨c, hg, hsilent, hnobody, ha⟩ | ⟨n, events, hg, ha⟩ |
    ⟨c, before, u, after, hg, hu, hfits, ha⟩
  · exact .inl (hstay (ha ▸ hv) (by rw [enrolment?, hg]; rfl))
  · -- A step for nobody is told in the log, but its number is nobody's here.
    rw [ha] at hv
    refine .inl (hstay hv ?_)
    rw [enrolment?, hg, Option.bind_some, Option.eq_none_iff_forall_ne_some]
    intro x hx
    have hfits := DirectoryCall.fits_of_enrolment? hsilent hx
    exact absurd hfits (List.any_eq_false.1 hnobody v hv)
  · have hnone : ∀ id, enrolment? id e = none := fun id => by rw [enrolment?, hg]; rfl
    rw [ha] at hv
    rcases List.mem_append.1 hv with hv | hv
    · exact .inl (hstay hv (hnone _))
    · obtain rfl := List.mem_singleton.1 hv
      exact .inr ⟨rfl, rfl, hnone _⟩
  · have hstep : ∀ id, enrolment? id e = c.enrolment? id := fun id => by rw [enrolment?, hg]; rfl
    have hmem : v = c.edit u ∨ v ∈ before ++ after := by
      rw [ha] at hv
      simpa [or_left_comm] using hv
    rcases hmem with rfl | hv
    · refine .inl ⟨u, by simp [hu], (Directory.id_edit c u).symm, ?_⟩
      rw [hstep, Directory.id_edit]
      exact DirectoryCall.secondFactor_edit hfits
    · refine .inl (hstay (by rw [hu]; simpa [or_left_comm] using Or.inr hv) ?_)
      rw [hstep, Option.eq_none_iff_forall_ne_some]
      intro x hx
      exact hnum.id_ne hu hv (DirectoryCall.id_of_enrolment? hx hfits).symm

theorem Enrolled.asked (h : Enrolled w.log w.directory.users) (hw : w.Coherent s)
    (hb : e.before = w.directory) (hasks : (s.operation call).Asks (w.trace e.call) e.query) :
    Enrolled (w.log ++ [e]) e.after.users := by
  rw [← hb] at h
  have hnum : e.before.Numbered := hb ▸ hw.numbered
  refine ⟨h.lasting.asked, ?known, ?told⟩
  case known =>
    intro id hne
    have hknown : ∃ u ∈ e.before.users, u.id = id := by
      cases hx : enrolment? id e with
      | some x => exact hb ▸ mem_of_enrolment? (hb ▸ h.lasting) hasks hx
      | none =>
          refine h.known id fun hnil => hne ?_
          rw [enrolment_concat, hx, hnil]
          rfl
    obtain ⟨u, hu, hid⟩ := hknown
    obtain ⟨v, hv, hidentity⟩ := e.exists_identity hu
    exact ⟨v, hv, (congrArg Identity.id hidentity).trans hid⟩
  case told =>
    intro v hv
    rw [enrolment_concat]
    rcases secondFactor_asked hnum hv with ⟨u, hu, hid, hf⟩ | ⟨hid, hf, hnone⟩
    · rw [hf, ← hid, h.told u hu]
      cases enrolment? u.id e with
      | none => rw [Option.toList_none, List.append_nil]; rfl
      | some x => rw [Option.toList_some, SecondFactor.ofSteps_concat]; rfl
    · -- Nothing was told of a number that nobody had.
      have hnil : enrolment w.log v.id = [] := by
        by_contra hne
        obtain ⟨u, hu, huid⟩ := h.known v.id hne
        have := hnum.id_le hu
        omega
      rw [hf, hnone, hnil]
      rfl

theorem enrolled_run (s : Service) (moves : List Move) :
    (empty.run s moves).Throughout Enrolled := by
  have hstart : Enrolled [] [] := ⟨by simp [Lasting], fun _ h => (h rfl).elim, by simp⟩
  exact throughout_run s hstart (fun hw h _ hb hasks => h.now.asked hw hb hasks) moves

/-! ## Where secrets come from -/

/-- A call about an account read it and found it under a number. -/
structure ReadBy (w : World) (place : Nat) (claims : Claims) (id : Int) (publicId : String)
    (u : User) : Prop where
  /-- The claims are about the account. -/
  sub : claims.sub = publicId
  /-- The account was found. -/
  found : .users (.findByPublicId claims.sub) (.ok (some u)) ∈ w.trace place
  /-- It had the number. -/
  id : u.id = id

/-- A second step of an enrolment, which succeeded, took a code of a secret. -/
def ConfirmedBy (w : World) (e : Entry) (id : Int) (publicId secret : String) : Prop :=
  ∃ claims r u codes returned, w.ReadBy e.call claims id publicId u ∧
    u.otpSecret = some secret ∧ .otp (.validate secret r.code) (.ok true) ∈ w.trace e.call ∧
    e.exchange = .users (.enableOtp id secret codes) (.ok true) ∧
    w.Returned e.call (.enableStep2 claims r) (.ok returned)

/-- A first step of an enrolment stored a secret that it was given by the engine. -/
def StoredBy (w : World) (e : Entry) (id : Int) (publicId secret : String) : Prop :=
  ∃ claims u setup, w.calls[e.call]? = some (.enableStep1 claims) ∧
    w.ReadBy e.call claims id publicId u ∧
    .otp (.generate u.publicId) (.ok setup) ∈ w.trace e.call ∧ setup.secret = secret ∧
    e.exchange = .users (.setOtpSecret id secret) (.ok ())

section Origins

variable {past rest : List Entry} {v : User} {secret : String}

/-- Who was read and has the number of an account is that account. -/
theorem readBy_of_mem (hnum : w.directory.Numbered) (hl : Lasting w.log w.directory.users)
    (hv : v ∈ w.directory.users) {place : Nat} {claims : Claims} {u : User}
    (hx : .users (.findByPublicId claims.sub) (.ok (some u)) ∈ w.trace place)
    (hid : u.id = v.id) : w.ReadBy place claims v.id v.publicId u := by
  obtain ⟨hpublic, v', hv', hidentity⟩ := hl.found hx
  have hid' : v'.id = v.id := (congrArg Identity.id hidentity).trans hid
  obtain rfl := hnum.eq_of_id hv' hv hid'
  exact ⟨hpublic.symm.trans (congrArg Identity.publicId hidentity).symm, hx, hid⟩

theorem traceIn_subset (hlog : w.log = past ++ e :: rest) (place : Nat) :
    traceIn past place ⊆ w.trace place := by
  intro x hx
  rw [trace, ← traceIn, hlog, traceIn, List.filter_append, List.map_append]
  exact List.mem_append_left _ hx

/-- A call of which a request was granted has succeeded, but for a second step of a login. -/
theorem returned_of_granted (hw : w.Coherent s) (he : e ∈ w.log) {c : DirectoryCall}
    (hg : e.granted? = some c) (hcall : w.calls[e.call]? = some call)
    (hne : ∀ claims r now, call ≠ .authenticateTwoFa claims r now) :
    ∃ v, w.Returned e.call call (.ok v) := by
  obtain ⟨⟨call', p⟩, hrunning, hcall'⟩ : ∃ r : Running, w.running[e.call]? = some r ∧
      r.call = call := by simpa [calls] using hcall
  obtain rfl : call' = call := hcall'
  have hx : e.exchange ∈ w.trace e.call := mem_trace.2 ⟨e, he, rfl, rfl⟩
  have hbusy : ¬ e.exchange.Idle := fun hidle => by cases hg.symm.trans hidle
  obtain ⟨v, hp⟩ := Operation.careful_operation s hne (hw.after hrunning) _ hx hbusy
  obtain rfl : p = .done (.ok v) := hp
  exact ⟨v, hrunning⟩

/-- A secret is confirmed by a second step of an enrolment of the account. -/
theorem confirmedBy (hw : w.Coherent s) (hl : Lasting w.log w.directory.users)
    (hv : v ∈ w.directory.users) (hlog : w.log = past ++ e :: rest)
    (hx : enrolment? v.id e = some (.confirmed secret)) :
    w.ConfirmedBy e v.id v.publicId secret := by
  obtain ⟨c, hg, hstep⟩ := enrolment?_eq_some.1 hx
  obtain ⟨codes, rfl⟩ := DirectoryCall.enrolment?_confirmed.1 hstep
  obtain ⟨r, hexchange, hr⟩ := Exchange.granted?_eq_some.1 hg
  obtain ⟨call, hcall, claims, request, u, count, rfl, ht, hid, hsecret⟩ :=
    hw.makes hlog (congrArg Exchange.query hexchange)
  have hsub := ht ▸ traceIn_subset hlog e.call
  obtain ⟨returned, hreturned⟩ := returned_of_granted hw (by simp [hlog]) hg hcall (by simp)
  refine ⟨claims, request, u, codes, returned, ?_, hsecret, hsub (by simp), ?_, hreturned⟩
  · exact readBy_of_mem hw.numbered hl hv (hsub List.mem_cons_self) hid.symm
  · rw [hexchange]
    cases r with
    | error e => cases hr
    | ok found =>
        obtain rfl : found = true := hr
        rfl

/-- A secret is stored by a first step of an enrolment of the account. -/
theorem storedBy (hw : w.Coherent s) (hl : Lasting w.log w.directory.users)
    (hv : v ∈ w.directory.users) (hlog : w.log = past ++ e :: rest)
    (hx : enrolment? v.id e = some (.stored secret)) :
    w.StoredBy e v.id v.publicId secret := by
  obtain ⟨c, hg, hstep⟩ := enrolment?_eq_some.1 hx
  obtain rfl := DirectoryCall.enrolment?_stored.1 hstep
  obtain ⟨r, hexchange, hr⟩ := Exchange.granted?_eq_some.1 hg
  obtain ⟨call, hcall, claims, u, setup, rfl, ht, hid, hsecret⟩ :=
    hw.makes hlog (congrArg Exchange.query hexchange)
  have hsub := ht ▸ traceIn_subset hlog e.call
  refine ⟨claims, u, setup, hcall, ?_, hsub (by simp), hsecret.symm, ?_⟩
  · exact readBy_of_mem hw.numbered hl hv (hsub List.mem_cons_self) hid.symm
  · rw [hexchange]
    cases r with
    | error e => cases hr
    | ok v => rfl

end Origins

/-! ## Second factors are confirmed -/

/-- The secret of an account was confirmed, or it is the last one that was stored since
then. -/
def Confirmed (w : World) (log : List Entry) (u : User) : Prop :=
  ∃ before e since confirmed, ∃ renewed : List String, log = before ++ e :: since ∧
    w.ConfirmedBy e u.id u.publicId confirmed ∧
    enrolment since u.id = renewed.map EnrolmentStep.stored ∧
    u.otpSecret = some (renewed.getLastD confirmed)

theorem confirmed_of_told (hw : w.Coherent s) (hl : Lasting w.log w.directory.users)
    {past rest : List Entry} {u v : User} (hlog : w.log = past ++ rest)
    (hv : v ∈ w.directory.users) (hid : v.identity = u.identity)
    (htold : u.secondFactor = .ofSteps (enrolment past u.id)) (hen : u.otpEnabled = true) :
    w.Confirmed past u := by
  have henabled : (SecondFactor.ofSteps (enrolment past u.id)).enabled = true := htold ▸ hen
  obtain ⟨steps, confirmed, renewed, hsteps, hsecret⟩ := SecondFactor.ofSteps_enabled henabled
  obtain ⟨before, more, rfl, -, hmore⟩ := List.filterMap_eq_append_iff.1 hsteps
  obtain ⟨skipped, e, since, rfl, -, he, hsince⟩ := List.filterMap_eq_cons_iff.1 hmore
  have hvid : v.id = u.id := congrArg Identity.id hid
  have hvpublic : v.publicId = u.publicId := congrArg Identity.publicId hid
  have hsplit : w.log = (before ++ skipped) ++ e :: (since ++ rest) := by
    rw [hlog]
    simp
  refine ⟨before ++ skipped, e, since, confirmed, renewed, by simp, ?_, hsince, ?_⟩
  · rw [← hvid, ← hvpublic]
    exact confirmedBy hw hl hv hsplit (hvid ▸ he)
  · exact (congrArg SecondFactor.secret htold).trans hsecret

/-- What the second step of a login checks a code against. -/
theorem validate_cases (hw : w.Coherent s) {place : Nat} {claims : Claims} {r : TwoFaCodeRequest}
    {now : Instant} {secret code : String} {reply : Except AccountError Bool}
    (hcall : w.calls[place]? = some (.authenticateTwoFa claims r now))
    (hx : .otp (.validate secret code) reply ∈ w.trace place) :
    code = r.code ∧ ∃ past e since u, w.log = past ++ e :: since ∧ e.call = place ∧
      e.exchange = .users (.findByPublicId claims.sub) (.ok (some u)) ∧
      u.otpSecret = some secret := by
  obtain ⟨y, hy, hplace, hexchange⟩ := mem_trace.1 hx
  obtain ⟨past, rest, hlog⟩ := List.append_of_mem hy
  obtain ⟨call, hcall', hasks⟩ := hw.asks hlog
  rw [hplace, hcall] at hcall'
  cases hcall'
  have hquery : y.query = .otp (.validate secret code) := congrArg Exchange.query hexchange
  rw [hquery] at hasks
  rcases Operation.asks_authenticateTwoFa hasks with
    ⟨-, hq⟩ | ⟨u, t, ht, ⟨secret', hs, -, hq⟩ | ⟨-, hq⟩ | ⟨-, hq⟩⟩
  · cases hq
  · cases hq
    obtain ⟨e, he, heplace, hfound⟩ := mem_traceIn.1 (ht ▸ List.mem_cons_self)
    obtain ⟨before, since, rfl⟩ := List.append_of_mem he
    exact ⟨rfl, before, e, since ++ y :: rest, u, by rw [hlog]; simp, heplace.trans hplace,
      hfound, hs⟩
  · cases hq
  · cases hq

/-- **Second factors are confirmed.**  In every world that can be reached:
- an account with a second factor has a secret of which a successful second step of its
  enrolment took a code, or the last one that was stored since the last such step;
- secret and second factor of an account are what the steps of its enrolments have made of them
  one after another: storing a secret replaces the one before and leaves it at that, whether the
  second factor is asked for or not;
- secrets are stored by the first steps of enrolments of the account, and they are new;
- the second step of a login checks its code against the secret that the account had when
  it was read, and of that the same is true. -/
theorem second_factor_confirmed (s : Service) (moves : List Move) :
    let w := empty.run s moves
    (∀ u ∈ w.directory.users, u.otpEnabled = true → w.Confirmed w.log u) ∧
    (∀ u ∈ w.directory.users, u.secondFactor = .ofSteps (enrolment w.log u.id)) ∧
    (∀ u ∈ w.directory.users, ∀ e ∈ w.log, ∀ secret,
      enrolment? u.id e = some (.stored secret) → w.StoredBy e u.id u.publicId secret) ∧
    ∀ place claims r now, w.calls[place]? = some (.authenticateTwoFa claims r now) →
      ∀ secret code reply, .otp (.validate secret code) reply ∈ w.trace place →
        code = r.code ∧ ∃ past e since u, w.log = past ++ e :: since ∧ e.call = place ∧
          e.exchange = .users (.findByPublicId claims.sub) (.ok (some u)) ∧
          u.otpSecret = some secret ∧ (u.otpEnabled = true → w.Confirmed past u) := by
  intro w
  have hw : w.Coherent s := Coherent.empty.run moves
  have henrolled : w.Throughout Enrolled := enrolled_run s moves
  have hl := henrolled.now.lasting
  refine ⟨fun u hu hen => ?_, henrolled.now.told, fun u hu e he secret hx => ?_, ?_⟩
  · exact confirmed_of_told hw hl (List.append_nil _).symm hu rfl (henrolled.now.told u hu) hen
  · obtain ⟨past, rest, hlog⟩ := List.append_of_mem he
    exact storedBy hw hl hu hlog hx
  · intro place claims r now hcall secret code reply hx
    obtain ⟨hcode, past, e, since, u, hlog, hplace, hfound, hs⟩ := validate_cases hw hcall hx
    refine ⟨hcode, past, e, since, u, hlog, hplace, hfound, hs, fun hen => ?_⟩
    obtain ⟨hu, -⟩ := Entry.found_publicId hfound
    obtain ⟨v, hv, hid⟩ := hl e (by simp [hlog]) u hu
    exact confirmed_of_told hw hl hlog hv hid ((henrolled.past hlog).told u hu) hen

namespace Sample

/-- A new secret is another one, and only the old one has a current code. -/
def replacing : Moment := { moment with
  otp := fun
    | .generate _ => .ok (⟨"other", "uri"⟩ : Otp.OtpSetup)
    | .validate secret code => .ok (secret == "secret" && code == "000000")
    | .recoveryCodes _ => .ok [] }

/-- An enrolment is started anew and left at that, with the second step of a login before
and after. -/
def restarted : List Move := enrolment ++ [
  secondStep "000000", .turn 4 replacing, .turn 4 replacing, .turn 4 replacing,
  .start (.enableStep1 (claims .user)), .turn 5 replacing, .turn 5 replacing, .turn 5 replacing,
  secondStep "000000", .turn 6 replacing, .turn 6 replacing, .turn 6 replacing]

end Sample

open Sample in
/-- An enrolment that is started anew and left at that replaces the secret of an account
with a second factor: the new one was never confirmed, and the codes of the old one are
not taken any more. -/
theorem confirmed_secret_replaced :
    let w := empty.run (service (.ofSeconds 900)) restarted
    ∃ u tok, w.directory.users = [u] ∧ u.otpEnabled = true ∧ u.otpSecret = some "other" ∧
      (∀ e ∈ w.log, ¬ w.ConfirmedBy e u.id u.publicId "other") ∧
      w.Returned 4 (.authenticateTwoFa (claims .twoFaCheck) ⟨"000000"⟩ (.ofSeconds 2))
        (.ok (some tok)) ∧
      w.Returned 6 (.authenticateTwoFa (claims .twoFaCheck) ⟨"000000"⟩ (.ofSeconds 2))
        (.error .invalidOtpCode) := by
  intro w
  have husers : w.directory.users.map (fun u => (u.id, u.otpEnabled, u.otpSecret)) =
      [(1, true, some "other")] := rfl
  obtain ⟨u, hu, hfields⟩ := List.map_eq_singleton_iff.1 husers
  obtain ⟨hid, hen, hsecret⟩ : u.id = 1 ∧ u.otpEnabled = true ∧ u.otpSecret = some "other" := by
    simpa using hfields
  have hsteps : enrolment w.log 1 = [.stored "secret", .confirmed "secret", .stored "other"] := rfl
  refine ⟨u, ⟨"token", _, false⟩, hu, hen, hsecret, ?_, rfl, rfl⟩
  rintro e he ⟨claims, r, v, codes, returned, -, -, -, hexchange, -⟩
  have hstep : enrolment? 1 e = some (.confirmed "other") := by
    rw [hid] at hexchange
    rw [enrolment?, Entry.granted?, hexchange]
    rfl
  have hmem : EnrolmentStep.confirmed "other" ∈ enrolment w.log 1 :=
    List.mem_filterMap.2 ⟨e, he, hstep⟩
  rw [hsteps] at hmem
  simp at hmem

end World

end Accounts
