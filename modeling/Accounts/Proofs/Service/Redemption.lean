import Accounts.Proofs.Service.Voucher
/-!
# Activation codes and reset codes work once

Any number of calls may find the same activation code; only one of them activates the
account, because the update takes the code away, and only that one stores a row about
it.  A reset code is good for one new password, and only as long as it is the last one
that its user was given.

The calls that come too late, or with a code that nobody has, end with an error that says
so, and they leave users and rows as they are.
-/

namespace Accounts

open Operation (Trace)
open Outbox (Envelope Store)
open AccountEvent (changedTopic)

/-- The rows that say that a user was activated. -/
def Outbox.Store.activations (s : Store) (publicId : String) : List Envelope :=
  (s.rowsAbout changedTopic publicId).filter fun row =>
    row.content.text? "status" == some UserStatus.activated.name

/-! ## How calls with a code end -/

namespace Operation

variable {t : Trace} {code : String} {now : Instant} {x : Except AccountError Unit}

/-- An activation that succeeds found somebody twice. -/
theorem ends_activate_ok (h : (activate code now).Ends t (.ok ())) :
    ∃ u, t = [.users (.findByActivationCode code) (.ok (some u)),
      .users (.activate code now [(AccountEvent.changed (.ofUser (activated u now))).envelope])
        (.ok true)] := by
  obtain ⟨o, t₁, rfl, h₁⟩ := ends_users_bind_ok h
  obtain ⟨u, rfl, h₂⟩ := ends_orFail_bind_ok h₁
  obtain ⟨found, t₃, rfl, h₃⟩ := ends_users_bind_ok h₂
  obtain ⟨rfl, hfound⟩ := ends_ensure.1 h₃
  cases found with
  | true => exact ⟨u, rfl⟩
  | false => cases hfound

/-- An activation to which no error is replied finds somebody, or says that the code is
wrong. -/
theorem ends_activate (h : (activate code now).Ends t x)
    (hcalm : ∀ y ∈ t, ∃ v, y.reply = .ok v) : x = .ok () ∨ x = .error .invalidActivationCode := by
  rcases ends_users_bind.1 h with ⟨o, t₁, rfl, h₁⟩ | ⟨e, rfl, -⟩
  · rcases ends_orFail_bind.1 h₁ with ⟨u, rfl, h₂⟩ | ⟨-, -, hx⟩
    · rcases ends_users_bind.1 h₂ with ⟨found, t₃, rfl, h₃⟩ | ⟨e, rfl, -⟩
      · obtain ⟨-, hx⟩ := ends_ensure.1 h₃
        cases found with
        | true => exact .inl hx
        | false => exact .inr hx
      · obtain ⟨v, hv⟩ := hcalm _ (List.mem_cons_of_mem _ List.mem_cons_self)
        cases hv
    · exact .inr hx
  · obtain ⟨v, hv⟩ := hcalm _ (List.mem_singleton_self _)
    cases hv

section ResetPassword

variable {r : ResetPasswordRequest} {salt : List UInt8}

/-- A new password was set for somebody who had the code. -/
theorem ends_resetPassword_ok (h : (resetPassword r salt now).Ends t (.ok ())) :
    t = [.users (.resetPassword r.resetCode (Password.hash r.password salt) now) (.ok true)] := by
  obtain ⟨-, h₁⟩ := ends_validate_bind_ok h
  obtain ⟨found, t₂, rfl, h₂⟩ := ends_users_bind_ok h₁
  obtain ⟨rfl, hfound⟩ := ends_ensure.1 h₂
  cases found with
  | true => rfl
  | false => cases hfound

/-- A malformed request for a new password is refused before anything is asked. -/
theorem ends_resetPassword_malformed (hfaults : r.faults ≠ [])
    (h : (resetPassword r salt now).Ends t x) :
    t = [] ∧ x = .error (.validation (.fields r.faults)) := by
  rcases ends_ensure_bind.1 h with ⟨hvalid, -⟩ | ⟨-, hend⟩
  · exact absurd (List.isEmpty_iff.1 hvalid) hfaults
  · exact hend

/-- A well-formed one to which no error is replied finds somebody, or says that the code is
wrong. -/
theorem ends_resetPassword (hfaults : r.faults = []) (h : (resetPassword r salt now).Ends t x)
    (hcalm : ∀ y ∈ t, ∃ v, y.reply = .ok v) : x = .ok () ∨ x = .error .invalidResetCode := by
  rcases ends_ensure_bind.1 h with ⟨-, h₁⟩ | ⟨hvalid, -⟩
  · rcases ends_users_bind.1 h₁ with ⟨found, t₂, rfl, h₂⟩ | ⟨e, rfl, -⟩
    · obtain ⟨-, hx⟩ := ends_ensure.1 h₂
      cases found with
      | true => exact .inl hx
      | false => exact .inr hx
    · obtain ⟨v, hv⟩ := hcalm _ (List.mem_singleton_self _)
      cases hv
  · rw [hfaults] at hvalid
    cases hvalid

end ResetPassword

end Operation

namespace World

variable {s : Service} {w : World} {place : Nat} {call : Call}

/-! ## Calls that ended -/

theorem Coherent.ends (hw : w.Coherent s) {x : Except AccountError call.Result}
    (h : w.Returned place call x) : (s.operation call).Ends (w.trace place) x := hw.after h

/-- A call that fails has made none of its changes, but for a second step of a login. -/
theorem Coherent.unchanged (hw : w.Coherent s) {error : AccountError}
    (h : w.Returned place call (.error error))
    (hne : ∀ claims r now, call ≠ .authenticateTwoFa claims r now) :
    ∀ e ∈ w.log, e.call = place → e.after = e.before := by
  intro e he hplace
  exact Entry.after_of_idle ((Operation.careful_operation s hne).idle_of_error (hw.ends h)
    e.exchange (mem_trace.2 ⟨e, he, hplace, rfl⟩))

/-- The directory does not fail and the outbox does not refuse while a call is at work. -/
def Calm (w : World) (place : Nat) : Prop :=
  ∀ e ∈ w.log, e.call = place → e.moment.failure = none ∧ e.before.outbox.refusing = false

/-- In calm surroundings requests that say whether they found somebody do not fail. -/
theorem Calm.reply (h : w.Calm place) {x : Exchange serviceSurroundings}
    (hx : x ∈ w.trace place) {c : DirectoryCall} (hc : c.missed?.isSome = true)
    (hq : x.query = .users c) : ∃ v, x.reply = .ok v := by
  obtain ⟨e, he, hplace, rfl⟩ := mem_trace.1 hx
  obtain ⟨hfailure, hrefusing⟩ := h e he hplace
  obtain ⟨hexchange, -⟩ := Entry.exchange_of_none hfailure hq
  obtain ⟨v, hv⟩ := Directory.reply_ok e.moment.clock hrefusing hc
  rw [hexchange, hv]
  exact ⟨v, rfl⟩

theorem calls_of_returned {x : Except AccountError call.Result} (h : w.Returned place call x) :
    w.calls[place]? = some call := by
  rw [calls, List.getElem?_map, h]
  rfl

/-- Calls that only make such requests are replied to without an error. -/
theorem Calm.replies (h : w.Calm place) (hw : w.Coherent s) (hcall : w.calls[place]? = some call)
    (hasks : ∀ {t q}, (s.operation call).Asks t q →
      ∃ c : DirectoryCall, q = .users c ∧ c.missed?.isSome = true) :
    ∀ x ∈ w.trace place, ∃ v, x.reply = .ok v := by
  intro x hx
  obtain ⟨e, he, hplace, rfl⟩ := mem_trace.1 hx
  obtain ⟨past, rest, hlog⟩ := List.append_of_mem he
  obtain ⟨call', hcall', hask⟩ := hw.asks hlog
  rw [hplace] at hcall'
  obtain rfl := Option.some.inj (hcall.symm.trans hcall')
  obtain ⟨c, hq, hc⟩ := hasks hask
  exact h.reply hx hc hq

/-! ## Rows stay -/

theorem rows_grow (s : Service) (moves : List Move) : ∀ e ∈ (empty.run s moves).log,
    e.after.outbox.rows <+: (empty.run s moves).directory.outbox.rows := by
  refine (run_induction (P := fun w => ∀ e ∈ w.log,
    e.after.outbox.rows <+: w.directory.outbox.rows) .empty (by simp [empty]) ?_ moves).2
  intro w w' hw h hs
  cases hs with
  | idle => exact h
  | started call => exact h
  | refused refusing => exact h
  | turned e rest here hb asks =>
      have hgrow : e.before.outbox.rows <+: e.after.outbox.rows := by
        rcases e.effect with he | ⟨c, -, he⟩
        · exact he ▸ List.prefix_rfl
        · exact he.rows_grow
      intro x hx
      rcases List.mem_append.1 hx with hx | hx
      · exact (hb ▸ h x hx).trans hgrow
      · rw [List.mem_singleton.1 hx]
        exact List.prefix_rfl

/-- An activated user has one row that says so, and another user has none. -/
theorem length_activations (s : Service) (moves : List Move) (hf : (empty.run s moves).Fresh)
    {u : User} (hu : u ∈ (empty.run s moves).directory.users) :
    ((empty.run s moves).directory.outbox.activations u.publicId).length =
      if u.status = .activated then 1 else 0 := by
  have hrows := (Coherent.empty.run (s := s) moves).numberedRows
  obtain ⟨es, h⟩ := faithful_run s moves hf
  obtain ⟨place, r, a, hrec⟩ := h.users u hu
  have hstatuses := (hrec.announced.tells hrows h.rows).statuses
  have hcount := congrArg (List.countP (· == some UserStatus.activated.name)) hstatuses
  rw [List.countP_map, List.countP_eq_length_filter] at hcount
  -- A user went through its statuses in order, and only the last one is activation.
  refine hcount.trans ?_
  cases u.status <;> rfl

/-- Users who ever had the same activation code have the same public name. -/
theorem publicId_of_code (hf : w.Fresh) {es : List AccountEvent} (h : w.Faithful es)
    {e e' : Entry} (he : e ∈ w.log) (he' : e' ∈ w.log) {u u' : User} {code : String}
    (hu : u ∈ e.before.users) (hu' : u' ∈ e'.before.users) (hc : u.activationCode = some code)
    (hc' : u'.activationCode = some code) : u.publicId = u'.publicId := by
  obtain ⟨-, place, r, a, hcall, hmade⟩ := h.known e he u hu
  obtain ⟨-, place', r', a', hcall', hmade'⟩ := h.known e' he' u' hu'
  obtain ⟨-, ha⟩ := hmade.code_eq hc
  obtain ⟨-, ha'⟩ := hmade'.code_eq hc'
  obtain ⟨rfl, rfl⟩ := hf.made_eq hcall hcall' (x := code) (by simp [Call.madeUp, ha])
    (by simp [Call.madeUp, ha'])
  rw [hmade.publicId, hmade'.publicId]

/-- An activation that succeeded took the code from a user and stored the only row that
says that this user was activated. -/
theorem activated_once (s : Service) (moves : List Move) (hf : (empty.run s moves).Fresh)
    {code : String} {now : Instant}
    (h : (empty.run s moves).Returned place (.activate code now) (.ok ())) :
    ∃ e ∈ (empty.run s moves).log, ∃ u ∈ e.before.users, ∃ row, e.call = place ∧
      Voucher.activation.redeemed code e = true ∧ u.activationCode = some code ∧
      e.after.outbox.rows = e.before.outbox.rows ++ [row] ∧
      (empty.run s moves).directory.outbox.activations u.publicId = [row] := by
  have hw : (empty.run s moves).Coherent s := Coherent.empty.run moves
  obtain ⟨es, hfaithful⟩ := faithful_run s moves hf
  obtain ⟨x, ht⟩ := Operation.ends_activate_ok (hw.ends h)
  obtain ⟨y, hy, -, hfound⟩ := mem_trace.1 (ht ▸ List.mem_cons_self)
  obtain ⟨e, he, hplace, hexchange⟩ :=
    mem_trace.1 (ht ▸ List.mem_cons_of_mem _ (List.mem_singleton_self _))
  have hg : e.granted? = some _ := (congrArg Exchange.granted? hexchange).trans
    (Exchange.granted?_users rfl)
  have hredeemed : Voucher.activation.redeemed code e = true := by
    rw [Voucher.redeemed, hg]
    exact beq_self_eq_true (some code)
  obtain ⟨before, u, after, hu, hfits, ha⟩ := e.changed_of_granted hg rfl (by simp)
  have humem : u ∈ e.before.users := by rw [hu]; exact List.mem_append_right _ List.mem_cons_self
  have hcode : u.activationCode = some code := by simpa [DirectoryCall.fits] using hfits
  -- The user who was read before is the one who is changed now.
  obtain ⟨hxmem, hxcode⟩ := Entry.found_activationCode hfound
  have hpublic : x.publicId = u.publicId :=
    publicId_of_code hf hfaithful hy he hxmem humem hxcode hcode
  obtain ⟨row, hrow, hcontent⟩ : ∃ row, e.after.outbox.rows = e.before.outbox.rows ++ [row] ∧
      row.content = (AccountEvent.changed (.ofUser (Operation.activated x now))).envelope := by
    rw [ha]
    exact ⟨_, rfl, rfl⟩
  refine ⟨e, he, u, humem, row, hplace, hredeemed, hcode, hrow, ?_⟩
  have hmem : row ∈ (empty.run s moves).directory.outbox.activations u.publicId := by
    have hthere := (rows_grow s moves e he).subset
      (hrow ▸ List.mem_append_right _ (List.mem_singleton_self row))
    refine List.mem_filter.2 ⟨hpublic ▸ AccountEvent.mem_rowsAbout hthere hcontent, ?_⟩
    rw [hcontent, AccountEvent.text?_status]
    exact beq_self_eq_true _
  obtain ⟨⟨v, hv, hid⟩, -⟩ := hfaithful.known e he u humem
  have hlength := length_activations s moves hf hv
  rw [show v.publicId = u.publicId from congrArg Identity.publicId hid] at hlength
  generalize (empty.run s moves).directory.outbox.activations u.publicId = rows at hmem hlength
  have hone : rows.length = 1 := by
    have hpos := List.length_pos_of_mem hmem
    split at hlength
    · exact hlength
    · omega
  obtain ⟨other, rfl⟩ := List.length_eq_one_iff.1 hone
  rw [List.mem_singleton.1 hmem]

/-! ## The last code that was issued -/

/-- The reset code that something in the log gave to a user. -/
def issuedTo? (id : Int) (e : Entry) : Option String :=
  match e.granted? with
  | some (.setResetCode i code _ _) => if i = id then some code else none
  | _ => none

/-- The reset codes that were given to a user. -/
def issuedTo (log : List Entry) (id : Int) : List String := log.filterMap (issuedTo? id)

/-- A user has no other reset code than the last one that it was given. -/
def LastIssued (log : List Entry) (users : List User) : Prop :=
  ∀ u ∈ users, ∀ code, u.resetPasswordCode = some code →
    (issuedTo log u.id).getLast? = some code

theorem issuedTo_concat (log : List Entry) (e : Entry) (id : Int) :
    issuedTo (log ++ [e]) id = issuedTo log id ++ (issuedTo? id e).toList := by
  rw [issuedTo, List.filterMap_append, issuedTo]
  cases h : issuedTo? id e <;> simp [h]

theorem issuedTo?_of_edit {c : DirectoryCall} {u : User} {e : Entry} {code : String}
    (hg : e.granted? = some c) (hfits : c.fits u = true)
    (hc : (c.edit u).resetPasswordCode = some code) : issuedTo? u.id e = some code ∨
      (issuedTo? u.id e = none ∧ u.resetPasswordCode = some code) := by
  cases c with
  | setResetCode i code' now events =>
      obtain rfl : u.id = i := by simpa [DirectoryCall.fits] using hfits
      left
      rw [issuedTo?, hg]
      exact (if_pos rfl).trans hc
  | resetPassword => cases hc
  | _ => exact .inr ⟨by rw [issuedTo?, hg], hc⟩

/-- A user who has a reset code after a question was given it by that, or had it before and
was given no other. -/
theorem resetCode_asked {e : Entry} (hnum : e.before.Numbered) {u : User}
    (hu : u ∈ e.after.users) {code : String} (hc : u.resetPasswordCode = some code) :
    issuedTo? u.id e = some code ∨ (issuedTo? u.id e = none ∧
      ∃ v ∈ e.before.users, v.id = u.id ∧ v.resetPasswordCode = some code) := by
  rcases e.granted_cases with ⟨hg, ha⟩ | ⟨c, hg, hsilent, -, ha⟩ | ⟨n, events, hg, ha⟩ |
    ⟨c, before, v, after, hg, hv, hfits, ha⟩
  · exact .inr ⟨by rw [issuedTo?, hg], u, ha ▸ hu, rfl, hc⟩
  · refine .inr ⟨?_, u, ha ▸ hu, rfl, hc⟩
    rw [issuedTo?, hg]
    cases c with
    | setResetCode => cases hsilent
    | _ => rfl
  · rw [ha] at hu
    rcases List.mem_append.1 hu with hu | hu
    · exact .inr ⟨by rw [issuedTo?, hg], u, hu, rfl, hc⟩
    · rw [List.mem_singleton.1 hu] at hc
      cases hc
  · have hmem : u = c.edit v ∨ u ∈ before ++ after := by
      rw [ha] at hu
      simpa [or_left_comm] using hu
    rcases hmem with rfl | hu
    · rw [Directory.id_edit]
      rcases issuedTo?_of_edit hg hfits hc with hnew | ⟨hnone, hold⟩
      · exact .inl hnew
      · exact .inr ⟨hnone, v, by simp [hv], rfl, hold⟩
    · have hne := hnum.id_ne hv hu
      refine .inr ⟨?_, u, by rw [hv]; simpa [or_left_comm] using Or.inr hu, rfl, hc⟩
      rw [issuedTo?, hg]
      cases c with
      | setResetCode i code' now events =>
          obtain rfl : v.id = i := by simpa [DirectoryCall.fits] using hfits
          exact if_neg (Ne.symm hne)
      | _ => rfl

theorem lastIssued_run (s : Service) (moves : List Move) :
    (empty.run s moves).Throughout LastIssued := by
  refine throughout_run s (by simp [LastIssued]) ?_ moves
  intro w e call hw h _ hb _ u hu code hc
  have hlast := h.now
  rw [issuedTo_concat]
  rcases resetCode_asked (hb ▸ hw.numbered) hu hc with hnew | ⟨hnone, v, hv, hid, hvc⟩
  · rw [hnew, Option.toList_some, List.getLast?_concat]
  · rw [hnone, Option.toList_none, List.append_nil, ← hid]
    exact hlast v (hb ▸ hv) code hvc

/-- A new password was set with the last code that its user was given. -/
theorem reset_latest (s : Service) (moves : List Move) {r : ResetPasswordRequest}
    {salt : List UInt8} {now : Instant}
    (h : (empty.run s moves).Returned place (.resetPassword r salt now) (.ok ())) :
    ∃ past e rest, (empty.run s moves).log = past ++ e :: rest ∧ e.call = place ∧
      Voucher.reset.redeemed r.resetCode e = true ∧ ∃ u ∈ e.before.users,
        u.resetPasswordCode = some r.resetCode ∧
        (issuedTo past u.id).getLast? = some r.resetCode := by
  have hw : (empty.run s moves).Coherent s := Coherent.empty.run moves
  have ht := Operation.ends_resetPassword_ok (hw.ends h)
  obtain ⟨e, he, hplace, hexchange⟩ := mem_trace.1 (ht ▸ List.mem_singleton_self _)
  obtain ⟨past, rest, hlog⟩ := List.append_of_mem he
  have hg : e.granted? = some _ := (congrArg Exchange.granted? hexchange).trans
    (Exchange.granted?_users rfl)
  obtain ⟨before, u, after, hu, hfits, -⟩ := e.changed_of_granted hg rfl (by simp)
  have hcode : u.resetPasswordCode = some r.resetCode := by
    simpa [DirectoryCall.fits] using hfits
  have humem : u ∈ e.before.users := by rw [hu]; exact List.mem_append_right _ List.mem_cons_self
  refine ⟨past, e, rest, hlog, hplace, ?_, u, humem, hcode, ?_⟩
  · rw [Voucher.redeemed, hg]
    exact beq_self_eq_true (some r.resetCode)
  · exact (lastIssued_run s moves).past hlog u humem _ hcode

/-! ## Codes work once -/

/-- A call has ended, or it has asked fewer questions than it asks at most. -/
theorem Coherent.returned_or_short (hw : w.Coherent s) (hcall : w.calls[place]? = some call)
    {most : Nat} (hasks : ∀ {t q}, (s.operation call).Asks t q → t.length < most) :
    (∃ x, w.Returned place call x) ∨ (w.trace place).length < most := by
  obtain ⟨⟨call', p⟩, hrunning, hcall'⟩ : ∃ r : Running, w.running[place]? = some r ∧
      r.call = call := by simpa [calls] using hcall
  obtain rfl : call' = call := hcall'
  have hafter := hw.after hrunning
  cases p with
  | done x => exact .inl ⟨x, hrunning⟩
  | ask q next => exact .inr (hasks ⟨next, hafter⟩)

/-- No two activations with one code succeed. -/
theorem activation_unique (s : Service) (moves : List Move) (hf : (empty.run s moves).Fresh)
    {i j : Nat} {code : String} {now now' : Instant}
    (hi : (empty.run s moves).Returned i (.activate code now) (.ok ()))
    (hj : (empty.run s moves).Returned j (.activate code now') (.ok ())) : i = j := by
  obtain ⟨e, he, -, -, -, rfl, hr, -⟩ := activated_once s moves hf hi
  obtain ⟨e', he', -, -, -, rfl, hr', -⟩ := activated_once s moves hf hj
  rw [Voucher.redeemed_unique _ code hf he he' hr hr']

section ResetPassword

variable {r r' : ResetPasswordRequest} {salt salt' : List UInt8} {now now' : Instant}

/-- No two calls set a password with one reset code. -/
theorem reset_unique (s : Service) (moves : List Move) (hf : (empty.run s moves).Fresh)
    {i j : Nat} (hi : (empty.run s moves).Returned i (.resetPassword r salt now) (.ok ()))
    (hj : (empty.run s moves).Returned j (.resetPassword r' salt' now') (.ok ()))
    (hcode : r.resetCode = r'.resetCode) : i = j := by
  obtain ⟨past, e, rest, hlog, rfl, hr, -⟩ := reset_latest s moves hi
  obtain ⟨past', e', rest', hlog', rfl, hr', -⟩ := reset_latest s moves hj
  have he : e ∈ (empty.run s moves).log := by simp [hlog]
  have he' : e' ∈ (empty.run s moves).log := by simp [hlog']
  rw [← hcode] at hr'
  rw [Voucher.redeemed_unique _ r.resetCode hf he he' hr hr']

/-- A malformed request for a new password is refused at once, whatever its code. -/
theorem Coherent.resetPassword_malformed (hw : w.Coherent s)
    (hcall : w.calls[place]? = some (.resetPassword r salt now)) (hfaults : r.faults ≠ []) :
    w.Returned place (.resetPassword r salt now) (.error (.validation (.fields r.faults))) := by
  -- The call has nothing to ask, so it ended when it was made.
  have hshort : (∃ x, w.Returned place (.resetPassword r salt now) x) ∨
      (w.trace place).length < 0 := by
    refine hw.returned_or_short hcall fun hasks => ?_
    obtain ⟨hvalid, -⟩ := Operation.asks_validate_bind.1 hasks
    exact absurd (List.isEmpty_iff.1 hvalid) hfaults
  rcases hshort with ⟨x, hx⟩ | hnone
  · obtain ⟨-, rfl⟩ := Operation.ends_resetPassword_malformed hfaults (hw.ends hx)
    exact hx
  · exact absurd hnone (Nat.not_lt_zero _)

/-- What a well-formed request for a new password fails with in calm surroundings is its code. -/
theorem Calm.resetPassword_error (hcalm : w.Calm place) (hw : w.Coherent s) {error : AccountError}
    (h : w.Returned place (.resetPassword r salt now) (.error error)) (hfaults : r.faults = []) :
    error = .invalidResetCode := by
  have hreplies := hcalm.replies hw (calls_of_returned h) fun hasks =>
    ⟨_, asks_resetPassword hasks, rfl⟩
  rcases Operation.ends_resetPassword hfaults (hw.ends h) hreplies with hx | hx
  · cases hx
  · cases hx
    rfl

/-- A new password is set after one question. -/
theorem Coherent.resetPassword_returned (hw : w.Coherent s)
    (hcall : w.calls[place]? = some (.resetPassword r salt now)) :
    (∃ x, w.Returned place (.resetPassword r salt now) x) ∨ (w.trace place).length < 1 := by
  refine hw.returned_or_short hcall fun hasks => ?_
  have hquery := asks_resetPassword hasks
  rw [hquery] at hasks
  obtain ⟨r', salt', -, rfl, -⟩ := Service.makes hasks
  exact Nat.zero_lt_one

end ResetPassword

section Activate

variable {code : String} {now : Instant}

/-- What an activation fails with in calm surroundings is its code. -/
theorem Calm.activate_error (hcalm : w.Calm place) (hw : w.Coherent s) {error : AccountError}
    (h : w.Returned place (.activate code now) (.error error)) :
    error = .invalidActivationCode := by
  have hreplies := hcalm.replies hw (calls_of_returned h) fun hasks => by
    rcases asks_activate hasks with ⟨-, rfl⟩ | ⟨u, -, rfl⟩
    · exact ⟨_, rfl, rfl⟩
    · exact ⟨_, rfl, rfl⟩
  rcases Operation.ends_activate (hw.ends h) hreplies with hx | hx
  · cases hx
  · cases hx
    rfl

/-- An activation has ended after two questions. -/
theorem Coherent.activate_returned (hw : w.Coherent s)
    (hcall : w.calls[place]? = some (.activate code now)) :
    (∃ x, w.Returned place (.activate code now) x) ∨ (w.trace place).length < 2 := by
  refine hw.returned_or_short hcall fun hasks => ?_
  rcases asks_activate hasks with ⟨rfl, -⟩ | ⟨u, rfl, -⟩
  · exact Nat.zero_lt_two
  · exact Nat.one_lt_two

end Activate

/-- **Activation codes and reset codes work once.**  When no name and no code is made up
twice, in every world that can be reached:
- no two activations with one code succeed;
- one that succeeds stores a row, and that is the only one that says that its user was
  activated;
- there is one such row for an activated user and none for another;
- no two calls set a password with one reset code;
- one that does takes the last code that its user was given;
- a call that fails has changed neither users nor rows;
- what an activation fails with, if neither directory nor outbox fails, is that the code is
  wrong;
- and so it is with a reset code, if the request is well formed;
- a malformed request for a new password is refused as such at once, whatever its code is and
  whatever fails;
- an activation has ended after two questions, and a new password is set after one. -/
theorem codes_work_once (s : Service) (moves : List Move) (hf : (empty.run s moves).Fresh) :
    let w := empty.run s moves
    (∀ i j code now now', w.Returned i (.activate code now) (.ok ()) →
      w.Returned j (.activate code now') (.ok ()) → i = j) ∧
    (∀ place code now, w.Returned place (.activate code now) (.ok ()) →
      ∃ e ∈ w.log, ∃ u ∈ e.before.users, ∃ row, e.call = place ∧ u.activationCode = some code ∧
        e.after.outbox.rows = e.before.outbox.rows ++ [row] ∧
        w.directory.outbox.activations u.publicId = [row]) ∧
    (∀ u ∈ w.directory.users, (w.directory.outbox.activations u.publicId).length =
      if u.status = .activated then 1 else 0) ∧
    (∀ i j r r' salt salt' now now', w.Returned i (.resetPassword r salt now) (.ok ()) →
      w.Returned j (.resetPassword r' salt' now') (.ok ()) → r.resetCode = r'.resetCode → i = j) ∧
    (∀ place r salt now, w.Returned place (.resetPassword r salt now) (.ok ()) →
      ∃ past e rest, w.log = past ++ e :: rest ∧ e.call = place ∧ ∃ u ∈ e.before.users,
        u.resetPasswordCode = some r.resetCode ∧
        (issuedTo past u.id).getLast? = some r.resetCode) ∧
    (∀ place call error, (∀ claims r now, call ≠ .authenticateTwoFa claims r now) →
      w.Returned place call (.error error) → ∀ e ∈ w.log, e.call = place → e.after = e.before) ∧
    (∀ place code now error, w.Returned place (.activate code now) (.error error) →
      w.Calm place → error = .invalidActivationCode) ∧
    (∀ place r salt now error, w.Returned place (.resetPassword r salt now) (.error error) →
      w.Calm place → r.faults = [] → error = .invalidResetCode) ∧
    (∀ place r salt now, w.calls[place]? = some (.resetPassword r salt now) → r.faults ≠ [] →
      w.Returned place (.resetPassword r salt now) (.error (.validation (.fields r.faults)))) ∧
    (∀ place code now, w.calls[place]? = some (.activate code now) →
      (∃ x, w.Returned place (.activate code now) x) ∨ (w.trace place).length < 2) ∧
    ∀ place r salt now, w.calls[place]? = some (.resetPassword r salt now) →
      (∃ x, w.Returned place (.resetPassword r salt now) x) ∨ (w.trace place).length < 1 := by
  intro w
  have hw : w.Coherent s := Coherent.empty.run moves
  refine ⟨?unique, ?row, fun u hu => length_activations s moves hf hu, ?resetUnique, ?latest,
    fun place call error hne h => hw.unchanged h hne, ?activateError, ?resetError,
    fun place r salt now hcall hfaults => hw.resetPassword_malformed hcall hfaults,
    fun place code now hcall => hw.activate_returned hcall,
    fun place r salt now hcall => hw.resetPassword_returned hcall⟩
  case unique =>
    intro i j code now now' hi hj
    exact activation_unique s moves hf hi hj
  case row =>
    intro place code now h
    obtain ⟨e, he, u, hu, row, hplace, -, hcode, hrow, honly⟩ := activated_once s moves hf h
    exact ⟨e, he, u, hu, row, hplace, hcode, hrow, honly⟩
  case resetUnique =>
    intro i j r r' salt salt' now now' hi hj hcode
    exact reset_unique s moves hf hi hj hcode
  case latest =>
    intro place r salt now h
    obtain ⟨past, e, rest, hlog, hplace, -, hlast⟩ := reset_latest s moves h
    exact ⟨past, e, rest, hlog, hplace, hlast⟩
  case activateError =>
    intro place code now error h hcalm
    exact hcalm.activate_error hw h
  case resetError =>
    intro place r salt now error h hcalm hfaults
    exact hcalm.resetPassword_error hw h hfaults

namespace Sample

/-- Two calls find one activation code, and a reset code is issued twice and tried three
times. -/
def redemption : List Move := [
  .start (.register ⟨"A", "B", "a@b.co", "password"⟩ ⟨"user", "code", [], .ofSeconds 0⟩),
  .turn 0 moment,
  .start (.activate "code" (.ofSeconds 1)), .start (.activate "code" (.ofSeconds 1)),
  .turn 1 moment, .turn 2 moment, .turn 2 moment, .turn 1 moment,
  .start (.requestPasswordReset ⟨"a@b.co"⟩ "first" (.ofSeconds 2)), .turn 3 moment, .turn 3 moment,
  .start (.requestPasswordReset ⟨"a@b.co"⟩ "second" (.ofSeconds 3)), .turn 4 moment, .turn 4 moment,
  .start (.resetPassword ⟨"first", "password"⟩ [] (.ofSeconds 4)), .turn 5 moment,
  .start (.resetPassword ⟨"second", "password"⟩ [] (.ofSeconds 4)), .turn 6 moment,
  .start (.resetPassword ⟨"second", "password"⟩ [] (.ofSeconds 4)), .turn 7 moment]

end Sample

open Sample in
/-- Of two activations with one code the faster one succeeds, and of three new passwords
the one that comes first with the last code. -/
theorem codes_work_once_redemption :
    let w := empty.run (service (.ofSeconds 900)) redemption
    w.Fresh ∧ w.Returned 2 (.activate "code" (.ofSeconds 1)) (.ok ()) ∧
    w.Returned 1 (.activate "code" (.ofSeconds 1)) (.error .invalidActivationCode) ∧
    (∃ e ∈ w.log, ∃ u ∈ e.before.users, ∃ row, e.call = 2 ∧
      w.directory.outbox.activations u.publicId = [row]) ∧
    w.Returned 5 (.resetPassword ⟨"first", "password"⟩ [] (.ofSeconds 4))
      (.error .invalidResetCode) ∧
    w.Returned 6 (.resetPassword ⟨"second", "password"⟩ [] (.ofSeconds 4)) (.ok ()) ∧
    w.Returned 7 (.resetPassword ⟨"second", "password"⟩ [] (.ofSeconds 4))
      (.error .invalidResetCode) := by
  intro w
  have hf : w.Fresh := by
    have hmade : w.calls.flatMap Call.madeUp = ["user", "code", "first", "second"] := rfl
    rw [Fresh, hmade]
    decide
  have hactivated : w.Returned 2 (.activate "code" (.ofSeconds 1)) (.ok ()) := rfl
  obtain ⟨-, hrow, -⟩ := codes_work_once (service (.ofSeconds 900)) redemption hf
  obtain ⟨e, he, u, hu, row, hplace, -, -, honly⟩ := hrow 2 "code" (.ofSeconds 1) hactivated
  exact ⟨hf, hactivated, rfl, ⟨e, he, u, hu, row, hplace, honly⟩, rfl, rfl, rfl⟩

open Sample in
/-- A malformed request for a new password is refused as such, although nobody has its
code. -/
theorem malformed_reset_refused :
    let w := empty.run (service (.ofSeconds 900))
      [.start (.resetPassword ⟨"unknown", "short"⟩ [] (.ofSeconds 0))]
    w.Fresh ∧ w.Calm 0 ∧ w.directory.users = [] ∧
    w.Returned 0 (.resetPassword ⟨"unknown", "short"⟩ [] (.ofSeconds 0))
      (.error (.validation (.fields (ResetPasswordRequest.faults ⟨"unknown", "short"⟩)))) ∧
    ¬ w.Returned 0 (.resetPassword ⟨"unknown", "short"⟩ [] (.ofSeconds 0))
      (.error .invalidResetCode) := by
  intro w
  have hreturned : w.Returned 0 (.resetPassword ⟨"unknown", "short"⟩ [] (.ofSeconds 0))
      (.error (.validation (.fields (ResetPasswordRequest.faults ⟨"unknown", "short"⟩)))) := rfl
  refine ⟨List.nodup_nil, by simp [Calm, show w.log = [] from rfl], rfl, hreturned, fun h => ?_⟩
  cases hreturned.symm.trans h

end World

end Accounts
