import Accounts.Proofs.Service.LastPassword
import Accounts.Proofs.Service.Records
import Accounts.Proofs.Service.Voucher
/-!
# Calls keep to their own account

Every change is made to the first user that fits, and it replaces the whole record.  It is the
right user because of three things: the calls are asked for by a public name, an address or a
code, and no two users share one of these (`Distinct`); what a call found under such a name is
still there when it makes its change (`Entry.owns_of_fits`); and no request changes what the
user was found by.

`Call.Touches` is what a call may do to the users.  It is shown for single questions, so the
calls may be interleaved in any way, and a call makes one change at most
(`Coherent.after_of_changed`), so it carries over to a call that runs up to its end
(`World.serve`).
-/

namespace Accounts

open Operation (Trace)

namespace Call

/-- The account that a call is about. -/
def owns : Call → User → Bool
  | activate code _, u => u.activationCode == some code
  | requestPasswordReset r _ _, u => u.email == r.email
  | resetPassword r _ _, u => u.resetPasswordCode == some r.resetCode
  | changePassword claims _ _ _, u | authenticateTwoFa claims _ _, u | enableStep1 claims, u
  | enableStep2 claims _, u | disable claims, u => u.publicId == claims.sub
  | register _ _, _ | profile _, _ | authenticate _ _, _ | parseToken _ _, _ => false

/-- The call has nothing to change. -/
def reads : Call → Bool
  | profile _ | authenticate _ _ | parseToken _ _ => true
  | _ => false

/-- What a call may do to the users. -/
inductive Touches (call : Call) (users : List User) : List User → Prop
  /-- All of them stay as they are. -/
  | nobody : Touches call users users
  /-- A user is added at the end. -/
  | added (r : RegisterRequest) (a : Operation.NewAccount) (registers : call = register r a) :
      Touches call users (users ++ [User.ofNew (users.length + 1) (Operation.newUser r a)])
  /-- The only user that the call is about is changed, but not its identity. -/
  | one {before after : List User} {u u' : User} (split : users = before ++ u :: after)
      (own : call.owns u = true) (others : ∀ v ∈ before ++ after, call.owns v = false)
      (identity : u'.identity = u.identity) : Touches call users (before ++ u' :: after)

variable {call : Call} {t : Trace} {c : DirectoryCall}

/-- Before a call makes its change nothing was changed. -/
theorem Makes.idle (h : call.Makes t c) {r : Except AccountError c.Result}
    (hr : c.granted r = true) : ∀ y ∈ t, y.Idle := by
  cases c with
  | findByEmail | findByPublicId | findByActivationCode =>
      cases r with
      | ok v => exact (Bool.false_ne_true hr).elim
      | error e => exact (Bool.false_ne_true hr).elim
  | create n events =>
      obtain ⟨_, _, -, rfl, -⟩ := h
      simp
  | resetPassword code hash now =>
      obtain ⟨_, _, -, rfl, -⟩ := h
      simp
  | activate code now events =>
      obtain ⟨u, -, rfl, -⟩ := h
      exact List.forall_mem_singleton.2 rfl
  | setResetCode id code now events =>
      obtain ⟨_, u, -, rfl, -⟩ := h
      exact List.forall_mem_singleton.2 rfl
  | updatePassword id hash now =>
      obtain ⟨_, _, _, u, -, rfl, -⟩ := h
      exact List.forall_mem_singleton.2 rfl
  | disableOtp id =>
      obtain ⟨_, u, -, rfl, -⟩ := h
      exact List.forall_mem_singleton.2 rfl
  | setOtpSecret id secret =>
      obtain ⟨_, u, _, -, rfl, -⟩ := h
      exact List.forall_mem_cons.2 ⟨rfl, List.forall_mem_singleton.2 rfl⟩
  | enableOtp id secret codes =>
      obtain ⟨_, _, u, _, -, rfl, -⟩ := h
      exact List.forall_mem_cons.2
        ⟨rfl, List.forall_mem_cons.2 ⟨rfl, List.forall_mem_singleton.2 rfl⟩⟩
  | consumeRecoveryCode id code =>
      obtain ⟨_, _, _, u, -, rfl, -⟩ := h
      exact List.forall_mem_cons.2 ⟨rfl, Operation.idle_rejected u code⟩

/-- A call that has nothing to change asks for no change. -/
theorem Makes.not_granted (h : call.Makes t c) (hreads : call.reads = true)
    (r : Except AccountError c.Result) : c.granted r = false := by
  cases c with
  | findByEmail | findByPublicId | findByActivationCode => cases r <;> rfl
  | create n events =>
      obtain ⟨_, _, rfl, -⟩ := h
      cases hreads
  | resetPassword code hash now =>
      obtain ⟨_, _, rfl, -⟩ := h
      cases hreads
  | activate code now events =>
      obtain ⟨_, rfl, -⟩ := h
      cases hreads
  | setResetCode id code now events =>
      obtain ⟨_, _, rfl, -⟩ := h
      cases hreads
  | updatePassword id hash now =>
      obtain ⟨_, _, _, _, rfl, -⟩ := h
      cases hreads
  | disableOtp id =>
      obtain ⟨_, _, rfl, -⟩ := h
      cases hreads
  | setOtpSecret id secret =>
      obtain ⟨_, _, _, rfl, -⟩ := h
      cases hreads
  | enableOtp id secret codes =>
      obtain ⟨_, _, _, _, rfl, -⟩ := h
      cases hreads
  | consumeRecoveryCode id code =>
      obtain ⟨_, _, _, _, rfl, -⟩ := h
      cases hreads

end Call

/-! ## Users who can be told apart -/

/-- No two users are found by the same public name, address or code. -/
structure Distinct (users : List User) : Prop where
  publicIds : (users.map User.publicId).Nodup
  emails : (users.map User.email).Nodup
  activationCodes : ∀ code, users.countP (Voucher.activation.holds code) ≤ 1
  resetCodes : ∀ code, users.countP (Voucher.reset.holds code) ≤ 1

theorem countP_le_one_of_nodup {f : User → String} {users : List User} (h : (users.map f).Nodup)
    (x : String) : users.countP (fun u => f u == x) ≤ 1 := by
  have hcount := List.nodup_iff_count_le_one.1 h x
  rwa [List.count, List.countP_map] at hcount

namespace Distinct

variable {users before after : List User} {u : User}

/-- A call is about one user at most. -/
theorem countP_owns (h : Distinct users) (call : Call) : users.countP call.owns ≤ 1 := by
  have hsub := fun claims : Claims => countP_le_one_of_nodup h.publicIds claims.sub
  cases call with
  | activate code now => exact h.activationCodes code
  | resetPassword r salt now => exact h.resetCodes r.resetCode
  | requestPasswordReset r code now => exact countP_le_one_of_nodup h.emails r.email
  | changePassword claims | authenticateTwoFa claims | enableStep1 claims | enableStep2 claims
  | disable claims => exact hsub claims
  | register | profile | authenticate | parseToken =>
      have hnone := List.countP_eq_zero.2 fun (u : User) (_ : u ∈ users) => Bool.false_ne_true
      exact Nat.le_trans (Nat.le_of_eq hnone) (Nat.zero_le 1)

/-- Who is not the user that a call is about is none that it is about. -/
theorem others (h : Distinct users) {call : Call} (hu : users = before ++ u :: after)
    (hown : call.owns u = true) : ∀ v ∈ before ++ after, call.owns v = false := by
  have hone := h.countP_owns call
  rw [hu, List.countP_append, List.countP_cons_of_pos hown] at hone
  have hzero : (before ++ after).countP call.owns = 0 := by
    rw [List.countP_append]
    omega
  exact fun v hv => by simpa using List.countP_eq_zero.1 hzero v hv

end Distinct

/-! ## Questions -/

namespace Entry

theorem identities (e : Entry) :
    e.before.users.map User.identity <+: e.after.users.map User.identity := by
  rcases e.effect with he | ⟨c, -, he⟩
  · exact he ▸ List.prefix_rfl
  · exact he.identities

/-- The user of a number is still the one that was found. -/
theorem identity_eq {e : Entry} {log : List Entry} (hlast : World.Lasting log e.before.users)
    (hnum : e.before.Numbered) {x : Entry} (hx : x ∈ log) {u v : User}
    (hv : v ∈ x.before.users) (hu : u ∈ e.before.users) (hid : u.id = v.id) :
    u.identity = v.identity := by
  obtain ⟨v', hv', hidentity⟩ := hlast x hx v hv
  have hnumber : u.id = v'.id := hid.trans (congrArg Identity.id hidentity).symm
  rw [hnum.eq_of_id hu hv' hnumber, hidentity]

/-- A request fits only a user whom the call that makes it is about. -/
theorem owns_of_fits {e : Entry} {log : List Entry} (hlast : World.Lasting log e.before.users)
    (hnum : e.before.Numbered) {s : Service} {call : Call} {c : DirectoryCall}
    (hasks : (s.operation call).Asks (World.traceIn log e.call) (.users c)) {u : User}
    (hu : u ∈ e.before.users) (hfits : c.fits u = true) : call.owns u = true := by
  have hmakes := Service.makes hasks
  -- Whoever was found by a public name has the number that the request is aimed at.
  have hfound : ∀ {sub : String} {v : User}, u.id = v.id →
      .users (.findByPublicId sub) (.ok (some v)) ∈ World.traceIn log e.call →
      (u.publicId == sub) = true := by
    intro sub v hid hmem
    obtain ⟨x, hx, -, hread⟩ := World.mem_traceIn.1 hmem
    obtain ⟨hv, rfl⟩ := found_publicId hread
    have hsame : u.publicId = v.publicId :=
      congrArg Identity.publicId (identity_eq hlast hnum hx hv hu hid)
    simpa using hsame
  cases c with
  | findByEmail | findByPublicId | findByActivationCode | create => cases hfits
  | activate code now events =>
      obtain ⟨_, rfl, -⟩ := hmakes
      exact hfits
  | resetPassword code hash now =>
      obtain ⟨r, _, rfl, -, rfl⟩ := hmakes
      exact hfits
  | setResetCode id code now events =>
      obtain ⟨r, v, rfl, ht, rfl⟩ := hmakes
      obtain ⟨hfaults, -⟩ := Operation.asks_validate_bind.1 hasks
      have haddress : Email.isAddress r.email = true :=
        FieldRule.check_eq_nil.1 (List.isEmpty_iff.1 hfaults)
      rw [Email.trim_of_isAddress haddress] at ht
      obtain ⟨x, hx, -, hread⟩ := World.mem_traceIn.1 (ht ▸ List.mem_singleton_self _)
      obtain ⟨hv, hemail⟩ := found_email hread
      have hsame := identity_eq hlast hnum hx hv hu (by simpa [DirectoryCall.fits] using hfits)
      have : u.email = r.email := (congrArg Identity.email hsame).trans hemail
      simpa [Call.owns] using this
  | updatePassword id hash now =>
      obtain ⟨claims, r, salt, v, rfl, ht, rfl⟩ := hmakes
      exact hfound (by simpa [DirectoryCall.fits] using hfits) (by simp [ht])
  | disableOtp id =>
      obtain ⟨claims, v, rfl, ht, rfl⟩ := hmakes
      exact hfound (by simpa [DirectoryCall.fits] using hfits) (by simp [ht])
  | setOtpSecret id secret =>
      obtain ⟨claims, v, setup, rfl, ht, rfl, -⟩ := hmakes
      exact hfound (by simpa [DirectoryCall.fits] using hfits) (by simp [ht])
  | enableOtp id secret codes =>
      obtain ⟨claims, r, v, count, rfl, ht, rfl, -⟩ := hmakes
      have hid : u.id = v.id ∧ u.otpSecret = some secret := by
        simpa [DirectoryCall.fits] using hfits
      exact hfound hid.1 (by simp [ht])
  | consumeRecoveryCode id code =>
      obtain ⟨claims, r, now, v, rfl, ht, rfl, -⟩ := hmakes
      have hid : u.id = v.id ∧ Directory.holdsCode code u = true := by
        simpa [DirectoryCall.fits] using hfits
      exact hfound hid.1 (by simp [ht])

end Entry

namespace World

variable {s : Service} {w : World}

/-- Users keep their identities and their places. -/
theorem identities_run {s : Service} {w : World} (hw : w.Coherent s) (moves : List Move) :
    w.directory.users.map User.identity <+:
      (w.run s moves).directory.users.map User.identity := by
  refine (run_induction (P := fun v => w.directory.users.map User.identity <+:
    v.directory.users.map User.identity) hw List.prefix_rfl ?_ moves).2
  intro v v' _ h hs
  cases hs with
  | idle | started | refused => exact h
  | turned e rest here hb asks => exact h.trans (hb ▸ e.identities)

theorem identities_past (s : Service) (moves : List Move) :
    (empty.run s moves).Throughout fun log users =>
      ∀ e ∈ log, e.before.users.map User.identity <+: users.map User.identity := by
  refine throughout_run s (by simp) ?_ moves
  intro w e call _ h _ hb _ x hx
  rcases List.mem_append.1 hx with hx | hx
  · exact (h.now x hx).trans (hb ▸ e.identities)
  · rw [List.mem_singleton.1 hx]
    exact e.identities

theorem lasting_run (s : Service) (moves : List Move) :
    (empty.run s moves).Throughout Lasting := by
  refine throughout_run s (by simp [Lasting]) ?_ moves
  intro w e call _ h _ hb _
  exact Lasting.asked (hb ▸ h.now)

theorem distinct_run (s : Service) (moves : List Move) (hf : (empty.run s moves).Fresh) :
    (empty.run s moves).Throughout fun _ users => Distinct users := by
  have hw : (empty.run s moves).Coherent s := Coherent.empty.run moves
  obtain ⟨es, hfaithful⟩ := faithful_run s moves hf
  have hemails := emails_run s moves
  have hholders : ∀ (v : Voucher) (code : String),
      (empty.run s moves).Throughout fun _ users => users.countP (v.holds code) ≤ 1 := by
    intro v code
    have hissued := v.issued_once code hw hf
    have hpaid := v.paid_run code s moves
    refine ⟨?_, fun {past rest e} hlog => ?_⟩
    · have := hpaid.now
      unfold Voucher.Paid at this
      omega
    · have := hpaid.past hlog
      rw [hlog, List.countP_append] at hissued
      unfold Voucher.Paid at this
      omega
  have hpublic : ∀ users : List User,
      users.map User.identity <+: (empty.run s moves).directory.users.map User.identity →
      (users.map User.publicId).Nodup := by
    intro users hgrows
    have hids := (hgrows.map Identity.publicId).sublist
    rw [List.map_map, List.map_map] at hids
    exact hids.nodup hfaithful.named
  refine ⟨⟨hfaithful.named, hemails.now, fun code => (hholders _ code).now,
    fun code => (hholders _ code).now⟩, fun {past rest e} hlog => ?_⟩
  have he : e ∈ (empty.run s moves).log := by simp [hlog]
  exact ⟨hpublic _ ((identities_past s moves).now e he), hemails.past hlog,
    fun code => (hholders _ code).past hlog, fun code => (hholders _ code).past hlog⟩

/-! ## Calls -/

/-- A question changes at most the user that the call is about. -/
theorem Coherent.touches (hw : w.Coherent s) (hlast : w.Throughout Lasting)
    (hdistinct : w.Throughout fun _ users => Distinct users) {past rest : List Entry} {e : Entry}
    (hlog : w.log = past ++ e :: rest) : ∃ call, w.calls[e.call]? = some call ∧
      call.Touches e.before.users e.after.users ∧ (call.reads = true → e.after = e.before) := by
  obtain ⟨call, hcall, hasks⟩ := hw.asks hlog
  have hnum : e.before.Numbered := hw.recorded e (by simp [hlog])
  refine ⟨call, hcall, ?_, fun hreads => ?_⟩
  · cases e.turns with
    | nobody _ ha => exact ha ▸ .nobody
    | made n events hg _ _ ha =>
        obtain ⟨_, hexchange, -⟩ := Exchange.granted?_eq_some.1 hg
        rw [show e.query = _ from congrArg Exchange.query hexchange] at hasks
        obtain ⟨r, a, rfl, -, rfl⟩ := Service.makes hasks
        exact ha ▸ .added r a rfl
    | changed c before u after hg _ _ hu hfits ha =>
        obtain ⟨_, hexchange, -⟩ := Exchange.granted?_eq_some.1 hg
        rw [show e.query = _ from congrArg Exchange.query hexchange] at hasks
        have hown := e.owns_of_fits (hlast.past hlog) hnum hasks (by simp [hu]) hfits
        rw [ha]
        exact .one hu hown ((hdistinct.past hlog).others hu hown) (c.identity_edit u)
  · refine Entry.after_of_idle (Option.eq_none_iff_forall_ne_some.2 fun c hg => ?_)
    obtain ⟨r, hexchange, hr⟩ := Exchange.granted?_eq_some.1 hg
    rw [show e.query = _ from congrArg Exchange.query hexchange] at hasks
    cases ((Service.makes hasks).not_granted hreads r).symm.trans hr

/-- A call that changes something has changed nothing before. -/
theorem Coherent.after_of_changed (hw : w.Coherent s) {past rest : List Entry} {e : Entry}
    (hlog : w.log = past ++ e :: rest) (hchanged : e.after ≠ e.before) :
    ∀ x ∈ past, x.call = e.call → x.after = x.before := by
  intro x hx hplace
  obtain ⟨c, hg⟩ := Option.ne_none_iff_exists'.1 fun hnone => hchanged (Entry.after_of_idle hnone)
  obtain ⟨r, hexchange, hr⟩ := Exchange.granted?_eq_some.1 hg
  obtain ⟨call, -, hmakes⟩ := hw.makes hlog (congrArg Exchange.query hexchange)
  exact Entry.after_of_idle (hmakes.idle hr _ (mem_traceIn.2 ⟨x, hx, hplace, rfl⟩))

/-- A call is made, and it asks some questions while no other call does. -/
def serve (s : Service) (w : World) (call : Call) (ms : List Moment) : World :=
  (w.step s (.start call)).run s (ms.map (Move.turn w.running.length))

theorem serve_append_singleton (s : Service) (w : World) (call : Call) (ms : List Moment)
    (m : Moment) :
    w.serve s call (ms ++ [m]) = (w.serve s call ms).turn w.running.length m := by
  simp [serve, run, step]

theorem turn_cases (w : World) (place : Nat) (m : Moment) : w.turn place m = w ∨
    ∃ e rest, e.call = place ∧ e.before = w.directory ∧ w.turn place m = w.replied e rest := by
  rw [turn]
  split
  · exact .inr ⟨_, _, rfl, rfl, rfl⟩
  · exact .inl rfl

/-- Everything that a call did to the directory it did with one question. -/
theorem Coherent.serve (hw : w.Coherent s) (call : Call) (ms : List Moment) :
    (w.serve s call ms).Coherent s ∧ (w.serve s call ms).calls[w.running.length]? = some call ∧
    ((w.serve s call ms).directory = w.directory ∨
      ∃ e ∈ (w.serve s call ms).log, e.call = w.running.length ∧ e.before = w.directory ∧
        e.after = (w.serve s call ms).directory) := by
  induction ms using List.reverseRecOn with
  | nil =>
      refine ⟨hw.start call, ?_, .inl rfl⟩
      simp [World.serve, World.run, World.step, calls]
  | append_singleton ms m ih =>
      obtain ⟨hv, hcall, hone⟩ := ih
      rw [serve_append_singleton]
      generalize w.serve s call ms = v at hv hcall hone
      obtain ⟨hv', hstepped⟩ := hv.step (.turn w.running.length m)
      refine ⟨hv', hstepped.getElem?_calls hcall, ?_⟩
      rw [World.step] at hv'
      rcases v.turn_cases w.running.length m with hidle | ⟨e, rest, hplace, hb, hturn⟩
      · rwa [hidle]
      rw [hturn] at hv' ⊢
      have hlast : e ∈ (v.replied e rest).log := List.mem_append_right _ (List.mem_singleton_self e)
      rcases hone with hsame | ⟨x, hx, hxplace, hxbefore, hxafter⟩
      · exact .inr ⟨e, hlast, hplace, hb.trans hsame, rfl⟩
      by_cases he : e.after = e.before
      · exact .inr ⟨x, List.mem_append_left _ hx, hxplace, hxbefore,
          hxafter.trans (he.trans hb).symm⟩
      · have hidle := hv'.after_of_changed rfl he x hx (hxplace.trans hplace.symm)
        have hstart : v.directory = w.directory := hxafter.symm.trans (hidle.trans hxbefore)
        exact .inr ⟨e, hlast, hplace, hb.trans hstart, rfl⟩

/-- **Calls keep to their own account.**  As long as no name and no code is made up twice, in
every run, whoever moves when and whatever fails:
- a question changes at most the one user that its call is about, and not its identity; only
  a registration adds a user, at the end; a login, a look at a token or at a profile changes
  nothing;
- a call changes something with one question at most;
- so a call that runs on its own does to the users no more than that;
- users keep their identities and their places. -/
theorem calls_keep_to_their_account (s : Service) (moves : List Move)
    (hf : (empty.run s moves).Fresh) :
    let w := empty.run s moves
    (∀ e ∈ w.log, ∃ call, w.calls[e.call]? = some call ∧
      call.Touches e.before.users e.after.users ∧ (call.reads = true → e.after = e.before)) ∧
    (∀ past e rest, w.log = past ++ e :: rest → e.after ≠ e.before →
      ∀ x ∈ past ++ rest, x.call = e.call → x.after = x.before) ∧
    (∀ earlier call ms, w = (empty.run s earlier).serve s call ms →
      call.Touches (empty.run s earlier).directory.users w.directory.users ∧
      (call.reads = true → w.directory = (empty.run s earlier).directory)) ∧
    ∀ earlier later, moves = earlier ++ later →
      (empty.run s earlier).directory.users.map User.identity <+:
        w.directory.users.map User.identity := by
  intro w
  have hw : w.Coherent s := Coherent.empty.run moves
  have htouches : ∀ e ∈ w.log, ∃ call, w.calls[e.call]? = some call ∧
      call.Touches e.before.users e.after.users ∧ (call.reads = true → e.after = e.before) := by
    intro e he
    obtain ⟨past, rest, hlog⟩ := List.append_of_mem he
    exact hw.touches (lasting_run s moves) (distinct_run s moves hf) hlog
  refine ⟨htouches, ?_, ?_, ?_⟩
  · intro past e rest hlog hchanged x hx hplace
    rcases List.mem_append.1 hx with hx | hx
    · exact hw.after_of_changed hlog hchanged x hx hplace
    · by_contra hx'
      obtain ⟨between, after, rfl⟩ := List.append_of_mem hx
      have hlater : w.log = (past ++ e :: between) ++ x :: after := by simp [hlog]
      exact hchanged (hw.after_of_changed hlater hx' e (by simp) hplace.symm)
  · intro earlier call ms hserve
    obtain ⟨-, hcall, hone⟩ := (Coherent.empty.run (s := s) earlier).serve call ms
    rw [← hserve] at hcall hone
    rcases hone with hsame | ⟨e, he, hplace, hbefore, hafter⟩
    · rw [hsame]
      exact ⟨.nobody, fun _ => rfl⟩
    · obtain ⟨call', hcall', ht, hreads⟩ := htouches e he
      rw [hplace, hcall] at hcall'
      cases hcall'
      rw [← hbefore, ← hafter]
      exact ⟨ht, hreads⟩
  · rintro earlier later rfl
    rw [show w = (empty.run s earlier).run s later from List.foldl_append]
    exact identities_run (Coherent.empty.run earlier) later

namespace Sample

/-- Two accounts, and the first one has a second factor. -/
def neighbours : List Move := enrolment ++ [
  .start (.register ⟨"C", "D", "c@d.co", "password"⟩ ⟨"other", "other code", [], .ofSeconds 2⟩),
  .turn 4 moment]

end Sample

open Sample in
/-- The second of two accounts is added at the end and stays as it is when the first one turns
its second factor off. -/
theorem calls_keep_to_their_account_neighbours :
    let w := empty.run (service (.ofSeconds 900)) neighbours
    let w' := w.serve (service (.ofSeconds 900)) (.disable (claims .user)) [moment, moment]
    w'.Fresh ∧ (Call.disable (claims .user)).Touches w.directory.users w'.directory.users ∧
    w.directory.users.map (fun u => (u.publicId, u.otpEnabled)) =
      [("user", true), ("other", false)] ∧
    w'.directory.users.map (fun u => (u.publicId, u.otpEnabled)) =
      [("user", false), ("other", false)] ∧
    w.directory.users.map User.identity = w'.directory.users.map User.identity := by
  intro w w'
  have hmoves : w' = empty.run (service (.ofSeconds 900)) (neighbours ++
      [.start (.disable (claims .user)), .turn 5 moment, .turn 5 moment]) := rfl
  have hf : w'.Fresh := by
    have hmade : w'.calls.flatMap Call.madeUp = ["user", "code", "other", "other code"] := rfl
    rw [Fresh, hmade]
    decide
  rw [hmoves] at hf
  obtain ⟨-, -, hserve, hidentities⟩ := calls_keep_to_their_account _ _ hf
  have hgrows := hidentities neighbours _ rfl
  refine ⟨hf, (hserve neighbours _ [moment, moment] rfl).1, rfl, rfl, ?_⟩
  exact hgrows.eq_of_length rfl

end World

end Accounts
