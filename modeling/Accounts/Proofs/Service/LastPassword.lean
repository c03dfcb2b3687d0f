import Accounts.Operation.Memory
import Accounts.Proofs.Email.Address
import Accounts.Proofs.Password.Verify
import Accounts.Proofs.Service.Confirmation
import Accounts.Proofs.Service.Records
/-!
# The last password of a user

A call that sets a password and succeeds makes one granted request, and the log keeps it
(`World.SetsPassword`).  So of every user there is a last one, and the user has the hash of
its password (`World.LastPassword`).

A login takes that password and no other one, but for those with the same digest.  It finds
the user under the address of the registration as it was written: the address is stored
trimmed, and an address that is accepted is the same with and without trimming.
-/

namespace Accounts

open Operation (Trace)

/-! ## Calls that set a password and succeed -/

namespace Operation

variable {t : Trace} {now : Instant}

theorem ends_register_ok {r : RegisterRequest} {a : NewAccount} {u : User}
    (h : (register r a).Ends t (.ok u)) : r.faults = [] ∧ ∃ events,
      t = [.users (.create (newUser r a) events) (.ok u)] := by
  obtain ⟨hvalid, h₁⟩ := ends_validate_bind_ok h
  exact ⟨List.isEmpty_iff.1 hvalid, _, ends_users.1 h₁⟩

theorem faults_of_resetPassword_ok {r : ResetPasswordRequest} {salt : List UInt8}
    (h : (resetPassword r salt now).Ends t (.ok ())) : r.faults = [] :=
  List.isEmpty_iff.1 (ends_validate_bind_ok h).1

theorem ends_changePassword_ok {claims : Claims} {r : ChangePasswordRequest} {salt : List UInt8}
    (h : (changePassword claims r salt now).Ends t (.ok ())) : r.faults = [] ∧ ∃ u,
      t = [.users (.findByPublicId claims.sub) (.ok (some u)),
        .users (.updatePassword u.id (Password.hash r.password salt) now) (.ok ())] := by
  obtain ⟨u, t₁, rfl, h₁⟩ := ends_profile_bind_ok h
  obtain ⟨hvalid, h₂⟩ := ends_validate_bind_ok h₁
  exact ⟨List.isEmpty_iff.1 hvalid, u, congrArg _ (ends_users.1 h₂)⟩

end Operation

theorem FieldRule.check_eq_nil {rule : FieldRule} {field value : String} :
    rule.check field value = [] ↔ rule.holds value = true := by
  unfold check
  split
  · next h => simp [h]
  · next h => simp [h]

theorem passwordRule_ne_empty {password : String} (h : passwordRule.holds password = true) :
    password ≠ "" := by
  rintro rfl
  revert h
  decide

namespace World

variable {s : Service} {w : World} {e : Entry} {id : Int} {password : String} {salt : List UInt8}

/-- A request in the log by which a call that succeeded set the password of a user: the one
that the call made, the one who held its reset code, or the one with the public name of its
claims. -/
inductive SetsPassword (w : World) (e : Entry) (id : Int) : String → List UInt8 → Prop
  /-- The call made the user. -/
  | register {r : RegisterRequest} {a : Operation.NewAccount} {u : User}
      (returned : w.Returned e.call (.register r a) (.ok u)) (whose : u.id = id) :
      SetsPassword w e id r.password a.salt
  /-- The user was the first who held the reset code of the call. -/
  | reset {r : ResetPasswordRequest} {salt : List UInt8} {now : Instant}
      (returned : w.Returned e.call (.resetPassword r salt now) (.ok ()))
      (whose : (e.before.users.find? (·.resetPasswordCode == some r.resetCode)).map User.id = some id) :
      SetsPassword w e id r.password salt
  /-- The user has the public name of the claims; the call read it first. -/
  | change {claims : Claims} {r : ChangePasswordRequest} {salt : List UInt8} {now : Instant}
      (returned : w.Returned e.call (.changePassword claims r salt now) (.ok ()))
      (second : e.query ≠ .users (.findByPublicId claims.sub))
      (whose : (w.directory.users.find? (·.publicId == claims.sub)).map User.id = some id) :
      SetsPassword w e id r.password salt

/-- The password that was set last for a user, and its salt. -/
def LastPassword (w : World) (id : Int) (password : String) (salt : List UInt8) : Prop :=
  ∃ past e rest, w.log = past ++ e :: rest ∧ w.SetsPassword e id password salt ∧
    ∀ x ∈ rest, ∀ other salt', ¬ w.SetsPassword x id other salt'

/-! ## The log tells who set which password -/

/-- Who was found by a public name is found by it still. -/
def StillFound (log : List Entry) (users : List User) : Prop :=
  ∀ e ∈ log, ∀ publicId u, e.exchange = .users (.findByPublicId publicId) (.ok (some u)) →
    ∃ v, users.find? (·.publicId == publicId) = some v ∧ v.identity = u.identity

theorem stillFound_run (s : Service) (moves : List Move) :
    (empty.run s moves).Throughout StillFound := by
  refine throughout_run s (by simp [StillFound]) ?_ moves
  intro w e call _ h _ hb _ x hx publicId u hfound
  have hbefore : ∃ v, e.before.users.find? (·.publicId == publicId) = some v ∧
      v.identity = u.identity := by
    rcases List.mem_append.1 hx with hx | hx
    · exact hb ▸ h.now x hx publicId u hfound
    · rw [List.mem_singleton.1 hx] at hfound
      exact ⟨u, Except.ok.inj (congrArg Prod.fst (Entry.reply_of_ok hfound)), rfl⟩
  obtain ⟨v, hv, hid⟩ := hbefore
  obtain ⟨v', hv', hid'⟩ := e.find_publicId hv
  exact ⟨v', hv', hid'.trans hid⟩

/-- Whoever a request left behind is there still. -/
def Kept (log : List Entry) (users : List User) : Prop :=
  ∀ e ∈ log, ∀ u ∈ e.after.users, ∃ v ∈ users, v.identity = u.identity

theorem kept_run (s : Service) (moves : List Move) : (empty.run s moves).Throughout Kept := by
  refine throughout_run s (by simp [Kept]) ?_ moves
  intro w e call _ h _ hb _ x hx u hu
  rcases List.mem_append.1 hx with hx | hx
  · obtain ⟨v, hv, hid⟩ := h.now x hx u hu
    obtain ⟨v', hv', hid'⟩ := e.exists_identity (hb ▸ hv)
    exact ⟨v', hv', hid'.trans hid⟩
  · rw [List.mem_singleton.1 hx] at hu
    exact ⟨u, hu, rfl⟩

/-- What an entry of a call that made an account is. -/
theorem Coherent.created (hw : w.Coherent s) (he : e ∈ w.log) {r : RegisterRequest}
    {a : Operation.NewAccount} {u : User} (h : w.Returned e.call (.register r a) (.ok u)) :
    ∃ events, e.exchange = .users (.create (Operation.newUser r a) events) (.ok u) := by
  obtain ⟨-, events, ht⟩ := Operation.ends_register_ok (hw.ends h)
  have hx : e.exchange ∈ w.trace e.call := mem_trace.2 ⟨e, he, rfl, rfl⟩
  rw [ht] at hx
  exact ⟨events, List.mem_singleton.1 hx⟩

/-- Who is made is put behind all others, and as it was asked for. -/
theorem user_of_created {n : NewUser} {events : List Outbox.NewEnvelope} {u : User}
    (h : e.exchange = .users (.create n events) (.ok u)) :
    u = User.ofNew (e.before.users.length + 1) n ∧ u ∈ e.after.users := by
  have hr := e.before.replies_reply e.moment.clock (.create n events)
  rw [Entry.reply_of_ok h] at hr
  generalize e.after = d at hr
  cases hr with
  | idle hidle => cases hidle
  | unnoticed hsilent => cases hsilent
  | created => exact ⟨rfl, by simp⟩
  | changed hmade => cases hmade

theorem granted_of_exchange {c : DirectoryCall} {v : c.Result} (h : e.exchange = .users c (.ok v))
    (hc : c.granted (.ok v) = true) : e.granted? = some c :=
  (congrArg Exchange.granted? h).trans (Exchange.granted?_users hc)

theorem hashFor?_of_granted {c : DirectoryCall} {hash : String} (hg : e.granted? = some c)
    (hc : c.passwordHash? = some hash) (hs : e.subject? = some id) : e.hashFor? id = some hash := by
  rw [Entry.hashFor?, if_pos hs, hg, Option.bind_some, hc]

/-- A change of a password is about the user whom its call read under a public name. -/
theorem Coherent.changing (hw : w.Coherent s) (hfound : StillFound w.log w.directory.users)
    (hlasting : w.Throughout Lasting) (he : e ∈ w.log) {hash : String} {now : Instant}
    (hq : e.query = .users (.updatePassword id hash now)) :
    ∃ claims r salt, w.calls[e.call]? = some (.changePassword claims r salt now) ∧
      (w.directory.users.find? (·.publicId == claims.sub)).map User.id = some id ∧
      ∃ v ∈ e.before.users, v.id = id := by
  obtain ⟨past, rest, hlog⟩ := List.append_of_mem he
  obtain ⟨call, hcall, claims, r, salt, u, rfl, ht, rfl⟩ := hw.makes hlog hq
  obtain ⟨x, hx, -, hread⟩ := mem_traceIn.1 (ht ▸ List.mem_singleton_self _)
  obtain ⟨v, hv, hvid⟩ := hlasting.past hlog x hx u (Entry.found_publicId hread).1
  obtain ⟨v', hv', hvid'⟩ := hfound x (by simp [hlog, hx]) _ _ hread
  refine ⟨claims, r, salt, hcall, ?_, v, hv, congrArg Identity.id hvid⟩
  rw [hv']
  exact congrArg some (congrArg Identity.id hvid')

/-- Whatever gave a hash is a request of a call that succeeded. -/
theorem Coherent.setsPassword (hw : w.Coherent s) (hfound : StillFound w.log w.directory.users)
    (hlasting : w.Throughout Lasting) (he : e ∈ w.log) {hash : String} (h : e.hashFor? id = some hash) :
    ∃ password salt, w.SetsPassword e id password salt ∧ hash = Password.hash password salt := by
  obtain ⟨hsubject, hbind⟩ := Option.ite_none_right_eq_some.1 h
  obtain ⟨c, hg, hc⟩ := Option.bind_eq_some_iff.1 hbind
  obtain ⟨reply, hexchange, -⟩ := Exchange.granted?_eq_some.1 hg
  have hq : e.query = .users c := congrArg Exchange.query hexchange
  obtain ⟨past, rest, hlog⟩ := List.append_of_mem he
  obtain ⟨call, hcall, hmakes⟩ := hw.makes hlog hq
  obtain ⟨call', password, salt, hcall', hpassword, hhash⟩ := hw.hashFor? he h
  obtain rfl : call = call' := Option.some.inj (hcall.symm.trans hcall')
  refine ⟨password, salt, ?_, hhash⟩
  cases c with
  | create n events =>
      obtain ⟨r, a, rfl, -, -⟩ := hmakes
      cases hpassword
      obtain ⟨u, hreturned⟩ := returned_of_granted hw he hg hcall (by simp)
      obtain ⟨events', hx⟩ := hw.created he hreturned
      obtain ⟨hu, -⟩ := user_of_created hx
      have hid : e.subject? = some ((e.before.users.length : Int) + 1) := by rw [Entry.subject?, hg]
      refine .register hreturned ?_
      rw [hu]
      exact Option.some.inj (hid.symm.trans hsubject)
  | resetPassword code hash' now =>
      obtain ⟨r, salt', rfl, -, rfl⟩ := hmakes
      cases hpassword
      obtain ⟨_, hreturned⟩ := returned_of_granted hw he hg hcall (by simp)
      exact .reset hreturned ((Entry.subject?_of_granted hg (by simp)).symm.trans hsubject)
  | updatePassword id' hash' now =>
      obtain ⟨claims, r, salt', hcall', hwhose, -⟩ := hw.changing hfound hlasting he hq
      obtain rfl := Option.some.inj (hcall.symm.trans hcall')
      cases hpassword
      obtain ⟨_, hreturned⟩ := returned_of_granted hw he hg hcall (by simp)
      have hid := (Entry.subject?_of_granted hg (by simp)).symm.trans hsubject
      obtain ⟨u, hu, rfl⟩ := Option.map_eq_some_iff.1 hid
      have huid : u.id = id' := by simpa [DirectoryCall.fits] using List.find?_some hu
      exact .change hreturned (by simp [hq]) (huid ▸ hwhose)
  | _ => cases hc

/-- A request of a call that succeeded gave the hash of its password. -/
theorem SetsPassword.hashFor? (h : w.SetsPassword e id password salt) (hw : w.Coherent s)
    (hfound : StillFound w.log w.directory.users) (hlasting : w.Throughout Lasting)
    (he : e ∈ w.log) : e.hashFor? id = some (Password.hash password salt) := by
  have hmem : e.exchange ∈ w.trace e.call := mem_trace.2 ⟨e, he, rfl, rfl⟩
  cases h with
  | register returned whose =>
      obtain ⟨events, hx⟩ := hw.created he returned
      obtain ⟨hu, -⟩ := user_of_created hx
      have hg := granted_of_exchange hx rfl
      refine hashFor?_of_granted hg rfl ?_
      rw [Entry.subject?, hg, ← whose, hu]
      rfl
  | reset returned whose =>
      rw [Operation.ends_resetPassword_ok (hw.ends returned)] at hmem
      have hg := granted_of_exchange (List.mem_singleton.1 hmem) rfl
      exact hashFor?_of_granted hg rfl ((Entry.subject?_of_granted hg (by simp)).trans whose)
  | @change claims r salt now returned second whose =>
      obtain ⟨-, u, ht⟩ := Operation.ends_changePassword_ok (hw.ends returned)
      rw [ht] at hmem
      rcases List.mem_cons.1 hmem with hx | hmem
      · exact (second (congrArg Exchange.query hx)).elim
      have hx := List.mem_singleton.1 hmem
      have hg := granted_of_exchange hx rfl
      obtain ⟨claims', r', salt', hcall, hwhose, v, hv, hvid⟩ :=
        hw.changing hfound hlasting he (congrArg Exchange.query hx)
      cases (calls_of_returned returned).symm.trans hcall
      obtain rfl : u.id = id := Option.some.inj (hwhose.symm.trans whose)
      refine hashFor?_of_granted hg rfl ((Entry.subject?_of_granted hg (by simp)).trans ?_)
      have hsome : (e.before.users.find? (·.id == u.id)).isSome = true :=
        List.find?_isSome.2 ⟨v, hv, by simp [hvid]⟩
      obtain ⟨z, hz⟩ := Option.isSome_iff_exists.1 hsome
      have hzid : z.id = u.id := by simpa using List.find?_some hz
      show (e.before.users.find? (·.id == u.id)).map User.id = some u.id
      rw [hz, Option.map_some, hzid]

theorem SetsPassword.call (h : w.SetsPassword e id password salt) :
    ∃ call ∈ w.calls, call.password? = some (password, salt) := by
  cases h with
  | register returned whose => exact ⟨_, List.mem_of_getElem? (calls_of_returned returned), rfl⟩
  | reset returned whose => exact ⟨_, List.mem_of_getElem? (calls_of_returned returned), rfl⟩
  | change returned second whose => exact ⟨_, List.mem_of_getElem? (calls_of_returned returned), rfl⟩

/-- A password that was set obeys the rule for passwords. -/
theorem SetsPassword.holds (h : w.SetsPassword e id password salt) (hw : w.Coherent s) :
    passwordRule.holds password = true := by
  cases h with
  | register returned whose =>
      obtain ⟨hfaults, -⟩ := Operation.ends_register_ok (hw.ends returned)
      exact FieldRule.check_eq_nil.1 (List.append_eq_nil_iff.1 hfaults).2
  | reset returned whose =>
      have hfaults := Operation.faults_of_resetPassword_ok (hw.ends returned)
      exact FieldRule.check_eq_nil.1 (List.append_eq_nil_iff.1 hfaults).2
  | change returned second whose =>
      obtain ⟨hfaults, -⟩ := Operation.ends_changePassword_ok (hw.ends returned)
      exact FieldRule.check_eq_nil.1 hfaults

/-- Every call that sets a password and succeeded did it for somebody. -/
theorem Coherent.sets_of_returned (hw : w.Coherent s) (hfound : StillFound w.log w.directory.users)
    {place : Nat} {call : Call} {v : call.Result} (h : w.Returned place call (.ok v))
    (hp : call.password? = some (password, salt)) :
    ∃ e ∈ w.log, e.call = place ∧ ∃ id, w.SetsPassword e id password salt := by
  have hends := hw.ends h
  cases call with
  | register r a =>
      obtain ⟨-, events, ht⟩ := Operation.ends_register_ok hends
      obtain ⟨e, he, rfl, -⟩ := mem_trace.1 (ht ▸ List.mem_singleton_self _)
      cases hp
      exact ⟨e, he, rfl, _, .register h rfl⟩
  | resetPassword r salt' now =>
      have ht := Operation.ends_resetPassword_ok hends
      obtain ⟨e, he, rfl, hx⟩ := mem_trace.1 (ht ▸ List.mem_singleton_self _)
      obtain ⟨before, u, after, hu, hfits, -⟩ :=
        e.changed_of_granted (granted_of_exchange hx rfl) rfl (by simp)
      have hsome : (e.before.users.find? (·.resetPasswordCode == some r.resetCode)).isSome = true :=
        List.find?_isSome.2 ⟨u, by simp [hu], hfits⟩
      obtain ⟨z, hz⟩ := Option.isSome_iff_exists.1 hsome
      cases hp
      exact ⟨e, he, rfl, z.id, .reset h (by rw [hz]; rfl)⟩
  | changePassword claims r salt' now =>
      obtain ⟨-, u, ht⟩ := Operation.ends_changePassword_ok hends
      obtain ⟨y, hy, -, hread⟩ := mem_trace.1 (ht ▸ List.mem_cons_self)
      obtain ⟨e, he, rfl, hx⟩ :=
        mem_trace.1 (ht ▸ List.mem_cons_of_mem _ (List.mem_singleton_self _))
      obtain ⟨z, hz, -⟩ := hfound y hy _ _ hread
      have hq : e.query = _ := congrArg Exchange.query hx
      cases hp
      exact ⟨e, he, rfl, z.id, .change h (by simp [hq]) (by rw [hz]; rfl)⟩
  | _ => cases hp

/-! ## The user has the last one -/

/-- What is known of a world that was reached. -/
structure Reached (s : Service) (w : World) : Prop where
  coherent : w.Coherent s
  found : StillFound w.log w.directory.users
  lasting : w.Throughout Lasting
  given : LastGiven w.log w.directory.users

theorem reached_run (s : Service) (moves : List Move) : (empty.run s moves).Reached s where
  coherent := Coherent.empty.run moves
  found := (stillFound_run s moves).now
  lasting :=
    have h := secretsTold_run s moves
    ⟨h.now.enrolled.lasting, fun hlog => (h.past hlog).enrolled.lasting⟩
  given := (lastGiven_run s moves).now

namespace Reached

variable {u : User}

theorem exists_last (h : w.Reached s) (hu : u ∈ w.directory.users) :
    ∃ password salt, w.LastPassword u.id password salt := by
  obtain ⟨past, e, rest, hlog, he, hnone⟩ := last_of_given (h.given u hu)
  obtain ⟨password, salt, hset, -⟩ :=
    h.coherent.setsPassword h.found h.lasting (by simp [hlog]) he
  refine ⟨password, salt, past, e, rest, hlog, hset, ?_⟩
  intro x hx other salt' hother
  cases (hnone x hx).symm.trans
    (hother.hashFor? h.coherent h.found h.lasting (by simp [hlog, hx]))

/-- A user has the hash of the password that was set last for it. -/
theorem passwordHash_of_last (h : w.Reached s) (hu : u ∈ w.directory.users)
    (hlast : w.LastPassword u.id password salt) : u.passwordHash = Password.hash password salt := by
  obtain ⟨past, e, rest, hlog, hset, hnone⟩ := hlast
  have he := hset.hashFor? h.coherent h.found h.lasting (by simp [hlog])
  have hrest : hashes rest u.id = [] := by
    refine List.filterMap_eq_nil_iff.2 fun x hx => Option.eq_none_iff_forall_ne_some.2 ?_
    intro hash hgiven
    obtain ⟨other, salt', hother, -⟩ :=
      h.coherent.setsPassword h.found h.lasting (by simp [hlog, hx]) hgiven
    exact hnone x hx other salt' hother
  have hhashes : hashes w.log u.id = hashes past u.id ++ [Password.hash password salt] := by
    have hsplit : hashes (past ++ e :: rest) u.id = hashes past u.id ++ hashes (e :: rest) u.id :=
      List.filterMap_append
    rw [hlog, hsplit, hashes, hashes, List.filterMap_cons_some he, ← hashes, ← hashes, hrest]
  have hlast := h.given u hu
  rw [hhashes, List.getLast?_concat] at hlast
  exact (Option.some.inj hlast).symm

/-- A user has the hash of a password that a call sets. -/
theorem passwordHash_of_call (h : w.Reached s) (hu : u ∈ w.directory.users) :
    ∃ call ∈ w.calls, ∃ password salt, call.password? = some (password, salt) ∧
      u.passwordHash = Password.hash password salt := by
  obtain ⟨password, salt, hlast⟩ := h.exists_last hu
  have hhash := h.passwordHash_of_last hu hlast
  obtain ⟨past, e, rest, -, hset, -⟩ := hlast
  obtain ⟨call, hcall, hpassword⟩ := hset.call
  exact ⟨call, hcall, password, salt, hpassword, hhash⟩

end Reached

end World

/-! ## Logins -/

namespace ServiceMemory

variable {m : ServiceMemory} {p : LoginPolicy} {r : CredentialRequest} {now : Instant} {u : User}

/-- Nothing goes wrong with the directory or the signer. -/
structure Faultless (m : ServiceMemory) : Prop where
  /-- No fault is armed. -/
  faults : m.faults = []
  /-- Everything is signed. -/
  signs : ∀ claims, ∃ token, m.replySign claims = .ok token

/-- The first step of a login succeeds. -/
def Admits (m : ServiceMemory) (p : LoginPolicy) (r : CredentialRequest) (now : Instant) : Prop :=
  ∃ token, (m.run (Operation.authenticate p r now)).1 = some (.ok token)

/-- The first step of a login says that address or password are wrong. -/
def Refuses (m : ServiceMemory) (p : LoginPolicy) (r : CredentialRequest) (now : Instant) : Prop :=
  (m.run (Operation.authenticate p r now)).1 = some (.error .invalidCredentials)

theorem Refuses.not_admits (h : m.Refuses p r now) : ¬ m.Admits p r now := by
  rintro ⟨token, htoken⟩
  cases h.symm.trans htoken

section Run

variable {α : Type} {m' : ServiceMemory}

theorem run_question_bind {q : serviceSurroundings.Query} {f : q.Result → Operation α} {a : q.Result}
    (h : m.reply q = (some (.ok a), m')) : m.run (Operation.question q >>= f) = m'.run (f a) := by
  rw [run, Operation.run_question_bind, runDialogue, h]
  rfl

theorem run_users_bind {c : DirectoryCall} {f : c.Result → Operation α} {a : c.Result}
    (h : m.reply (.users c) = (some (.ok a), m')) : m.run (Operation.users c >>= f) = m'.run (f a) :=
  run_question_bind h

theorem run_sign_bind {c : Claims} {f : String → Operation α} {token : String}
    (h : m.reply (.sign c) = (some (.ok token), m')) :
    m.run (Operation.sign c >>= f) = m'.run (f token) :=
  run_question_bind (q := .sign c) h

end Run

theorem Faultless.reply_findByEmail (hm : m.Faultless) (email : String) :
    m.reply (.users (.findByEmail email)) =
      (some (.ok (m.directory.users.find? (·.email == email))), m) := by
  have hnone : m.faults.lookup (DirectoryCall.findByEmail email).name = none := by rw [hm.faults]; rfl
  rw [reply, replyUsers, hnone]
  rfl

theorem Faultless.run_issue (hm : m.Faultless) (scope : Scope) (ttl : Span) (twoFa : Bool) :
    ∃ token, (m.run (Operation.issue u scope now ttl twoFa)).1 = some (.ok token) := by
  obtain ⟨token, htoken⟩ := hm.signs (Operation.claimsFor u scope now ttl)
  have hreply : m.reply (.sign (Operation.claimsFor u scope now ttl)) = (some (.ok token), m) := by
    rw [reply, htoken]
    rfl
  refine ⟨⟨token, (Operation.claimsFor u scope now ttl).expiresAt, twoFa⟩, ?_⟩
  rw [Operation.issue, run_sign_bind hreply]
  rfl

/-- A login without a fault goes on after the password was checked. -/
theorem Faultless.run_authenticate (hm : m.Faultless) (hr : r.faults = [])
    (hu : m.directory.users.find? (·.email == r.email) = some u) {fits : Bool}
    (hv : Password.verify r.password u.passwordHash = .ok fits) :
    m.run (Operation.authenticate p r now) = m.run (do
      Operation.ensure (fits && u.isActive) .invalidCredentials
      if p.otpEnabled && u.otpEnabled then Operation.issue u .twoFaCheck now p.twoFaTtl true
      else Operation.issue u .user now p.sessionTtl false) := by
  have hvalid : Operation.validate r.faults = pure () := by rw [hr]; rfl
  have hfound := (hm.reply_findByEmail r.email).trans (by rw [hu])
  rw [Operation.authenticate, hvalid, pure_bind, run_users_bind hfound]
  show m.run (Operation.ofExcept (Password.verify r.password u.passwordHash) >>= _) = _
  rw [hv]
  rfl

/-- A login without a fault is decided by the password and by whether the account is active. -/
theorem Faultless.authenticate (hm : m.Faultless) (hr : r.faults = [])
    (hu : m.directory.users.find? (·.email == r.email) = some u) {fits : Bool}
    (hv : Password.verify r.password u.passwordHash = .ok fits) :
    if fits && u.isActive then m.Admits p r now else m.Refuses p r now := by
  unfold Admits Refuses
  rw [hm.run_authenticate hr hu hv]
  split
  · next hfits =>
      have hissue : ∃ token, (m.run (if p.otpEnabled && u.otpEnabled then
          Operation.issue u .twoFaCheck now p.twoFaTtl true
          else Operation.issue u .user now p.sessionTtl false)).1 = some (.ok token) := by
        split
        · exact hm.run_issue _ _ _
        · exact hm.run_issue _ _ _
      rw [hfits]
      exact hissue
  · next hno =>
      rw [eq_false_of_ne_true hno]
      rfl

end ServiceMemory

theorem CredentialRequest.faults_eq_nil {email password : String}
    (hemail : FieldRule.email.holds email = true) (hpassword : password ≠ "") :
    CredentialRequest.faults ⟨email, password⟩ = [] := by
  have hlength : 1 ≤ password.length := Nat.pos_of_ne_zero fun h => hpassword (String.length_eq_zero_iff.1 h)
  refine List.append_eq_nil_iff.2 ⟨FieldRule.check_eq_nil.2 hemail, FieldRule.check_eq_nil.2 ?_⟩
  simpa [FieldRule.holds] using hlength

namespace World

/-- Passwords are hashed with salts that a stored hash may have. -/
def Salted (w : World) : Prop := ∀ call ∈ w.calls, ∀ password salt,
  call.password? = some (password, salt) → 8 ≤ salt.length ∧ salt.length ≤ 48

theorem find_email {users : List User} (hd : (users.map User.email).Nodup) {u : User}
    (hu : u ∈ users) : users.find? (·.email == u.email) = some u := by
  have hsome : (users.find? (·.email == u.email)).isSome = true :=
    List.find?_isSome.2 ⟨u, hu, by simp⟩
  obtain ⟨v, hv⟩ := Option.isSome_iff_exists.1 hsome
  have hemail : v.email = u.email := by simpa using List.find?_some hv
  rw [hv, List.inj_on_of_nodup_map hd (List.mem_of_find?_eq_some hv) hu hemail]

/-- Who was made by a call is there, under the address that the call was given. -/
theorem registered (s : Service) (moves : List Move) {place : Nat} {r : RegisterRequest}
    {a : Operation.NewAccount} {made : User}
    (h : (empty.run s moves).Returned place (.register r a) (.ok made)) :
    FieldRule.email.holds r.email = true ∧
      ∃ u ∈ (empty.run s moves).directory.users, u.id = made.id ∧ u.email = r.email := by
  have hw : (empty.run s moves).Coherent s := Coherent.empty.run moves
  obtain ⟨hfaults, events, ht⟩ := Operation.ends_register_ok (hw.ends h)
  have hemail : FieldRule.email.holds r.email = true :=
    FieldRule.check_eq_nil.1 (List.append_eq_nil_iff.1 (List.append_eq_nil_iff.1 hfaults).1).2
  obtain ⟨e, he, -, hx⟩ := mem_trace.1 (ht ▸ List.mem_singleton_self _)
  obtain ⟨hmade, hmem⟩ := user_of_created hx
  obtain ⟨u, hu, hid⟩ := (kept_run s moves).now e he made hmem
  refine ⟨hemail, u, hu, congrArg Identity.id hid, ?_⟩
  have htrim : u.email = Text.trim r.email := (congrArg Identity.email hid).trans (hmade ▸ rfl)
  rw [htrim, Email.trim_of_isAddress hemail]

/-- **The last password wins.**  In every world that can be reached, whatever fails on the way
there:
- an address that is accepted is the same with and without trimming;
- every call that sets a password and succeeded set it for somebody;
- an account is there under the address of its registration as it was written, and there is a
  password that was set last for it;
- when nothing goes wrong with a login from then on, this password is taken if the account is
  active and refused otherwise, and any other text that is not empty is taken exactly if the
  account is active and it fits the hash of the last password. -/
theorem last_password_wins (s : Service) (moves : List Move)
    (hsalted : (empty.run s moves).Salted) :
    let w := empty.run s moves
    (∀ address, FieldRule.email.holds address = true → Text.trim address = address) ∧
    (∀ place call v password salt, w.Returned place call (.ok v) →
      call.password? = some (password, salt) →
      ∃ e ∈ w.log, e.call = place ∧ ∃ id, w.SetsPassword e id password salt) ∧
    ∀ place r a made, w.Returned place (.register r a) (.ok made) →
      ∃ u ∈ w.directory.users, u.id = made.id ∧ u.email = r.email ∧
        (∃ password salt, w.LastPassword u.id password salt) ∧
        ∀ password salt, w.LastPassword u.id password salt →
        ∀ (m : ServiceMemory) (p : LoginPolicy) (now : Instant),
          m.directory.users = w.directory.users → m.Faultless →
          (u.isActive = true → m.Admits p ⟨r.email, password⟩ now) ∧
          (u.isActive = false → m.Refuses p ⟨r.email, password⟩ now) ∧
          ∀ q, q ≠ "" →
            (m.Admits p ⟨r.email, q⟩ now ↔ u.isActive = true ∧
              Password.verify q (Password.hash password salt) = .ok true) ∧
            (¬ m.Admits p ⟨r.email, q⟩ now → m.Refuses p ⟨r.email, q⟩ now) := by
  intro w
  have h : w.Reached s := reached_run s moves
  refine ⟨fun address => Email.trim_of_isAddress,
    fun place call v password salt => h.coherent.sets_of_returned h.found, ?_⟩
  intro place r a made hreturned
  obtain ⟨hemail, u, hu, hid, huser⟩ := registered s moves hreturned
  refine ⟨u, hu, hid, huser, h.exists_last hu, ?_⟩
  intro password salt hlast m p now hm hfaultless
  have hhash := h.passwordHash_of_last hu hlast
  obtain ⟨past, e, rest, -, hset, -⟩ := hlast
  obtain ⟨call, hcall, hpassword⟩ := hset.call
  obtain ⟨hleast, hmost⟩ := hsalted call hcall password salt hpassword
  have hfind : m.directory.users.find? (·.email == r.email) = some u := by
    rw [hm, ← huser]
    exact find_email (emails_run s moves).now hu
  have hlogin : ∀ q, q ≠ "" → ∀ fits,
      Password.verify q (Password.hash password salt) = .ok fits →
      if fits && u.isActive then m.Admits p ⟨r.email, q⟩ now else m.Refuses p ⟨r.email, q⟩ now :=
    fun q hq fits hv => hfaultless.authenticate (CredentialRequest.faults_eq_nil hemail hq) hfind
      (hhash ▸ hv)
  have hself := hlogin password (passwordRule_ne_empty (hset.holds h.coherent)) true
    (Password.verify_hash_self hleast hmost password)
  rw [Bool.true_and] at hself
  refine ⟨fun ha => by rwa [if_pos ha] at hself,
    fun ha => by rwa [ha, if_neg Bool.false_ne_true] at hself, ?_⟩
  intro q hq
  obtain ⟨fits, hv⟩ : ∃ fits, Password.verify q (Password.hash password salt) = .ok fits :=
    ⟨_, Password.verify_hash hleast hmost q password⟩
  have hq' := hlogin q hq fits hv
  rw [hv]
  split at hq'
  · next hboth =>
      obtain ⟨rfl, ha⟩ := Bool.and_eq_true_iff.1 hboth
      exact ⟨⟨fun _ => ⟨ha, rfl⟩, fun _ => hq'⟩, fun hno => (hno hq').elim⟩
  · next hnot =>
      refine ⟨⟨fun hadmits => (hq'.not_admits hadmits).elim, ?_⟩, fun _ => hq'⟩
      rintro ⟨ha, hfits⟩
      cases hfits
      exact (hnot (by rw [ha]; rfl)).elim

namespace Sample

/-- A salt of sixteen bytes. -/
def salt (byte : UInt8) : List UInt8 := List.replicate 16 byte

/-- An account is made and activated, and its password is set twice more. -/
def passwords : List Move := [
  .start (.register ⟨"A", "B", "a@b.co", "password one"⟩ ⟨"user", "code", salt 1, .ofSeconds 0⟩),
  .turn 0 moment,
  .start (.activate "code" (.ofSeconds 1)), .turn 1 moment, .turn 1 moment,
  .start (.requestPasswordReset ⟨"a@b.co"⟩ "reset" (.ofSeconds 2)), .turn 2 moment, .turn 2 moment,
  .start (.resetPassword ⟨"reset", "password two"⟩ (salt 2) (.ofSeconds 3)), .turn 3 moment,
  .start (.changePassword (claims .user) ⟨"password three"⟩ (salt 3) (.ofSeconds 4)),
  .turn 4 moment, .turn 4 moment]

/-- A directory in memory without faults, with a signer. -/
def faultless (d : Directory) : ServiceMemory where
  directory := d
  faults := []
  engine := .numbered default
  chance := ⟨[], [], 0⟩
  issuer := .secret []
  signing := true
  clock := .ofSeconds 5

end Sample

open Sample in
/-- The third password of an account is the one that is taken. -/
theorem last_password_wins_third :
    let w := empty.run (service (.ofSeconds 900)) passwords
    w.Salted ∧ ∃ made, w.Returned 0 (.register ⟨"A", "B", "a@b.co", "password one"⟩
        ⟨"user", "code", salt 1, .ofSeconds 0⟩) (.ok made) ∧
      w.LastPassword made.id "password three" (salt 3) ∧ (faultless w.directory).Faultless ∧
      (faultless w.directory).Admits ⟨true, .ofSeconds 900, .ofSeconds 300⟩
        ⟨"a@b.co", "password three"⟩ (.ofSeconds 5) := by
  intro w
  have hsalted : w.Salted := by
    have hset : w.calls.filterMap Call.password? =
        [("password one", salt 1), ("password two", salt 2), ("password three", salt 3)] := rfl
    intro call hcall password salt' hpassword
    have hmem : (password, salt') ∈ w.calls.filterMap Call.password? :=
      List.mem_filterMap.2 ⟨call, hcall, hpassword⟩
    have hsalts : ∀ x ∈ [("password one", salt 1), ("password two", salt 2),
        ("password three", salt 3)], 8 ≤ x.2.length ∧ x.2.length ≤ 48 := by decide
    exact hsalts _ (hset ▸ hmem)
  have hreturned : w.Returned 0 (.register ⟨"A", "B", "a@b.co", "password one"⟩
      ⟨"user", "code", salt 1, .ofSeconds 0⟩) (.ok (User.ofNew 1 (Operation.newUser
        ⟨"A", "B", "a@b.co", "password one"⟩ ⟨"user", "code", salt 1, .ofSeconds 0⟩))) := rfl
  have hlast : w.LastPassword 1 "password three" (salt 3) := by
    have hplaces : w.log.getLast?.map (fun e => (e.call, e.query)) = some (4,
        .users (.updatePassword 1 (Password.hash "password three" (salt 3)) (.ofSeconds 4))) := rfl
    obtain ⟨e, he, hx⟩ := Option.map_eq_some_iff.1 hplaces
    obtain ⟨past, hlog⟩ := List.getLast?_eq_some_iff.1 he
    obtain ⟨hcall, hquery⟩ := Prod.mk.inj hx
    have hchanged : w.Returned 4 (.changePassword (claims .user) ⟨"password three"⟩ (salt 3)
      (.ofSeconds 4)) (.ok ()) := rfl
    exact ⟨past, e, [], hlog, .change (hcall ▸ hchanged) (by simp [hquery]) rfl, by simp⟩
  have hsound : (faultless w.directory).Faultless := ⟨rfl, fun claims => ⟨_, rfl⟩⟩
  obtain ⟨-, -, hlogins⟩ := last_password_wins (service (.ofSeconds 900)) passwords hsalted
  obtain ⟨u, hu, hid, -, -, hlogin⟩ := hlogins 0 _ _ _ hreturned
  have hactive : ∀ v ∈ w.directory.users, v.isActive = true := by
    have hstatus : w.directory.users.map User.isActive = [true] := rfl
    intro v hv
    have hmem := hstatus ▸ List.mem_map_of_mem hv
    exact List.mem_singleton.1 hmem
  have huid : u.id = 1 := hid
  obtain ⟨hadmits, -, -⟩ := hlogin "password three" (salt 3) (huid ▸ hlast)
    (faultless w.directory) ⟨true, .ofSeconds 900, .ofSeconds 300⟩ (.ofSeconds 5) rfl hsound
  exact ⟨hsalted, _, hreturned, hlast, hsound, hadmits (hactive u hu)⟩

end World

end Accounts
