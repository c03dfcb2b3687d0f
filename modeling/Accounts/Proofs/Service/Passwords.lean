import Accounts.Proofs.Service.History
/-!
# Who sets which password

Three calls set a password: one that makes an account, one with a reset code and one with
a token.  Each of them hashes the password that it was given and hands the hash to the
directory with its only change.

A granted request changes one user at most, its *subject*.  So the hashes that a user was
given can be told from the log, in their order, and the user has the last of them.
-/

namespace Accounts

open Operation (Trace)

/-- The hash that a request gives to a user. -/
def DirectoryCall.passwordHash? : DirectoryCall → Option String
  | create n _ => some n.passwordHash
  | resetPassword _ hash _ | updatePassword _ hash _ => some hash
  | _ => none

/-- The password that a call sets, and the salt of its hash. -/
def Call.password? : Call → Option (String × List UInt8)
  | register r a => some (r.password, a.salt)
  | resetPassword r salt _ => some (r.password, salt)
  | changePassword _ r salt _ => some (r.password, salt)
  | _ => none

section Requests

open Operation

variable {t : Trace} {c : DirectoryCall} {claims : Claims}

theorem asks_changePassword {r : ChangePasswordRequest} {salt : List UInt8} {now : Instant}
    {q : ServiceCall} (h : (changePassword claims r salt now).Asks t q) :
    q = .users (.findByPublicId claims.sub) ∨
      ∃ id, q = .users (.updatePassword id (Password.hash r.password salt) now) := by
  rcases asks_profile_bind h with ⟨-, hq⟩ | ⟨u, t₁, -, h₁⟩
  · exact .inl hq
  · obtain ⟨-, h₂⟩ := asks_validate_bind.1 h₁
    exact .inr ⟨u.id, (asks_users.1 h₂).2⟩

/-- A hash that is stored is that of the password that the call sets. -/
theorem Service.hashes {s : Service} {call : Call} {hash : String}
    (h : (s.operation call).Asks t (.users c)) (hc : c.passwordHash? = some hash) :
    ∃ password salt, call.password? = some (password, salt) ∧
      hash = Password.hash password salt := by
  have hmakes := Service.makes h
  cases c with
  | create n events =>
      obtain ⟨r, a, rfl, -, rfl⟩ := hmakes
      cases hc
      exact ⟨r.password, a.salt, rfl, rfl⟩
  | resetPassword code hash' now =>
      obtain ⟨r, salt, rfl, -, -⟩ := hmakes
      cases asks_resetPassword h
      cases hc
      exact ⟨r.password, salt, rfl, rfl⟩
  | updatePassword id hash' now =>
      obtain ⟨claims, r, salt, u, rfl, -, -⟩ := hmakes
      rcases asks_changePassword h with hq | ⟨i, hq⟩
      · cases hq
      · cases hq
        cases hc
        exact ⟨r.password, salt, rfl, rfl⟩
  | _ => cases hc

end Requests

/-! ## What becomes of whom -/

namespace Entry

/-- The number of the user whom something in the log made or changed. -/
def subject? (e : Entry) : Option Int :=
  match e.granted? with
  | some (.create _ _) => some (e.before.users.length + 1)
  | some c => (e.before.users.find? c.fits).map User.id
  | none => none

/-- A user is made or changed, or all of them stay as they are. -/
inductive Turns (e : Entry) : Prop
  /-- All users stay as they are. -/
  | nobody (subject : e.subject? = none) (after : e.after.users = e.before.users)
  /-- A user is made. -/
  | made (n : NewUser) (events : List Outbox.NewEnvelope)
      (granted : e.granted? = some (.create n events))
      (subject : e.subject? = some ((e.before.users.length : Int) + 1))
      (free : ∀ u ∈ e.before.users, u.email ≠ n.email)
      (after : e.after.users = e.before.users ++ [User.ofNew (e.before.users.length + 1) n])
  /-- A user is changed. -/
  | changed (c : DirectoryCall) (first : List User) (u : User) (last : List User)
      (granted : e.granted? = some c) (other : ∀ n events, c ≠ .create n events)
      (subject : e.subject? = some u.id) (before : e.before.users = first ++ u :: last)
      (fits : c.fits u = true) (after : e.after.users = first ++ c.edit u :: last)

theorem subject?_of_granted {e : Entry} {c : DirectoryCall} (hg : e.granted? = some c)
    (hc : ∀ n events, c ≠ .create n events) :
    e.subject? = (e.before.users.find? c.fits).map User.id := by
  rw [subject?, hg]
  cases c with
  | create n events => exact (hc n events rfl).elim
  | _ => rfl

/-- An address that was taken is not given to another user. -/
theorem free_of_created {d d' : Directory} {clock : Instant} {n : NewUser} {u : User}
    {events : List Outbox.NewEnvelope} (h : d.reply clock (.create n events) = (.ok u, d')) :
    ∀ v ∈ d.users, v.email ≠ n.email := by
  rw [Directory.reply] at h
  split at h
  · cases h
  · next hfree =>
      intro v hv hemail
      exact hfree (List.any_eq_true.2 ⟨v, hv, by simp [hemail]⟩)

theorem turns (e : Entry) : e.Turns := by
  cases hg : e.granted? with
  | none =>
      have hsubject : e.subject? = none := by rw [subject?, hg]
      exact .nobody hsubject (congrArg Directory.users (after_of_idle hg))
  | some c =>
      obtain ⟨r, hexchange, hr⟩ := Exchange.granted?_eq_some.1 hg
      obtain ⟨r', hexchange', hreplies⟩ := replies (congrArg Exchange.query hexchange)
      obtain rfl := eq_of_heq (Exchange.mk.inj (hexchange'.symm.trans hexchange)).2
      generalize ha : e.after = d at hreplies
      cases hreplies with
      | idle hidle => cases hidle.symm.trans hr
      | unnoticed hsilent hnobody =>
          have hother : ∀ n events, c ≠ .create n events := by
            rintro n events rfl
            cases hsilent
          refine .nobody ?_ (congrArg Directory.users ha)
          rw [subject?_of_granted hg hother, List.find?_eq_none.2]
          · rfl
          · intro v hv
            simpa using List.any_eq_false.1 hnobody v hv
      | created n events =>
          have hsubject : e.subject? = some ((e.before.users.length : Int) + 1) := by rw [subject?, hg]
          refine .made n events hg hsubject ?_ (congrArg Directory.users ha)
          exact free_of_created (reply_of_ok hexchange)
      | changed hmade first u last hu hfirst hfits =>
          have hother : ∀ n events, c ≠ .create n events := by
            rintro n events rfl
            cases hmade
          refine .changed c first u last hg hother ?_ hu hfits (congrArg Directory.users ha)
          have hfind : (first ++ u :: last).find? c.fits = some u :=
            List.find?_eq_some_iff_append.2 ⟨hfits, first, last, rfl, by simpa using hfirst⟩
          rw [subject?_of_granted hg hother, hu, hfind]
          rfl

/-- The hash that something in the log gave to a user. -/
def hashFor? (id : Int) (e : Entry) : Option String :=
  if e.subject? = some id then e.granted?.bind DirectoryCall.passwordHash? else none

/-- A request that gives no hash leaves the old one. -/
theorem passwordHash_edit {c : DirectoryCall} (hc : ∀ n events, c ≠ .create n events) (u : User) :
    (c.edit u).passwordHash = c.passwordHash?.getD u.passwordHash := by
  cases c with
  | create n events => exact (hc n events rfl).elim
  | _ => rfl

/-- A user has the hash that it is given, or the one that it had before. -/
theorem hashFor?_cases (e : Entry) (hnum : e.before.Numbered) {u : User}
    (hu : u ∈ e.after.users) : e.hashFor? u.id = some u.passwordHash ∨
      (e.hashFor? u.id = none ∧
        ∃ v ∈ e.before.users, v.id = u.id ∧ v.passwordHash = u.passwordHash) := by
  have hother : e.subject? ≠ some u.id → u ∈ e.before.users →
      e.hashFor? u.id = none ∧
        ∃ v ∈ e.before.users, v.id = u.id ∧ v.passwordHash = u.passwordHash :=
    fun hne hmem => ⟨if_neg hne, u, hmem, rfl, rfl⟩
  cases e.turns with
  | nobody hsubject ha => exact .inr (hother (by simp [hsubject]) (ha ▸ hu))
  | made n events hg hsubject _ ha =>
      rw [ha] at hu
      rcases List.mem_append.1 hu with hu | hu
      · refine .inr (hother ?_ hu)
        have := hnum.id_le hu
        rw [hsubject]
        intro h
        have := Option.some.inj h
        omega
      · rw [List.mem_singleton.1 hu]
        refine .inl ?_
        rw [hashFor?, hsubject, hg]
        exact if_pos rfl
  | changed c first v last hg hc hsubject hb _ ha =>
      have hmem : u = c.edit v ∨ u ∈ first ++ last := by
        rw [ha] at hu
        simpa [or_left_comm] using hu
      rcases hmem with rfl | hu
      · rw [Directory.id_edit, hashFor?, if_pos hsubject, hg, Option.bind_some, passwordHash_edit hc]
        cases hhash : c.passwordHash? with
        | none => exact .inr ⟨rfl, v, by simp [hb], rfl, rfl⟩
        | some hash => exact .inl rfl
      · refine .inr (hother ?_ (by rw [hb]; simpa [or_left_comm] using Or.inr hu))
        rw [hsubject]
        intro h
        exact hnum.id_ne hb hu (Option.some.inj h).symm

end Entry

namespace World

/-! ## The last password -/

/-- The hashes that a user was given. -/
def hashes (log : List Entry) (id : Int) : List String := log.filterMap (Entry.hashFor? id)

/-- The users have the last hashes that they were given. -/
def LastGiven (log : List Entry) (users : List User) : Prop :=
  ∀ u ∈ users, (hashes log u.id).getLast? = some u.passwordHash

theorem hashes_concat (log : List Entry) (e : Entry) (id : Int) :
    hashes (log ++ [e]) id = hashes log id ++ (e.hashFor? id).toList := by
  rw [hashes, List.filterMap_append, hashes]
  cases h : e.hashFor? id <;> simp [h]

theorem lastGiven_run (s : Service) (moves : List Move) :
    (empty.run s moves).Throughout LastGiven := by
  refine throughout_run s (by simp [LastGiven]) ?_ moves
  intro w e call hw h _ hb _ u hu
  have hlast := h.now
  rw [hashes_concat]
  rcases e.hashFor?_cases (hb ▸ hw.numbered) hu with hnew | ⟨hnone, v, hv, hid, hhash⟩
  · rw [hnew, Option.toList_some, List.getLast?_concat]
  · rw [hnone, Option.toList_none, List.append_nil, ← hid, ← hhash]
    exact hlast v (hb ▸ hv)

/-- Something in the log gave a user its hash, and nothing gave it another since then. -/
theorem last_of_given {log : List Entry} {id : Int} {hash : String}
    (h : (hashes log id).getLast? = some hash) :
    ∃ past e rest, log = past ++ e :: rest ∧ e.hashFor? id = some hash ∧
      ∀ x ∈ rest, x.hashFor? id = none := by
  obtain ⟨given, hgiven⟩ := List.getLast?_eq_some_iff.1 h
  obtain ⟨first, more, rfl, -, hmore⟩ := List.filterMap_eq_append_iff.1 hgiven
  obtain ⟨skipped, e, rest, rfl, -, he, hrest⟩ := List.filterMap_eq_cons_iff.1 hmore
  refine ⟨first ++ skipped, e, rest, by simp, he, ?_⟩
  exact List.filterMap_eq_nil_iff.1 hrest

/-- Whatever gave a hash was asked by a call that hashes its password. -/
theorem Coherent.hashFor? {s : Service} {w : World} (hw : w.Coherent s) {e : Entry}
    (he : e ∈ w.log) {id : Int} {hash : String} (h : e.hashFor? id = some hash) :
    ∃ call password salt, w.calls[e.call]? = some call ∧
      call.password? = some (password, salt) ∧ hash = Password.hash password salt := by
  obtain ⟨-, hhash⟩ := Option.ite_none_right_eq_some.1 h
  obtain ⟨c, hg, hc⟩ := Option.bind_eq_some_iff.1 hhash
  obtain ⟨r, hexchange, -⟩ := Exchange.granted?_eq_some.1 hg
  obtain ⟨past, rest, hlog⟩ := List.append_of_mem he
  obtain ⟨call, hcall, hasks⟩ := hw.asks hlog
  have hquery : e.query = .users c := congrArg Exchange.query hexchange
  rw [hquery] at hasks
  obtain ⟨password, salt, hpassword, hhash⟩ := Service.hashes hasks hc
  exact ⟨call, password, salt, hcall, hpassword, hhash⟩

end World

end Accounts
