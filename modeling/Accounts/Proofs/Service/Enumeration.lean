import Accounts.Proofs.Service.LastPassword
/-!
# Nobody learns who has an account

A login without a token is told the same whether nobody has the address, the password is
wrong or the account is not active, and a request for a reset code is told the same whether
anybody has the address or not.  Each of the two answers is a function of the request
(`CredentialRequest.refusal`, `PasswordResetRequest.answer`), so no two stores are told apart
by it.

The first of them depends on what is stored: a hash that cannot be read would be told.  Every
hash of a store that calls have built up can be read (`Settled.verify`).
-/

namespace Accounts

/-- What a login is told that gets no token. -/
def CredentialRequest.refusal (r : CredentialRequest) : AccountError :=
  if r.faults.isEmpty then .invalidCredentials else .validation (.fields r.faults)

/-- What a request for a reset code is told. -/
def PasswordResetRequest.answer (r : PasswordResetRequest) : Except AccountError Unit :=
  if r.faults.isEmpty then .ok () else .error (.validation (.fields r.faults))

theorem Operation.validate_of_isEmpty {faults : List FieldFault} (h : faults.isEmpty = true) :
    validate faults = pure () := by
  rw [validate, h]
  rfl

/-- Who is there gets a reset code, unless the outbox refuses. -/
theorem Directory.reply_setResetCode {d : Directory} {u : User} (hu : u ∈ d.users)
    (hstores : d.outbox.refusing = false) (clock now : Instant) (code : String)
    (events : List Outbox.NewEnvelope) :
    (d.reply clock (.setResetCode u.id code now events)).1 = .ok () := by
  rcases d.mutate_cases clock (·.id == u.id) events fun v =>
      { v with resetPasswordCode := some code, updatedAt := now } with
    ⟨hrefusing, -⟩ | ⟨hnobody, -⟩ | ⟨before, v, after, -, -, -, -, hmutate⟩
  · cases hstores.symm.trans hrefusing
  · have hfits := List.any_eq_false.1 hnobody u hu
    simp at hfits
  · rw [reply, hmutate]

namespace ServiceMemory

variable {m m' : ServiceMemory} {p : LoginPolicy} {now : Instant}

/-- A login with an address that nobody has. -/
theorem Faultless.run_unknown {r : CredentialRequest} (hm : m.Faultless) (hr : r.faults = [])
    (hfind : m.directory.users.find? (·.email == r.email) = none) :
    m.run (Operation.authenticate p r now) = (some (.error .invalidCredentials), m) := by
  have hnobody := (hm.reply_findByEmail r.email).trans (by rw [hfind])
  rw [Operation.authenticate, hr, Operation.validate_of_isEmpty rfl, pure_bind,
    run_users_bind hnobody]
  rfl

/-- Without a fault the directory replies to a request. -/
theorem Faultless.reply_users (hm : m.Faultless) (c : DirectoryCall) :
    m.reply (.users c) = (some (m.directory.reply m.clock c).1,
      { m with directory := (m.directory.reply m.clock c).2 }) := by
  have hnone : m.faults.lookup c.name = none := by rw [hm.faults]; rfl
  rw [reply, replyUsers, hnone]
  rfl

/-- Calls have built up what is stored, and nothing goes wrong with it from now on. -/
structure Settled (m : ServiceMemory) : Prop extends m.Faultless where
  /-- The users are those of a world that can be reached. -/
  reached : ∃ s moves, (World.empty.run s moves).Salted ∧
    m.directory.users = (World.empty.run s moves).directory.users
  /-- The outbox stores what it is given. -/
  stores : m.directory.outbox.refusing = false

namespace Settled

/-- Every password can be compared with every hash. -/
theorem verify (hm : m.Settled) {u : User} (hu : u ∈ m.directory.users) (password : String) :
    ∃ fits, Password.verify password u.passwordHash = .ok fits := by
  obtain ⟨s, moves, hsalted, husers⟩ := hm.reached
  rw [husers] at hu
  obtain ⟨call, hcall, set, salt, hset, hhash⟩ :=
    (World.reached_run s moves).passwordHash_of_call hu
  obtain ⟨hleast, hmost⟩ := hsalted call hcall set salt hset
  rw [hhash]
  exact ⟨_, Password.verify_hash hleast hmost password set⟩

/-- A login gets a token, or it is told what its request alone decides and changes nothing. -/
theorem login (hm : m.Settled) (p : LoginPolicy) (r : CredentialRequest) (now : Instant) :
    m.Admits p r now ∨ m.run (Operation.authenticate p r now) = (some (.error r.refusal), m) := by
  cases hfaults : r.faults.isEmpty with
  | false =>
      right
      rw [CredentialRequest.refusal, Operation.authenticate, Operation.validate, hfaults]
      rfl
  | true =>
      have hvalid : r.faults = [] := List.isEmpty_iff.1 hfaults
      rw [CredentialRequest.refusal, hfaults]
      cases hfind : m.directory.users.find? (·.email == r.email) with
      | none =>
          exact .inr (hm.run_unknown hvalid hfind)
      | some u =>
          obtain ⟨fits, hfits⟩ := hm.verify (List.mem_of_find?_eq_some hfind) r.password
          have hlogin : if fits && u.isActive then m.Admits p r now else m.Refuses p r now :=
            hm.authenticate hvalid hfind hfits
          cases hadmitted : fits && u.isActive with
          | true =>
              rw [hadmitted] at hlogin
              exact .inl hlogin
          | false =>
              right
              rw [hm.run_authenticate hvalid hfind hfits, hadmitted]
              rfl

/-- A request for a reset code is told what it alone decides, and for an address that nobody
has it changes nothing. -/
theorem resetRequest (hm : m.Settled) (r : PasswordResetRequest) (code : String)
    (now : Instant) :
    (m.run (Operation.requestPasswordReset r code now)).1 = some r.answer ∧
      ((∀ u ∈ m.directory.users, u.email ≠ Text.trim r.email) →
        (m.run (Operation.requestPasswordReset r code now)).2 = m) := by
  cases hfaults : r.faults.isEmpty with
  | false =>
      rw [PasswordResetRequest.answer, Operation.requestPasswordReset, Operation.validate, hfaults]
      exact ⟨rfl, fun _ => rfl⟩
  | true =>
      rw [PasswordResetRequest.answer, hfaults, Operation.requestPasswordReset,
        Operation.validate_of_isEmpty hfaults, pure_bind]
      cases hfind : m.directory.users.find? (·.email == Text.trim r.email) with
      | none =>
          have hnobody := (hm.reply_findByEmail (Text.trim r.email)).trans (by rw [hfind])
          rw [run_users_bind hnobody]
          exact ⟨rfl, fun _ => rfl⟩
      | some u =>
          have hmem := List.mem_of_find?_eq_some hfind
          have hfound := (hm.reply_findByEmail (Text.trim r.email)).trans (by rw [hfind])
          rw [run_users_bind hfound]
          refine ⟨?_, ?_⟩
          · have hreply := hm.reply_users (.setResetCode u.id code now [(AccountEvent.resetPassword
              ⟨u.publicId, u.email, code⟩).envelope])
            rw [Directory.reply_setResetCode hmem hm.stores] at hreply
            have hrun := run_users_bind (f := pure) hreply
            rw [bind_pure] at hrun
            exact congrArg Prod.fst hrun
          · intro hunknown
            have hemail : u.email = Text.trim r.email := by simpa using List.find?_some hfind
            exact (hunknown u hmem hemail).elim

end Settled

/-- **Nobody learns who has an account.**  Over any two stores that calls have built up, when
nothing goes wrong, a login that gets a token over neither of them is told the same over both
and changes nothing, and a request for a reset code is told the same over both; for an address
that nobody has it changes nothing. -/
theorem accounts_not_enumerable (hm : m.Settled) (hm' : m'.Settled) :
    (∀ p p' r now now', ¬ m.Admits p r now → ¬ m'.Admits p' r now' →
      m.run (Operation.authenticate p r now) = (some (.error r.refusal), m) ∧
      m'.run (Operation.authenticate p' r now') = (some (.error r.refusal), m')) ∧
    ∀ r code code' now now',
      (m.run (Operation.requestPasswordReset r code now)).1 = some r.answer ∧
      (m'.run (Operation.requestPasswordReset r code' now')).1 = some r.answer ∧
      ((∀ u ∈ m.directory.users, u.email ≠ Text.trim r.email) →
        (m.run (Operation.requestPasswordReset r code now)).2 = m) := by
  refine ⟨?_, ?_⟩
  · intro p p' r now now' hno hno'
    refine ⟨?_, ?_⟩
    · exact (hm.login p r now).resolve_left hno
    · exact (hm'.login p' r now').resolve_left hno'
  · intro r code code' now now'
    obtain ⟨hanswer, hunknown⟩ := hm.resetRequest r code now
    obtain ⟨hanswer', -⟩ := hm'.resetRequest r code' now'
    exact ⟨hanswer, hanswer', hunknown⟩

/-- An account is made, and nobody activates it. -/
def Sample.waiting : List World.Move := World.Sample.passwords.take 2

open World.Sample in
/-- The right password of an account that is not active is told what is told when nobody is
there. -/
theorem accounts_not_enumerable_waiting :
    let m := faultless .empty
    let m' := faultless (World.empty.run (service (.ofSeconds 900)) Sample.waiting).directory
    let p : LoginPolicy := ⟨true, .ofSeconds 900, .ofSeconds 300⟩
    let r : CredentialRequest := ⟨"a@b.co", "password one"⟩
    m.Settled ∧ m'.Settled ∧
      ¬ m.Admits p r (.ofSeconds 5) ∧ ¬ m'.Admits p r (.ofSeconds 5) ∧
      m.run (Operation.authenticate p r (.ofSeconds 5)) =
        (some (.error .invalidCredentials), m) ∧
      m'.run (Operation.authenticate p r (.ofSeconds 5)) =
        (some (.error .invalidCredentials), m') ∧
      (m.run (Operation.requestPasswordReset ⟨"a@b.co"⟩ "reset" (.ofSeconds 5))).1 = some (.ok ()) ∧
      (m'.run (Operation.requestPasswordReset ⟨"a@b.co"⟩ "reset" (.ofSeconds 5))).1 =
        some (.ok ()) := by
  intro m m' p r
  have hm : m.Settled := {
    faults := rfl
    signs := fun claims => ⟨_, rfl⟩
    reached := ⟨service (.ofSeconds 900), [], by simp [World.Salted, World.calls, World.run,
      World.empty], rfl⟩
    stores := rfl }
  have hm' : m'.Settled := {
    faults := rfl
    signs := fun claims => ⟨_, rfl⟩
    reached := by
      refine ⟨service (.ofSeconds 900), Sample.waiting, ?_, rfl⟩
      have hset : (World.empty.run (service (.ofSeconds 900)) Sample.waiting).calls.map
          Call.password? = [some ("password one", salt 1)] := rfl
      intro call hcall password salt' hpassword
      have hmem := List.mem_map_of_mem (f := Call.password?) hcall
      rw [hset, hpassword] at hmem
      cases List.mem_singleton.1 hmem
      decide
    stores := rfl }
  have hvalid : r.faults = [] := by decide
  have hno : ¬ m.Admits p r (.ofSeconds 5) := by
    refine Refuses.not_admits ?_
    rw [Refuses, hm.run_unknown hvalid rfl]
  have hno' : ¬ m'.Admits p r (.ofSeconds 5) := by
    have hinactive : ((World.empty.run (service (.ofSeconds 900))
        Sample.waiting).directory.users.find? (·.email == "a@b.co")).map User.isActive =
          some false := rfl
    obtain ⟨u, hu, hstatus⟩ := Option.map_eq_some_iff.1 hinactive
    obtain ⟨fits, hfits⟩ := hm'.verify (List.mem_of_find?_eq_some hu) r.password
    have hlogin : if fits && u.isActive then m'.Admits p r (.ofSeconds 5)
        else m'.Refuses p r (.ofSeconds 5) := hm'.authenticate hvalid hu hfits
    rw [hstatus, Bool.and_false] at hlogin
    exact hlogin.not_admits
  obtain ⟨hlogins, hresets⟩ := accounts_not_enumerable hm hm'
  obtain ⟨hlogin, hlogin'⟩ := hlogins p p r (.ofSeconds 5) (.ofSeconds 5) hno hno'
  rw [CredentialRequest.refusal, hvalid] at hlogin hlogin'
  obtain ⟨hreset, hreset', -⟩ :=
    hresets ⟨"a@b.co"⟩ "reset" "reset" (.ofSeconds 5) (.ofSeconds 5)
  exact ⟨hm, hm', hno, hno', hlogin, hlogin', hreset, hreset'⟩

end ServiceMemory

end Accounts
