import Accounts.Proofs.Database.Answered
import Accounts.Proofs.Directory.Reply
import Accounts.Proofs.Except
/-!
# The directory in memory and the one in a database

A database `Reflects` a table of users for a request if it replies to the statements of the
request as the table demands: a change says how many users fit it, and a new user is refused if
the address is taken.  Nothing is demanded of other statements.  Then both directories reply the
same to this request, if it changes users: each reply is a function of whether a user fits
(`Directory.mutate_fst`, `DirectoryCall.answered_change`), and a request fits the same users on
both sides.

A user that is added has the number that the database gives it and its instants as the database
keeps them.  The request for a new password and the one for a new secret say in a database that
nobody has the number, and in memory they do not.
-/

namespace Accounts

/-- The statements that a request which changes users runs at most. -/
def DirectoryCall.statements : DirectoryCall → List Database.SessionCall
  | create n events => [.within (.insertUser n), .within (.insertEnvelopes events)]
  | activate code now events =>
    [.within (.activateUser code now), .within (.insertEnvelopes events)]
  | setResetCode id code now events =>
    [.within (.setResetCode id code now), .within (.insertEnvelopes events)]
  | resetPassword code hash now => [.alone (.resetPassword code hash now)]
  | updatePassword id hash now => [.alone (.updatePassword id hash now)]
  | setOtpSecret id secret => [.alone (.setOtpSecret id secret)]
  | enableOtp id secret codes => [.alone (.enableOtp id secret codes)]
  | disableOtp id => [.alone (.disableOtp id)]
  | consumeRecoveryCode id code => [.alone (.consumeRecoveryCode id code)]
  | findByEmail _ | findByPublicId _ | findByActivationCode _ => []

namespace Database

/-! ## What a table of users demands -/

namespace Statement

/-- A user whom a statement is about. -/
def fits : Statement → User → Bool
  | activateUser code _, u => u.activationCode == some code
  | resetPassword code _ _, u => u.resetPasswordCode == some code
  | setResetCode id _ _, u | updatePassword id _ _, u | setOtpSecret id _, u
  | disableOtp id, u => u.id == id
  | enableOtp id secret _, u => u.id == id && u.otpSecret == some secret
  | consumeRecoveryCode id code, u => u.id == id && u.otpRecoveryCodes.contains code
  | _, _ => false

/-- The statement changes users. -/
def changesUsers : Statement → Bool
  | activateUser _ _ | setResetCode _ _ _ | resetPassword _ _ _ | updatePassword _ _ _
  | setOtpSecret _ _ | enableOtp _ _ _ | disableOtp _ | consumeRecoveryCode _ _ => true
  | _ => false

end Statement

/-- The row of a user who was added.  What is not given is what the table gives to new users. -/
def Row.added (id : Int) (n : NewUser) : Row := [
  ("id", some (.integer id)),
  ("public_id", some (.text n.publicId)),
  ("email", some (.text n.email)),
  ("first_name", some (.text n.firstName)),
  ("last_name", some (.text n.lastName)),
  ("password_hash", some (.text n.passwordHash)),
  ("status", some (.label userStatusType "registered")),
  ("activation_code", some (.text n.activationCode)),
  ("reset_password_code", none),
  ("otp_secret", none),
  ("otp_recovery_codes", some (.texts [])),
  ("otp_enabled", some (.flag false)),
  ("created_at", some (.ofInstant n.createdAt)),
  ("updated_at", some (.ofInstant n.createdAt))]

/-- A database that replies to a request as a table of users demands.  Nothing else goes wrong
with it: that a public name or a code is taken, which other constraints of the table forbid, is
left aside like any fault. -/
structure Reflects (db : Respondent) (users : List User) (c : DirectoryCall) : Prop where
  /-- Transactions begin and end. -/
  command : ∀ c, db (.command c) = .ok ()
  /-- A change within a transaction says how many users fit. -/
  within : ∀ s, .within s ∈ c.statements → s.changesUsers = true →
    ∃ a, db (.within s) = .ok a ∧ a.affected = users.countP s.fits
  /-- A change on its own says how many users fit. -/
  alone : ∀ s, .alone s ∈ c.statements → s.changesUsers = true →
    ∃ a, db (.alone s) = .ok a ∧ a.affected = users.countP s.fits
  /-- An address that is taken cannot be given to a new user. -/
  taken : ∀ n : NewUser, .within (.insertUser n) ∈ c.statements →
    users.any (·.email == n.email) = true →
    ∃ e, db (.within (.insertUser n)) = .error e ∧ e.isUniqueViolation "users_email_key" = true
  /-- With any other address a user is added, and the row is shown. -/
  added : ∀ n : NewUser, .within (.insertUser n) ∈ c.statements →
    users.any (·.email == n.email) = false →
    ∃ a id, db (.within (.insertUser n)) = .ok a ∧ a.rows = [Row.added id n]
  /-- Events are stored, if there are any, and their numbers are shown. -/
  stored : ∀ es, .within (.insertEnvelopes es) ∈ c.statements → es ≠ [] →
    ∃ a ids, db (.within (.insertEnvelopes es)) = .ok a ∧
      a.rows.mapM (·.readFirst .integer) = .ok ids

/-- The user as the database keeps it. -/
def keptUser (u : User) : User :=
  { u with createdAt := kept u.createdAt, updatedAt := kept u.updatedAt }

/-! ## A database of its own -/

/-- What a table of users makes of a statement. -/
def answerOf (users : List User) : Statement → Except DatabaseError Answer
  | .insertUser n =>
    if users.any (·.email == n.email) then
      .error (.rejected "23505" "duplicate key value violates unique constraint \"users_email_key\""
        (some "users_email_key"))
    else .ok ⟨1, [Row.added (users.length + 1) n]⟩
  | .insertEnvelopes events => .ok ⟨events.length, events.map fun _ => [("id", some (.integer 1))]⟩
  | s => .ok ⟨users.countP s.fits, []⟩

/-- The database of a table of users. -/
def ofUsers (users : List User) : Respondent
  | .connect _ | .command _ | .migrate _ => .ok ()
  | .abandon => ()
  | .within s | .alone s => answerOf users s
  | .clock => .ofSeconds 0

theorem answerOf_change (users : List User) {s : Statement} (hs : s.changesUsers = true) :
    answerOf users s = .ok ⟨users.countP s.fits, []⟩ := by
  cases s <;> first | rfl | cases hs

/-- The numbers of events that were stored are read. -/
theorem mapM_answered (events : List Outbox.NewEnvelope) :
    (events.map fun _ => [("id", some (Value.integer 1))]).mapM (Row.readFirst · .integer) =
      .ok (events.map fun _ => 1) := by
  rw [Except.mapM_eq_ok_iff]
  induction events with
  | nil => exact .nil
  | cons e es ih => exact .cons rfl ih

theorem reflects_ofUsers (users : List User) (c : DirectoryCall) :
    Reflects (ofUsers users) users c where
  command _ := rfl
  within _ _ hs := ⟨_, answerOf_change users hs, rfl⟩
  alone _ _ hs := ⟨_, answerOf_change users hs, rfl⟩
  taken n _ hn := ⟨_, if_pos hn, by decide⟩
  added n _ hn := ⟨_, users.length + 1, if_neg (ne_true_of_eq_false hn), rfl⟩
  stored events _ _ := ⟨_, _, rfl, mapM_answered events⟩

end Database

/-! ## Requests to a database -/

namespace DirectoryCall

open Database Session

section Answered

variable {db : Respondent} {users : List User} {c : DirectoryCall} {s : Statement}
  {events : List Outbox.NewEnvelope}

/-- Events are stored, if there are any. -/
theorem answered_announce (h : Reflects db users c)
    (hasked : .within (.insertEnvelopes events) ∈ c.statements) :
    (announce events).answered db = .ok () := by
  have hinsert : ∃ ids, (Outbox.Stored.insert events).answered db = .ok ids := by
    cases events with
    | nil => exact ⟨[], rfl⟩
    | cons e es =>
        obtain ⟨a, ids, ha, hids⟩ := h.stored (e :: es) hasked (List.cons_ne_nil e es)
        refine ⟨ids, (answered_bind_ok (answered_within_ok ha) _).trans ?_⟩
        change Except.mapError _ (a.rows.mapM _) = _
        rw [hids]
        rfl
  obtain ⟨ids, hids⟩ := hinsert
  rw [announce, answered_discard, answered_mapFailure, hids]
  rfl

/-- A count of users is zero exactly if there are none. -/
theorem countP_eq_zero_iff_any {users : List User} {fits : User → Bool} :
    users.countP fits = 0 ↔ users.any fits = false := by
  rw [List.countP_eq_zero, List.any_eq_false]

/-- A change on its own says whether somebody fits. -/
theorem answered_change (h : Reflects db users c) (hasked : .alone s ∈ c.statements)
    (hs : s.changesUsers = true) : (change s).answered db = .ok (users.any s.fits) := by
  obtain ⟨a, ha, haffected⟩ := h.alone s hasked hs
  rw [change, answered_bind_ok (answered_alone_ok ha), answered_pure, haffected]
  cases hany : users.any s.fits with
  | false => rw [countP_eq_zero_iff_any.2 hany]; rfl
  | true =>
      have hne : users.countP s.fits ≠ 0 := fun hzero => by
        cases hany.symm.trans (countP_eq_zero_iff_any.1 hzero)
      simp [hne]

theorem answered_changeKnown (h : Reflects db users c) (hasked : .alone s ∈ c.statements)
    (hs : s.changesUsers = true) : (changeKnown s).answered db =
      if users.any s.fits then .ok () else .error .userNotFound := by
  rw [changeKnown, answered_bind_ok (answered_change h hasked hs)]
  cases users.any s.fits <;> rfl

/-- A change within a transaction goes on if somebody fits. -/
theorem answered_within_change {α : Type} (h : Reflects db users c)
    (hasked : .within s ∈ c.statements) (hs : s.changesUsers = true)
    {found missed : Session AccountError α} :
    (Session.within s .ofDatabase >>= fun a =>
        if a.affected = 0 then missed else found).answered db =
      if users.any s.fits then found.answered db else missed.answered db := by
  obtain ⟨a, ha, haffected⟩ := h.within s hasked hs
  rw [answered_bind_ok (answered_within_ok ha), haffected]
  cases hany : users.any s.fits with
  | false => rw [if_pos (countP_eq_zero_iff_any.2 hany)]; rfl
  | true => rw [if_neg fun hzero => by cases hany.symm.trans (countP_eq_zero_iff_any.1 hzero)]; rfl

theorem answered_announced {α : Type} (h : Reflects db users c)
    (hasked : .within (.insertEnvelopes events) ∈ c.statements) (a : α) :
    (announce events >>= fun _ => (pure a : Session AccountError α)).answered db = .ok a :=
  answered_bind_ok (answered_announce h hasked) _

theorem answered_activateUser {code : String} {now : Instant}
    (h : Reflects db users (.activate code now events)) :
    (activateUser code now events).answered db =
      .ok (users.any (Statement.activateUser code now).fits) := by
  rw [activateUser, answered_transaction h.command, answered_within_change h (.head _) rfl,
    answered_announced h (.tail _ (.head _))]
  cases users.any (Statement.activateUser code now).fits <;> rfl

theorem answered_giveResetCode {id : Int} {code : String} {now : Instant}
    (h : Reflects db users (.setResetCode id code now events)) :
    (giveResetCode id code now events).answered db =
      if users.any (Statement.setResetCode id code now).fits then .ok ()
      else .error .userNotFound := by
  rw [giveResetCode, answered_transaction h.command]
  refine (congrArg _ (answered_within_change h (.head _) rfl)).trans ?_
  cases users.any (Statement.setResetCode id code now).fits
  · rfl
  · exact congrArg _ (answered_announced h (.tail _ (.head _)) _)

/-- A user is added under a number that the database chooses, unless the address is taken. -/
theorem answered_insertUser {n : NewUser} (h : Reflects db users (.create n events)) :
    (users.any (·.email == n.email) = true ∧
      (insertUser n events).answered db = .error .emailAlreadyExists) ∨
    (users.any (·.email == n.email) = false ∧ ∃ id,
      (insertUser n events).answered db = .ok (keptUser (User.ofNew id n))) := by
  rw [insertUser, answered_transaction h.command]
  cases hany : users.any (·.email == n.email) with
  | true =>
      obtain ⟨e, he, hunique⟩ := h.taken n (.head _) hany
      have hfailure : ofInsertion e = .emailAlreadyExists := if_pos hunique
      refine .inl ⟨rfl, ?_⟩
      rw [answered_bind_error (answered_within_error he), hfailure]
      rfl
  | false =>
      obtain ⟨a, id, ha, hrows⟩ := h.added n (.head _) hany
      have hfirst : (Session.firstRow Row.user AccountError.ofDatabase a).answered db =
          .ok (some (keptUser (User.ofNew id n))) := by
        rw [Session.firstRow, hrows]
        rfl
      refine .inr ⟨rfl, id, ?_⟩
      rw [answered_bind_ok (answered_within_ok ha), answered_bind_ok hfirst]
      exact congrArg _ (answered_announced h (.tail _ (.head _)) _)

end Answered

/-! ## Agreement -/

/-- The request changes users. -/
def Mutates : DirectoryCall → Prop
  | findByEmail _ | findByPublicId _ | findByActivationCode _ => False
  | _ => True

/-- The same results, but that a user who is added has a number of its own, and is seen on the
one side as `view` shows it. -/
def SameResult (view : User → User) : (c : DirectoryCall) → c.Result → c.Result → Prop
  | create _ _, u, v => { u with id := v.id } = view v
  | _, r, r' => r = r'

/-- The same results, or the same errors. -/
def Agree (view : User → User) (c : DirectoryCall) :
    Except AccountError c.Result → Except AccountError c.Result → Prop
  | .ok r, .ok r' => c.SameResult view r r'
  | .error e, .error e' => e = e'
  | _, _ => False

theorem Agree.of_eq {view : User → User} {c : DirectoryCall}
    {r r' x x' : Except AccountError c.Result} (hr : r = x) (hr' : r' = x')
    (h : c.Agree view x x') : c.Agree view r r' := by
  rwa [hr, hr']

theorem Agree.refl {view : User → User} {c : DirectoryCall}
    (hc : ∀ n events, c ≠ .create n events) (r : Except AccountError c.Result) :
    c.Agree view r r := by
  cases r with
  | error e => rfl
  | ok a =>
      cases c with
      | create n events => exact (hc n events rfl).elim
      | _ => rfl

/-- A new password or a new secret is for somebody who is there. -/
def Aimed (users : List User) : DirectoryCall → Prop
  | updatePassword id _ _ | setOtpSecret id _ => ∃ u ∈ users, u.id = id
  | _ => True

end DirectoryCall

namespace Directory

open Database

variable {d : Directory} {clock : Instant}

/-- A change in memory says whether somebody fits. -/
theorem mutate_fst (hd : d.outbox.refusing = false) (fits : User → Bool)
    (events : List Outbox.NewEnvelope) (change : User → User) :
    (d.mutate clock fits events change).1 = .ok (d.users.any fits) := by
  rcases d.mutate_cases clock fits events change with
    ⟨hr, -⟩ | ⟨hnone, hm⟩ | ⟨before, u, after, husers, -, hu, -, hm⟩
  · cases hd.symm.trans hr
  · rw [hm, hnone]
  · rw [hm, husers, List.any_append, List.any_cons, hu, Bool.true_or, Bool.or_true]

/-- A reset code is given in memory if somebody has the number. -/
theorem reply_setResetCode_fst (hd : d.outbox.refusing = false) (id : Int) (code : String)
    (now : Instant) (events : List Outbox.NewEnvelope) :
    (d.reply clock (.setResetCode id code now events)).1 =
      if d.users.any (DirectoryCall.setResetCode id code now events).fits then .ok ()
      else .error .userNotFound := by
  rcases d.mutate_cases clock (fun u => u.id == id) events
    (fun u => { u with resetPasswordCode := some code, updatedAt := now }) with
    ⟨hr, -⟩ | ⟨hnone, hm⟩ | ⟨before, u, after, husers, -, hu, -, hm⟩
  · cases hd.symm.trans hr
  · simp only [reply, hm]
    exact (if_neg (ne_true_of_eq_false hnone)).symm
  · simp only [reply, hm]
    have hmem : u ∈ d.users := husers ▸ List.mem_append_right before List.mem_cons_self
    exact (if_pos (List.any_eq_true.2 ⟨u, hmem, hu⟩)).symm

/-- A user is added in memory unless the address is taken. -/
theorem reply_create_fst (hd : d.outbox.refusing = false) (clock : Instant) (n : NewUser)
    (events : List Outbox.NewEnvelope) : (d.reply clock (.create n events)).1 =
      if d.users.any (·.email == n.email) then .error .emailAlreadyExists
      else .ok (User.ofNew (d.users.length + 1) n) := by
  rw [reply]
  split
  · rfl
  · rw [Outbox.Store.append, if_neg (ne_true_of_eq_false hd)]

/-- **The directory in memory and the one in a database agree** on all requests that change
users: whatever the table of users and whatever the request, they have the same result or the
same error, if the database replies as the table demands and nothing is refused.  A user who is
added has a number of its own in each, and in the database its instants as the database keeps
them.  A new password and a new secret are for somebody who is there. -/
theorem directories_agree {db : Respondent} {c : DirectoryCall} (hdb : Reflects db d.users c)
    (hd : d.outbox.refusing = false) (clock : Instant) (hc : c.Mutates)
    (haimed : c.Aimed d.users) :
    c.Agree keptUser (c.session.answered db) (d.reply clock c).1 := by
  have hsilent : ∀ fits events change, (reply.silent (d.mutate clock fits events change)).1 =
      .ok () := by
    intro fits events change
    rw [reply.silent, mutate_fst hd]
    rfl
  cases c with
  | findByEmail | findByPublicId | findByActivationCode => exact hc.elim
  | create n events =>
      have hreply := reply_create_fst hd clock n events
      rcases DirectoryCall.answered_insertUser hdb with ⟨hany, h⟩ | ⟨hany, id, h⟩
      · exact .of_eq h (hreply.trans (if_pos hany)) rfl
      · exact .of_eq h (hreply.trans (if_neg (ne_true_of_eq_false hany))) rfl
  | activate code now events =>
      exact .of_eq (DirectoryCall.answered_activateUser hdb) (mutate_fst hd ..) rfl
  | setResetCode id code now events =>
      refine .of_eq (DirectoryCall.answered_giveResetCode hdb)
        (reply_setResetCode_fst hd id code now events) (.refl ?_ _)
      rintro n events ⟨⟩
  | resetPassword code hash now =>
      exact .of_eq (DirectoryCall.answered_change hdb (.head _) rfl) (mutate_fst hd ..) rfl
  | enableOtp id secret codes =>
      exact .of_eq (DirectoryCall.answered_change hdb (.head _) rfl) (mutate_fst hd ..) rfl
  | consumeRecoveryCode id code =>
      exact .of_eq (DirectoryCall.answered_change hdb (.head _) rfl) (mutate_fst hd ..) rfl
  | disableOtp id =>
      have hanswered : (discard (DirectoryCall.change (.disableOtp id))).answered db = .ok () := by
        rw [Session.answered_discard, DirectoryCall.answered_change hdb (.head _) rfl]
        rfl
      exact .of_eq hanswered (hsilent ..) rfl
  | updatePassword id hash now =>
      obtain ⟨u, hu, hid⟩ := haimed
      have hany : d.users.any (Statement.updatePassword id hash now).fits = true :=
        List.any_eq_true.2 ⟨u, hu, beq_iff_eq.2 hid⟩
      exact .of_eq ((DirectoryCall.answered_changeKnown hdb (.head _) rfl).trans (if_pos hany))
        (hsilent ..) rfl
  | setOtpSecret id secret =>
      obtain ⟨u, hu, hid⟩ := haimed
      have hany : d.users.any (Statement.setOtpSecret id secret).fits = true :=
        List.any_eq_true.2 ⟨u, hu, beq_iff_eq.2 hid⟩
      exact .of_eq ((DirectoryCall.answered_changeKnown hdb (.head _) rfl).trans (if_pos hany))
        (hsilent ..) rfl

/-- A user whose instant is finer than a database keeps it. -/
def newcomer : NewUser :=
  ⟨"p", "e@x.y", "F", "L", "h", "a", ⟨1714979289, 123456789⟩⟩

/-- A secret is stored for the only user. -/
theorem directories_agree_secret :
    let d : Directory := ⟨[User.ofNew 1 newcomer], .empty⟩
    let c : DirectoryCall := .setOtpSecret 1 "S"
    c.Agree keptUser (c.session.answered (ofUsers d.users)) (d.reply (.ofSeconds 0) c).1 :=
  directories_agree (d := ⟨[User.ofNew 1 newcomer], .empty⟩) (c := .setOtpSecret 1 "S")
    (reflects_ofUsers _ _) rfl (.ofSeconds 0) True.intro ⟨_, List.mem_singleton.2 rfl, rfl⟩

/-- The directories differ in two ways.  A new user has its instants to the nanosecond in memory
and to the microsecond in the database; and the database alone says that nobody has a number. -/
theorem directories_disagree :
    let c : DirectoryCall := .create newcomer []
    let c' : DirectoryCall := .setOtpSecret 1 "S"
    (∀ c, Reflects (ofUsers []) Directory.empty.users c) ∧ Directory.empty.outbox.refusing = false ∧
      ¬ c.Agree id (c.session.answered (ofUsers [])) (empty.reply (.ofSeconds 0) c).1 ∧
      ¬ c'.Agree id (c'.session.answered (ofUsers [])) (empty.reply (.ofSeconds 0) c').1 := by
  refine ⟨reflects_ofUsers [], rfl, fun h => ?_, fun h => h⟩
  have hinstants : kept newcomer.createdAt = newcomer.createdAt :=
    congrArg User.createdAt h
  exact absurd hinstants (by decide)

end Directory

end Accounts
