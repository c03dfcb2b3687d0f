import Accounts.Proofs.Directory.Outward
import Accounts.Proofs.Outbox.Crew
import Accounts.Proofs.Service.History
import Mathlib.Data.List.Forall2
/-!
# Secrets stay inside

Two runs of the same calls may differ in passwords, salts, tokens, secrets of the second factor
and all codes for it.  Calls that announce something are made with the same arguments in both,
but for the password of a registration; all other calls may be different ones.  Then the two
directories look alike after every move, so the two outboxes are the same.

Calls that announce something go on in step (`Dialogue.Alike`): they ask the same, and what they
do next depends on nothing but what is seen of the replies.  The other calls need not, and each
of them alone leaves a directory that looks like the one before (`World.turn_quietly`).
-/

namespace Accounts

open Operation (Trace)

/-! ## Dialogues in step -/

/-- Two dialogues ask alike, whatever they are replied, as long as the replies are seen alike,
and their results are seen alike in the end. -/
inductive Dialogue.Alike {α α' : Type} (seen : α → Option Json) (seen' : α' → Option Json) :
    Dialogue serviceSurroundings (Except AccountError α) →
      Dialogue serviceSurroundings (Except AccountError α') → Prop
  | done {x : Except AccountError α} {x' : Except AccountError α'}
      (results : x.toOption.map seen = x'.toOption.map seen') :
      Alike seen seen' (.done x) (.done x')
  | ask {c c' : DirectoryCall}
      {next : Except AccountError c.Result →
        Dialogue serviceSurroundings (Except AccountError α)}
      {next' : Except AccountError c'.Result →
        Dialogue serviceSurroundings (Except AccountError α')}
      (calls : c.Alike c') (rest : ∀ r r', r.map c.seen = r'.map c'.seen →
        Alike seen seen' (next r) (next' r')) :
      Alike seen seen' (.ask (.users c) next) (.ask (.users c') next')

namespace Operation

variable {α α' : Type} {seen : α → Option Json} {seen' : α' → Option Json} {c c' : DirectoryCall}
  {e e' : AccountError}

/-- Two operations go on in step. -/
abbrev Alike (seen : α → Option Json) (seen' : α' → Option Json) (op : Operation α)
    (op' : Operation α') : Prop := Dialogue.Alike seen seen' op.run op'.run

theorem alike_throw : Alike seen seen' (throw e) (throw e') := .done rfl

theorem alike_users_bind {f : c.Result → Operation α} {f' : c'.Result → Operation α'}
    (calls : c.Alike c') (rest : ∀ v v', c.seen v = c'.seen v' → Alike seen seen' (f v) (f' v')) :
    Alike seen seen' (users c >>= f) (users c' >>= f') := by
  have hrun : (users c >>= f).run = _ := run_question_bind
  have hrun' : (users c' >>= f').run = _ := run_question_bind
  rw [Alike, hrun, hrun']
  refine .ask calls ?_
  intro r r' h
  cases r with
  | error e =>
      cases r' with
      | error e' => exact .done rfl
      | ok v' => cases h
  | ok v =>
      cases r' with
      | error e' => cases h
      | ok v' => exact rest v v' (Except.ok.inj h)

theorem alike_users {seen : c.Result → Option Json} {seen' : c'.Result → Option Json}
    (calls : c.Alike c') (results : ∀ v v', c.seen v = c'.seen v' → seen v = seen' v') :
    Alike seen seen' (users c) (users c') := by
  rw [← bind_pure (users c), ← bind_pure (users c')]
  refine alike_users_bind calls ?_
  intro v v' h
  exact .done (congrArg some (results v v' h))

end Operation

/-! ## Calls -/

namespace Call

/-- The call announces what it does. -/
def announces : Call → Bool
  | register _ _ | activate _ _ | requestPasswordReset _ _ _ => true
  | _ => false

/-- The text of the account that a registration returns. -/
def shown : (call : Call) → call.Result → Option Json
  | register _ _, u => some (User.json u)
  | _, _ => none

/-- Two calls that announce something differ at most in the password and in its salt, and both
are refused or neither is. -/
inductive Alike : Call → Call → Prop
  | register {r r' : RegisterRequest} {a a' : Operation.NewAccount}
      (firstName : r.firstName = r'.firstName) (lastName : r.lastName = r'.lastName)
      (email : r.email = r'.email) (accepted : r.faults.isEmpty = r'.faults.isEmpty)
      (publicId : a.publicId = a'.publicId) (activationCode : a.activationCode = a'.activationCode)
      (now : a.now = a'.now) : Alike (register r a) (register r' a')
  | activate (code : String) (now : Instant) : Alike (activate code now) (activate code now)
  | requestPasswordReset (r : PasswordResetRequest) (code : String) (now : Instant) :
      Alike (requestPasswordReset r code now) (requestPasswordReset r code now)
  /-- Nothing is announced. -/
  | quiet {call call' : Call} (h : call.announces = false) (h' : call'.announces = false) :
      Alike call call'

end Call

section Calls

open Operation

theorem registrationEvents_withoutPassword (n : NewUser) :
    registrationEvents n.withoutPassword = registrationEvents n := rfl

variable {r r' : RegisterRequest} {a a' : NewAccount}

theorem Operation.alike_register {seen seen' : User → Option Json}
    (hsame : (newUser r a).withoutPassword = (newUser r' a').withoutPassword)
    (haccepted : r.faults.isEmpty = r'.faults.isEmpty)
    (hseen : ∀ u u', User.json u = User.json u' → seen u = seen' u') :
    Operation.Alike seen seen' (register r a) (register r' a') := by
  have hevents : registrationEvents (newUser r a) = registrationEvents (newUser r' a') := by
    rw [← registrationEvents_withoutPassword, hsame, registrationEvents_withoutPassword]
  have hregister : ∀ r a, register r a =
      (ensure r.faults.isEmpty (.validation (.fields r.faults)) >>= fun _ =>
        users (.create (newUser r a)
          ((registrationEvents (newUser r a)).map AccountEvent.envelope))) := fun _ _ => rfl
  rw [hregister, hregister, haccepted, hevents]
  generalize newUser r a = n, newUser r' a' = n' at hsame
  cases r'.faults.isEmpty with
  | false => exact alike_throw
  | true =>
      have hcalls : ∀ events, DirectoryCall.Alike (.create n events) (.create n' events) :=
        fun events => .create events hsame
      refine alike_users (hcalls _) ?_
      intro u u' h
      exact hseen u u' (DirectoryCall.Seen.made.inj h)

theorem Operation.alike_activate {seen seen' : Unit → Option Json} (code : String) (now : Instant)
    (hseen : seen () = seen' ()) :
    Operation.Alike seen seen' (activate code now) (activate code now) := by
  refine alike_users_bind (.findByActivationCode code) ?_
  intro o o' h
  have hfound : Option.map User.outward o = Option.map User.outward o' :=
    DirectoryCall.Seen.found.inj h
  cases o with
  | none =>
      cases o' with
      | none => exact alike_throw
      | some u' => cases hfound
  | some u =>
      cases o' with
      | none => cases hfound
      | some u' =>
          have hevent : UserChanged.ofUser (activated u now) = .ofUser (activated u' now) :=
            congrArg (fun o : Outward => UserChanged.mk o.identity.publicId o.identity.email
              o.identity.firstName o.identity.lastName .activated o.identity.createdAt now)
              (Option.some.inj hfound)
          show Operation.Alike seen seen' (users _ >>= _) (users _ >>= _)
          rw [hevent]
          refine alike_users_bind (.activate code now _) ?_
          intro fits fits' hfits
          obtain rfl : fits = fits' := DirectoryCall.Seen.told.inj hfits
          cases fits with
          | false => exact alike_throw
          | true => exact .done (congrArg some hseen)

theorem Operation.alike_requestPasswordReset {seen seen' : Unit → Option Json}
    (r : PasswordResetRequest) (code : String) (now : Instant) (hseen : seen () = seen' ()) :
    Operation.Alike seen seen' (requestPasswordReset r code now)
      (requestPasswordReset r code now) := by
  unfold requestPasswordReset validate
  cases r.faults.isEmpty with
  | false => exact alike_throw
  | true =>
      refine alike_users_bind (.findByEmail (Text.trim r.email)) ?_
      intro o o' h
      have hfound : Option.map User.outward o = Option.map User.outward o' :=
        DirectoryCall.Seen.found.inj h
      cases o with
      | none =>
          cases o' with
          | none => exact .done (congrArg some hseen)
          | some u' => cases hfound
      | some u =>
          cases o' with
          | none => cases hfound
          | some u' =>
              have hidentity := congrArg Outward.identity (Option.some.inj hfound)
              obtain ⟨hid, hpublic, hemail⟩ : u.id = u'.id ∧ u.publicId = u'.publicId ∧
                  u.email = u'.email := ⟨congrArg Identity.id hidentity,
                congrArg Identity.publicId hidentity, congrArg Identity.email hidentity⟩
              show Operation.Alike seen seen'
                (users (.setResetCode u.id code now
                  [(AccountEvent.resetPassword ⟨u.publicId, u.email, code⟩).envelope]))
                (users (.setResetCode u'.id code now
                  [(AccountEvent.resetPassword ⟨u'.publicId, u'.email, code⟩).envelope]))
              rw [hid, hpublic, hemail]
              exact alike_users (.setResetCode u'.id code now _) fun _ _ _ => hseen

/-- Calls that are made alike go on in step, if they announce something. -/
theorem Call.Alike.operation {call call' : Call} (h : call.Alike call')
    (hcall : call.announces = true) (s s' : Service) :
    Operation.Alike call.shown call'.shown (s.operation call) (s'.operation call') := by
  cases h with
  | register firstName lastName email accepted publicId activationCode now =>
      refine alike_register ?_ accepted fun u u' => congrArg some
      simp [newUser, NewUser.withoutPassword, firstName, lastName, email, publicId,
        activationCode, now]
  | activate code now => exact alike_activate code now rfl
  | requestPasswordReset r code now => exact alike_requestPasswordReset r code now rfl
  | quiet h => cases h.symm.trans hcall

theorem Call.Alike.announces_eq {call call' : Call} (h : call.Alike call') :
    call.announces = call'.announces := by
  cases h with
  | register | activate | requestPasswordReset => rfl
  | quiet h h' => rw [h, h']

/-- A call that announces nothing makes no request with announcements. -/
theorem Call.Makes.announces {call : Call} {t : Trace} {c : DirectoryCall} (h : call.Makes t c)
    (hc : c.announced = true) : call.announces = true := by
  cases c with
  | create =>
      obtain ⟨r, a, rfl, -⟩ := h
      rfl
  | activate =>
      obtain ⟨u, rfl, -⟩ := h
      rfl
  | setResetCode =>
      obtain ⟨r, u, rfl, -⟩ := h
      rfl
  | _ => cases hc

end Calls

/-! ## Worlds -/

section Lists

variable {α β : Type} {R : α → β → Prop} {as : List α} {bs : List β}

theorem forall₂_set (h : List.Forall₂ R as bs) {a : α} {b : β} (hab : R a b) (i : Nat) :
    List.Forall₂ R (as.set i a) (bs.set i b) := by
  induction h generalizing i with
  | nil => exact .nil
  | cons hfirst hrest ih =>
      cases i with
      | zero => exact .cons hab hrest
      | succ i => exact .cons hfirst (ih i)

theorem forall₂_getElem? (h : List.Forall₂ R as bs) (i : Nat) :
    (as[i]? = none ∧ bs[i]? = none) ∨ ∃ a b, as[i]? = some a ∧ bs[i]? = some b ∧ R a b := by
  induction h generalizing i with
  | nil => exact .inl ⟨rfl, rfl⟩
  | cons hfirst hrest ih =>
      cases i with
      | zero => exact .inr ⟨_, _, rfl, rfl, hfirst⟩
      | succ i => exact ih i

end Lists

/-- Moments differ at most in what the engine for the second factor and the signer reply. -/
structure Moment.Alike (m m' : Moment) : Prop where
  clock : m.clock = m'.clock
  failure : m.failure = m'.failure

theorem Moment.Alike.reply {m m' : Moment} (h : m.Alike m') {d d' : Directory} (hd : d.Alike d')
    {c c' : DirectoryCall} (hc : c.Alike c') :
    (m.reply d (.users c)).1.map c.seen = (m'.reply d' (.users c')).1.map c'.seen ∧
      (m.reply d (.users c)).2.Alike (m'.reply d' (.users c')).2 := by
  cases hf : m.failure with
  | some e =>
      rw [Moment.reply_of_some hf, Moment.reply_of_some (h.failure ▸ hf)]
      exact ⟨rfl, hd⟩
  | none =>
      rw [Moment.reply_of_none hf, Moment.reply_of_none (h.failure ▸ hf), ← h.clock]
      exact hd.reply hc m.clock

/-- Two calls that were made either announce nothing or go on in step. -/
inductive Running.Alike : Running → Running → Prop
  | quiet {r r' : Running} (h : r.call.announces = false) (h' : r'.call.announces = false) :
      Alike r r'
  | inStep {call call' : Call} {p : Dialogue serviceSurroundings (Except AccountError call.Result)}
      {p' : Dialogue serviceSurroundings (Except AccountError call'.Result)}
      (rest : p.Alike call.shown call'.shown p') : Alike ⟨call, p⟩ ⟨call', p'⟩

/-- The text of the account that a registration has returned. -/
def Running.shown : Running → Option Json
  | ⟨call, .done (.ok v)⟩ => call.shown v
  | _ => none

theorem Running.shown_of_quiet {r : Running} (h : r.call.announces = false) : r.shown = none := by
  obtain ⟨call, rest⟩ := r
  cases rest with
  | ask q next => rfl
  | done x =>
      cases x with
      | error e => rfl
      | ok v =>
          cases call with
          | register => cases h
          | _ => rfl

theorem Running.Alike.shown {r r' : Running} (h : r.Alike r') : r.shown = r'.shown := by
  cases h with
  | quiet h h' => rw [Running.shown_of_quiet h, Running.shown_of_quiet h']
  | inStep rest =>
      cases rest with
      | ask => rfl
      | @done x x' results =>
          cases x with
          | error e =>
              cases x' with
              | error e' => rfl
              | ok v' => cases results
          | ok v =>
              cases x' with
              | error e' => cases results
              | ok v' => exact Option.some.inj results

theorem Running.map_shown {rs rs' : List Running} (h : List.Forall₂ Running.Alike rs rs') :
    rs.map Running.shown = rs'.map Running.shown := by
  induction h with
  | nil => rfl
  | cons hfirst hrest ih => rw [List.map_cons, List.map_cons, hfirst.shown, ih]

/-- What relays at work on an outbox hand to a bus. -/
def Outbox.Store.published (store : Outbox.Store) (now : Instant) (moves : List Outbox.Move) :
    List Outbox.Message :=
  (((Outbox.Crew.start now).withStore store).run moves).bus.messages

namespace World

variable {s s' : Service} {w w' : World} {place : Nat}

/-- Two moves differ at most in what stays inside. -/
inductive Move.Alike : Move → Move → Prop
  | start {call call' : Call} (h : call.Alike call') : Alike (.start call) (.start call')
  | turn (place : Nat) {m m' : Moment} (h : m.Alike m') : Alike (.turn place m) (.turn place m')
  | refuse (refusing : Bool) : Alike (.refuse refusing) (.refuse refusing)

/-- The directories look alike, and so do the calls that were made. -/
structure Alike (w w' : World) : Prop where
  directory : w.directory.Alike w'.directory
  running : List.Forall₂ Running.Alike w.running w'.running

/-- A call that announces nothing goes on, and the directory looks as before. -/
theorem turn_quietly (hw : w.Coherent s) {r : Running} (here : w.running[place]? = some r)
    (hr : r.call.announces = false) (m : Moment) :
    (w.turn place m).directory.Alike w.directory ∧
      ∃ rest, (w.turn place m).running = w.running.set place ⟨r.call, rest⟩ := by
  obtain ⟨call, rest⟩ := r
  cases rest with
  | done x =>
      have hturn : w.turn place m = w := by rw [turn, here]
      obtain ⟨hlt, hget⟩ := List.getElem?_eq_some_iff.1 here
      rw [hturn]
      refine ⟨⟨rfl, rfl⟩, .done x, ?_⟩
      rw [← hget, List.set_getElem_self hlt]
  | ask q next =>
      let e : Entry := ⟨place, m, w.directory, q⟩
      have hturn : w.turn place m = w.replied e ⟨call, next e.reply⟩ := by rw [turn, here]
      rw [hturn]
      refine ⟨?_, next e.reply, rfl⟩
      show e.after.Alike e.before
      rcases e.effect with hsame | ⟨c, hq, heffect⟩
      · rw [hsame]
        exact ⟨rfl, rfl⟩
      · obtain rfl : q = .users c := hq
        have hmakes : call.Makes (w.trace place) c := Service.makes ⟨next, hw.after here⟩
        have hquiet : c.announced = false := by
          refine eq_false_of_ne_true fun hc => ?_
          cases hr.symm.trans (hmakes.announces hc)
        exact (heffect.alike hquiet).symm

namespace Alike

theorem empty : empty.Alike empty := ⟨⟨rfl, rfl⟩, .nil⟩

theorem turn (h : w.Alike w') (hw : w.Coherent s) (hw' : w'.Coherent s') {m m' : Moment}
    (hm : m.Alike m') (place : Nat) : (w.turn place m).Alike (w'.turn place m') := by
  rcases forall₂_getElem? h.running place with ⟨here, here'⟩ | ⟨r, r', here, here', hr⟩
  · rw [World.turn, World.turn, here, here']
    exact h
  · cases hr with
    | quiet hquiet hquiet' =>
        obtain ⟨hlooks, rest, hrunning⟩ := turn_quietly hw here hquiet m
        obtain ⟨hlooks', rest', hrunning'⟩ := turn_quietly hw' here' hquiet' m'
        refine ⟨hlooks.trans (h.directory.trans hlooks'.symm), ?_⟩
        have hrest : Running.Alike ⟨r.call, rest⟩ ⟨r'.call, rest'⟩ := .quiet hquiet hquiet'
        rw [hrunning, hrunning']
        exact forall₂_set h.running hrest place
    | inStep hrest =>
        cases hrest with
        | done results =>
            rw [World.turn, World.turn, here, here']
            exact h
        | ask calls hrest =>
            obtain ⟨hreply, hafter⟩ := hm.reply h.directory calls
            rw [World.turn, World.turn, here, here']
            exact ⟨hafter, forall₂_set h.running (.inStep (hrest _ _ hreply)) place⟩

/-- What stays inside has no influence on a move. -/
theorem step (h : w.Alike w') (hw : w.Coherent s) (hw' : w'.Coherent s') {m m' : Move}
    (hm : m.Alike m') : (w.step s m).Alike (w'.step s' m') := by
  cases hm with
  | @start call call' hcall =>
      refine ⟨h.directory, List.rel_append h.running (.cons ?_ .nil)⟩
      cases hannounces : call.announces with
      | true => exact .inStep (hcall.operation hannounces s s')
      | false => exact .quiet hannounces (hcall.announces_eq ▸ hannounces)
  | turn place hm => exact h.turn hw hw' hm place
  | refuse refusing =>
      have houtbox := congrArg (fun o : Outbox.Store => { o with refusing }) h.directory.outbox
      exact ⟨⟨h.directory.users, houtbox⟩, h.running⟩

theorem run {moves moves' : List Move} (h : w.Alike w') (hw : w.Coherent s)
    (hw' : w'.Coherent s') (hmoves : List.Forall₂ Move.Alike moves moves') :
    (w.run s moves).Alike (w'.run s' moves') := by
  induction hmoves generalizing w w' with
  | nil => exact h
  | cons hm hrest ih => exact ih (h.step hw hw' hm) (hw.step _).1 (hw'.step _).1

end Alike

/-- **Secrets stay inside.**  After every move of two runs that differ in passwords, salts,
tokens, secrets of the second factor and codes for it, the rows of the two outboxes are the
same, relays hand the same messages to the bus, and registrations have returned accounts of the
same text. -/
theorem secrets_stay_inside (s s' : Service) {moves moves' : List Move}
    (h : List.Forall₂ Move.Alike moves moves') (k : Nat) :
    let w := empty.run s (moves.take k)
    let w' := empty.run s' (moves'.take k)
    w.directory.outbox.rows = w'.directory.outbox.rows ∧
    (∀ now relays, w.directory.outbox.published now relays =
      w'.directory.outbox.published now relays) ∧
    w.running.map Running.shown = w'.running.map Running.shown := by
  intro w w'
  have halike : w.Alike w' :=
    Alike.empty.run .empty .empty (List.forall₂_take k h)
  refine ⟨?_, ?_, Running.map_shown halike.running⟩
  · rw [halike.directory.outbox]
  · intro now relays
    rw [halike.directory.outbox]

namespace Sample

/-- The second factor has another secret and other codes, and tokens are signed otherwise. -/
def otherMoment : Moment where
  clock := moment.clock
  failure := moment.failure
  otp
    | .generate _ => .ok (⟨"other secret", "uri"⟩ : Otp.OtpSetup)
    | .validate _ code => .ok (code == "111111")
    | .recoveryCodes _ => .ok ["222222", "333333"]
  sign _ := .ok "other token"

/-- The same account with another password and another second factor. -/
def otherEnrolment : List Move := [
  .start (.register ⟨"A", "B", "a@b.co", "other password"⟩ ⟨"user", "code", [1], .ofSeconds 0⟩),
  .turn 0 otherMoment,
  .start (.activate "code" (.ofSeconds 1)), .turn 1 otherMoment, .turn 1 otherMoment,
  .start (.enableStep1 (claims .user)), .turn 2 otherMoment, .turn 2 otherMoment,
  .turn 2 otherMoment,
  .start (.enableStep2 (claims .user) ⟨"111111"⟩), .turn 3 otherMoment, .turn 3 otherMoment,
  .turn 3 otherMoment, .turn 3 otherMoment]

theorem alike_enrolment : List.Forall₂ Move.Alike enrolment otherEnrolment := by
  have hturn : ∀ place, Move.Alike (.turn place moment) (.turn place otherMoment) :=
    fun place => .turn place ⟨rfl, rfl⟩
  exact .cons (.start (.register rfl rfl rfl (by decide) rfl rfl rfl)) <| .cons (hturn 0) <|
    .cons (.start (.activate "code" (.ofSeconds 1))) <| .cons (hturn 1) <| .cons (hturn 1) <|
    .cons (.start (.quiet rfl rfl)) <| .cons (hturn 2) <| .cons (hturn 2) <| .cons (hturn 2) <|
    .cons (.start (.quiet rfl rfl)) <| .cons (hturn 3) <| .cons (hturn 3) <| .cons (hturn 3) <|
    .cons (hturn 3) .nil

end Sample

open Sample in
/-- An account with other secrets is announced by the same three rows. -/
theorem secrets_stay_inside_enrolment :
    let w := empty.run (service (.ofSeconds 900)) (Sample.enrolment.take 14)
    let w' := empty.run (service (.ofSeconds 900)) (Sample.otherEnrolment.take 14)
    List.Forall₂ Move.Alike Sample.enrolment Sample.otherEnrolment ∧
    w.directory.users.map User.otpSecret = [some "secret"] ∧
    w'.directory.users.map User.otpSecret = [some "other secret"] ∧
    w.directory.outbox.rows.length = 3 ∧
    w.directory.outbox.rows = w'.directory.outbox.rows := by
  intro w w'
  obtain ⟨hrows, -, -⟩ := secrets_stay_inside (service (.ofSeconds 900)) (service (.ofSeconds 900))
    alike_enrolment 14
  exact ⟨alike_enrolment, rfl, rfl, rfl, hrows⟩

end World

end Accounts
