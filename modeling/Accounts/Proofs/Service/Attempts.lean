import Accounts.Proofs.Service.Decision
import Accounts.Proofs.Service.History
/-!
# Second steps that are rejected

A second step that is rejected has changed nothing: all that it was replied is idle, but where a
recovery code is used up and the token is then not signed.  So the calls that are rejected can be
taken out of a run, with all their questions, and at every moment the directory is the one that
it was with them (`World.Mirrors.run`).  The calls that stay move up, and go on as before.
-/

namespace Accounts

/-- The signer replies what its moment says. -/
theorem Entry.sign_of_exchange {e : Entry} {k : Claims} {r : Except AccountError String}
    (h : e.exchange = .sign k r) : e.moment.sign k = r := by
  obtain ⟨place, m, d, q⟩ := e
  obtain rfl : q = .sign k := congrArg Exchange.query h
  exact eq_of_heq (Exchange.mk.inj h).2

namespace World

open Operation (Trace)

variable {s : Service} {gone : Nat → Bool} {w v : World} {place n : Nat}

/-! ## Taking calls out of a run -/

/-- The world before any call is made. -/
def ofDirectory (d : Directory) : World := ⟨d, [], []⟩

/-- How many calls below a place stay. -/
def kept (gone : Nat → Bool) (place : Nat) : Nat := (List.range place).countP fun i => !gone i

/-- A run without some of its calls; so many calls were made before it. -/
def without (gone : Nat → Bool) : Nat → List Move → List Move
  | _, [] => []
  | made, .start call :: moves =>
    if gone made then without gone (made + 1) moves
    else .start call :: without gone (made + 1) moves
  | made, .turn place m :: moves =>
    if gone place then without gone made moves
    else .turn (kept gone place) m :: without gone made moves
  | made, .refuse refusing :: moves => .refuse refusing :: without gone made moves

theorem kept_succ (gone : Nat → Bool) (n : Nat) :
    kept gone (n + 1) = kept gone n + if gone n then 0 else 1 := by
  rw [kept, List.range_succ, List.countP_append, List.countP_singleton, kept]
  cases gone n <;> rfl

theorem kept_mono (gone : Nat → Bool) {i j : Nat} (h : i ≤ j) : kept gone i ≤ kept gone j :=
  (List.range_sublist.2 h).countP_le

theorem kept_lt {i j : Nat} (hi : gone i = false) (h : i < j) : kept gone i < kept gone j := by
  have hsucc := kept_succ gone i
  have hle := kept_mono gone (show i + 1 ≤ j from h)
  rw [hi, if_neg Bool.false_ne_true] at hsucc
  omega

/-- Calls that stay have places of their own. -/
theorem kept_ne {i j : Nat} (hi : gone i = false) (hj : gone j = false) (h : i ≠ j) :
    kept gone i ≠ kept gone j := by
  rcases Nat.lt_or_gt_of_ne h with hlt | hgt
  · exact Nat.ne_of_lt (kept_lt hi hlt)
  · exact Nat.ne_of_gt (kept_lt hj hgt)

/-! ## Side by side -/

/-- A world is another one without some of its calls. -/
structure Mirrors (gone : Nat → Bool) (w v : World) : Prop where
  /-- The directory is the same. -/
  directory : v.directory = w.directory
  /-- The calls that stay are there. -/
  length : v.running.length = kept gone w.running.length
  /-- They are where they were in the other world. -/
  running : ∀ i < w.running.length, gone i = false → v.running[kept gone i]? = w.running[i]?

namespace Mirrors

theorem refuse (h : Mirrors gone w v) (refusing : Bool) :
    Mirrors gone (w.refuse refusing) (v.refuse refusing) := by
  refine ⟨?_, h.length, h.running⟩
  rw [World.refuse, World.refuse, h.directory]

/-- A call that is taken out is made. -/
theorem start_gone (h : Mirrors gone w v) (call : Call) (hgone : gone w.running.length = true) :
    Mirrors gone (w.step s (.start call)) v := by
  refine ⟨h.directory, ?_, fun i hi hstays => ?_⟩
  · simp [step, kept_succ, hgone, h.length]
  · have hne : i ≠ w.running.length := fun heq => by simp [heq, hgone] at hstays
    have hlt : i < w.running.length := by
      simp only [step, List.length_append, List.length_singleton] at hi
      omega
    rw [step, List.getElem?_append_left hlt]
    exact h.running i hlt hstays

/-- A call that stays is made. -/
theorem start_kept (h : Mirrors gone w v) (call : Call) (hkept : gone w.running.length = false) :
    Mirrors gone (w.step s (.start call)) (v.step s (.start call)) := by
  refine ⟨h.directory, ?_, fun i hi hstays => ?_⟩
  · simp [step, kept_succ, hkept, h.length]
  · simp only [step, List.length_append, List.length_singleton] at hi ⊢
    rcases Nat.lt_or_eq_of_le (Nat.le_of_lt_succ hi) with hlt | rfl
    · have hlt' : kept gone i < v.running.length := h.length ▸ kept_lt hstays hlt
      rw [List.getElem?_append_left hlt, List.getElem?_append_left hlt']
      exact h.running i hlt hstays
    · rw [← h.length, List.getElem?_concat_length, List.getElem?_concat_length]

/-- A call that is taken out asks a question that has no effect. -/
theorem turn_gone (h : Mirrors gone w v) (m : Moment) (hgone : gone place = true)
    (hidle : ∀ e ∈ (w.turn place m).log, gone e.call = true → e.after = e.before) :
    Mirrors gone (w.turn place m) v := by
  unfold turn at hidle ⊢
  split
  · next call q next here =>
      rw [here] at hidle
      have hafter : Entry.after ⟨place, m, w.directory, q⟩ = w.directory :=
        hidle ⟨place, m, w.directory, q⟩ (List.mem_append_right _ (List.mem_singleton.2 rfl)) hgone
      refine ⟨h.directory.trans hafter.symm, ?_, fun i hi hstays => ?_⟩
      · rw [World.replied, List.length_set]
        exact h.length
      · have hne : place ≠ i := fun heq => by simp [← heq, hgone] at hstays
        rw [World.replied, List.length_set] at hi
        rw [World.replied, List.getElem?_set_ne hne]
        exact h.running i hi hstays
  · exact h

/-- A call that stays asks the same question in both worlds. -/
theorem turn_kept (h : Mirrors gone w v) (m : Moment) (hkept : gone place = false) :
    Mirrors gone (w.turn place m) (v.turn (kept gone place) m) := by
  have hsame : v.running[kept gone place]? = w.running[place]? := by
    rcases Nat.lt_or_ge place w.running.length with hlt | hge
    · exact h.running place hlt hkept
    · rw [List.getElem?_eq_none hge, List.getElem?_eq_none (h.length ▸ kept_mono gone hge)]
  unfold turn
  rw [hsame]
  split
  · next call q next here =>
      have hplace : place < w.running.length := (List.getElem?_eq_some_iff.1 here).1
      simp only [World.replied, Entry.after, Entry.reply, h.directory]
      refine ⟨rfl, ?_, fun i hi hstays => ?_⟩
      · simp only [List.length_set]
        exact h.length
      · simp only [List.length_set] at hi
        by_cases heq : place = i
        · subst heq
          have hlt : kept gone place < v.running.length := h.length ▸ kept_lt hkept hplace
          rw [List.getElem?_set_self hplace, List.getElem?_set_self hlt]
        · rw [List.getElem?_set_ne heq, List.getElem?_set_ne (kept_ne hkept hstays heq)]
          exact h.running i hi hstays
  · exact h

end Mirrors

theorem length_turn (w : World) (place : Nat) (m : Moment) :
    (w.turn place m).running.length = w.running.length := by
  unfold turn
  split
  · rw [World.replied, List.length_set]
  · rfl

/-- Nothing is taken out of the log. -/
theorem log_step (s : Service) (w : World) (m : Move) : w.log <+: (w.step s m).log := by
  cases m with
  | start call => exact List.prefix_rfl
  | refuse refusing => exact List.prefix_rfl
  | turn place m =>
      rw [step, turn]
      split
      · exact List.prefix_append _ _
      · exact List.prefix_rfl

theorem log_run (s : Service) (w : World) (moves : List Move) : w.log <+: (w.run s moves).log := by
  induction moves generalizing w with
  | nil => exact List.prefix_rfl
  | cons m moves ih => exact (log_step s w m).trans (ih (w.step s m))

/-- What is asked in a run is asked in one of its moves. -/
theorem mem_log_run {e : Entry} {moves : List Move} (he : e ∈ (w.run s moves).log) :
    e ∈ w.log ∨ .turn e.call e.moment ∈ moves := by
  induction moves generalizing w with
  | nil => exact .inl he
  | cons m moves ih =>
      rcases ih he with hstep | hmem
      swap
      · exact .inr (List.mem_cons_of_mem m hmem)
      cases m with
      | start call => exact .inl hstep
      | refuse refusing => exact .inl hstep
      | turn place m =>
          rw [step, turn] at hstep
          split at hstep
          · rcases List.mem_append.1 hstep with hold | hnew
            · exact .inl hold
            · rw [List.mem_singleton.1 hnew]
              exact .inr List.mem_cons_self
          · exact .inl hstep

/-- A run goes on the same way without calls whose questions have no effect. -/
theorem Mirrors.run (h : Mirrors gone w v) (moves : List Move)
    (hidle : ∀ e ∈ (w.run s moves).log, gone e.call = true → e.after = e.before) :
    Mirrors gone (w.run s moves) (v.run s (without gone w.running.length moves)) := by
  induction moves generalizing w v with
  | nil => exact h
  | cons m moves ih =>
      have hnow : ∀ e ∈ (w.step s m).log, gone e.call = true → e.after = e.before :=
        fun e he => hidle e ((log_run s (w.step s m) moves).subset he)
      cases m with
      | refuse refusing => exact ih (h.refuse refusing) hidle
      | start call =>
          have hlength : (w.step s (.start call)).running.length = w.running.length + 1 := by
            simp [step]
          rw [without, ← hlength]
          split
          · next hgone => exact ih (h.start_gone call hgone) hidle
          · next hkept => exact ih (h.start_kept call (eq_false_of_ne_true hkept)) hidle
      | turn place m =>
          rw [without, ← length_turn w place m]
          split
          · next hgone => exact ih (h.turn_gone m hgone hnow) hidle
          · next hkept => exact ih (h.turn_kept m (eq_false_of_ne_true hkept)) hidle

/-! ## Rejected calls -/

/-- The call at a place is a second step that was rejected. -/
def Rejected (w : World) (place : Nat) : Prop :=
  ∃ claims r now e, w.Returned place (.authenticateTwoFa claims r now) (.error e)

/-- Where tokens are signed, a second step that was rejected changed nothing. -/
theorem Coherent.idle_of_rejected (hw : w.Coherent s) (h : w.Rejected place)
    (hsigns : ∀ e ∈ w.log, e.call = place → ∀ k, ∃ token, e.moment.sign k = .ok token) :
    ∀ e ∈ w.log, e.call = place → e.after = e.before := by
  obtain ⟨claims, r, now, x, hreturned⟩ := h
  have hends : (Operation.authenticateTwoFa s.policy claims r now).Ends (w.trace place)
    (.error x) := hw.after hreturned
  intro e he hplace
  refine Entry.after_of_idle ?_
  rcases Operation.ends_authenticateTwoFa_error hends with hidle | ⟨u, ht⟩
  · exact hidle _ (mem_trace.2 ⟨e, he, hplace, rfl⟩)
  · -- The trace ends with a token that was not signed.
    have hsign : Exchange.sign (Operation.claimsFor u .user now s.policy.sessionTtl) (.error x) ∈
        w.trace place := by
      rw [ht]
      simp
    obtain ⟨y, hy, hyplace, hexchange⟩ := mem_trace.1 hsign
    obtain ⟨token, htoken⟩ := hsigns y hy hyplace _
    cases htoken.symm.trans (Entry.sign_of_exchange hexchange)

theorem coherent_ofDirectory {d : Directory} (hd : d.Numbered) (hrows : d.outbox.Numbered) :
    (ofDirectory d).Coherent s where
  after := by simp [ofDirectory]
  made := by simp [ofDirectory]
  numbered := hd
  numberedRows := hrows
  recorded := by simp [ofDirectory]

/-- Rejected calls are taken out of a run from the start. -/
theorem mirrors_run (hw : w.Coherent s) (hlog : w.log = []) (hrunning : w.running = [])
    {moves : List Move} (hrejected : ∀ place < (w.run s moves).running.length,
      gone place = true → (w.run s moves).Rejected place)
    (hsigns : ∀ place m, .turn place m ∈ moves → gone place = true →
      ∀ k, ∃ token, m.sign k = .ok token) {earlier : List Move} (hearlier : earlier <+: moves) :
    Mirrors gone (w.run s earlier) (w.run s (without gone 0 earlier)) := by
  have hfinal := hw.run (s := s) moves
  have hasked : ∀ e ∈ (w.run s moves).log, .turn e.call e.moment ∈ moves := by
    intro e he
    simpa [hlog] using mem_log_run he
  have hidle : ∀ e ∈ (w.run s moves).log, gone e.call = true → e.after = e.before := by
    intro e he hgone
    refine hfinal.idle_of_rejected (hrejected e.call (hfinal.made e he) hgone) ?_ e he rfl
    intro y hy hplace
    exact hsigns y.call y.moment (hasked y hy) (hplace ▸ hgone)
  obtain ⟨later, rfl⟩ := hearlier
  have hrun : w.run s (earlier ++ later) = (w.run s earlier).run s later := List.foldl_append
  have hself : Mirrors gone w w :=
    ⟨rfl, by rw [hrunning]; rfl, fun i hi => by rw [hrunning] at hi; cases hi⟩
  have hmirrors := hself.run earlier fun e he =>
    hidle e (hrun ▸ (log_run s (w.run s earlier) later).subset he)
  rwa [hrunning] at hmirrors

/-- **The second step of a login is decided by five checks in a fixed order**, and it changes the
directory only where it uses a recovery code up.  Where nobody is asked for a second factor it
has no result and changes nothing.  Second steps that are rejected can be taken out of a run,
wherever and however many they are: at every moment the directory is the one that it was with
them, and the other calls are where they were. -/
theorem second_step_decided :
    (∀ (x : Circumstance) (d : Directory) (p : LoginPolicy) (claims : Claims) (code : String)
      (now : Instant),
      (p.otpEnabled = false →
        x.outcome d (Operation.authenticateTwoFa p claims ⟨code⟩ now) = (.ok none, d)) ∧
      (p.otpEnabled = true → x.Undisturbed → d.outbox.refusing = false →
        (d.users.map User.id).Nodup → Decision x p.sessionTtl d claims code now
          (x.outcome d (Operation.authenticateTwoFa p claims ⟨code⟩ now)))) ∧
    ∀ (s : Service) (d : Directory) (moves : List Move) (gone : Nat → Bool),
      d.Numbered → d.outbox.Numbered →
      (∀ place < ((ofDirectory d).run s moves).running.length, gone place = true →
        ((ofDirectory d).run s moves).Rejected place) →
      (∀ place m, .turn place m ∈ moves → gone place = true →
        ∀ k, ∃ token, m.sign k = .ok token) →
      ∀ earlier, earlier <+: moves →
        ((ofDirectory d).run s (without gone 0 earlier)).directory =
          ((ofDirectory d).run s earlier).directory ∧
        ∀ place < ((ofDirectory d).run s earlier).running.length, gone place = false →
          ((ofDirectory d).run s (without gone 0 earlier)).running[kept gone place]? =
            ((ofDirectory d).run s earlier).running[place]? := by
  refine ⟨fun x d p claims code now => ⟨Operation.outcome_authenticateTwoFa_disabled, ?_⟩, ?_⟩
  · exact fun hp hx hd hids => Operation.decision_authenticateTwoFa hx hd hids hp
  · intro s d moves gone hd hrows hrejected hsigns earlier hearlier
    have hmirrors := mirrors_run (coherent_ofDirectory hd hrows) rfl rfl hrejected hsigns hearlier
    exact ⟨hmirrors.directory, hmirrors.running⟩

namespace Sample

/-- Everything succeeds, and the directory is as it should be. -/
def calm : Circumstance := ⟨moment, false, false⟩

/-- The users after the enrolment. -/
def enrolled : Directory :=
  ((ofDirectory .empty).run (service (.ofSeconds 900)) enrolment).directory

/-- A wrong code after the enrolment, and then a recovery code. -/
def attempts : List Move := enrolment ++ [
  secondStep "999999", .turn 4 moment, .turn 4 moment, .turn 4 moment,
  secondStep "123456", .turn 5 moment, .turn 5 moment, .turn 5 moment, .turn 5 moment]

/-- All tokens are signed. -/
theorem signs_attempts {place : Nat} {m : Moment} (h : .turn place m ∈ attempts) (k : Claims) :
    ∃ token, m.sign k = .ok token := by
  have hmoments : ∀ move ∈ attempts, ∀ m ∈ move.moment?, m = moment := by
    simp [attempts, enrolment, secondStep, Move.moment?]
  rw [hmoments _ h m rfl]
  exact ⟨"token", rfl⟩

end Sample

open Sample in
/-- A recovery code is used up by the second step, and a wrong code before it makes no
difference. -/
theorem second_step_decided_recovery :
    let o := calm.outcome enrolled (Operation.authenticateTwoFa (service (.ofSeconds 900)).policy
      (claims .twoFaCheck) ⟨"123456"⟩ (.ofSeconds 2))
    (Decision calm (.ofSeconds 900) enrolled (claims .twoFaCheck) "123456" (.ofSeconds 2) o ∧
      o.2.users.map User.otpRecoveryCodes = [["654321"]]) ∧
    ((ofDirectory .empty).run (service (.ofSeconds 900)) (without (· == 4) 0 attempts)).directory =
      ((ofDirectory .empty).run (service (.ofSeconds 900)) attempts).directory := by
  refine ⟨⟨?_, rfl⟩, ?_⟩
  · exact (second_step_decided.1 calm enrolled (service (.ofSeconds 900)).policy
      (claims .twoFaCheck) "123456" (.ofSeconds 2)).2 rfl
      ⟨rfl, rfl, rfl, fun _ => ⟨"token", rfl⟩⟩ rfl (List.nodup_singleton 1)
  · refine (second_step_decided.2 (service (.ofSeconds 900)) .empty attempts (· == 4)
      Directory.numbered_empty Outbox.Store.numbered_empty (fun place _ hgone => ?_)
      (fun place m hm _ => signs_attempts hm) attempts List.prefix_rfl).1
    obtain rfl : place = 4 := by simpa using hgone
    exact ⟨claims .twoFaCheck, ⟨"999999"⟩, .ofSeconds 2, .invalidOtpCode, rfl⟩

end World

end Accounts
