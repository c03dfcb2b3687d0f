import Accounts.Proofs.Service.Alone
import Accounts.Proofs.Service.Confirmation
import Accounts.Proofs.Service.LastPassword
/-!
# Nothing is done without the right scope

A call that is made with claims demands one scope of them, and it looks for the scope before
it asks anything.  So without it there is one reply only, whoever calls, whatever is stored
and whatever goes wrong (`Service.operation_of_lacking`).

The first step of a login that needs a second one hands out the scope of the second step
alone.  What such a token is good for is listed in `World.Mediated`.
-/

namespace Accounts

open Operation (Trace)

variable {s : Service} {call : Call} {claims : Claims} {scope : Scope}

/-- The claims that a call is made with, and the scope that it demands of them.  When nobody
is asked for a second factor, the second step of a login demands nothing. -/
def Call.demands? (p : LoginPolicy) : Call → Option (Claims × Scope)
  | changePassword claims _ _ _ | profile claims | enableStep1 claims | enableStep2 claims _
  | disable claims => some (claims, .user)
  | authenticateTwoFa claims _ _ => if p.otpEnabled then some (claims, .twoFaCheck) else none
  | _ => none

/-! ## Calls without their scope -/

theorem Claims.require_of_lacking (h : scope ∉ claims.scp) :
    claims.require scope = .error (.insufficientScope scope.name) := by
  have hlacks : ¬ claims.hasScope scope = true := by
    intro hhas
    exact h (List.contains_iff_mem.1 hhas)
  rw [require, if_neg hlacks]

theorem Operation.profile_of_lacking (h : Scope.user ∉ claims.scp) :
    profile claims = throw (.insufficientScope Scope.user.name) := by
  rw [profile, Claims.require_of_lacking h]
  rfl

/-- Without its scope a call is refused. -/
theorem Service.operation_of_lacking (h : call.demands? s.policy = some (claims, scope))
    (hlacks : scope ∉ claims.scp) :
    s.operation call = throw (.insufficientScope scope.name) := by
  cases call with
  | profile =>
      cases h
      exact Operation.profile_of_lacking hlacks
  | changePassword =>
      cases h
      rw [Service.operation, Operation.changePassword, Operation.profile_of_lacking hlacks]
      rfl
  | enableStep1 =>
      cases h
      rw [Service.operation, Operation.enableStep1, Operation.profile_of_lacking hlacks]
      rfl
  | enableStep2 =>
      cases h
      rw [Service.operation, Operation.enableStep2, Operation.profile_of_lacking hlacks]
      rfl
  | disable =>
      cases h
      rw [Service.operation, Operation.disable, Operation.profile_of_lacking hlacks]
      rfl
  | authenticateTwoFa claims' r now =>
      simp only [Call.demands?, Option.ite_none_right_eq_some, Option.some.injEq,
        Prod.mk.injEq] at h
      obtain ⟨hotp, rfl, rfl⟩ := h
      rw [Service.operation, Operation.authenticateTwoFa, hotp, Claims.require_of_lacking hlacks]
      rfl
  | _ => cases h

/-! ## The second step -/

namespace Operation

variable {t : Trace} {p : LoginPolicy} {r : TwoFaCodeRequest} {now : Instant}

/-- A second step that succeeds has a token, if anyone is asked for a second factor. -/
theorem isSome_of_authenticateTwoFa {v : Option AuthToken} (hotp : p.otpEnabled = true)
    (h : (authenticateTwoFa p claims r now).Ends t (.ok v)) : v.isSome = true := by
  unfold authenticateTwoFa at h
  rw [hotp] at h
  obtain ⟨_, -, h₁⟩ := ends_ofExcept_bind_ok h
  obtain ⟨-, h₂⟩ := ends_ensure_bind_ok h₁
  obtain ⟨o, t₃, rfl, h₃⟩ := ends_users_bind_ok h₂
  obtain ⟨u, rfl, h₄⟩ := ends_orFail_bind_ok h₃
  obtain ⟨-, h₅⟩ := ends_ensure_bind_ok h₄
  obtain ⟨factor, t₆, rfl, -, h₆⟩ := ends_secondFactor_ok h₅
  rw [issue_bind] at h₆
  obtain ⟨token, t₇, rfl, h₇⟩ := ends_sign_bind_ok h₆
  obtain ⟨-, hv⟩ := ends_pure.1 h₇
  cases hv
  rfl

/-- The right password of an active account with a second factor. -/
theorem run_authenticate (now : Instant) {u : User} {r : CredentialRequest} (hr : r.faults = [])
    (hv : Password.verify r.password u.passwordHash = .ok true) (ha : u.isActive = true)
    (hotp : (p.otpEnabled && u.otpEnabled) = true) :
    ∃ next, (authenticate p r now).run = .ask (.users (.findByEmail r.email)) next ∧
      next (.ok (some u)) = (issue u .twoFaCheck now p.twoFaTtl true).run := by
  have hvalid : validate r.faults = pure () := by rw [hr]; rfl
  rw [authenticate, hvalid, pure_bind]
  refine ⟨_, run_question_bind (q := .users (.findByEmail r.email)), ?_⟩
  show (ofExcept (Password.verify r.password u.passwordHash) >>= _).run = _
  rw [hv]
  show (ensure (true && u.isActive) _ >>= _).run = _
  rw [ha]
  show (if p.otpEnabled && u.otpEnabled then _ else _ : Operation AuthToken).run = _
  rw [hotp]
  rfl

end Operation

namespace World

variable {w : World} {place : Nat}

/-- What a call can come to that is made with a token of the first step. -/
inductive Mediated (w : World) (place : Nat) : Call → Prop
  /-- It is refused, and nothing was asked. -/
  | refused {call : Call} (trace : w.trace place = [])
      (returned : w.Returned place call (.error (.insufficientScope Scope.user.name))) :
      Mediated w place call
  /-- It is a second step whose code passed for the account that the token names. -/
  | passed {claims : Claims} {r : TwoFaCodeRequest} {now : Instant} {u : User}
      {factor rest : Trace} (trace : w.trace place =
        .users (.findByPublicId claims.sub) (.ok (some u)) :: (factor ++ rest))
      (passed : Operation.Passed u r.code factor) :
      Mediated w place (.authenticateTwoFa claims r now)
  /-- It is a second step that changed nothing, and it did not succeed. -/
  | fruitless {claims : Claims} {r : TwoFaCodeRequest} {now : Instant}
      (unchanged : ∀ e ∈ w.log, e.call = place → e.after = e.before)
      (failed : ∀ v, ¬ w.Returned place (.authenticateTwoFa claims r now) (.ok v)) :
      Mediated w place (.authenticateTwoFa claims r now)

namespace Coherent

theorem running_of_calls (h : w.calls[place]? = some call) :
    ∃ rest, w.running[place]? = some ⟨call, rest⟩ := by
  rw [calls, List.getElem?_map, Option.map_eq_some_iff] at h
  obtain ⟨⟨c, rest⟩, hrunning, rfl⟩ := h
  exact ⟨rest, hrunning⟩

/-- A call without its scope has asked nothing, and it has ended. -/
theorem refused (hw : w.Coherent s) (hcall : w.calls[place]? = some call)
    (h : call.demands? s.policy = some (claims, scope)) (hlacks : scope ∉ claims.scp) :
    w.trace place = [] ∧ w.Returned place call (.error (.insufficientScope scope.name)) := by
  obtain ⟨rest, hrunning⟩ := running_of_calls hcall
  have hafter := hw.after hrunning
  rw [show s.operation call = _ from Service.operation_of_lacking h hlacks] at hafter
  obtain ⟨htrace, hrest⟩ := Dialogue.after_done_iff.1 hafter
  obtain rfl : rest = .done (.error (.insufficientScope scope.name)) := hrest
  exact ⟨htrace, hrunning⟩

/-- A second step that changes something uses a recovery code up. -/
theorem passed_of_changed {r : TwoFaCodeRequest} {now : Instant} {e : Entry}
    (hw : w.Coherent s) (hcall : w.calls[place]? = some (.authenticateTwoFa claims r now))
    (he : e ∈ w.log) (hplace : e.call = place) (hne : e.after ≠ e.before) :
    w.Mediated place (.authenticateTwoFa claims r now) := by
  obtain ⟨past, rest, hlog⟩ := List.append_of_mem he
  have hgranted : e.granted? ≠ none := by
    intro hnone
    exact hne (Entry.after_of_idle hnone)
  obtain ⟨c, hc⟩ := Option.ne_none_iff_exists'.1 hgranted
  obtain ⟨reply, hx, hreply⟩ := Exchange.granted?_eq_some.1 hc
  obtain ⟨call, hcall', hmakes⟩ := hw.makes hlog (congrArg Exchange.query hx)
  rw [hplace] at hcall' hmakes
  cases hcall.symm.trans hcall'
  cases c with
  | consumeRecoveryCode id code =>
      obtain ⟨_, _, _, u, hsame, hpast, rfl, rfl⟩ := hmakes
      cases hsame
      have hused : reply = .ok true := by
        cases reply with
        | ok used => exact congrArg Except.ok hreply
        | error => cases hreply
      rw [hused] at hx
      have htrace : w.trace place = .users (.findByPublicId claims.sub) (.ok (some u)) ::
          (Operation.rejected u r.code ++ [.users (.consumeRecoveryCode u.id r.code) (.ok true)] ++
            traceIn rest place) := by
        rw [trace_split hlog hplace, hpast, hx, List.append_assoc]
        rfl
      exact .passed htrace .recovery
  | findByEmail | findByPublicId | findByActivationCode =>
      cases reply with
      | ok => cases hreply
      | error => cases hreply
  | create =>
      obtain ⟨_, _, hother, -⟩ := hmakes
      cases hother
  | _ => simp [Call.Makes] at hmakes

/-- A second step that succeeds has passed. -/
theorem passed_of_returned {r : TwoFaCodeRequest} {now : Instant} (hw : w.Coherent s)
    (hotp : s.policy.otpEnabled = true) {v : Option AuthToken}
    (h : w.Returned place (.authenticateTwoFa claims r now) (.ok v)) :
    w.Mediated place (.authenticateTwoFa claims r now) := by
  have hends := hw.ends h
  obtain ⟨tok, rfl⟩ := Option.isSome_iff_exists.1 (Operation.isSome_of_authenticateTwoFa hotp hends)
  obtain ⟨u, token, factor, -, -, -, htrace, hpassed, -⟩ :=
    Operation.ends_authenticateTwoFa_ok hends
  exact .passed htrace hpassed

/-- Claims that are good for the second step alone lead to nothing but the second step. -/
theorem mediated (hw : w.Coherent s) (hotp : s.policy.otpEnabled = true)
    (hcall : w.calls[place]? = some call) (h : call.demands? s.policy = some (claims, scope))
    (hscp : claims.scp = [.twoFaCheck]) : w.Mediated place call := by
  cases scope with
  | user =>
      have hlacks : Scope.user ∉ claims.scp := by simp [hscp]
      obtain ⟨htrace, hreturned⟩ := hw.refused hcall h hlacks
      exact .refused htrace hreturned
  | twoFaCheck =>
      cases call with
      | authenticateTwoFa claims' r now =>
          by_cases hchanged : ∃ e ∈ w.log, e.call = place ∧ e.after ≠ e.before
          · obtain ⟨e, he, hplace, hne⟩ := hchanged
            exact hw.passed_of_changed hcall he hplace hne
          · by_cases hreturned : ∃ v, w.Returned place (.authenticateTwoFa claims' r now) (.ok v)
            · obtain ⟨v, hv⟩ := hreturned
              exact hw.passed_of_returned hotp hv
            · push Not at hchanged hreturned
              exact .fruitless hchanged hreturned
      | _ => cases h

end Coherent

/-- **The scope decides first.**  A call without the scope that it demands asks nothing: it is
refused in the same way over every store, with whatever request it is made and whatever fails,
and all stays as it is.  So when anyone is asked for a second factor, the token that the first
step hands out for an account with a second factor is good for the second step alone, and there
for nothing without a code that passes. -/
theorem scope_decides_first (s : Service) (moves : List Move) :
    (∀ call claims scope, call.demands? s.policy = some (claims, scope) → scope ∉ claims.scp →
      (∀ t q, ¬ (s.operation call).Asks t q) ∧
      (∀ m : ServiceMemory, m.run (s.operation call) =
        (some (.error (.insufficientScope scope.name)), m)) ∧
      ∀ (d : Directory) (x : Nat → Circumstance), d.alone x (s.operation call).run =
        ⟨.error (.insufficientScope scope.name), [], d⟩) ∧
    ∀ first r now tok u, (empty.run s moves).Returned first (.authenticate r now) (.ok tok) →
      .users (.findByEmail r.email) (.ok (some u)) ∈ (empty.run s moves).trace first →
      s.policy.otpEnabled = true → u.otpEnabled = true →
      ∃ issued, .sign issued (.ok tok.authToken) ∈ (empty.run s moves).trace first ∧
        ∀ place call claims scope, (empty.run s moves).calls[place]? = some call →
          call.demands? s.policy = some (claims, scope) → claims.scp = issued.scp →
          (empty.run s moves).Mediated place call := by
  refine ⟨?_, ?_⟩
  · intro call claims scope hdemands hlacks
    rw [Service.operation_of_lacking hdemands hlacks]
    refine ⟨?_, ?_, ?_⟩
    · intro t q
      exact Operation.asks_throw
    · intro m
      rfl
    · intro d x
      rfl
  · intro first r now tok u hreturned hfound hotp hu
    have hw : (empty.run s moves).Coherent s := Coherent.empty.run moves
    obtain ⟨v, scope, ttl, token, -, -, htrace, rfl, hkind⟩ :=
      Operation.ends_authenticate_ok (hw.ends hreturned)
    rw [htrace] at hfound ⊢
    obtain rfl : u = v := by
      rcases List.mem_cons.1 hfound with hsame | hother
      · cases hsame
        rfl
      · cases List.mem_singleton.1 hother
    rw [hotp, hu, if_pos (by rfl)] at hkind
    obtain ⟨rfl, -⟩ := hkind
    refine ⟨_, List.mem_cons_of_mem _ (List.mem_singleton_self _), ?_⟩
    intro place call claims scope hcall hdemands hscp
    exact hw.mediated hotp hcall hdemands hscp

/-! ## A visit -/

theorem run_append (s : Service) (w : World) (first second : List Move) :
    w.run s (first ++ second) = (w.run s first).run s second := List.foldl_append

theorem running_turn_last {before : List Running} {q : ServiceCall}
    {next : serviceSurroundings.Reply q →
      Dialogue serviceSurroundings (Except AccountError call.Result)}
    (here : w.running = before ++ [⟨call, .ask q next⟩]) (m : Moment) :
    (w.turn before.length m).running =
      before ++ [⟨call, next (m.reply w.directory q).1⟩] := by
  have hlast : w.running[before.length]? = some ⟨call, .ask q next⟩ := by
    rw [here, List.getElem?_append_right (Nat.le_refl _), Nat.sub_self]
    rfl
  rw [turn, hlast]
  show w.running.set before.length ⟨call, next (m.reply w.directory q).1⟩ = _
  rw [here, List.set_append_right _ _ (Nat.le_refl _), Nat.sub_self]
  rfl

/-- Somebody with a second factor logs in with the password, and then a call is made. -/
theorem run_firstStep (now : Instant) {r : CredentialRequest} {m : Moment} {u : User}
    {token : String} (hr : r.faults = [])
    (hfound : (m.reply w.directory (.users (.findByEmail r.email))).1 = .ok (some u))
    (hv : Password.verify r.password u.passwordHash = .ok true) (ha : u.isActive = true)
    (hotp : (s.policy.otpEnabled && u.otpEnabled) = true)
    (hsign : ∀ c, m.sign c = .ok token) (call : Call) : ∃ tok, tok.twoFaRequired = true ∧
    (w.run s [.start (.authenticate r now), .turn w.running.length m,
      .turn w.running.length m, .start call]).running = w.running ++
        [⟨.authenticate r now, .done (.ok tok)⟩, ⟨call, (s.operation call).run⟩] := by
  obtain ⟨next, hrun, hnext⟩ := Operation.run_authenticate now hr hv ha hotp
  have hstarted : (w.step s (.start (.authenticate r now))).running =
      w.running ++ [⟨.authenticate r now, .ask _ next⟩] :=
    congrArg (fun rest => w.running ++ [⟨.authenticate r now, rest⟩]) hrun
  have hasked := running_turn_last hstarted m
  rw [show (w.step s (.start (.authenticate r now))).directory = w.directory from rfl, hfound,
    hnext] at hasked
  have hsigned := running_turn_last hasked m
  rw [show (m.reply _ (.sign (Operation.claimsFor u .twoFaCheck now s.policy.twoFaTtl))).1 =
    .ok token from hsign _] at hsigned
  have hlast := congrArg (· ++ [⟨call, (s.operation call).run⟩]) hsigned
  exact ⟨_, rfl, hlast.trans (List.append_assoc _ _ _)⟩

namespace Sample

/-- An account with a password that can be checked gets a second factor. -/
def secured : List Move :=
  .start (.register ⟨"A", "B", "a@b.co", "password"⟩ ⟨"user", "code", salt 1, .ofSeconds 0⟩) ::
    enrolment.tail

/-- The password of its owner. -/
def credentials : CredentialRequest := ⟨"a@b.co", "password"⟩

/-- A call with the token of the first step. -/
def look : Call := .profile (Sample.claims .twoFaCheck)

/-- Its owner logs in with the password and asks for the account with the token. -/
def visit : List Move := secured ++
  [.start (.authenticate credentials (.ofSeconds 2)), .turn 4 moment, .turn 4 moment, .start look]

theorem owner_secured : ∃ u, (empty.run (service (.ofSeconds 900)) secured).directory.users.find?
      (·.email == "a@b.co") = some u ∧ u.isActive = true ∧ u.otpEnabled = true ∧
    Password.verify "password" u.passwordHash = .ok true := by
  have hkind : ((empty.run (service (.ofSeconds 900)) secured).directory.users.find?
      (·.email == "a@b.co")).map (fun u => (u.isActive, u.otpEnabled)) = some (true, true) := rfl
  obtain ⟨u, hu, hfields⟩ := Option.map_eq_some_iff.1 hkind
  obtain ⟨hactive, hotp⟩ := Prod.mk.inj hfields
  have hset : (empty.run (service (.ofSeconds 900)) secured).calls.filterMap Call.password? =
      [("password", salt 1)] := rfl
  obtain ⟨call, hcall, password, salt', hpassword, hhash⟩ :=
    (reached_run (service (.ofSeconds 900)) secured).passwordHash_of_call
      (List.mem_of_find?_eq_some hu)
  have hmem := List.mem_filterMap.2 ⟨call, hcall, hpassword⟩
  rw [hset] at hmem
  cases List.mem_singleton.1 hmem
  refine ⟨u, hu, hactive, hotp, ?_⟩
  rw [hhash]
  exact Password.verify_hash_self (by decide) (by decide) "password"

theorem running_visit : ∃ before tok, before.length = 4 ∧ tok.twoFaRequired = true ∧
    (empty.run (service (.ofSeconds 900)) visit).running = before ++
      [⟨.authenticate credentials (.ofSeconds 2), .done (.ok tok)⟩,
        ⟨look, ((service (.ofSeconds 900)).operation look).run⟩] := by
  obtain ⟨u, hu, hactive, hotp, hfits⟩ := owner_secured
  have hcount : (empty.run (service (.ofSeconds 900)) secured).running.length = 4 := rfl
  rw [visit, run_append]
  generalize empty.run (service (.ofSeconds 900)) secured = w at hu hcount ⊢
  have hfound : (moment.reply w.directory (.users (.findByEmail credentials.email))).1 =
      .ok (some u) := congrArg Except.ok hu
  obtain ⟨tok, hmore, htok⟩ := run_firstStep (s := service (.ofSeconds 900)) (.ofSeconds 2)
    (by decide) hfound hfits hactive (hotp ▸ rfl) (fun _ => rfl) look
  rw [hcount] at htok
  exact ⟨w.running, tok, hcount, hmore, htok⟩

end Sample

open Sample in
/-- With the token of the first step alone nobody sees an account. -/
theorem scope_decides_first_visit :
    let w := empty.run (service (.ofSeconds 900)) visit
    (∃ tok u, w.Returned 4 (.authenticate credentials (.ofSeconds 2)) (.ok tok) ∧
      .users (.findByEmail credentials.email) (.ok (some u)) ∈ w.trace 4 ∧ u.otpEnabled = true) ∧
    w.calls[5]? = some look ∧ w.Mediated 5 look := by
  obtain ⟨w, hw⟩ : ∃ w, empty.run (service (.ofSeconds 900)) visit = w := ⟨_, rfl⟩
  have hcoherent : w.Coherent (service (.ofSeconds 900)) := hw ▸ Coherent.empty.run visit
  have hscope := scope_decides_first (service (.ofSeconds 900)) visit
  obtain ⟨before, tok, hcount, hmore, hrunning⟩ := running_visit
  rw [hw] at hscope hrunning ⊢
  have hreturned : w.Returned 4 (.authenticate credentials (.ofSeconds 2)) (.ok tok) := by
    rw [Returned, hrunning, List.getElem?_append_right (Nat.le_of_eq hcount), hcount]
    rfl
  have hlook : w.calls[5]? = some look := by
    rw [calls, hrunning, List.map_append, List.getElem?_append_right, List.length_map, hcount]
    · rfl
    · simp [hcount]
  obtain ⟨u, scope, ttl, token, -, -, htrace, htok, hkind⟩ :=
    Operation.ends_authenticate_ok (hcoherent.ends hreturned)
  have hotp : u.otpEnabled = true := by
    rw [htok] at hmore
    exact hmore
  have hfound : .users (.findByEmail credentials.email) (.ok (some u)) ∈ w.trace 4 :=
    htrace ▸ List.mem_cons_self
  obtain ⟨-, hscope⟩ := hscope
  obtain ⟨issued, hissued, hmediated⟩ := hscope 4 _ _ tok u hreturned hfound rfl hotp
  refine ⟨⟨tok, u, hreturned, hfound, hotp⟩, hlook, hmediated 5 look _ .user hlook rfl ?_⟩
  rw [hotp] at hkind
  obtain ⟨rfl, -⟩ : scope = .twoFaCheck ∧ _ := hkind
  rw [htrace] at hissued
  rcases List.mem_cons.1 hissued with hother | hsign
  · cases hother
  · cases List.mem_singleton.1 hsign
    rfl

end World

end Accounts
