import Accounts.Proofs.Service.RecoveryCodes
/-!
# A race for one recovery code

Any number of calls of the second step try the same recovery code of the same user at
the same time.  They all read the user before any of them uses the code up, so what
they read does not tell them apart; what does is the request that removes the code.

As long as no racer made this request, the user is as at the start of the race.  The
first that makes it finds the code and takes it away, and the user stays as it is from
then on.  A racer that comes later does not find the code.
-/

namespace Accounts

open Operation (Trace)

/-! ## Racers -/

/-- The call tries a recovery code for a public name, with claims that allow it. -/
def Call.tries (sub code : String) : Call → Bool
  | authenticateTwoFa claims r _ =>
    claims.hasScope .twoFaCheck && claims.sub == sub && r.code == code
  | _ => false

theorem Call.tries_iff {sub code : String} {c : Call} : c.tries sub code = true ↔
    ∃ claims now, c = .authenticateTwoFa claims ⟨code⟩ now ∧
      claims.hasScope .twoFaCheck = true ∧ claims.sub = sub := by
  constructor
  · intro h
    cases c with
    | authenticateTwoFa claims r now =>
        obtain ⟨⟨hscope, hsub⟩, hcode⟩ : (_ ∧ _) ∧ _ := by simpa [tries] using h
        obtain ⟨c⟩ := r
        cases hcode
        exact ⟨claims, now, rfl, hscope, hsub⟩
    | _ => cases h
  · rintro ⟨claims, now, rfl, hscope, hsub⟩
    simp [tries, hscope, hsub]

/-- The question is asked in calm surroundings: nothing fails, and the code is not a
current one of the user. -/
structure Entry.Calm (u : User) (code : String) (e : Entry) : Prop where
  /-- The directory replies. -/
  replies : e.moment.failure = none
  /-- The outbox stores things. -/
  accepts : e.before.outbox.refusing = false
  /-- The code is not a current one. -/
  rejected : ∀ secret, u.otpSecret = some secret →
    e.moment.otp (.validate secret code) = .ok false
  /-- Tokens can be signed. -/
  signed : ∀ c, ∃ token, e.moment.sign c = .ok token

namespace World

/-- The calls that try a recovery code, without the first calls that were made. -/
def racers (w : World) (first : Nat) (sub code : String) : List Nat :=
  (List.range w.running.length).filter fun place =>
    first ≤ place && w.calls[place]?.any (Call.tries sub code)

/-- The codes that the engine hands out have six characters. -/
def SixDigits (w : World) : Prop :=
  ∀ e ∈ w.log, ∀ (count : Nat) (codes : List String),
    e.exchange = .otp (.recoveryCodes count) (.ok codes) → ∀ c ∈ codes, c.length = 6

/-- Racers are in calm surroundings, and nobody else changes the user. -/
structure Undisturbed (w : World) (first since : Nat) (sub code : String) (u : User) : Prop where
  /-- The racers are in calm surroundings. -/
  calm : ∀ e ∈ w.log, e.call ∈ w.racers first sub code → e.Calm u code
  /-- Nobody else changes the user, once the race goes on. -/
  alone : ∀ e ∈ w.log.drop since, e.call ∉ w.racers first sub code →
    e.after.user? u.id = e.before.user? u.id

/-- From one world to another, calls race for a recovery code of a user. -/
structure Race (s : Service) (start w : World) (sub code : String) (u : User) : Prop where
  /-- A second factor is asked for. -/
  enabled : s.policy.otpEnabled = true
  /-- The public name names the user. -/
  named : start.directory.users.find? (·.publicId == sub) = some u
  /-- The user is active. -/
  active : u.isActive = true
  /-- The user holds the code. -/
  held : code ∈ u.otpRecoveryCodes
  /-- The engine hands out codes of six characters. -/
  digits : start.SixDigits
  /-- Nothing else happens to the user. -/
  undisturbed : w.Undisturbed start.running.length start.log.length sub code u

/-- A call has ended. -/
def Ended (w : World) (place : Nat) : Prop := ∃ call r, w.Returned place call r

/-- A call of the second step has ended with a token. -/
def LetIn (w : World) (place : Nat) : Prop :=
  ∃ claims r now tok, w.Returned place (.authenticateTwoFa claims r now) (.ok (some tok))

/-- A call of the second step has ended because the code is wrong. -/
def TurnedAway (w : World) (place : Nat) : Prop :=
  ∃ claims r now, w.Returned place (.authenticateTwoFa claims r now) (.error .invalidOtpCode)

/-! ## Codes have six characters -/

variable {s : Service} {w w' : World} {sub code : String} {u : User} {first place : Nat}

theorem sixDigits_of_replied {e : Entry} {rest : Running} (h : (w.replied e rest).SixDigits) :
    w.SixDigits := fun x hx => h x (List.mem_append_left _ hx)

/-- Codes that are stored are codes that were handed out. -/
theorem length_of_holds (s : Service) (moves : List Move) (h : (empty.run s moves).SixDigits)
    {id : Int} (hh : (empty.run s moves).directory.holds id code = true) : code.length = 6 := by
  refine (run_induction
    (P := fun w => w.SixDigits → w.directory.holds id code = true → code.length = 6)
    .empty ?_ ?_ moves).2 h hh
  · intro _ h
    cases h
  · intro w w' _ ih hs hsix hh
    cases hs with
    | idle => exact ih hsix hh
    | started call => exact ih hsix hh
    | refused refusing => exact ih hsix hh
    | turned e rest here hb asks =>
        have hsix := sixDigits_of_replied hsix
        rcases e.holds_before hh with hh | hstore
        · exact ih hsix (hb ▸ hh)
        · obtain ⟨secret, codes, hx, hcode⟩ := Exchange.stores_iff.1 hstore
          have hq : e.query = .users (.enableOtp id secret codes) := congrArg Exchange.query hx
          rw [hq] at asks
          obtain ⟨count, hcount⟩ := Service.justifies asks
          obtain ⟨x, hx, -, hcodes⟩ := mem_trace.1 hcount
          exact hsix x hx count codes hcodes code hcode

/-! ## Who races -/

theorem mem_racers : place ∈ w.racers first sub code ↔
    first ≤ place ∧ ∃ c, w.calls[place]? = some c ∧ c.tries sub code = true := by
  have hlen : w.calls.length = w.running.length := List.length_map _
  simp only [racers, List.mem_filter, List.mem_range, Bool.and_eq_true, decide_eq_true_eq,
    Option.any_eq_true]
  constructor
  · rintro ⟨-, hfirst, c, hc, htries⟩
    exact ⟨hfirst, c, hc, htries⟩
  · rintro ⟨hfirst, c, hc, htries⟩
    have hlt := (List.getElem?_eq_some_iff.1 hc).1
    exact ⟨by omega, hfirst, c, hc, htries⟩

theorem racers_iff (hs : Stepped s w w') (hp : place < w.running.length) :
    place ∈ w'.racers first sub code ↔ place ∈ w.racers first sub code := by
  obtain ⟨more, hmore⟩ := hs.calls
  have hlt : place < w.calls.length := by rwa [calls, List.length_map]
  rw [mem_racers, mem_racers, ← hmore, List.getElem?_append_left hlt]

theorem racers_replied {e : Entry} {rest : Running} (here : w.calls[e.call]? = some rest.call) :
    (w.replied e rest).racers first sub code = w.racers first sub code := by
  rw [racers, racers, calls_replied here, replied, List.length_set]

/-! ## The race -/

/-- A racer reads the user with the code or without it. -/
def Reads (u : User) (code : String) (v : User) : Prop :=
  v = u ∨ v = (DirectoryCall.consumeRecoveryCode u.id code).edit u

namespace Reads

variable {v : User}

theorem id (h : Reads u code v) : v.id = u.id := by
  rcases h with rfl | rfl <;> rfl

theorem isActive (h : Reads u code v) : v.isActive = u.isActive := by
  rcases h with rfl | rfl <;> rfl

theorem otpSecret (h : Reads u code v) : v.otpSecret = u.otpSecret := by
  rcases h with rfl | rfl <;> rfl

end Reads

/-- Nobody has tried the code, which is there. -/
structure Undecided (w : World) (first : Nat) (sub code : String) (u : User) : Prop where
  /-- The user is as it was. -/
  user : w.directory.user? u.id = some u
  /-- No racer tried the code. -/
  untried : ∀ place ∈ w.racers first sub code, ∀ o,
    .users (.consumeRecoveryCode u.id code) o ∉ w.trace place

/-- One racer was the first and used the code up. -/
structure WonBy (w : World) (first : Nat) (sub code : String) (u : User) (winner : Nat) :
    Prop where
  /-- The user only lost the code. -/
  user : w.directory.user? u.id = some ((DirectoryCall.consumeRecoveryCode u.id code).edit u)
  /-- The winner is a racer. -/
  racer : winner ∈ w.racers first sub code
  /-- The winner found the code. -/
  used : .users (.consumeRecoveryCode u.id code) (.ok true) ∈ w.trace winner
  /-- Nobody else found it. -/
  others : ∀ place ∈ w.racers first sub code, place ≠ winner →
    .users (.consumeRecoveryCode u.id code) (.ok true) ∉ w.trace place

/-- How a race stands. -/
structure Racing (w : World) (first : Nat) (sub code : String) (u : User) : Prop where
  /-- The public name names the user. -/
  named : ∃ v, w.directory.users.find? (·.publicId == sub) = some v ∧ v.id = u.id
  /-- A racer reads the user. -/
  found : ∀ place ∈ w.racers first sub code, ∀ {o},
    .users (.findByPublicId sub) o ∈ w.trace place → ∃ v, o = .ok (some v) ∧ Reads u code v
  /-- A racer asks for a current code of the user. -/
  asked : ∀ place ∈ w.racers first sub code, ∀ {secret o},
    .otp (.validate secret code) o ∈ w.trace place → u.otpSecret = some secret
  /-- The race is open, or it is decided. -/
  decided : w.Undecided first sub code u ∨ ∃ winner, w.WonBy first sub code u winner

namespace Racing

/-- Who reads the public name reads the user. -/
theorem find_named (h : w.Racing first sub code u) (hnum : w.directory.Numbered) :
    ∃ v, w.directory.users.find? (·.publicId == sub) = some v ∧ Reads u code v := by
  obtain ⟨v, hv, hid⟩ := h.named
  have hmem := List.mem_of_find?_eq_some hv
  refine ⟨v, hv, ?_⟩
  rcases h.decided with ⟨hu, -⟩ | ⟨winner, hu, -⟩
  · obtain ⟨humem, -⟩ := hnum.user?_eq_some_iff.1 hu
    exact .inl (hnum.eq_of_id hmem humem hid)
  · obtain ⟨humem, hid'⟩ := hnum.user?_eq_some_iff.1 hu
    exact .inr (hnum.eq_of_id hmem humem (hid.trans hid'.symm))

/-- A call that is made has not asked anything. -/
theorem started (h : w.Racing first sub code u) (hw : w.Coherent s) (call : Call) :
    (w.step s (.start call)).Racing first sub code u := by
  have htrace : ∀ place, (w.step s (.start call)).trace place = w.trace place := fun _ => rfl
  -- A new racer has an empty trace, so it can be passed over.
  have hold : ∀ {place x}, place ∈ (w.step s (.start call)).racers first sub code →
      x ∈ w.trace place → place ∈ w.racers first sub code := by
    intro place x hp hx
    refine (racers_iff (.started call) ?_).1 hp
    by_contra hge
    rw [hw.trace_eq_nil (Nat.le_of_not_lt hge)] at hx
    cases hx
  refine ⟨h.named, ?_, ?_, ?_⟩
  · intro place hp o ho
    exact h.found place (hold hp ho) ho
  · intro place hp secret o ho
    exact h.asked place (hold hp ho) ho
  · rcases h.decided with ⟨hu, hnone⟩ | ⟨winner, hu, hwin, huse, hothers⟩
    · exact .inl ⟨hu, fun place hp o ho => hnone place (hold hp ho) o ho⟩
    · refine .inr ⟨winner, hu, ?_, huse, fun place hp hne ho => hothers place (hold hp ho) hne ho⟩
      have hlt : winner < w.running.length := by
        by_contra hge
        rw [hw.trace_eq_nil (Nat.le_of_not_lt hge)] at huse
        cases huse
      exact (racers_iff (.started call) hlt).2 hwin

/-- A question leaves the race as it should be if a racer reads what it should and the
race is still decided or still open. -/
theorem replied (h : w.Racing first sub code u) {e : Entry} {rest : Running}
    (here : w.calls[e.call]? = some rest.call) (hb : e.before = w.directory)
    (hfind : e.call ∈ w.racers first sub code → ∀ {o},
      e.exchange = .users (.findByPublicId sub) o → ∃ v, o = .ok (some v) ∧ Reads u code v)
    (hask : e.call ∈ w.racers first sub code → ∀ {secret o},
      e.exchange = .otp (.validate secret code) o → u.otpSecret = some secret)
    (hdecided : (w.replied e rest).Undecided first sub code u ∨
      ∃ winner, (w.replied e rest).WonBy first sub code u winner) :
    (w.replied e rest).Racing first sub code u := by
  refine ⟨?_, ?_, ?_, hdecided⟩
  · obtain ⟨v, hv, hid⟩ := h.named
    obtain ⟨v', hv', hident⟩ := e.find_publicId (hb ▸ hv)
    exact ⟨v', hv', (congrArg Identity.id hident).trans hid⟩
  · intro place hp o ho
    rw [racers_replied here] at hp
    rcases mem_trace_replied.1 ho with ho | ⟨rfl, hx⟩
    · exact h.found place hp ho
    · exact hfind hp hx.symm
  · intro place hp secret o ho
    rw [racers_replied here] at hp
    rcases mem_trace_replied.1 ho with ho | ⟨rfl, hx⟩
    · exact h.asked place hp ho
    · exact hask hp hx.symm

/-- A question that does not try the code and leaves the user as it is. -/
theorem quiet (h : w.Racing first sub code u) {e : Entry} {rest : Running}
    (here : w.calls[e.call]? = some rest.call) (hb : e.before = w.directory)
    (huser : e.after.user? u.id = e.before.user? u.id)
    (hfind : e.call ∈ w.racers first sub code → ∀ {o},
      e.exchange = .users (.findByPublicId sub) o → ∃ v, o = .ok (some v) ∧ Reads u code v)
    (hask : e.call ∈ w.racers first sub code → ∀ {secret o},
      e.exchange = .otp (.validate secret code) o → u.otpSecret = some secret)
    (htry : e.call ∈ w.racers first sub code → ∀ {o},
      e.exchange ≠ .users (.consumeRecoveryCode u.id code) o) :
    (w.replied e rest).Racing first sub code u := by
  rw [hb] at huser
  have hnotry : ∀ {place o}, place ∈ w.racers first sub code →
      .users (.consumeRecoveryCode u.id code) o ∉ w.trace place →
        .users (.consumeRecoveryCode u.id code) o ∉ (w.replied e rest).trace place := by
    intro place o hp ho hmem
    rcases mem_trace_replied.1 hmem with hmem | ⟨rfl, hx⟩
    · exact ho hmem
    · exact htry hp hx.symm
  refine h.replied here hb hfind hask ?_
  rcases h.decided with ⟨hu, hnone⟩ | ⟨winner, hu, hwin, huse, hothers⟩
  · refine .inl ⟨huser.trans hu, ?_⟩
    rw [racers_replied here]
    exact fun place hp o => hnotry hp (hnone place hp o)
  · refine .inr ⟨winner, huser.trans hu, ?_, mem_trace_replied.2 (.inl huse), ?_⟩
    · rw [racers_replied here]
      exact hwin
    · rw [racers_replied here]
      exact fun place hp hne => hnotry hp (hothers place hp hne)

section Consume

variable {e : Entry} {rest : Running} {d' : Directory}

/-- The first racer that tries the code uses it up. -/
theorem wonBy_of_undecided (hnum : w.directory.Numbered) (h : w.Undecided first sub code u)
    (here : w.calls[e.call]? = some rest.call) (hb : e.before = w.directory)
    (hcode : code ∈ u.otpRecoveryCodes) (hp : e.call ∈ w.racers first sub code)
    (hx : e.exchange = .users (.consumeRecoveryCode u.id code) (.ok (e.before.holds u.id code)))
    (hused : e.before.holds u.id code = true → ∃ v ∈ e.before.users, v.id = u.id ∧
      (DirectoryCall.consumeRecoveryCode u.id code).edit v ∈ e.after.users) :
    (w.replied e rest).WonBy first sub code u e.call := by
  obtain ⟨hu, hnone⟩ := h
  have hheld : e.before.holds u.id code = true := by
    rw [hb, hnum.holds_eq hu, List.contains_iff_mem]
    exact hcode
  obtain ⟨v, hv, hvid, hedit⟩ := hused hheld
  have hvu : v = u := by
    rw [hb] at hv
    exact hnum.eq_of_id hv (hnum.user?_eq_some_iff.1 hu).1 hvid
  rw [hvu] at hedit
  refine ⟨?_, ?_, ?_, ?_⟩
  · exact (e.numbered (hb ▸ hnum)).user?_eq_some_iff.2 ⟨hedit, Directory.id_edit _ u⟩
  · rw [racers_replied here]
    exact hp
  · exact mem_trace_replied.2 (.inr ⟨rfl, by rw [hx, hheld]⟩)
  · rw [racers_replied here]
    intro place hplace hne ho
    rcases mem_trace_replied.1 ho with ho | ⟨hsame, -⟩
    · exact hnone place hplace _ ho
    · exact hne hsame.symm

/-- Whoever tries the code after that does not find it. -/
theorem wonBy_of_wonBy (hnum : w.directory.Numbered) {winner : Nat}
    (h : w.WonBy first sub code u winner) (here : w.calls[e.call]? = some rest.call)
    (hb : e.before = w.directory)
    (hx : e.exchange = .users (.consumeRecoveryCode u.id code) (.ok (e.before.holds u.id code)))
    (hgone : e.before.holds u.id code = false → e.after = e.before) :
    (w.replied e rest).WonBy first sub code u winner := by
  obtain ⟨hu, hwin, huse, hothers⟩ := h
  have hheld : e.before.holds u.id code = false := by
    have hcontains := hnum.holds_eq (u := (DirectoryCall.consumeRecoveryCode u.id code).edit u)
      hu code
    rw [hb]
    refine Eq.trans hcontains ?_
    simp [DirectoryCall.edit]
  refine ⟨?_, ?_, mem_trace_replied.2 (.inl huse), ?_⟩
  · rw [World.replied, hgone hheld, hb]
    exact hu
  · rw [racers_replied here]
    exact hwin
  · rw [racers_replied here]
    intro place hplace hne ho
    rcases mem_trace_replied.1 ho with ho | ⟨-, ho⟩
    · exact hothers place hplace hne ho
    · rw [hx, hheld] at ho
      cases ho

/-- A racer tries the code. -/
theorem consume (h : w.Racing first sub code u) (hnum : w.directory.Numbered)
    (here : w.calls[e.call]? = some rest.call) (hb : e.before = w.directory)
    (hcode : code ∈ u.otpRecoveryCodes)
    (hp : e.call ∈ w.racers first sub code) (hc : e.Calm u code)
    (hq : e.query = .users (.consumeRecoveryCode u.id code)) :
    (w.replied e rest).Racing first sub code u := by
  obtain ⟨hx, hafter⟩ := e.exchange_of_none hc.replies hq
  obtain ⟨d', hr, hgone, hused⟩ := Directory.reply_consume hc.accepts e.moment.clock u.id code
  rw [hr] at hx hafter
  obtain rfl : e.after = d' := hafter
  refine h.replied here hb (fun _ => ?_) (fun _ => ?_) (.inr ?_)
  · intro o ho
    cases hx.symm.trans ho
  · intro secret o ho
    cases hx.symm.trans ho
  · rcases h.decided with hundecided | ⟨winner, hwon⟩
    · exact ⟨e.call, wonBy_of_undecided hnum hundecided here hb hcode hp hx hused⟩
    · exact ⟨winner, wonBy_of_wonBy hnum hwon here hb hx hgone⟩

end Consume

/-- Every question keeps the race as it should be. -/
theorem turned (h : w.Racing first sub code u) (hnum : w.directory.Numbered) {e : Entry}
    {rest : Running} (here : w.calls[e.call]? = some rest.call) (hb : e.before = w.directory)
    (asks : (s.operation rest.call).Asks (w.trace e.call) e.query)
    (hcode : code ∈ u.otpRecoveryCodes)
    (hcalm : e.call ∈ w.racers first sub code → e.Calm u code)
    (halone : e.call ∉ w.racers first sub code → e.after.user? u.id = e.before.user? u.id) :
    (w.replied e rest).Racing first sub code u := by
  by_cases hp : e.call ∈ w.racers first sub code
  swap
  · exact h.quiet here hb (halone hp) (fun hp' => (hp hp').elim) (fun hp' => (hp hp').elim)
      (fun hp' => (hp hp').elim)
  have hc := hcalm hp
  obtain ⟨-, c, hcall, htries⟩ := mem_racers.1 hp
  obtain ⟨claims, now, rfl, -, rfl⟩ := Call.tries_iff.1 htries
  obtain ⟨call, rest⟩ := rest
  cases here.symm.trans hcall
  have hafter : ∀ {q : ServiceCall}, e.query = q → (∀ c, q ≠ .users c) → e.after = e.before := by
    intro q hq hne
    rcases e.effect with he | ⟨c, he, -⟩
    · exact he
    · exact (hne c (hq.symm.trans he)).elim
  rcases Operation.asks_authenticateTwoFa asks with ⟨-, hq⟩ | ⟨v, t, ht, hcases⟩
  · obtain ⟨hx, hafter⟩ := e.exchange_of_none hc.replies hq
    refine h.quiet here hb (congrArg (·.user? u.id) hafter) (fun _ => ?_) (fun _ => ?_)
      (fun _ => ?_)
    · intro o ho
      obtain ⟨v, hv, hreads⟩ := h.find_named hnum
      cases hx.symm.trans ho
      exact ⟨v, by rw [hb]; exact congrArg _ hv, hreads⟩
    · intro secret o ho
      cases hx.symm.trans ho
    · intro o ho
      cases hx.symm.trans ho
  · -- The racer found the user, so what it asks for is about this user.
    obtain ⟨v', hv, hreads⟩ := h.found e.call hp (ht ▸ List.mem_cons_self)
    cases hv
    rcases hcases with ⟨secret, hsecret, -, hq⟩ | ⟨-, hq⟩ | ⟨-, hq⟩
    · refine h.quiet here hb (by rw [hafter hq (by rintro c ⟨⟩)]) (fun _ => ?_) (fun _ => ?_)
        (fun _ => ?_)
      · intro o ho
        cases hq.symm.trans (congrArg Exchange.query ho)
      · intro secret' o ho
        cases hq.symm.trans (congrArg Exchange.query ho)
        rw [← hreads.otpSecret, hsecret]
      · intro o ho
        cases hq.symm.trans (congrArg Exchange.query ho)
    · rw [hreads.id] at hq
      exact h.consume hnum here hb hcode hp hc hq
    · refine h.quiet here hb (by rw [hafter hq (by rintro c ⟨⟩)]) (fun _ => ?_) (fun _ => ?_)
        (fun _ => ?_)
      · intro o ho
        cases hq.symm.trans (congrArg Exchange.query ho)
      · intro secret' o ho
        cases hq.symm.trans (congrArg Exchange.query ho)
      · intro o ho
        cases hq.symm.trans (congrArg Exchange.query ho)

end Racing

namespace Undisturbed

variable {since : Nat}

theorem of_replied {e : Entry} {rest : Running} (here : w.calls[e.call]? = some rest.call)
    (hlen : since ≤ w.log.length)
    (h : (w.replied e rest).Undisturbed first since sub code u) :
    w.Undisturbed first since sub code u ∧ (e.call ∈ w.racers first sub code → e.Calm u code) ∧
      (e.call ∉ w.racers first sub code → e.after.user? u.id = e.before.user? u.id) := by
  have hr : (w.replied e rest).racers first sub code = w.racers first sub code :=
    racers_replied here
  have hlog : (w.replied e rest).log.drop since = w.log.drop since ++ [e] := by
    rw [replied, List.drop_append_of_le_length hlen]
  refine ⟨⟨?_, ?_⟩, ?_, ?_⟩
  · exact fun x hx hp => h.calm x (List.mem_append_left _ hx) (hr ▸ hp)
  · exact fun x hx hp => h.alone x (hlog ▸ List.mem_append_left _ hx) (hr ▸ hp)
  · exact fun hp => h.calm e (List.mem_append_right _ (List.mem_singleton_self e)) (hr ▸ hp)
  · exact fun hp => h.alone e (hlog ▸ List.mem_append_right _ (List.mem_singleton_self e)) (hr ▸ hp)

theorem of_started (hw : w.Coherent s) {call : Call}
    (h : (w.step s (.start call)).Undisturbed first since sub code u) :
    w.Undisturbed first since sub code u := by
  refine ⟨fun e he hp => ?_, fun e he hp => ?_⟩
  · exact h.calm e he ((racers_iff (.started call) (hw.made e he)).2 hp)
  · have hmade := hw.made e (List.mem_of_mem_drop he)
    exact h.alone e he fun hp' => hp ((racers_iff (.started call) hmade).1 hp')

end Undisturbed

/-- Nobody has started to race. -/
theorem not_mem_racers_start : place ∉ w.racers w.running.length sub code := by
  intro h
  obtain ⟨hle, c, hc, -⟩ := mem_racers.1 h
  have hlt := (List.getElem?_eq_some_iff.1 hc).1
  rw [calls, List.length_map] at hlt
  omega

theorem racing_start (hnum : w.directory.Numbered)
    (hnamed : w.directory.users.find? (·.publicId == sub) = some u) :
    w.Racing w.running.length sub code u where
  named := ⟨u, hnamed, rfl⟩
  found _ hp := (not_mem_racers_start hp).elim
  asked _ hp := (not_mem_racers_start hp).elim
  decided := .inl ⟨hnum.user?_eq_some_iff.2 ⟨List.mem_of_find?_eq_some hnamed, rfl⟩,
    fun _ hp => (not_mem_racers_start hp).elim⟩

/-- A race is as it should be all the time. -/
theorem Race.racing {start : World} {later : List Move} (hw : start.Coherent s)
    (h : Race s start (start.run s later) sub code u) :
    (start.run s later).Racing start.running.length sub code u := by
  refine (run_induction
    (P := fun w => start.log.length ≤ w.log.length ∧
      (w.Undisturbed start.running.length start.log.length sub code u →
        w.Racing start.running.length sub code u))
    hw ⟨Nat.le_refl _, fun _ => racing_start hw.numbered h.named⟩ ?_ later).2.2 h.undisturbed
  rintro v v' hv ⟨hlen, ih⟩ hs
  cases hs with
  | idle => exact ⟨hlen, ih⟩
  | started call => exact ⟨hlen, fun hu => (ih (hu.of_started hv)).started hv call⟩
  | refused refusing =>
      refine ⟨hlen, fun hu => ?_⟩
      have hr := ih ⟨hu.calm, hu.alone⟩
      refine ⟨hr.named, hr.found, hr.asked, ?_⟩
      rcases hr.decided with ⟨huser, hnone⟩ | ⟨winner, huser, hwin, huse, hothers⟩
      · exact .inl ⟨huser, hnone⟩
      · exact .inr ⟨winner, huser, hwin, huse, hothers⟩
  | turned e rest here hb asks =>
      refine ⟨by rw [replied, List.length_append]; omega, fun hu => ?_⟩
      obtain ⟨hu, hcalm, halone⟩ := hu.of_replied here hlen
      exact (ih hu).turned hv.numbered here hb asks h.held hcalm halone

/-! ## How a race ends -/

/-- A racer only sees calm surroundings. -/
theorem Racing.calm_trace (h : w.Racing first sub code u) (ha : u.isActive = true)
    (hcalm : ∀ e ∈ w.log, e.call ∈ w.racers first sub code → e.Calm u code)
    (hp : place ∈ w.racers first sub code) : Operation.Calm sub code (w.trace place) where
  found ho := by
    obtain ⟨v, hv, hreads⟩ := h.found place hp ho
    exact ⟨v, hv, hreads.isActive.trans ha⟩
  rejected ho := by
    have hsecret := h.asked place hp ho
    obtain ⟨e, he, rfl, hx⟩ := mem_trace.1 ho
    have hc := hcalm e he hp
    obtain ⟨call, m, d, q⟩ := e
    cases hx
    exact hc.rejected _ hsecret
  tried ho := by
    obtain ⟨e, he, rfl, hx⟩ := mem_trace.1 ho
    have hc := hcalm e he hp
    obtain ⟨hx', -⟩ := e.exchange_of_none hc.replies (congrArg Exchange.query hx)
    obtain ⟨d', hr, -⟩ := Directory.reply_consume hc.accepts e.moment.clock _ code
    rw [hr] at hx'
    cases hx'.symm.trans hx
    exact ⟨_, rfl⟩
  signed ho := by
    obtain ⟨e, he, rfl, hx⟩ := mem_trace.1 ho
    have hc := hcalm e he hp
    obtain ⟨call, m, d, q⟩ := e
    cases hx
    exact hc.signed _

theorem used_unique {v : User} {id : Int} {used used' : Bool} {more : Trace}
    (hmore : ∀ x ∈ more, ∃ c o, x = .sign c o)
    (h : .users (.consumeRecoveryCode id code) (.ok used') ∈
      Exchange.users (.findByPublicId sub) (.ok (some v)) ::
        (Operation.rejected v code ++ .users (.consumeRecoveryCode id code) (.ok used) :: more)) :
    used' = used := by
  rcases List.mem_cons.1 h with h | h
  · cases h
  rcases List.mem_append.1 h with h | h
  · exact (Operation.users_notMem_rejected h).elim
  rcases List.mem_cons.1 h with h | h
  · cases h
    rfl
  · obtain ⟨c, o, hc⟩ := hmore _ h
    cases hc

/-- A racer that has ended tried the code once, and that decided. -/
theorem Racing.ended (h : w.Racing first sub code u) (hw : w.Coherent s)
    (ha : u.isActive = true) (ho : s.policy.otpEnabled = true) (hsix : code.length = 6)
    (hcalm : ∀ e ∈ w.log, e.call ∈ w.racers first sub code → e.Calm u code)
    (hp : place ∈ w.racers first sub code) (hend : w.Ended place) :
    ∃ used : Bool, .users (.consumeRecoveryCode u.id code) (.ok used) ∈ w.trace place ∧
      (∀ {used' : Bool}, .users (.consumeRecoveryCode u.id code) (.ok used') ∈ w.trace place →
        used' = used) ∧
      if used then w.LetIn place else w.TurnedAway place := by
  have hc := h.calm_trace ha hcalm hp
  obtain ⟨call, r, hret⟩ := hend
  obtain ⟨-, c, hcall, htries⟩ := mem_racers.1 hp
  obtain ⟨claims, now, rfl, hscope, rfl⟩ := Call.tries_iff.1 htries
  have : call = .authenticateTwoFa claims ⟨code⟩ now := by
    rw [calls, List.getElem?_map, hret] at hcall
    exact Option.some.inj hcall
  subst this
  have hfaults : (TwoFaCodeRequest.mk code).faults = [] := by
    simp [TwoFaCodeRequest.faults, FieldRule.check, FieldRule.holds, hsix]
  obtain ⟨v, hwin | hlose⟩ :=
    Operation.ends_authenticateTwoFa_of_calm ho hscope hfaults hc (hw.after hret)
  · obtain ⟨token, tok, rfl, ht⟩ := hwin
    obtain ⟨v', hv', hreads⟩ := h.found place hp (ht ▸ List.mem_cons_self)
    cases hv'
    rw [hreads.id] at ht
    rw [ht]
    refine ⟨true, List.mem_cons_of_mem _ (List.mem_append_right _ List.mem_cons_self),
      fun hx => used_unique (by simp) hx, ?_⟩
    exact ⟨claims, _, now, tok, hret⟩
  · obtain ⟨rfl, ht⟩ := hlose
    obtain ⟨v', hv', hreads⟩ := h.found place hp (ht ▸ List.mem_cons_self)
    cases hv'
    rw [hreads.id] at ht
    rw [ht]
    refine ⟨false, List.mem_cons_of_mem _ (List.mem_append_right _ List.mem_cons_self),
      fun hx => used_unique (by simp) hx, ?_⟩
    exact ⟨claims, _, now, hret⟩

/-- A racer asks at most four questions. -/
theorem ended_or_short (hw : w.Coherent s) (hp : place ∈ w.racers first sub code) :
    w.Ended place ∨ (w.trace place).length < 4 := by
  obtain ⟨-, c, hcall, htries⟩ := mem_racers.1 hp
  obtain ⟨claims, now, rfl, -, rfl⟩ := Call.tries_iff.1 htries
  rw [calls, List.getElem?_map] at hcall
  obtain ⟨⟨call, rest⟩, hrun, hcall⟩ := Option.map_eq_some_iff.1 hcall
  cases hcall
  cases rest with
  | done r => exact .inl ⟨_, r, hrun⟩
  | ask q next =>
      refine .inr ?_
      have hasks : (s.operation _).Asks (w.trace place) q := ⟨next, hw.after hrun⟩
      rcases Operation.asks_authenticateTwoFa hasks with ⟨ht, -⟩ | ⟨v, t, ht, hcases⟩
      · rw [ht]
        exact Nat.zero_lt_succ 3
      · rw [ht, List.length_cons]
        rcases hcases with ⟨secret, -, rfl, -⟩ | ⟨rfl, -⟩ | ⟨hpassed, -⟩
        · exact Nat.lt_of_sub_pos (Nat.succ_pos 2)
        · exact Nat.lt_of_le_of_lt (Nat.succ_le_succ (Operation.length_rejected_le v code))
            (by decide)
        · have := hpassed.length_le
          omega

/-- The outcome of a race that is over. -/
theorem Racing.outcome (h : w.Racing first sub code u) (hw : w.Coherent s)
    (ha : u.isActive = true) (ho : s.policy.otpEnabled = true) (hsix : code.length = 6)
    (hcalm : ∀ e ∈ w.log, e.call ∈ w.racers first sub code → e.Calm u code)
    (hsome : w.racers first sub code ≠ [])
    (hend : ∀ place ∈ w.racers first sub code, w.Ended place) :
    w.directory.user? u.id = some ((DirectoryCall.consumeRecoveryCode u.id code).edit u) ∧
      ∃ winner ∈ w.racers first sub code, w.LetIn winner ∧
        ∀ place ∈ w.racers first sub code, place ≠ winner → w.TurnedAway place := by
  rcases h.decided with ⟨-, hnone⟩ | ⟨winner, hu, hwin, huse, hothers⟩
  · obtain ⟨place, hp⟩ := List.exists_mem_of_ne_nil _ hsome
    obtain ⟨used, htried, -⟩ := h.ended hw ha ho hsix hcalm hp (hend place hp)
    exact (hnone place hp _ htried).elim
  · refine ⟨hu, winner, hwin, ?_, ?_⟩
    · obtain ⟨used, -, hunique, hout⟩ := h.ended hw ha ho hsix hcalm hwin (hend winner hwin)
      cases hunique huse
      exact hout
    · intro place hp hne
      obtain ⟨used, htried, -, hout⟩ := h.ended hw ha ho hsix hcalm hp (hend place hp)
      cases used with
      | true => exact (hothers place hp hne htried).elim
      | false => exact hout

/-- Recovery codes are used once.  No more calls pass with a code than there are times
that it was stored; a code that was used up is not there until it is stored again; and
of any number of calls that race for a code, one gets a token and the others are turned
away, and the user only loses the code. -/
theorem recovery_codes_used_once (s : Service) (moves : List Move) :
    (∀ id code, ((empty.run s moves).passedBy id code).length ≤
      (empty.run s moves).log.countP fun e => e.exchange.stores id code) ∧
    (∀ id code before e after, (empty.run s moves).log = before ++ e :: after →
      e.exchange.uses id code = true → (∀ x ∈ after, x.exchange.stores id code = false) →
        (empty.run s moves).directory.holds id code = false) ∧
    ∀ later sub code u, Race s (empty.run s moves) ((empty.run s moves).run s later) sub code u →
      let w := (empty.run s moves).run s later
      let racers := w.racers (empty.run s moves).running.length sub code
      (∀ place ∈ racers, w.Ended place ∨ (w.trace place).length < 4) ∧
      (racers ≠ [] → (∀ place ∈ racers, w.Ended place) →
        w.directory.user? u.id =
          some { u with otpRecoveryCodes := u.otpRecoveryCodes.filter (· != code) } ∧
        ∃ winner ∈ racers, w.LetIn winner ∧
          ∀ place ∈ racers, place ≠ winner → w.TurnedAway place) := by
  refine ⟨?_, ?_, ?_⟩
  · intro id code
    have hpaid := (balanced_run s moves id code).paid
    exact Nat.le_trans (length_passedBy_le _ id code) (Nat.le_of_add_right_le hpaid)
  · intro id code
    exact (balanced_run s moves id code).gone
  · intro later sub code u h
    have hstart : (empty.run s moves).Coherent s := Coherent.empty.run moves
    have hw := hstart.run later
    have hr := h.racing hstart
    have hheld : (empty.run s moves).directory.holds u.id code = true :=
      Directory.holds_iff.2 ⟨u, List.mem_of_find?_eq_some h.named, rfl, h.held⟩
    exact ⟨fun place hp => ended_or_short hw hp,
      hr.outcome hw h.active h.enabled (length_of_holds s moves h.digits hheld) h.undisturbed.calm⟩

namespace Sample

/-- Two calls race for a code, and each of them reads the user before the other uses
the code up. -/
def race : List Move := [
  secondStep "123456", secondStep "123456", .turn 4 moment, .turn 5 moment, .turn 5 moment,
  .turn 4 moment, .turn 4 moment, .turn 5 moment, .turn 4 moment]

/-- The user before the race. -/
def user : User where
  id := 1
  publicId := "user"
  email := "a@b.co"
  firstName := "A"
  lastName := "B"
  passwordHash := Password.hash "password" []
  status := .activated
  activationCode := none
  resetPasswordCode := none
  otpSecret := some "secret"
  otpRecoveryCodes := ["123456", "654321"]
  otpEnabled := true
  createdAt := .ofSeconds 0
  updatedAt := .ofSeconds 1

/-- The world before the race. -/
def beforeRace : World := empty.run (service (.ofSeconds 900)) enrolment

/-- The world after the race. -/
def afterRace : World := beforeRace.run (service (.ofSeconds 900)) race

theorem moment_of_beforeRace : ∀ e ∈ beforeRace.log, e.moment = moment :=
  moment_of_run (P := (· = moment)) (by simp [empty])
    (by simp [enrolment, Move.moment?])

theorem moment_of_afterRace : ∀ e ∈ afterRace.log, e.moment = moment :=
  moment_of_run (P := (· = moment)) moment_of_beforeRace
    (by simp [race, secondStep, Move.moment?])

theorem race_undisturbed : afterRace.Undisturbed 4 beforeRace.log.length "user" "123456" user where
  calm e he _ := by
    have hm := moment_of_afterRace e he
    have haccepts : (afterRace.log.all fun e => !e.before.outbox.refusing) = true := rfl
    refine ⟨by rw [hm]; rfl, by simpa using List.all_eq_true.1 haccepts e he, ?_, ?_⟩
    · intro secret _
      rw [hm]
      rfl
    · intro c
      rw [hm]
      exact ⟨_, rfl⟩
  alone e he hp := by
    have hracers : ((afterRace.log.drop beforeRace.log.length).all fun e =>
      (afterRace.racers 4 "user" "123456").contains e.call) = true := rfl
    exact (hp (List.contains_iff_mem.1 (List.all_eq_true.1 hracers e he))).elim

theorem race_sixDigits : beforeRace.SixDigits := by
  intro e he count codes hx
  have hm := moment_of_beforeRace e he
  obtain ⟨call, m, d, q⟩ := e
  cases hm
  obtain ⟨rfl, hr⟩ := Exchange.mk.inj hx
  cases eq_of_heq hr
  decide

end Sample

open Sample in
/-- The first of two racers gets a token. -/
theorem recovery_codes_used_once_race : Race (service (.ofSeconds 900)) beforeRace afterRace
      "user" "123456" user ∧ afterRace.racers 4 "user" "123456" = [4, 5] ∧
    ∃ winner ∈ [4, 5], afterRace.LetIn winner ∧
      ∀ place ∈ [4, 5], place ≠ winner → afterRace.TurnedAway place := by
  have hrace : Race (service (.ofSeconds 900)) beforeRace afterRace "user" "123456" user :=
    ⟨rfl, rfl, rfl, by decide, race_sixDigits, race_undisturbed⟩
  obtain ⟨-, hout⟩ := (recovery_codes_used_once (service (.ofSeconds 900)) enrolment).2.2
    race "user" "123456" user hrace
  refine ⟨hrace, rfl, (hout (by decide) ?_).2⟩
  intro place hp
  rcases List.mem_pair.1 hp with rfl | rfl
  · exact ⟨_, _, rfl⟩
  · exact ⟨_, _, rfl⟩

end World

end Accounts
