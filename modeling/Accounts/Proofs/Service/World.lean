import Accounts.Proofs.Directory.Effect
import Accounts.Proofs.Service.Call
/-!
# Calls side by side

Any number of calls share a directory in memory.  Each of them asks one question in a
move, and between two of its questions the others move.  Every question is replied to
at once and as a whole: the directory may fail instead of replying, and what the engine
for the second factor and the signer reply is not restricted at all.

Everything that was asked is written down in a log, in the order in which it was asked
and with the directory as it was before.  The trace of a call is its part of the log;
that a call is always where its trace leads is shown once, in `World.Coherent`, and
`World.Stepped` says once what a move can be.
-/

namespace Accounts

open Operation (Trace)

/-! ## Moments -/

/-- What the surroundings of a question are like. -/
structure Moment where
  /-- The instant that the outbox writes down. -/
  clock : Instant
  /-- The directory fails with an error. -/
  failure : Option AccountError
  /-- What the engine for the second factor replies. -/
  otp : (q : OtpCall) → Except AccountError q.Result
  /-- What the signer replies. -/
  sign : Claims → Except AccountError String

/-- The reply to a question, and what it does to a directory. -/
def Moment.reply (m : Moment) (d : Directory) :
    (q : ServiceCall) → Except AccountError q.Result × Directory
  | .users c =>
    match m.failure with
    | none => d.reply m.clock c
    | some e => (.error e, d)
  | .otp c => (m.otp c, d)
  | .sign c => (m.sign c, d)

theorem Moment.reply_of_none {m : Moment} (h : m.failure = none) (d : Directory)
    (c : DirectoryCall) : m.reply d (.users c) = d.reply m.clock c := by
  simp only [reply, h]
  rfl

theorem Moment.reply_of_some {m : Moment} {e : AccountError} (h : m.failure = some e)
    (d : Directory) (c : DirectoryCall) : m.reply d (.users c) = (.error e, d) := by
  simp only [reply, h]

/-- A question that was asked. -/
structure Entry where
  /-- The place of the call that asked it. -/
  call : Nat
  /-- When it was asked. -/
  moment : Moment
  /-- The directory before. -/
  before : Directory
  /-- The question. -/
  query : ServiceCall

namespace Entry

/-- The reply to the question. -/
def reply (e : Entry) : Except AccountError e.query.Result := (e.moment.reply e.before e.query).1

/-- The directory afterwards. -/
def after (e : Entry) : Directory := (e.moment.reply e.before e.query).2

/-- The question with its reply. -/
def exchange (e : Entry) : Exchange serviceSurroundings := ⟨e.query, e.reply⟩

variable {e : Entry} {c : DirectoryCall}

/-- Only a request to the directory has an effect on it. -/
theorem effect (e : Entry) : e.after = e.before ∨
    ∃ c, e.query = .users c ∧ e.before.Effect e.moment.clock c e.after := by
  obtain ⟨call, m, d, q⟩ := e
  cases q with
  | users c =>
      cases hf : m.failure with
      | none =>
          refine .inr ⟨c, rfl, ?_⟩
          rw [after, Moment.reply_of_none hf]
          exact d.effect_reply m.clock c
      | some e =>
          refine .inl ?_
          rw [after, Moment.reply_of_some hf]
  | otp c => exact .inl rfl
  | sign c => exact .inl rfl

theorem numbered (h : e.before.Numbered) : e.after.Numbered := by
  rcases e.effect with he | ⟨c, -, he⟩
  · rwa [he]
  · exact he.numbered h

theorem numberedRows (h : e.before.outbox.Numbered) : e.after.outbox.Numbered := by
  rcases e.effect with he | ⟨c, -, he⟩
  · rwa [he]
  · exact he.numberedRows h

theorem exists_identity (e : Entry) {u : User} (hu : u ∈ e.before.users) :
    ∃ v ∈ e.after.users, v.identity = u.identity := by
  rcases e.effect with he | ⟨c, -, he⟩
  · exact ⟨u, he ▸ hu, rfl⟩
  · exact he.exists_identity hu

/-- A public name always names the same user. -/
theorem find_publicId (e : Entry) {publicId : String} {u : User}
    (hu : e.before.users.find? (·.publicId == publicId) = some u) :
    ∃ v, e.after.users.find? (·.publicId == publicId) = some v ∧ v.identity = u.identity := by
  rcases e.effect with he | ⟨c, -, he⟩
  · exact ⟨u, he ▸ hu, rfl⟩
  · exact he.find_publicId hu

/-- A directory that does not fail replies. -/
theorem exchange_of_none (hf : e.moment.failure = none) (hq : e.query = .users c) :
    e.exchange = .users c (e.before.reply e.moment.clock c).1 ∧
      e.after = (e.before.reply e.moment.clock c).2 := by
  obtain ⟨call, m, d, q⟩ := e
  cases hq
  rw [exchange, reply, after, Moment.reply_of_none hf]
  exact ⟨rfl, rfl⟩

/-- A directory that fails changes nothing. -/
theorem exchange_of_some {x : AccountError} (hf : e.moment.failure = some x)
    (hq : e.query = .users c) : e.exchange = .users c (.error x) ∧ e.after = e.before := by
  obtain ⟨call, m, d, q⟩ := e
  cases hq
  rw [exchange, reply, after, Moment.reply_of_some hf]
  exact ⟨rfl, rfl⟩

/-- A request that succeeds is replied to by the directory. -/
theorem reply_of_ok {r : c.Result} (h : e.exchange = .users c (.ok r)) :
    e.before.reply e.moment.clock c = (.ok r, e.after) := by
  have hq : e.query = .users c := congrArg Exchange.query h
  cases hf : e.moment.failure with
  | none =>
      obtain ⟨hx, hafter⟩ := exchange_of_none hf hq
      have hr := eq_of_heq (Exchange.mk.inj (hx.symm.trans h)).2
      exact Prod.ext hr hafter.symm
  | some x =>
      obtain ⟨hx, -⟩ := exchange_of_some hf hq
      cases hx.symm.trans h

/-- A request that has an effect is replied to by the directory. -/
theorem exchange_of_ne (hq : e.query = .users c) (hne : e.after ≠ e.before) :
    e.exchange = .users c (e.before.reply e.moment.clock c).1 ∧
      e.after = (e.before.reply e.moment.clock c).2 := by
  cases hf : e.moment.failure with
  | none => exact exchange_of_none hf hq
  | some x => exact (hne (exchange_of_some hf hq).2).elim

/-- Who is found by an address is there and has it. -/
theorem found_email {email : String} {u : User}
    (h : e.exchange = .users (.findByEmail email) (.ok (some u))) :
    u ∈ e.before.users ∧ u.email = email := by
  have hfind : e.before.users.find? (·.email == email) = some u :=
    Except.ok.inj (congrArg Prod.fst (reply_of_ok h))
  exact ⟨List.mem_of_find?_eq_some hfind, by simpa using List.find?_some hfind⟩

/-- Who is found by a public name is there and has it. -/
theorem found_publicId {publicId : String} {u : User}
    (h : e.exchange = .users (.findByPublicId publicId) (.ok (some u))) :
    u ∈ e.before.users ∧ u.publicId = publicId := by
  have hfind : e.before.users.find? (·.publicId == publicId) = some u :=
    Except.ok.inj (congrArg Prod.fst (reply_of_ok h))
  exact ⟨List.mem_of_find?_eq_some hfind, by simpa using List.find?_some hfind⟩

/-- Who is found by an activation code is there and waits for it. -/
theorem found_activationCode {code : String} {u : User}
    (h : e.exchange = .users (.findByActivationCode code) (.ok (some u))) :
    u ∈ e.before.users ∧ u.activationCode = some code := by
  have hfind : e.before.users.find? (·.activationCode == some code) = some u :=
    Except.ok.inj (congrArg Prod.fst (reply_of_ok h))
  exact ⟨List.mem_of_find?_eq_some hfind, by simpa using List.find?_some hfind⟩

end Entry

/-! ## Worlds -/

/-- A call that was made. -/
structure Running where
  /-- The call. -/
  call : Call
  /-- What it still has to do. -/
  rest : Dialogue serviceSurroundings (Except AccountError call.Result)

/-- Calls with their directory. -/
structure World where
  /-- The users and their outbox. -/
  directory : Directory
  /-- The calls that were made. -/
  running : List Running
  /-- What was asked so far. -/
  log : List Entry

namespace World

/-- Nobody is there, and nothing was asked. -/
def empty : World := ⟨.empty, [], []⟩

/-- What happens next. -/
inductive Move
  /-- A call is made. -/
  | start (call : Call)
  /-- The call at a place asks its next question. -/
  | turn (place : Nat) (moment : Moment)
  /-- From now on the outbox stores nothing, or it stores things again. -/
  | refuse (refusing : Bool)

/-- A question of the call at a place is replied to. -/
def replied (w : World) (e : Entry) (rest : Running) : World :=
  ⟨e.after, w.running.set e.call rest, w.log ++ [e]⟩

/-- The call at a place asks its next question. -/
def turn (w : World) (place : Nat) (m : Moment) : World :=
  match w.running[place]? with
  | some ⟨call, .ask q next⟩ =>
    let e : Entry := ⟨place, m, w.directory, q⟩
    w.replied e ⟨call, next e.reply⟩
  | _ => w

/-- The outbox stores nothing from now on, or it stores things again. -/
def refuse (w : World) (refusing : Bool) : World :=
  { w with directory := { w.directory with outbox := { w.directory.outbox with refusing } } }

/-- What a move does. -/
def step (s : Service) (w : World) : Move → World
  | .start call => { w with running := w.running ++ [⟨call, (s.operation call).run⟩] }
  | .turn place m => w.turn place m
  | .refuse refusing => w.refuse refusing

/-- What some moves do, one after another. -/
def run (s : Service) (w : World) (moves : List Move) : World := moves.foldl (step s) w

/-- The calls that were made. -/
def calls (w : World) : List Call := w.running.map Running.call

/-- What a call asked so far. -/
def trace (w : World) (place : Nat) : Trace :=
  (w.log.filter (·.call == place)).map Entry.exchange

/-- A call has ended with a result. -/
def Returned (w : World) (place : Nat) (call : Call) (r : Except AccountError call.Result) : Prop :=
  w.running[place]? = some ⟨call, .done r⟩

/-! ## Traces -/

section Trace

variable {w : World} {place : Nat} {e : Entry} {rest : Running}

theorem trace_replied (w : World) (e : Entry) (rest : Running) (place : Nat) :
    (w.replied e rest).trace place =
      w.trace place ++ if e.call = place then [e.exchange] else [] := by
  rw [trace, replied, List.filter_append, List.map_append, trace]
  congr 1
  split
  · next h => simp [h]
  · next h => simp [h]

theorem mem_trace {x : Exchange serviceSurroundings} :
    x ∈ w.trace place ↔ ∃ e ∈ w.log, e.call = place ∧ e.exchange = x := by
  simp [trace, and_assoc]

theorem mem_trace_replied {x : Exchange serviceSurroundings} :
    x ∈ (w.replied e rest).trace place ↔
      x ∈ w.trace place ∨ (e.call = place ∧ x = e.exchange) := by
  rw [trace_replied, List.mem_append]
  split
  · next h => simp [h]
  · next h => simp [h]

/-- A call that asks goes on as the same call. -/
theorem calls_replied (h : w.calls[e.call]? = some rest.call) :
    (w.replied e rest).calls = w.calls := by
  rw [calls, replied, List.map_set]
  obtain ⟨hlt, hcall⟩ := List.getElem?_eq_some_iff.1 h
  rw [← hcall]
  exact List.set_getElem_self hlt

end Trace

/-- Every call is where its trace leads, and users and rows are numbered. -/
structure Coherent (s : Service) (w : World) : Prop where
  /-- A call goes on as it does after its trace. -/
  after : ∀ {place : Nat} {r : Running}, w.running[place]? = some r →
    (s.operation r.call).run.After (w.trace place) r.rest
  /-- Only calls that were made ask. -/
  made : ∀ e ∈ w.log, e.call < w.running.length
  /-- The users are numbered. -/
  numbered : w.directory.Numbered
  /-- The rows are numbered. -/
  numberedRows : w.directory.outbox.Numbered
  /-- The users have always been numbered. -/
  recorded : ∀ e ∈ w.log, e.before.Numbered

/-- What a move can be. -/
inductive Stepped (s : Service) (w : World) : World → Prop
  /-- Nothing happens. -/
  | idle : Stepped s w w
  /-- A call is made. -/
  | started (call : Call) : Stepped s w (w.step s (.start call))
  /-- A call asks a question that it asks after its trace. -/
  | turned (e : Entry) (rest : Running) (here : w.calls[e.call]? = some rest.call)
      (before : e.before = w.directory)
      (asks : (s.operation rest.call).Asks (w.trace e.call) e.query) :
      Stepped s w (w.replied e rest)
  /-- The outbox is switched. -/
  | refused (refusing : Bool) : Stepped s w (w.refuse refusing)

/-- No call is forgotten. -/
theorem Stepped.calls {s : Service} {w w' : World} (h : Stepped s w w') : w.calls <+: w'.calls := by
  cases h with
  | idle => exact List.prefix_rfl
  | started call =>
      rw [World.calls, World.calls, step, List.map_append]
      exact List.prefix_append _ _
  | turned e rest here => exact (calls_replied here).symm ▸ List.prefix_rfl
  | refused refusing => exact List.prefix_rfl

theorem Stepped.getElem?_calls {s : Service} {w w' : World} (h : Stepped s w w') {place : Nat}
    {c : Call} (hc : w.calls[place]? = some c) : w'.calls[place]? = some c := by
  obtain ⟨hlt, rfl⟩ := List.getElem?_eq_some_iff.1 hc
  exact List.prefix_iff_getElem?.1 h.calls place hlt

namespace Coherent

variable {s : Service} {w : World}

theorem empty : Coherent s empty where
  after := by simp [World.empty]
  made := by simp [World.empty]
  numbered := Directory.numbered_empty
  numberedRows := Outbox.Store.numbered_empty
  recorded := by simp [World.empty]

theorem trace_eq_nil (h : w.Coherent s) {place : Nat} (hp : w.running.length ≤ place) :
    w.trace place = [] := by
  rw [trace, List.map_eq_nil_iff, List.filter_eq_nil_iff]
  intro e he hcall
  have := h.made e he
  have : e.call = place := by simpa using hcall
  omega

theorem start (h : w.Coherent s) (call : Call) : Coherent s (w.step s (.start call)) := by
  refine ⟨?_, ?_, h.numbered, h.numberedRows, h.recorded⟩
  · intro place r hr
    rcases Nat.lt_or_ge place w.running.length with hlt | hle
    · exact h.after ((List.getElem?_append_left hlt).symm.trans hr)
    · have ht : (w.step s (.start call)).trace place = [] := h.trace_eq_nil hle
      have hnew := (List.getElem?_append_right hle).symm.trans hr
      rw [List.getElem?_singleton] at hnew
      split at hnew
      · cases hnew
        rw [ht]
        exact .start _
      · cases hnew
  · intro e he
    have := h.made e he
    simp only [step, List.length_append]
    omega

/-- A call that is replied to goes on with the reply. -/
theorem replied (h : w.Coherent s) {e : Entry} {call : Call}
    {next : serviceSurroundings.Reply e.query →
      Dialogue serviceSurroundings (Except AccountError call.Result)}
    (here : w.running[e.call]? = some ⟨call, .ask e.query next⟩) (hb : e.before = w.directory) :
    Coherent s (w.replied e ⟨call, next e.reply⟩) := by
  have hnum : e.before.Numbered := hb ▸ h.numbered
  refine ⟨?_, ?_, e.numbered hnum, e.numberedRows (hb ▸ h.numberedRows), ?_⟩
  · intro place r hr
    rw [trace_replied]
    by_cases hp : e.call = place
    · subst hp
      rw [World.replied, List.getElem?_set_self (List.getElem?_eq_some_iff.1 here).1] at hr
      cases hr
      rw [if_pos rfl]
      exact (h.after here).snoc e.reply
    · rw [World.replied, List.getElem?_set_ne hp] at hr
      rw [if_neg hp, List.append_nil]
      exact h.after hr
  · intro e' he'
    rw [World.replied, List.length_set]
    rcases List.mem_append.1 he' with he' | he'
    · exact h.made e' he'
    · rw [List.mem_singleton.1 he']
      exact (List.getElem?_eq_some_iff.1 here).1
  · intro e' he'
    rcases List.mem_append.1 he' with he' | he'
    · exact h.recorded e' he'
    · rw [List.mem_singleton.1 he']
      exact hnum

/-- A move is one of those that are listed, and every call still is where its trace
leads. -/
theorem step (h : w.Coherent s) (m : Move) :
    Coherent s (w.step s m) ∧ Stepped s w (w.step s m) := by
  cases m with
  | start call => exact ⟨h.start call, .started call⟩
  | refuse refusing =>
      exact ⟨⟨h.after, h.made, h.numbered, h.numberedRows, h.recorded⟩, .refused refusing⟩
  | turn place m =>
      rw [World.step, turn]
      split
      · next call q next here =>
          have hcall : w.calls[place]? = some call := by
            rw [calls, List.getElem?_map, here]
            rfl
          exact ⟨h.replied here rfl,
            .turned ⟨place, m, w.directory, q⟩ _ hcall rfl ⟨next, h.after here⟩⟩
      · exact ⟨h, .idle⟩

end Coherent

/-- What holds at a start and is kept by every move holds from there on. -/
theorem run_induction {s : Service} {P : World → Prop} {w : World} (hw : w.Coherent s) (start : P w)
    (step : ∀ {v v' : World}, v.Coherent s → P v → Stepped s v v' → P v') (moves : List Move) :
    (w.run s moves).Coherent s ∧ P (w.run s moves) := by
  induction moves generalizing w with
  | nil => exact ⟨hw, start⟩
  | cons m moves ih =>
      obtain ⟨hc, hs⟩ := hw.step m
      exact ih hc (step hw start hs)

theorem Coherent.run {s : Service} {w : World} (hw : w.Coherent s) (moves : List Move) :
    (w.run s moves).Coherent s :=
  (run_induction (P := fun _ => True) hw trivial (fun _ _ _ => trivial) moves).1

/-- The moment of a move. -/
def Move.moment? : Move → Option Moment
  | .turn _ m => some m
  | _ => none

/-- What is true of the moments of all moves is true of the moments in the log. -/
theorem moment_of_run {s : Service} {P : Moment → Prop} {w : World}
    (hw : ∀ e ∈ w.log, P e.moment) {moves : List Move}
    (h : ∀ m ∈ moves.filterMap Move.moment?, P m) : ∀ e ∈ (w.run s moves).log, P e.moment := by
  induction moves generalizing w with
  | nil => exact hw
  | cons move moves ih =>
      refine ih ?_ fun m hm => h m ?_
      · cases move with
        | start call => exact hw
        | refuse refusing => exact hw
        | turn place m =>
            rw [step, turn]
            split
            · intro e he
              rcases List.mem_append.1 he with he | he
              · exact hw e he
              · rw [List.mem_singleton.1 he]
                exact h m List.mem_cons_self
            · exact hw
      · obtain ⟨move', hmem, hm⟩ := List.mem_filterMap.1 hm
        exact List.mem_filterMap.2 ⟨move', List.mem_cons_of_mem _ hmem, hm⟩

/-! ## A small world -/

namespace Sample

/-- Everything succeeds, and the current code of every secret is `000000`. -/
def moment : Moment where
  clock := .ofSeconds 0
  failure := none
  otp
    | .generate _ => .ok (⟨"secret", "uri"⟩ : Otp.OtpSetup)
    | .validate _ code => .ok (code == "000000")
    | .recoveryCodes _ => .ok ["123456", "654321"]
  sign _ := .ok "token"

/-- Services that ask for a second factor, with sessions of a given length. -/
def service (sessionTtl : Span) : Service where
  policy := ⟨true, sessionTtl, .ofSeconds 300⟩
  recoveryCodes := 2
  issuer := .secret []

/-- The claims of the only user. -/
def claims (scope : Scope) : Claims := ⟨"user", "a@b.co", [scope], 0, 0⟩

/-- An account is made and activated, and gets a second factor. -/
def enrolment : List Move := [
  .start (.register ⟨"A", "B", "a@b.co", "password"⟩ ⟨"user", "code", [], .ofSeconds 0⟩),
  .turn 0 moment,
  .start (.activate "code" (.ofSeconds 1)), .turn 1 moment, .turn 1 moment,
  .start (.enableStep1 (claims .user)), .turn 2 moment, .turn 2 moment, .turn 2 moment,
  .start (.enableStep2 (claims .user) ⟨"000000"⟩), .turn 3 moment, .turn 3 moment,
  .turn 3 moment, .turn 3 moment]

/-- A call of the second step. -/
def secondStep (code : String) : Move :=
  .start (.authenticateTwoFa (claims .twoFaCheck) ⟨code⟩ (.ofSeconds 2))

end Sample

end World

end Accounts
