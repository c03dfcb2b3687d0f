import Accounts.Database.Session
import Accounts.Proofs.Operation.Trace
/-!
# When a session commits

`Session.Prepares` says of a part of a session that it sends no commit, and what was asked and
replied where it succeeds.  `Session.Disciplined` says of a whole session that it commits at
most once, after everything that has to come before, and that its result tells what became of
the commit.  Both are shown part by part along the code: what prepares may come before what is
disciplined, and what ends quietly with the same result may come after it.

Nothing is said about the database: it may fail any question, and answer a statement with any
rows.
-/

namespace Accounts

variable {α β δ ε : Type}

namespace Dialogue

variable {I : Interface} {q : I.Query} {g : I.Reply q → α} {t : List (Exchange I)}

theorem after_ask_done {p : Dialogue I α} (h : (ask q fun r => done (g r)).After t p) :
    t = [] ∨ ∃ r, t = [⟨q, r⟩] := by
  cases h with
  | start => exact .inl rfl
  | @reply _ _ r _ _ h =>
      obtain ⟨rfl, -⟩ := after_done_iff.1 h
      exact .inr ⟨r, rfl⟩

theorem ends_ask_done {a : α} (h : (ask q fun r => done (g r)).Ends t a) :
    ∃ r, t = [⟨q, r⟩] ∧ a = g r := by
  obtain ⟨r, t', rfl, hr⟩ := ends_ask_iff.1 h
  obtain ⟨rfl, ha⟩ := ends_done_iff.1 hr
  exact ⟨r, rfl, ha⟩

theorem asks_ask_done {q' : I.Query} (h : (ask q fun r => done (g r)).Asks t q') :
    t = [] ∧ q' = q := by
  rcases asks_ask_iff.1 h with h | ⟨r, t', -, h⟩
  · exact h
  · exact (not_asks_done h).elim

end Dialogue

namespace Database

def isCommit : Exchange sessionSurroundings → Bool
  | ⟨.command .commit, _⟩ => true
  | _ => false

namespace Session

/-- The questions of a session with their replies. -/
abbrev Trace := List (Exchange sessionSurroundings)

/-- No commit was sent. -/
abbrev Uncommitted (t : Trace) : Prop := t.countP isCommit = 0

/-- A session ends with a result after a trace. -/
def Ends (s : Session ε α) (t : Trace) (r : Except ε α) : Prop := Dialogue.Ends s.run t r

/-- A session asks a question after a trace. -/
def Asks (s : Session ε α) (t : Trace) (q : SessionCall) : Prop :=
  Dialogue.Asks (I := sessionSurroundings) s.run t q

/-- A session, and then what follows on its result, be it an error or not. -/
def andThen (s : Session ε α) (g : Except ε α → Session δ β) : Session δ β :=
  ExceptT.mk (s.run.bind fun r => (g r).run)

theorem bind_eq_andThen (s : Session ε α) (f : α → Session ε β) :
    (s >>= f) = s.andThen fun
      | .ok a => f a
      | .error e => throw e := by
  refine congrArg (Dialogue.bind s.run) (funext fun r => ?_)
  cases r <;> rfl

theorem orGiveUp_eq_andThen (s : Session ε α) :
    s.orGiveUp = s.andThen fun
      | .ok a => pure a
      | .error e => giveUp e := by
  refine congrArg (Dialogue.bind s.run) (funext fun r => ?_)
  cases r <;> rfl

theorem mapFailure_eq_andThen (s : Session ε α) (f : ε → δ) :
    s.mapFailure f = s.andThen fun
      | .ok a => pure a
      | .error e => throw (f e) := by
  refine congrArg (Dialogue.bind s.run) (funext fun r => ?_)
  cases r <;> rfl

/-! ## Before the commit -/

theorem not_asks_commit {p : Dialogue sessionSurroundings α}
    (h : ∀ {t p'}, p.After t p' → Uncommitted t) {t : Trace} :
    ¬ p.Asks t (.command .commit) := by
  rintro ⟨next, hnext⟩
  -- Whatever is replied, the trace that goes on would hold a commit.
  have hcount := h (hnext.snoc (.ok ()))
  rw [Uncommitted, List.countP_append] at hcount
  exact absurd (Nat.eq_zero_of_add_eq_zero_left hcount) Nat.one_ne_zero

/-- A session sends no commit, and where it succeeds its result and trace are related. -/
structure Prepares (s : Session ε α) (ran : α → Trace → Prop) : Prop where
  silent : ∀ {t p}, s.run.After t p → Uncommitted t
  ran : ∀ {t a}, s.Ends t (.ok a) → ran a t

variable {s : Session ε α} {f : α → Session ε β} {g : Except ε α → Session δ β}
  {fail : DatabaseError → ε} {ran : α → Trace → Prop} {ran' : β → Trace → Prop}

namespace Prepares

theorem mono (h : s.Prepares ran) {ran' : α → Trace → Prop} (himp : ∀ a t, ran a t → ran' a t) :
    s.Prepares ran' where
  silent := h.silent
  ran hp := himp _ _ (h.ran hp)

theorem done {x : Except ε α} (h : ∀ a, x = .ok a → ran a []) :
    Prepares (ExceptT.mk (.done x)) ran where
  silent hp := by
    obtain ⟨rfl, -⟩ := Dialogue.after_done_iff.1 hp
    rfl
  ran hp := by
    obtain ⟨rfl, ha⟩ := Dialogue.ends_done_iff.1 hp
    exact h _ ha.symm

theorem pure {a : α} (h : ran a []) : (pure a : Session ε α).Prepares ran := by
  refine done fun b hb => ?_
  cases hb
  exact h

theorem throw {e : ε} : (throw e : Session ε α).Prepares ran := by
  refine done fun a ha => ?_
  cases ha

/-- One question that is no commit. -/
theorem ask {q : SessionCall} {g : q.Reply → Except ε α}
    (hq : ∀ r, isCommit ⟨q, r⟩ = false) (h : ∀ r a, g r = .ok a → ran a [⟨q, r⟩]) :
    Prepares (ExceptT.mk (.ask (I := sessionSurroundings) q fun r => .done (g r))) ran where
  silent hp := by
    rcases Dialogue.after_ask_done hp with rfl | ⟨r, rfl⟩
    · rfl
    · simp [Uncommitted, hq]
  ran hp := by
    obtain ⟨r, rfl, ha⟩ := Dialogue.ends_ask_done hp
    exact h r _ ha.symm

theorem lettingGo {x : Except ε α} (h : ∀ a, x = .ok a → ran a [⟨.abandon, ()⟩]) :
    Prepares (ExceptT.mk (.ask (I := sessionSurroundings) .abandon fun _ => .done x)) ran :=
  ask (fun _ => rfl) fun _ => h

theorem giveUp {e : ε} : (giveUp e : Session ε α).Prepares ran := by
  refine lettingGo fun a ha => ?_
  cases ha

theorem command {c : Command} (hc : c ≠ .commit) :
    (command c fail).Prepares fun _ t => t = [⟨.command c, .ok ()⟩] := by
  refine ask (fun r => ?_) fun r a ha => ?_
  · cases c with
    | commit => exact (hc rfl).elim
    | start => rfl
    | rollback => rfl
  · cases r with
    | ok u => rfl
    | error e => cases ha

theorem within {q : Statement} :
    (within q fail).Prepares fun a t => t = [⟨.within q, .ok a⟩] := by
  refine ask (fun r => rfl) fun r a ha => ?_
  cases r with
  | ok a' =>
      cases ha
      rfl
  | error e => cases ha

theorem andThen (h : s.Prepares ran)
    (hok : ∀ a t₁, ran a t₁ → (g (.ok a)).Prepares fun b t₂ => ran' b (t₁ ++ t₂))
    (herror : ∀ e, (g (.error e)).Prepares fun _ _ => False) : (s.andThen g).Prepares ran' where
  silent hp := by
    rcases Dialogue.after_bind (p := s.run) hp with ⟨m, hm, -⟩ | ⟨r, t₁, t₂, rfl, h₁, h₂⟩
    · exact h.silent hm
    · rw [Uncommitted, List.countP_append, h.silent h₁, Nat.zero_add]
      cases r with
      | ok a => exact (hok a t₁ (h.ran h₁)).silent h₂
      | error e => exact (herror e).silent h₂
  ran hp := by
    obtain ⟨r, t₁, t₂, rfl, h₁, h₂⟩ := Dialogue.ends_bind (p := s.run) hp
    cases r with
    | ok a => exact (hok a t₁ (h.ran h₁)).ran h₂
    | error e => exact ((herror e).ran h₂).elim

theorem bind (h : s.Prepares ran)
    (hf : ∀ a t₁, ran a t₁ → (f a).Prepares fun b t₂ => ran' b (t₁ ++ t₂)) :
    (s >>= f).Prepares ran' := by
  rw [bind_eq_andThen]
  exact h.andThen hf fun _ => throw

theorem orGiveUp (h : s.Prepares ran) : s.orGiveUp.Prepares ran := by
  rw [orGiveUp_eq_andThen]
  refine h.andThen (fun a t ha => pure ?_) fun _ => giveUp
  rwa [List.append_nil]

theorem mapFailure {f : ε → δ} (h : s.Prepares ran) : (s.mapFailure f).Prepares ran := by
  rw [mapFailure_eq_andThen]
  refine h.andThen (fun a t ha => pure ?_) fun _ => throw
  rwa [List.append_nil]

end Prepares

/-! ## The commit and what follows it -/

/-- A result follows on another one: it is the same error, or it is kept as the other is. -/
def Follows (keeps : α → Prop) (keeps' : β → Prop) : Except ε α → Except ε β → Prop
  | .ok a, .ok b => keeps' b ↔ keeps a
  | .error e, .error e' => e' = e
  | _, _ => False

/-- A session commits at most once and only when all is ready, and its result says what became
of the commit: a result that is kept comes after a commit that was acknowledged, and any other
result after none, but for the error of the commit itself. -/
structure Disciplined (s : Session ε α) (ready : Trace → Prop) (keeps : α → Prop)
    (fail : DatabaseError → ε) : Prop where
  /-- No commit is sent twice. -/
  once : ∀ {t p}, s.run.After t p → t.countP isCommit ≤ 1
  /-- A commit is sent only when all is ready. -/
  ready : ∀ {t}, s.Asks t (.command .commit) → ready t
  /-- What is kept was committed. -/
  kept : ∀ {t a}, s.Ends t (.ok a) → keeps a → ⟨.command .commit, .ok ()⟩ ∈ t
  /-- What is not kept was not committed. -/
  dropped : ∀ {t a}, s.Ends t (.ok a) → ¬ keeps a → Uncommitted t
  /-- An error comes without a commit, or from the commit. -/
  failed : ∀ {t e}, s.Ends t (.error e) → Uncommitted t ∨
    ∃ f, (⟨.command .commit, .error f⟩ : Exchange sessionSurroundings) ∈ t ∧ e = fail f

namespace Disciplined

variable {ready : Trace → Prop} {keeps : α → Prop} {keeps' : β → Prop}

theorem mono (h : s.Disciplined ready keeps fail) {ready' : Trace → Prop}
    (himp : ∀ t, ready t → ready' t) : s.Disciplined ready' keeps fail where
  once := h.once
  ready hp := himp _ (h.ready hp)
  kept := h.kept
  dropped := h.dropped
  failed := h.failed

/-- Where nothing is kept, nothing has to be committed. -/
theorem of_prepares (ran : α → Trace → Prop) (h : s.Prepares ran)
    (hkeeps : ∀ a t, ran a t → ¬ keeps a) : s.Disciplined ready keeps fail where
  once hp := by
    rw [h.silent hp]
    exact Nat.zero_le 1
  ready hp := (not_asks_commit h.silent hp).elim
  kept hp ha := (hkeeps _ _ (h.ran hp) ha).elim
  dropped hp _ := h.silent hp
  failed hp := .inl (h.silent hp)

theorem throw {e : ε} : (throw e : Session ε α).Disciplined ready keeps fail :=
  of_prepares (fun _ _ => False) .throw fun _ _ => False.elim

theorem commit (h : ready []) :
    (command .commit fail).Disciplined ready (fun _ => True) fail where
  once hp := by
    rcases Dialogue.after_ask_done hp with rfl | ⟨r, rfl⟩
    · exact Nat.zero_le 1
    · exact List.countP_le_length
  ready hp := by
    obtain ⟨rfl, -⟩ := Dialogue.asks_ask_done hp
    exact h
  kept hp _ := by
    obtain ⟨r, rfl, ha⟩ := Dialogue.ends_ask_done hp
    cases r with
    | ok u => exact List.mem_singleton.2 rfl
    | error e => cases ha
  dropped _ hkeeps := (hkeeps trivial).elim
  failed hp := by
    obtain ⟨r, rfl, ha⟩ := Dialogue.ends_ask_done hp
    cases r with
    | ok u => cases ha
    | error e =>
        cases ha
        exact .inr ⟨e, List.mem_singleton.2 rfl, rfl⟩

/-- What sends no commit may come before. -/
theorem prefixed {s : Session δ α} {g : Except δ α → Session ε β} (h : s.Prepares ran)
    (hg : ∀ r t₁, s.Ends t₁ r → (g r).Disciplined (fun t₂ => ready (t₁ ++ t₂)) keeps' fail) :
    (s.andThen g).Disciplined ready keeps' fail where
  once hp := by
    rcases Dialogue.after_bind (p := s.run) hp with ⟨m, hm, -⟩ | ⟨r, t₁, t₂, rfl, h₁, h₂⟩
    · rw [h.silent hm]
      exact Nat.zero_le 1
    · rw [List.countP_append, h.silent h₁, Nat.zero_add]
      exact (hg r t₁ h₁).once h₂
  ready hp := by
    rcases Dialogue.asks_bind (p := s.run) hp with hp | ⟨r, t₁, t₂, rfl, h₁, h₂⟩
    · exact (not_asks_commit h.silent hp).elim
    · exact (hg r t₁ h₁).ready h₂
  kept hp hb := by
    obtain ⟨r, t₁, t₂, rfl, h₁, h₂⟩ := Dialogue.ends_bind (p := s.run) hp
    exact List.mem_append_right t₁ ((hg r t₁ h₁).kept h₂ hb)
  dropped hp hb := by
    obtain ⟨r, t₁, t₂, rfl, h₁, h₂⟩ := Dialogue.ends_bind (p := s.run) hp
    rw [Uncommitted, List.countP_append, h.silent h₁, Nat.zero_add]
    exact (hg r t₁ h₁).dropped h₂ hb
  failed hp := by
    obtain ⟨r, t₁, t₂, rfl, h₁, h₂⟩ := Dialogue.ends_bind (p := s.run) hp
    rw [Uncommitted, List.countP_append, h.silent h₁, Nat.zero_add]
    rcases (hg r t₁ h₁).failed h₂ with hnone | ⟨f, hmem, he⟩
    · exact .inl hnone
    · exact .inr ⟨f, List.mem_append_right t₁ hmem, he⟩

theorem after (h : s.Prepares ran)
    (hf : ∀ a t₁, ran a t₁ → (f a).Disciplined (fun t₂ => ready (t₁ ++ t₂)) keeps' fail) :
    (s >>= f).Disciplined ready keeps' fail := by
  rw [bind_eq_andThen]
  refine prefixed h fun r t₁ h₁ => ?_
  cases r with
  | ok a => exact hf a t₁ (h.ran h₁)
  | error e => exact throw

/-- What sends no commit may come after, if it ends with the same result. -/
theorem andThen {g : Except ε α → Session ε β} (h : s.Disciplined ready keeps fail)
    (hquiet : ∀ r, (g r).Prepares fun _ _ => True)
    (hends : ∀ r {t r'}, (g r).Ends t r' → Follows keeps keeps' r r') :
    (s.andThen g).Disciplined ready keeps' fail where
  once hp := by
    rcases Dialogue.after_bind (p := s.run) hp with ⟨m, hm, -⟩ | ⟨r, t₁, t₂, rfl, h₁, h₂⟩
    · exact h.once hm
    · rw [List.countP_append, (hquiet r).silent h₂]
      exact h.once h₁
  ready hp := by
    rcases Dialogue.asks_bind (p := s.run) hp with hp | ⟨r, t₁, t₂, rfl, -, h₂⟩
    · exact h.ready hp
    · exact (not_asks_commit (hquiet r).silent h₂).elim
  kept hp hb := by
    obtain ⟨r, t₁, t₂, rfl, h₁, h₂⟩ := Dialogue.ends_bind (p := s.run) hp
    cases r with
    | ok a => exact List.mem_append_left t₂ (h.kept h₁ ((hends _ h₂).1 hb))
    | error e => exact (hends _ h₂).elim
  dropped hp hb := by
    obtain ⟨r, t₁, t₂, rfl, h₁, h₂⟩ := Dialogue.ends_bind (p := s.run) hp
    cases r with
    | ok a =>
        rw [Uncommitted, List.countP_append, (hquiet _).silent h₂]
        exact h.dropped h₁ (mt (hends _ h₂).2 hb)
    | error e => exact (hends _ h₂).elim
  failed hp := by
    obtain ⟨r, t₁, t₂, rfl, h₁, h₂⟩ := Dialogue.ends_bind (p := s.run) hp
    cases r with
    | ok a => exact (hends _ h₂).elim
    | error e =>
        cases (show _ = e from hends _ h₂)
        rw [Uncommitted, List.countP_append, (hquiet _).silent h₂]
        rcases h.failed h₁ with hnone | ⟨f, hmem, he⟩
        · exact .inl hnone
        · exact .inr ⟨f, List.mem_append_left t₂ hmem, he⟩

theorem map {g : α → β} (h : s.Disciplined ready keeps fail)
    (hkeeps : ∀ a, keeps' (g a) ↔ keeps a) : (g <$> s).Disciplined ready keeps' fail := by
  rw [← bind_pure_comp, bind_eq_andThen]
  refine h.andThen (fun r => ?_) fun r t r' hp => ?_
  · cases r with
    | ok a => exact .pure trivial
    | error e => exact .throw
  · cases r with
    | ok a =>
        cases (Dialogue.ends_done_iff.1 hp).2
        exact hkeeps a
    | error e =>
        cases (Dialogue.ends_done_iff.1 hp).2
        rfl

theorem orGiveUp (h : s.Disciplined ready keeps fail) :
    s.orGiveUp.Disciplined ready keeps fail := by
  rw [orGiveUp_eq_andThen]
  refine h.andThen (fun r => ?_) fun r t r' hp => ?_
  · cases r with
    | ok a => exact .pure trivial
    | error e => exact .giveUp
  · cases r with
    | ok a =>
        cases (Dialogue.ends_done_iff.1 hp).2
        exact Iff.rfl
    | error e =>
        obtain ⟨_, -, rfl⟩ := Dialogue.ends_ask_done hp
        rfl

/-- Work in a transaction is disciplined, if it prepares what has to be ready, and what it
returns says whether it is kept. -/
theorem transaction {fail : Command → DatabaseError → ε} {work : Session ε (Ending × α)}
    (ran : Ending × α → Trace → Prop) (h : work.Prepares ran)
    (hcommit : ∀ a t, ran (.commit, a) t → keeps a ∧ ready (⟨.command .start, .ok ()⟩ :: t))
    (hrollback : ∀ a t, ran (.rollback, a) t → ¬ keeps a) :
    (transaction fail work).Disciplined ready keeps (fail .commit) := by
  refine after (Prepares.command (by decide)) fun _ t₀ ht₀ => ?_
  subst ht₀
  refine orGiveUp (after h ?_)
  rintro ⟨ending, a⟩ t hran
  cases ending with
  | commit =>
      obtain ⟨ha, hready⟩ := hcommit a t hran
      have hdone : (command .commit (fail .commit)).Disciplined
          (fun t' => ready ([⟨.command .start, .ok ()⟩] ++ (t ++ t'))) _ _ :=
        commit (by simpa using hready)
      exact hdone.map (g := fun _ => a) fun _ => iff_of_true ha trivial
  | rollback =>
      have hundone : (command .rollback (fail .rollback) >>= fun _ => pure a).Prepares
          fun b _ => b = a :=
        Prepares.bind (.command (by decide)) fun _ _ _ => .pure rfl
      refine of_prepares _ hundone ?_
      rintro b - rfl
      exact hrollback b t hran

end Disciplined

end Session

end Database

end Accounts
