import Accounts.Operation.Enrolment
import Accounts.Operation.Login
import Accounts.Operation.Passwords
import Accounts.Operation.Registration
import Mathlib.Data.List.Induction
/-!
# What an operation asks, and when

A *trace* is the list of the questions that a dialogue asked so far, each with the
reply that it got.  `Dialogue.After p t p'` says that the dialogue `p` goes on as
`p'` after the trace `t`.  Nothing is said about who replies, so what holds of all
traces of an operation holds whatever the others do in between.

Two things are read off a trace: the question that comes next (`Operation.Asks`) and
the result (`Operation.Ends`).  Both are computed part by part along the code of an
operation: there is one rewriting rule for each of the parts that operations are made
of, for the part at the end and for the part with something after it.
-/

namespace Accounts

/-! ## Traces of dialogues -/

/-- What does not hold again once it held holds once at most. -/
theorem countP_le_one {α : Type} {p : α → Bool} {l : List α}
    (h : ∀ past x rest, l = past ++ x :: rest → p x = true → ∀ y ∈ past, p y = false) :
    l.countP p ≤ 1 := by
  induction l using List.reverseRecOn with
  | nil => exact Nat.zero_le 1
  | append_singleton l x ih =>
      rw [List.countP_append, List.countP_singleton]
      split
      · next hx =>
          have hnone := List.countP_eq_zero.2 fun y hy =>
            ne_true_of_eq_false (h l x [] rfl hx y hy)
          omega
      · refine ih fun past y rest hl hy => h past y (rest ++ [x]) ?_ hy
        rw [hl]
        simp

/-- A question with its reply. -/
structure Exchange (I : Interface) where
  /-- The question. -/
  query : I.Query
  /-- The reply. -/
  reply : I.Reply query

namespace Dialogue

variable {I : Interface} {α β : Type}

/-- A dialogue goes on as another one after a trace. -/
inductive After : Dialogue I α → List (Exchange I) → Dialogue I α → Prop
  /-- Nothing was asked yet. -/
  | start (p : Dialogue I α) : After p [] p
  /-- A question was replied to. -/
  | reply {q : I.Query} {next : I.Reply q → Dialogue I α} {r : I.Reply q}
      {t : List (Exchange I)} {p : Dialogue I α} (h : After (next r) t p) :
      After (ask q next) (⟨q, r⟩ :: t) p

theorem After.snoc {p : Dialogue I α} {t : List (Exchange I)} {q : I.Query}
    {next : I.Reply q → Dialogue I α} (h : p.After t (ask q next)) (r : I.Reply q) :
    p.After (t ++ [⟨q, r⟩]) (next r) := by
  generalize hp : ask q next = p' at h
  induction h with
  | start p =>
      subst hp
      exact .reply (.start _)
  | reply _ ih => exact .reply (ih hp)

theorem after_done_iff {a : α} {t : List (Exchange I)} {p : Dialogue I α} :
    (done a : Dialogue I α).After t p ↔ t = [] ∧ p = done a := by
  constructor
  · intro h
    cases h
    exact ⟨rfl, rfl⟩
  · rintro ⟨rfl, rfl⟩
    exact .start _

/-- A dialogue ends with a result after a trace. -/
def Ends (p : Dialogue I α) (t : List (Exchange I)) (a : α) : Prop := p.After t (done a)

/-- A dialogue asks a question after a trace. -/
def Asks (p : Dialogue I α) (t : List (Exchange I)) (q : I.Query) : Prop :=
  ∃ next, p.After t (ask q next)

/-- Every question of a trace is one that is asked after the questions before it. -/
theorem After.asks {p p' : Dialogue I α} {t t' : List (Exchange I)} {x : Exchange I}
    (h : p.After (t ++ x :: t') p') : p.Asks t x.query := by
  induction t generalizing p with
  | nil =>
      cases h with
      | reply h => exact ⟨_, .start _⟩
  | cons y t ih =>
      cases h with
      | reply h =>
          obtain ⟨next, hnext⟩ := ih h
          exact ⟨next, .reply hnext⟩

theorem ends_done_iff {a b : α} {t : List (Exchange I)} :
    (done a : Dialogue I α).Ends t b ↔ t = [] ∧ b = a := by
  rw [Ends, after_done_iff, done.injEq]

theorem not_asks_done {a : α} {t : List (Exchange I)} {q : I.Query} :
    ¬ (done a : Dialogue I α).Asks t q := by
  rintro ⟨next, h⟩
  cases h

theorem ends_ask_iff {q : I.Query} {next : I.Reply q → Dialogue I α} {t : List (Exchange I)}
    {a : α} : (ask q next).Ends t a ↔ ∃ r t', t = ⟨q, r⟩ :: t' ∧ (next r).Ends t' a := by
  constructor
  · intro h
    cases h with
    | reply h => exact ⟨_, _, rfl, h⟩
  · rintro ⟨r, t', rfl, h⟩
    exact .reply h

theorem asks_ask_iff {q q' : I.Query} {next : I.Reply q → Dialogue I α}
    {t : List (Exchange I)} : (ask q next).Asks t q' ↔
      (t = [] ∧ q' = q) ∨ ∃ r t', t = ⟨q, r⟩ :: t' ∧ (next r).Asks t' q' := by
  constructor
  · rintro ⟨k, h⟩
    cases h with
    | start => exact .inl ⟨rfl, rfl⟩
    | reply h => exact .inr ⟨_, _, rfl, k, h⟩
  · rintro (⟨rfl, rfl⟩ | ⟨r, t', rfl, k, h⟩)
    · exact ⟨next, .start _⟩
    · exact ⟨k, .reply h⟩

/-- A dialogue with something after it is in one part or in the other. -/
theorem after_bind {p : Dialogue I α} {f : α → Dialogue I β} {t : List (Exchange I)}
    {p' : Dialogue I β} (h : (p.bind f).After t p') : (∃ m, p.After t m ∧ p' = m.bind f) ∨
      ∃ a t₁ t₂, t = t₁ ++ t₂ ∧ p.Ends t₁ a ∧ (f a).After t₂ p' := by
  induction p generalizing t with
  | done a => exact .inr ⟨a, [], t, rfl, .start _, h⟩
  | ask q next ih =>
      cases h with
      | start => exact .inl ⟨_, .start _, rfl⟩
      | reply h =>
          rcases ih _ h with ⟨m, hm, rfl⟩ | ⟨a, t₁, t₂, rfl, h₁, h₂⟩
          · exact .inl ⟨m, .reply hm, rfl⟩
          · exact .inr ⟨a, _ :: t₁, t₂, rfl, .reply h₁, h₂⟩

theorem ends_bind {p : Dialogue I α} {f : α → Dialogue I β} {t : List (Exchange I)} {b : β}
    (h : (p.bind f).Ends t b) :
    ∃ a t₁ t₂, t = t₁ ++ t₂ ∧ p.Ends t₁ a ∧ (f a).Ends t₂ b := by
  rcases after_bind h with ⟨m, hm, hb⟩ | h
  · cases m with
    | done a =>
        refine ⟨a, t, [], t.append_nil.symm, hm, ?_⟩
        rw [show f a = done b from hb.symm]
        exact .start _
    | ask q next => cases hb
  · exact h

theorem asks_bind {p : Dialogue I α} {f : α → Dialogue I β} {t : List (Exchange I)}
    {q : I.Query} (h : (p.bind f).Asks t q) : p.Asks t q ∨
      ∃ a t₁ t₂, t = t₁ ++ t₂ ∧ p.Ends t₁ a ∧ (f a).Asks t₂ q := by
  obtain ⟨next, h⟩ := h
  rcases after_bind h with ⟨m, hm, hq⟩ | ⟨a, t₁, t₂, ht, h₁, h₂⟩
  · cases m with
    | done a =>
        refine .inr ⟨a, t, [], t.append_nil.symm, hm, next, ?_⟩
        rw [show f a = ask q next from hq.symm]
        exact .start _
    | ask q' next' =>
        cases hq
        exact .inl ⟨next', hm⟩
  · exact .inr ⟨a, t₁, t₂, ht, h₁, next, h₂⟩

end Dialogue

/-! ## Traces of operations -/

/-- A question to the directory with its reply. -/
abbrev Exchange.users (c : DirectoryCall) (r : Except AccountError c.Result) :
    Exchange serviceSurroundings := ⟨.users c, r⟩

/-- A question to the engine with its reply. -/
abbrev Exchange.otp (c : OtpCall) (r : Except AccountError c.Result) :
    Exchange serviceSurroundings := ⟨.otp c, r⟩

/-- A question to the signer with its reply. -/
abbrev Exchange.sign (c : Claims) (r : Except AccountError String) :
    Exchange serviceSurroundings := ⟨.sign c, r⟩

namespace Operation

/-- The questions of an operation with their replies. -/
abbrev Trace := List (Exchange serviceSurroundings)

variable {α β : Type} {t : Trace} {q : serviceSurroundings.Query} {r : Except AccountError β}
  {a : α} {b : β} {e : AccountError}

/-- An operation ends with a result after a trace. -/
def Ends (op : Operation α) (t : Trace) (r : Except AccountError α) : Prop :=
  Dialogue.Ends op.run t r

/-- An operation asks a question after a trace. -/
def Asks (op : Operation α) (t : Trace) (q : serviceSurroundings.Query) : Prop :=
  Dialogue.Asks op.run t q

/-! ### Questions -/

/-- The operation that asks one question. -/
def question (q : serviceSurroundings.Query) : Operation q.Result := ExceptT.mk (.query q)

theorem run_question_bind {f : q.Result → Operation β} :
    (question q >>= f).run = .ask q fun
      | .ok a => (f a).run
      | .error e => .done (.error e) := by
  show Dialogue.ask q _ = _
  congr 1
  funext r
  cases r <;> rfl

theorem ends_question {r : serviceSurroundings.Reply q} :
    (question q).Ends t r ↔ t = [⟨q, r⟩] := by
  show Dialogue.Ends (.ask q .done) t r ↔ _
  rw [Dialogue.ends_ask_iff]
  constructor
  · rintro ⟨r', t', rfl, h⟩
    obtain ⟨rfl, rfl⟩ := Dialogue.ends_done_iff.1 h
    rfl
  · rintro rfl
    exact ⟨r, [], rfl, .start _⟩

theorem asks_question {q' : serviceSurroundings.Query} :
    (question q).Asks t q' ↔ t = [] ∧ q' = q := by
  show Dialogue.Asks (.ask q .done) t q' ↔ _
  rw [Dialogue.asks_ask_iff]
  constructor
  · rintro (h | ⟨r, t', rfl, h⟩)
    · exact h
    · exact (Dialogue.not_asks_done h).elim
  · exact .inl

theorem ends_question_bind {f : q.Result → Operation β} : (question q >>= f).Ends t r ↔
    (∃ a t', t = ⟨q, .ok a⟩ :: t' ∧ (f a).Ends t' r) ∨
      ∃ e, t = [⟨q, .error e⟩] ∧ r = .error e := by
  rw [Ends, run_question_bind, Dialogue.ends_ask_iff]
  constructor
  · rintro ⟨x, t', rfl, h⟩
    cases x with
    | ok a => exact .inl ⟨a, t', rfl, h⟩
    | error e =>
        obtain ⟨rfl, rfl⟩ := Dialogue.ends_done_iff.1 h
        exact .inr ⟨e, rfl, rfl⟩
  · rintro (⟨a, t', rfl, h⟩ | ⟨e, rfl, rfl⟩)
    · exact ⟨.ok a, t', rfl, h⟩
    · exact ⟨.error e, [], rfl, .start _⟩

theorem ends_question_bind_ok {f : q.Result → Operation β}
    (h : (question q >>= f).Ends t (.ok b)) :
    ∃ a t', t = ⟨q, .ok a⟩ :: t' ∧ (f a).Ends t' (.ok b) := by
  rcases ends_question_bind.1 h with h | ⟨e, -, he⟩
  · exact h
  · cases he

theorem asks_question_bind {f : q.Result → Operation β} {q' : serviceSurroundings.Query} :
    (question q >>= f).Asks t q' ↔
      (t = [] ∧ q' = q) ∨ ∃ a t', t = ⟨q, .ok a⟩ :: t' ∧ (f a).Asks t' q' := by
  rw [Asks, run_question_bind, Dialogue.asks_ask_iff]
  apply or_congr_right
  constructor
  · rintro ⟨x, t', rfl, h⟩
    cases x with
    | ok a => exact ⟨a, t', rfl, h⟩
    | error e => exact (Dialogue.not_asks_done h).elim
  · rintro ⟨a, t', rfl, h⟩
    exact ⟨.ok a, t', rfl, h⟩

section Questions

variable {c : DirectoryCall} {o : OtpCall} {k : Claims}

@[simp] theorem ends_users {r : Except AccountError c.Result} :
    (users c).Ends t r ↔ t = [.users c r] := ends_question

@[simp] theorem asks_users : (users c).Asks t q ↔ t = [] ∧ q = .users c := asks_question

@[simp] theorem ends_users_bind {f : c.Result → Operation β} : (users c >>= f).Ends t r ↔
    (∃ a t', t = .users c (.ok a) :: t' ∧ (f a).Ends t' r) ∨
      ∃ e, t = [.users c (.error e)] ∧ r = .error e := ends_question_bind

@[simp] theorem asks_users_bind {f : c.Result → Operation β} : (users c >>= f).Asks t q ↔
    (t = [] ∧ q = .users c) ∨ ∃ a t', t = .users c (.ok a) :: t' ∧ (f a).Asks t' q :=
  asks_question_bind

theorem ends_users_bind_ok {f : c.Result → Operation β} (h : (users c >>= f).Ends t (.ok b)) :
    ∃ a t', t = .users c (.ok a) :: t' ∧ (f a).Ends t' (.ok b) := ends_question_bind_ok h

@[simp] theorem ends_otp_bind {f : o.Result → Operation β} : (otp o >>= f).Ends t r ↔
    (∃ a t', t = .otp o (.ok a) :: t' ∧ (f a).Ends t' r) ∨
      ∃ e, t = [.otp o (.error e)] ∧ r = .error e := ends_question_bind

@[simp] theorem asks_otp_bind {f : o.Result → Operation β} : (otp o >>= f).Asks t q ↔
    (t = [] ∧ q = .otp o) ∨ ∃ a t', t = .otp o (.ok a) :: t' ∧ (f a).Asks t' q :=
  asks_question_bind

theorem ends_otp_bind_ok {f : o.Result → Operation β} (h : (otp o >>= f).Ends t (.ok b)) :
    ∃ a t', t = .otp o (.ok a) :: t' ∧ (f a).Ends t' (.ok b) := ends_question_bind_ok h

@[simp] theorem ends_sign_bind {f : String → Operation β} : (sign k >>= f).Ends t r ↔
    (∃ a t', t = .sign k (.ok a) :: t' ∧ (f a).Ends t' r) ∨
      ∃ e, t = [.sign k (.error e)] ∧ r = .error e := ends_question_bind

theorem ends_sign_bind_ok {f : String → Operation β} (h : (sign k >>= f).Ends t (.ok b)) :
    ∃ a t', t = .sign k (.ok a) :: t' ∧ (f a).Ends t' (.ok b) := ends_question_bind_ok h

@[simp] theorem asks_sign_bind {f : String → Operation β} : (sign k >>= f).Asks t q ↔
    (t = [] ∧ q = .sign k) ∨ ∃ a t', t = .sign k (.ok a) :: t' ∧ (f a).Asks t' q :=
  asks_question_bind

end Questions

/-! ### Parts that ask nothing -/

@[simp] theorem ends_pure {r : Except AccountError α} :
    (pure a : Operation α).Ends t r ↔ t = [] ∧ r = .ok a := Dialogue.ends_done_iff

@[simp] theorem asks_pure : ¬ (pure a : Operation α).Asks t q := Dialogue.not_asks_done

@[simp] theorem ends_throw {r : Except AccountError α} :
    (throw e : Operation α).Ends t r ↔ t = [] ∧ r = .error e := Dialogue.ends_done_iff

@[simp] theorem asks_throw : ¬ (throw e : Operation α).Asks t q := Dialogue.not_asks_done

@[simp] theorem asks_ofExcept {x : Except AccountError α} : ¬ (ofExcept x).Asks t q :=
  Dialogue.not_asks_done

@[simp] theorem ends_ofExcept_bind {x : Except AccountError α} {f : α → Operation β} :
    (ofExcept x >>= f).Ends t r ↔ (∃ a, x = .ok a ∧ (f a).Ends t r) ∨
      ∃ e, x = .error e ∧ t = [] ∧ r = .error e := by
  cases x with
  | ok a =>
      rw [show (ofExcept (.ok a) >>= f) = f a from rfl]
      simp
  | error e =>
      rw [show (ofExcept (.error e) >>= f) = throw e from rfl]
      simp

theorem ends_ofExcept_bind_ok {x : Except AccountError α} {f : α → Operation β}
    (h : (ofExcept x >>= f).Ends t (.ok b)) : ∃ a, x = .ok a ∧ (f a).Ends t (.ok b) := by
  simpa using h

@[simp] theorem asks_ofExcept_bind {x : Except AccountError α} {f : α → Operation β} :
    (ofExcept x >>= f).Asks t q ↔ ∃ a, x = .ok a ∧ (f a).Asks t q := by
  cases x with
  | ok a =>
      rw [show (ofExcept (.ok a) >>= f) = f a from rfl]
      simp
  | error e =>
      rw [show (ofExcept (.error e) >>= f) = throw e from rfl]
      simp

section Conditions

variable {condition : Bool} {f : Unit → Operation β} {faults : List FieldFault}

@[simp] theorem ends_ensure {r : Except AccountError Unit} :
    (ensure condition e).Ends t r ↔ t = [] ∧ r = if condition then .ok () else .error e := by
  cases condition <;> simp [ensure]

@[simp] theorem asks_ensure : ¬ (ensure condition e).Asks t q := by
  cases condition <;> simp [ensure]

@[simp] theorem ends_ensure_bind : (ensure condition e >>= f).Ends t r ↔
    (condition = true ∧ (f ()).Ends t r) ∨ (condition = false ∧ t = [] ∧ r = .error e) := by
  cases condition <;> simp [ensure]

theorem ends_ensure_bind_ok (h : (ensure condition e >>= f).Ends t (.ok b)) :
    condition = true ∧ (f ()).Ends t (.ok b) := by
  simpa using h

@[simp] theorem asks_ensure_bind :
    (ensure condition e >>= f).Asks t q ↔ condition = true ∧ (f ()).Asks t q := by
  cases condition <;> simp [ensure]

theorem ends_validate_bind_ok (h : (validate faults >>= f).Ends t (.ok b)) :
    faults.isEmpty = true ∧ (f ()).Ends t (.ok b) := ends_ensure_bind_ok h

@[simp] theorem asks_validate_bind :
    (validate faults >>= f).Asks t q ↔ faults.isEmpty = true ∧ (f ()).Asks t q :=
  asks_ensure_bind

end Conditions

@[simp] theorem asks_orFail {o : Option α} : ¬ (orFail e o).Asks t q := by
  cases o <;> simp [orFail]

@[simp] theorem ends_orFail_bind {o : Option α} {f : α → Operation β} :
    (orFail e o >>= f).Ends t r ↔
      (∃ a, o = some a ∧ (f a).Ends t r) ∨ (o = none ∧ t = [] ∧ r = .error e) := by
  cases o <;> simp [orFail]

theorem ends_orFail_bind_ok {o : Option α} {f : α → Operation β}
    (h : (orFail e o >>= f).Ends t (.ok b)) : ∃ a, o = some a ∧ (f a).Ends t (.ok b) := by
  simpa using h

@[simp] theorem asks_orFail_bind {o : Option α} {f : α → Operation β} :
    (orFail e o >>= f).Asks t q ↔ ∃ a, o = some a ∧ (f a).Asks t q := by
  cases o <;> simp [orFail]

end Operation

end Accounts
