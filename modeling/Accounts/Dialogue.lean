/-!
# Dialogues

A dialogue asks questions of its surroundings, one at a time, and ends with a
result.  What can be asked, and what kind of reply each question has, is an
`Interface`.  A dialogue says nothing about who replies: the same dialogue runs
against users in memory, against a database or against an adversary, alone or
with others in between.

`Dialogue.run` lets a monad reply.  Dialogues are a monad themselves, so one dialogue
can reply to another (`Dialogue.run` with dialogues of another interface).
-/

namespace Accounts

/-- What can be asked, and the kind of reply that each question has. -/
structure Interface where
  /-- The questions. -/
  Query : Type
  /-- The replies to a question. -/
  Reply : Query → Type

/-- A dialogue with results of type `α`. -/
inductive Dialogue (I : Interface) (α : Type) : Type
  /-- The dialogue is over. -/
  | done (result : α)
  /-- The dialogue waits for the reply to a question. -/
  | ask (query : I.Query) (next : I.Reply query → Dialogue I α)

namespace Dialogue

variable {I : Interface} {α β γ : Type}

/-- One dialogue after another. -/
def bind : Dialogue I α → (α → Dialogue I β) → Dialogue I β
  | done a, f => f a
  | ask q next, f => ask q fun r => (next r).bind f

instance : Monad (Dialogue I) where
  pure := done
  bind := bind

/-- The dialogue that asks one question and ends with the reply. -/
def query (q : I.Query) : Dialogue I (I.Reply q) := ask q done

/-- Runs a dialogue with the replies of a monad. -/
def run {m : Type → Type} [Monad m] (reply : (q : I.Query) → m (I.Reply q)) :
    Dialogue I α → m α
  | done a => pure a
  | ask q next => reply q >>= fun r => (next r).run reply

theorem bind_done (p : Dialogue I α) : p.bind done = p := by
  induction p with
  | done a => rfl
  | ask q next ih => simp [bind, ih]

theorem bind_assoc (p : Dialogue I α) (f : α → Dialogue I β) (g : β → Dialogue I γ) :
    (p.bind f).bind g = p.bind fun a => (f a).bind g := by
  induction p with
  | done a => rfl
  | ask q next ih => simp [bind, ih]

instance : LawfulMonad (Dialogue I) :=
  LawfulMonad.mk' (Dialogue I) bind_done (fun _ _ => rfl) bind_assoc

end Dialogue

end Accounts
