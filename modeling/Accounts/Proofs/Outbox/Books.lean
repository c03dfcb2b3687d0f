import Accounts.Proofs.Outbox.Stopping
/-!
# What a cycle adds to the figures

A cycle that marks a row counts it, once, and returns what it counted; a cycle that marks none
counts nothing and returns that nothing waited, or an error.  Between the mark and the count others
may move.  A *book* says how far a cycle came with that.  It follows from what the cycle asked and
from the replies alone, and `Book.follows_cycle` says that the code of a cycle keeps to it.

What a relay marks is a row that waits, as it holds the claim on it, so its marks are the
transitions of rows that it makes (`Fleet.Sound.turned_eq`).
-/

namespace Accounts.Outbox

/-! ## Deliveries and failures in numbers -/

/-- How often an end of a cycle is a delivery, or a failure. -/
def Outcome.counts (delivered : Bool) : Outcome → Nat
  | .idle => 0
  | .delivered _ => delivered.toNat
  | .failed _ => (!delivered).toNat

/-- How often what a cycle returns is a delivery, or a failure. -/
def Outcome.countsOf (delivered : Bool) : Except OutboxError Outcome → Nat
  | .ok o => o.counts delivered
  | .error _ => 0

namespace RelayCall

/-- How often a delivery, or a failure, is counted. -/
def counts (delivered : Bool) : RelayCall → Nat
  | .count o => o.counts delivered
  | _ => 0

/-- How often a row is marked as delivered, or as failed. -/
def marks (delivered : Bool) (q : RelayCall) (r : q.Reply) : Nat :=
  match q.marked? r with
  | some (_, status) => if status = Clients.verdict delivered then 1 else 0
  | none => 0

end RelayCall

/-- The counter of the deliveries, or of the failures. -/
def Metrics.counter (m : Metrics) (delivered : Bool) : Nat :=
  if delivered then m.delivered else m.failed

theorem Metrics.counter_count (m : Metrics) (o : Outcome) (delivered : Bool) :
    (m.count o).counter delivered = m.counter delivered + o.counts delivered := by
  cases delivered <;> cases o <;> rfl

/-! ## Books -/

/-- How far a cycle came with its count. -/
inductive Book
  /-- It marked no row. -/
  | blank
  /-- It marked a row, and this is to be counted. -/
  | marked (o : Outcome)
  /-- It counted the row. -/
  | counted (o : Outcome)

namespace Book

/-- The book after a question and its reply. -/
def after : Book → (q : RelayCall) → q.Reply → Book
  | blank, .mark id .done, .ok () => marked (.delivered id)
  | blank, .mark id .error, .ok () => marked (.failed id)
  | marked _, .count o, () => counted o
  | b, _, _ => b

/-- The questions that may be asked. -/
def Allows : Book → RelayCall → Prop
  | blank, .mark _ status => status = .done ∨ status = .error
  | _, .mark _ _ => False
  | marked o, .count o' => o' = o
  | _, .count _ => False
  | _, _ => True

/-- What may be returned. -/
def Closes : Book → Except OutboxError Outcome → Prop
  | blank, r => r = .ok .idle ∨ ∃ e, r = .error e
  | marked _, _ => False
  | counted o, r => r = .ok o

/-- The rest of a cycle keeps the book. -/
def Follows : Book → Relaying (Except OutboxError Outcome) → Prop
  | b, .done r => b.Closes r
  | b, .ask q next => b.Allows q ∧ ∀ r, (b.after q r).Follows (next r)

/-- How many marks as delivered, or as failed, are in the book. -/
def marks (delivered : Bool) : Book → Nat
  | blank => 0
  | marked o | counted o => o.counts delivered

/-- How many of them are counted. -/
def counts (delivered : Bool) : Book → Nat
  | blank | marked _ => 0
  | counted o => o.counts delivered

theorem follows_finishDelivered (e : Envelope) : blank.Follows (finishDelivered e) := by
  refine ⟨.inl rfl, fun marked => ?_⟩
  match marked with
  | .ok () => exact ⟨trivial, fun _ => ⟨rfl, fun _ => ⟨trivial, fun _ => rfl⟩⟩⟩
  | .error f => exact ⟨trivial, fun _ => .inr ⟨f, rfl⟩⟩

theorem follows_finishRefused (e : Envelope) (reason : OutboxError) :
    blank.Follows (finishRefused e reason) := by
  refine ⟨trivial, fun _ => ⟨.inr rfl, fun marked => ?_⟩⟩
  match marked with
  | .ok () => exact ⟨trivial, fun _ => ⟨rfl, fun _ => rfl⟩⟩
  | .error f => exact ⟨trivial, fun _ => .inr ⟨f, rfl⟩⟩

/-- A cycle keeps its book. -/
theorem follows_cycle : blank.Follows cycle := by
  refine ⟨trivial, fun claim => ?_⟩
  match claim with
  | .error f => exact .inr ⟨f, rfl⟩
  | .ok none => exact .inl rfl
  | .ok (some e) =>
      refine ⟨trivial, fun taken => ?_⟩
      match taken with
      | .ok () => exact follows_finishDelivered e
      | .error reason => exact follows_finishRefused e reason

variable {b : Book} {q : RelayCall}

/-- A question adds to both sides of the book what it marks and what it counts. -/
theorem after_adds (h : b.Allows q) (r : q.Reply) (delivered : Bool) :
    (b.after q r).marks delivered = b.marks delivered + q.marks delivered r ∧
      (b.after q r).counts delivered = b.counts delivered + q.counts delivered := by
  cases q with
  | claim | publish | release | note => cases b <;> exact ⟨rfl, rfl⟩
  | count o =>
      cases b with
      | blank => exact h.elim
      | counted o' => exact h.elim
      | marked o' =>
          obtain rfl : o = o' := h
          exact ⟨rfl, (Nat.zero_add _).symm⟩
  | mark id status =>
      cases b with
      | marked o => exact h.elim
      | counted o => exact h.elim
      | blank =>
          match r with
          | .error f => obtain rfl | rfl := h <;> exact ⟨rfl, rfl⟩
          | .ok () => obtain rfl | rfl := h <;> cases delivered <;> exact ⟨rfl, rfl⟩

theorem counts_le_marks (b : Book) (delivered : Bool) : b.counts delivered ≤ b.marks delivered := by
  cases b with
  | blank => exact Nat.le_refl 0
  | marked o => exact Nat.zero_le _
  | counted o => exact Nat.le_refl _

theorem marks_le_one (b : Book) (delivered : Bool) : b.marks delivered ≤ 1 := by
  have hone (o : Outcome) : o.counts delivered ≤ 1 := by
    cases o <;> cases delivered <;> simp [Outcome.counts]
  cases b with
  | blank => exact Nat.zero_le 1
  | marked o | counted o => exact hone o

/-- What is returned is what is marked, and that is counted. -/
theorem countsOf_of_closes {r : Except OutboxError Outcome} (h : b.Closes r) (delivered : Bool) :
    b.marks delivered = Outcome.countsOf delivered r ∧
      b.counts delivered = Outcome.countsOf delivered r := by
  cases b with
  | blank => obtain rfl | ⟨e, rfl⟩ := h <;> exact ⟨rfl, rfl⟩
  | marked o => exact h.elim
  | counted o =>
      obtain rfl : r = .ok o := h
      exact ⟨rfl, rfl⟩

end Book

/-! ## Rows that are delivered or fail -/

namespace Store

/-- How many rows waited before and are delivered, or failed, afterwards. -/
def turned (delivered : Bool) (before after : Store) : Nat :=
  (before.rows.zip after.rows).countP fun rows =>
    rows.1.status == .created && rows.2.status == Clients.verdict delivered

variable {s s' : Store} {e : Envelope}

theorem turned_of_map {f : Envelope → Envelope} (h : s'.rows = s.rows.map f) (delivered : Bool) :
    turned delivered s s' =
      s.rows.countP fun x => x.status == .created && (f x).status == Clients.verdict delivered := by
  have hzip : s.rows.zip (s.rows.map f) = s.rows.map fun x => (x, f x) := by
    rw [← List.zip_map', List.map_id']
  rw [turned, h, hzip, List.countP_map]
  rfl

theorem verdict_ne_created (delivered : Bool) : Status.created ≠ Clients.verdict delivered := by
  cases delivered <;> decide

theorem turned_of_rows (h : s'.rows = s.rows) (delivered : Bool) : turned delivered s s' = 0 := by
  rw [turned_of_map (f := id) (by rw [h, List.map_id]), List.countP_eq_zero]
  intro x _ hx
  simp only [Bool.and_eq_true, beq_iff_eq] at hx
  exact verdict_ne_created delivered (hx.1.symm.trans hx.2)

/-- To mark a row that waits makes a transition of this row and of no other. -/
theorem turned_setStatus (hn : s.Numbered) (he : e ∈ s.rows) (hcreated : e.status = .created)
    (now : Instant) (status : Status) (delivered : Bool) :
    turned delivered s (s.setStatus now e.id status) =
      if status = Clients.verdict delivered then 1 else 0 := by
  have hone : s.rows.countP (·.id == e.id) = 1 := by
    have hcount := List.count_eq_one_of_mem hn.nodup_ids (List.mem_map_of_mem he)
    rwa [List.count, List.countP_map] at hcount
  have hrow : ∀ x ∈ s.rows, (x.status == .created &&
      (marked now e.id status x).status == Clients.verdict delivered) =
        (x.id == e.id && status == Clients.verdict delivered) := by
    intro x hx
    by_cases hid : x.id = e.id
    · obtain rfl : x = e := hn.eq_of_id hx he hid
      simp [marked, hcreated]
    · rw [marked_of_ne hid]
      have hnot := verdict_ne_created delivered
      grind
  rw [turned_of_map (f := marked now e.id status) rfl,
    List.countP_congr fun x hx => iff_of_eq (congrArg (· = true) (hrow x hx))]
  split
  · next h => simpa [h] using hone
  · next h => simp [h]

end Store

/-- The rows that were marked by a deed of a relay that counts. -/
def Deed.turns (delivered : Bool) (d : Deed) : Nat :=
  if d.metered then Store.turned delivered d.site.store d.after.store else 0

/-- How often a deed counts. -/
def Deed.counts (delivered : Bool) (d : Deed) : Nat :=
  if d.metered then d.query.counts delivered else 0

theorem Timeline.turned_mark {w : Timeline} {e : Envelope} {others : List Claim}
    (h : Clients.Orderly w.store (⟨e, false⟩ :: others)) (metered : Bool) (status : Status)
    (delivered : Bool) :
    Store.turned delivered w.store (w.reply metered (.mark e.id status)).2.store =
      RelayCall.marks delivered (.mark e.id status) (w.reply metered (.mark e.id status)).1 := by
  obtain ⟨hmem, hcreated⟩ := h.waiting _ List.mem_cons_self rfl
  have hreply : w.reply metered (.mark e.id status) =
      (.ok (), { w with store := w.store.setStatus w.clock e.id status }) := by
    simp only [reply, (h.mark w.clock status).1]
  rw [hreply]
  exact Store.turned_setStatus h.numbered hmem hcreated w.clock status delivered

/-- A relay makes a transition of a row just when it marks one. -/
theorem Fleet.Sound.turned_eq {f : Fleet} (h : f.Sound) {place : Nat} {n : Runner}
    (hn : f.runners[place]? = some n) {st : Stage} {q : RelayCall}
    {next : q.Reply → Relaying (Except OutboxError Outcome)}
    (hpost : n.post = .cycling st (.ask q next)) (delivered : Bool) :
    Store.turned delivered f.site.store (f.site.reply n.metered q).2.store =
      q.marks delivered (f.site.reply n.metered q).1 := by
  have hsame (hrows : (f.site.reply n.metered q).2.store.rows = f.site.store.rows) :=
    Store.turned_of_rows hrows delivered
  cases q with
  | claim => exact hsame (Store.rows_claim f.site.store)
  | publish | release | note => exact hsame rfl
  | count o => exact hsame (by rw [Timeline.store_reply_count])
  | mark id status =>
      have horderly := h.orderly.perm (held_at hn)
      rw [show n.post.stage = st by rw [hpost]; rfl] at horderly
      have hallows := ((h.regular place n hn).follows _ _ hpost).1
      cases st with
      | sent e | refused e =>
          obtain ⟨rfl, -⟩ := hallows
          exact Timeline.turned_mark horderly n.metered status delivered
      | free | claimed | settled => exact hallows.elim

end Accounts.Outbox
