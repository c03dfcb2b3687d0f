import Accounts.Proofs.Outbox.Rows
/-!
# The life of a row

Any number of clients share an outbox.  They store events, claim rows, mark what they
claimed and let go of it, and an operator puts back what failed.  A claim is marked at
most once; from then on it can only be let go of.  Marking and letting go are two moves,
because others may move in between.

`Clients.Orderly` ties the locked numbers to the live claims: marking overwrites a status
without looking at it, and letting go unlocks a row without asking who holds it, so
neither would be right without it.  `Clients.Fate` lists what a move can make of a row.
-/

namespace Accounts.Outbox

/-- A claim that is alive. -/
structure Claim where
  /-- The envelope as it was when it was claimed. -/
  envelope : Envelope
  /-- It was marked and can only be let go of. -/
  marked : Bool

/-- An outbox and the live claims on it, whoever holds them. -/
structure Clients where
  /-- The outbox. -/
  store : Store
  /-- The live claims. -/
  claims : List Claim

namespace Clients

/-- What a client does. -/
inductive Move
  /-- Events are stored. -/
  | append (now : Instant) (events : List NewEnvelope)
  /-- From now on nothing can be stored, or things can be stored again. -/
  | refuse (refusing : Bool)
  /-- The next few claims fail. -/
  | failClaims (count : Nat)
  /-- A row is claimed. -/
  | claim
  /-- The claim at a place is marked as delivered or as failed. -/
  | mark (place : Nat) (now : Instant) (delivered : Bool)
  /-- The claim at a place is let go. -/
  | drop (place : Nat)
  /-- All rows whose delivery failed are put back. -/
  | requeue (now : Instant)

def empty : Clients := ⟨.empty, []⟩

/-- Where a row stands that is marked. -/
def verdict (delivered : Bool) : Status := if delivered then .done else .error

def step (c : Clients) : Move → Clients
  | .append now events =>
    match c.store.append now events with
    | .ok (_, s) => { c with store := s }
    | .error _ => c
  | .refuse refusing => { c with store := { c.store with refusing } }
  | .failClaims count => { c with store := { c.store with failingClaims := count } }
  | .claim =>
    match c.store.claim with
    | (.ok (some e), s) => ⟨s, c.claims ++ [⟨e, false⟩]⟩
    | (_, s) => { c with store := s }
  | .mark place now delivered =>
    match c.claims[place]? with
    | some ⟨e, false⟩ =>
      ⟨(c.store.mark now e.id (verdict delivered)).2, c.claims.set place ⟨e, true⟩⟩
    | _ => c
  | .drop place =>
    match c.claims[place]? with
    | some k => ⟨c.store.release k.envelope.id, c.claims.eraseIdx place⟩
    | none => c
  | .requeue now => { c with store := (c.store.requeueErrors now).2 }

def run (c : Clients) (moves : List Move) : Clients := moves.foldl step c

/-! ## Storing and claiming -/

/-- New rows wait, say what the events say, and have consecutive numbers. -/
theorem fresh_eq_mapIdx (now : Instant) (id : Int) (events : List NewEnvelope) :
    Store.fresh now id events =
      events.mapIdx fun k e => ⟨id + k, e.topic, e.payload, .created, now, now⟩ := by
  induction events generalizing id with
  | nil => rfl
  | cons e es ih =>
      rw [Store.fresh, ih, List.mapIdx_cons]
      simp only [Int.natCast_zero, Int.add_zero, Int.natCast_succ, List.cons.injEq, true_and]
      congr 1
      funext k x
      rw [show id + 1 + (k : Int) = id + (k + 1) by omega]

/-- What claiming does: a row that waits and is not locked gets locked, or no row is. -/
theorem claim_cases (s : Store) :
    (∃ e, s.claim = (.ok (some e), { s with locked := e.id :: s.locked }) ∧
      e ∈ s.rows ∧ e.status = .created ∧ e.id ∉ s.locked) ∨
    ∃ r count, s.claim = (r, { s with failingClaims := count }) ∧ ∀ e, r ≠ .ok (some e) := by
  unfold Store.claim
  split
  · cases hc : s.candidate? with
    | none => exact .inr ⟨.ok none, s.failingClaims, rfl, by simp⟩
    | some e =>
        have hel := Store.eligible_of_candidate? hc
        simp only [Store.eligible, Bool.and_eq_true, beq_iff_eq, Bool.not_eq_true',
          List.contains_eq_mem, decide_eq_false_iff_not] at hel
        exact .inl ⟨e, rfl, Store.candidate?_mem hc, hel.1, hel.2⟩
  · exact .inr ⟨_, s.failingClaims - 1, rfl, by simp⟩

/-! ## Locks and claims -/

/-- The numbers of the rows that some claims are about. -/
def heldBy (claims : List Claim) : List Int := claims.map fun k => k.envelope.id

/-- Rows, locks and live claims fit together. -/
structure Orderly (s : Store) (claims : List Claim) : Prop where
  /-- The rows are numbered from 1 on, without a gap. -/
  numbered : s.Numbered
  /-- What is locked is what is claimed. -/
  locked : s.locked.Perm (heldBy claims)
  /-- Nothing is claimed twice. -/
  distinct : (heldBy claims).Nodup
  /-- A claim that is not marked is about a row that waits, as it is. -/
  waiting : ∀ k ∈ claims, k.marked = false → k.envelope ∈ s.rows ∧ k.envelope.status = .created
  /-- Every claim is about a row. -/
  backed : ∀ k ∈ claims, ∃ row ∈ s.rows, row.SameMessage k.envelope

namespace Orderly

variable {s s' : Store} {claims claims' others : List Claim} {k : Claim} {e : Envelope}

theorem empty : Orderly .empty [] where
  numbered := Store.numbered_empty
  locked := .refl _
  distinct := .nil
  waiting := by simp
  backed := by simp

theorem perm (h : Orderly s claims) (p : claims.Perm claims') : Orderly s claims' where
  numbered := h.numbered
  locked := h.locked.trans (p.map _)
  distinct := (p.map _).nodup_iff.1 h.distinct
  waiting := fun k hk => h.waiting k (p.mem_iff.2 hk)
  backed := fun k hk => h.backed k (p.mem_iff.2 hk)

theorem of_switches (h : Orderly s claims) (hr : s'.rows = s.rows) (hl : s'.locked = s.locked) :
    Orderly s' claims where
  numbered := by
    rw [Store.Numbered, hr]
    exact h.numbered
  locked := hl ▸ h.locked
  distinct := h.distinct
  waiting := hr ▸ h.waiting
  backed := hr ▸ h.backed

theorem append (h : Orderly s claims) {now : Instant} {events : List NewEnvelope}
    {ids : List Int} (ha : s.append now events = .ok (ids, s')) : Orderly s' claims := by
  obtain ⟨-, rfl⟩ := Store.append_ok ha
  refine ⟨h.numbered.append now events, h.locked, h.distinct, ?_, ?_⟩
  · intro k hk hm
    obtain ⟨hrow, hs⟩ := h.waiting k hk hm
    exact ⟨List.mem_append_left _ hrow, hs⟩
  · intro k hk
    obtain ⟨row, hrow, hsame⟩ := h.backed k hk
    exact ⟨row, List.mem_append_left _ hrow, hsame⟩

/-- A row that is claimed was not claimed before. -/
theorem claim (h : Orderly s claims) (hmem : e ∈ s.rows) (hcreated : e.status = .created)
    (hfree : e.id ∉ s.locked) :
    Orderly { s with locked := e.id :: s.locked } (⟨e, false⟩ :: claims) := by
  refine ⟨h.numbered, h.locked.cons e.id, ?_, ?_, ?_⟩
  · exact List.nodup_cons.2 ⟨fun hheld => hfree (h.locked.mem_iff.2 hheld), h.distinct⟩
  · intro k hk hm
    rcases List.mem_cons.1 hk with rfl | hk
    · exact ⟨hmem, hcreated⟩
    · exact h.waiting k hk hm
  · intro k hk
    rcases List.mem_cons.1 hk with rfl | hk
    · exact ⟨e, hmem, .refl e⟩
    · exact h.backed k hk

/-- No other claim is about the row of a claim. -/
theorem id_ne (h : Orderly s (k :: others)) {x : Claim} (hx : x ∈ others) :
    x.envelope.id ≠ k.envelope.id := by
  intro hid
  apply (List.nodup_cons.1 h.distinct).1
  have hheld : x.envelope.id ∈ heldBy others := List.mem_map_of_mem hx
  rwa [hid] at hheld

/-- Marking a claim leaves the rows of the other claims as they are. -/
theorem mark (h : Orderly s (⟨e, false⟩ :: others)) (now : Instant) (status : Status) :
    s.mark now e.id status = (.ok (), s.setStatus now e.id status) ∧
      Orderly (s.setStatus now e.id status) (⟨e, true⟩ :: others) := by
  obtain ⟨hmem, -⟩ := h.waiting _ List.mem_cons_self rfl
  refine ⟨Store.mark_of_mem hmem now status, ?_⟩
  rw [Store.setStatus_eq]
  refine ⟨h.numbered.map fun x => (Store.sameMessage_marked now e.id status x).id, h.locked,
    h.distinct, ?_, ?_⟩
  · intro k hk hm
    rcases List.mem_cons.1 hk with rfl | hk
    · cases hm
    · obtain ⟨hrow, hs⟩ := h.waiting k (List.mem_cons_of_mem _ hk) hm
      refine ⟨?_, hs⟩
      have hsame : Store.marked now e.id status k.envelope = k.envelope :=
        Store.marked_of_ne (h.id_ne hk)
      exact hsame ▸ List.mem_map_of_mem hrow
  · intro k hk
    have hback : ∃ row ∈ s.rows, row.SameMessage k.envelope := by
      rcases List.mem_cons.1 hk with rfl | hk
      · exact ⟨e, hmem, .refl e⟩
      · exact h.backed k (List.mem_cons_of_mem _ hk)
    obtain ⟨row, hrow, hsame⟩ := hback
    exact ⟨_, List.mem_map_of_mem hrow,
      (Store.sameMessage_marked now e.id status row).trans hsame⟩

/-- Letting go of a claim unlocks its row and no other. -/
theorem release (h : Orderly s (k :: others)) : Orderly (s.release k.envelope.id) others where
  numbered := h.numbered
  locked := by
    have hl := h.locked.erase k.envelope.id
    rw [heldBy, List.map_cons, List.erase_cons_head] at hl
    exact hl
  distinct := (List.nodup_cons.1 h.distinct).2
  waiting := fun x hx => h.waiting x (List.mem_cons_of_mem _ hx)
  backed := fun x hx => h.backed x (List.mem_cons_of_mem _ hx)

/-- Putting back touches no row that waits, so none that is claimed and not marked. -/
theorem requeue (h : Orderly s claims) (now : Instant) :
    Orderly (s.requeueErrors now).2 claims := by
  refine ⟨h.numbered.map fun e => (Store.sameMessage_requeued now e).id, h.locked, h.distinct,
    ?_, ?_⟩
  · intro k hk hm
    obtain ⟨hrow, hs⟩ := h.waiting k hk hm
    refine ⟨?_, hs⟩
    have hsame : Store.requeued now k.envelope = k.envelope := Store.requeued_of_created hs
    exact hsame ▸ List.mem_map_of_mem hrow
  · intro k hk
    obtain ⟨row, hrow, hsame⟩ := h.backed k hk
    exact ⟨_, List.mem_map_of_mem hrow, (Store.sameMessage_requeued now row).trans hsame⟩

end Orderly

variable {c : Clients}

/-- What a claiming client does: it gets a claim on a row that waits, or no row is touched. -/
theorem step_claim (c : Clients) :
    (∃ e, c.step .claim = ⟨{ c.store with locked := e.id :: c.store.locked },
        c.claims ++ [⟨e, false⟩]⟩ ∧
      e ∈ c.store.rows ∧ e.status = .created ∧ e.id ∉ c.store.locked) ∨
    ∃ count, c.step .claim = { c with store := { c.store with failingClaims := count } } := by
  rcases claim_cases c.store with ⟨e, hc, he⟩ | ⟨r, count, hc, hr⟩
  · exact .inl ⟨e, by simp only [step, hc], he⟩
  · refine .inr ⟨count, ?_⟩
    simp only [step, hc]

theorem step_mark_of_ne {place : Nat} (now : Instant) (delivered : Bool)
    (hk : ∀ e, c.claims[place]? ≠ some ⟨e, false⟩) : c.step (.mark place now delivered) = c := by
  cases hp : c.claims[place]? with
  | none => simp only [step, hp]
  | some k =>
      obtain ⟨e, marked⟩ := k
      cases marked with
      | true => simp only [step, hp]
      | false => exact absurd hp (hk e)

/-- A claim that is not marked can be marked: its row is there. -/
theorem step_mark {others : List Claim} (h : Orderly c.store (c.claims ++ others)) {place : Nat}
    {e : Envelope} (now : Instant) (delivered : Bool) (hk : c.claims[place]? = some ⟨e, false⟩) :
    c.step (.mark place now delivered) =
      ⟨c.store.setStatus now e.id (verdict delivered), c.claims.set place ⟨e, true⟩⟩ := by
  obtain ⟨hmark, -⟩ := (h.perm ((perm_at hk).append_right others)).mark now (verdict delivered)
  simp only [step, hk, hmark]

/-- Every move keeps rows, locks and claims together, also next to the claims of others. -/
theorem Orderly.beside {others : List Claim} (h : Orderly c.store (c.claims ++ others)) (m : Move) :
    Orderly (c.step m).store ((c.step m).claims ++ others) := by
  cases m with
  | append now events =>
      simp only [Clients.step]
      split
      · next ids s ha => exact h.append ha
      · exact h
  | refuse refusing => exact h.of_switches rfl rfl
  | failClaims count => exact h.of_switches rfl rfl
  | claim =>
      rcases c.step_claim with ⟨e, hs, hmem, hcreated, hfree⟩ | ⟨count, hs⟩
      · rw [hs]
        exact (h.claim hmem hcreated hfree).perm
          ((List.perm_append_singleton _ _).symm.append_right others)
      · rw [hs]
        exact h.of_switches rfl rfl
  | mark place now delivered =>
      by_cases hk : ∃ e, c.claims[place]? = some ⟨e, false⟩
      · obtain ⟨e, hk⟩ := hk
        rw [step_mark h now delivered hk]
        obtain ⟨-, hm⟩ :=
          (h.perm ((perm_at hk).append_right others)).mark now (verdict delivered)
        exact hm.perm ((perm_set hk _).append_right others).symm
      · rw [step_mark_of_ne now delivered (not_exists.1 hk)]
        exact h
  | drop place =>
      simp only [Clients.step]
      split
      · next k hk => exact (h.perm ((perm_at hk).append_right others)).release
      · exact h
  | requeue now => exact h.requeue now

/-- Every move keeps rows, locks and claims together. -/
theorem Orderly.step (h : Orderly c.store c.claims) (m : Move) :
    Orderly (c.step m).store (c.step m).claims := by
  have hbeside := @Orderly.beside c [] (by rwa [List.append_nil]) m
  rwa [List.append_nil] at hbeside

theorem Orderly.run (h : Orderly c.store c.claims) (moves : List Move) :
    Orderly (c.run moves).store (c.run moves).claims := by
  induction moves generalizing c with
  | nil => exact h
  | cons m moves ih => exact ih (h.step m)

/-! ## The fate of a row -/

/-- What one move makes of one row: the row before and the row after. -/
inductive Fate (c : Clients) : Move → Envelope → Envelope → Prop
  /-- Storing, claiming, letting go and the switches leave the row as it is. -/
  | kept {m : Move} {e : Envelope} (hmark : ∀ place now delivered, m ≠ .mark place now delivered)
      (hrequeue : ∀ now, m ≠ .requeue now) : Fate c m e e
  /-- Another claim is marked, or none. -/
  | passed {place : Nat} {now : Instant} {delivered : Bool} {e : Envelope}
      (h : c.claims[place]? ≠ some ⟨e, false⟩) : Fate c (.mark place now delivered) e e
  /-- The claim on the row is marked, and it was not marked before. -/
  | marked {place : Nat} {now : Instant} {delivered : Bool} {e : Envelope}
      (h : c.claims[place]? = some ⟨e, false⟩) (hcreated : e.status = .created) :
      Fate c (.mark place now delivered) e
        { e with status := verdict delivered, updatedAt := now }
  /-- What failed is put back. -/
  | requeued {now : Instant} {e : Envelope} (h : e.status = .error) :
      Fate c (.requeue now) e { e with status := .created, updatedAt := now }
  /-- Nothing else is put back. -/
  | stayed {now : Instant} {e : Envelope} (h : e.status ≠ .error) : Fate c (.requeue now) e e

namespace Fate

variable {m : Move} {e e' : Envelope}

theorem sameMessage (h : c.Fate m e e') : e'.SameMessage e := by
  cases h with
  | kept | passed | stayed => exact .refl e
  | marked | requeued => exact ⟨rfl, rfl, rfl, rfl⟩

theorem eq_of_done (h : c.Fate m e e') (hd : e.status = .done) : e' = e := by
  cases h with
  | kept | passed | stayed => rfl
  | marked _ hcreated => rw [hcreated] at hd; cases hd
  | requeued herror => rw [herror] at hd; cases hd

end Fate

/-- The rows that a move adds. -/
def added (c : Clients) : Move → List Envelope
  | .append now events =>
    if c.store.refusing then []
    else events.mapIdx fun k e =>
      ⟨c.store.rows.length + 1 + k, e.topic, e.payload, .created, now, now⟩
  | _ => []

/-- What marking makes of a row is what the claim on it says. -/
theorem fate_marked (h : Orderly c.store c.claims) {place : Nat} {k e : Envelope}
    (now : Instant) (delivered : Bool) (hk : c.claims[place]? = some ⟨k, false⟩)
    (he : e ∈ c.store.rows) :
    c.Fate (.mark place now delivered) e (Store.marked now k.id (verdict delivered) e) := by
  obtain ⟨hrow, hcreated⟩ := h.waiting _ (List.mem_of_getElem? hk) rfl
  -- Marking goes by number, and the number is the row's alone.
  by_cases hid : e.id = k.id
  · obtain rfl : e = k := h.numbered.eq_of_id he hrow hid
    rw [Store.marked, if_pos (beq_self_eq_true _)]
    exact .marked hk hcreated
  · rw [Store.marked_of_ne hid]
    refine .passed fun hek => hid ?_
    rw [hk] at hek
    cases hek
    rfl

theorem fate_requeued (c : Clients) (now : Instant) (e : Envelope) :
    c.Fate (.requeue now) e (Store.requeued now e) := by
  unfold Store.requeued
  split
  · next h => exact .requeued h
  · next h => exact .stayed h

/-- A move does to the rows that are there what their fate is, and adds some. -/
theorem rows_step (h : Orderly c.store c.claims) (m : Move) :
    ∃ f : Envelope → Envelope, (c.step m).store.rows = c.store.rows.map f ++ c.added m ∧
      ∀ e ∈ c.store.rows, c.Fate m e (f e) := by
  cases m with
  | append now events =>
      refine ⟨id, ?_, fun e _ => .kept (by simp) (by simp)⟩
      rw [List.map_id]
      cases hr : c.store.refusing <;> simp [step, Store.append, added, hr, fresh_eq_mapIdx]
  | refuse refusing => exact ⟨id, by simp [step, added], fun e _ => .kept (by simp) (by simp)⟩
  | failClaims count => exact ⟨id, by simp [step, added], fun e _ => .kept (by simp) (by simp)⟩
  | claim =>
      refine ⟨id, ?_, fun e _ => .kept (by simp) (by simp)⟩
      rcases c.step_claim with ⟨e, hs, -⟩ | ⟨count, hs⟩
      · simp [hs, added]
      · simp [hs, added]
  | mark place now delivered =>
      by_cases hk : ∃ e, c.claims[place]? = some ⟨e, false⟩
      · obtain ⟨k, hk⟩ := hk
        rw [step_mark (h.perm (.of_eq (List.append_nil _).symm)) now delivered hk]
        exact ⟨Store.marked now k.id (verdict delivered), by simp [Store.setStatus_eq, added],
          fun e he => fate_marked h now delivered hk he⟩
      · rw [step_mark_of_ne now delivered (not_exists.1 hk)]
        exact ⟨id, by simp [added], fun e _ => .passed (not_exists.1 hk e)⟩
  | drop place =>
      refine ⟨id, ?_, fun e _ => .kept (by simp) (by simp)⟩
      simp only [step]
      split <;> simp [added]
  | requeue now =>
      exact ⟨Store.requeued now, by simp [step, Store.requeueErrors, added],
        fun e _ => c.fate_requeued now e⟩

/-- The row at a place is there after any moves, says the same, and stands if it is delivered. -/
theorem rows_run (h : Orderly c.store c.claims) (moves : List Move) {place : Nat} {e : Envelope}
    (he : c.store.rows[place]? = some e) :
    ∃ e', (c.run moves).store.rows[place]? = some e' ∧ e'.SameMessage e ∧
      (e.status = .done → e' = e) := by
  induction moves generalizing c e with
  | nil => exact ⟨e, he, .refl e, fun _ => rfl⟩
  | cons m moves ih =>
      obtain ⟨f, hrows, hfate⟩ := rows_step h m
      have hstep : (c.step m).store.rows[place]? = some (f e) := by
        rw [hrows, List.getElem?_append_left (by simpa using (List.getElem?_eq_some_iff.1 he).1),
          List.getElem?_map, he]
        rfl
      have hf := hfate e (List.mem_of_getElem? he)
      obtain ⟨e', he', hsame, hdone⟩ := ih (h.step m) hstep
      refine ⟨e', he', hsame.trans hf.sameMessage, ?_⟩
      intro hd
      have hfe := hf.eq_of_done hd
      rw [hdone (by rw [hfe]; exact hd), hfe]

theorem append_eq (c : Clients) (now : Instant) (events : List NewEnvelope) :
    (c.store.refusing = true → ∃ fault, c.store.append now events = .error fault) ∧
    (c.store.refusing = false → c.store.append now events =
      .ok ((c.added (.append now events)).map Envelope.id,
        { c.store with rows := c.store.rows ++ c.added (.append now events) })) := by
  refine ⟨fun h => ⟨_, Store.append_of_refusing h now events⟩, fun h => ?_⟩
  simp [Store.append, added, h, fresh_eq_mapIdx]

/-- **The life of a row.**  In every state that any number of clients can reach:
- the rows are numbered from 1 to their count;
- the locked numbers are those of the live claims, each once;
- a claim that was not marked yet is about a row that waits;
- every move does to each row what `Fate` says, and adds the rows of the events stored;
- whatever follows, each row stays in its place with its number, topic, payload and first
  instant, and stays as it is once it is delivered;
- storing adds all rows, which wait, in order and with the next numbers, or none of them;
- putting back reports how many deliveries had failed, and at once a second time reports
  none. -/
theorem row_life_cycle (moves : List Move) :
    let c := empty.run moves
    c.store.rows.map Envelope.id =
      (List.range c.store.rows.length).map (fun k : Nat => (k : Int) + 1) ∧
    (c.store.locked.Nodup ∧ (c.claims.map fun k => k.envelope.id).Nodup ∧
      ∀ id, id ∈ c.store.locked ↔ ∃ k ∈ c.claims, k.envelope.id = id) ∧
    (∀ k ∈ c.claims, k.marked = false →
      k.envelope ∈ c.store.rows ∧ k.envelope.status = .created) ∧
    (∀ m, ∃ f : Envelope → Envelope,
      (c.step m).store.rows = c.store.rows.map f ++ c.added m ∧
      ∀ e ∈ c.store.rows, c.Fate m e (f e)) ∧
    (∀ (later : List Move) (place : Nat) (e : Envelope), c.store.rows[place]? = some e →
      ∃ e', (c.run later).store.rows[place]? = some e' ∧ e'.SameMessage e ∧
        (e.status = .done → e' = e)) ∧
    (∀ now events,
      (c.store.refusing = true → ∃ fault, c.store.append now events = .error fault) ∧
      (c.store.refusing = false → c.store.append now events =
        .ok ((c.added (.append now events)).map Envelope.id,
          { c.store with rows := c.store.rows ++ c.added (.append now events) }))) ∧
    ∀ now later, (c.store.requeueErrors now).1 = c.store.rows.countP (·.status == .error) ∧
      ((c.store.requeueErrors now).2.requeueErrors later).1 = 0 := by
  have h : Orderly (empty.run moves).store (empty.run moves).claims := Orderly.empty.run moves
  refine ⟨h.numbered, ⟨h.locked.nodup_iff.2 h.distinct, h.distinct, fun id => ?_⟩, h.waiting,
    rows_step h, fun later _ _ he => rows_run h later he, append_eq _, fun now later => ?_⟩
  · rw [h.locked.mem_iff]
    exact List.mem_map
  · exact ⟨rfl, Store.requeueErrors_requeueErrors _ now later⟩

end Clients

end Accounts.Outbox
