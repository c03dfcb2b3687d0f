import Accounts.Proofs.Outbox.Draining
/-!
# Drained outboxes

However the turns of the relays follow on each other, and whatever the bus says, the relays
drain the outbox: all of them come to their stop, every row that waited is delivered or failed
once, the oldest is claimed first, and no other row is touched.
-/

namespace Accounts.Outbox

/-! ## Results -/

theorem length_results (results : List (Except OutboxError Outcome)) :
    results.length = results.countP idles + results.countP fails +
      (results.flatMap verdictsOf).length := by
  induction results with
  | nil => rfl
  | cons r results ih =>
      have hone : (if idles r then 1 else 0) + (if fails r then 1 else 0) +
          (verdictsOf r).length = 1 := by
        rcases r with f | o
        · rfl
        · cases o <;> rfl
      rw [List.length_cons, List.countP_cons, List.countP_cons, List.flatMap_cons,
        List.length_append]
      omega

/-- What becomes of a row, in the end. -/
inductive Settled (verdicts : List Verdict) : Envelope → Envelope → Prop
  /-- It waited: one result is about it, and it is marked as that says. -/
  | waited {e : Envelope} {delivered : Bool} (now : Instant) (hcreated : e.status = .created)
      (once : (verdicts.map Prod.fst).count e.id = 1) (result : (e.id, delivered) ∈ verdicts) :
      Settled verdicts e { e with status := Clients.verdict delivered, updatedAt := now }
  /-- It did not wait: no result is about it, and it stays as it is. -/
  | kept {e : Envelope} (hstatus : e.status ≠ .created) (none : e.id ∉ verdicts.map Prod.fst) :
      Settled verdicts e e

theorem Became.settled {verdicts : List Verdict} {e e' : Envelope} (h : Became verdicts e e')
    (hnodup : (verdicts.map Prod.fst).Nodup)
    (hwaits : e.status = .created → e.id ∈ verdicts.map Prod.fst) : Settled verdicts e e' := by
  cases h with
  | kept h =>
      have hnone : e.id ∉ verdicts.map Prod.fst := fun hmem => by
        obtain ⟨v, hv, hid⟩ := List.mem_map.1 hmem
        exact h v hv hid
      exact .kept (fun hcreated => hnone (hwaits hcreated)) hnone
  | marked now hcreated h =>
      exact .waited now hcreated
        (List.count_eq_one_of_mem hnodup (List.mem_map_of_mem h)) h

namespace Drain

/-! ## At every moment -/

/-- How relays drain an outbox. -/
structure Proper (s : Store) (k : Nat) (d : Drain) : Prop where
  /-- There are not more cycles than rows that waited, claims that were to fail and relays. -/
  bounded : d.results.length ≤ s.waiting.length + s.failingClaims + k
  /-- A claim takes the first of the rows that wait and are not locked, or it fails. -/
  right : ∀ c ∈ d.claims, c.Right
  /-- The claims that were to fail are the first ones. -/
  failing : ∀ i c, d.claims[i]? = some c → (c.Fails ↔ i < s.failingClaims)
  /-- Cycles fail for a while only. -/
  transient : ∀ f, .error f ∈ d.results → f.isTransient = true
  /-- What is claimed goes before what is claimed later. -/
  ordered : d.claimed.Pairwise (Store.before · · = true)
  /-- Rows are marked that waited, among them those with a result; nothing else changes. -/
  rows : ∃ marks, d.verdicts ⊆ marks ∧ List.Forall₂ (Became marks) s.rows d.store.rows

/-- An outbox that relays drained. -/
structure Complete (s : Store) (k : Nat) (d : Drain) : Prop where
  /-- Each relay found nothing once. -/
  idle : d.results.countP idles = k
  /-- One cycle failed for each claim that was to fail. -/
  failed : d.results.countP fails = s.failingClaims
  /-- All rows that waited were claimed, as they were. -/
  claimed : d.claimed.Perm s.waiting
  /-- The other cycles are about them, one about each. -/
  verdicts : (d.verdicts.map Prod.fst).Perm (s.waiting.map Envelope.id)
  /-- Each of them is marked as the result says, and no other row changed. -/
  rows : List.Forall₂ (Settled d.verdicts) s.rows d.store.rows
  /-- A single relay is done with one before the next. -/
  alone : k = 1 → d.verdicts.map Prod.fst = d.claimed.map Envelope.id

variable {s : Store} {d : Drain} {points : List Point}

/-- Not more rows have a result than waited. -/
theorem length_verdicts_le (h : Accords s d points) :
    d.verdicts.length ≤ s.waiting.length := by
  have hsubjects := h.queue.subjects.length_eq
  have hwaiting := h.queue.waiting.length_eq
  rw [List.length_append, List.length_map, List.length_map] at hsubjects
  rw [List.length_append] at hwaiting
  omega

theorem proper_of_accords (h : Accords s d points) : d.Proper s points.length where
  bounded := by
    have hlength := length_results d.results
    have hverdicts := length_verdicts_le h
    rw [verdicts] at hverdicts
    have hidle : d.results.countP idles ≤ points.length :=
      h.idleness.stops ▸ List.countP_le_length
    have hfailed := h.failures.count
    omega
  right := h.queue.right
  failing := h.failures.first
  transient := fun f hf => h.failures.transient f (.inl hf)
  ordered := h.queue.ordered
  rows := ⟨_, List.subset_append_left _ _, h.rows⟩

/-! ## In the end -/

theorem nodup_waiting (hn : s.Numbered) : (s.waiting.map Envelope.id).Nodup :=
  hn.nodup_ids.sublist (List.filter_sublist.map _)

/-- When all relays stopped, nothing is left to do. -/
theorem complete_of_accords (hn : s.Numbered) {k : Nat} (hk : 0 < k)
    (h : Accords s d (List.replicate k .stopped)) : d.Complete s k := by
  obtain ⟨hfree, hfailing⟩ :=
    h.idleness.dry .stopped (List.mem_replicate.2 ⟨Nat.ne_of_gt hk, rfl⟩) rfl
  have hsubjects : (List.replicate k Point.stopped).flatMap Point.subjects = [] := by
    simp [Point.subjects]
  have hverdicts : (List.replicate k Point.stopped).flatMap Point.verdicts = [] := by
    simp [Point.verdicts]
  have hclaimed : d.claimed.Perm s.waiting := by
    have hwaiting := h.queue.waiting
    rwa [hfree, List.append_nil] at hwaiting
  have hresults : (d.verdicts.map Prod.fst).Perm (s.waiting.map Envelope.id) := by
    have hqueue := h.queue.subjects
    rw [hsubjects, List.append_nil] at hqueue
    exact hqueue.trans (hclaimed.map _)
  constructor
  case idle =>
    rw [h.idleness.stops, List.countP_replicate]
    rfl
  case failed =>
    have hcount := h.failures.count
    rw [hfailing, List.countP_replicate, if_neg (by simp [Point.faulty])] at hcount
    exact hcount
  case claimed => exact hclaimed
  case verdicts => exact hresults
  case rows =>
    have hrows := h.rows
    rw [hverdicts, List.append_nil] at hrows
    have hnodup := hresults.nodup_iff.2 (nodup_waiting hn)
    refine forall₂_of_mem hrows fun e he e' _ hrow => hrow.settled hnodup fun hcreated => ?_
    exact hresults.mem_iff.2 (List.mem_map_of_mem (List.mem_filter.2 ⟨he, by simp [hcreated]⟩))
  case alone =>
    rintro rfl
    have halone := h.queue.alone List.length_replicate
    rwa [hsubjects, List.append_nil] at halone

theorem eq_replicate_of_over (hrelays : d.relays = points.map Point.rest) (hover : d.Over) :
    points = List.replicate points.length .stopped := by
  refine List.eq_replicate_of_mem fun p hp => Point.rest_eq_none.1 (hover _ ?_)
  rw [hrelays]
  exact List.mem_map_of_mem hp

/-- The relays stopped when no turn is left. -/
theorem over_iff_weight (h : Accords s d points) (hrelays : d.relays = points.map Point.rest)
    (hpoints : 0 < points.length) : d.Over ↔ weight d.store points = 0 := by
  constructor
  · intro hover
    have hstopped := eq_replicate_of_over hrelays hover
    rw [hstopped] at h ⊢
    obtain ⟨hfree, hfailing⟩ :=
      h.idleness.dry .stopped (List.mem_replicate.2 ⟨Nat.ne_of_gt hpoints, rfl⟩) rfl
    simp [weight, hfree, hfailing, Point.load]
  · intro hweight r hr
    have hsum : (points.map Point.load).sum = 0 := by
      unfold weight at hweight
      omega
    rw [hrelays] at hr
    obtain ⟨p, hp, rfl⟩ := List.mem_map.1 hr
    have hload : p.load = 0 := List.sum_eq_zero_iff_forall_eq_nat.1 hsum _ (List.mem_map_of_mem hp)
    exact Point.rest_eq_none.2 (Point.load_eq_zero.1 hload)

/-- **Relays drain an outbox.**  Let any number of relays begin with an outbox on which no claim
is alive, and let them take turns in any order until each of them found nothing, while the bus
says what it likes.  They come to their end after a number of turns that does not depend on the
order.  The oldest row is claimed first; no row that waited is left behind or settled twice. -/
theorem relays_drain (s : Store) (hn : s.Numbered) (hl : s.locked = []) (k : Nat) (hk : 0 < k)
    (turns : List (Nat × Occasion)) (hbusy : (start s k).Busy turns) :
    let d := (start s k).run turns
    let bound := 7 * s.waiting.length + 2 * s.failingClaims + 2 * k
    turns.length ≤ bound ∧ (d.Over ↔ turns.length = bound) ∧ d.Proper s k ∧
      (d.Over → d.Complete s k) := by
  obtain ⟨points, hrelays, hlength, h, hweight⟩ :=
    accords_run (.start hn hl k) (by simp [start, Point.rest]) hbusy
  rw [List.length_replicate] at hlength
  have hfirst : weight (start s k).store (List.replicate k .ready) =
      7 * s.waiting.length + 2 * s.failingClaims + 2 * k := by
    simp [weight, start, Store.free_of_unlocked hl, Point.load]
    omega
  rw [hfirst] at hweight
  have hover := over_iff_weight h hrelays (hlength ▸ hk)
  have hproper := proper_of_accords h
  rw [hlength] at hproper
  refine ⟨Nat.le.intro hweight, ?_, hproper, fun hover => ?_⟩
  · rw [hover]
    omega
  · rw [eq_replicate_of_over hrelays hover, hlength] at h
    exact complete_of_accords hn hk h

namespace Sample

/-- A row that was put back, one that was delivered, and a younger one that waits.  One claim is
to fail. -/
def outbox : Store where
  rows := [
    ⟨1, "a", .null, .created, ⟨1, 0⟩, ⟨9, 0⟩⟩,
    ⟨2, "b", .null, .done, ⟨2, 0⟩, ⟨3, 0⟩⟩,
    ⟨3, "a", .null, .created, ⟨3, 0⟩, ⟨3, 0⟩⟩]
  locked := []
  refusing := false
  failingClaims := 1

/-- What the first relay sends is taken. -/
def first : Nat × Occasion := (0, ⟨⟨10, 0⟩, .ok ()⟩)

/-- What the second relay sends is not taken. -/
def second : Nat × Occasion := (1, ⟨⟨11, 0⟩, .error (.publishFailed "down")⟩)

/-- The second relay finds nothing while the first still holds the oldest row. -/
def turns : List (Nat × Occasion) :=
  List.replicate 3 first ++ List.replicate 9 second ++ List.replicate 8 first

end Sample

open Sample in
/-- A relay that stops leaves nothing behind that another one holds. -/
theorem relays_drain_held :
    let d := (start outbox 2).run turns
    d.Complete outbox 2 ∧ d.claimed.map Envelope.id = [1, 3] ∧
      d.verdicts = [(3, false), (1, true)] := by
  have hbusy : (start outbox 2).Busy turns := by
    iterate 20 refine ⟨⟨_, rfl⟩, ?_⟩
    trivial
  obtain ⟨-, hover, -, hcomplete⟩ := relays_drain outbox rfl rfl 2 (by decide) turns hbusy
  exact ⟨hcomplete (hover.2 rfl), rfl, rfl⟩

end Drain

end Accounts.Outbox
