import Accounts.Proofs.Outbox.Drain
import Mathlib.Algebra.Order.Ring.Nat
import Mathlib.Data.List.Forall2
/-!
# While relays drain an outbox

Free rows, claims that are to fail and the loads of the relays have a weight that every turn
makes smaller by one (`Drain.accords_run`).

That no row is left behind is in `Idleness`: a relay stops only when no row is free, and from
then on none becomes free, since what another relay still holds is marked before it is let go.
The latter is `Accords.ne_created`, which rests on what is said of the rows.
-/

namespace Accounts.Outbox

/-! ## What a claim does -/

/-- A claim as it should be. -/
inductive Claiming.Right : Claiming → Prop
  /-- It fails, as it was to, with all rows as they were. -/
  | failed {s : Store} {f : OutboxError} (fails : 0 < s.failingClaims)
      (transient : f.isTransient = true) :
      Right ⟨s, .error f, { s with failingClaims := s.failingClaims - 1 }⟩
  /-- No row is free. -/
  | nothing {s : Store} (works : s.failingClaims = 0) (none : s.free = []) :
      Right ⟨s, .ok .none, s⟩
  /-- The first of the free rows is locked. -/
  | first {s : Store} {e : Envelope} (works : s.failingClaims = 0) (free : e ∈ s.free)
      (first : ∀ x ∈ s.free, x = e ∨ Store.before e x = true) :
      Right ⟨s, .ok (some e), { s with locked := e.id :: s.locked }⟩

namespace Point

variable {s s' : Store} {p p' : Point} {rs : List (Except OutboxError Outcome)}
  {cs : List Claiming} {others : List Claim}

/-! ## What a step keeps -/

namespace Steps

theorem orderly (h : Steps s p p' s' rs cs) (ho : Clients.Orderly s (p.claims ++ others)) :
    Clients.Orderly s' (p'.claims ++ others) := by
  cases h with
  | failed => exact ho.of_switches rfl rfl
  | nothing => exact ho
  | claimed _ found =>
      obtain ⟨hcreated, hfree⟩ := Store.eligible_iff.1 (Store.eligible_of_candidate? found)
      exact ho.claim (Store.candidate?_mem found) hcreated hfree
  | quiet h => rwa [h.claims]
  | marked e delivered now => exact (ho.mark now _).2
  | released e delivered => exact ho.release
  | ended r => rwa [claims_next]

/-- Only a claim takes a row from the free ones. -/
theorem free (h : Steps s p p' s' rs cs) (ho : Clients.Orderly s (p.claims ++ others))
    (hmarked : ∀ v ∈ p.verdicts, ∀ x ∈ s.rows, x.id = v.1 → x.status ≠ .created) :
    s.free.Perm (cs.flatMap Claiming.found ++ s'.free) := by
  cases h with
  | failed | nothing | quiet | ended => exact .refl _
  | claimed _ found =>
      exact Store.free_claim ho.numbered (Store.candidate?_first ho.numbered found).1
  | marked e delivered now =>
      have hlocked : e.id ∈ s.locked := ho.locked.mem_iff.2 List.mem_cons_self
      exact .of_eq (Store.free_setStatus hlocked now _).symm
  | released e delivered =>
      -- It was marked before, so that it does not wait although nobody holds it any more.
      have hstatus : ∀ x ∈ s.rows, x.id = e.id → x.status ≠ .created :=
        hmarked (e.id, delivered) List.mem_cons_self
      exact .of_eq (Store.free_release hstatus).symm

/-- Free rows, claims that are to fail and the load of the relay outweigh what follows. -/
theorem weight (h : Steps s p p' s' rs cs)
    (hfree : s.free.Perm (cs.flatMap Claiming.found ++ s'.free)) :
    7 * s'.free.length + 2 * s'.failingClaims + p'.load + 1 =
      7 * s.free.length + 2 * s.failingClaims + p.load := by
  have hlength := hfree.length_eq
  rw [List.length_append] at hlength
  cases h with
  | failed fails _ =>
      change s.free.length = 0 + _ at hlength
      change _ + 2 * (s.failingClaims - 1) + 3 + 1 = _ + 2 * s.failingClaims + 2
      omega
  | nothing => rfl
  | claimed =>
      change s.free.length = 1 + _ at hlength
      change 7 * _ + 2 * s.failingClaims + 8 + 1 = 7 * s.free.length + 2 * s.failingClaims + 2
      omega
  | quiet h =>
      rw [← h.load]
      rfl
  | marked e delivered | released e delivered =>
      change s.free.length = 0 + _ at hlength
      rw [hlength, Nat.zero_add]
      cases delivered <;> rfl
  | ended r =>
      rw [← load_next]
      rfl

/-- The row that a cycle is about is the one that it claimed. -/
theorem subjects (h : Steps s p p' s' rs cs) :
    p.subjects ++ (cs.flatMap Claiming.found).map Envelope.id =
      (rs.flatMap verdictsOf).map Prod.fst ++ p'.subjects := by
  cases h with
  | failed | nothing | claimed | marked | released => rfl
  | quiet h => simp [h.subjects]
  | ended r =>
      rw [subjects_next, List.append_nil, List.flatMap_singleton]
      exact List.append_nil _

/-- A claim is as it should be. -/
theorem right (h : Steps s p p' s' rs cs) (hn : s.Numbered) : ∀ c ∈ cs, c.Right := by
  cases h with
  | failed fails transient => exact List.forall_mem_singleton.2 (.failed fails transient)
  | nothing works none =>
      exact List.forall_mem_singleton.2 (.nothing works (Store.candidate?_eq_none.1 none))
  | claimed works found =>
      obtain ⟨hfree, hfirst⟩ := Store.candidate?_first hn found
      exact List.forall_mem_singleton.2 (.first works hfree hfirst)
  | quiet | marked | released | ended => simp

/-- No row is claimed, or the first of the free ones. -/
theorem found (h : Steps s p p' s' rs cs) (hn : s.Numbered) :
    cs.flatMap Claiming.found = [] ∨ ∃ e, cs.flatMap Claiming.found = [e] ∧
      ∀ x ∈ s.free, x = e ∨ Store.before e x = true := by
  cases h with
  | claimed _ found => exact .inr ⟨_, rfl, (Store.candidate?_first hn found).2⟩
  | failed | nothing | quiet | marked | released | ended => exact .inl rfl

theorem ordered (h : Steps s p p' s' rs cs) (hn : s.Numbered) :
    (cs.flatMap Claiming.found).Pairwise (Store.before · · = true) := by
  rcases h.found hn with hnone | ⟨e, hone, -⟩
  · rw [hnone]
    exact .nil
  · rw [hone]
    exact List.pairwise_singleton _ e

/-- What is claimed goes before what stays free. -/
theorem ahead (h : Steps s p p' s' rs cs) (hn : s.Numbered)
    (hfree : s.free.Perm (cs.flatMap Claiming.found ++ s'.free)) :
    ∀ e ∈ cs.flatMap Claiming.found, ∀ x ∈ s'.free, Store.before e x = true := by
  intro e he x hx
  rcases h.found hn with hnone | ⟨e', hone, hfirst⟩
  · rw [hnone] at he
    cases he
  · rw [hone] at he hfree
    obtain rfl := List.mem_singleton.1 he
    have hnodup := hfree.nodup_iff.1 (Store.nodup_free hn)
    have hne : x ≠ e := by
      rintro rfl
      exact (List.nodup_cons.1 hnodup).1 hx
    exact (hfirst x (hfree.mem_iff.2 (List.mem_cons_of_mem e hx))).resolve_left hne

/-- Claims fail as long as they are to fail. -/
theorem failing (h : Steps s p p' s' rs cs) :
    (cs = [] ∧ s'.failingClaims = s.failingClaims) ∨
      ∃ c, cs = [c] ∧ (c.Fails ↔ 0 < s.failingClaims) ∧
        s'.failingClaims = s.failingClaims - 1 := by
  cases h with
  | failed fails _ => exact .inr ⟨_, rfl, ⟨fun _ => fails, fun _ => ⟨_, rfl⟩⟩, rfl⟩
  | nothing works _ =>
      refine .inr ⟨_, rfl, ⟨fun ⟨f, h⟩ => (by cases h), fun h => by omega⟩, by omega⟩
  | claimed works _ =>
      refine .inr ⟨_, rfl, ⟨fun ⟨f, h⟩ => (by cases h), fun h => by omega⟩, ?_⟩
      show s.failingClaims = s.failingClaims - 1
      omega
  | quiet | marked | released | ended => exact .inl ⟨rfl, rfl⟩

/-- Every claim that fails lets one cycle fail. -/
theorem faults (h : Steps s p p' s' rs cs) :
    rs.countP fails + [p'].countP faulty + s'.failingClaims =
      [p].countP faulty + s.failingClaims := by
  cases h with
  | failed fails _ =>
      show 0 + 1 + (s.failingClaims - 1) = 0 + s.failingClaims
      omega
  | nothing | claimed | marked | released => rfl
  | quiet h => simp [h.goes_on]
  | ended r =>
      rw [List.countP_singleton, List.countP_singleton, List.countP_singleton, faulty_next]
      rfl

/-- Every cycle that finds nothing stops one relay. -/
theorem stops (h : Steps s p p' s' rs cs) :
    rs.countP idles + [p].countP isStopped = [p'].countP isStopped := by
  cases h with
  | failed | nothing | claimed | marked | released => rfl
  | quiet h => cases h <;> rfl
  | ended r =>
      rw [List.countP_singleton, List.countP_singleton, List.countP_singleton, isStopped_next]
      rfl

/-- A relay finds nothing only if no row is free and no claim is to fail. -/
theorem dry (h : Steps s p p' s' rs cs) (hdry : p'.dry = true) :
    p.dry = true ∨ (s'.free = [] ∧ s'.failingClaims = 0) := by
  cases h with
  | failed | claimed | marked | released => cases hdry
  | nothing works none => exact .inr ⟨Store.candidate?_eq_none.1 none, works⟩
  | quiet h =>
      rw [h.goes_on.2.2] at hdry
      cases hdry
  | ended r => exact .inl ((dry_next r).symm.trans hdry)

/-- No claim is to fail that was not before. -/
theorem failingClaims_le (h : Steps s p p' s' rs cs) : s'.failingClaims ≤ s.failingClaims := by
  cases h with
  | failed => exact Nat.sub_le _ _
  | nothing | claimed | quiet | marked | released | ended => exact Nat.le_refl _

/-- A cycle fails because a claim failed, as it was to. -/
theorem transient (h : Steps s p p' s' rs cs) {f : OutboxError}
    (hf : .error f ∈ rs ∨ p' = finished (.error f)) :
    p = finished (.error f) ∨ f.isTransient = true := by
  cases h with
  | failed _ transient =>
      rcases hf with hf | hf
      · cases hf
      · cases hf
        exact .inr transient
  | nothing | claimed | marked | released => rcases hf with hf | hf <;> cases hf
  | quiet h =>
      rcases hf with hf | rfl
      · cases hf
      · cases h.goes_on.2.1
  | ended r =>
      rcases hf with hf | hf
      · rw [List.mem_singleton.1 hf]
        exact .inl rfl
      · have hnext := faulty_next r
        rw [hf] at hnext
        cases hnext

end Steps

end Point

/-! ## What becomes of the rows -/

/-- What becomes of a row, when some rows were marked. -/
inductive Became (marks : List Verdict) : Envelope → Envelope → Prop
  /-- It was not marked. -/
  | kept {e : Envelope} (h : ∀ v ∈ marks, v.1 ≠ e.id) : Became marks e e
  /-- It waited, and it was marked. -/
  | marked {e : Envelope} {delivered : Bool} (now : Instant) (hcreated : e.status = .created)
      (h : (e.id, delivered) ∈ marks) :
      Became marks e { e with status := Clients.verdict delivered, updatedAt := now }

theorem verdict_ne_created (delivered : Bool) : Clients.verdict delivered ≠ .created := by
  cases delivered <;> decide

namespace Became

variable {marks marks' : List Verdict} {e e' : Envelope}

/-- What was marked does not wait any more. -/
theorem ne_created (h : Became marks e e') {v : Verdict} (hv : v ∈ marks) (hid : e'.id = v.1) :
    e'.status ≠ .created := by
  cases h with
  | kept h => exact absurd hid.symm (h v hv)
  | marked => exact verdict_ne_created _

theorem of_mem_iff (h : Became marks e e') (hmarks : ∀ v, v ∈ marks' ↔ v ∈ marks) :
    Became marks' e e' := by
  cases h with
  | kept h => exact .kept fun v hv => h v ((hmarks v).1 hv)
  | marked now hcreated h => exact .marked now hcreated ((hmarks _).2 h)

/-- A row is marked that waits. -/
theorem mark (h : Became marks e e') {id : Int} (hwaits : e'.id = id → e'.status = .created)
    (now : Instant) (delivered : Bool) :
    Became ((id, delivered) :: marks) e
      (Store.marked now id (Clients.verdict delivered) e') := by
  by_cases hid : e'.id = id
  · cases h with
    | kept =>
        subst hid
        rw [Store.marked, if_pos (beq_self_eq_true _)]
        exact .marked now (hwaits rfl) List.mem_cons_self
    | marked => exact absurd (hwaits hid) (verdict_ne_created _)
  · rw [Store.marked_of_ne hid]
    cases h with
    | kept h =>
        refine .kept fun v hv => ?_
        rcases List.mem_cons.1 hv with rfl | hv
        · exact fun heq => hid heq.symm
        · exact h v hv
    | marked now hcreated h => exact .marked now hcreated (List.mem_cons_of_mem _ h)

end Became

/-- To compare members of two lists, it is enough to know about members. -/
theorem forall₂_of_mem {α β : Type} {R S : α → β → Prop} {as : List α} {bs : List β}
    (h : List.Forall₂ R as bs) (hRS : ∀ a ∈ as, ∀ b ∈ bs, R a b → S a b) :
    List.Forall₂ S as bs :=
  List.forall₂_iff_zip.2 ⟨h.length_eq, fun hab =>
    hRS _ (List.of_mem_zip hab).1 _ (List.of_mem_zip hab).2 (List.forall₂_zip h hab)⟩

/-- What is passed on by one of many is not lost. -/
theorem perm_of_passed {α : Type} {old new mine mine' others before after : List α}
    (hstep : mine ++ new = old ++ mine') (h : (before ++ (mine ++ others)).Perm after) :
    (before ++ old ++ (mine' ++ others)).Perm (after ++ new) := by
  calc before ++ old ++ (mine' ++ others)
      = before ++ (mine ++ new ++ others) := by rw [hstep]; simp only [List.append_assoc]
    List.Perm _ (before ++ (mine ++ others ++ new)) := by
        rw [List.append_assoc mine, List.append_assoc mine]
        exact (List.perm_append_comm.append_left _).append_left _
    _ = before ++ (mine ++ others) ++ new := (List.append_assoc ..).symm
    List.Perm _ (after ++ new) := h.append_right _

/-! ## Invariants -/

/-- What was claimed, what is free and what waited at first. -/
structure Queue (s₀ : Store) (d : Drain) (points : List Point) : Prop where
  /-- Claims are as they should be. -/
  right : ∀ c ∈ d.claims, c.Right
  /-- What waited is claimed or free. -/
  waiting : (d.claimed ++ d.store.free).Perm s₀.waiting
  /-- What was claimed first goes before what was claimed later. -/
  ordered : d.claimed.Pairwise (Store.before · · = true)
  /-- What was claimed goes before what is free. -/
  ahead : ∀ e ∈ d.claimed, ∀ x ∈ d.store.free, Store.before e x = true
  /-- Each claim has its result or is that of a cycle that goes on. -/
  subjects : (d.verdicts.map Prod.fst ++ points.flatMap Point.subjects).Perm
    (d.claimed.map Envelope.id)
  /-- A single relay does one after another. -/
  alone : points.length = 1 →
    d.verdicts.map Prod.fst ++ points.flatMap Point.subjects = d.claimed.map Envelope.id

/-- Claims that fail. -/
structure Failures (s₀ : Store) (d : Drain) (points : List Point) : Prop where
  /-- Each claim is one fewer that is to fail. -/
  left : d.store.failingClaims = s₀.failingClaims - d.claims.length
  /-- The first claims fail. -/
  first : ∀ i c, d.claims[i]? = some c → (c.Fails ↔ i < s₀.failingClaims)
  /-- Each claim that failed has its result or is that of a cycle that is over. -/
  count : d.results.countP fails + points.countP Point.faulty + d.store.failingClaims =
    s₀.failingClaims
  /-- Failures are transient. -/
  transient : ∀ f, .error f ∈ d.results ∨ .finished (.error f) ∈ points → f.isTransient = true

/-- Relays that find nothing. -/
structure Idleness (d : Drain) (points : List Point) : Prop where
  /-- Each of them stops. -/
  stops : d.results.countP idles = points.countP Point.isStopped
  /-- When one found nothing, there is nothing. -/
  dry : ∀ p ∈ points, p.dry = true → d.store.free = [] ∧ d.store.failingClaims = 0

/-- What holds of relays that stand at some points, while they drain an outbox. -/
structure Accords (s₀ : Store) (d : Drain) (points : List Point) : Prop where
  /-- Rows, locks and live claims fit together. -/
  orderly : Clients.Orderly d.store (points.flatMap Point.claims)
  /-- Rows are changed by being marked, and in no other way. -/
  rows : List.Forall₂ (Became (d.verdicts ++ points.flatMap Point.verdicts)) s₀.rows d.store.rows
  queue : Queue s₀ d points
  failures : Failures s₀ d points
  idleness : Idleness d points

namespace Accords

variable {s₀ s : Store} {d : Drain} {p p' : Point} {points points' others : List Point}
  {relays : List (Option (Relaying (Except OutboxError Outcome)))}
  {rs : List (Except OutboxError Outcome)} {cs : List Claiming}

/-- It does not matter in which order the relays stand. -/
theorem perm (h : Accords s₀ d points) (hp : points.Perm points') : Accords s₀ d points' where
  orderly := h.orderly.perm (hp.flatMap_right _)
  rows := h.rows.imp fun _ _ hrow => hrow.of_mem_iff fun _ =>
    (((hp.flatMap_right _).append_left _).mem_iff).symm
  queue := {
    h.queue with
    subjects := ((hp.flatMap_right _).symm.append_left _).trans h.queue.subjects
    alone := fun hlength => by
      obtain ⟨p, rfl⟩ := List.length_eq_one_iff.1 hlength
      rw [List.perm_singleton.1 hp] at h
      exact h.queue.alone rfl }
  failures := {
    h.failures with
    count := (hp.countP_eq Point.faulty) ▸ h.failures.count
    transient := fun f hf => h.failures.transient f (hf.imp_right hp.mem_iff.2) }
  idleness := ⟨(hp.countP_eq Point.isStopped) ▸ h.idleness.stops,
    fun p hmem => h.idleness.dry p (hp.mem_iff.2 hmem)⟩

section step

variable (h : Accords s₀ d (p :: others)) (hsteps : Point.Steps d.store p p' s rs cs)

include h

/-- A row that was marked does not wait any more. -/
theorem ne_created : ∀ v ∈ p.verdicts, ∀ x ∈ d.store.rows, x.id = v.1 → x.status ≠ .created := by
  intro v hv x hx hid
  obtain ⟨place, hplace, rfl⟩ := List.mem_iff_getElem.1 hx
  have hrow := List.Forall₂.get h.rows (h.rows.length_eq ▸ hplace) hplace
  exact hrow.ne_created (List.mem_append_right _ (List.mem_append_left _ hv)) hid

include hsteps

theorem step_free : d.store.free.Perm (cs.flatMap Claiming.found ++ s.free) :=
  hsteps.free h.orderly h.ne_created

theorem step_orderly : Clients.Orderly s ((p' :: others).flatMap Point.claims) :=
  hsteps.orderly h.orderly

theorem step_rows : List.Forall₂
    (Became ((d.results ++ rs).flatMap verdictsOf ++ (p' :: others).flatMap Point.verdicts))
    s₀.rows s.rows := by
  have hrows := h.rows
  have horderly := h.orderly
  rw [List.flatMap_cons] at hrows ⊢
  have hkept : s.rows = d.store.rows → rs.flatMap verdictsOf ++ p'.verdicts = p.verdicts →
      List.Forall₂ (Became ((d.results ++ rs).flatMap verdictsOf ++
        (p'.verdicts ++ others.flatMap Point.verdicts))) s₀.rows s.rows := by
    intro hs hverdicts
    rwa [hs, List.flatMap_append, List.append_assoc, ← List.append_assoc (rs.flatMap verdictsOf),
      hverdicts]
  cases hsteps with
  | failed | nothing | claimed | released => exact hkept rfl rfl
  | quiet h => exact hkept rfl h.verdicts
  | ended r =>
      refine hkept rfl ?_
      rw [Point.verdicts_next, List.append_nil, List.flatMap_singleton]
      rfl
  | marked e delivered now =>
      -- The claimed row is the one of its number, and it waits.
      obtain ⟨hmem, hcreated⟩ := horderly.waiting ⟨e, false⟩ List.mem_cons_self rfl
      rw [Store.setStatus_eq, List.forall₂_map_right_iff, List.append_nil]
      refine forall₂_of_mem hrows fun x _ x' hx' hrow => ?_
      have hwaits : x'.id = e.id → x'.status = .created := fun hid =>
        horderly.numbered.eq_of_id hx' hmem hid ▸ hcreated
      exact (hrow.mark hwaits now delivered).of_mem_iff fun v =>
        List.perm_middle.mem_iff

theorem step_queue : Queue s₀ ⟨s, relays, d.results ++ rs, d.claims ++ cs⟩ (p' :: others) := by
  have hfree := h.step_free hsteps
  have hn := h.orderly.numbered
  obtain ⟨hright, hwaiting, hordered, hahead, hsubjects, halone⟩ := h.queue
  have hclaimed : (d.claims ++ cs).flatMap Claiming.found =
      d.claimed ++ cs.flatMap Claiming.found := List.flatMap_append
  have hverdicts : (d.results ++ rs).flatMap verdictsOf =
      d.verdicts ++ rs.flatMap verdictsOf := List.flatMap_append
  constructor
  case right => exact List.forall_mem_append.2 ⟨hright, hsteps.right hn⟩
  case waiting =>
    rw [Drain.claimed, hclaimed, List.append_assoc]
    exact (hfree.symm.append_left _).trans hwaiting
  case ordered =>
    rw [Drain.claimed, hclaimed, List.pairwise_append]
    refine ⟨hordered, hsteps.ordered hn, fun e he x hx => ?_⟩
    exact hahead e he x (hfree.mem_iff.2 (List.mem_append_left _ hx))
  case ahead =>
    rw [Drain.claimed, hclaimed, List.forall_mem_append]
    refine ⟨fun e he x hx => ?_, hsteps.ahead hn hfree⟩
    exact hahead e he x (hfree.mem_iff.2 (List.mem_append_right _ hx))
  case subjects =>
    rw [Drain.verdicts, Drain.claimed, hclaimed, hverdicts, List.map_append, List.map_append]
    exact perm_of_passed hsteps.subjects hsubjects
  case alone =>
    intro hlength
    obtain rfl : others = [] := by simpa using hlength
    have hone := halone rfl
    rw [List.flatMap_singleton] at hone ⊢
    rw [Drain.verdicts, Drain.claimed, hclaimed, hverdicts, List.map_append, List.map_append,
      List.append_assoc, ← hsteps.subjects, ← List.append_assoc, hone]

theorem step_failures :
    Failures s₀ ⟨s, relays, d.results ++ rs, d.claims ++ cs⟩ (p' :: others) := by
  obtain ⟨hleft, hfirst, hcount, htransient⟩ := h.failures
  refine ⟨?_, ?_, ?_, ?_⟩
  · rcases hsteps.failing with ⟨rfl, hs⟩ | ⟨c, rfl, -, hs⟩
    · rw [List.append_nil, hs, hleft]
    · rw [hs, hleft, List.length_append, List.length_singleton]
      omega
  · intro i c hc
    rcases hsteps.failing with ⟨rfl, -⟩ | ⟨c', rfl, hfails, -⟩
    · rw [List.append_nil] at hc
      exact hfirst i c hc
    · change (d.claims ++ [c'])[i]? = some c at hc
      rcases Nat.lt_or_ge i d.claims.length with hlt | hge
      · rw [List.getElem?_append_left hlt] at hc
        exact hfirst i c hc
      · rw [List.getElem?_append_right hge, List.getElem?_singleton] at hc
        split at hc
        · cases hc
          rw [hfails]
          omega
        · cases hc
  · have hfaults := hsteps.faults
    change (d.results ++ rs).countP fails + _ + s.failingClaims = _
    rw [List.countP_cons] at hcount ⊢
    rw [List.countP_singleton, List.countP_singleton] at hfaults
    rw [List.countP_append]
    omega
  · intro f hf
    have hnew : .error f ∈ d.results ∨ .finished (.error f) ∈ others ∨
        (.error f ∈ rs ∨ p' = .finished (.error f)) := by
      rw [List.mem_append, List.mem_cons] at hf
      tauto
    rcases hnew with hold | hother | hnew
    · exact htransient f (.inl hold)
    · exact htransient f (.inr (List.mem_cons_of_mem _ hother))
    · rcases hsteps.transient hnew with rfl | htrans
      · exact htransient f (.inr List.mem_cons_self)
      · exact htrans

theorem step_idleness : Idleness ⟨s, relays, d.results ++ rs, d.claims ++ cs⟩ (p' :: others) := by
  obtain ⟨hstops, hdry⟩ := h.idleness
  constructor
  · have hstep := hsteps.stops
    rw [List.countP_cons] at hstops ⊢
    rw [List.countP_singleton, List.countP_singleton] at hstep
    rw [List.countP_append]
    omega
  · -- Nothing becomes free once nothing is.
    have hscarce : d.store.free = [] ∧ d.store.failingClaims = 0 →
        s.free = [] ∧ s.failingClaims = 0 := by
      rintro ⟨hnone, hzero⟩
      have hfree := h.step_free hsteps
      rw [hnone] at hfree
      exact ⟨(List.append_eq_nil_iff.1 hfree.nil_eq.symm).2,
        Nat.le_zero.1 (hzero ▸ hsteps.failingClaims_le)⟩
    rintro q hq hqdry
    rcases List.mem_cons.1 hq with rfl | hq
    · rcases hsteps.dry hqdry with hpdry | hdone
      · exact hscarce (hdry p List.mem_cons_self hpdry)
      · exact hdone
    · exact hscarce (hdry q (List.mem_cons_of_mem _ hq) hqdry)

theorem step : Accords s₀ ⟨s, relays, d.results ++ rs, d.claims ++ cs⟩ (p' :: others) :=
  ⟨h.step_orderly hsteps, h.step_rows hsteps, h.step_queue hsteps, h.step_failures hsteps,
    h.step_idleness hsteps⟩

end step

/-- No relay has begun. -/
theorem start (hn : s.Numbered) (hl : s.locked = []) (k : Nat) :
    Accords s (.start s k) (List.replicate k .ready) where
  orderly := by
    have hnone : (List.replicate k Point.ready).flatMap Point.claims = [] := by
      simp [Point.claims]
    rw [hnone]
    exact ⟨hn, .of_eq hl, .nil, fun _ h => (List.not_mem_nil h).elim,
      fun _ h => (List.not_mem_nil h).elim⟩
  rows := by
    refine List.forall₂_same.2 fun e _ => .kept ?_
    simp [Drain.verdicts, Drain.start, Point.verdicts]
  queue := {
    right := fun _ h => (List.not_mem_nil h).elim
    waiting := .of_eq (Store.free_of_unlocked hl)
    ordered := .nil
    ahead := fun _ h => (List.not_mem_nil h).elim
    subjects := by simp [Drain.verdicts, Drain.claimed, Drain.start, Point.subjects]
    alone := by simp [Drain.verdicts, Drain.claimed, Drain.start, Point.subjects] }
  failures := {
    left := rfl
    first := by simp [Drain.start]
    count := by simp [Drain.start, Point.faulty]
    transient := by simp [Drain.start] }
  idleness := {
    stops := by simp [Drain.start, List.countP_replicate, Point.isStopped]
    dry := by simp [Point.dry] }

end Accords

/-! ## Turns -/

namespace Drain

variable {s₀ : Store} {d : Drain} {points : List Point} {place : Nat}

/-- How many turns are left. -/
def weight (s : Store) (points : List Point) : Nat :=
  7 * s.free.length + 2 * s.failingClaims + (points.map Point.load).sum

/-- A turn of a relay that did not stop is one fewer that is left. -/
theorem accords_turn (h : Accords s₀ d points) (hrelays : d.relays = points.map Point.rest)
    (hworks : d.Works place) (o : Occasion) :
    ∃ points', (d.turn place o).relays = points'.map Point.rest ∧
      points'.length = points.length ∧ Accords s₀ (d.turn place o) points' ∧
      weight (d.turn place o).store points' + 1 = weight d.store points := by
  obtain ⟨rest, hrest⟩ := hworks
  rw [hrelays, List.getElem?_map] at hrest
  obtain ⟨p, hp, hrest⟩ := Option.map_eq_some_iff.1 hrest
  have hstopped : p ≠ .stopped := fun hstop => by
    rw [Point.rest_eq_none.2 hstop] at hrest
    cases hrest
  obtain ⟨p', s, rs, cs, hsteps, hturn⟩ := turn_steps hrelays h.orderly hp hstopped o
  have hhead := h.perm (perm_at hp)
  rw [hturn]
  refine ⟨points.set place p', rfl, List.length_set, ?_, ?_⟩
  · exact (hhead.step hsteps).perm (perm_set hp p').symm
  · have hweight := hsteps.weight (hhead.step_free hsteps)
    have hbefore := ((perm_at hp).map Point.load).sum_nat
    have hafter := ((perm_set hp p').map Point.load).sum_nat
    rw [List.map_cons, List.sum_cons] at hbefore hafter
    unfold weight
    rw [hbefore, hafter]
    change 7 * s.free.length + 2 * s.failingClaims + _ + 1 = _
    omega

theorem accords_run (h : Accords s₀ d points) (hrelays : d.relays = points.map Point.rest)
    {turns : List (Nat × Occasion)} (hbusy : d.Busy turns) :
    ∃ points', (d.run turns).relays = points'.map Point.rest ∧
      points'.length = points.length ∧ Accords s₀ (d.run turns) points' ∧
      turns.length + weight (d.run turns).store points' = weight d.store points := by
  induction turns generalizing d points with
  | nil => exact ⟨points, hrelays, rfl, h, Nat.zero_add _⟩
  | cons t turns ih =>
      obtain ⟨hworks, hbusy⟩ := hbusy
      obtain ⟨points₁, hrelays₁, hlength₁, h₁, hweight₁⟩ := accords_turn h hrelays hworks t.2
      obtain ⟨points₂, hrelays₂, hlength₂, h₂, hweight₂⟩ := ih h₁ hrelays₁ hbusy
      refine ⟨points₂, hrelays₂, hlength₂.trans hlength₁, h₂, ?_⟩
      rw [List.length_cons]
      change _ + weight ((d.turn t.1 t.2).run turns).store points₂ = _
      omega

end Drain

end Accounts.Outbox
