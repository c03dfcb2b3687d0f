import Accounts.Proofs.Outbox.Crew
import Accounts.Proofs.Outbox.LifeCycle
/-!
# What a relay asked

A *deed* is a question of a relay, with the surroundings in which it was asked.  From the deeds
of a relay alone it follows what it did with its claims: its stage, which envelopes it claimed,
which of them it marked and let go of.

`Deed.Lawful` says that the deeds keep to the order of the stages.  Then a relay at the stage
`free` marked every envelope that it claimed, and let go of it (`Deed.Lawful.settles`); and no
deed touches a row of which the relay does not hold the claim (`Deed.keeps`).  Both hold
whatever others do between two deeds.
-/

namespace Accounts.Outbox

/-! ## Stages and claims -/

namespace Stage

/-- The live claim. -/
def claim? : Stage → Option Claim
  | free => none
  | claimed e | sent e | refused e => some ⟨e, false⟩
  | settled e => some ⟨e, true⟩

end Stage

namespace RelayCall

/-- The envelope that a reply gives. -/
def claimed? : (q : RelayCall) → q.Reply → Option Envelope
  | .claim, .ok (some e) => some e
  | _, _ => none

/-- The number that is marked, and how. -/
def marked? : (q : RelayCall) → q.Reply → Option (Int × Status)
  | .mark id status, .ok () => some (id, status)
  | _, _ => none

def isClaim : RelayCall → Bool
  | .claim => true
  | _ => false

def isPublish : RelayCall → Bool
  | .publish _ => true
  | _ => false

end RelayCall

namespace Stage

variable {st : Stage} {e : Envelope} {q : RelayCall} {r : q.Reply}

/-- A claim that is not marked stays so, or its envelope is marked. -/
theorem after_of_unmarked (hst : st.claim? = some ⟨e, false⟩) (hq : st.Allows q)
    (hr : q.Expected r) :
    (st.after q r).claim? = some ⟨e, false⟩ ∨
      st.after q r = .settled e ∧
        ∃ delivered, q.marked? r = some (e.id, Clients.verdict delivered) := by
  cases st with
  | free => cases hst
  | settled x => cases hst
  | claimed x =>
      cases hst
      cases q with
      | publish m =>
          left
          cases r with
          | ok taken => rfl
          | error reason => rfl
      | count o => exact .inl rfl
      | note entry => exact .inl rfl
      | claim | mark | release => exact hq.elim
  | sent x =>
      cases hst
      cases q with
      | mark id status =>
          obtain ⟨rfl, rfl⟩ := hq
          cases hr
          exact .inr ⟨rfl, true, rfl⟩
      | count o => exact .inl rfl
      | note entry => exact .inl rfl
      | claim | publish | release => exact hq.elim
  | refused x =>
      cases hst
      cases q with
      | mark id status =>
          obtain ⟨rfl, rfl⟩ := hq
          cases hr
          exact .inr ⟨rfl, false, rfl⟩
      | count o => exact .inl rfl
      | note entry => exact .inl rfl
      | claim | publish | release => exact hq.elim

/-- A claim that is marked is let go of, or stays as it is. -/
theorem after_of_settled (hq : (settled e).Allows q) :
    (settled e).after q r = settled e ∨ q = .release e.id := by
  cases q with
  | release id =>
      cases hq
      exact .inr rfl
  | count o => exact .inl rfl
  | note entry => exact .inl rfl
  | claim | publish | mark => exact hq.elim

/-- What is claimed after a question was claimed before it, or by it. -/
theorem held?_after (h : (st.after q r).held? = some e) :
    st.held? = some e ∨ q.claimed? r = some e := by
  unfold after at h
  split at h
  · exact .inr h
  · exact .inl h
  · exact .inl h
  · exact .inl h
  · exact .inl h
  · cases h
  · exact .inl h

theorem after_of_claimed (hq : st.Allows q) (h : q.claimed? r = some e) :
    st.after q r = claimed e := by
  cases q with
  | claim =>
      cases st with
      | free =>
          match r, h with
          | .ok (some x), h => cases h; rfl
      | claimed | sent | refused | settled => exact hq.elim
  | publish | mark | release | count | note => cases h

end Stage

/-! ## What a cycle asks but once -/

/-- No such question is asked. -/
def AsksNo (p : RelayCall → Bool) {α : Type} : Relaying α → Prop
  | .done _ => True
  | .ask q next => p q = false ∧ ∀ r, AsksNo p (next r)

/-- One such question is asked at most. -/
def AsksOnce (p : RelayCall → Bool) {α : Type} : Relaying α → Prop
  | .done _ => True
  | .ask q next =>
    (p q = true ∧ ∀ r, AsksNo p (next r)) ∨ (p q = false ∧ ∀ r, AsksOnce p (next r))

theorem AsksNo.mono {p p' : RelayCall → Bool} {α : Type} {rest : Relaying α} (h : AsksNo p rest)
    (hp : ∀ q, p q = false → p' q = false) : AsksNo p' rest := by
  induction rest with
  | done a => trivial
  | ask q next ih => exact ⟨hp q h.1, fun r => ih r (h.2 r)⟩

theorem asksNo_finishDelivered (e : Envelope) :
    AsksNo (fun q => q.isClaim || q.isPublish) (finishDelivered e) := by
  refine ⟨rfl, fun marked => ⟨rfl, fun _ => ?_⟩⟩
  match marked with
  | .ok () => exact ⟨rfl, fun _ => ⟨rfl, fun _ => trivial⟩⟩
  | .error _ => trivial

theorem asksNo_finishRefused (e : Envelope) (reason : OutboxError) :
    AsksNo (fun q => q.isClaim || q.isPublish) (finishRefused e reason) := by
  refine ⟨rfl, fun _ => ⟨rfl, fun marked => ⟨rfl, fun _ => ?_⟩⟩⟩
  match marked with
  | .ok () => exact ⟨rfl, fun _ => trivial⟩
  | .error _ => trivial

/-- With a claim a cycle turns to the bus, and then asks for neither a claim nor the bus. -/
theorem afterClaim_some (e : Envelope) :
    ∃ next, afterClaim (.ok (some e)) = .ask (.publish e.message) next ∧
      ∀ taken, AsksNo (fun q => q.isClaim || q.isPublish) (next taken) := by
  refine ⟨_, rfl, fun taken => ?_⟩
  match taken with
  | .ok () => exact asksNo_finishDelivered e
  | .error reason => exact asksNo_finishRefused e reason

/-- A cycle asks for one claim only, as the first thing. -/
theorem asksNo_claim_afterClaim (claim : Except OutboxError (Option Envelope)) :
    AsksNo RelayCall.isClaim (afterClaim claim) := by
  match claim with
  | .error _ => trivial
  | .ok none => trivial
  | .ok (some e) =>
      obtain ⟨next, hnext, hno⟩ := afterClaim_some e
      rw [hnext]
      exact ⟨rfl, fun taken => (hno taken).mono fun q hq => (Bool.or_eq_false_iff.1 hq).1⟩

/-- A cycle waits for the bus once at most. -/
theorem asksOnce_publish_cycle : AsksOnce RelayCall.isPublish cycle := by
  refine .inr ⟨rfl, fun claim => ?_⟩
  match claim with
  | .error _ => trivial
  | .ok none => trivial
  | .ok (some e) =>
      obtain ⟨next, hnext, hno⟩ := afterClaim_some e
      rw [hnext]
      exact .inl ⟨rfl, fun taken => (hno taken).mono fun q hq => (Bool.or_eq_false_iff.1 hq).2⟩

/-! ## Replies -/

namespace Store

variable {s : Store} {id : Int}

theorem statusOf_setStatus (h : (s.find? id).isSome) (now : Instant) (status : Status) :
    (s.setStatus now id status).statusOf id = some status := by
  obtain ⟨e, he⟩ := Option.isSome_iff_exists.1 h
  rw [find?] at he
  have hid : (e.id == id) = true := by simpa using List.find?_some he
  have hcomp : ((fun x : Envelope => x.id == id) ∘ marked now id status) = (·.id == id) := by
    funext x
    rw [Function.comp_apply, (sameMessage_marked now id status x).id]
  rw [statusOf, find?, setStatus_eq, List.find?_map, hcomp]
  rw [he, Option.map_some, Option.map_some, marked, if_pos hid]

theorem statusOf_of_mark {now : Instant} {status : Status}
    (h : (s.mark now id status).1 = .ok ()) :
    (s.mark now id status).2.statusOf id = some status := by
  unfold mark at h ⊢
  split
  · next hfound => exact statusOf_setStatus hfound now status
  · next hmissing =>
      rw [if_neg hmissing] at h
      cases h

end Store

namespace Timeline

variable {w : Timeline} {st : Stage} {others : List Claim} {q : RelayCall}

@[simp] theorem store_reply_count (w : Timeline) (metered : Bool) (o : Outcome) :
    (w.reply metered (.count o)).2.store = w.store := by
  cases metered <;> rfl

/-- What is claimed by a free relay is claimed by it alone. -/
theorem claim_orderly (h : Clients.Orderly w.store others) :
    Clients.Orderly w.store.claim.2
      ((Stage.after .free .claim w.store.claim.1).claim?.toList ++ others) := by
  rcases Clients.claim_cases w.store with ⟨e, hc, hmem, hcreated, hfree⟩ | ⟨r, count, hc, hr⟩
  · rw [hc]
    exact h.claim hmem hcreated hfree
  · have hstay : Stage.after .free .claim r = .free := by
      match r with
      | .ok (some e) => exact absurd rfl (hr e)
      | .ok none => rfl
      | .error f => rfl
    rw [hc, hstay]
    exact h.of_switches rfl rfl

/-- A claim that is not marked can be marked. -/
theorem mark_orderly {e : Envelope} (h : Clients.Orderly w.store (⟨e, false⟩ :: others))
    (metered delivered : Bool) :
    (w.reply metered (.mark e.id (Clients.verdict delivered))).1 = .ok () ∧
      Clients.Orderly (w.reply metered (.mark e.id (Clients.verdict delivered))).2.store
        (⟨e, true⟩ :: others) := by
  obtain ⟨hm, hnext⟩ := h.mark w.clock (Clients.verdict delivered)
  show (w.store.mark w.clock e.id _).1 = _ ∧ Clients.Orderly (w.store.mark w.clock e.id _).2 _
  rw [hm]
  exact ⟨rfl, hnext⟩

/-- A question that is asked in order keeps rows, locks and claims together, and gets a reply
that is expected. -/
theorem reply_orderly (h : Clients.Orderly w.store (st.claim?.toList ++ others))
    (metered : Bool) (hq : st.Allows q) :
    q.Expected (w.reply metered q).1 ∧
      Clients.Orderly (w.reply metered q).2.store
        ((st.after q (w.reply metered q).1).claim?.toList ++ others) := by
  cases q with
  | claim =>
      cases st with
      | free => exact ⟨trivial, claim_orderly h⟩
      | claimed | sent | refused | settled => exact hq.elim
  | publish m =>
      cases st with
      | claimed e =>
          have hsame : ∀ r : Except OutboxError Unit,
              (Stage.after (.claimed e) (.publish m) r).claim? = some ⟨e, false⟩ := by
            rintro (reason | taken) <;> rfl
          refine ⟨trivial, ?_⟩
          rw [hsame (w.reply metered (.publish m)).1]
          exact h
      | free | sent | refused | settled => exact hq.elim
  | mark id status =>
      cases st with
      | sent e =>
          obtain ⟨rfl, rfl⟩ := hq
          obtain ⟨hok, hnext⟩ := mark_orderly h metered true
          refine ⟨hok, ?_⟩
          have hafter : Stage.after (.sent e) (.mark e.id .done)
              (w.reply metered (.mark e.id .done)).1 = .settled e := hok ▸ rfl
          rw [hafter]
          exact hnext
      | refused e =>
          obtain ⟨rfl, rfl⟩ := hq
          obtain ⟨hok, hnext⟩ := mark_orderly h metered false
          refine ⟨hok, ?_⟩
          have hafter : Stage.after (.refused e) (.mark e.id .error)
              (w.reply metered (.mark e.id .error)).1 = .settled e := hok ▸ rfl
          rw [hafter]
          exact hnext
      | free | claimed | settled => exact hq.elim
  | release id =>
      cases st with
      | settled e =>
          cases hq
          exact ⟨trivial, h.release⟩
      | free | claimed | sent | refused => exact hq.elim
  | count o =>
      have hstay : st.after (.count o) () = st := by cases st <;> rfl
      refine ⟨trivial, ?_⟩
      show Clients.Orderly _ ((st.after (.count o) ()).claim?.toList ++ others)
      rw [hstay, store_reply_count]
      exact h
  | note entry =>
      have hstay : st.after (.note entry) () = st := by cases st <;> rfl
      refine ⟨trivial, ?_⟩
      show Clients.Orderly w.store ((st.after (.note entry) ()).claim?.toList ++ others)
      rw [hstay]
      exact h

end Timeline

/-! ## Deeds -/

/-- A question of a relay. -/
structure Deed where
  /-- The place of the relay. -/
  runner : Nat
  /-- The relay counts what it does. -/
  metered : Bool
  /-- The outbox, the bus, the figures and the clock before. -/
  site : Timeline
  /-- The question. -/
  query : RelayCall

namespace Deed

def reply (d : Deed) : d.query.Reply := (d.site.reply d.metered d.query).1

/-- The surroundings afterwards. -/
def after (d : Deed) : Timeline := (d.site.reply d.metered d.query).2

/-- The envelope that it claims. -/
def claimed? (d : Deed) : Option Envelope := d.query.claimed? d.reply

/-- It marks an envelope as delivered or as failed, and so it stands afterwards. -/
def Settles (d : Deed) (e : Envelope) : Prop :=
  ∃ delivered, d.query.marked? d.reply = some (e.id, Clients.verdict delivered) ∧
    d.after.store.statusOf e.id = some (Clients.verdict delivered)

/-- The stage to which deeds lead. -/
def stage (st : Stage) (deeds : List Deed) : Stage :=
  deeds.foldl (fun st d => st.after d.query d.reply) st

/-- Every deed is in order, and gets a reply that is expected. -/
def Lawful : Stage → List Deed → Prop
  | _, [] => True
  | st, d :: deeds =>
    st.Allows d.query ∧ d.query.Expected d.reply ∧ Lawful (st.after d.query d.reply) deeds

/-- How many claims were asked for. -/
def claimsAsked (deeds : List Deed) : Nat := deeds.countP (·.query.isClaim)

variable {st : Stage} {deeds past rest : List Deed} {d : Deed} {e : Envelope}

theorem stage_append (st : Stage) (past rest : List Deed) :
    stage st (past ++ rest) = stage (stage st past) rest := List.foldl_append

theorem stage_cons (st : Stage) (d : Deed) (deeds : List Deed) :
    stage st (d :: deeds) = stage (st.after d.query d.reply) deeds := rfl

theorem lawful_append :
    Lawful st (past ++ rest) ↔ Lawful st past ∧ Lawful (stage st past) rest := by
  induction past generalizing st with
  | nil => simp [Lawful, stage]
  | cons d past ih => simp only [List.cons_append, Lawful, ih, stage_cons, and_assoc]

theorem statusOf_of_marked {id : Int} {status : Status}
    (h : d.query.marked? d.reply = some (id, status)) :
    d.after.store.statusOf id = some status := by
  obtain ⟨runner, metered, site, q⟩ := d
  cases q with
  | mark id' status' =>
      have hok : (site.store.mark site.clock id' status').1 = .ok () := by
        match hr : (site.store.mark site.clock id' status').1 with
        | .ok () => rfl
        | .error f =>
            have hreply : (⟨runner, metered, site, .mark id' status'⟩ : Deed).reply = .error f := hr
            rw [hreply] at h
            cases h
      have hreply : (⟨runner, metered, site, .mark id' status'⟩ : Deed).reply = .ok () := hok
      rw [hreply] at h
      cases h
      exact Store.statusOf_of_mark hok
  | claim =>
      revert h
      generalize (⟨runner, metered, site, .claim⟩ : Deed).reply = r
      match r with
      | .ok _ | .error _ => exact nofun
  | publish | release | count | note => cases h

/-- An envelope that is claimed is one that some deed claimed. -/
theorem claimed_of_held (h : (stage st deeds).held? = some e) :
    st.held? = some e ∨ ∃ d ∈ deeds, d.claimed? = some e := by
  induction deeds generalizing st with
  | nil => exact .inl h
  | cons d deeds ih =>
      rcases ih h with hnow | ⟨x, hx, hxe⟩
      · rcases Stage.held?_after hnow with hold | hnew
        · exact .inl hold
        · exact .inr ⟨d, List.mem_cons_self, hnew⟩
      · exact .inr ⟨x, List.mem_cons_of_mem d hx, hxe⟩

/-! ## Every claim is settled -/

/-- A claim that is marked is let go of before the relay is free. -/
theorem Lawful.releases (h : Lawful (.settled e) deeds) (hfree : stage (.settled e) deeds = .free) :
    ∃ past d rest, deeds = past ++ d :: rest ∧ d.query = .release e.id := by
  induction deeds with
  | nil => cases hfree
  | cons d deeds ih =>
      obtain ⟨hallows, -, hrest⟩ := h
      rcases Stage.after_of_settled (r := d.reply) hallows with hstay | hrelease
      · rw [stage_cons, hstay] at hfree
        rw [hstay] at hrest
        obtain ⟨past, x, rest, rfl, hx⟩ := ih hrest hfree
        exact ⟨d :: past, x, rest, rfl, hx⟩
      · exact ⟨[], d, deeds, rfl, hrelease⟩

/-- A claim that is not marked is marked and let go of before the relay is free. -/
theorem Lawful.settles_of_unmarked (h : Lawful st deeds) (hst : st.claim? = some ⟨e, false⟩)
    (hfree : stage st deeds = .free) :
    ∃ past m between d rest, deeds = past ++ m :: between ++ d :: rest ∧
      m.Settles e ∧ d.query = .release e.id := by
  induction deeds generalizing st with
  | nil =>
      obtain rfl : st = .free := hfree
      cases hst
  | cons d deeds ih =>
      obtain ⟨hallows, hexpected, hrest⟩ := h
      rcases Stage.after_of_unmarked hst hallows hexpected with hstay | ⟨hset, delivered, hm⟩
      · obtain ⟨past, m, between, x, rest, rfl, hmx⟩ := ih hrest hstay hfree
        exact ⟨d :: past, m, between, x, rest, rfl, hmx⟩
      · rw [stage_cons, hset] at hfree
        rw [hset] at hrest
        obtain ⟨between, x, rest, rfl, hx⟩ := hrest.releases hfree
        exact ⟨[], d, between, x, rest, rfl, ⟨delivered, hm, statusOf_of_marked hm⟩, hx⟩

/-- A relay that is free marked every envelope that it claimed, and then let go of it. -/
theorem Lawful.settles (h : Lawful st deeds) (hfree : stage st deeds = .free)
    (hsplit : deeds = past ++ d :: rest) (hd : d.claimed? = some e) :
    ∃ before m between x after, rest = before ++ m :: between ++ x :: after ∧
      m.Settles e ∧ x.query = .release e.id := by
  subst hsplit
  obtain ⟨-, hallows, -, hrest⟩ := lawful_append.1 h
  rw [stage_append, stage_cons] at hfree
  have hclaimed := Stage.after_of_claimed hallows hd
  exact hrest.settles_of_unmarked (by rw [hclaimed]; rfl) hfree

/-! ## Other rows -/

theorem length_rows_after (d : Deed) : d.after.store.rows.length = d.site.store.rows.length := by
  obtain ⟨runner, metered, site, q⟩ := d
  cases q with
  | claim => exact congrArg List.length (Store.rows_claim site.store)
  | mark id status =>
      show (site.store.mark site.clock id status).2.rows.length = _
      unfold Store.mark
      split
      · rw [Store.setStatus_eq]
        exact List.length_map _
      · rfl
  | count o =>
      show (site.reply metered (.count o)).2.store.rows.length = _
      rw [Timeline.store_reply_count]
  | publish | release | note => rfl

/-- A deed in order leaves a row and its lock alone, unless its relay holds the claim on the row
before or afterwards. -/
theorem keeps (h : st.Allows d.query) {place : Nat} {row : Envelope}
    (hrow : d.site.store.rows[place]? = some row)
    (hother : ∀ x, st.held? = some x ∨ d.claimed? = some x → x.id ≠ row.id) :
    d.after.store.rows[place]? = some row ∧
      (row.id ∈ d.after.store.locked ↔ row.id ∈ d.site.store.locked) := by
  obtain ⟨runner, metered, site, q⟩ := d
  cases q with
  | claim =>
      show site.store.claim.2.rows[place]? = _ ∧ (_ ∈ site.store.claim.2.locked ↔ _)
      refine ⟨by rw [Store.rows_claim]; exact hrow, ?_⟩
      rcases Clients.claim_cases site.store with ⟨x, hc, -⟩ | ⟨r, count, hc, -⟩
      · have hx : (⟨runner, metered, site, .claim⟩ : Deed).claimed? = some x := by
          show RelayCall.claimed? .claim site.store.claim.1 = _
          rw [hc]
          rfl
        rw [hc, List.mem_cons, or_iff_right (Ne.symm (hother x (.inr hx)))]
      · rw [hc]
  | mark id status =>
      have hid : ∃ x, st.held? = some x ∧ id = x.id := by
        cases st with
        | sent x => exact ⟨x, rfl, h.1⟩
        | refused x => exact ⟨x, rfl, h.1⟩
        | free | claimed | settled => exact h.elim
      obtain ⟨x, hx, rfl⟩ := hid
      show (site.store.mark site.clock x.id status).2.rows[place]? = _ ∧
        (_ ∈ (site.store.mark site.clock x.id status).2.locked ↔ _)
      refine ⟨?_, by rw [Store.locked_mark]⟩
      unfold Store.mark
      split
      · rw [Store.setStatus_eq, List.getElem?_map, hrow, Option.map_some,
          Store.marked_of_ne (Ne.symm (hother x (.inl hx)))]
      · exact hrow
  | release id =>
      cases st with
      | settled x =>
          cases h
          exact ⟨hrow, List.mem_erase_of_ne (Ne.symm (hother x (.inl rfl)))⟩
      | free | claimed | sent | refused => exact h.elim
  | count o =>
      show (site.reply metered (.count o)).2.store.rows[place]? = _ ∧ _
      rw [after, Timeline.store_reply_count]
      exact ⟨hrow, .rfl⟩
  | publish | note => exact ⟨hrow, .rfl⟩

end Deed

end Accounts.Outbox
