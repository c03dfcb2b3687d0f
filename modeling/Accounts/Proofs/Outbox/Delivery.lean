import Accounts.Proofs.Outbox.Crew
import Accounts.Proofs.Outbox.Rows
/-!
# Every envelope is delivered at most once

The invariant of a crew ties its parts together: the locked numbers are those of the
live claims, each once; a claim that is not marked yet stands for a row that waits;
and the keys on the bus are those of the delivered rows and of the envelopes in
flight, each once.  A stage changes by one question at a time, so there is one lemma
for each question at the stage that allows it, and one for each move of the others.
-/

namespace Accounts.Outbox

/-! ## The invariant -/

/-- The row behind a stage, which waits as long as the stage is not settled. -/
def Stage.Backed (s : Store) : Stage → Prop
  | .free => True
  | .claimed e | .sent e | .refused e =>
    ∃ row ∈ s.rows, row.SameMessage e ∧ row.status = .created
  | .settled e => ∃ row ∈ s.rows, row.SameMessage e

namespace Store

/-- The rows that were delivered. -/
def delivered (s : Store) : List Envelope := s.rows.filter (·.status == .done)

end Store

/-- The numbers of the claims of some stages. -/
def heldIds (stages : List Stage) : List Int := (stages.filterMap Stage.held?).map Envelope.id

/-- The keys of what is in flight at some stages. -/
def sentKeys (stages : List Stage) : List String := (stages.filterMap Stage.sent?).map Envelope.key

/-- Outbox, bus and stages fit together. -/
structure Sound (s : Store) (b : Recorder) (stages : List Stage) : Prop where
  /-- The rows are numbered from 1 on. -/
  numbered : s.Numbered
  /-- What is locked is what is claimed. -/
  locked : s.locked.Perm (heldIds stages)
  /-- Nothing is claimed twice. -/
  distinct : s.locked.Nodup
  /-- Every claim stands for a row. -/
  backed : ∀ st ∈ stages, st.Backed s
  /-- The bus holds what was delivered or is in flight. -/
  keys : (b.messages.map Message.key).Perm (s.delivered.map Envelope.key ++ sentKeys stages)
  /-- Every message on the bus is that of a row. -/
  messages : ∀ m ∈ b.messages, ∃ row ∈ s.rows, row.message = m

theorem Stage.Backed.of_rows {s s' : Store} {st : Stage} (h : st.Backed s)
    (hr : s'.rows = s.rows) : st.Backed s' := by
  cases st with
  | free => trivial
  | claimed e | sent e | refused e | settled e =>
      rw [Stage.Backed, hr]
      exact h

/-- A change of rows that keeps what they say, and that leaves alone the row behind a
stage as long as it waits, keeps the stage backed. -/
theorem Stage.Backed.map {s s' : Store} {st : Stage} (h : st.Backed s) {f : Envelope → Envelope}
    (hf : ∀ row ∈ s.rows, f row ∈ s'.rows ∧ (f row).SameMessage row)
    (hs : ∀ e, st.held? = some e → ∀ row ∈ s.rows, row.id = e.id → row.status = .created →
      (f row).status = .created) : st.Backed s' := by
  cases st with
  | free => trivial
  | claimed e | sent e | refused e =>
      obtain ⟨row, hrow, hsame, hstatus⟩ := h
      have hnew := hf row hrow
      exact ⟨f row, hnew.1, hnew.2.trans hsame, hs e rfl row hrow hsame.id hstatus⟩
  | settled e =>
      obtain ⟨row, hrow, hsame⟩ := h
      have hnew := hf row hrow
      exact ⟨f row, hnew.1, hnew.2.trans hsame⟩

namespace Sound

variable {s s' : Store} {b b' : Recorder} {stages stages' others : List Stage} {st : Stage}
  {e : Envelope}

theorem empty : Sound .empty .empty [] where
  numbered := Store.numbered_empty
  locked := .refl _
  distinct := .nil
  backed := by simp
  keys := .refl _
  messages := by simp [Recorder.empty]

/-- The order of the cycles does not matter. -/
theorem perm (h : Sound s b stages) (p : stages.Perm stages') : Sound s b stages' where
  numbered := h.numbered
  locked := h.locked.trans ((p.filterMap _).map _)
  distinct := h.distinct
  backed := fun st hst => h.backed st (p.mem_iff.2 hst)
  keys := h.keys.trans (((p.filterMap _).map _).append_left _)
  messages := h.messages

/-- The switches of outbox and bus do not matter. -/
theorem of_switches (h : Sound s b stages) (hr : s'.rows = s.rows) (hl : s'.locked = s.locked)
    (hm : b'.messages = b.messages) : Sound s' b' stages where
  numbered := by
    rw [Store.Numbered, hr]
    exact h.numbered
  locked := by
    rw [hl]
    exact h.locked
  distinct := by
    rw [hl]
    exact h.distinct
  backed := fun st hst => (h.backed st hst).of_rows hr
  keys := by
    rw [hm, Store.delivered, hr]
    exact h.keys
  messages := by
    rw [hm, hr]
    exact h.messages

/-- Claims that hold the same envelopes may be at other stages, as long as they are
backed and the same is in flight. -/
theorem of_stage (h : Sound s b (st :: others)) {st' : Stage} (hheld : st'.held? = st.held?)
    (hsent : st'.sent? = st.sent?) (hback : st'.Backed s) : Sound s b (st' :: others) where
  numbered := h.numbered
  locked := by
    have hl := h.locked
    simp only [heldIds, List.filterMap_cons, hheld] at hl ⊢
    exact hl
  distinct := h.distinct
  backed := by
    intro t ht
    rcases List.mem_cons.1 ht with rfl | ht
    · exact hback
    · exact h.backed t (List.mem_cons_of_mem _ ht)
  keys := by
    have hk := h.keys
    simp only [sentKeys, List.filterMap_cons, hsent] at hk ⊢
    exact hk
  messages := h.messages

/-! ## What others do -/

/-- Storing adds rows that wait. -/
theorem append (h : Sound s b stages) {now : Instant} {events : List NewEnvelope}
    {ids : List Int} (ha : s.append now events = .ok (ids, s')) : Sound s' b stages := by
  obtain ⟨_, rfl⟩ := Store.append_ok ha
  have hnone : (Store.fresh now (s.rows.length + 1) events).filter (·.status == .done) = [] := by
    rw [List.filter_eq_nil_iff]
    intro e he
    rw [Store.status_of_mem_fresh he]
    decide
  refine ⟨h.numbered.append now events, h.locked, h.distinct, ?_, ?_, ?_⟩
  · intro st hst
    refine (h.backed st hst).map (f := id) ?_ ?_
    · intro row hrow
      exact ⟨List.mem_append_left _ hrow, .refl row⟩
    · intro _ _ row _ _ hstatus
      exact hstatus
  · rw [Store.delivered, List.filter_append, hnone, List.append_nil]
    exact h.keys
  · intro m hm
    obtain ⟨row, hrow, hmsg⟩ := h.messages m hm
    exact ⟨row, List.mem_append_left _ hrow, hmsg⟩

theorem delivered_requeue (s : Store) (now : Instant) :
    (s.requeueErrors now).2.delivered.map Envelope.key = s.delivered.map Envelope.key := by
  have hdone : ((fun e : Envelope => e.status == .done) ∘ Store.requeued now) =
      fun e => e.status == .done := by
    funext e
    rw [Function.comp_apply, Bool.eq_iff_iff, beq_iff_eq, beq_iff_eq]
    exact Store.status_requeued_done
  rw [Store.delivered, Store.requeueErrors, List.filter_map, hdone, List.map_map]
  apply List.map_congr_left
  intro e _
  exact (Store.sameMessage_requeued now e).key

theorem message_of_sameMessage {a b : Envelope} (h : a.SameMessage b) : a.message = b.message := by
  rw [Envelope.message, Envelope.message, h.topic, h.payload, h.key]

/-- Putting back touches no row that is claimed and not marked. -/
theorem requeue (h : Sound s b stages) (now : Instant) :
    Sound (s.requeueErrors now).2 b stages := by
  refine ⟨h.numbered.map fun e => (Store.sameMessage_requeued now e).id, h.locked, h.distinct,
    ?_, ?_, ?_⟩
  · intro st hst
    refine (h.backed st hst).map (f := Store.requeued now) ?_ ?_
    · intro row hrow
      exact ⟨List.mem_map_of_mem hrow, Store.sameMessage_requeued now row⟩
    · intro _ _ row _ _ hstatus
      rw [Store.requeued_of_created hstatus]
      exact hstatus
  · rw [delivered_requeue]
    exact h.keys
  · intro m hm
    obtain ⟨row, hrow, hmsg⟩ := h.messages m hm
    refine ⟨Store.requeued now row, List.mem_map_of_mem hrow, ?_⟩
    rw [message_of_sameMessage (Store.sameMessage_requeued now row)]
    exact hmsg

/-! ## What a cycle does -/

/-- A new cycle holds nothing. -/
theorem start (h : Sound s b stages) : Sound s b (.free :: stages) where
  numbered := h.numbered
  locked := h.locked
  distinct := h.distinct
  backed := by
    intro st hst
    rcases List.mem_cons.1 hst with rfl | hst
    · trivial
    · exact h.backed st hst
  keys := h.keys
  messages := h.messages

/-- A cycle without a claim goes on for itself. -/
theorem forget (h : Sound s b (.free :: others)) : Sound s b others where
  numbered := h.numbered
  locked := h.locked
  distinct := h.distinct
  backed := fun st hst => h.backed st (List.mem_cons_of_mem _ hst)
  keys := h.keys
  messages := h.messages

/-- A claim locks a row that waits and that nobody else holds. -/
theorem claim (h : Sound s b (.free :: others)) :
    Sound s.claim.2 b (Stage.after .free .claim s.claim.1 :: others) := by
  unfold Store.claim
  split
  · split
    · exact h
    · next e hcand =>
        have hmem := Store.candidate?_mem hcand
        have hel := Store.eligible_of_candidate? hcand
        simp only [Store.eligible, Bool.and_eq_true, beq_iff_eq, Bool.not_eq_true',
          List.contains_eq_mem, decide_eq_false_iff_not] at hel
        obtain ⟨hcreated, hfree⟩ := hel
        refine ⟨h.numbered, h.locked.cons e.id, List.nodup_cons.2 ⟨hfree, h.distinct⟩, ?_,
          h.keys, h.messages⟩
        intro st hst
        rcases List.mem_cons.1 hst with rfl | hst
        · exact ⟨e, hmem, .refl e, hcreated⟩
        · exact (h.backed st (List.mem_cons_of_mem _ hst)).of_rows rfl
  · exact h.of_switches rfl rfl rfl

/-- Publishing puts the message of a claimed row on the bus, or nothing. -/
theorem publish (h : Sound s b (.claimed e :: others)) :
    Sound s (b.publish e.message).2
      (Stage.after (.claimed e) (.publish e.message) (b.publish e.message).1 :: others) := by
  obtain ⟨row, hrow, hsame, hstatus⟩ := h.backed _ List.mem_cons_self
  have hback : (Stage.sent e).Backed s := ⟨row, hrow, hsame, hstatus⟩
  have hmsgs := Recorder.messages_publish b e.message
  cases hr : (b.publish e.message).1 with
  | error reason =>
      rw [hr] at hmsgs
      have hm : (b.publish e.message).2.messages = b.messages := by
        rw [hmsgs]
        exact List.append_nil _
      exact (h.of_switches rfl rfl hm).of_stage rfl rfl ⟨row, hrow, hsame, hstatus⟩
  | ok taken =>
      rw [hr] at hmsgs
      have hm : (b.publish e.message).2.messages = b.messages ++ [e.message] := hmsgs
      refine ⟨h.numbered, h.locked, h.distinct, ?_, ?_, ?_⟩
      · intro st hst
        rcases List.mem_cons.1 hst with rfl | hst
        · exact hback
        · exact h.backed st (List.mem_cons_of_mem _ hst)
      · rw [hm, List.map_append]
        have hkeys : (b.messages.map Message.key ++ [e.message].map Message.key).Perm
            (e.key :: b.messages.map Message.key) := List.perm_append_singleton _ _
        refine hkeys.trans ?_
        exact (h.keys.cons e.key).trans List.perm_middle.symm
      · intro m hmem
        rw [hm, List.mem_append, List.mem_singleton] at hmem
        rcases hmem with hmem | rfl
        · exact h.messages m hmem
        · exact ⟨row, hrow, message_of_sameMessage hsame⟩

/-- The number of a claim is held by no other cycle. -/
theorem id_ne_of_other (h : Sound s b (st :: others)) (he : st.held? = some e)
    {t : Stage} (ht : t ∈ others) {x : Envelope} (hx : t.held? = some x) : x.id ≠ e.id := by
  have hnodup : (heldIds (st :: others)).Nodup := h.locked.nodup_iff.1 h.distinct
  have hcons : heldIds (st :: others) = e.id :: heldIds others := by
    simp [heldIds, he]
  rw [hcons, List.nodup_cons] at hnodup
  intro hid
  apply hnodup.1
  rw [← hid]
  exact List.mem_map_of_mem (List.mem_filterMap.2 ⟨t, ht, hx⟩)

/-- Marking a row changes it alone. -/
theorem map_marked_split (hn : s.Numbered) {row : Envelope} (hrow : row ∈ s.rows) (now : Instant)
    (status : Status) : ∃ before behind, s.rows = before ++ row :: behind ∧
      s.rows.map (Store.marked now row.id status) =
        before ++ { row with status, updatedAt := now } :: behind := by
  obtain ⟨before, behind, hsplit⟩ := List.append_of_mem hrow
  have hids := hn.nodup_ids
  rw [hsplit, List.map_append, List.map_cons, List.nodup_middle, List.nodup_cons,
    ← List.map_append] at hids
  have hother : ∀ x ∈ before ++ behind, Store.marked now row.id status x = x := by
    intro x hx
    apply Store.marked_of_ne
    intro hid
    apply hids.1
    rw [← hid]
    exact List.mem_map_of_mem hx
  have hself : Store.marked now row.id status row = { row with status, updatedAt := now } := by
    simp [Store.marked]
  refine ⟨before, behind, hsplit, ?_⟩
  rw [hsplit, List.map_append, List.map_cons, hself,
    List.map_congr_left fun x hx => hother x (List.mem_append_left _ hx),
    List.map_congr_left fun x hx => hother x (List.mem_append_right _ hx), List.map_id',
    List.map_id']

/-- Marking turns the claim of a row that waits into a settled one; the row counts as
delivered from then on when it is marked so. -/
theorem setStatus (h : Sound s b (st :: others)) (he : st.held? = some e) {row : Envelope}
    (hrow : row ∈ s.rows) (hsame : row.SameMessage e) (now : Instant) {status : Status}
    (hk : (b.messages.map Message.key).Perm
      ((s.setStatus now row.id status).delivered.map Envelope.key ++ sentKeys others)) :
    Sound (s.setStatus now row.id status) b (.settled e :: others) := by
  rw [Store.setStatus_eq] at hk ⊢
  refine ⟨h.numbered.map fun x => (Store.sameMessage_marked now row.id status x).id, ?_,
    h.distinct, ?_, hk, ?_⟩
  · have hl := h.locked
    simp only [heldIds, List.filterMap_cons, he] at hl
    exact hl
  · intro t ht
    rcases List.mem_cons.1 ht with rfl | ht
    · exact ⟨_, List.mem_map_of_mem hrow,
        (Store.sameMessage_marked now row.id status row).trans hsame⟩
    · refine (h.backed t (List.mem_cons_of_mem _ ht)).map
        (f := Store.marked now row.id status) ?_ ?_
      · intro x hx
        exact ⟨List.mem_map_of_mem hx, Store.sameMessage_marked now row.id status x⟩
      · intro x hx y _ hid hstatus
        have hne : y.id ≠ row.id := by
          rw [hid, hsame.id]
          exact h.id_ne_of_other he ht hx
        rw [Store.marked_of_ne hne]
        exact hstatus
  · intro m hm
    obtain ⟨x, hx, hmsg⟩ := h.messages m hm
    refine ⟨_, List.mem_map_of_mem hx, ?_⟩
    rw [message_of_sameMessage (Store.sameMessage_marked now row.id status x)]
    exact hmsg

/-- What was taken by the bus can be marked as delivered. -/
theorem markDone (h : Sound s b (.sent e :: others)) (now : Instant) :
    (s.mark now e.id .done).1 = .ok () ∧
      Sound (s.mark now e.id .done).2 b (.settled e :: others) := by
  obtain ⟨row, hrow, hsame, hstatus⟩ := h.backed _ List.mem_cons_self
  rw [← hsame.id, Store.mark_of_mem hrow]
  refine ⟨rfl, h.setStatus rfl hrow hsame now ?_⟩
  obtain ⟨before, behind, hsplit, hmarked⟩ := map_marked_split h.numbered hrow now .done
  have hwas : s.delivered = before.filter (·.status == .done) ++
      behind.filter (·.status == .done) := by
    rw [Store.delivered, hsplit, List.filter_append, List.filter_cons, hstatus]
    rfl
  have hnow : (s.setStatus now row.id .done).delivered.map Envelope.key =
      (before.filter (·.status == .done)).map Envelope.key ++
        e.key :: (behind.filter (·.status == .done)).map Envelope.key := by
    rw [Store.setStatus_eq, Store.delivered, hmarked, List.filter_append, List.filter_cons,
      List.map_append, ← hsame.key]
    rfl
  have hkeys := h.keys
  rw [hwas, List.map_append] at hkeys
  rw [hnow]
  refine hkeys.trans ?_
  have hmid : (((before.filter (·.status == .done)).map Envelope.key ++
      (behind.filter (·.status == .done)).map Envelope.key) ++ e.key :: sentKeys others).Perm
        (e.key :: (((before.filter (·.status == .done)).map Envelope.key ++
          (behind.filter (·.status == .done)).map Envelope.key) ++ sentKeys others)) :=
    List.perm_middle
  exact hmid.trans ((List.perm_middle.symm.append_right (sentKeys others)))

/-- What was refused by the bus can be marked as failed. -/
theorem markError (h : Sound s b (.refused e :: others)) (now : Instant) :
    (s.mark now e.id .error).1 = .ok () ∧
      Sound (s.mark now e.id .error).2 b (.settled e :: others) := by
  obtain ⟨row, hrow, hsame, hstatus⟩ := h.backed _ List.mem_cons_self
  rw [← hsame.id, Store.mark_of_mem hrow]
  refine ⟨rfl, h.setStatus rfl hrow hsame now ?_⟩
  obtain ⟨before, behind, hsplit, hmarked⟩ := map_marked_split h.numbered hrow now .error
  have hnow : (s.setStatus now row.id .error).delivered = s.delivered := by
    rw [Store.setStatus_eq, Store.delivered, Store.delivered, hmarked, hsplit,
      List.filter_append, List.filter_cons, List.filter_append, List.filter_cons, hstatus]
    rfl
  rw [hnow]
  exact h.keys

/-- Letting go of a claim unlocks its row and no other. -/
theorem release (h : Sound s b (st :: others)) (he : st.held? = some e) (hs : st.sent? = none) :
    Sound (s.release e.id) b (.free :: others) where
  numbered := h.numbered
  locked := by
    have hl := h.locked.erase e.id
    simp only [heldIds, List.filterMap_cons, he, List.map_cons, List.erase_cons_head] at hl
    exact hl
  distinct := h.distinct.erase e.id
  backed := by
    intro t ht
    rcases List.mem_cons.1 ht with rfl | ht
    · trivial
    · exact (h.backed t (List.mem_cons_of_mem _ ht)).of_rows rfl
  keys := by
    have hk := h.keys
    simp only [sentKeys, List.filterMap_cons, hs] at hk
    exact hk
  messages := h.messages

/-! ## What follows -/

theorem sentIds_sublist (stages : List Stage) :
    ((stages.filterMap Stage.sent?).map Envelope.id).Sublist (heldIds stages) := by
  induction stages with
  | nil => exact .refl _
  | cons st stages ih =>
      cases st with
      | free => exact ih
      | sent e => exact ih.cons_cons e.id
      | claimed e | refused e | settled e => exact ih.cons e.id

/-- What is in flight stands for a row that waits. -/
theorem exists_row_of_sent (h : Sound s b stages) (he : e ∈ stages.filterMap Stage.sent?) :
    ∃ row ∈ s.rows, row.SameMessage e ∧ row.status = .created := by
  obtain ⟨st, hst, hsent⟩ := List.mem_filterMap.1 he
  cases st with
  | sent x =>
      cases hsent
      exact h.backed _ hst
  | free | claimed x | refused x | settled x => cases hsent

/-- Nothing is in flight twice. -/
theorem nodup_sentKeys (h : Sound s b stages) : (sentKeys stages).Nodup := by
  have hids : ((stages.filterMap Stage.sent?).map Envelope.id).Nodup :=
    (h.locked.nodup_iff.1 h.distinct).sublist (sentIds_sublist stages)
  refine List.Nodup.map_on ?_ (List.Nodup.of_map _ hids)
  intro x hx y hy hkey
  obtain ⟨rowx, hrowx, hsamex, _⟩ := h.exists_row_of_sent hx
  obtain ⟨rowy, hrowy, hsamey, _⟩ := h.exists_row_of_sent hy
  have hrows : rowx = rowy := h.numbered.eq_of_key hrowx hrowy (by
    rw [hsamex.key, hsamey.key, hkey])
  apply List.inj_on_of_nodup_map hids hx hy
  rw [← hsamex.id, ← hsamey.id, hrows]

/-- No key is on the bus twice. -/
theorem nodup_keys (h : Sound s b stages) : (b.messages.map Message.key).Nodup := by
  rw [h.keys.nodup_iff, List.nodup_append]
  refine ⟨?_, h.nodup_sentKeys, ?_⟩
  · exact h.numbered.nodup_keys.sublist (List.filter_sublist.map _)
  · -- a delivered row does not wait, and what is in flight does
    intro x hx y hy hxy
    obtain ⟨row, hrow, rfl⟩ := List.mem_map.1 hx
    obtain ⟨e, he, rfl⟩ := List.mem_map.1 hy
    obtain ⟨waiting, hwaiting, hsame, hstatus⟩ := h.exists_row_of_sent he
    rw [Store.delivered, List.mem_filter] at hrow
    have heq : row = waiting := h.numbered.eq_of_key hrow.1 hwaiting (by
      rw [hxy, hsame.key])
    rw [heq, hstatus] at hrow
    exact absurd hrow.2 (by decide)

end Sound

/-! ## A crew -/

namespace Crew

variable {c : Crew}

/-- The stages of the cycles. -/
def stages (c : Crew) : List Stage := c.workers.map Worker.stage

/-- Everything fits together, and every cycle keeps to the order of the stages. -/
structure Good (c : Crew) : Prop where
  /-- Outbox, bus and stages fit together. -/
  sound : Sound c.store c.bus c.stages
  /-- Every cycle keeps to the order of the stages. -/
  follows : ∀ w ∈ c.workers, w.stage.Follows w.rest

theorem good_start (now : Instant) : (start now).Good where
  sound := .empty
  follows := by simp [start]

/-- A question that is asked in order keeps outbox, bus and stages together, and gets a
reply that is expected. -/
theorem reply_sound {w : Timeline} {st : Stage} {others : List Stage}
    (h : Sound w.store w.recorder (st :: others)) (metered : Bool) {q : RelayCall}
    (hq : st.Allows q) :
    q.Expected (w.reply metered q).1 ∧
      Sound (w.reply metered q).2.store (w.reply metered q).2.recorder
        (st.after q (w.reply metered q).1 :: others) := by
  cases q with
  | claim =>
      cases st with
      | free => exact ⟨trivial, h.claim⟩
      | claimed e | sent e | refused e | settled e => exact hq.elim
  | publish m =>
      cases st with
      | claimed e =>
          cases hq
          exact ⟨trivial, h.publish⟩
      | free | sent e | refused e | settled e => exact hq.elim
  | mark id status =>
      cases st with
      | sent e =>
          obtain ⟨rfl, rfl⟩ := hq
          obtain ⟨hok, hsound⟩ := h.markDone w.clock
          refine ⟨hok, ?_⟩
          have hreply : (w.reply metered (.mark e.id .done)).1 = .ok () := hok
          rw [hreply]
          exact hsound
      | refused e =>
          obtain ⟨rfl, rfl⟩ := hq
          obtain ⟨hok, hsound⟩ := h.markError w.clock
          refine ⟨hok, ?_⟩
          have hreply : (w.reply metered (.mark e.id .error)).1 = .ok () := hok
          rw [hreply]
          exact hsound
      | free | claimed e | settled e => exact hq.elim
  | release id =>
      cases st with
      | settled e =>
          cases hq
          exact ⟨trivial, h.release rfl rfl⟩
      | free | claimed e | sent e | refused e => exact hq.elim
  | count o =>
      refine ⟨trivial, ?_⟩
      have hafter : st.after (.count o) () = st := by cases st <;> rfl
      show Sound (w.reply metered (.count o)).2.store _ (st.after (.count o) () :: others)
      rw [hafter]
      cases metered <;> exact h
  | note entry =>
      refine ⟨trivial, ?_⟩
      have hafter : st.after (.note entry) () = st := by cases st <;> rfl
      show Sound w.store w.recorder (st.after (.note entry) () :: others)
      rw [hafter]
      exact h

/-- The stage at a place, and the others. -/
theorem stages_perm {place : Nat} {w : Worker} (hw : c.workers[place]? = some w) :
    c.stages.Perm (w.stage :: (c.workers.eraseIdx place).map Worker.stage) :=
  (perm_at hw).map Worker.stage

theorem stages_set_perm {place : Nat} {w : Worker} (hw : c.workers[place]? = some w)
    (w' : Worker) : ((c.workers.set place w').map Worker.stage).Perm
      (w'.stage :: (c.workers.eraseIdx place).map Worker.stage) :=
  (perm_set hw w').map Worker.stage

theorem Good.turn (h : c.Good) (place : Nat) : (c.turn place).Good := by
  unfold Crew.turn
  split
  · next metered st q next hw =>
      have hfollows := h.follows _ (List.mem_of_getElem? hw)
      obtain ⟨hallows, hnext⟩ := hfollows
      obtain ⟨hexpected, hsound⟩ := reply_sound (h.sound.perm (stages_perm hw)) metered hallows
      refine ⟨?_, ?_⟩
      · exact hsound.perm (stages_set_perm hw ⟨metered, st.after q (c.site.reply metered q).1,
          next (c.site.reply metered q).1⟩).symm
      · intro w hmem
        rcases List.mem_or_eq_of_mem_set hmem with hold | rfl
        · exact h.follows w hold
        · exact hnext _ hexpected
  · exact h

theorem Good.abandon (h : c.Good) (place : Nat) : (c.abandon place).Good := by
  unfold Crew.abandon
  split
  · next metered e rest hw =>
      have hsound := (h.sound.perm (stages_perm hw)).release rfl rfl
      refine ⟨hsound.forget, ?_⟩
      intro w hmem
      exact h.follows w (List.mem_of_mem_eraseIdx hmem)
  · exact h

/-- Every move keeps everything together. -/
theorem Good.step (h : c.Good) (m : Move) : (c.step m).Good := by
  cases m with
  | start metered =>
      refine ⟨?_, ?_⟩
      · have hp : ((c.workers ++ [(⟨metered, .free, cycle⟩ : Worker)]).map Worker.stage).Perm
            (.free :: c.stages) := by
          rw [List.map_append]
          exact List.perm_append_singleton _ _
        exact h.sound.start.perm hp.symm
      · intro w hmem
        rcases List.mem_append.1 hmem with hold | hnew
        · exact h.follows w hold
        · rw [List.mem_singleton.1 hnew]
          exact Stage.follows_cycle
  | turn place => exact h.turn place
  | abandon place => exact h.abandon place
  | append events =>
      simp only [Crew.step]
      split
      · next ids s hs => exact ⟨h.sound.append hs, h.follows⟩
      · exact h
  | requeue => exact ⟨h.sound.requeue c.site.clock, h.follows⟩
  | clock now => exact ⟨h.sound, h.follows⟩
  | refuse refusing => exact ⟨h.sound.of_switches rfl rfl rfl, h.follows⟩
  | failClaims count => exact ⟨h.sound.of_switches rfl rfl rfl, h.follows⟩
  | failNext count => exact ⟨h.sound.of_switches rfl rfl rfl, h.follows⟩
  | failTopic topic => exact ⟨h.sound.of_switches rfl rfl rfl, h.follows⟩

theorem Good.run (h : c.Good) (moves : List Move) : (c.run moves).Good := by
  induction moves generalizing c with
  | nil => exact h
  | cons m moves ih => exact ih (h.step m)

theorem sentKeys_stages (c : Crew) : sentKeys c.stages = c.inFlight.map Envelope.key := by
  rw [sentKeys, stages, List.filterMap_map]
  rfl

/-- However cycles, events and operators take turns, no key is on the bus twice.  The keys
on the bus are those of the rows that were delivered and of the envelopes that the bus
took and that are not marked yet; each of these is locked, and its row waits.  Every
message is that of the one row with its key.  So a row that is neither delivered nor in
flight was never on the bus. -/
theorem delivered_exactly_once (now : Instant) (moves : List Move) :
    let c := (start now).run moves
    (c.bus.messages.map Message.key).Nodup ∧
      (c.bus.messages.map Message.key).Perm ((c.store.delivered ++ c.inFlight).map Envelope.key) ∧
      (∀ e ∈ c.inFlight, e.id ∈ c.store.locked ∧
        ∃ row ∈ c.store.rows, row.key = e.key ∧ row.status = .created) ∧
      (∀ m ∈ c.bus.messages, ∃ row ∈ c.store.rows, row.key = m.key ∧
        m.topic = row.topic ∧ m.payload = row.payload.text ∧
        ∀ other ∈ c.store.rows, other.key = m.key → other = row) ∧
      ∀ row ∈ c.store.rows, row.status ≠ .done → (∀ e ∈ c.inFlight, e.key ≠ row.key) →
        ∀ m ∈ c.bus.messages, m.key ≠ row.key := by
  intro c
  have h : c.Good := (good_start now).run moves
  have hkeys := h.sound.keys
  rw [sentKeys_stages, ← List.map_append] at hkeys
  refine ⟨h.sound.nodup_keys, hkeys, ?_, ?_, ?_⟩
  · intro e he
    have hsent : e ∈ c.stages.filterMap Stage.sent? := by
      rw [stages, List.filterMap_map]
      exact he
    refine ⟨?_, ?_⟩
    · rw [h.sound.locked.mem_iff]
      exact (Sound.sentIds_sublist c.stages).subset (List.mem_map_of_mem hsent)
    · obtain ⟨row, hrow, hsame, hstatus⟩ := h.sound.exists_row_of_sent hsent
      exact ⟨row, hrow, hsame.key, hstatus⟩
  · intro m hm
    obtain ⟨row, hrow, rfl⟩ := h.sound.messages m hm
    refine ⟨row, hrow, rfl, rfl, rfl, ?_⟩
    intro other hother hkey
    exact h.sound.numbered.eq_of_key hother hrow hkey
  · intro row hrow hstatus hflight m hm hkey
    have hmem : row.key ∈ (c.store.delivered ++ c.inFlight).map Envelope.key := by
      rw [← hkeys.mem_iff, ← hkey]
      exact List.mem_map_of_mem hm
    obtain ⟨e, he, hekey⟩ := List.mem_map.1 hmem
    rcases List.mem_append.1 he with hdone | hsent
    · rw [Store.delivered, List.mem_filter, beq_iff_eq] at hdone
      have heq := h.sound.numbered.eq_of_key hdone.1 hrow hekey
      exact hstatus (heq ▸ hdone.2)
    · exact hflight e hsent hekey

end Crew

end Accounts.Outbox
