import Accounts.Outbox.Store
import Mathlib.Data.List.Nodup
import Mathlib.Data.List.Perm.Basic
/-!
# Rows and their numbers

The rows of an outbox are numbered from 1 on, in their order.  Storing, marking,
claiming and putting back keep this, and every one of them changes at most the
status of a row and the instant of its last change: what a row says, where it goes
and which number it has stay as they were.
-/

namespace Accounts.Outbox

/-! ## One of many -/

/-- The one at a place of a list, and the others. -/
theorem perm_at {α : Type} {xs : List α} {place : Nat} {x : α} (hx : xs[place]? = some x) :
    xs.Perm (x :: xs.eraseIdx place) := by
  obtain ⟨hlt, hget⟩ := List.getElem?_eq_some_iff.1 hx
  have hp := (List.getElem_cons_eraseIdx_perm hlt).symm
  rwa [hget] at hp

/-- Another one at the place, and the others. -/
theorem perm_set {α : Type} {xs : List α} {place : Nat} {x : α} (hx : xs[place]? = some x)
    (x' : α) : (xs.set place x').Perm (x' :: xs.eraseIdx place) :=
  List.set_perm_cons_eraseIdx (List.getElem?_eq_some_iff.1 hx).1 x'

/-! ## What a row keeps -/

/-- Two states of one row: number, topic, payload and first instant agree. -/
structure Envelope.SameMessage (a b : Envelope) : Prop where
  /-- The number agrees. -/
  id : a.id = b.id
  /-- The topic agrees. -/
  topic : a.topic = b.topic
  /-- The payload agrees. -/
  payload : a.payload = b.payload
  /-- The first instant agrees. -/
  createdAt : a.createdAt = b.createdAt

namespace Envelope.SameMessage

theorem refl (e : Envelope) : e.SameMessage e := ⟨rfl, rfl, rfl, rfl⟩

theorem trans {a b c : Envelope} (h : a.SameMessage b) (k : b.SameMessage c) :
    a.SameMessage c :=
  ⟨h.id.trans k.id, h.topic.trans k.topic, h.payload.trans k.payload,
    h.createdAt.trans k.createdAt⟩

theorem key {a b : Envelope} (h : a.SameMessage b) : a.key = b.key := by
  rw [Envelope.key, Envelope.key, h.id]

end Envelope.SameMessage

theorem toDigits_ten_inj {a b : Nat} (h : Nat.toDigits 10 a = Nat.toDigits 10 b) : a = b := by
  rw [← Nat.ofDigitChars_ten_toDigits (n := a), h, Nat.ofDigitChars_ten_toDigits]

/-- Different positive numbers are written differently. -/
theorem Envelope.id_eq_of_key_eq {a b : Envelope} (ha : 0 < a.id) (hb : 0 < b.id)
    (h : a.key = b.key) : a.id = b.id := by
  rw [Envelope.key, Envelope.key, String.ofList_inj, Json.integerChars, Json.integerChars,
    if_neg (by omega), if_neg (by omega)] at h
  have := toDigits_ten_inj h
  omega

namespace Store

/-! ## Numbers -/

/-- The rows are numbered from 1 on, in their order. -/
def Numbered (s : Store) : Prop :=
  s.rows.map Envelope.id = (List.range s.rows.length).map fun k : Nat => (k : Int) + 1

theorem numbered_empty : Numbered empty := rfl

namespace Numbered

variable {s : Store}

theorem nodup_ids (h : s.Numbered) : (s.rows.map Envelope.id).Nodup := by
  rw [h]
  apply List.Nodup.map
  · intro a b hab
    have : (a : Int) + 1 = b + 1 := hab
    omega
  · exact List.nodup_range

theorem pos (h : s.Numbered) {e : Envelope} (he : e ∈ s.rows) : 0 < e.id := by
  have hm : e.id ∈ s.rows.map Envelope.id := List.mem_map_of_mem he
  rw [h] at hm
  obtain ⟨k, _, hk⟩ := List.mem_map.1 hm
  omega

theorem eq_of_id (h : s.Numbered) {a b : Envelope} (ha : a ∈ s.rows) (hb : b ∈ s.rows)
    (hid : a.id = b.id) : a = b :=
  List.inj_on_of_nodup_map h.nodup_ids ha hb hid

theorem eq_of_key (h : s.Numbered) {a b : Envelope} (ha : a ∈ s.rows) (hb : b ∈ s.rows)
    (hkey : a.key = b.key) : a = b :=
  h.eq_of_id ha hb (Envelope.id_eq_of_key_eq (h.pos ha) (h.pos hb) hkey)

theorem nodup_keys (h : s.Numbered) : (s.rows.map Envelope.key).Nodup :=
  List.Nodup.map_on (fun _ ha _ hb hkey => h.eq_of_key ha hb hkey)
    (List.Nodup.of_map _ h.nodup_ids)

theorem id_of_getElem? (h : s.Numbered) {k : Nat} {e : Envelope} (he : s.rows[k]? = some e) :
    e.id = k + 1 := by
  have hid : (s.rows.map Envelope.id)[k]? = some e.id := by rw [List.getElem?_map, he]; rfl
  obtain ⟨hlt, -⟩ := List.getElem?_eq_some_iff.1 he
  rw [h, List.getElem?_map, List.getElem?_range hlt] at hid
  exact (Option.some.inj hid).symm

/-- A row that follows another one has the next number. -/
theorem id_next (h : s.Numbered) {before after : List Envelope} {a b : Envelope}
    (hs : s.rows = before ++ a :: b :: after) : b.id = a.id + 1 := by
  have ha : a.id = before.length + 1 := h.id_of_getElem? (by rw [hs]; simp)
  have hb : b.id = (before.length + 1 : Nat) + 1 := h.id_of_getElem? (by rw [hs]; simp)
  omega

/-- The rows that are added get the next numbers. -/
theorem append (h : s.Numbered) (now : Instant) (events : List NewEnvelope) :
    Numbered { s with rows := s.rows ++ fresh now (s.rows.length + 1) events } := by
  simp only [Numbered, List.map_append, List.length_append, length_fresh]
  rw [h, map_id_fresh, List.range_add, List.map_append, List.map_map]
  congr 1
  apply List.map_congr_left
  intro k _
  simp only [Function.comp_apply, Int.natCast_add]
  omega

/-- A change of rows that keeps their numbers keeps the numbering. -/
theorem map (h : s.Numbered) {f : Envelope → Envelope} (hf : ∀ e, (f e).id = e.id) :
    Numbered { s with rows := s.rows.map f } := by
  have hmap : (s.rows.map f).map Envelope.id = s.rows.map Envelope.id := by
    rw [List.map_map]
    exact List.map_congr_left fun e _ => hf e
  rw [Numbered, hmap, List.length_map]
  exact h

end Numbered

/-! ## Storing -/

/-- What storing does: all events become rows that wait, or nothing happens. -/
theorem append_ok {s s' : Store} {now : Instant} {events : List NewEnvelope} {ids : List Int}
    (h : s.append now events = .ok (ids, s')) :
    s.refusing = false ∧
      s' = { s with rows := s.rows ++ fresh now (s.rows.length + 1) events } := by
  unfold append at h
  split at h
  · cases h
  · next hr =>
      cases h
      exact ⟨by simpa using hr, rfl⟩

/-! ## Marking and putting back -/

theorem sameMessage_requeued (now : Instant) (e : Envelope) :
    (requeued now e).SameMessage e := by
  unfold requeued
  split
  · exact ⟨rfl, rfl, rfl, rfl⟩
  · exact .refl e

/-- Putting back delivers nothing and takes no delivery back. -/
theorem status_requeued_done {now : Instant} {e : Envelope} :
    (requeued now e).status = .done ↔ e.status = .done := by
  unfold requeued
  split
  · next h => simp [h]
  · exact Iff.rfl

theorem requeued_of_created {now : Instant} {e : Envelope} (h : e.status = .created) :
    requeued now e = e :=
  requeued_of_ne (by rw [h]; decide)

/-- The row of a number after it is marked. -/
def marked (now : Instant) (id : Int) (status : Status) (e : Envelope) : Envelope :=
  if e.id == id then { e with status, updatedAt := now } else e

theorem setStatus_eq (s : Store) (now : Instant) (id : Int) (status : Status) :
    s.setStatus now id status = { s with rows := s.rows.map (marked now id status) } := rfl

theorem sameMessage_marked (now : Instant) (id : Int) (status : Status) (e : Envelope) :
    (marked now id status e).SameMessage e := by
  unfold marked
  split
  · exact ⟨rfl, rfl, rfl, rfl⟩
  · exact .refl e

theorem marked_of_ne {now : Instant} {id : Int} {status : Status} {e : Envelope}
    (h : e.id ≠ id) : marked now id status e = e := by
  rw [marked, if_neg (by simpa using h)]

/-- A row that is there can be marked. -/
theorem mark_of_mem {s : Store} {e : Envelope} (he : e ∈ s.rows) (now : Instant)
    (status : Status) : s.mark now e.id status = (.ok (), s.setStatus now e.id status) := by
  have hs : (s.find? e.id).isSome := by
    rw [find?, List.find?_isSome]
    exact ⟨e, he, by simp⟩
  rw [mark, if_pos hs]

end Store

end Accounts.Outbox
