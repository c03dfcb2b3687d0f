import Accounts.Proofs.Outbox.LifeCycle
/-!
# The rows that can be claimed

A row is free if it waits and is not locked.  A claim takes the free row that goes before all
other free rows, in the order of their first instants and then of their numbers, so that it is
the only one of them that is not free any more.  To mark a claimed row, or to let go of one that
is marked, makes no difference to which rows are free.
-/

namespace Accounts.Outbox.Store

variable {s : Store} {a b c e x : Envelope}

/-! ## The order of the rows -/

theorem before_iff : before a b = true ↔
    a.createdAt.lt b.createdAt = true ∨ (a.createdAt = b.createdAt ∧ a.id < b.id) := by
  simp [before]

theorem before_trans (h : before a b = true) (k : before b c = true) : before a c = true := by
  rw [before_iff] at h k ⊢
  rcases h with h | ⟨h, hid⟩ <;> rcases k with k | ⟨k, kid⟩
  · exact .inl (Instant.lt_trans h k)
  · exact .inl (k ▸ h)
  · exact .inl (h ▸ k)
  · exact .inr ⟨h.trans k, Int.lt_trans hid kid⟩

/-- Of two rows with different numbers one goes before the other. -/
theorem before_total (h : a.id ≠ b.id) : before a b = true ∨ before b a = true := by
  rw [before_iff, before_iff]
  by_cases hcreated : a.createdAt = b.createdAt
  · rcases Int.lt_or_gt_of_ne h with hlt | hgt
    · exact .inl (.inr ⟨hcreated, hlt⟩)
    · exact .inr (.inr ⟨hcreated.symm, hgt⟩)
  · rcases Instant.lt_total hcreated with hlt | hgt
    · exact .inl (.inl hlt)
    · exact .inr (.inl hgt)

/-- The oldest row goes before all others. -/
theorem before_of_oldest? {es : List Envelope} (h : oldest? es = some e) (hx : x ∈ es)
    (hids : ∀ y ∈ es, ∀ z ∈ es, y.id = z.id → y = z) : x = e ∨ before e x = true := by
  induction es generalizing e x with
  | nil => cases hx
  | cons y es ih =>
      have hids' : ∀ y ∈ es, ∀ z ∈ es, y.id = z.id → y = z := fun y hy z hz =>
        hids y (List.mem_cons_of_mem _ hy) z (List.mem_cons_of_mem _ hz)
      simp only [oldest?, Option.some.injEq] at h
      cases hold : oldest? es with
      | none =>
          rw [hold] at h
          subst h
          rw [oldest?_eq_none.1 hold, List.mem_singleton] at hx
          exact .inl hx
      | some o =>
          simp only [hold] at h
          split at h
          · next hoy =>
              -- The oldest of the others stays the oldest.
              subst h
              rcases List.mem_cons.1 hx with rfl | hx
              · exact .inr hoy
              · exact ih hold hx hids'
          · next hoy =>
              subst h
              rcases List.mem_cons.1 hx with rfl | hx
              · exact .inl rfl
              have hyo : o = y ∨ before y o = true := by
                by_cases hid : o.id = y.id
                · exact .inl (hids o (List.mem_cons_of_mem y (oldest?_mem hold)) y
                    List.mem_cons_self hid)
                · exact .inr ((before_total hid).resolve_left hoy)
              rcases ih hold hx hids' with rfl | hox <;> rcases hyo with rfl | hyo
              · exact .inl rfl
              · exact .inr hyo
              · exact .inr hox
              · exact .inr (before_trans hyo hox)

/-! ## Free rows -/

/-- The rows that wait and are not locked. -/
def free (s : Store) : List Envelope := s.rows.filter s.eligible

theorem eligible_iff : s.eligible e = true ↔ e.status = .created ∧ e.id ∉ s.locked := by
  simp [eligible]

theorem mem_free : e ∈ s.free ↔ e ∈ s.rows ∧ e.status = .created ∧ e.id ∉ s.locked := by
  rw [free, List.mem_filter, eligible_iff]

theorem nodup_free (hn : s.Numbered) : s.free.Nodup :=
  (List.Nodup.of_map _ hn.nodup_ids).filter _

/-- Without locks all rows that wait are free. -/
theorem free_of_unlocked (h : s.locked = []) : s.free = s.waiting :=
  List.filter_congr fun x _ => by simp [eligible, h]

/-- What is claimed next is free and goes before all other free rows. -/
theorem candidate?_first (hn : s.Numbered) (h : s.candidate? = some e) :
    e ∈ s.free ∧ ∀ x ∈ s.free, x = e ∨ before e x = true := by
  refine ⟨oldest?_mem h, fun x hx => before_of_oldest? h hx fun y hy z hz hid => ?_⟩
  exact hn.eq_of_id (mem_free.1 hy).1 (mem_free.1 hz).1 hid

theorem candidate?_eq_none : s.candidate? = none ↔ s.free = [] := oldest?_eq_none

/-- A claim takes one row from the free ones. -/
theorem free_claim (hn : s.Numbered) (he : e ∈ s.free) :
    s.free.Perm (e :: free { s with locked := e.id :: s.locked }) := by
  let locking : Store := { s with locked := e.id :: s.locked }
  have hnew : e ∉ locking.free := fun h => (mem_free.1 h).2.2 List.mem_cons_self
  refine (List.perm_ext_iff_of_nodup (nodup_free hn)
    (List.nodup_cons.2 ⟨hnew, nodup_free (s := locking) hn⟩)).2 fun x => ?_
  rw [List.mem_cons, mem_free, mem_free, List.mem_cons, not_or]
  constructor
  · rintro ⟨hmem, hcreated, hfree⟩
    by_cases hid : x.id = e.id
    · exact .inl (hn.eq_of_id hmem (mem_free.1 he).1 hid)
    · exact .inr ⟨hmem, hcreated, hid, hfree⟩
  · rintro (rfl | ⟨hmem, hcreated, -, hfree⟩)
    · exact mem_free.1 he
    · exact ⟨hmem, hcreated, hfree⟩

/-- To mark a locked row makes no difference to which rows are free. -/
theorem free_setStatus {id : Int} (hid : id ∈ s.locked) (now : Instant) (status : Status) :
    (s.setStatus now id status).free = s.free := by
  have hmarked : ∀ x : Envelope, (s.setStatus now id status).eligible (marked now id status x) =
      s.eligible x ∧ (s.eligible x = true → marked now id status x = x) := by
    intro x
    by_cases hx : x.id = id
    · have hlocked : s.eligible x = false := by simp [eligible, hx, hid]
      have hlocked' : (s.setStatus now id status).eligible (marked now id status x) = false := by
        simp [eligible, (sameMessage_marked now id status x).id, setStatus_eq, hx, hid]
      rw [hlocked, hlocked']
      exact ⟨rfl, fun h => by cases h⟩
    · rw [marked_of_ne hx]
      exact ⟨rfl, fun _ => rfl⟩
  calc (s.setStatus now id status).free
      = (s.rows.map (marked now id status)).filter (s.setStatus now id status).eligible := rfl
    _ = (s.rows.filter s.eligible).map (marked now id status) := by
        rw [List.filter_map]
        exact congrArg _ (List.filter_congr fun x _ => (hmarked x).1)
    _ = s.rows.filter s.eligible := by
        conv_rhs => rw [← List.map_id (s.rows.filter s.eligible)]
        exact List.map_congr_left fun x hx => (hmarked x).2 (List.mem_filter.1 hx).2

/-- To let go of a row that does not wait makes no difference to which rows are free. -/
theorem free_release {id : Int} (h : ∀ x ∈ s.rows, x.id = id → x.status ≠ .created) :
    (s.release id).free = s.free := by
  refine List.filter_congr fun x hx => ?_
  rw [Bool.eq_iff_iff, eligible_iff, eligible_iff]
  refine and_congr_right fun hcreated => ?_
  rw [release, List.mem_erase_of_ne fun hid => h x hx hid hcreated]

end Accounts.Outbox.Store
