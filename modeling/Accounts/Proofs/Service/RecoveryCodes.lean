import Accounts.Proofs.Service.World
import Mathlib.Data.List.Perm.Subperm
/-!
# Recovery codes are used once

Storing recovery codes and using one up are the only two requests that matter for the
codes of a user: every other request leaves them or drops some.  A use succeeds only
while the code is there, and then it is not there any more.

So a code that is there counts as one use that is still to come, and uses that
succeeded and uses to come are never more than the times that the code was stored.
-/

namespace Accounts

/-! ## Uses and stores in a log -/

namespace Exchange

/-- A recovery code of a user was used up. -/
def uses (id : Int) (code : String) : Exchange serviceSurroundings → Bool
  | ⟨.users (.consumeRecoveryCode i c), .ok true⟩ => i == id && c == code
  | _ => false

/-- Recovery codes of a user were stored, and the given one is among them. -/
def stores (id : Int) (code : String) : Exchange serviceSurroundings → Bool
  | ⟨.users (.enableOtp i _ codes), .ok true⟩ => i == id && codes.contains code
  | _ => false

variable {id : Int} {code : String} {x : Exchange serviceSurroundings}

theorem uses_iff : x.uses id code = true ↔
    x = .users (.consumeRecoveryCode id code) (.ok true) := by
  constructor
  · intro h
    unfold uses at h
    split at h
    · obtain ⟨rfl, rfl⟩ : _ = id ∧ _ = code := by simpa using h
      rfl
    · cases h
  · rintro rfl
    simp [uses]

theorem stores_iff : x.stores id code = true ↔
    ∃ secret codes, x = .users (.enableOtp id secret codes) (.ok true) ∧ code ∈ codes := by
  constructor
  · intro h
    unfold stores at h
    split at h
    · next i secret codes =>
        obtain ⟨rfl, hc⟩ : i = id ∧ code ∈ codes := by simpa using h
        exact ⟨secret, codes, rfl, hc⟩
    · cases h
  · rintro ⟨secret, codes, rfl, hc⟩
    simp [stores, hc]

end Exchange

namespace Entry

variable {e : Entry} {id : Int} {code : String}

/-- A code is there only if it was there before or is stored. -/
theorem holds_before (h : e.after.holds id code = true) :
    e.before.holds id code = true ∨ e.exchange.stores id code = true := by
  rcases e.effect with he | ⟨c, hq, heff⟩
  · exact .inl (he ▸ h)
  rcases heff.holds h with hb | ⟨secret, codes, rfl, hc⟩
  · exact .inl hb
  cases hf : e.moment.failure with
  | some x => exact .inl ((exchange_of_some hf hq).2 ▸ h)
  | none =>
      obtain ⟨hx, hafter⟩ := exchange_of_none hf hq
      rcases e.before.enableOtp_cases e.moment.clock id secret codes with hd | hr
      · exact .inl ((hafter.trans hd) ▸ h)
      · exact .inr (Exchange.stores_iff.2 ⟨secret, codes, by rw [hx, hr], hc⟩)

/-- A use takes the code away. -/
theorem holds_of_uses (hd : e.before.Numbered) (h : e.exchange.uses id code = true) :
    e.before.holds id code = true ∧ e.after.holds id code = false :=
  Directory.holds_of_consumed hd (reply_of_ok (Exchange.uses_iff.1 h))

end Entry

namespace World

/-! ## Uses are paid for -/

variable {s : Service} {w w' : World} {id : Int} {code : String}

/-- Uses that succeeded, and the one that is still to come, are paid for by stores; and
a code that was used up is not there until it is stored again. -/
structure Balanced (w : World) (id : Int) (code : String) : Prop where
  /-- Uses are paid for. -/
  paid : (w.log.countP fun e => e.exchange.uses id code) + (w.directory.holds id code).toNat ≤
    w.log.countP fun e => e.exchange.stores id code
  /-- A code that was used up is gone. -/
  gone : ∀ before e after, w.log = before ++ e :: after → e.exchange.uses id code = true →
    (∀ x ∈ after, x.exchange.stores id code = false) → w.directory.holds id code = false

theorem balanced_empty : empty.Balanced id code where
  paid := Nat.le_refl _
  gone := by simp [empty]

theorem Balanced.replied (h : w.Balanced id code) {e : Entry} (rest : Running)
    (hb : e.before = w.directory) (hnum : e.before.Numbered) :
    (w.replied e rest).Balanced id code := by
  refine ⟨?_, ?_⟩
  · have hpaid := h.paid
    rw [← hb] at hpaid
    simp only [World.replied, List.countP_append, List.countP_singleton]
    by_cases huse : e.exchange.uses id code = true
    · obtain ⟨hheld, hgone⟩ := e.holds_of_uses hnum huse
      rw [hheld] at hpaid
      rw [if_pos huse, hgone]
      simp only [Bool.toNat_true, Bool.toNat_false] at hpaid ⊢
      omega
    · rw [if_neg huse]
      cases hafter : e.after.holds id code with
      | false =>
          simp only [Bool.toNat_false]
          omega
      | true =>
          rcases e.holds_before hafter with hheld | hstore
          · rw [hheld] at hpaid
            omega
          · rw [if_pos hstore]
            simp only [Bool.toNat_true]
            omega
  · intro before x after hlog huse hnone
    rcases List.eq_nil_or_concat after with rfl | ⟨after, last, rfl⟩
    · obtain ⟨-, hx⟩ := List.append_inj' hlog rfl
      cases hx
      exact (e.holds_of_uses hnum huse).2
    · rw [List.concat_eq_append] at hlog hnone
      rw [← List.cons_append, ← List.append_assoc] at hlog
      obtain ⟨hold, hlast⟩ := List.append_inj' hlog rfl
      cases hlast
      have hgone := h.gone before x after hold huse fun y hy => hnone y (List.mem_append_left _ hy)
      rw [← hb] at hgone
      by_contra hafter
      rcases e.holds_before (eq_true_of_ne_false hafter) with hheld | hstore
      · exact Bool.false_ne_true (hgone.symm.trans hheld)
      · exact Bool.false_ne_true ((hnone e (by simp)).symm.trans hstore)

theorem Balanced.stepped (h : w.Balanced id code) (hw : w.Coherent s) (hs : Stepped s w w') :
    w'.Balanced id code := by
  cases hs with
  | idle => exact h
  | started call => exact ⟨h.paid, h.gone⟩
  | turned e rest _ hb _ => exact h.replied rest hb (hb ▸ hw.numbered)
  | refused refusing => exact ⟨h.paid, h.gone⟩

/-- Uses and stores are balanced in every run. -/
theorem balanced_run (s : Service) (moves : List Move) (id : Int) (code : String) :
    (empty.run s moves).Balanced id code :=
  (run_induction (P := fun w => w.Balanced id code) .empty balanced_empty
    (fun hw h hs => h.stepped hw hs) moves).2

/-- The calls that used up a recovery code of a user. -/
def passedBy (w : World) (id : Int) (code : String) : List Nat :=
  (List.range w.running.length).filter fun place => (w.trace place).any (·.uses id code)

/-- No more calls used up a code than there are uses of it. -/
theorem length_passedBy_le (w : World) (id : Int) (code : String) :
    (w.passedBy id code).length ≤ w.log.countP fun e => e.exchange.uses id code := by
  rw [List.countP_eq_length_filter, ← List.length_map Entry.call]
  apply List.Subperm.length_le
  apply List.subperm_of_subset (List.nodup_range.filter _)
  intro place hplace
  obtain ⟨x, hx, huse⟩ := List.any_eq_true.1 (List.mem_filter.1 hplace).2
  obtain ⟨e, he, hcall, rfl⟩ := mem_trace.1 hx
  exact List.mem_map.2 ⟨e, List.mem_filter.2 ⟨he, huse⟩, hcall⟩

end World

end Accounts
