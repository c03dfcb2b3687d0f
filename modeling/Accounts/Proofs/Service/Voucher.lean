import Accounts.Proofs.Service.Announcements
import Accounts.Proofs.Service.History
/-!
# Codes that are issued and redeemed

Activation codes and reset codes go the same way: a request gives a code to a user, who
holds it, and another request takes it away and does what the code is for.  A `Voucher`
is such a kind of code.

A code that is held counts as one time that it can still be redeemed.  So it was
redeemed, and can be redeemed, no more often than it was issued; and when no code is
made up twice, it was issued once at most, because the call that made it up is granted
one change at most.
-/

namespace Accounts

open Operation (Trace)

/-- A kind of code that users hold until they redeem it. -/
structure Voucher where
  /-- The code that a user holds. -/
  held : User → Option String
  /-- The code that a request gives to somebody. -/
  issues : DirectoryCall → Option String
  /-- The code that a request takes from somebody. -/
  redeems : DirectoryCall → Option String
  /-- A new user holds what the request gives that adds it. -/
  held_new : ∀ id n events, held (User.ofNew id n) = issues (.create n events)
  /-- Adding a user takes nothing. -/
  redeems_create : ∀ n events, redeems (.create n events) = none
  /-- What may go unnoticed takes nothing. -/
  redeems_silent : ∀ {c}, c.silent = true → redeems c = none
  /-- What is taken was held, and it is not held any more. -/
  held_redeemed : ∀ {c u code}, c.fits u = true → redeems c = some code →
    held u = some code ∧ held (c.edit u) = none
  /-- Nothing else takes a code away without giving another one. -/
  held_edit : ∀ {c u}, c.fits u = true → redeems c = none →
    held (c.edit u) = (issues c).or (held u)
  /-- A call gives only what it made up. -/
  made_up : ∀ {call : Call} {t c code}, call.Makes t c → issues c = some code →
    code ∈ call.madeUp

namespace Voucher

/-- Codes that activate an account. -/
def activation : Voucher where
  held := User.activationCode
  issues
    | .create n _ => some n.activationCode
    | _ => none
  redeems
    | .activate code _ _ => some code
    | _ => none
  held_new _ _ _ := rfl
  redeems_create _ _ := rfl
  redeems_silent {c} h := by cases c <;> first | rfl | cases h
  held_redeemed {c u code} hfits h := by
    cases c with
    | activate =>
        cases h
        exact ⟨by simpa [DirectoryCall.fits] using hfits, rfl⟩
    | _ => cases h
  held_edit {c u} hfits h := by
    cases c with
    | activate => cases h
    | create => cases hfits
    | _ => rfl
  made_up {call t c code} hmakes h := by
    cases c with
    | create n events =>
        cases h
        obtain ⟨r, a, rfl, -, rfl⟩ := hmakes
        simp [Call.madeUp, Operation.newUser]
    | _ => cases h

/-- Codes that are good for a new password. -/
def reset : Voucher where
  held := User.resetPasswordCode
  issues
    | .setResetCode _ code _ _ => some code
    | _ => none
  redeems
    | .resetPassword code _ _ => some code
    | _ => none
  held_new _ _ _ := rfl
  redeems_create _ _ := rfl
  redeems_silent {c} h := by cases c <;> first | rfl | cases h
  held_redeemed {c u code} hfits h := by
    cases c with
    | resetPassword =>
        cases h
        exact ⟨by simpa [DirectoryCall.fits] using hfits, rfl⟩
    | _ => cases h
  held_edit {c u} hfits h := by
    cases c with
    | resetPassword => cases h
    | _ => rfl
  made_up {call t c code} hmakes h := by
    cases c with
    | setResetCode id code' now events =>
        cases h
        obtain ⟨r, u, rfl, -⟩ := hmakes
        simp [Call.madeUp]
    | _ => cases h

variable (v : Voucher) (code : String)

def holds (u : User) : Bool := v.held u == some code

def issued (e : Entry) : Bool := e.granted?.bind v.issues == some code

def redeemed (e : Entry) : Bool := e.granted?.bind v.redeems == some code

variable {v code} {e : Entry} {c : DirectoryCall}

theorem issued_iff : v.issued code e = true ↔
    ∃ c, e.granted? = some c ∧ v.issues c = some code := by
  rw [issued, beq_iff_eq, Option.bind_eq_some_iff]

/-- A request that changes a user is paid for by what the user held or is given. -/
theorem edit_paid (v : Voucher) (code : String) {u : User} (hfits : c.fits u = true) :
    (v.redeems c == some code).toNat + (v.holds code (c.edit u)).toNat ≤
      (v.holds code u).toNat + (v.issues c == some code).toNat := by
  cases hr : v.redeems c with
  | some redeemed =>
      obtain ⟨hheld, hgone⟩ := v.held_redeemed hfits hr
      rw [holds, holds, hheld, hgone]
      exact Nat.le_add_right _ _
  | none =>
      rw [holds, v.held_edit hfits hr]
      cases v.issues c with
      | some given => simp
      | none => simp [holds]

/-- What is redeemed and what can still be redeemed is paid for. -/
theorem asked_paid (v : Voucher) (code : String) (e : Entry) :
    (v.redeemed code e).toNat + e.after.users.countP (v.holds code) ≤
      e.before.users.countP (v.holds code) + (v.issued code e).toNat := by
  rcases e.granted_cases with ⟨hg, ha⟩ | ⟨c, hg, hsilent, -, ha⟩ | ⟨n, events, hg, ha⟩ |
    ⟨c, before, u, after, hg, hu, hfits, ha⟩
  · simp [redeemed, issued, hg, ha]
  · simp [redeemed, issued, hg, ha, v.redeems_silent hsilent]
  · rw [redeemed, issued, hg, ha, Option.bind_some, Option.bind_some, v.redeems_create,
      List.countP_append, List.countP_singleton, holds, v.held_new _ n events]
    cases v.issues (.create n events) == some code <;> simp
  · have hpaid := v.edit_paid code hfits
    rw [redeemed, issued, hg, ha, hu, Option.bind_some, Option.bind_some]
    simp only [List.countP_append, List.countP_cons]
    generalize v.holds code (c.edit u) = x at hpaid ⊢
    generalize v.holds code u = y at hpaid ⊢
    generalize (v.redeems c == some code) = r at hpaid ⊢
    generalize (v.issues c == some code) = i at hpaid ⊢
    cases x <;> cases y <;> simp_all <;> omega

open World (Throughout)

/-- What was redeemed, and what can still be redeemed, was issued. -/
def Paid (v : Voucher) (code : String) (log : List Entry) (users : List User) : Prop :=
  log.countP (v.redeemed code) + users.countP (v.holds code) ≤ log.countP (v.issued code)

theorem paid_run (v : Voucher) (code : String) (s : Service) (moves : List World.Move) :
    (World.empty.run s moves).Throughout (v.Paid code) := by
  refine World.throughout_run s (Nat.le_refl 0) ?_ moves
  intro w e call _ h _ hb _
  have hpaid := h.now
  have hasked := v.asked_paid code e
  rw [Paid, ← hb] at hpaid
  rw [Paid, List.countP_append, List.countP_append, List.countP_singleton, List.countP_singleton]
  cases hr : v.redeemed code e <;> cases hi : v.issued code e <;>
    simp_all only [Bool.toNat_true, Bool.toNat_false] <;> simp <;> omega

section Fresh

variable {s : Service} {w : World}

/-- Whoever issued a code made it up. -/
theorem issued_madeUp (hw : w.Coherent s) {past rest : List Entry}
    (hlog : w.log = past ++ e :: rest) (h : v.issued code e = true) :
    ∃ call, w.calls[e.call]? = some call ∧ code ∈ call.madeUp := by
  obtain ⟨c, hg, hissues⟩ := issued_iff.1 h
  obtain ⟨r, hexchange, -⟩ := Exchange.granted?_eq_some.1 hg
  obtain ⟨call, hcall, hmakes⟩ := hw.makes hlog (congrArg Exchange.query hexchange)
  exact ⟨call, hcall, v.made_up hmakes hissues⟩

/-- A code is issued once at most. -/
theorem issued_once (v : Voucher) (code : String) (hw : w.Coherent s) (hf : w.Fresh) :
    w.log.countP (v.issued code) ≤ 1 := by
  refine countP_le_one fun past x rest hlog hx y hy => ?_
  obtain ⟨before, between, rfl⟩ := List.append_of_mem hy
  rw [← Bool.not_eq_true]
  intro hissued
  obtain ⟨call, hcall, hmade⟩ := issued_madeUp hw hlog hx
  have hbefore : w.log = before ++ y :: (between ++ x :: rest) := by
    rw [hlog]
    simp
  obtain ⟨call', hcall', hmade'⟩ := issued_madeUp hw hbefore hissued
  have hplace : y.call = x.call := hf.place_eq hcall' hcall hmade' hmade
  have hne : ∀ claims r now, call ≠ .authenticateTwoFa claims r now := by
    rintro claims r now rfl
    cases hmade
  have hnone := hw.idle_past hlog hcall hne y hy hplace
  -- The call that made the code up would have been granted a change twice.
  obtain ⟨c, hg, -⟩ := issued_iff.1 hissued
  cases hnone.symm.trans hg

/-- A code is redeemed once at most. -/
theorem redeemed_unique (v : Voucher) (code : String) {moves : List World.Move}
    (hf : (World.empty.run s moves).Fresh) {e e' : Entry}
    (he : e ∈ (World.empty.run s moves).log) (he' : e' ∈ (World.empty.run s moves).log)
    (hr : v.redeemed code e = true) (hr' : v.redeemed code e' = true) : e = e' := by
  have hissued := v.issued_once code (World.Coherent.empty.run moves) hf
  have hpaid := (v.paid_run code s moves).now
  have hone : (World.empty.run s moves).log.countP (v.redeemed code) ≤ 1 := by
    unfold Paid at hpaid
    omega
  rw [List.countP_eq_length_filter] at hone
  have hmem := List.mem_filter.2 ⟨he, hr⟩
  have hmem' := List.mem_filter.2 ⟨he', hr'⟩
  generalize (World.empty.run s moves).log.filter (v.redeemed code) = l at hone hmem hmem'
  match l with
  | [] => cases hmem
  | [x] => exact (List.mem_singleton.1 hmem).trans (List.mem_singleton.1 hmem').symm
  | x :: y :: l => simp at hone

end Fresh

end Voucher

end Accounts
