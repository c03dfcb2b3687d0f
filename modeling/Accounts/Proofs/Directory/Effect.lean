import Accounts.Directory.Memory
import Accounts.Proofs.Outbox.Rows
/-!
# What a request does to a directory

A request leaves the directory as it is, or adds one user, or changes the first user
that fits; in the last two cases its events are stored as well.  `Directory.Effect`
lists these three cases, and what follows looks at them only and no longer at the
requests.

No request changes the *identity* of a user: number, public name, address, names and
the instant at which the account was made.  So the identities of the users only grow
by more of them, and users can be told by their numbers at all times.
-/

namespace Accounts

open Outbox (NewEnvelope Store)

/-! ## Identities -/

/-- What never changes of a user. -/
structure Identity where
  /-- The internal number. -/
  id : Int
  /-- The name that the account is known by outside. -/
  publicId : String
  /-- The address. -/
  email : String
  /-- The first name. -/
  firstName : String
  /-- The last name. -/
  lastName : String
  /-- When the account was made. -/
  createdAt : Instant

/-- What never changes of a user. -/
def User.identity (u : User) : Identity :=
  ⟨u.id, u.publicId, u.email, u.firstName, u.lastName, u.createdAt⟩

namespace DirectoryCall

/-! ## Requests as changes -/

/-- A user whom a request may change. -/
def fits : DirectoryCall → User → Bool
  | activate code _ _, u => u.activationCode == some code
  | resetPassword code _ _, u => u.resetPasswordCode == some code
  | setResetCode id _ _ _, u | updatePassword id _ _, u | setOtpSecret id _, u
  | disableOtp id, u => u.id == id
  | enableOtp id secret _, u => u.id == id && u.otpSecret == some secret
  | consumeRecoveryCode id code, u => u.id == id && Directory.holdsCode code u
  | _, _ => false

/-- The user that a request makes of one that fits. -/
def edit : DirectoryCall → User → User
  | activate _ now _, u => { u with status := .activated, activationCode := none, updatedAt := now }
  | setResetCode _ code now _, u => { u with resetPasswordCode := some code, updatedAt := now }
  | resetPassword _ passwordHash now, u =>
    { u with passwordHash, resetPasswordCode := none, updatedAt := now }
  | updatePassword _ passwordHash now, u => { u with passwordHash, updatedAt := now }
  | setOtpSecret _ secret, u => { u with otpSecret := some secret }
  | enableOtp _ _ codes, u => { u with otpRecoveryCodes := codes, otpEnabled := true }
  | disableOtp _, u => { u with otpEnabled := false, otpSecret := none, otpRecoveryCodes := [] }
  | consumeRecoveryCode _ code, u =>
    { u with otpRecoveryCodes := u.otpRecoveryCodes.filter (· != code) }
  | _, u => u

/-- The events of a request. -/
def events : DirectoryCall → List NewEnvelope
  | create _ events | activate _ _ events | setResetCode _ _ _ events => events
  | _ => []

@[simp] theorem identity_edit (c : DirectoryCall) (u : User) :
    (c.edit u).identity = u.identity := by
  cases c <;> rfl

end DirectoryCall

namespace Directory

variable {d d' : Directory} {clock : Instant} {c : DirectoryCall}

/-- The outbox with some more events. -/
def announced (d : Directory) (clock : Instant) (events : List NewEnvelope) : Store :=
  { d.outbox with rows := d.outbox.rows ++ Store.fresh clock (d.outbox.rows.length + 1) events }

/-- What a request may do. -/
inductive Effect (d : Directory) (clock : Instant) : DirectoryCall → Directory → Prop
  /-- Nothing happens. -/
  | unchanged (c : DirectoryCall) : Effect d clock c d
  /-- A user is added. -/
  | created (n : NewUser) (events : List NewEnvelope) :
      Effect d clock (.create n events)
        ⟨d.users ++ [User.ofNew (d.users.length + 1) n], d.announced clock events⟩
  /-- The first user that fits is changed. -/
  | changed {c : DirectoryCall} (before : List User) (u : User) (after : List User)
      (users : d.users = before ++ u :: after) (first : ∀ v ∈ before, c.fits v = false)
      (fits : c.fits u = true) :
      Effect d clock c ⟨before ++ c.edit u :: after, d.announced clock c.events⟩

theorem changeFirst_append {α : Type} {fits : α → Bool} {change : α → α} {before after : List α}
    {a : α} (hb : ∀ b ∈ before, fits b = false) (ha : fits a = true) :
    changeFirst fits change (before ++ a :: after) = before ++ change a :: after := by
  induction before with
  | nil => rw [List.nil_append, changeFirst, if_pos ha, List.nil_append]
  | cons b bs ih =>
      have hf : fits b = false := hb b List.mem_cons_self
      have hbs := ih fun x hx => hb x (List.mem_cons_of_mem b hx)
      rw [List.cons_append, changeFirst, hf, if_neg Bool.false_ne_true, hbs, List.cons_append]

/-- A change is refused, fits nobody, or is made to the first user that fits. -/
theorem mutate_cases (d : Directory) (clock : Instant) (fits : User → Bool)
    (events : List NewEnvelope) (change : User → User) :
    (d.outbox.refusing = true ∧ ∃ e, d.mutate clock fits events change = (.error e, d)) ∨
    (d.users.any fits = false ∧ d.mutate clock fits events change = (.ok false, d)) ∨
    ∃ before u after, d.users = before ++ u :: after ∧ (∀ v ∈ before, fits v = false) ∧
      fits u = true ∧ d.outbox.refusing = false ∧ d.mutate clock fits events change =
        (.ok true, ⟨before ++ change u :: after, d.announced clock events⟩) := by
  unfold mutate
  split
  · next hany =>
      cases happ : d.outbox.append clock events with
      | error e =>
          refine .inl ⟨?_, _, rfl⟩
          unfold Store.append at happ
          split at happ
          · assumption
          · cases happ
      | ok stored =>
          obtain ⟨ids, outbox⟩ := stored
          obtain ⟨hr, rfl⟩ := Store.append_ok happ
          obtain ⟨u, hu⟩ := Option.isSome_iff_exists.1
            (List.find?_isSome.2 (List.any_eq_true.1 hany))
          obtain ⟨hfits, before, after, husers, hbefore⟩ := List.find?_eq_some_iff_append.1 hu
          have hfirst : ∀ v ∈ before, fits v = false := fun v hv => by simpa using hbefore v hv
          refine .inr (.inr ⟨before, u, after, husers, hfirst, hfits, hr, ?_⟩)
          rw [husers, changeFirst_append hfirst hfits]
          rfl
  · next hany => exact .inr (.inl ⟨by simpa using hany, rfl⟩)

/-- A change that fits nobody is not made, and the reply says so. -/
theorem mutate_of_none {fits : User → Bool} (h : d.users.any fits = false) (clock : Instant)
    (events : List NewEnvelope) (change : User → User) :
    d.mutate clock fits events change = (.ok false, d) := by
  rw [mutate, h, if_neg Bool.false_ne_true]

/-- Without events the outbox stays as it is. -/
@[simp] theorem announced_nil (d : Directory) (clock : Instant) : d.announced clock [] = d.outbox := by
  simp [announced, Store.fresh]

theorem effect_mutate (c : DirectoryCall) {r : Except AccountError Bool × Directory}
    (hr : d.mutate clock c.fits c.events c.edit = r) : d.Effect clock c r.2 := by
  subst hr
  rcases d.mutate_cases clock c.fits c.events c.edit with
    ⟨-, e, h⟩ | ⟨-, h⟩ | ⟨before, u, after, hu, hb, hf, -, h⟩
  · rw [h]
    exact .unchanged c
  · rw [h]
    exact .unchanged c
  · rw [h]
    exact .changed before u after hu hb hf

/-- A request has one of the effects that are listed. -/
theorem effect_reply (d : Directory) (clock : Instant) (c : DirectoryCall) :
    d.Effect clock c (d.reply clock c).2 := by
  cases c with
  | findByEmail email => exact .unchanged _
  | findByPublicId publicId => exact .unchanged _
  | findByActivationCode code => exact .unchanged _
  | create n events =>
      rw [reply]
      split
      · exact .unchanged _
      · cases happ : d.outbox.append clock events with
        | error e => exact .unchanged _
        | ok stored =>
            obtain ⟨ids, outbox⟩ := stored
            obtain ⟨-, rfl⟩ := Store.append_ok happ
            exact .created n events
  | activate code now events => exact effect_mutate _ rfl
  | setResetCode id code now events =>
      rw [reply]
      split
      · next h => exact effect_mutate (.setResetCode id code now events) h
      · next h => exact effect_mutate (.setResetCode id code now events) h
      · next h => exact effect_mutate (.setResetCode id code now events) h
  | resetPassword code passwordHash now => exact effect_mutate _ rfl
  | updatePassword id passwordHash now => exact effect_mutate _ rfl
  | setOtpSecret id secret => exact effect_mutate _ rfl
  | enableOtp id secret codes => exact effect_mutate _ rfl
  | disableOtp id => exact effect_mutate _ rfl
  | consumeRecoveryCode id code => exact effect_mutate _ rfl

/-- A user that is added is the reply. -/
theorem create_cases (d : Directory) (clock : Instant) (n : NewUser)
    (events : List NewEnvelope) : (d.reply clock (.create n events)).2 = d ∨
      (d.reply clock (.create n events)).1 = .ok (User.ofNew (d.users.length + 1) n) := by
  rw [reply]
  split
  · exact .inl rfl
  · cases d.outbox.append clock events with
    | error e => exact .inl rfl
    | ok stored => exact .inr rfl

/-! ## What stays -/

/-- The users are numbered from 1 on, in their order. -/
def Numbered (d : Directory) : Prop :=
  d.users.map User.id = (List.range d.users.length).map fun k : Nat => (k : Int) + 1

theorem numbered_empty : empty.Numbered := rfl

namespace Numbered

theorem nodup_ids (h : d.Numbered) : (d.users.map User.id).Nodup := by
  rw [h]
  apply List.Nodup.map
  · intro a b hab
    have : (a : Int) + 1 = b + 1 := hab
    omega
  · exact List.nodup_range

theorem eq_of_id (h : d.Numbered) {u v : User} (hu : u ∈ d.users) (hv : v ∈ d.users)
    (hid : u.id = v.id) : u = v :=
  List.inj_on_of_nodup_map h.nodup_ids hu hv hid

end Numbered

theorem id_edit (c : DirectoryCall) (u : User) : (c.edit u).id = u.id :=
  congrArg Identity.id (c.identity_edit u)

namespace Effect

theorem numbered (h : d.Effect clock c d') (hd : d.Numbered) : d'.Numbered := by
  cases h with
  | unchanged => exact hd
  | created n events =>
      simp only [Numbered, List.map_append, List.length_append, List.length_singleton,
        List.range_succ]
      rw [hd]
      rfl
  | changed before u after hu =>
      simp only [Numbered, hu, List.map_append, List.map_cons, List.length_append,
        List.length_cons] at hd ⊢
      rw [id_edit]
      exact hd

/-- No user is lost, and none is given another identity. -/
theorem identities (h : d.Effect clock c d') :
    d.users.map User.identity <+: d'.users.map User.identity := by
  cases h with
  | unchanged => exact List.prefix_rfl
  | created n events =>
      rw [List.map_append]
      exact List.prefix_append _ _
  | changed before u after hu =>
      have hmap : d.users.map User.identity =
          (before ++ c.edit u :: after).map User.identity := by
        rw [hu, List.map_append, List.map_append, List.map_cons, List.map_cons,
          DirectoryCall.identity_edit]
      exact hmap ▸ List.prefix_rfl

theorem exists_identity (h : d.Effect clock c d') {u : User} (hu : u ∈ d.users) :
    ∃ v ∈ d'.users, v.identity = u.identity :=
  List.mem_map.1 (h.identities.subset (List.mem_map_of_mem hu))

/-- A public name always names the same user. -/
theorem find_publicId (h : d.Effect clock c d') {publicId : String} {u : User}
    (hu : d.users.find? (·.publicId == publicId) = some u) :
    ∃ v, d'.users.find? (·.publicId == publicId) = some v ∧ v.identity = u.identity := by
  have hmap : ∀ us : List User, (us.map User.identity).find? (·.publicId == publicId) =
      (us.find? (·.publicId == publicId)).map User.identity := fun us => List.find?_map ..
  obtain ⟨more, hmore⟩ := h.identities
  have hfound := hmap d'.users
  rw [← hmore, List.find?_append, hmap, hu] at hfound
  obtain ⟨v, hv, hid⟩ := Option.map_eq_some_iff.1 hfound.symm
  exact ⟨v, hv, hid⟩

theorem numberedRows (h : d.Effect clock c d') (hd : d.outbox.Numbered) :
    d'.outbox.Numbered := by
  cases h with
  | unchanged => exact hd
  | created n events => exact hd.append clock events
  | changed => exact hd.append clock c.events

end Effect

/-! ## Recovery codes -/

section RecoveryCodes

variable {id : Int} {code : String}

/-- The user of a number holds a recovery code. -/
def holds (d : Directory) (id : Int) (code : String) : Bool :=
  d.users.any fun u => u.id == id && holdsCode code u

theorem holds_iff : d.holds id code = true ↔
    ∃ u ∈ d.users, u.id = id ∧ code ∈ u.otpRecoveryCodes := by
  simp [holds, holdsCode]

/-- A code is there only if it was there before or is stored. -/
theorem Effect.holds (h : d.Effect clock c d') (hd : d'.holds id code = true) :
    d.holds id code = true ∨
      ∃ secret codes, c = .enableOtp id secret codes ∧ code ∈ codes := by
  rw [holds_iff] at hd ⊢
  obtain ⟨v, hv, hid, hcode⟩ := hd
  cases h with
  | unchanged => exact .inl ⟨v, hv, hid, hcode⟩
  | created n events =>
      rcases List.mem_append.1 hv with hv | hv
      · exact .inl ⟨v, hv, hid, hcode⟩
      · rw [List.mem_singleton.1 hv] at hcode
        cases hcode
  | changed before u after hu hfirst hfits =>
      have hold : ∀ x ∈ before ++ u :: after, x.id = id → code ∈ x.otpRecoveryCodes →
          ∃ u ∈ d.users, u.id = id ∧ code ∈ u.otpRecoveryCodes :=
        fun x hx hxid hxc => ⟨x, hu ▸ hx, hxid, hxc⟩
      rcases List.mem_append.1 hv with hv | hv
      · exact .inl (hold v (List.mem_append_left _ hv) hid hcode)
      rcases List.mem_cons.1 hv with rfl | hv
      swap
      · exact .inl (hold v (List.mem_append_right _ (List.mem_cons_of_mem u hv)) hid hcode)
      have hmem : u ∈ before ++ u :: after := List.mem_append_right _ List.mem_cons_self
      rw [id_edit] at hid
      cases c with
      | enableOtp i secret codes =>
          have : u.id = i ∧ u.otpSecret = some secret := by
            simpa [DirectoryCall.fits] using hfits
          exact .inr ⟨secret, codes, by rw [← this.1, hid], hcode⟩
      | disableOtp i => cases hcode
      | consumeRecoveryCode i other => exact .inl (hold u hmem hid (List.mem_filter.1 hcode).1)
      | _ => exact .inl (hold u hmem hid hcode)

/-- A code that is used up was there, and is not there any more. -/
theorem holds_of_consumed (hd : d.Numbered)
    (h : d.reply clock (.consumeRecoveryCode id code) = (.ok true, d')) :
    d.holds id code = true ∧ d'.holds id code = false := by
  rcases d.mutate_cases clock (DirectoryCall.consumeRecoveryCode id code).fits []
    (DirectoryCall.consumeRecoveryCode id code).edit with
    ⟨-, e, hm⟩ | ⟨-, hm⟩ | ⟨before, u, after, hu, hfirst, hfits, -, hm⟩
  · cases hm.symm.trans h
  · cases hm.symm.trans h
  · cases hm.symm.trans h
    have hids := hd.nodup_ids
    rw [hu, List.map_append, List.map_cons, List.nodup_append] at hids
    obtain ⟨-, hnodup, hdisjoint⟩ := hids
    have huid : u.id = id := by
      simp only [DirectoryCall.fits, Bool.and_eq_true, beq_iff_eq] at hfits
      exact hfits.1
    refine ⟨List.any_eq_true.2 ⟨u, by simp [hu], hfits⟩, ?_⟩
    rw [holds, List.any_append, List.any_cons, Bool.or_eq_false_iff, Bool.or_eq_false_iff]
    refine ⟨List.any_eq_false.2 fun v hv => ?_, ?_, List.any_eq_false.2 fun v hv => ?_⟩
    · exact ne_true_of_eq_false (hfirst v hv)
    · simp [DirectoryCall.edit, holdsCode]
    · have hne : v.id ≠ id := fun hvid =>
        (List.nodup_cons.1 hnodup).1 (huid ▸ hvid ▸ List.mem_map_of_mem hv)
      simp [hne]

/-- Codes that are stored are stored with success. -/
theorem enableOtp_cases (d : Directory) (clock : Instant) (id : Int) (secret : String)
    (codes : List String) : (d.reply clock (.enableOtp id secret codes)).2 = d ∨
      (d.reply clock (.enableOtp id secret codes)).1 = .ok true := by
  rcases d.mutate_cases clock (DirectoryCall.enableOtp id secret codes).fits []
    (DirectoryCall.enableOtp id secret codes).edit with
    ⟨-, e, hm⟩ | ⟨-, hm⟩ | ⟨before, u, after, -, -, -, -, hm⟩
  · exact .inl (congrArg Prod.snd hm)
  · exact .inl (congrArg Prod.snd hm)
  · exact .inr (congrArg Prod.fst hm)

/-- Unless the outbox refuses, trying a recovery code says whether it was there. -/
theorem reply_consume (hr : d.outbox.refusing = false) (clock : Instant) (id : Int)
    (code : String) : ∃ d', d.reply clock (.consumeRecoveryCode id code) =
      (.ok (d.holds id code), d') ∧ (d.holds id code = false → d' = d) ∧
      (d.holds id code = true → ∃ u ∈ d.users, u.id = id ∧
        (DirectoryCall.consumeRecoveryCode id code).edit u ∈ d'.users) := by
  rcases d.mutate_cases clock (DirectoryCall.consumeRecoveryCode id code).fits []
    (DirectoryCall.consumeRecoveryCode id code).edit with
    ⟨hrefusing, -⟩ | ⟨hnone, hm⟩ | ⟨before, u, after, hu, -, hfits, -, hm⟩
  · cases hr.symm.trans hrefusing
  · have hh : d.holds id code = false := hnone
    rw [hh]
    exact ⟨d, hm, fun _ => rfl, fun h => (Bool.false_ne_true h).elim⟩
  · have hmem : u ∈ d.users := by rw [hu]; exact List.mem_append_right _ List.mem_cons_self
    have hh : d.holds id code = true := List.any_eq_true.2 ⟨u, hmem, hfits⟩
    rw [hh]
    refine ⟨_, hm, fun h => (Bool.false_ne_true h.symm).elim, fun _ => ⟨u, hmem, ?_, ?_⟩⟩
    · simp only [DirectoryCall.fits, Bool.and_eq_true, beq_iff_eq] at hfits
      exact hfits.1
    · exact List.mem_append_right _ List.mem_cons_self

end RecoveryCodes

/-! ## The user of a number -/

/-- The user of a number. -/
def user? (d : Directory) (id : Int) : Option User := d.users.find? (·.id == id)

theorem Numbered.user?_eq_some_iff (h : d.Numbered) {id : Int} {u : User} :
    d.user? id = some u ↔ u ∈ d.users ∧ u.id = id := by
  constructor
  · intro hu
    exact ⟨List.mem_of_find?_eq_some hu, by simpa using List.find?_some hu⟩
  · rintro ⟨hu, rfl⟩
    obtain ⟨v, hv⟩ := Option.isSome_iff_exists.1
      (List.find?_isSome (p := (·.id == u.id)).2 ⟨u, hu, beq_self_eq_true u.id⟩)
    have hid : v.id = u.id := by simpa using List.find?_some hv
    rw [user?, hv, h.eq_of_id (List.mem_of_find?_eq_some hv) hu hid]

theorem Numbered.holds_eq (h : d.Numbered) {u : User} (hu : d.user? u.id = some u) (code : String) :
    d.holds u.id code = u.otpRecoveryCodes.contains code := by
  obtain ⟨hmem, -⟩ := h.user?_eq_some_iff.1 hu
  rw [Bool.eq_iff_iff, holds_iff, List.contains_iff_mem]
  constructor
  · rintro ⟨v, hv, hid, hcode⟩
    rwa [← h.eq_of_id hv hmem hid]
  · intro hcode
    exact ⟨u, hmem, rfl, hcode⟩

end Directory

end Accounts
