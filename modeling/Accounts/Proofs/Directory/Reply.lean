import Accounts.Directory.Fault
import Accounts.Proofs.Directory.Effect
/-!
# What a reply tells

Requests differ in what they reply when nobody fits: some say so, some fail, and three
look like success.  `Directory.Replies` joins each reply to the effect that it comes
with.  So a reply that says that nothing was changed can be relied on, and so can one
that says that somebody was; only of the three silent requests nothing can be said.
-/

namespace Accounts

namespace DirectoryCall

/-- What is replied without an error says that something was changed. -/
def accepts : (c : DirectoryCall) → c.Result → Bool
  | findByEmail _, _ | findByPublicId _, _ | findByActivationCode _, _ => false
  | activate _ _ _, found | resetPassword _ _ _, found | enableOtp _ _ _, found
  | consumeRecoveryCode _ _, found => found
  | _, _ => true

/-- The reply says that something was changed. -/
def granted (c : DirectoryCall) : Except AccountError c.Result → Bool
  | .ok v => c.accepts v
  | .error _ => false

theorem error_of_not_granted {c : DirectoryCall} {r : Except AccountError c.Result}
    (h : c.granted r = false) (hc : ∀ v, c.accepts v = true) : ∃ e, r = .error e := by
  cases r with
  | ok v => cases (hc v).symm.trans h
  | error e => exact ⟨e, rfl⟩

theorem not_granted_of_error {c : DirectoryCall} {r : Except AccountError c.Result}
    {e : AccountError} (h : r = .error e) : c.granted r = false := h ▸ rfl

/-- The reply of a request that changed a user. -/
def made? : (c : DirectoryCall) → Option c.Result
  | activate _ _ _ | resetPassword _ _ _ | enableOtp _ _ _ | consumeRecoveryCode _ _ => some true
  | setResetCode _ _ _ _ | updatePassword _ _ _ | setOtpSecret _ _ | disableOtp _ => some ()
  | _ => none

/-- The request does not say whether somebody fits. -/
def silent : DirectoryCall → Bool
  | updatePassword _ _ _ | setOtpSecret _ _ | disableOtp _ => true
  | _ => false

theorem granted_of_made {c : DirectoryCall} {v : c.Result} (h : c.made? = some v) :
    c.granted (.ok v) = true := by
  cases c with
  | findByEmail | findByPublicId | findByActivationCode | create => cases h
  | _ => cases h; rfl

theorem granted_of_silent {c : DirectoryCall} (h : c.silent = true) (v : c.Result) :
    c.granted (.ok v) = true := by
  cases c with
  | updatePassword | setOtpSecret | disableOtp => rfl
  | _ => cases h

end DirectoryCall

namespace Directory

variable {d d' : Directory} {clock : Instant} {c : DirectoryCall}

/-- What a request replies, and what becomes of the directory. -/
inductive Replies (d : Directory) (clock : Instant) :
    (c : DirectoryCall) → Except AccountError c.Result → Directory → Prop
  /-- The reply says that nothing was changed. -/
  | idle {c : DirectoryCall} {r : Except AccountError c.Result} (h : c.granted r = false) :
      Replies d clock c r d
  /-- Nobody fits, and the reply does not say so. -/
  | unnoticed {c : DirectoryCall} {v : c.Result} (silent : c.silent = true)
      (nobody : d.users.any c.fits = false) : Replies d clock c (.ok v) d
  /-- A user is added, and it is the reply. -/
  | created (n : NewUser) (events : List Outbox.NewEnvelope) :
      Replies d clock (.create n events) (.ok (User.ofNew (d.users.length + 1) n))
        ⟨d.users ++ [User.ofNew (d.users.length + 1) n], d.announced clock events⟩
  /-- The first user that fits is changed. -/
  | changed {c : DirectoryCall} {v : c.Result} (made : c.made? = some v) (before : List User)
      (u : User) (after : List User) (users : d.users = before ++ u :: after)
      (first : ∀ v ∈ before, c.fits v = false) (fits : c.fits u = true) :
      Replies d clock c (.ok v) ⟨before ++ c.edit u :: after, d.announced clock c.events⟩

/-- A change, with what is told of it. -/
theorem replies_mutate (told : Except AccountError Bool → Except AccountError c.Result)
    {v : c.Result} (made : c.made? = some v) (htrue : told (.ok true) = .ok v)
    (herror : ∀ e, told (.error e) = .error e)
    (hfalse : c.granted (told (.ok false)) = false ∨
      (c.silent = true ∧ ∃ v, told (.ok false) = .ok v)) :
    d.Replies clock c (told (d.mutate clock c.fits c.events c.edit).1)
      (d.mutate clock c.fits c.events c.edit).2 := by
  rcases d.mutate_cases clock c.fits c.events c.edit with
    ⟨-, e, h⟩ | ⟨hnobody, h⟩ | ⟨before, u, after, hu, hb, hf, -, h⟩
  · rw [h, herror]
    exact .idle rfl
  · rw [h]
    rcases hfalse with hidle | ⟨hsilent, v, hv⟩
    · exact .idle hidle
    · rw [hv]
      exact .unnoticed hsilent hnobody
  · rw [h, htrue]
    exact .changed made before u after hu hb hf

/-- A request is replied to in one of the ways that are listed. -/
theorem replies_reply (d : Directory) (clock : Instant) (c : DirectoryCall) :
    d.Replies clock c (d.reply clock c).1 (d.reply clock c).2 := by
  cases c with
  | findByEmail | findByPublicId | findByActivationCode => exact .idle rfl
  | create n events =>
      rw [reply]
      split
      · exact .idle rfl
      · cases happ : d.outbox.append clock events with
        | error e => exact .idle rfl
        | ok stored =>
            obtain ⟨ids, outbox⟩ := stored
            obtain ⟨-, rfl⟩ := Outbox.Store.append_ok happ
            exact .created n events
  | activate code now events =>
      exact replies_mutate (c := .activate code now events) id rfl rfl (fun _ => rfl)
        (.inl rfl)
  | resetPassword code hash now =>
      exact replies_mutate (c := .resetPassword code hash now) id rfl rfl
        (fun _ => rfl) (.inl rfl)
  | enableOtp id secret codes =>
      exact replies_mutate (c := .enableOtp id secret codes) (fun r => r) rfl rfl
        (fun _ => rfl) (.inl rfl)
  | consumeRecoveryCode id code =>
      exact replies_mutate (c := .consumeRecoveryCode id code) (fun r => r) rfl rfl
        (fun _ => rfl) (.inl rfl)
  | updatePassword id hash now =>
      exact replies_mutate (c := .updatePassword id hash now) (Except.map fun _ => ())
        rfl rfl (fun _ => rfl) (.inr ⟨rfl, (), rfl⟩)
  | setOtpSecret id secret =>
      exact replies_mutate (c := .setOtpSecret id secret) (Except.map fun _ => ())
        rfl rfl (fun _ => rfl) (.inr ⟨rfl, (), rfl⟩)
  | disableOtp id =>
      exact replies_mutate (c := .disableOtp id) (Except.map fun _ => ())
        rfl rfl (fun _ => rfl) (.inr ⟨rfl, (), rfl⟩)
  | setResetCode id code now events =>
      rcases d.mutate_cases clock (fun u => u.id == id) events
        (fun u => { u with resetPasswordCode := some code, updatedAt := now }) with
        ⟨-, e, h⟩ | ⟨-, h⟩ | ⟨before, u, after, hu, hb, hf, -, h⟩
      · simp only [reply, h]
        exact .idle rfl
      · simp only [reply, h]
        exact .idle rfl
      · simp only [reply, h]
        exact .changed (c := .setResetCode id code now events) rfl before u after hu hb hf

/-- Requests that say whether they found somebody fail only when the outbox refuses. -/
theorem reply_ok (clock : Instant) (hr : d.outbox.refusing = false) (hc : c.missed?.isSome = true) :
    ∃ v, (d.reply clock c).1 = .ok v := by
  have hmutate : ∃ found, (d.mutate clock c.fits c.events c.edit).1 = .ok found := by
    rcases d.mutate_cases clock c.fits c.events c.edit with
      ⟨hrefusing, -⟩ | ⟨-, h⟩ | ⟨before, u, after, -, -, -, -, h⟩
    · cases hr.symm.trans hrefusing
    · exact ⟨false, congrArg Prod.fst h⟩
    · exact ⟨true, congrArg Prod.fst h⟩
  cases c with
  | findByEmail | findByPublicId | findByActivationCode => exact ⟨_, rfl⟩
  | activate | resetPassword | enableOtp | consumeRecoveryCode => exact hmutate
  | _ => cases hc

namespace Replies

variable {r : Except AccountError c.Result}

/-- Nothing was changed when the reply says so. -/
theorem eq_of_not_granted (h : d.Replies clock c r d') (hr : c.granted r = false) : d' = d := by
  cases h with
  | idle => rfl
  | unnoticed => rfl
  | created => cases hr
  | changed made => cases (DirectoryCall.granted_of_made made).symm.trans hr

/-- A code that is used up is removed from a user who held it, and nothing else happens. -/
theorem consumed {id : Int} {code : String}
    (h : d.Replies clock (.consumeRecoveryCode id code) (.ok true) d') :
    ∃ before u after, d.users = before ++ u :: after ∧ u.id = id ∧ code ∈ u.otpRecoveryCodes ∧
      d'.users = before ++
        { u with otpRecoveryCodes := u.otpRecoveryCodes.filter (· != code) } :: after ∧
      d'.outbox.rows = d.outbox.rows := by
  cases h with
  | idle hidle => cases hidle
  | unnoticed hsilent => cases hsilent
  | changed _ before u after hu _ hfits =>
      simp only [DirectoryCall.fits, Bool.and_eq_true, beq_iff_eq, holdsCode,
        List.contains_iff_mem] at hfits
      exact ⟨before, u, after, hu, hfits.1, hfits.2, rfl, List.append_nil _⟩

end Replies

theorem Numbered.id_le (hd : d.Numbered) {u : User} (hu : u ∈ d.users) :
    u.id ≤ d.users.length := by
  have hm : u.id ∈ d.users.map User.id := List.mem_map_of_mem hu
  rw [hd] at hm
  obtain ⟨k, hk, hid⟩ := List.mem_map.1 hm
  have := List.mem_range.1 hk
  omega

/-- No row is lost. -/
theorem Effect.rows_grow (h : d.Effect clock c d') : d.outbox.rows <+: d'.outbox.rows := by
  cases h with
  | unchanged => exact List.prefix_rfl
  | created => exact List.prefix_append _ _
  | changed => exact List.prefix_append _ _

/-- The user that is changed is told from all others by its number. -/
theorem Numbered.id_ne (hd : d.Numbered) {before after : List User} {u v : User}
    (hu : d.users = before ++ u :: after) (hv : v ∈ before ++ after) : v.id ≠ u.id := by
  have hids := hd.nodup_ids
  rw [hu, List.map_append, List.map_cons, List.nodup_middle, ← List.map_append] at hids
  exact fun hid => (List.nodup_cons.1 hids).1 (hid ▸ List.mem_map_of_mem hv)

/-- Nothing was changed when the reply to an aimless request says so. -/
theorem replyAimless_eq_of_not_granted (h : c.granted (d.replyAimless clock c).1 = false) :
    (d.replyAimless clock c).2 = d := by
  -- Requests that differ in their aim have replies of different types, but errors are errors.
  cases c with
  | setResetCode _ code now events =>
      obtain ⟨e, he⟩ := DirectoryCall.error_of_not_granted h fun _ => rfl
      exact (d.replies_reply clock (.setResetCode (-1) code now events)).eq_of_not_granted
        (DirectoryCall.not_granted_of_error he)
  | updatePassword _ hash now =>
      obtain ⟨e, he⟩ := DirectoryCall.error_of_not_granted h fun _ => rfl
      exact (d.replies_reply clock (.updatePassword (-1) hash now)).eq_of_not_granted
        (DirectoryCall.not_granted_of_error he)
  | setOtpSecret _ secret =>
      obtain ⟨e, he⟩ := DirectoryCall.error_of_not_granted h fun _ => rfl
      exact (d.replies_reply clock (.setOtpSecret (-1) secret)).eq_of_not_granted
        (DirectoryCall.not_granted_of_error he)
  | disableOtp _ =>
      obtain ⟨e, he⟩ := DirectoryCall.error_of_not_granted h fun _ => rfl
      exact (d.replies_reply clock (.disableOtp (-1))).eq_of_not_granted
        (DirectoryCall.not_granted_of_error he)
  | create n events => exact (d.replies_reply clock (.create n events)).eq_of_not_granted h
  | _ => rfl

end Directory

end Accounts
