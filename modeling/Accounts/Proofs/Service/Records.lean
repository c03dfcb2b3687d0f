import Accounts.Proofs.Otp.RecoveryCode
import Accounts.Proofs.Service.Announcements
import Accounts.Proofs.Service.Passwords
/-!
# What is right of every user record

The fields of a user belong together: a user waits for an activation code as long as it is
registered, nobody is asked for a second factor without a secret, and recovery codes are
there only for those who are asked for one.  Every request sets some of the fields only,
and it keeps what they have to do with each other (`User.Regular.edit`), because a request
that turns the second factor on fits only a user with a secret.

What the requests carry is right because of who made them: hashes come from calls that set
a password, and recovery codes from the engine.
-/

namespace Accounts

open Otp.RecoveryCode (SixDigits IsDraw)

/-- Recovery codes that an engine makes of draws. -/
def Otp.RecoveryCode.OfEngine (codes : List String) : Prop :=
  ∃ (t : Otp.Totp) (c : Otp.Chance) (count : Nat), (∀ d ∈ c.draws, IsDraw d) ∧
    t.reply c (.recoveryCodes count) = .ok codes

/-- What the fields of a user have to do with each other. -/
structure User.Regular (u : User) : Prop where
  /-- An activation code is there as long as the account is only registered. -/
  waiting : u.activationCode.isSome = true ↔ u.status = .registered
  /-- A second factor that is asked for has a secret. -/
  secret : u.otpEnabled = true → u.otpSecret.isSome = true
  /-- Recovery codes are there only if the second factor is asked for. -/
  enabled : u.otpRecoveryCodes ≠ [] → u.otpEnabled = true
  /-- No recovery code is there twice. -/
  distinct : u.otpRecoveryCodes.Nodup
  /-- Recovery codes have six digits. -/
  sixDigits : ∀ code ∈ u.otpRecoveryCodes, SixDigits code

namespace User.Regular

theorem ofNew (id : Int) (n : NewUser) : (User.ofNew id n).Regular where
  waiting := ⟨fun _ => rfl, fun _ => rfl⟩
  secret := by simp [User.ofNew]
  enabled := by simp [User.ofNew]
  distinct := List.nodup_nil
  sixDigits := by simp [User.ofNew]

/-- A request that fits keeps a user regular, if it brings recovery codes of the engine. -/
theorem edit {u : User} {c : DirectoryCall} (h : u.Regular) (hfits : c.fits u = true)
    (hcodes : ∀ id secret codes, c = .enableOtp id secret codes →
      codes.Nodup ∧ ∀ code ∈ codes, SixDigits code) : (c.edit u).Regular := by
  cases c with
  | activate code now events =>
      refine ⟨?_, h.secret, h.enabled, h.distinct, h.sixDigits⟩
      simp [DirectoryCall.edit]
  | setOtpSecret id secret =>
      exact ⟨h.waiting, fun _ => rfl, h.enabled, h.distinct, h.sixDigits⟩
  | enableOtp id secret codes =>
      obtain ⟨-, hsecret⟩ : u.id = id ∧ u.otpSecret = some secret := by
        simpa [DirectoryCall.fits] using hfits
      obtain ⟨hdistinct, hdigits⟩ := hcodes id secret codes rfl
      have hsome : u.otpSecret.isSome = true := by rw [hsecret]; rfl
      exact ⟨h.waiting, fun _ => hsome, fun _ => rfl, hdistinct, hdigits⟩
  | disableOtp id =>
      refine ⟨h.waiting, ?_, ?_, List.nodup_nil, ?_⟩
      all_goals simp [DirectoryCall.edit]
  | consumeRecoveryCode id code =>
      refine ⟨h.waiting, h.secret, fun hne => h.enabled ?_, h.distinct.filter _,
        fun x hx => h.sixDigits x (List.mem_filter.1 hx).1⟩
      intro hnil
      have hgone : u.otpRecoveryCodes.filter (· != code) ≠ [] := hne
      rw [hnil] at hgone
      exact hgone rfl
  | _ => exact ⟨h.waiting, h.secret, h.enabled, h.distinct, h.sixDigits⟩

end User.Regular

theorem Directory.Numbered.id_of_getElem? {d : Directory} (h : d.Numbered) {i : Nat} {u : User}
    (hu : d.users[i]? = some u) : u.id = i + 1 := by
  have hid : (d.users.map User.id)[i]? = some u.id := by rw [List.getElem?_map, hu]; rfl
  obtain ⟨hlt, -⟩ := List.getElem?_eq_some_iff.1 hu
  rw [h, List.getElem?_map, List.getElem?_range hlt] at hid
  exact (Option.some.inj hid).symm

namespace World

variable {s : Service} {w : World} {e : Entry} {call : Call}

/-! ## Addresses -/

/-- No two users have the same address. -/
theorem emails_run (s : Service) (moves : List Move) :
    (empty.run s moves).Throughout fun _ users => (users.map User.email).Nodup := by
  refine throughout_run s List.nodup_nil ?_ moves
  intro w e call _ h _ hb _
  have hnow : (e.before.users.map User.email).Nodup := hb ▸ h.now
  cases e.turns with
  | nobody _ ha => rwa [ha]
  | made n events _ _ hfree ha =>
      rw [ha, List.map_append, List.map_singleton]
      refine List.nodup_append.2 ⟨hnow, List.nodup_singleton _, ?_⟩
      intro a hmem b hnew
      obtain ⟨u, hu, rfl⟩ := List.mem_map.1 hmem
      rw [List.mem_singleton.1 hnew]
      exact hfree u hu
  | changed c first u last _ _ _ hu _ ha =>
      have hemail : (c.edit u).email = u.email := congrArg Identity.email (c.identity_edit u)
      rw [hu, List.map_append, List.map_cons] at hnow
      rwa [ha, List.map_append, List.map_cons, hemail]

/-! ## Fields -/

/-- The recovery codes that were handed out are those of an engine. -/
def FromEngine (log : List Entry) : Prop :=
  ∀ e ∈ log, ∀ count codes, e.exchange = .otp (.recoveryCodes count) (.ok codes) →
    Otp.RecoveryCode.OfEngine codes

/-- Recovery codes that are stored were handed out before. -/
theorem FromEngine.codes (hengine : FromEngine w.log)
    (hasks : (s.operation call).Asks (w.trace e.call) e.query)
    {id : Int} {secret : String} {codes : List String}
    (hq : e.query = .users (.enableOtp id secret codes)) :
    codes.Nodup ∧ ∀ code ∈ codes, SixDigits code := by
  rw [hq] at hasks
  obtain ⟨claims, r, u, count, -, ht, -, -⟩ := Service.makes hasks
  obtain ⟨x, hx, -, hexchange⟩ : ∃ x ∈ w.log, x.call = e.call ∧
      x.exchange = .otp (.recoveryCodes count) (.ok codes) := by
    refine mem_trace.1 ?_
    rw [ht]
    simp
  obtain ⟨t, c, n, hdraws, hreply⟩ := hengine x hx count codes hexchange
  exact Otp.Totp.reply_recoveryCodes hdraws hreply

theorem regular_run (s : Service) (moves : List Move) :
    (empty.run s moves).Throughout fun log users => FromEngine log → ∀ u ∈ users, u.Regular := by
  refine throughout_run s (by simp) ?_ moves
  intro w e call _ h _ hb hasks hengine u hu
  have hpast : FromEngine w.log := fun x hx => hengine x (List.mem_append_left _ hx)
  have hnow : ∀ v ∈ e.before.users, v.Regular := hb ▸ h.now hpast
  cases e.turns with
  | nobody _ ha => exact hnow u (ha ▸ hu)
  | made n events _ _ _ ha =>
      rw [ha] at hu
      rcases List.mem_append.1 hu with hu | hu
      · exact hnow u hu
      · rw [List.mem_singleton.1 hu]
        exact .ofNew _ n
  | changed c first v last hg _ _ hv hfits ha =>
      have hmem : u = c.edit v ∨ u ∈ first ++ last := by
        rw [ha] at hu
        simpa [or_left_comm] using hu
      rcases hmem with rfl | hu
      · refine (hnow v (by simp [hv])).edit hfits ?_
        rintro id secret codes rfl
        obtain ⟨r, hexchange, -⟩ := Exchange.granted?_eq_some.1 hg
        exact hpast.codes hasks (congrArg Exchange.query hexchange)
      · exact hnow u (by rw [hv]; simpa [or_left_comm] using Or.inr hu)

/-- **User records are regular.**  When no name and no code is made up twice and recovery
codes come from an engine, then in every world that can be reached, whatever fails on the
way there:
- users are numbered by their places;
- no two users have the same address, and no two have the same public name;
- an activation code is there as long as the account is only registered, nobody is asked
  for a second factor without a secret, recovery codes are there only for those who are
  asked for one, and they are different texts of six digits;
- every password is stored as the hash of a password that a call sets. -/
theorem user_records_regular (s : Service) (moves : List Move) (hf : (empty.run s moves).Fresh)
    (hengine : FromEngine (empty.run s moves).log) :
    let w := empty.run s moves
    (∀ (i : Nat) u, w.directory.users[i]? = some u → u.id = i + 1) ∧
    (w.directory.users.map User.email).Nodup ∧
    (w.directory.users.map User.publicId).Nodup ∧
    (∀ u ∈ w.directory.users, u.Regular) ∧
    ∀ u ∈ w.directory.users, ∃ call ∈ w.calls, ∃ password salt,
      call.password? = some (password, salt) ∧ u.passwordHash = Password.hash password salt := by
  intro w
  have hw : w.Coherent s := Coherent.empty.run moves
  obtain ⟨es, hfaithful⟩ := faithful_run s moves hf
  refine ⟨fun i u hu => hw.numbered.id_of_getElem? hu, (emails_run s moves).now, hfaithful.named,
    (regular_run s moves).now hengine, ?_⟩
  intro u hu
  obtain ⟨past, e, rest, hlog, he, -⟩ := last_of_given ((lastGiven_run s moves).now u hu)
  have hmem : e ∈ w.log := by
    rw [show w.log = past ++ e :: rest from hlog]
    exact List.mem_append_right _ List.mem_cons_self
  obtain ⟨call, password, salt, hcall, hpassword, hhash⟩ := hw.hashFor? hmem he
  exact ⟨call, List.mem_of_getElem? hcall, password, salt, hpassword, hhash⟩

namespace Sample

/-- The recovery codes of the small world are those of an engine. -/
theorem ofEngine : Otp.RecoveryCode.OfEngine ["123456", "654321"] := by
  have hdraws : ∀ d ∈ [123456, 654321], IsDraw d := by
    simp [IsDraw, Otp.RecoveryCode.least, Otp.RecoveryCode.greatest]
  have hcollect : Otp.RecoveryCode.collect ∅ [123456, 654321].length [123456, 654321] =
      some [123456, 654321] := Otp.RecoveryCode.collect_of_nodup (by decide) (by simp)
  refine ⟨⟨"issuer", 1⟩, ⟨[], [123456, 654321], 0⟩, 2, hdraws, ?_⟩
  show (Otp.RecoveryCode.generate 2 [123456, 654321]).map (·.getD []) = _
  rw [Otp.RecoveryCode.generate, show 2 = [123456, 654321].length from rfl, hcollect]
  rfl

/-- An account with a second factor, and another registration with its address. -/
def crowded : List Move := enrolment ++ [
  .start (.register ⟨"C", "D", "a@b.co", "password"⟩ ⟨"other", "other code", [], .ofSeconds 2⟩),
  .turn 4 moment]

end Sample

open Sample in
/-- The second registration with an address is refused, and the first user is regular. -/
theorem user_records_regular_crowded :
    let w := empty.run (service (.ofSeconds 900)) crowded
    w.Fresh ∧ FromEngine w.log ∧
    w.Returned 4 (.register ⟨"C", "D", "a@b.co", "password"⟩
      ⟨"other", "other code", [], .ofSeconds 2⟩) (.error .emailAlreadyExists) ∧
    ∃ u, w.directory.users = [u] ∧ u.otpEnabled = true ∧
      u.otpRecoveryCodes = ["123456", "654321"] ∧ u.Regular := by
  intro w
  have hf : w.Fresh := by
    have hmade : w.calls.flatMap Call.madeUp = ["user", "code", "other", "other code"] := rfl
    rw [Fresh, hmade]
    decide
  have hengine : FromEngine w.log := by
    intro e he count codes hx
    have hm : e.moment = moment := moment_of_run (P := (· = moment)) (by simp [empty])
      (by simp [crowded, enrolment, Move.moment?]) e he
    obtain ⟨place, m, d, q⟩ := e
    cases hm
    obtain ⟨rfl, hr⟩ := Exchange.mk.inj hx
    cases eq_of_heq hr
    exact ofEngine
  have husers : w.directory.users.map (fun u => (u.otpEnabled, u.otpRecoveryCodes)) =
      [(true, ["123456", "654321"])] := rfl
  obtain ⟨u, hu, hfields⟩ := List.map_eq_singleton_iff.1 husers
  obtain ⟨hen, hcodes⟩ : u.otpEnabled = true ∧ u.otpRecoveryCodes = ["123456", "654321"] := by
    simpa using hfields
  obtain ⟨-, -, -, hregular, -⟩ := user_records_regular (service (.ofSeconds 900)) crowded hf hengine
  exact ⟨hf, hengine, rfl, u, hu, hen, hcodes, hregular u (hu ▸ List.mem_singleton_self u)⟩

end World

end Accounts
