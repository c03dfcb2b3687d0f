import Accounts.Proofs.Directory.Effect
/-!
# Directories that look alike

Two directories look alike when they have the same outbox and when their users differ at most
in what stays inside: the password hash, the reset code, the second factor and the instant of
the last change.

A request that is announced is replied to alike by directories that look alike, as far as the
reply is *seen* (`Alike.reply`), and it leaves directories that look alike.  Any other request
leaves a directory that looks like the one before (`Effect.alike`).
-/

namespace Accounts

/-- What announcements and texts tell of a user. -/
structure Outward where
  identity : Identity
  status : UserStatus
  activationCode : Option String

/-- What announcements and texts tell of a user. -/
def User.outward (u : User) : Outward := ⟨u.identity, u.status, u.activationCode⟩

/-- What is left of an account that is about to be made without its password. -/
def NewUser.withoutPassword (n : NewUser) : NewUser := { n with passwordHash := "" }

@[simp] theorem NewUser.email_withoutPassword (n : NewUser) : n.withoutPassword.email = n.email :=
  rfl

@[simp] theorem User.outward_ofNew_withoutPassword (id : Int) (n : NewUser) :
    (User.ofNew id n.withoutPassword).outward = (User.ofNew id n).outward := rfl

@[simp] theorem User.json_ofNew_withoutPassword (id : Int) (n : NewUser) :
    (User.ofNew id n.withoutPassword).json = (User.ofNew id n).json := rfl

namespace DirectoryCall

variable {c : DirectoryCall}

/-- The request comes with announcements. -/
def announced : DirectoryCall → Bool
  | create _ _ | activate _ _ _ | setResetCode _ _ _ _ => true
  | _ => false

theorem outward_edit (h : c.announced = false) (u : User) : (c.edit u).outward = u.outward := by
  cases c with
  | create | activate | setResetCode => cases h
  | _ => rfl

theorem events_of_not_announced (h : c.announced = false) : c.events = [] := by
  cases c with
  | create | activate | setResetCode => cases h
  | _ => rfl

/-- Two requests differ at most in a password hash. -/
inductive Alike : DirectoryCall → DirectoryCall → Prop
  | findByEmail (email : String) : Alike (findByEmail email) (findByEmail email)
  | findByActivationCode (code : String) :
      Alike (findByActivationCode code) (findByActivationCode code)
  | create {n n' : NewUser} (events : List Outbox.NewEnvelope)
      (same : n.withoutPassword = n'.withoutPassword) : Alike (create n events) (create n' events)
  | activate (code : String) (now : Instant) (events : List Outbox.NewEnvelope) :
      Alike (activate code now events) (activate code now events)
  | setResetCode (id : Int) (code : String) (now : Instant) (events : List Outbox.NewEnvelope) :
      Alike (setResetCode id code now events) (setResetCode id code now events)

/-- What is seen of a reply. -/
inductive Seen
  | found (user : Option Outward)
  | made (text : Json)
  | told (fits : Bool)
  | nothing

/-- What is seen of a reply that is no error. -/
def seen : (c : DirectoryCall) → c.Result → Seen
  | .findByEmail _, u | .findByPublicId _, u | .findByActivationCode _, u =>
    .found (Option.map User.outward u)
  | .create _ _, u => .made (User.json u)
  | .activate _ _ _, fits | .resetPassword _ _ _, fits | .enableOtp _ _ _, fits
  | .consumeRecoveryCode _ _, fits => .told fits
  | _, _ => .nothing

end DirectoryCall

namespace Directory

variable {d d' d'' : Directory} {c c' : DirectoryCall} {clock : Instant}

/-- The outbox is the same, and so is what is told of the users. -/
structure Alike (d d' : Directory) : Prop where
  users : d.users.map User.outward = d'.users.map User.outward
  outbox : d.outbox = d'.outbox

/-- A request without announcements changes nothing that is told. -/
theorem Effect.alike (h : d.Effect clock c d') (hc : c.announced = false) : d.Alike d' := by
  cases h with
  | unchanged => exact ⟨rfl, rfl⟩
  | created => cases hc
  | changed before u after users first fits =>
      refine ⟨?_, ?_⟩
      · simp [users, DirectoryCall.outward_edit hc]
      · simp [DirectoryCall.events_of_not_announced hc]

theorem map_changeFirst {α β : Type} {f : α → β} {fits : α → Bool} {change : α → α}
    {fits' : β → Bool} {change' : β → β} (hfits : ∀ a, fits a = fits' (f a))
    (hchange : ∀ a, f (change a) = change' (f a)) (as : List α) :
    (changeFirst fits change as).map f = changeFirst fits' change' (as.map f) := by
  induction as with
  | nil => rfl
  | cons a as ih =>
      simp only [changeFirst, List.map_cons, ← hfits]
      split
      · rw [List.map_cons, hchange]
      · rw [List.map_cons, ih]

namespace Alike

theorem symm (h : d.Alike d') : d'.Alike d := ⟨h.users.symm, h.outbox.symm⟩

theorem trans (h : d.Alike d') (k : d'.Alike d'') : d.Alike d'' :=
  ⟨h.users.trans k.users, h.outbox.trans k.outbox⟩

theorem length (h : d.Alike d') : d.users.length = d'.users.length := by
  have := congrArg List.length h.users
  simpa using this

section Views

variable (fits : User → Bool) (fits' : Outward → Bool)

theorem find? (h : d.Alike d') (hfits : ∀ u, fits u = fits' u.outward) :
    (d.users.find? fits).map User.outward = (d'.users.find? fits).map User.outward := by
  have hview : fits = fits' ∘ User.outward := funext hfits
  rw [hview, ← List.find?_map, ← List.find?_map, h.users]

theorem any (h : d.Alike d') (hfits : ∀ u, fits u = fits' u.outward) :
    d.users.any fits = d'.users.any fits := by
  have hview : fits = fits' ∘ User.outward := funext hfits
  rw [hview, ← List.any_map, ← List.any_map, h.users]

/-- A change that depends on nothing but what is told, and changes what is told alike. -/
theorem mutate (change : User → User) (change' : Outward → Outward) (h : d.Alike d')
    (hfits : ∀ u, fits u = fits' u.outward)
    (hchange : ∀ u, (change u).outward = change' u.outward) (clock : Instant)
    (events : List Outbox.NewEnvelope) :
    (d.mutate clock fits events change).1 = (d'.mutate clock fits events change).1 ∧
      (d.mutate clock fits events change).2.Alike (d'.mutate clock fits events change).2 := by
  unfold Directory.mutate
  rw [h.any fits fits' hfits, h.outbox]
  split
  · cases d'.outbox.append clock events with
    | error e => exact ⟨rfl, h⟩
    | ok stored =>
        refine ⟨rfl, ?_, rfl⟩
        rw [map_changeFirst hfits hchange, map_changeFirst hfits hchange, h.users]
  · exact ⟨rfl, h⟩

end Views

/-- Requests that differ in a password hash are replied to alike. -/
theorem reply (h : d.Alike d') (hc : c.Alike c') (clock : Instant) :
    (d.reply clock c).1.map c.seen = (d'.reply clock c').1.map c'.seen ∧
      (d.reply clock c).2.Alike (d'.reply clock c').2 := by
  cases hc with
  | findByEmail email =>
      have hfind := h.find? (·.email == email) (·.identity.email == email) fun _ => rfl
      exact ⟨congrArg (fun u => Except.ok (DirectoryCall.Seen.found u)) hfind, h⟩
  | findByActivationCode code =>
      have hfind := h.find? (·.activationCode == some code) (·.activationCode == some code)
        fun _ => rfl
      exact ⟨congrArg (fun u => Except.ok (DirectoryCall.Seen.found u)) hfind, h⟩
  | @create n n' events same =>
      have hemail : n.email = n'.email := by
        rw [← n.email_withoutPassword, same, n'.email_withoutPassword]
      have htext : ∀ id, (User.ofNew id n).json = (User.ofNew id n').json := by
        intro id
        rw [← User.json_ofNew_withoutPassword, same, User.json_ofNew_withoutPassword]
      have houtward : ∀ id, (User.ofNew id n).outward = (User.ofNew id n').outward := by
        intro id
        rw [← User.outward_ofNew_withoutPassword, same, User.outward_ofNew_withoutPassword]
      have htaken := h.any (·.email == n.email) (·.identity.email == n.email) fun _ => rfl
      simp only [Directory.reply, ← hemail, htaken, h.length, h.outbox]
      split
      · exact ⟨rfl, h⟩
      · cases d'.outbox.append clock events with
        | error e => exact ⟨rfl, h⟩
        | ok stored =>
            refine ⟨?_, ?_, rfl⟩
            · exact congrArg (fun text => Except.ok (DirectoryCall.Seen.made text)) (htext _)
            · rw [List.map_append, List.map_append, h.users]
              exact congrArg (fun o => _ ++ [o]) (houtward _)
  | activate code now events =>
      obtain ⟨hreply, hafter⟩ := h.mutate (·.activationCode == some code)
        (·.activationCode == some code)
        (fun u => { u with status := .activated, activationCode := none, updatedAt := now })
        (fun o => { o with status := .activated, activationCode := none })
        (fun _ => rfl) (fun _ => rfl) clock events
      exact ⟨congrArg (Except.map DirectoryCall.Seen.told) hreply, hafter⟩
  | setResetCode id code now events =>
      obtain ⟨hreply, hafter⟩ := h.mutate (·.id == id) (·.identity.id == id)
        (fun u => { u with resetPasswordCode := some code, updatedAt := now }) (fun o => o)
        (fun _ => rfl) (fun _ => rfl) clock events
      simp only [Directory.reply]
      revert hreply hafter
      generalize d.mutate _ _ _ _ = x
      generalize d'.mutate _ _ _ _ = x'
      obtain ⟨r, after⟩ := x
      obtain ⟨r', after'⟩ := x'
      rintro rfl hafter
      cases r with
      | error e => exact ⟨rfl, hafter⟩
      | ok found =>
          cases found with
          | false => exact ⟨rfl, hafter⟩
          | true => exact ⟨rfl, hafter⟩

end Alike

end Directory

end Accounts
