import Accounts.Operation.Registration
import Accounts.Proofs.Directory.Effect
/-!
# What is announced about a user

A list of events *announces* a user when it tells what became of it: one snapshot when
it was made, with the mail that carries the activation code right after it, one more
snapshot if it was activated, and the reset code that it has at the end, if it has one.

The announcement depends on the identity of the user, its status and its reset code
only.  It is kept by events about others, and every event about the user itself makes
it the announcement of the user after the change.

What events say can be read off the rows that they become, so an outbox that holds the
events says the same as they do.
-/

namespace Accounts

open Outbox (NewEnvelope Envelope Store)

/-! ## Messages and rows -/

/-- The text in a field of a message. -/
def Outbox.NewEnvelope.text? (e : NewEnvelope) (name : String) : Option String :=
  match e.payload.field? name with
  | some (.string s) => some s
  | _ => none

/-- What a row says and where it goes. -/
def Outbox.Envelope.content (row : Envelope) : NewEnvelope := ⟨row.topic, row.payload⟩

/-- The rows of a topic about a user. -/
def Outbox.Store.rowsAbout (s : Store) (topic publicId : String) : List Envelope :=
  s.rows.filter fun row => row.topic == topic && row.content.text? "public_id" == some publicId

theorem Outbox.Store.map_content_fresh (now : Instant) (id : Int) (events : List NewEnvelope) :
    (Store.fresh now id events).map Envelope.content = events := by
  induction events generalizing id with
  | nil => rfl
  | cons e es ih =>
      rw [Store.fresh, List.map_cons, ih]
      rfl

/-! ## Events about a user -/

namespace AccountEvent

/-- Whom an event is about. -/
def publicId : AccountEvent → String
  | changed e => e.publicId
  | registered e => e.publicId
  | resetPassword e => e.publicId

/-- The events of a topic about a user. -/
def about (topic publicId : String) (es : List AccountEvent) : List AccountEvent :=
  es.filter fun e => e.topic == topic && e.publicId == publicId

variable {t p : String} {es more : List AccountEvent}

theorem about_append : about t p (es ++ more) = about t p es ++ about t p more :=
  List.filter_append ..

theorem about_of_others (h : ∀ e ∈ es, e.publicId ≠ p) : about t p es = [] := by
  refine List.filter_eq_nil_iff.2 fun e he hp => h e he ?_
  rw [Bool.and_eq_true, beq_iff_eq, beq_iff_eq] at hp
  exact hp.2

theorem about_concat_of_topic {e : AccountEvent} (ht : e.topic = t) (hp : e.publicId = p) :
    about t p (es ++ [e]) = about t p es ++ [e] := by
  rw [about_append]
  simp [about, ht, hp]

theorem about_concat_of_ne {e : AccountEvent} (ht : e.topic ≠ t) :
    about t p (es ++ [e]) = about t p es := by
  rw [about_append]
  simp [about, ht]

@[simp] theorem text?_publicId (e : AccountEvent) :
    e.envelope.text? "public_id" = some e.publicId := by
  cases e <;> simp [envelope, json, publicId, NewEnvelope.text?, Json.ofFields, Json.sortFields,
    Json.field?, Json.lookup_insertField]

@[simp] theorem text?_status (e : UserChanged) :
    (changed e).envelope.text? "status" = some e.status.name := by
  simp [envelope, json, NewEnvelope.text?, Json.ofFields, Json.sortFields, Json.field?,
    Json.lookup_insertField]

@[simp] theorem text?_activationCode (e : UserRegistered) :
    (registered e).envelope.text? "activation_code" = some e.activationCode := by
  simp [envelope, json, NewEnvelope.text?, Json.ofFields, Json.sortFields, Json.field?,
    Json.lookup_insertField]

@[simp] theorem text?_resetPasswordCode (e : UserResetPassword) :
    (resetPassword e).envelope.text? "reset_password_code" = some e.resetPasswordCode := by
  simp [envelope, json, NewEnvelope.text?, Json.ofFields, Json.sortFields, Json.field?,
    Json.lookup_insertField]

theorem mem_rowsAbout {s : Store} {row : Envelope} {e : AccountEvent} (hrow : row ∈ s.rows)
    (h : row.content = e.envelope) : row ∈ s.rowsAbout e.topic e.publicId := by
  refine List.mem_filter.2 ⟨hrow, ?_⟩
  have ht : row.topic = e.topic := congrArg NewEnvelope.topic h
  rw [h, text?_publicId, ht]
  simp

/-- The rows about a user say what the events about it say. -/
theorem map_content_rowsAbout {s : Store}
    (h : s.rows.map Envelope.content = es.map AccountEvent.envelope) :
    (s.rowsAbout t p).map Envelope.content = (about t p es).map AccountEvent.envelope := by
  have hrows : s.rowsAbout t p = s.rows.filter
      ((fun e : NewEnvelope => e.topic == t && e.text? "public_id" == some p) ∘
        Envelope.content) := rfl
  rw [hrows, ← List.filter_map, h, List.filter_map]
  congr 1
  refine List.filter_congr fun e _ => ?_
  rw [Function.comp_apply, text?_publicId]
  simp [envelope]

end AccountEvent

open AccountEvent

/-! ## Announced users -/

/-- The snapshot of a user when it was made. -/
def Identity.registration (i : Identity) : UserChanged where
  publicId := i.publicId
  email := i.email
  firstName := i.firstName
  lastName := i.lastName
  status := .registered
  createdAt := i.createdAt
  updatedAt := i.createdAt

/-- The snapshot of a user when it was activated. -/
def Identity.activation (i : Identity) (now : Instant) : UserChanged :=
  { i.registration with status := .activated, updatedAt := now }

/-- The snapshots of a user, the second of them from an instant. -/
def User.snapshots (u : User) (activatedAt : Instant) : List UserChanged :=
  match u.status with
  | .registered => [u.identity.registration]
  | .activated => [u.identity.registration, u.identity.activation activatedAt]

/-- Events tell what became of a user who was made with an activation code. -/
structure Announced (es : List AccountEvent) (u : User) (code : String) : Prop where
  /-- There are the snapshots of the user. -/
  changes : ∃ activatedAt, about changedTopic u.publicId es = (u.snapshots activatedAt).map changed
  /-- There is one mail, with the code. -/
  mails : about registeredTopic u.publicId es = [registered ⟨u.publicId, u.email, code⟩]
  /-- The mail comes right after the first snapshot. -/
  together : [changed u.identity.registration, registered ⟨u.publicId, u.email, code⟩] <:+: es
  /-- The last reset code is the one of the user. -/
  resets : ∀ c, u.resetPasswordCode = some c →
    (about resetPasswordTopic u.publicId es).getLast? =
      some (resetPassword ⟨u.publicId, u.email, c⟩)

namespace Announced

variable {es more : List AccountEvent} {u v : User} {code : String}

/-- Events about others leave a user as it is. -/
theorem of_others (h : Announced es u code) (hm : ∀ e ∈ more, e.publicId ≠ u.publicId) :
    Announced (es ++ more) u code := by
  have habout : ∀ t, about t u.publicId (es ++ more) = about t u.publicId es := by
    intro t
    rw [about_append, about_of_others hm, List.append_nil]
  refine ⟨?_, ?_, ?_, ?_⟩
  · rw [habout]
    exact h.changes
  · rw [habout]
    exact h.mails
  · exact h.together.trans (List.prefix_append es more).isInfix
  · rw [habout]
    exact h.resets

/-- A new user is announced. -/
theorem of_new {n : NewUser} (hes : ∀ e ∈ es, e.publicId ≠ n.publicId) (id : Int) :
    Announced (es ++ registrationEvents n) (User.ofNew id n) n.activationCode := by
  have habout : ∀ t, about t n.publicId (es ++ registrationEvents n) =
      about t n.publicId (registrationEvents n) := by
    intro t
    rw [about_append, about_of_others hes, List.nil_append]
  refine ⟨⟨n.createdAt, ?_⟩, ?_, ?_, ?_⟩
  · refine (habout changedTopic).trans ?_
    simp [about, registrationEvents, AccountEvent.publicId, topic, changedTopic, registeredTopic,
      User.snapshots, User.ofNew, User.identity, Identity.registration]
  · refine (habout registeredTopic).trans ?_
    simp [about, registrationEvents, AccountEvent.publicId, topic, changedTopic, registeredTopic,
      User.ofNew]
  · exact (List.suffix_append es (registrationEvents n)).isInfix
  · intro c hc
    cases hc

/-- An activation is announced. -/
theorem activate (h : Announced es u code) (hs : u.status = .registered) (now : Instant) :
    Announced (es ++ [changed (u.identity.activation now)])
      (Operation.activated u now) code := by
  have hother : ∀ t, changedTopic ≠ t →
      about t u.publicId (es ++ [changed (u.identity.activation now)]) = about t u.publicId es :=
    fun t ht => about_concat_of_ne ht
  have hown : about changedTopic u.publicId (es ++ [changed (u.identity.activation now)]) =
      about changedTopic u.publicId es ++ [changed (u.identity.activation now)] :=
    about_concat_of_topic rfl rfl
  refine ⟨⟨now, ?_⟩, ?_, ?_, ?_⟩
  · obtain ⟨t, hchanges⟩ := h.changes
    refine hown.trans ?_
    rw [hchanges, User.snapshots, hs]
    rfl
  · exact (hother _ (by decide)).trans h.mails
  · exact h.together.trans (List.prefix_append _ _).isInfix
  · intro c hc
    exact (congrArg List.getLast? (hother _ (by decide))).trans (h.resets c hc)

/-- A reset code is announced. -/
theorem giveReset (h : Announced es u code) (c : String) (now : Instant) :
    Announced (es ++ [resetPassword ⟨u.publicId, u.email, c⟩])
      { u with resetPasswordCode := some c, updatedAt := now } code := by
  have hother : ∀ t, resetPasswordTopic ≠ t →
      about t u.publicId (es ++ [resetPassword ⟨u.publicId, u.email, c⟩]) =
        about t u.publicId es :=
    fun t ht => about_concat_of_ne ht
  have hown : about resetPasswordTopic u.publicId
      (es ++ [resetPassword ⟨u.publicId, u.email, c⟩]) =
        about resetPasswordTopic u.publicId es ++ [resetPassword ⟨u.publicId, u.email, c⟩] :=
    about_concat_of_topic rfl rfl
  refine ⟨?_, ?_, ?_, ?_⟩
  · obtain ⟨t, hchanges⟩ := h.changes
    exact ⟨t, (hother _ (by decide)).trans hchanges⟩
  · exact (hother _ (by decide)).trans h.mails
  · exact h.together.trans (List.prefix_append _ _).isInfix
  · intro c' hc
    cases hc
    exact (congrArg List.getLast? hown).trans List.getLast?_concat

/-- A user of the same identity and status, without another reset code. -/
theorem of_identity (h : Announced es u code) (hid : v.identity = u.identity)
    (hs : v.status = u.status)
    (hr : ∀ c, v.resetPasswordCode = some c → u.resetPasswordCode = some c) :
    Announced es v code := by
  have hp : v.publicId = u.publicId := congrArg Identity.publicId hid
  have he : v.email = u.email := congrArg Identity.email hid
  have hsnap : ∀ t, v.snapshots t = u.snapshots t := by
    intro t
    rw [User.snapshots, User.snapshots, hid, hs]
  refine ⟨?_, ?_, ?_, ?_⟩
  · obtain ⟨t, ht⟩ := h.changes
    exact ⟨t, by rw [hp, hsnap, ht]⟩
  · rw [hp, he]
    exact h.mails
  · rw [hp, he, hid]
    exact h.together
  · intro c hc
    rw [hp, he]
    exact h.resets c (hr c hc)

end Announced

/-! ## What the rows tell -/

/-- The last snapshot is the user as it is, but for the instant of its last change. -/
theorem User.getLast?_snapshots (u : User) (activatedAt : Instant) :
    ∃ updatedAt, (u.snapshots activatedAt).getLast? =
      some { UserChanged.ofUser u with updatedAt } := by
  cases hs : u.status with
  | registered =>
      refine ⟨u.createdAt, ?_⟩
      rw [User.snapshots, UserChanged.ofUser, hs]
      rfl
  | activated =>
      refine ⟨activatedAt, ?_⟩
      rw [User.snapshots, UserChanged.ofUser, hs]
      rfl

/-- The names of the states that a user went through. -/
def UserStatus.passed : UserStatus → List String
  | .registered => ["registered"]
  | .activated => ["registered", "activated"]

theorem User.map_status_snapshots (u : User) (activatedAt : Instant) :
    (u.snapshots activatedAt).map (·.status.name) = u.status.passed := by
  cases hs : u.status with
  | registered =>
      rw [User.snapshots, hs]
      rfl
  | activated =>
      rw [User.snapshots, hs]
      rfl

/-- The rows tell what became of a user who was made with an activation code. -/
structure Outbox.Store.Tells (s : Store) (u : User) (code : String) : Prop where
  /-- There is one snapshot for each state that the user went through. -/
  statuses : (s.rowsAbout changedTopic u.publicId).map (·.content.text? "status") =
    u.status.passed.map some
  /-- There is one mail, right after the first snapshot and with the code. -/
  mail : ∃ first mail, (s.rowsAbout changedTopic u.publicId).head? = some first ∧
    s.rowsAbout registeredTopic u.publicId = [mail] ∧ mail.id = first.id + 1 ∧
    mail.content.text? "activation_code" = some code
  /-- The last snapshot is the user as it is. -/
  last : ∃ row updatedAt, (s.rowsAbout changedTopic u.publicId).getLast? = some row ∧
    row.content = (changed { UserChanged.ofUser u with updatedAt }).envelope
  /-- The last reset code is the one of the user. -/
  resets : ∀ c, u.resetPasswordCode = some c →
    ∃ row, (s.rowsAbout resetPasswordTopic u.publicId).getLast? = some row ∧
      row.content.text? "reset_password_code" = some c

namespace Announced

variable {s : Store} {es : List AccountEvent} {u : User} {code : String}

/-- The rows of the snapshots. -/
theorem rows_changed (h : Announced es u code)
    (hrows : s.rows.map Envelope.content = es.map AccountEvent.envelope) :
    ∃ activatedAt, (s.rowsAbout changedTopic u.publicId).map Envelope.content =
      (u.snapshots activatedAt).map fun e => (changed e).envelope := by
  obtain ⟨t, ht⟩ := h.changes
  refine ⟨t, ?_⟩
  rw [map_content_rowsAbout hrows, ht, List.map_map]
  rfl

/-- Of the snapshots only the first one shows a user that is not activated. -/
theorem head_rowsAbout (h : Announced es u code)
    (hrows : s.rows.map Envelope.content = es.map AccountEvent.envelope) {row : Envelope}
    (hrow : row ∈ s.rowsAbout changedTopic u.publicId)
    (hstatus : row.content.text? "status" = some UserStatus.registered.name) :
    (s.rowsAbout changedTopic u.publicId).head? = some row := by
  obtain ⟨t, ht⟩ := h.rows_changed hrows
  cases hs : u.status with
  | registered =>
      rw [User.snapshots, hs] at ht
      obtain ⟨first, hfirst, -⟩ := List.map_eq_singleton_iff.1 ht
      rw [hfirst] at hrow ⊢
      rw [List.mem_singleton.1 hrow]
      rfl
  | activated =>
      rw [User.snapshots, hs] at ht
      obtain ⟨first, rest, hfirst, -, hrest⟩ := List.map_eq_cons_iff.1 ht
      obtain ⟨second, rfl, hsecond⟩ := List.map_eq_singleton_iff.1 hrest
      rw [hfirst] at hrow ⊢
      rcases List.mem_pair.1 hrow with rfl | rfl
      · rfl
      · rw [hsecond, text?_status] at hstatus
        exact absurd (Option.some.inj hstatus)
          (show UserStatus.activated.name ≠ UserStatus.registered.name by decide)

theorem mail_row (h : Announced es u code) (hn : s.Numbered)
    (hrows : s.rows.map Envelope.content = es.map AccountEvent.envelope) :
    ∃ first mail, (s.rowsAbout changedTopic u.publicId).head? = some first ∧
      s.rowsAbout registeredTopic u.publicId = [mail] ∧ mail.id = first.id + 1 ∧
      mail.content.text? "activation_code" = some code := by
  obtain ⟨pre, post, hes⟩ := h.together
  have hsplit := hrows
  rw [← hes, List.append_assoc, List.map_append] at hsplit
  obtain ⟨rows₁, rows₂, hs, -, h₂⟩ := List.map_eq_append_iff.1 hsplit
  obtain ⟨first, rows₃, rfl, hfirst, h₃⟩ := List.map_eq_cons_iff.1 h₂
  obtain ⟨mail, rows₄, rfl, hmail, -⟩ := List.map_eq_cons_iff.1 h₃
  have hmemFirst : first ∈ s.rowsAbout changedTopic u.publicId :=
    mem_rowsAbout (by simp [hs]) hfirst
  have hmemMail : mail ∈ s.rowsAbout registeredTopic u.publicId :=
    mem_rowsAbout (by simp [hs]) hmail
  have hone := map_content_rowsAbout (t := registeredTopic) (p := u.publicId) hrows
  rw [h.mails] at hone
  obtain ⟨other, hother, -⟩ := List.map_eq_singleton_iff.1 hone
  rw [hother, List.mem_singleton] at hmemMail
  refine ⟨first, mail, h.head_rowsAbout hrows hmemFirst ?_, ?_, hn.id_next hs, ?_⟩
  · rw [hfirst, text?_status]
    rfl
  · rw [hother, hmemMail]
  · rw [hmail, text?_activationCode]

/-- The rows of events tell what the events tell. -/
theorem tells (h : Announced es u code) (hn : s.Numbered)
    (hrows : s.rows.map Envelope.content = es.map AccountEvent.envelope) : s.Tells u code := by
  obtain ⟨t, ht⟩ := h.rows_changed hrows
  refine ⟨?_, h.mail_row hn hrows, ?_, ?_⟩
  · have hmap := congrArg (List.map fun e : NewEnvelope => e.text? "status") ht
    rw [List.map_map, List.map_map] at hmap
    refine hmap.trans ?_
    rw [← u.map_status_snapshots t, List.map_map]
    exact List.map_congr_left fun e _ => text?_status e
  · obtain ⟨updatedAt, hlast⟩ := u.getLast?_snapshots t
    have hrow := congrArg List.getLast? ht
    rw [List.getLast?_map, List.getLast?_map, hlast] at hrow
    obtain ⟨row, hrow, hcontent⟩ := Option.map_eq_some_iff.1 hrow
    exact ⟨row, updatedAt, hrow, hcontent⟩
  · intro c hc
    have hrow := congrArg List.getLast? (map_content_rowsAbout (t := resetPasswordTopic)
      (p := u.publicId) hrows)
    rw [List.getLast?_map, List.getLast?_map, h.resets c hc] at hrow
    obtain ⟨row, hrow, hcontent⟩ := Option.map_eq_some_iff.1 hrow
    exact ⟨row, hrow, by rw [hcontent, text?_resetPasswordCode]⟩

end Announced

end Accounts
