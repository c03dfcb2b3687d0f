import Accounts.Proofs.Account.Event
import Accounts.Proofs.Service.World
/-!
# The outbox tells what became of the users

Whatever is stored in the outbox is the announcement of a change that is made to a user
at the same time, or of a change that a call read the user for before.  What was read
then and what is changed now is the same user, because a user is told by its number or
by its activation code, and because nothing changes the identity of a user.

So the outbox can be read as a log of the users: each one is announced once when it is
made, once more when it is activated, and whenever it is given a reset code.
`World.Faithful` says so of events, and it is kept by every move.
-/

namespace Accounts

open Outbox (NewEnvelope Envelope)
open AccountEvent (changed resetPassword)

/-! ## Users and the calls that made them -/

/-- A user was made by a call, and waits for the activation code of the call until it is
activated. -/
structure User.MadeBy (u : User) (r : RegisterRequest) (a : Operation.NewAccount) : Prop where
  /-- The identity is the one that the call asked for. -/
  identity : u.identity = (User.ofNew u.id (Operation.newUser r a)).identity
  /-- The activation code is there until it is used. -/
  code : (u.status = .registered ∧ u.activationCode = some a.activationCode) ∨
    (u.status = .activated ∧ u.activationCode = none)

namespace User.MadeBy

variable {u v : User} {r : RegisterRequest} {a : Operation.NewAccount} {code : String}

theorem ofNew (id : Int) (r : RegisterRequest) (a : Operation.NewAccount) :
    (User.ofNew id (Operation.newUser r a)).MadeBy r a := ⟨rfl, .inl ⟨rfl, rfl⟩⟩

theorem publicId (h : u.MadeBy r a) : u.publicId = a.publicId :=
  congrArg Identity.publicId h.identity

theorem code_eq (h : u.MadeBy r a) (hc : u.activationCode = some code) :
    u.status = .registered ∧ a.activationCode = code := by
  rcases h.code with ⟨hs, ha⟩ | ⟨-, ha⟩
  · exact ⟨hs, Option.some.inj (ha.symm.trans hc)⟩
  · cases ha.symm.trans hc

/-- What a call made has the snapshots of all that it made. -/
theorem activation_eq (h : u.MadeBy r a) (k : v.MadeBy r a) (now : Instant) :
    UserChanged.ofUser (Operation.activated v now) = u.identity.activation now := by
  have hv : UserChanged.ofUser (Operation.activated v now) = v.identity.activation now := rfl
  rw [hv, h.identity, k.identity]
  rfl

theorem of_identity (h : u.MadeBy r a) (hid : v.identity = u.identity) (hs : v.status = u.status)
    (hc : v.activationCode = u.activationCode) : v.MadeBy r a := by
  have hv : v.id = u.id := congrArg Identity.id hid
  refine ⟨?_, ?_⟩
  · rw [hid, hv, ← h.identity]
  · rw [hs, hc]
    exact h.code

theorem activated (h : u.MadeBy r a) (now : Instant) : (Operation.activated u now).MadeBy r a :=
  ⟨h.identity, .inr ⟨rfl, rfl⟩⟩

end User.MadeBy

theorem Directory.map_content_announced (d : Directory) (clock : Instant)
    (events : List NewEnvelope) : (d.announced clock events).rows.map Envelope.content =
      d.outbox.rows.map Envelope.content ++ events := by
  rw [announced, List.map_append, Outbox.Store.map_content_fresh]

namespace World

variable {s : Service} {w w' : World} {es : List AccountEvent}

/-! ## Fresh names -/

/-- No name and no code is made up twice. -/
def Fresh (w : World) : Prop := (w.calls.flatMap Call.madeUp).Nodup

/-- Two calls that made up the same are one call. -/
theorem Fresh.place_eq (h : w.Fresh) {i j : Nat} {c c' : Call} {x : String}
    (hi : w.calls[i]? = some c) (hj : w.calls[j]? = some c') (hx : x ∈ c.madeUp)
    (hx' : x ∈ c'.madeUp) : i = j := by
  obtain ⟨-, hpair⟩ := List.nodup_flatMap.1 h
  obtain ⟨hilt, rfl⟩ := List.getElem?_eq_some_iff.1 hi
  obtain ⟨hjlt, rfl⟩ := List.getElem?_eq_some_iff.1 hj
  have hdisjoint := List.pairwise_iff_getElem.1 hpair
  rcases Nat.lt_trichotomy i j with hlt | heq | hlt
  · exact (hdisjoint i j hilt hjlt hlt hx hx').elim
  · exact heq
  · exact (hdisjoint j i hjlt hilt hlt hx' hx).elim

theorem Fresh.of_stepped (h : w'.Fresh) (hs : Stepped s w w') : w.Fresh := by
  obtain ⟨more, hmore⟩ := hs.calls
  unfold Fresh at h
  rw [← hmore, List.flatMap_append] at h
  exact h.of_append_left

/-- Calls that made up the same made the same account. -/
theorem Fresh.made_eq (h : w.Fresh) {i j : Nat} {r r' : RegisterRequest}
    {a a' : Operation.NewAccount} (hi : w.calls[i]? = some (.register r a))
    (hj : w.calls[j]? = some (.register r' a')) {x : String}
    (hx : x ∈ (Call.register r a).madeUp) (hx' : x ∈ (Call.register r' a').madeUp) :
    r = r' ∧ a = a' := by
  obtain rfl := h.place_eq hi hj hx hx'
  cases hi.symm.trans hj
  exact ⟨rfl, rfl⟩

/-! ## Events that tell what became of the users -/

/-- A user was made by a call, and events tell what became of it. -/
structure Recorded (w : World) (es : List AccountEvent) (u : User) (place : Nat)
    (r : RegisterRequest) (a : Operation.NewAccount) : Prop where
  /-- The call is at the place. -/
  call : w.calls[place]? = some (.register r a)
  /-- The call made the user. -/
  created : ∃ events, .users (.create (Operation.newUser r a) events)
    (.ok (User.ofNew u.id (Operation.newUser r a))) ∈ w.trace place
  /-- The user is as the call asked for. -/
  made : u.MadeBy r a
  /-- The events tell what became of it. -/
  announced : Announced es u a.activationCode

theorem Recorded.replied {u v : User} {place : Nat} {r : RegisterRequest}
    {a : Operation.NewAccount} {e : Entry} {rest : Running} {es' : List AccountEvent}
    (h : w.Recorded es u place r a) (here : w.calls[e.call]? = some rest.call)
    (hann : Announced es' v a.activationCode) (hmade : v.MadeBy r a) (hid : v.id = u.id) :
    (w.replied e rest).Recorded es' v place r a where
  call := (calls_replied here).symm ▸ h.call
  created := by
    obtain ⟨events, hcreated⟩ := h.created
    exact ⟨events, hid ▸ mem_trace_replied.2 (.inl hcreated)⟩
  made := hmade
  announced := hann

/-- A user was once there as it is. -/
structure Known (w : World) (u : User) : Prop where
  /-- It is still there under its identity. -/
  there : ∃ v ∈ w.directory.users, v.identity = u.identity
  /-- It was made by a call. -/
  made : ∃ (place : Nat) (r : RegisterRequest) (a : Operation.NewAccount),
    w.calls[place]? = some (.register r a) ∧ u.MadeBy r a

/-- The outbox holds events that tell what became of the users. -/
structure Faithful (w : World) (es : List AccountEvent) : Prop where
  /-- The rows are the events. -/
  rows : w.directory.outbox.rows.map Envelope.content = es.map AccountEvent.envelope
  /-- Every event is about somebody. -/
  owned : ∀ e ∈ es, ∃ u ∈ w.directory.users, u.publicId = e.publicId
  /-- No two users have the same public name. -/
  named : (w.directory.users.map User.publicId).Nodup
  /-- The events tell what became of every user. -/
  users : ∀ u ∈ w.directory.users, ∃ place r a, w.Recorded es u place r a
  /-- Whoever was there at a question is known. -/
  known : ∀ e ∈ w.log, ∀ u ∈ e.before.users, w.Known u

namespace Faithful

theorem empty : Faithful empty [] where
  rows := rfl
  owned := by simp
  named := List.nodup_nil
  users := by simp [World.empty, Directory.empty]
  known := by simp [World.empty]

theorem known_of_mem (h : w.Faithful es) {u : User} (hu : u ∈ w.directory.users) : w.Known u := by
  obtain ⟨place, r, a, hrec⟩ := h.users u hu
  exact ⟨⟨u, hu, rfl⟩, place, r, a, hrec.call, hrec.made⟩

/-- A move that asks nothing keeps the events. -/
theorem of_stepped (h : w.Faithful es) (hs : Stepped s w w')
    (hu : w'.directory.users = w.directory.users)
    (hr : w'.directory.outbox.rows = w.directory.outbox.rows) (hl : w'.log = w.log) :
    w'.Faithful es where
  rows := hr ▸ h.rows
  owned := hu ▸ h.owned
  named := hu ▸ h.named
  users u hmem := by
    obtain ⟨place, r, a, hrec⟩ := h.users u (hu ▸ hmem)
    refine ⟨place, r, a, hs.getElem?_calls hrec.call, ?_, hrec.made, hrec.announced⟩
    rw [trace, hl]
    exact hrec.created
  known e he u hmem := by
    obtain ⟨hthere, place, r, a, hcall, hmade⟩ := h.known e (hl ▸ he) u hmem
    exact ⟨hu ▸ hthere, place, r, a, hs.getElem?_calls hcall, hmade⟩

section Replied

variable {e : Entry} {rest : Running} {more : List AccountEvent}

/-- A question that is replied to keeps the events if those that are stored with it tell
what became of the users. -/
theorem replied (h : w.Faithful es) (here : w.calls[e.call]? = some rest.call)
    (hb : e.before = w.directory)
    (hrows : e.after.outbox.rows.map Envelope.content =
      w.directory.outbox.rows.map Envelope.content ++ more.map AccountEvent.envelope)
    (howned : ∀ x ∈ more, ∃ u ∈ e.after.users, u.publicId = x.publicId)
    (hnamed : (e.after.users.map User.publicId).Nodup)
    (husers : ∀ u ∈ e.after.users, ∃ place r a,
      (w.replied e rest).Recorded (es ++ more) u place r a) :
    (w.replied e rest).Faithful (es ++ more) where
  rows := by rw [World.replied, hrows, h.rows, List.map_append]
  owned x hx := by
    rcases List.mem_append.1 hx with hx | hx
    · obtain ⟨u, hu, hp⟩ := h.owned x hx
      obtain ⟨v, hv, hid⟩ := e.exists_identity (hb ▸ hu)
      exact ⟨v, hv, (congrArg Identity.publicId hid).trans hp⟩
    · exact howned x hx
  named := hnamed
  users := husers
  known x hx u hu := by
    have hknown : w.Known u := by
      rcases List.mem_append.1 hx with hx | hx
      · exact h.known x hx u hu
      · rw [List.mem_singleton.1 hx, hb] at hu
        exact h.known_of_mem hu
    obtain ⟨⟨v, hv, hid⟩, place, r, a, hcall, hmade⟩ := hknown
    obtain ⟨v', hv', hid'⟩ := e.exists_identity (hb ▸ hv)
    exact ⟨⟨v', hv', hid'.trans hid⟩, place, r, a, (calls_replied here).symm ▸ hcall, hmade⟩

/-- A question that changes nothing keeps the events. -/
theorem unchanged (h : w.Faithful es) (here : w.calls[e.call]? = some rest.call)
    (hb : e.before = w.directory) (he : e.after = e.before) :
    (w.replied e rest).Faithful es := by
  rw [← List.append_nil es]
  rw [hb] at he
  refine h.replied here hb ?_ (by simp) (he ▸ h.named) ?_
  · rw [he, List.map_nil, List.append_nil]
  · intro u hu
    obtain ⟨place, r, a, hrec⟩ := h.users u (he ▸ hu)
    rw [List.append_nil]
    exact ⟨place, r, a, hrec.replied here hrec.announced hrec.made rfl⟩

/-- A call that has asked nothing makes up names that nobody has. -/
theorem publicId_ne (h : w.Faithful es) (hf : w.Fresh) {place : Nat} {r : RegisterRequest}
    {a : Operation.NewAccount} (hcall : w.calls[place]? = some (.register r a))
    (ht : w.trace place = []) : ∀ u ∈ w.directory.users, u.publicId ≠ a.publicId := by
  intro u hu hp
  obtain ⟨place', r', a', hrec⟩ := h.users u hu
  obtain ⟨events, hcreated⟩ := hrec.created
  have hpa : a'.publicId = a.publicId := hrec.made.publicId.symm.trans hp
  have heq : place' = place := hf.place_eq hrec.call hcall (x := a.publicId)
    (by simp [Call.madeUp, hpa]) (by simp [Call.madeUp])
  rw [heq, ht] at hcreated
  cases hcreated

/-- A new user is told. -/
theorem created (h : w.Faithful es) (hf : w.Fresh) {r : RegisterRequest}
    {a : Operation.NewAccount} {events : List NewEnvelope} {clock : Instant} {id : Int}
    (here : w.calls[e.call]? = some rest.call) (hb : e.before = w.directory)
    (hcall : rest.call = .register r a) (ht : w.trace e.call = [])
    (hevents : events = (registrationEvents (Operation.newUser r a)).map AccountEvent.envelope)
    (hx : e.exchange = .users (.create (Operation.newUser r a) events)
      (.ok (User.ofNew id (Operation.newUser r a))))
    (he : e.after = ⟨w.directory.users ++ [User.ofNew id (Operation.newUser r a)],
      w.directory.announced clock events⟩) :
    (w.replied e rest).Faithful (es ++ registrationEvents (Operation.newUser r a)) := by
  -- The name is new, so what was told before is about others.
  have hnew := h.publicId_ne hf (hcall ▸ here) ht
  have hothers : ∀ x ∈ registrationEvents (Operation.newUser r a), x.publicId = a.publicId := by
    simp [registrationEvents, AccountEvent.publicId, Operation.newUser]
  refine h.replied here hb ?_ ?_ ?_ ?_
  · rw [he, Directory.map_content_announced, hevents]
  · intro x hx
    rw [he]
    exact ⟨_, List.mem_append_right _ (List.mem_singleton_self _), (hothers x hx).symm⟩
  · rw [he, List.map_append, List.map_singleton]
    refine List.nodup_append.2 ⟨h.named, List.nodup_singleton _, ?_⟩
    intro p hp q hq
    obtain ⟨u, hu, rfl⟩ := List.mem_map.1 hp
    rw [List.mem_singleton.1 hq]
    exact hnew u hu
  · intro u hu
    rw [he] at hu
    rcases List.mem_append.1 hu with hu | hu
    · obtain ⟨place, r', a', hrec⟩ := h.users u hu
      refine ⟨place, r', a', hrec.replied here (hrec.announced.of_others ?_) hrec.made rfl⟩
      intro x hx hp
      exact hnew u hu (hp.symm.trans (hothers x hx))
    · rw [List.mem_singleton.1 hu]
      refine ⟨e.call, r, a, ?_, ⟨events, ?_⟩, .ofNew id r a, .of_new ?_ id⟩
      · rw [calls_replied here, here, hcall]
      · rw [mem_trace_replied]
        exact .inr ⟨rfl, hx.symm⟩
      · intro x hx hp
        obtain ⟨u, hu, hpu⟩ := h.owned x hx
        exact hnew u hu (hpu.trans hp)

/-- A change of a user is told. -/
theorem changed {c : DirectoryCall} {clock : Instant} {before after : List User} {u : User}
    (h : w.Faithful es) (here : w.calls[e.call]? = some rest.call) (hb : e.before = w.directory)
    (hu : w.directory.users = before ++ u :: after)
    (he : e.after = ⟨before ++ c.edit u :: after, w.directory.announced clock c.events⟩)
    (hown : ∀ x ∈ more, x.publicId = u.publicId)
    (hevents : c.events = more.map AccountEvent.envelope)
    (hedit : ∀ r a, u.MadeBy r a → Announced es u a.activationCode →
      (c.edit u).MadeBy r a ∧ Announced (es ++ more) (c.edit u) a.activationCode) :
    (w.replied e rest).Faithful (es ++ more) := by
  have hnames : e.after.users.map User.publicId = w.directory.users.map User.publicId := by
    have hp : (c.edit u).publicId = u.publicId := congrArg Identity.publicId (c.identity_edit u)
    rw [he, hu, List.map_append, List.map_append, List.map_cons, List.map_cons, hp]
  have hnamed := h.named
  rw [hu, List.map_append, List.map_cons, List.nodup_middle, List.nodup_cons,
    ← List.map_append] at hnamed
  have hmem : u ∈ w.directory.users := by rw [hu]; simp
  refine h.replied here hb ?_ ?_ (hnames ▸ h.named) ?_
  · rw [he, Directory.map_content_announced, hevents]
  · intro x hx
    obtain ⟨v, hv, hid⟩ := e.exists_identity (hb ▸ hmem)
    exact ⟨v, hv, (congrArg Identity.publicId hid).trans (hown x hx).symm⟩
  · intro v hv
    have hv : v = c.edit u ∨ v ∈ before ++ after := by
      rw [he] at hv
      simpa [or_left_comm] using hv
    rcases hv with rfl | hv
    · obtain ⟨place, r, a, hrec⟩ := h.users u hmem
      obtain ⟨hmade, hann⟩ := hedit r a hrec.made hrec.announced
      exact ⟨place, r, a, hrec.replied here hann hmade (Directory.id_edit c u)⟩
    · have hvu : v ∈ w.directory.users := by
        rw [hu]
        simpa [or_left_comm] using Or.inr hv
      obtain ⟨place, r, a, hrec⟩ := h.users v hvu
      refine ⟨place, r, a, hrec.replied here (hrec.announced.of_others ?_) hrec.made rfl⟩
      intro x hx hp
      exact hnamed.1 (List.mem_map.2 ⟨v, hv, hp.symm.trans (hown x hx)⟩)

/-- An activation is told, though its event is of a user that was read before. -/
theorem activated {code : String} {now clock : Instant} {events : List NewEnvelope}
    {before after : List User} {u x : User} (h : w.Faithful es) (hf : w.Fresh)
    (here : w.calls[e.call]? = some rest.call) (hb : e.before = w.directory)
    (hu : w.directory.users = before ++ u :: after) (hcode : u.activationCode = some code)
    (he : e.after = ⟨before ++ (DirectoryCall.activate code now events).edit u :: after,
      w.directory.announced clock events⟩)
    (hx : w.Known x) (hxcode : x.activationCode = some code)
    (hevents : events =
      [(AccountEvent.changed (.ofUser (Operation.activated x now))).envelope]) :
    ∃ es', (w.replied e rest).Faithful es' := by
  have hmem : u ∈ w.directory.users := by rw [hu]; simp
  obtain ⟨place, r, a, hrec⟩ := h.users u hmem
  obtain ⟨-, place', r', a', hcall', hmade'⟩ := hx
  obtain ⟨hs, ha⟩ := hrec.made.code_eq hcode
  obtain ⟨-, ha'⟩ := hmade'.code_eq hxcode
  -- Only one call made the code up, so what was read is the user that is activated.
  obtain ⟨rfl, rfl⟩ := hf.made_eq hrec.call hcall' (x := code) (by simp [Call.madeUp, ha])
    (by simp [Call.madeUp, ha'])
  rw [hrec.made.activation_eq hmade'] at hevents
  have hown : ∀ y ∈ [AccountEvent.changed (u.identity.activation now)],
      y.publicId = u.publicId := List.forall_mem_singleton.2 rfl
  refine ⟨_, h.changed here hb hu he hown hevents ?_⟩
  intro r a hmade hann
  exact ⟨hmade.activated now, hann.activate hs now⟩

/-- A reset code is told, though its event is of a user that was read before. -/
theorem resetGiven {code : String} {now clock : Instant} {events : List NewEnvelope}
    {before after : List User} {u x : User} (h : w.Faithful es) (hnum : w.directory.Numbered)
    (here : w.calls[e.call]? = some rest.call) (hb : e.before = w.directory)
    (hu : w.directory.users = before ++ u :: after) (hid : u.id = x.id)
    (he : e.after = ⟨before ++ (DirectoryCall.setResetCode x.id code now events).edit u :: after,
      w.directory.announced clock events⟩)
    (hx : w.Known x)
    (hevents : events = [(AccountEvent.resetPassword
      { publicId := x.publicId, email := x.email, resetPasswordCode := code }).envelope]) :
    ∃ es', (w.replied e rest).Faithful es' := by
  have hmem : u ∈ w.directory.users := by rw [hu]; simp
  obtain ⟨v, hv, hidentity⟩ := hx.there
  have hvid : v.id = u.id := (congrArg Identity.id hidentity).trans hid.symm
  obtain rfl := hnum.eq_of_id hv hmem hvid
  have hpublicId : v.publicId = x.publicId := congrArg Identity.publicId hidentity
  have hemail : v.email = x.email := congrArg Identity.email hidentity
  rw [← hpublicId, ← hemail] at hevents
  have hown : ∀ y ∈ [AccountEvent.resetPassword ⟨v.publicId, v.email, code⟩],
      y.publicId = v.publicId := List.forall_mem_singleton.2 rfl
  refine ⟨_, h.changed here hb hu he hown hevents ?_⟩
  intro r a hmade hann
  exact ⟨hmade.of_identity rfl rfl rfl, hann.giveReset code now⟩

/-- A change without events is one that nobody has to be told. -/
theorem edited {c : DirectoryCall} {clock : Instant} {before after : List User} {u : User}
    (h : w.Faithful es) (here : w.calls[e.call]? = some rest.call) (hb : e.before = w.directory)
    (hu : w.directory.users = before ++ u :: after)
    (he : e.after = ⟨before ++ c.edit u :: after, w.directory.announced clock c.events⟩)
    (hevents : c.events = []) (hstatus : (c.edit u).status = u.status)
    (hcode : (c.edit u).activationCode = u.activationCode)
    (hreset : ∀ code, (c.edit u).resetPasswordCode = some code → u.resetPasswordCode = some code) :
    (w.replied e rest).Faithful es := by
  rw [← List.append_nil es]
  refine h.changed here hb hu he (by simp) hevents ?_
  intro r a hmade hann
  rw [List.append_nil]
  have hid := c.identity_edit u
  exact ⟨hmade.of_identity hid hstatus hcode, hann.of_identity hid hstatus hreset⟩

/-- A question that is replied to keeps the outbox faithful. -/
theorem turned (h : w.Faithful es) (hf : w.Fresh) (hnum : w.directory.Numbered)
    (here : w.calls[e.call]? = some rest.call) (hb : e.before = w.directory)
    (asks : (s.operation rest.call).Asks (w.trace e.call) e.query) :
    ∃ es', (w.replied e rest).Faithful es' := by
  rcases e.effect with he | ⟨c, hq, heff⟩
  · exact ⟨es, h.unchanged here hb he⟩
  rw [hq] at asks
  have hj := Service.justifies asks
  generalize he : e.after = d at heff
  rw [hb] at heff
  cases heff with
  | unchanged => exact ⟨es, h.unchanged here hb (he.trans hb.symm)⟩
  | created n events =>
      obtain ⟨r, a, hcall, ht, rfl, hevents⟩ := hj
      have hne : e.after ≠ e.before := by
        intro heq
        have hlen := congrArg (fun d : Directory => d.users.length) (he.symm.trans (heq.trans hb))
        simp at hlen
      obtain ⟨hx, hafter⟩ := Entry.exchange_of_ne hq hne
      rcases e.before.create_cases e.moment.clock (Operation.newUser r a) events with hsame | hok
      · exact (hne (hafter.trans hsame)).elim
      · rw [hok, hb] at hx
        exact ⟨_, h.created hf here hb hcall ht hevents hx he⟩
  | changed before u after hu hfirst hfits =>
      have hedited := h.edited here hb hu he
      cases c with
      | activate code now events =>
          obtain ⟨x, ht, hevents⟩ := hj
          obtain ⟨y, hy, -, hread⟩ := mem_trace.1 (ht ▸ List.mem_singleton_self _)
          obtain ⟨hxmem, hxcode⟩ := Entry.found_activationCode hread
          have hcode : u.activationCode = some code := by
            simpa [DirectoryCall.fits] using hfits
          exact h.activated hf here hb hu hcode he (h.known y hy x hxmem) hxcode hevents
      | setResetCode id code now events =>
          obtain ⟨email, x, ht, rfl, hevents⟩ := hj
          obtain ⟨y, hy, -, hread⟩ := mem_trace.1 (ht ▸ List.mem_singleton_self _)
          obtain ⟨hxmem, -⟩ := Entry.found_email hread
          have hid : u.id = x.id := by simpa [DirectoryCall.fits] using hfits
          exact h.resetGiven hnum here hb hu hid he (h.known y hy x hxmem) hevents
      | resetPassword code passwordHash now =>
          refine ⟨es, hedited rfl rfl rfl ?_⟩
          intro code hc
          cases hc
      | findByEmail email => cases hfits
      | findByPublicId publicId => cases hfits
      | findByActivationCode code => cases hfits
      | create n events => cases hfits
      | _ => exact ⟨es, hedited rfl rfl rfl fun _ hc => hc⟩

end Replied

end Faithful

/-- As long as no name and no code is made up twice, the outbox holds events that tell
what became of the users. -/
theorem faithful_run (s : Service) (moves : List Move) (hf : (empty.run s moves).Fresh) :
    ∃ es, (empty.run s moves).Faithful es := by
  refine (run_induction (P := fun w => w.Fresh → ∃ es, w.Faithful es) .empty
    (fun _ => ⟨[], .empty⟩) ?_ moves).2 hf
  intro w w' hw ih hs hf
  have hfw := hf.of_stepped hs
  obtain ⟨es, h⟩ := ih hfw
  cases hs with
  | idle => exact ⟨es, h⟩
  | started call => exact ⟨es, h.of_stepped (.started call) rfl rfl rfl⟩
  | refused refusing => exact ⟨es, h.of_stepped (.refused (s := s) refusing) rfl rfl rfl⟩
  | turned e rest here hb asks => exact h.turned hfw hw.numbered here hb asks

/-! ## The outbox -/

/-- The outbox tells what became of the users.  Every row is about a user who is there.
For each of them there is a snapshot of its registration, right before the mail with
the code that it was made with, and one of its activation if it is activated; the last
of them is the user as it is, and the last reset code is the one that it has. -/
theorem outbox_tells_users (s : Service) (moves : List Move) (hf : (empty.run s moves).Fresh) :
    (empty.run s moves).directory.outbox.Numbered ∧
    (∀ row ∈ (empty.run s moves).directory.outbox.rows,
      ∃ u ∈ (empty.run s moves).directory.users,
        row.content.text? "public_id" = some u.publicId) ∧
    ∀ u ∈ (empty.run s moves).directory.users, ∃ code,
      (empty.run s moves).directory.outbox.Tells u code ∧
      ∃ place n events made, made.id = u.id ∧ made.activationCode = some code ∧
        .users (.create n events) (.ok made) ∈ (empty.run s moves).trace place := by
  have hrows := (Coherent.empty.run (s := s) moves).numberedRows
  obtain ⟨es, h⟩ := faithful_run s moves hf
  refine ⟨hrows, ?_, ?_⟩
  · intro row hrow
    have hcontent : row.content ∈ es.map AccountEvent.envelope :=
      h.rows ▸ List.mem_map_of_mem hrow
    obtain ⟨x, hx, hcontent⟩ := List.mem_map.1 hcontent
    obtain ⟨u, hu, hp⟩ := h.owned x hx
    exact ⟨u, hu, by rw [← hcontent, AccountEvent.text?_publicId, hp]⟩
  · intro u hu
    obtain ⟨place, r, a, hrec⟩ := h.users u hu
    obtain ⟨events, hcreated⟩ := hrec.created
    exact ⟨a.activationCode, hrec.announced.tells hrows h.rows,
      place, _, events, User.ofNew u.id (Operation.newUser r a), rfl, rfl, hcreated⟩

open Sample in
/-- The rows of a user who was made and activated. -/
theorem outbox_tells_users_enrolment :
    (empty.run (service (.ofSeconds 900)) enrolment).Fresh ∧
    ∃ u, (empty.run (service (.ofSeconds 900)) enrolment).directory.users = [u] ∧
      u.status = .activated ∧ ∃ code,
        (empty.run (service (.ofSeconds 900)) enrolment).directory.outbox.Tells u code := by
  have hf : (empty.run (service (.ofSeconds 900)) enrolment).Fresh := by
    have hmade : (empty.run (service (.ofSeconds 900)) enrolment).calls.flatMap Call.madeUp =
        ["user", "code"] := rfl
    rw [Fresh, hmade]
    decide
  have hstatus : (empty.run (service (.ofSeconds 900)) enrolment).directory.users.map User.status =
      [.activated] := rfl
  obtain ⟨u, husers, hu⟩ := List.map_eq_singleton_iff.1 hstatus
  obtain ⟨-, -, h⟩ := outbox_tells_users (service (.ofSeconds 900)) enrolment hf
  obtain ⟨code, htells, -⟩ := h u (husers ▸ List.mem_singleton_self u)
  exact ⟨hf, u, husers, hu, code, htells⟩

end World

end Accounts
