import Accounts.Proofs.Outbox.Stopping
/-!
# Relays in time

In a timeline a relay goes on when its time has come, and until it has to wait.  A fleet does
the same in single moves (`Timeline.resume_stands`): it looks at its switch, does what it decides,
asks one question after another.  So a timeline does nothing that a fleet cannot do, however it
chooses who goes on next, and for how long (`Fleet.Shows.runBefore`).

`Runner.Walks` lists the moves that a relay in time makes, with what they make of its surroundings,
and `Runner.Goes` says that a relay can come from one place of its loop to another by moves of its
own, in whatever fleet it is.  What the code of a relay does is shown once, as a walk
(`Timeline.resume_stands`), and any walk can be followed in a fleet (`Runner.Walks.goes`).
-/

namespace Accounts.Outbox

/-! ## Moves of its own -/

/-- It is a move of a relay, or one that leaves relays and outbox alone. -/
def Fleet.Move.Inner : Fleet.Move → Prop
  | .launch _ | .look _ | .poll _ _ _ | .turn _ | .elsewhere _ => True
  | _ => False

/-- In every fleet the relay can become another one, and the outbox can become another one, by
moves of the relay alone. -/
def Runner.Goes (n : Runner) (s : Store) (n' : Runner) (s' : Store) : Prop :=
  ∀ (f : Fleet) (place : Nat), f.runners[place]? = some n → f.site.store = s →
    ∃ moves : List Fleet.Move, (∀ m ∈ moves, m.Inner) ∧
      (f.run moves).runners = f.runners.set place n' ∧ (f.run moves).others = f.others ∧
      (f.run moves).site.store = s'

theorem Fleet.runners_change {f : Fleet} {place : Nat} {n : Runner}
    (hn : f.runners[place]? = some n) (g : Runner → Runner) :
    (f.change place g).runners = f.runners.set place (g n) := by
  rw [change, List.modify_eq_set_getElem?, hn]
  rfl

namespace Runner.Goes

variable {n n' n'' : Runner} {s s' s'' : Store} {w : Timeline}

theorem refl (n : Runner) (s : Store) : n.Goes s n s := by
  intro f place hn hs
  obtain ⟨hlt, rfl⟩ := List.getElem?_eq_some_iff.1 hn
  exact ⟨[], by simp, (List.set_getElem_self hlt).symm, rfl, hs⟩

theorem trans (h : n.Goes s n' s') (h' : n'.Goes s' n'' s'') : n.Goes s n'' s'' := by
  intro f place hn hs
  obtain ⟨first, hfirst, hrunners, hothers, hstore⟩ := h f place hn hs
  have hn' : (f.run first).runners[place]? = some n' := by
    rw [hrunners]
    exact List.getElem?_set_self (List.getElem?_eq_some_iff.1 hn).1
  obtain ⟨second, hsecond, hrunners', hothers', hstore'⟩ := h' _ place hn' hstore
  refine ⟨first ++ second, ?_, ?_, ?_, ?_⟩
  · intro m hm
    exact (List.mem_append.1 hm).elim (hfirst m) (hsecond m)
  · rw [Fleet.run_append, hrunners', hrunners, List.set_set]
  · rw [Fleet.run_append, hothers', hothers]
  · rw [Fleet.run_append, hstore']

/-- A move that changes the relay alone. -/
theorem change {g : Runner → Runner} {m : Nat → Fleet.Move} (s : Store)
    (hm : ∀ (f : Fleet) place, f.step (m place) = f.change place g)
    (hinner : ∀ place, (m place).Inner) (n : Runner) : n.Goes s (g n) s := by
  intro f place hn hs
  refine ⟨[m place], by simpa using hinner place, ?_, ?_, ?_⟩
  · show (f.step (m place)).runners = _
    rw [hm, Fleet.runners_change hn]
  · show (f.step (m place)).others = _
    rw [hm]
    rfl
  · show (f.step (m place)).site.store = _
    rw [hm]
    exact hs

theorem launch (n : Runner) (s : Store) : n.Goes s n.launch s :=
  change s (m := .launch) (fun _ _ => rfl) (fun _ => trivial) n

theorem look (n : Runner) (s : Store) : n.Goes s n.look s :=
  change s (m := .look) (fun _ _ => rfl) (fun _ => trivial) n

theorem poll (n : Runner) (s : Store) (ticked : Bool) (p : Preference) :
    n.Goes s (n.poll ticked p) s :=
  change s (m := (.poll · ticked p)) (fun _ _ => rfl) (fun _ => trivial) n

/-- A question is asked. -/
theorem asked (w : Timeline) {st : Stage} {q : RelayCall}
    {next : q.Reply → Relaying (Except OutboxError Outcome)}
    (hpost : n.post = .cycling st (.ask q next)) :
    n.Goes w.store
      { n with
        post := .cycling (st.after q (w.reply n.metered q).1) (next (w.reply n.metered q).1) }
      (w.reply n.metered q).2.store := by
  obtain ⟨metered, switch, post, begun⟩ := n
  subst hpost
  intro f place hn hs
  refine ⟨[.elsewhere w, .turn place], by simp [Fleet.Move.Inner], ?_⟩
  have hsite : f.step (.elsewhere w) = { f with site := w } := by
    rw [Fleet.step, hs]
  show ((f.step (.elsewhere w)).step (.turn place)).runners = _ ∧
    ((f.step (.elsewhere w)).step (.turn place)).others = _ ∧
    ((f.step (.elsewhere w)).step (.turn place)).site.store = _
  rw [hsite]
  simp only [Fleet.step, Fleet.turn, hn]
  exact ⟨rfl, trivial, rfl⟩

/-- A cycle is over. -/
theorem finish {st : Stage} {result : Except OutboxError Outcome}
    (hpost : n.post = .cycling st (.done result)) (s : Store) :
    n.Goes s { n with post := .looking } s := by
  obtain ⟨metered, switch, post, begun⟩ := n
  subst hpost
  intro f place hn hs
  refine ⟨[.turn place], by simp [Fleet.Move.Inner], ?_⟩
  show (f.turn place).runners = _ ∧ (f.turn place).others = _ ∧ (f.turn place).site.store = _
  simp only [Fleet.turn, hn]
  exact ⟨trivial, trivial, hs⟩

end Runner.Goes

/-! ## Moves in time -/

/-- What moves of its own make of a relay in time and of its surroundings. -/
inductive Runner.Walks : Runner → Timeline → Runner → Timeline → Prop
  /-- It stays as it is, and takes a place among those that go on in the same millisecond. -/
  | stay (n : Runner) (w : Timeline) (turn : Nat) : Walks n w n { w with turn }
  | launch (n : Runner) (w : Timeline) : Walks n w n.launch w
  | look (n : Runner) (w : Timeline) : Walks n w n.look w
  | poll (n : Runner) (w : Timeline) (ticked : Bool) (p : Preference) :
      Walks n w (n.poll ticked p) w
  /-- It asks a question. -/
  | asked {n : Runner} {st : Stage} {q : RelayCall}
      {next : q.Reply → Relaying (Except OutboxError Outcome)} (w : Timeline)
      (post : n.post = .cycling st (.ask q next)) :
      Walks n w
        { n with
          post := .cycling (st.after q (w.reply n.metered q).1) (next (w.reply n.metered q).1) }
        (w.reply n.metered q).2
  /-- Its cycle is over, and it counts a tick. -/
  | finish {n : Runner} {st : Stage} {result : Except OutboxError Outcome} {r : Relay}
      (w : Timeline) (post : n.post = .cycling st (.done result)) (metered : r.metered = n.metered)
      (begun : n.begun = r.ticks + 1) :
      Walks n w { n with post := .looking } (w.afterCycle r).2
  | trans {n n' n'' : Runner} {w w' w'' : Timeline} :
      Walks n w n' w' → Walks n' w' n'' w'' → Walks n w n'' w''

namespace Runner.Walks

theorem refl (n : Runner) (w : Timeline) : n.Walks w n w := .stay n w w.turn

/-- A relay that is about to look at its switch does what it decides.  So does one that waits,
if it took note of everything that told it to go on. -/
theorem enter {n : Runner} (hpost : n.post = .looking ∨
      n.post = .waiting ∧ (n.switch.on = true → n.switch.changed = true)) (w : Timeline)
    {ticked : Bool} {p : Preference} {d : Decision} (hd : n.switch.enter ticked p = d) :
    n.Walks w (n.follow d) w := by
  obtain ⟨metered, switch, post, begun⟩ := n
  subst hd
  unfold Switch.enter
  rcases hpost with rfl | ⟨rfl, hnoticed⟩
  · have hlook := look ⟨metered, switch, .looking, begun⟩ w
    simp only [Runner.look] at hlook
    split
    · next hon =>
        rw [if_pos hon] at hlook
        exact hlook
    · next hoff =>
        rw [if_neg hoff] at hlook
        exact hlook.trans (poll _ w ticked p)
  · split
    · next hon =>
        -- what tells it to stop is a signal, and it takes that whatever it prefers
        have hchanged : switch.changed = true := hnoticed hon
        have hstop : switch.select ticked .signal = .stop := by
          simp [Switch.select, hchanged, show switch.on = true from hon]
        have hpoll := poll ⟨metered, switch, .waiting, begun⟩ w ticked .signal
        simp only [Runner.poll, hstop] at hpoll
        exact hpoll
    · exact poll ⟨metered, switch, .waiting, begun⟩ w ticked p

end Runner.Walks

@[simp] theorem Timeline.store_afterCycle (w : Timeline) (r : Relay) :
    (w.afterCycle r).2.store = w.store := by
  unfold afterCycle
  dsimp only
  split <;> rfl

/-- What a relay in time does a relay of a fleet does too. -/
theorem Runner.Walks.goes {n n' : Runner} {w w' : Timeline} (h : n.Walks w n' w') :
    n.Goes w.store n' w'.store := by
  induction h with
  | stay n w => exact .refl n w.store
  | launch n w => exact .launch n w.store
  | look n w => exact .look n w.store
  | poll n w ticked p => exact .poll n w.store ticked p
  | asked w post => exact .asked w post
  | finish w post =>
      rw [Timeline.store_afterCycle]
      exact .finish post w.store
  | trans _ _ ih ih' => exact ih.trans ih'

/-! ## Dialogues in time -/

namespace Timeline

variable {w : Timeline} {metered : Bool} {α : Type}

/-- What a dialogue still asks. -/
def Progress.rest : Progress α → Relaying α
  | .over result => .done result
  | .publishing m next => .ask (.publish m) next

/-- A dialogue that asks nothing of the bus runs until it is over. -/
theorem proceed_over (w : Timeline) (metered : Bool) {rest : Relaying α}
    (h : AsksNo RelayCall.isPublish rest) :
    ∃ result w', w.proceed metered rest = (.over result, w') := by
  fun_induction proceed w metered rest with
  | case1 w a => exact ⟨a, w, rfl⟩
  | case2 | case3 => cases h.1
  | case4 w q next hq r w' hreply ih => exact ih (h.2 r)

/-- A dialogue that waits for the bus needs time for it, and asks nothing of it afterwards. -/
theorem proceed_publishing {rest : Relaying α} (h : AsksOnce RelayCall.isPublish rest)
    {w' : Timeline} {m : Message} {next : Except OutboxError Unit → Relaying α}
    (hw : w.proceed metered rest = (.publishing m next, w')) :
    w'.delay ≠ 0 ∧ ∀ r, AsksNo RelayCall.isPublish (next r) := by
  fun_induction proceed w metered rest with
  | case1 w a => cases hw
  | case2 w m' next' hdelay r w'' hreply ih =>
      rcases h with ⟨-, hno⟩ | ⟨hno, -⟩
      · obtain ⟨result, _, hover⟩ := w''.proceed_over metered (hno r)
        rw [hw] at hover
        cases hover
      · cases hno
  | case3 w m' next' hdelay =>
      cases hw
      rcases h with ⟨-, hno⟩ | ⟨hno, -⟩
      · exact ⟨hdelay, hno⟩
      · cases hno
  | case4 w q next' hq r w'' hreply ih =>
      rcases h with ⟨-, hno⟩ | ⟨-, honce⟩
      · obtain ⟨result, _, hover⟩ := w''.proceed_over metered (hno r)
        rw [hw] at hover
        cases hover
      · exact ih (honce r) hw

end Timeline

/-- A relay goes on with its cycle until the cycle is over or waits for the bus. -/
theorem Runner.Walks.proceed (w : Timeline) (metered : Bool) (switch : Switch) (begun : Nat)
    (st : Stage) (rest : Relaying (Except OutboxError Outcome)) :
    ∃ st', Runner.Walks ⟨metered, switch, .cycling st rest, begun⟩ w
      ⟨metered, switch, .cycling st' (w.proceed metered rest).1.rest, begun⟩
      (w.proceed metered rest).2 := by
  fun_induction Timeline.proceed w metered rest generalizing st with
  | case1 w a => exact ⟨st, .refl _ _⟩
  | case3 w m next hdelay => exact ⟨st, .refl _ _⟩
  | case2 w m next hdelay r w' hreply ih | case4 w q next hq r w' hreply ih =>
      obtain ⟨st', hrest⟩ := ih (st.after _ r)
      have hasked := asked w (n := ⟨metered, switch, .cycling st (.ask _ next), begun⟩) rfl
      simp only [hreply] at hasked
      exact ⟨st', hasked.trans hrest⟩

/-! ## What a relay leaves alone -/

namespace Timeline

/-- It is the same millisecond, and the relays are the same. -/
structure SameMoment (w w' : Timeline) : Prop where
  now : w'.now = w.now
  relays : w'.relays = w.relays

theorem SameMoment.refl (w : Timeline) : w.SameMoment w := ⟨rfl, rfl⟩

theorem SameMoment.trans {w w' w'' : Timeline} (h : w.SameMoment w') (h' : w'.SameMoment w'') :
    w.SameMoment w'' :=
  ⟨h'.now.trans h.now, h'.relays.trans h.relays⟩

theorem sameMoment_reply (w : Timeline) (metered : Bool) (q : RelayCall) :
    w.SameMoment (w.reply metered q).2 := by
  cases q with
  | count o => cases metered <;> exact ⟨rfl, rfl⟩
  | claim | publish | mark | release | note => exact ⟨rfl, rfl⟩

theorem sameMoment_proceed (w : Timeline) (metered : Bool) {α : Type} (rest : Relaying α) :
    w.SameMoment (w.proceed metered rest).2 := by
  fun_induction proceed w metered rest with
  | case1 w a => exact .refl w
  | case3 w m next hdelay => exact .refl w
  | case2 w m next hdelay r w' hreply ih =>
      have hsame := w.sameMoment_reply metered (.publish m)
      rw [hreply] at hsame
      exact hsame.trans ih
  | case4 w q next hq r w' hreply ih =>
      have hsame := w.sameMoment_reply metered q
      rw [hreply] at hsame
      exact hsame.trans ih

theorem sameMoment_afterCycle (w : Timeline) (r : Relay) : w.SameMoment (w.afterCycle r).2 := by
  unfold afterCycle
  dsimp only
  split <;> exact ⟨rfl, rfl⟩

theorem sameMoment_loop (now : Nat) (w : Timeline) (r : Relay) (ticker : Ticker) :
    w.SameMoment (loop now w r ticker).2 := by
  fun_induction loop now w r ticker with
  | case1 w r ticker h => exact .refl w
  | case2 w r ticker h => exact ⟨rfl, rfl⟩
  | case3 w r ticker h ih => exact ih
  | case4 w r ticker h result w₁ hproceed r₂ w₂ hafter ih =>
      have hcycle := w.sameMoment_proceed r.metered cycle
      have hcount := w₁.sameMoment_afterCycle r
      rw [hproceed] at hcycle
      rw [hafter] at hcount
      exact hcycle.trans (hcount.trans ih)
  | case5 w r ticker h m next w₁ hproceed =>
      have hcycle := w.sameMoment_proceed r.metered cycle
      rw [hproceed] at hcycle
      exact hcycle.trans ⟨rfl, rfl⟩

end Timeline

/-! ## Relays in time -/

/-- A relay in time stands where a relay of a fleet stands. -/
inductive Phase.Stands : Phase → Post → Prop
  | fresh (period : Nat) : Stands (.fresh period) (.fresh period)
  | waiting (ticker : Ticker) : Stands (.waiting ticker) .waiting
  /-- It waits for the bus, and will not turn to it again in this cycle. -/
  | publishing (ticker : Ticker) (st : Stage) (m : Message)
      (next : Except OutboxError Unit → Relaying (Except OutboxError Outcome))
      (once : ∀ r, AsksNo RelayCall.isPublish (next r)) :
      Stands (.publishing ticker m next) (.cycling st (.ask (.publish m) next))
  | ended (orderly : Bool) : Stands (.ended orderly) (.ended orderly)

namespace Relay

/-- How many cycles a relay began: those after which it counted a tick, and the one in which it
is. -/
def begun (r : Relay) : Nat :=
  match r.phase with
  | .publishing _ _ _ => r.ticks + 1
  | _ => r.ticks

/-- A relay in time is at the same place as a relay of a fleet. -/
structure Stands (r : Relay) (n : Runner) : Prop where
  metered : n.metered = r.metered
  switch : n.switch = r.switch
  begun : n.begun = r.begun
  post : r.phase.Stands n.post

/-- When it goes on does not matter. -/
theorem Stands.later {r : Relay} {n : Runner} (h : r.Stands n) {wake turn : Nat} :
    Relay.Stands { r with wake, turn } n :=
  ⟨h.metered, h.switch, h.begun, h.post⟩

theorem Stands.hasEnded_eq {r : Relay} {n : Runner} (h : r.Stands n) : n.hasEnded = r.hasEnded := by
  obtain ⟨metered, ticks, switch, phase, wake, turn⟩ := r
  obtain ⟨metered', switch', post, begun⟩ := n
  cases h.post <;> rfl

end Relay

namespace Timeline

/-- A relay that is about to look at its switch, or that waits, goes on until it waits or
ends. -/
theorem loop_stands (now : Nat) (w : Timeline) (r : Relay) (ticker : Ticker) {post : Post}
    (hpost : post = .looking ∨
      post = .waiting ∧ (r.switch.on = true → r.switch.changed = true)) :
    ∃ n', Runner.Walks ⟨r.metered, r.switch, post, r.ticks⟩ w n' (loop now w r ticker).2 ∧
      (loop now w r ticker).1.Stands n' := by
  fun_induction loop now w r ticker generalizing post with
  | case1 w r ticker h =>
      have henter := Runner.Walks.enter (n := ⟨r.metered, r.switch, post, r.ticks⟩) hpost w h
      exact ⟨_, henter, rfl, rfl, rfl, .ended true⟩
  | case2 w r ticker h =>
      have henter := Runner.Walks.enter (n := ⟨r.metered, r.switch, post, r.ticks⟩) hpost w h
      exact ⟨_, henter.trans (.stay _ w _), rfl, rfl, rfl, .waiting ticker⟩
  | case3 w r ticker h ih =>
      have henter := Runner.Walks.enter (n := ⟨r.metered, r.switch, post, r.ticks⟩) hpost w h
      obtain ⟨n', hrest, hstands⟩ := ih (.inl rfl)
      exact ⟨n', henter.trans hrest, hstands⟩
  | case4 w r ticker h result w₁ hproceed r₂ w₂ hafter ih =>
      have henter := Runner.Walks.enter (n := ⟨r.metered, r.switch, post, r.ticks⟩) hpost w h
      obtain ⟨st', hcycle⟩ := Runner.Walks.proceed w r.metered r.switch (r.ticks + 1) .free cycle
      rw [hproceed] at hcycle
      have hover := Runner.Walks.finish (r := r) w₁
        (n := ⟨r.metered, r.switch, .cycling st' (.done result), r.ticks + 1⟩) rfl rfl rfl
      rw [hafter] at hover
      -- the tick is counted, and the loop looks at the switch again
      obtain rfl : { r with ticks := r.ticks + 1 } = r₂ := congrArg Prod.fst hafter
      obtain ⟨n', hrest, hstands⟩ := ih (.inl rfl)
      exact ⟨n', henter.trans (hcycle.trans (hover.trans hrest)), hstands⟩
  | case5 w r ticker h m next w₁ hproceed =>
      have henter := Runner.Walks.enter (n := ⟨r.metered, r.switch, post, r.ticks⟩) hpost w h
      obtain ⟨st', hcycle⟩ := Runner.Walks.proceed w r.metered r.switch (r.ticks + 1) .free cycle
      rw [hproceed] at hcycle
      exact ⟨_, henter.trans (hcycle.trans (.stay _ w₁ _)), rfl, rfl, rfl,
        .publishing _ st' m next (proceed_publishing asksOnce_publish_cycle hproceed).2⟩

/-- When the bus replied, a relay ends its cycle and looks at its switch. -/
theorem resume_publishing (w : Timeline) {r : Relay} {ticker : Ticker} {m : Message}
    {next : Except OutboxError Unit → Relaying (Except OutboxError Outcome)}
    (h : r.phase = .publishing ticker m next) (once : ∀ r, AsksNo RelayCall.isPublish (next r)) :
    ∃ result w₁, (w.reply r.metered (.publish m)).2.proceed r.metered
        (next (w.reply r.metered (.publish m)).1) = (.over result, w₁) ∧
      w.SameMoment w₁ ∧
      w.resume r = loop w.now (w₁.afterCycle r).2 { r with ticks := r.ticks + 1 } ticker := by
  obtain ⟨metered, ticks, switch, phase, wake, turn⟩ := r
  subst h
  obtain ⟨result, w₁, hover⟩ := proceed_over (w.reply metered (.publish m)).2 metered
    (once (w.reply metered (.publish m)).1)
  have hcycle := sameMoment_proceed (w.reply metered (.publish m)).2 metered
    (next (w.reply metered (.publish m)).1)
  rw [hover] at hcycle
  have hsame := (w.sameMoment_reply metered (.publish m)).trans hcycle
  have hnow := (hsame.trans (w₁.sameMoment_afterCycle
    ⟨metered, ticks, switch, .publishing ticker m next, wake, turn⟩)).now
  refine ⟨result, w₁, hover, hsame, ?_⟩
  simp only [resume, hover, hnow]
  rfl

/-- A relay that goes on does what a relay of a fleet can do. -/
theorem resume_stands (w : Timeline) {r : Relay} {n : Runner} (h : r.Stands n)
    (hnoticed : n.post = .waiting → n.switch.on = true → n.switch.changed = true) :
    ∃ n', n.Walks w n' (w.resume r).2 ∧ (w.resume r).1.Stands n' := by
  obtain ⟨metered, ticks, switch, phase, wake, turn⟩ := r
  obtain ⟨metered', switch', post, begun⟩ := n
  obtain ⟨rfl, rfl, hbegun, hpost⟩ := h
  cases hpost with
  | fresh period =>
      obtain rfl : begun = ticks := hbegun
      have hlaunch := Runner.Walks.launch ⟨metered', switch', .fresh period, begun⟩ w
      simp only [Runner.launch] at hlaunch
      unfold resume
      dsimp only
      split
      · next hpos =>
          obtain ⟨n', hrest, hstands⟩ := loop_stands w.now w
            ⟨metered', begun, switch', .fresh period, wake, turn⟩ ⟨period, w.now, hpos⟩ (.inl rfl)
          rw [if_pos hpos] at hlaunch
          exact ⟨n', hlaunch.trans hrest, hstands⟩
      · next hzero =>
          rw [if_neg hzero] at hlaunch
          exact ⟨_, hlaunch, rfl, rfl, rfl, .ended false⟩
  | waiting ticker =>
      obtain rfl : begun = ticks := hbegun
      exact loop_stands w.now w ⟨metered', begun, switch', .waiting ticker, wake, turn⟩ ticker
        (.inr ⟨rfl, hnoticed rfl⟩)
  | publishing ticker st m next once =>
      obtain rfl : begun = ticks + 1 := hbegun
      have hasked := Runner.Walks.asked w
        (n := ⟨metered', switch', .cycling st (.ask (.publish m) next), ticks + 1⟩) rfl
      obtain ⟨st', hcycle⟩ := Runner.Walks.proceed (w.reply metered' (.publish m)).2 metered'
        switch' (ticks + 1) (st.after (.publish m) (w.reply metered' (.publish m)).1)
        (next (w.reply metered' (.publish m)).1)
      obtain ⟨result, w₁, hover, -, hresume⟩ := w.resume_publishing
        (r := ⟨metered', ticks, switch', .publishing ticker m next, wake, turn⟩) rfl once
      rw [hover] at hcycle
      have hlook := Runner.Walks.finish
        (r := ⟨metered', ticks, switch', .publishing ticker m next, wake, turn⟩) w₁
        (n := ⟨metered', switch', .cycling st' (.done result), ticks + 1⟩) rfl rfl rfl
      rw [hresume]
      obtain ⟨n', hrest, hstands⟩ := loop_stands w.now (w₁.afterCycle
        ⟨metered', ticks, switch', .publishing ticker m next, wake, turn⟩).2
        ⟨metered', ticks + 1, switch', .publishing ticker m next, wake, turn⟩ ticker (.inl rfl)
      exact ⟨n', hasked.trans (hcycle.trans (hlook.trans hrest)), hstands⟩
  | ended orderly => exact ⟨_, .refl _ _, rfl, rfl, hbegun, .ended orderly⟩

theorem sameMoment_resume (w : Timeline) (r : Relay) : w.SameMoment (w.resume r).2 := by
  obtain ⟨metered, ticks, switch, phase, wake, turn⟩ := r
  cases phase with
  | ended orderly => exact .refl w
  | fresh period =>
      unfold resume
      dsimp only
      split
      · exact sameMoment_loop ..
      · exact .refl w
  | waiting ticker => exact sameMoment_loop ..
  | publishing ticker m next =>
      have hreply := w.sameMoment_reply metered (.publish m)
      have hcycle := sameMoment_proceed (w.reply metered (.publish m)).2 metered
        (next (w.reply metered (.publish m)).1)
      unfold resume
      dsimp only
      split
      · next result w₁ hover =>
          rw [hover] at hcycle
          exact hreply.trans (hcycle.trans
            ((sameMoment_afterCycle ..).trans (sameMoment_loop ..)))
      · next m' next' w₁ hwait =>
          rw [hwait] at hcycle
          exact hreply.trans (hcycle.trans ⟨rfl, rfl⟩)

end Timeline

/-- What every relay that goes on keeps is kept while time passes. -/
theorem Timeline.runBefore_induction {P : Timeline → Prop}
    (hstep : ∀ w place, P w → P (w.resumeAt place)) {w : Timeline} (h : P w) (limit : Nat)
    (until? : Option Nat) (fuel : Nat) : P (runBefore limit until? fuel w) := by
  induction fuel generalizing w with
  | zero => exact h
  | succ fuel ih =>
      rw [runBefore]
      split
      · exact h
      · split
        · exact h
        · next place _ => exact ih (hstep w place h)

/-! ## Fleets that show a timeline -/

/-- A fleet stands where a timeline stands. -/
structure Fleet.Shows (f : Fleet) (w : Timeline) : Prop where
  store : f.site.store = w.store
  length : f.runners.length = w.relays.length
  stands : ∀ (place : Nat) (r : Relay) (n : Runner),
    w.relays[place]? = some r → f.runners[place]? = some n → r.Stands n

namespace Fleet

/-- By moves of its relays a fleet comes to show a timeline. -/
def Reaches (f : Fleet) (w : Timeline) : Prop :=
  ∃ moves : List Move, (∀ m ∈ moves, m.Inner) ∧ (f.run moves).others = f.others ∧
    (f.run moves).Shows w

namespace Shows

variable {f f' : Fleet} {w w' : Timeline} {place : Nat} {r r' : Relay} {n n' : Runner}

theorem reaches (h : f.Shows w) : f.Reaches w := ⟨[], by simp, rfl, h⟩

theorem exists_runner (h : f.Shows w) (hr : w.relays[place]? = some r) :
    ∃ n, f.runners[place]? = some n ∧ r.Stands n := by
  have hlt : place < f.runners.length := h.length ▸ (List.getElem?_eq_some_iff.1 hr).1
  have hn := List.getElem?_eq_getElem hlt
  exact ⟨_, hn, h.stands place r _ hr hn⟩

theorem exists_relay (h : f.Shows w) (hn : f.runners[place]? = some n) :
    ∃ r, w.relays[place]? = some r ∧ r.Stands n := by
  have hlt : place < w.relays.length := h.length ▸ (List.getElem?_eq_some_iff.1 hn).1
  have hr := List.getElem?_eq_getElem hlt
  exact ⟨_, hr, h.stands place _ n hr hn⟩

/-- The relay at a place becomes another one in both. -/
theorem set (h : f.Shows w) (hstands : r'.Stands n') (hf : f'.runners = f.runners.set place n')
    (hw : w'.relays = w.relays.set place r') (hstore : f'.site.store = w'.store) :
    f'.Shows w' where
  store := hstore
  length := by rw [hf, hw, List.length_set, List.length_set, h.length]
  stands := by
    intro k x y hx hy
    rw [hw, List.getElem?_set] at hx
    rw [hf, List.getElem?_set, h.length] at hy
    split at hx
    · next hk =>
        rw [if_pos hk] at hy
        split at hx
        · next hlt =>
            rw [if_pos hlt] at hy
            cases hx
            cases hy
            exact hstands
        · cases hx
    · next hk =>
        rw [if_neg hk] at hy
        exact h.stands k x y hx hy

theorem resumeAt (h : f.Shows w) (hf : f.Sound) (place : Nat) : f.Reaches (w.resumeAt place) := by
  unfold Timeline.resumeAt
  split
  · exact h.reaches
  · next r hr =>
      obtain ⟨n, hn, hstands⟩ := h.exists_runner hr
      obtain ⟨n', hwalks, hstands'⟩ :=
        ({ w with now := max w.now r.wake } : Timeline).resume_stands hstands
          (hf.regular place n hn).noticed
      obtain ⟨moves, hinner, hrunners, hothers, hstore⟩ := hwalks.goes f place hn h.store
      have hrelays := ({ w with now := max w.now r.wake } : Timeline).sameMoment_resume r |>.relays
      exact ⟨moves, hinner, hothers,
        h.set hstands' hrunners (congrArg (List.set · place _) hrelays) hstore⟩

/-- A timeline does nothing that the fleet cannot do, whoever goes on and for how long. -/
theorem runBefore (h : f.Shows w) (hf : f.Sound) (limit : Nat) (until? : Option Nat)
    (fuel : Nat) : f.Reaches (Timeline.runBefore limit until? fuel w) := by
  refine Timeline.runBefore_induction (P := f.Reaches) ?_ h.reaches limit until? fuel
  rintro w' place ⟨first, hfirst, hothers, hshows⟩
  obtain ⟨second, hsecond, hothers', hshows'⟩ := hshows.resumeAt (hf.run first) place
  refine ⟨first ++ second, ?_, ?_, ?_⟩
  · intro m hm
    exact (List.mem_append.1 hm).elim (hfirst m) (hsecond m)
  · rw [run_append, hothers', hothers]
  · rw [run_append]
    exact hshows'

theorem advance (h : f.Shows w) (hf : f.Sound) (ms : Nat) : f.Reaches (w.advance ms) := by
  obtain ⟨moves, hinner, hothers, hshows⟩ :=
    h.runBefore hf (w.now + ms) none (w.eventBound (w.now + ms))
  exact ⟨moves, hinner, hothers, hshows.store, hshows.length, hshows.stands⟩

theorem spawn (h : f.Shows w) (period : Nat) (metered stopped : Bool) :
    (f.step (.spawn period metered stopped)).Shows (w.spawn period metered stopped) where
  store := h.store
  length := by simp [Fleet.step, Timeline.spawn, h.length]
  stands := by
    intro k x y hx hy
    simp only [Fleet.step, Timeline.spawn] at hx hy
    rcases Nat.lt_or_ge k w.relays.length with hlt | hge
    · rw [List.getElem?_append_left hlt] at hx
      rw [List.getElem?_append_left (h.length ▸ hlt)] at hy
      exact h.stands k x y hx hy
    · rw [List.getElem?_append_right hge, List.getElem?_singleton] at hx
      rw [List.getElem?_append_right (h.length ▸ hge), List.getElem?_singleton, h.length] at hy
      split at hx
      · next hk =>
          rw [if_pos hk] at hy
          cases hx
          cases hy
          exact ⟨rfl, rfl, rfl, .fresh period⟩
      · cases hx

/-- A signal does the same in both: it changes the switch of a relay that did not end. -/
theorem signalAt (h : f.Shows w) (place : Nat) (g : Switch → Switch) :
    (f.change place (·.signal g)).Shows (w.signalAt place g) := by
  unfold Timeline.signalAt
  split
  · next hnone =>
      have hout : f.runners.length ≤ place := h.length ▸ List.getElem?_eq_none_iff.1 hnone
      rw [change, List.modify_eq_self hout]
      exact h
  · next r hr =>
      obtain ⟨n, hn, hstands⟩ := h.exists_runner hr
      have hrunners := runners_change hn (·.signal g)
      split
      · next hended =>
          have hsame : n.signal g = n := by
            rw [Runner.signal, if_pos (hstands.hasEnded_eq.trans hended)]
          obtain ⟨hlt, rfl⟩ := List.getElem?_eq_some_iff.1 hn
          rw [hsame, List.set_getElem_self hlt] at hrunners
          exact ⟨h.store, hrunners ▸ h.length, hrunners ▸ h.stands⟩
      · next hruns =>
          have hnew : n.signal g = { n with switch := g n.switch } := by
            rw [Runner.signal, if_neg (by rw [hstands.hasEnded_eq]; exact hruns)]
          have hsignalled : Relay.Stands { r with switch := g r.switch } (n.signal g) := by
            rw [hnew]
            exact ⟨hstands.metered, congrArg g hstands.switch, hstands.begun, hstands.post⟩
          dsimp only
          split
          · next ticker hphase =>
              rw [Timeline.await, ← hphase]
              exact h.set hsignalled.later hrunners rfl h.store
          · exact h.set hsignalled hrunners rfl h.store

end Shows

end Fleet

end Accounts.Outbox
