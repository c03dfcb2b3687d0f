import Accounts.Proofs.Outbox.Deeds
/-!
# Relays with their switches

A fleet is any number of relays on one outbox, each with its switch and its place in the loop.
Time is left out: whether a tick is due when a relay waits is up to the move, and so is which
of a tick and a signal is taken when both are there.  So a fleet does whatever the loop can do
at any pace, with any delay of the bus and at any instant of a signal, and in between others
work on the outbox too.

The deeds of the relays are written down, each with the place of its relay: the *story* of a
relay is what it asked so far.

`Runner.Steps` says once what a move makes of a relay and what it adds to its story.
-/

namespace Accounts.Outbox

/-! ## Relays -/

/-- Where the loop of a relay stands. -/
inductive Post
  /-- It did not run yet. -/
  | fresh (period : Nat)
  /-- It is about to look at its switch. -/
  | looking
  /-- It waits for a tick or a signal. -/
  | waiting
  /-- It is in a cycle. -/
  | cycling (stage : Stage) (rest : Relaying (Except OutboxError Outcome))
  /-- It ended, in good order or because it cannot tick. -/
  | ended (orderly : Bool)

/-- What a relay did with its claim. -/
def Post.stage : Post → Stage
  | cycling st _ => st
  | _ => .free

/-- A relay that was started. -/
structure Runner where
  /-- It counts what it does. -/
  metered : Bool
  /-- Its switch. -/
  switch : Switch
  /-- Where its loop stands. -/
  post : Post
  /-- How many cycles it began. -/
  begun : Nat

namespace Runner

def hasEnded (n : Runner) : Bool :=
  match n.post with
  | .ended _ => true
  | _ => false

/-- A value is sent, or nobody can send one any more; a relay that ended does not see it. -/
def signal (n : Runner) (f : Switch → Switch) : Runner :=
  if n.hasEnded then n else { n with switch := f n.switch }

/-- Runs for the first time.  A relay whose ticks have no time between them fails. -/
def launch (n : Runner) : Runner :=
  match n.post with
  | .fresh period => { n with post := if 0 < period then .looking else .ended false }
  | _ => n

/-- Looks at its switch. -/
def look (n : Runner) : Runner :=
  match n.post with
  | .looking => { n with post := if n.switch.on then .ended true else .waiting }
  | _ => n

/-- Does what is decided. -/
def follow (n : Runner) : Decision → Runner
  | .stop => { n with post := .ended true }
  | .lookAgain => { n with post := .looking, switch := n.switch.note }
  | .cycle => { n with post := .cycling .free cycle, begun := n.begun + 1 }
  | .wait => { n with post := .waiting }

/-- Decides when there is a tick or a signal. -/
def poll (n : Runner) (ticked : Bool) (p : Preference) : Runner :=
  match n.post with
  | .waiting => n.follow (n.switch.select ticked p)
  | _ => n

end Runner

/-! ## Fleets -/

/-- Relays with their outbox and their bus, and others who work on the outbox. -/
structure Fleet where
  /-- The outbox, the bus, the figures and the clock. -/
  site : Timeline
  /-- The live claims of others. -/
  others : List Claim
  /-- The relays that were started. -/
  runners : List Runner
  /-- What the relays asked so far. -/
  deeds : List Deed

namespace Fleet

/-- What happens next. -/
inductive Move
  /-- A relay is started. -/
  | spawn (period : Nat) (metered stopped : Bool)
  /-- A value is sent to the relay at a place. -/
  | send (place : Nat) (value : Bool)
  /-- The last who could send it a value is gone. -/
  | close (place : Nat)
  /-- It runs for the first time. -/
  | launch (place : Nat)
  /-- It looks at its switch. -/
  | look (place : Nat)
  /-- It does what it decides while it waits. -/
  | poll (place : Nat) (ticked : Bool) (preference : Preference)
  /-- It goes on with its cycle. -/
  | turn (place : Nat)
  /-- Others work on the outbox. -/
  | client (move : Clients.Move)
  /-- Anything but the outbox becomes different: the bus, the clock, the figures. -/
  | elsewhere (site : Timeline)

/-- Nobody is there. -/
def start (clock : Instant) : Fleet := ⟨.start clock 0, [], [], []⟩

def change (f : Fleet) (place : Nat) (g : Runner → Runner) : Fleet :=
  { f with runners := f.runners.modify place g }

/-- The relay at a place asks the next question of its cycle, or its cycle is over. -/
def turn (f : Fleet) (place : Nat) : Fleet :=
  match f.runners[place]? with
  | some ⟨metered, switch, .cycling st (.ask q next), begun⟩ =>
    let d : Deed := ⟨place, metered, f.site, q⟩
    { f with
      site := d.after
      runners := f.runners.set place
        ⟨metered, switch, .cycling (st.after q d.reply) (next d.reply), begun⟩
      deeds := f.deeds ++ [d] }
  | some ⟨metered, switch, .cycling _ (.done _), begun⟩ =>
    { f with runners := f.runners.set place ⟨metered, switch, .looking, begun⟩ }
  | _ => f

/-- Others work on the outbox. -/
def client (f : Fleet) (m : Clients.Move) : Fleet :=
  let c := (⟨f.site.store, f.others⟩ : Clients).step m
  { f with site := { f.site with store := c.store }, others := c.claims }

def step (f : Fleet) : Move → Fleet
  | .spawn period metered stopped =>
    { f with runners := f.runners ++ [⟨metered, .initial stopped, .fresh period, 0⟩] }
  | .send place value => f.change place (·.signal (·.send value))
  | .close place => f.change place (·.signal Switch.close)
  | .launch place => f.change place Runner.launch
  | .look place => f.change place Runner.look
  | .poll place ticked p => f.change place (·.poll ticked p)
  | .turn place => f.turn place
  | .client m => f.client m
  | .elsewhere site => { f with site := { site with store := f.site.store } }

def run (f : Fleet) (moves : List Move) : Fleet := moves.foldl step f

theorem run_append (f : Fleet) (first second : List Move) :
    f.run (first ++ second) = (f.run first).run second := List.foldl_append

/-- What the relay at a place asked. -/
def story (f : Fleet) (place : Nat) : List Deed := f.deeds.filter (·.runner == place)

end Fleet

/-! ## What a move makes of a relay -/

/-- What a move makes of the relay at a place, and the deeds that it adds. -/
inductive Runner.Steps (place : Nat) (site : Timeline) (n : Runner) :
    Fleet.Move → List Deed → Runner → Prop
  /-- It stays as it is. -/
  | idle (m : Fleet.Move) : Steps place site n m [] n
  /-- It is sent a value. -/
  | sent (value : Bool) (runs : n.hasEnded = false) :
      Steps place site n (.send place value) [] { n with switch := n.switch.send value }
  /-- Nobody can send it a value any more. -/
  | closed (runs : n.hasEnded = false) :
      Steps place site n (.close place) [] { n with switch := n.switch.close }
  /-- It runs. -/
  | launched {period : Nat} (post : n.post = .fresh period) (pos : 0 < period) :
      Steps place site n (.launch place) [] { n with post := .looking }
  /-- It cannot tick. -/
  | failed (post : n.post = .fresh 0) :
      Steps place site n (.launch place) [] { n with post := .ended false }
  /-- It sees that it is told to stop. -/
  | told (post : n.post = .looking) (on : n.switch.on = true) :
      Steps place site n (.look place) [] { n with post := .ended true }
  /-- It sees nothing, and waits. -/
  | settled (post : n.post = .looking) (off : n.switch.on = false) :
      Steps place site n (.look place) [] { n with post := .waiting }
  /-- It ends. -/
  | stopped {ticked : Bool} {p : Preference} (post : n.post = .waiting)
      (decision : n.switch.select ticked p = .stop) :
      Steps place site n (.poll place ticked p) [] { n with post := .ended true }
  /-- It takes note of a value and looks again. -/
  | noted {ticked : Bool} {p : Preference} (post : n.post = .waiting)
      (decision : n.switch.select ticked p = .lookAgain) :
      Steps place site n (.poll place ticked p) []
        { n with post := .looking, switch := n.switch.note }
  /-- It begins a cycle. -/
  | began {ticked : Bool} {p : Preference} (post : n.post = .waiting)
      (decision : n.switch.select ticked p = .cycle) :
      Steps place site n (.poll place ticked p) []
        { n with post := .cycling .free cycle, begun := n.begun + 1 }
  /-- It asks a question. -/
  | asked {st : Stage} {q : RelayCall} {next : q.Reply → Relaying (Except OutboxError Outcome)}
      (post : n.post = .cycling st (.ask q next)) :
      Steps place site n (.turn place) [⟨place, n.metered, site, q⟩]
        { n with
          post := .cycling (st.after q (site.reply n.metered q).1)
            (next (site.reply n.metered q).1) }
  /-- Its cycle is over. -/
  | finished {st : Stage} {result : Except OutboxError Outcome}
      (post : n.post = .cycling st (.done result)) :
      Steps place site n (.turn place) [] { n with post := .looking }

namespace Runner.Steps

variable (place : Nat) (site : Timeline) (n : Runner)

theorem signal_send (value : Bool) :
    n.Steps place site (.send place value) [] (n.signal (·.send value)) := by
  unfold signal
  cases h : n.hasEnded with
  | true => exact .idle _
  | false => exact .sent value h

theorem signal_close : n.Steps place site (.close place) [] (n.signal Switch.close) := by
  unfold signal
  cases h : n.hasEnded with
  | true => exact .idle _
  | false => exact .closed h

theorem launch : n.Steps place site (.launch place) [] n.launch := by
  unfold Runner.launch
  split
  · next period h =>
      split
      · next hpos => exact .launched h hpos
      · next hzero =>
          obtain rfl : period = 0 := by omega
          exact .failed h
  · exact .idle _

theorem look : n.Steps place site (.look place) [] n.look := by
  unfold Runner.look
  split
  · next h =>
      split
      · next hon => exact .told h hon
      · next hoff => exact .settled h (eq_false_of_ne_true hoff)
  · exact .idle _

theorem poll (ticked : Bool) (p : Preference) :
    n.Steps place site (.poll place ticked p) [] (n.poll ticked p) := by
  unfold Runner.poll
  split
  · next h =>
      cases hd : n.switch.select ticked p with
      | stop => exact .stopped h hd
      | lookAgain => exact .noted h hd
      | cycle => exact .began h hd
      | wait =>
          rw [follow, ← h]
          exact .idle _
  · exact .idle _

end Runner.Steps

namespace Fleet

variable {f : Fleet} {place : Nat} {n n' : Runner} {m : Move}

theorem story_concat (f : Fleet) (d : Deed) (place : Nat) :
    (f.deeds ++ [d]).filter (·.runner == place) =
      f.story place ++ if d.runner = place then [d] else [] := by
  rw [List.filter_append, story]
  by_cases h : d.runner = place <;> simp [h]

/-- A relay after a change is one that was changed, or one at another place. -/
theorem runner_change {g : Runner → Runner} {at' : Nat}
    (h : (f.change at' g).runners[place]? = some n') :
    ∃ n : Runner, f.runners[place]? = some n ∧ n' = if at' = place then g n else n := by
  rw [change, List.getElem?_modify] at h
  obtain ⟨n, hn, hn'⟩ := Option.map_eq_some_iff.1 h
  exact ⟨n, hn, hn'.symm⟩

/-- A relay after a turn took a step, or stays as it is while another one asks. -/
theorem runner_turn {at' : Nat} (h : (f.turn at').runners[place]? = some n') :
    ∃ (n : Runner) (new : List Deed), f.runners[place]? = some n ∧
      (f.turn at').story place = f.story place ++ new ∧
      n.Steps place f.site (.turn at') new n' := by
  unfold turn at h ⊢
  split at h
  · next metered switch st q next begun hk =>
      simp only [story, story_concat]
      by_cases hp : at' = place
      · subst hp
        rw [List.getElem?_set_self (List.getElem?_eq_some_iff.1 hk).1] at h
        cases h
        refine ⟨_, _, hk, rfl, ?_⟩
        rw [if_pos rfl]
        exact .asked (n := ⟨metered, switch, .cycling st (.ask q next), begun⟩) rfl
      · rw [List.getElem?_set_ne hp] at h
        rw [if_neg hp]
        exact ⟨n', [], h, rfl, .idle _⟩
  · next metered switch st result begun hk =>
      by_cases hp : at' = place
      · subst hp
        rw [List.getElem?_set_self (List.getElem?_eq_some_iff.1 hk).1] at h
        cases h
        refine ⟨_, [], hk, (List.append_nil _).symm, ?_⟩
        exact .finished (n := ⟨metered, switch, .cycling st (.done result), begun⟩) rfl
      · rw [List.getElem?_set_ne hp] at h
        exact ⟨n', [], h, (List.append_nil _).symm, .idle _⟩
  · exact ⟨n', [], h, (List.append_nil _).symm, .idle _⟩

/-- A relay after a move is a new one, or one that took a step. -/
theorem runner_step (h : (f.step m).runners[place]? = some n') :
    (∃ period metered stopped, m = .spawn period metered stopped ∧ place = f.runners.length ∧
      n' = ⟨metered, .initial stopped, .fresh period, 0⟩) ∨
    ∃ (n : Runner) (new : List Deed), f.runners[place]? = some n ∧
      (f.step m).story place = f.story place ++ new ∧ n.Steps place f.site m new n' := by
  have hidle : f.runners[place]? = some n' → (f.step m).deeds = f.deeds →
      ∃ (n : Runner) (new : List Deed), f.runners[place]? = some n ∧
        (f.step m).story place = f.story place ++ new ∧ n.Steps place f.site m new n' := by
    intro hn hdeeds
    exact ⟨n', [], hn, by rw [story, hdeeds, List.append_nil, story], .idle m⟩
  have hchange : ∀ {g : Runner → Runner} {at' : Nat}, f.step m = f.change at' g →
      (at' = place → ∀ n : Runner, n.Steps place f.site m [] (g n)) →
      ∃ (n : Runner) (new : List Deed), f.runners[place]? = some n ∧
        (f.step m).story place = f.story place ++ new ∧ n.Steps place f.site m new n' := by
    intro g at' hstep hg
    rw [hstep] at h
    obtain ⟨n, hn, rfl⟩ := runner_change h
    refine ⟨n, [], hn, by rw [hstep, List.append_nil]; rfl, ?_⟩
    split
    · next hp => exact hg hp n
    · exact .idle m
  cases m with
  | spawn period metered stopped =>
      rcases Nat.lt_or_ge place f.runners.length with hlt | hle
      · exact .inr (hidle ((List.getElem?_append_left hlt).symm.trans h) rfl)
      · have hnew := (List.getElem?_append_right hle).symm.trans h
        rw [List.getElem?_singleton] at hnew
        split at hnew
        · next hz =>
            cases hnew
            exact .inl ⟨period, metered, stopped, rfl, by omega, rfl⟩
        · cases hnew
  | send at' value => exact .inr (hchange rfl (by rintro rfl n; exact .signal_send _ _ n value))
  | close at' => exact .inr (hchange rfl (by rintro rfl n; exact .signal_close _ _ n))
  | launch at' => exact .inr (hchange rfl (by rintro rfl n; exact .launch _ _ n))
  | look at' => exact .inr (hchange rfl (by rintro rfl n; exact .look _ _ n))
  | poll at' ticked p => exact .inr (hchange rfl (by rintro rfl n; exact .poll _ _ n ticked p))
  | turn at' => exact .inr (runner_turn h)
  | client m => exact .inr (hidle h rfl)
  | elsewhere site => exact .inr (hidle h rfl)

/-- No relay is forgotten. -/
theorem length_step (f : Fleet) (m : Move) : f.runners.length ≤ (f.step m).runners.length := by
  cases m with
  | spawn period metered stopped => simp [step]
  | send | close | launch | look | poll => simp [step, change]
  | turn at' =>
      simp only [step, turn]
      split <;> simp
  | client m => exact Nat.le_refl _
  | elsewhere site => exact Nat.le_refl _

end Fleet

end Accounts.Outbox
