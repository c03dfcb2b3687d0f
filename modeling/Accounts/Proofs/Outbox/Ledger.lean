import Accounts.Proofs.Outbox.Books
import Mathlib.Algebra.Order.Ring.Nat
/-!
# Relays with their figures

A ledger is a fleet with what its relays do about the figures.  Every relay counts its ticks, one
after each cycle, whatever the cycle returned.  After every so many of them a relay that counts
looks the backlog up and notes the two gauges, one after the other, and it looks at its switch only
then; in between others may move.  Nothing else touches the figures than the counts of cycles and
these notes.

The deeds of a relay are kept by cycle: those of the cycle that it is in, and those of every cycle
that is over, with what it returned.  `Ledger.Steps` says once what a move makes of a ledger, and
`Ledger.Sound` is what every move keeps: each book is kept, and the counters count the deeds that
count.
-/

namespace Accounts.Outbox

/-! ## Ledgers -/

/-- Where a relay is with the gauges. -/
inductive Refresh
  /-- It is not about to note them. -/
  | idle
  /-- It is about to look the backlog up. -/
  | due
  /-- It looked the backlog up in these surroundings. -/
  | seen (w : Timeline)
  /-- It noted how many envelopes waited in them, and not yet for how long. -/
  | half (w : Timeline)

/-- What a relay keeps for the figures. -/
structure Desk where
  /-- How many ticks it counted. -/
  ticks : Nat
  /-- What it asked in the cycle that it is in. -/
  asked : List Deed
  /-- Where it is with the gauges. -/
  refresh : Refresh

/-- A cycle that is over. -/
structure Return where
  /-- The place of its relay. -/
  runner : Nat
  /-- Its relay counts what it does. -/
  metered : Bool
  /-- What was asked in it. -/
  asked : List Deed
  /-- What it returned. -/
  result : Except OutboxError Outcome

/-- Relays with their figures. -/
structure Ledger where
  /-- The relays with their outbox, their bus and the figures. -/
  fleet : Fleet
  /-- What each relay keeps for the figures. -/
  desks : List Desk
  /-- The cycles that are over. -/
  returns : List Return

namespace Ledger

/-- Nobody is there. -/
def start (clock : Instant) : Ledger := ⟨.start clock, [], []⟩

def figures (b : Ledger) : Metrics := b.fleet.site.metrics

/-- The figures become different ones. -/
def write (b : Ledger) (m : Metrics) : Ledger :=
  { b with fleet := b.fleet.step (.elsewhere { b.fleet.site with metrics := m }) }

/-- The backlog of some surroundings. -/
def backlogOf (w : Timeline) : Backlog := w.store.backlog w.clock

/-- A relay takes the next step of its cycle, or of what follows on it. -/
def turn (b : Ledger) (place : Nat) : Ledger :=
  match b.fleet.runners[place]?, b.desks[place]? with
  | some n, some d =>
    match d.refresh with
    | .idle =>
      match n.post with
      | .cycling _ (.ask q _) =>
        { b with
          fleet := b.fleet.turn place
          desks := b.desks.set place
            { d with asked := d.asked ++ [⟨place, n.metered, b.fleet.site, q⟩] } }
      | .cycling _ (.done result) =>
        { fleet := b.fleet.turn place
          desks := b.desks.set place
            ⟨d.ticks + 1, [], if (d.ticks + 1) % backlogTicks = 0 ∧ n.metered then .due else .idle⟩
          returns := b.returns ++ [⟨place, n.metered, d.asked, result⟩] }
      | _ => b
    | .due => { b with desks := b.desks.set place { d with refresh := .seen b.fleet.site } }
    | .seen w =>
      { b.write { b.figures with pending := (backlogOf w).pending } with
        desks := b.desks.set place { d with refresh := .half w } }
    | .half w =>
      { b.write { b.figures with oldestAge := (backlogOf w).oldestAge } with
        desks := b.desks.set place { d with refresh := .idle } }
  | _, _ => b

/-- A relay looks at its switch, unless it is about to note the gauges. -/
def look (b : Ledger) (place : Nat) : Ledger :=
  match b.desks[place]? with
  | some ⟨_, _, .idle⟩ => { b with fleet := b.fleet.step (.look place) }
  | _ => b

def step (b : Ledger) : Fleet.Move → Ledger
  | .spawn period metered stopped =>
    { b with
      fleet := b.fleet.step (.spawn period metered stopped)
      desks := b.desks ++ [⟨0, [], .idle⟩] }
  | .look place => b.look place
  | .turn place => b.turn place
  | .elsewhere site =>
    { b with fleet := b.fleet.step (.elsewhere { site with metrics := b.figures }) }
  | m => { b with fleet := b.fleet.step m }

def run (b : Ledger) (moves : List Fleet.Move) : Ledger := moves.foldl step b

theorem run_append (b : Ledger) (first second : List Fleet.Move) :
    b.run (first ++ second) = (b.run first).run second := List.foldl_append

theorem run_concat (b : Ledger) (moves : List Fleet.Move) (m : Fleet.Move) :
    b.run (moves ++ [m]) = (b.run moves).step m := by
  rw [run_append]
  rfl

end Ledger

/-! ## What a move makes of a ledger -/

namespace Fleet

variable {f : Fleet} {place : Nat} {n : Runner} {st : Stage}

theorem turn_asked {q : RelayCall} {next : q.Reply → Relaying (Except OutboxError Outcome)}
    (hn : f.runners[place]? = some n) (hpost : n.post = .cycling st (.ask q next)) :
    f.turn place = { f with
      site := (f.site.reply n.metered q).2
      runners := f.runners.set place
        { n with
          post := .cycling (st.after q (f.site.reply n.metered q).1)
            (next (f.site.reply n.metered q).1) }
      deeds := f.deeds ++ [⟨place, n.metered, f.site, q⟩] } := by
  obtain ⟨metered, switch, post, begun⟩ := n
  subst hpost
  rw [turn, hn]
  rfl

theorem turn_finished {result : Except OutboxError Outcome} (hn : f.runners[place]? = some n)
    (hpost : n.post = .cycling st (.done result)) :
    f.turn place = { f with runners := f.runners.set place { n with post := .looking } } := by
  obtain ⟨metered, switch, post, begun⟩ := n
  subst hpost
  rw [turn, hn]

end Fleet

namespace Ledger

/-- It leaves the figures to others, and the ticks. -/
def Plain : Fleet.Move → Prop
  | .spawn _ _ _ | .turn _ | .elsewhere _ => False
  | _ => True

/-- What a move makes of a ledger. -/
inductive Steps (b : Ledger) : Fleet.Move → Ledger → Prop
  /-- Nothing. -/
  | idle (m : Fleet.Move) : Steps b m b
  /-- A relay is started. -/
  | spawned (period : Nat) (metered stopped : Bool) : Steps b (.spawn period metered stopped)
      { b with
        fleet := b.fleet.step (.spawn period metered stopped)
        desks := b.desks ++ [⟨0, [], .idle⟩] }
  /-- A relay moves outside of its cycles, or others do. -/
  | moved {m : Fleet.Move} (plain : Plain m) (free : ∀ place, m = .look place →
      ∃ d, b.desks[place]? = some d ∧ d.refresh = .idle) :
      Steps b m { b with fleet := b.fleet.step m }
  /-- The bus or the clock become different. -/
  | apart (site : Timeline) : Steps b (.elsewhere site)
      { b with fleet := b.fleet.step (.elsewhere { site with metrics := b.figures }) }
  /-- A relay asks a question. -/
  | asked {place : Nat} {n : Runner} {d : Desk} {st : Stage} {q : RelayCall}
      {next : q.Reply → Relaying (Except OutboxError Outcome)}
      (runner : b.fleet.runners[place]? = some n) (desk : b.desks[place]? = some d)
      (free : d.refresh = .idle) (post : n.post = .cycling st (.ask q next)) :
      Steps b (.turn place)
        { b with
          fleet := b.fleet.turn place
          desks := b.desks.set place
            { d with asked := d.asked ++ [⟨place, n.metered, b.fleet.site, q⟩] } }
  /-- A cycle is over, and its relay counts a tick. -/
  | returned {place : Nat} {n : Runner} {d : Desk} {st : Stage}
      {result : Except OutboxError Outcome} (runner : b.fleet.runners[place]? = some n)
      (desk : b.desks[place]? = some d) (free : d.refresh = .idle)
      (post : n.post = .cycling st (.done result)) :
      Steps b (.turn place)
        { fleet := b.fleet.turn place
          desks := b.desks.set place
            ⟨d.ticks + 1, [], if (d.ticks + 1) % backlogTicks = 0 ∧ n.metered then .due else .idle⟩
          returns := b.returns ++ [⟨place, n.metered, d.asked, result⟩] }
  /-- A relay looks the backlog up. -/
  | looked {place : Nat} {n : Runner} {d : Desk} (runner : b.fleet.runners[place]? = some n)
      (desk : b.desks[place]? = some d) (due : d.refresh = .due) :
      Steps b (.turn place)
        { b with desks := b.desks.set place { d with refresh := .seen b.fleet.site } }
  /-- It notes how many envelopes waited. -/
  | notedPending {place : Nat} {n : Runner} {d : Desk} {w : Timeline}
      (runner : b.fleet.runners[place]? = some n) (desk : b.desks[place]? = some d)
      (seen : d.refresh = .seen w) :
      Steps b (.turn place)
        { b.write { b.figures with pending := (backlogOf w).pending } with
          desks := b.desks.set place { d with refresh := .half w } }
  /-- It notes for how long the oldest of them had waited. -/
  | notedAge {place : Nat} {n : Runner} {d : Desk} {w : Timeline}
      (runner : b.fleet.runners[place]? = some n) (desk : b.desks[place]? = some d)
      (half : d.refresh = .half w) :
      Steps b (.turn place)
        { b.write { b.figures with oldestAge := (backlogOf w).oldestAge } with
          desks := b.desks.set place { d with refresh := .idle } }

theorem steps_turn (b : Ledger) (place : Nat) : b.Steps (.turn place) (b.turn place) := by
  unfold turn
  split
  · next n d hn hd =>
      split
      · next hfree =>
          split
          · next hpost => exact .asked hn hd hfree hpost
          · next hpost => exact .returned hn hd hfree hpost
          · exact .idle _
      · next hdue => exact .looked hn hd hdue
      · next hseen => exact .notedPending hn hd hseen
      · next hhalf => exact .notedAge hn hd hhalf
  · exact .idle _

theorem steps_look (b : Ledger) (place : Nat) : b.Steps (.look place) (b.look place) := by
  unfold look
  split
  · next ticks asked hd =>
      refine .moved trivial ?_
      rintro _ ⟨⟩
      exact ⟨_, hd, rfl⟩
  · exact .idle _

theorem steps_step (b : Ledger) (m : Fleet.Move) : b.Steps m (b.step m) := by
  cases m with
  | spawn period metered stopped => exact .spawned period metered stopped
  | send | close | launch | poll | client => exact .moved trivial nofun
  | look place => exact b.steps_look place
  | turn place => exact b.steps_turn place
  | elsewhere site => exact .apart site

end Ledger

/-! ## One relay and its desk -/

instance : DecidablePred Post.InCycle := fun p =>
  match p with
  | .cycling _ _ => isTrue trivial
  | .fresh _ | .looking | .waiting | .ended _ => isFalse id

namespace Desk

/-- How far the cycle of its relay came with its count. -/
def book (d : Desk) : Book := d.asked.foldl (fun b x => b.after x.query x.reply) .blank

/-- A relay and its desk fit together. -/
structure Keeps (d : Desk) (n : Runner) : Prop where
  /-- Nothing is asked outside of a cycle. -/
  free : ¬ n.post.InCycle → d.asked = []
  /-- What it still has to do in its cycle keeps the book. -/
  follows : ∀ st rest, n.post = .cycling st rest → d.book.Follows rest
  /-- The transitions of rows that it makes in its cycle are those in the book. -/
  turns : ∀ delivered, (d.asked.map (Deed.turns delivered)).sum =
    if n.metered then d.book.marks delivered else 0
  /-- So is what it counts. -/
  counts : ∀ delivered, (d.asked.map (Deed.counts delivered)).sum =
    if n.metered then d.book.counts delivered else 0
  /-- It counts a tick for every cycle that is over. -/
  ticks : n.begun = d.ticks + if n.post.InCycle then 1 else 0
  /-- It notes the gauges if it counts, after so many ticks, and before it goes on. -/
  refresh : d.refresh ≠ .idle →
    n.metered = true ∧ n.post = .looking ∧ 0 < d.ticks ∧ backlogTicks ∣ d.ticks

namespace Keeps

variable {d : Desk} {n n' : Runner} {place : Nat} {site : Timeline} {m : Fleet.Move}
  {new : List Deed} {st : Stage}

theorem initial (metered : Bool) (switch : Switch) (period : Nat) :
    Keeps ⟨0, [], .idle⟩ ⟨metered, switch, .fresh period, 0⟩ where
  free := fun _ => rfl
  follows := nofun
  turns := fun _ => (ite_self 0).symm
  counts := fun _ => (ite_self 0).symm
  ticks := rfl
  refresh := fun h => absurd rfl h

theorem idle_of_post (h : d.Keeps n) (hpost : n.post ≠ .looking) : d.refresh = .idle := by
  by_contra hopen
  exact hpost (h.refresh hopen).2.1

/-- A relay that is not about to note the gauges goes on outside of its cycles. -/
theorem outside (h : d.Keeps n) (hidle : d.refresh = .idle) (hout : ¬ n.post.InCycle) {p : Post}
    (hp : ¬ p.InCycle) (s : Switch) : d.Keeps { n with post := p, switch := s } where
  free := fun _ => h.free hout
  follows := by
    rintro st rest rfl
    exact absurd trivial hp
  turns := h.turns
  counts := h.counts
  ticks := by
    have hticks := h.ticks
    rw [if_neg hout] at hticks
    rw [if_neg hp]
    exact hticks
  refresh := fun hopen => absurd hidle hopen

/-- A cycle begins with a blank book. -/
theorem began (h : d.Keeps n) (hidle : d.refresh = .idle) (hout : ¬ n.post.InCycle) :
    d.Keeps { n with post := .cycling .free cycle, begun := n.begun + 1 } where
  free := fun hcycle => absurd trivial hcycle
  follows := by
    rintro st rest ⟨⟩
    rw [book, h.free hout]
    exact Book.follows_cycle
  turns := h.turns
  counts := h.counts
  ticks := by
    have hticks := h.ticks
    rw [if_neg hout] at hticks
    rw [hticks]
    rfl
  refresh := fun hopen => absurd hidle hopen

theorem moved (h : d.Keeps n) (s : n.Steps place site m new n') (plain : Ledger.Plain m)
    (free : m = .look place → d.refresh = .idle) : d.Keeps n' := by
  cases s with
  | idle => exact h
  | sent | closed => exact ⟨h.free, h.follows, h.turns, h.counts, h.ticks, h.refresh⟩
  | launched post | failed post | stopped post | noted post =>
      exact h.outside (h.idle_of_post (post ▸ nofun)) (post ▸ id) id _
  | told post | settled post => exact h.outside (free rfl) (post ▸ id) id _
  | began post => exact h.began (h.idle_of_post (post ▸ nofun)) (post ▸ id)
  | asked | finished => exact plain.elim

/-- A question goes into the book. -/
theorem asked (h : d.Keeps n) (place : Nat) {q : RelayCall}
    {next : q.Reply → Relaying (Except OutboxError Outcome)}
    (post : n.post = .cycling st (.ask q next)) (hturned : ∀ delivered,
      Store.turned delivered site.store (site.reply n.metered q).2.store =
        q.marks delivered (site.reply n.metered q).1) :
    Keeps { d with asked := d.asked ++ [⟨place, n.metered, site, q⟩] }
      { n with
        post := .cycling (st.after q (site.reply n.metered q).1)
          (next (site.reply n.metered q).1) } := by
  obtain ⟨hallows, hnext⟩ := h.follows _ _ post
  have hbook : book { d with asked := d.asked ++ [⟨place, n.metered, site, q⟩] } =
      d.book.after q (site.reply n.metered q).1 := List.foldl_append
  have hadds := Book.after_adds hallows (site.reply n.metered q).1
  have hidle := h.idle_of_post (post ▸ nofun)
  have hticks := h.ticks
  rw [if_pos (post ▸ trivial)] at hticks
  refine ⟨fun hcycle => absurd trivial hcycle, ?_, fun delivered => ?_, fun delivered => ?_, hticks,
    fun hopen => absurd hidle hopen⟩
  · rintro _ _ ⟨⟩
    rw [hbook]
    exact hnext _
  · rw [hbook, (hadds delivered).1, List.map_append, List.sum_append, h.turns delivered]
    simp only [List.map_singleton, List.sum_singleton, Deed.turns, Deed.after, hturned delivered]
    split <;> rfl
  · rw [hbook, (hadds delivered).2, List.map_append, List.sum_append, h.counts delivered]
    simp only [List.map_singleton, List.sum_singleton, Deed.counts]
    split <;> rfl

/-- A cycle that is over leaves a blank book, and a tick that may call for the gauges. -/
theorem returned (h : d.Keeps n) {result : Except OutboxError Outcome}
    (post : n.post = .cycling st (.done result)) :
    Keeps ⟨d.ticks + 1, [], if (d.ticks + 1) % backlogTicks = 0 ∧ n.metered then .due else .idle⟩
      { n with post := .looking } where
  free := fun _ => rfl
  follows := nofun
  turns := fun _ => (ite_self 0).symm
  counts := fun _ => (ite_self 0).symm
  ticks := by
    have hticks := h.ticks
    rwa [if_pos (post ▸ trivial)] at hticks
  refresh := by
    dsimp only
    split
    · next hdue => exact fun _ => ⟨hdue.2, rfl, Nat.succ_pos _, Nat.dvd_of_mod_eq_zero hdue.1⟩
    · exact fun hopen => absurd rfl hopen

/-- A relay that notes the gauges does nothing else. -/
theorem refreshed (h : d.Keeps n) (hopen : d.refresh ≠ .idle) (r : Refresh) :
    Keeps { d with refresh := r } n :=
  ⟨h.free, h.follows, h.turns, h.counts, h.ticks, fun _ => h.refresh hopen⟩

end Keeps

end Desk

/-! ## What every move keeps -/

/-- How often a cycle of a relay that counts returned a delivery, or a failure. -/
def Return.counts (delivered : Bool) (r : Return) : Nat :=
  if r.metered then Outcome.countsOf delivered r.result else 0

theorem Timeline.counter_reply (w : Timeline) (metered : Bool) (q : RelayCall) (delivered : Bool) :
    (w.reply metered q).2.metrics.counter delivered =
      w.metrics.counter delivered + if metered then q.counts delivered else 0 := by
  cases q with
  | count o =>
      cases metered with
      | true => exact w.metrics.counter_count o delivered
      | false => rfl
  | claim | publish | mark | release | note => cases metered <;> rfl

/-- What a plain move of a fleet leaves alone. -/
theorem Fleet.step_plain (f : Fleet) {m : Move} (plain : Ledger.Plain m) :
    (f.step m).deeds = f.deeds ∧ (f.step m).site.metrics = f.site.metrics ∧
      (f.step m).runners.length = f.runners.length := by
  cases m with
  | spawn | turn | elsewhere => exact plain.elim
  | send | close | launch | look | poll => exact ⟨rfl, rfl, List.length_modify ..⟩
  | client => exact ⟨rfl, rfl, rfl⟩

namespace Ledger

/-- Relays, desks and figures fit together. -/
structure Sound (b : Ledger) : Prop where
  /-- Rows, locks and claims fit together. -/
  fleet : b.fleet.Sound
  /-- Every relay has a desk. -/
  length : b.desks.length = b.fleet.runners.length
  /-- Relays and their desks fit together. -/
  keeps : ∀ (place : Nat) (n : Runner) (d : Desk), b.fleet.runners[place]? = some n →
    b.desks[place]? = some d → d.Keeps n
  /-- Every deed is one of a cycle that is over, or one of a cycle that a relay is in. -/
  told : b.fleet.deeds.Perm (b.returns.flatMap Return.asked ++ b.desks.flatMap Desk.asked)
  /-- In a cycle that is over as many transitions of rows were made as it returned, and as many
  were counted. -/
  exact : ∀ r ∈ b.returns, ∀ delivered,
    (r.asked.map (Deed.turns delivered)).sum = r.counts delivered ∧
      (r.asked.map (Deed.counts delivered)).sum = r.counts delivered
  /-- The counters tell what is counted. -/
  counted : ∀ delivered, b.figures.counter delivered =
    (b.fleet.deeds.map (Deed.counts delivered)).sum
  /-- Every cycle that is over is one of a relay. -/
  placed : ∀ r ∈ b.returns, r.runner < b.desks.length
  /-- A relay counted a tick for each of its cycles, whatever the cycle returned. -/
  ticked : ∀ (place : Nat) (d : Desk), b.desks[place]? = some d →
    d.ticks = b.returns.countP (·.runner == place)

namespace Sound

variable {b : Ledger} {place : Nat} {n n' : Runner} {d d' : Desk} {m : Fleet.Move}

theorem start (clock : Instant) : (Ledger.start clock).Sound where
  fleet := .start clock
  length := rfl
  keeps := by simp [Ledger.start, Fleet.start]
  told := .refl _
  exact := by simp [Ledger.start]
  counted := fun delivered => by cases delivered <;> rfl
  placed := by simp [Ledger.start]
  ticked := by simp [Ledger.start]

/-- A relay and its desk become others, which fit together. -/
theorem keeps_set (h : b.Sound) (hfit : d'.Keeps n') (k : Nat) (x : Runner) (y : Desk)
    (hx : (b.fleet.runners.set place n')[k]? = some x) (hy : (b.desks.set place d')[k]? = some y) :
    y.Keeps x := by
  by_cases hk : place = k
  · subst hk
    have hlt := List.length_set ▸ (List.getElem?_eq_some_iff.1 hx).1
    rw [List.getElem?_set_self hlt] at hx
    rw [List.getElem?_set_self (h.length ▸ hlt)] at hy
    cases hx
    cases hy
    exact hfit
  · rw [List.getElem?_set_ne hk] at hx hy
    exact h.keeps k x y hx hy

/-- The deeds in the cycles of the relays, with those of one of them first. -/
theorem asked_perm (hd : b.desks[place]? = some d) : (b.desks.flatMap Desk.asked).Perm
    (d.asked ++ (b.desks.eraseIdx place).flatMap Desk.asked) :=
  (perm_at hd).flatMap_right _

theorem asked_perm_set (hd : b.desks[place]? = some d) (d' : Desk) :
    ((b.desks.set place d').flatMap Desk.asked).Perm
      (d'.asked ++ (b.desks.eraseIdx place).flatMap Desk.asked) :=
  (perm_set hd d').flatMap_right _

theorem spawned (h : b.Sound) (period : Nat) (metered stopped : Bool) :
    (b.step (.spawn period metered stopped)).Sound where
  fleet := h.fleet.step (.spawn period metered stopped)
  length := by simp [Ledger.step, Fleet.step, h.length]
  keeps := by
    intro k x y hx hy
    simp only [Ledger.step, Fleet.step] at hx hy
    rcases Nat.lt_or_ge k b.desks.length with hlt | hge
    · rw [List.getElem?_append_left hlt] at hy
      rw [List.getElem?_append_left (h.length ▸ hlt)] at hx
      exact h.keeps k x y hx hy
    · rw [List.getElem?_append_right hge, List.getElem?_singleton] at hy
      rw [List.getElem?_append_right (h.length ▸ hge), List.getElem?_singleton, ← h.length] at hx
      split at hy
      · next hk =>
          rw [if_pos hk] at hx
          cases hx
          cases hy
          exact .initial metered _ period
      · cases hy
  told := by
    simpa [Ledger.step, Fleet.step] using h.told
  exact := h.exact
  counted := h.counted
  placed := fun r hr => by
    rw [Ledger.step, List.length_append]
    exact Nat.lt_add_right _ (h.placed r hr)
  ticked := by
    intro k y hy
    simp only [Ledger.step] at hy ⊢
    rcases Nat.lt_or_ge k b.desks.length with hlt | hge
    · rw [List.getElem?_append_left hlt] at hy
      exact h.ticked k y hy
    · rw [List.getElem?_append_right hge, List.getElem?_singleton] at hy
      split at hy
      · cases hy
        refine (List.countP_eq_zero.2 fun r hr => ?_).symm
        have hlt := h.placed r hr
        simp only [beq_iff_eq]
        omega
      · cases hy

theorem moved (h : b.Sound) (plain : Plain m) (free : ∀ place, m = .look place →
    ∃ d, b.desks[place]? = some d ∧ d.refresh = .idle) :
    Ledger.Sound { b with fleet := b.fleet.step m } := by
  obtain ⟨hdeeds, hmetrics, hlength⟩ := b.fleet.step_plain plain
  refine ⟨h.fleet.step m, h.length.trans hlength.symm, fun k x y hx hy => ?_, hdeeds ▸ h.told,
    h.exact, ?_, h.placed, h.ticked⟩
  · rcases Fleet.runner_step hx with ⟨period, metered, stopped, rfl, -⟩ | ⟨n, new, hn, -, hsteps⟩
    · exact plain.elim
    · refine (h.keeps k n y hn hy).moved hsteps plain fun hm => ?_
      obtain ⟨d, hd, hidle⟩ := free k hm
      rwa [← Option.some.inj (hd.symm.trans hy)]
  · intro delivered
    rw [figures, hmetrics, hdeeds]
    exact h.counted delivered

theorem apart (h : b.Sound) (site : Timeline) {metrics : Metrics}
    (hcounter : ∀ delivered, metrics.counter delivered = b.figures.counter delivered) :
    Ledger.Sound { b with fleet := b.fleet.step (.elsewhere { site with metrics }) } :=
  ⟨h.fleet.step (.elsewhere { site with metrics }), h.length, h.keeps, h.told, h.exact,
    fun delivered => (hcounter delivered).trans (h.counted delivered), h.placed, h.ticked⟩

theorem written (h : b.Sound) (metrics : Metrics)
    (hcounter : ∀ delivered, metrics.counter delivered = b.figures.counter delivered) :
    (b.write metrics).Sound := h.apart b.fleet.site hcounter

/-- A desk becomes another one with the same ticks. -/
theorem ticked_set (h : b.Sound) (hd : b.desks[place]? = some d) (hticks : d'.ticks = d.ticks)
    (k : Nat) (y : Desk) (hy : (b.desks.set place d')[k]? = some y) :
    y.ticks = b.returns.countP (·.runner == k) := by
  by_cases hk : place = k
  · subst hk
    rw [List.getElem?_set_self (List.getElem?_eq_some_iff.1 hd).1] at hy
    cases hy
    exact hticks.trans (h.ticked place d hd)
  · rw [List.getElem?_set_ne hk] at hy
    exact h.ticked k y hy

/-- A question of a relay is one more deed of the cycle that it is in. -/
theorem asked (h : b.Sound) (hn : b.fleet.runners[place]? = some n)
    (hd : b.desks[place]? = some d) {st : Stage} {q : RelayCall}
    {next : q.Reply → Relaying (Except OutboxError Outcome)}
    (post : n.post = .cycling st (.ask q next)) :
    Ledger.Sound { b with
      fleet := b.fleet.turn place
      desks := b.desks.set place
        { d with asked := d.asked ++ [⟨place, n.metered, b.fleet.site, q⟩] } } := by
  have hturn := Fleet.turn_asked hn post
  have hfit := (h.keeps place n d hn hd).asked place post (h.fleet.turned_eq hn post)
  refine ⟨h.fleet.step (.turn place), ?_, ?_, ?_, h.exact, ?_, ?_, ?_⟩
  · rw [hturn, List.length_set, List.length_set]
    exact h.length
  · rw [hturn]
    exact h.keeps_set hfit
  · rw [hturn]
    refine (h.told.append_right _).trans (.trans ?_ ((asked_perm_set hd _).append_left _).symm)
    rw [List.append_assoc, List.append_assoc]
    refine .append_left _ (((asked_perm hd).append_right _).trans ?_)
    rw [List.append_assoc]
    exact List.perm_append_comm.append_left _
  · intro delivered
    rw [figures, hturn, Timeline.counter_reply, List.map_append, List.sum_append, ← h.counted]
    exact congrArg _ (Nat.add_zero _).symm
  · rw [List.length_set]
    exact h.placed
  · exact h.ticked_set hd rfl

/-- A cycle is over: its deeds are those of the relay until now. -/
theorem finished (h : b.Sound) (hn : b.fleet.runners[place]? = some n)
    (hd : b.desks[place]? = some d) {st : Stage} {result : Except OutboxError Outcome}
    (post : n.post = .cycling st (.done result)) (r : Refresh)
    (hfit : Desk.Keeps ⟨d.ticks + 1, [], r⟩ { n with post := .looking }) :
    Ledger.Sound {
      fleet := b.fleet.turn place
      desks := b.desks.set place ⟨d.ticks + 1, [], r⟩
      returns := b.returns ++ [⟨place, n.metered, d.asked, result⟩] } := by
  have hturn := Fleet.turn_finished hn post
  have hold := h.keeps place n d hn hd
  refine ⟨h.fleet.step (.turn place), ?_, ?_, ?_, ?_, ?_, ?_, ?_⟩
  · rw [hturn, List.length_set, List.length_set]
    exact h.length
  · rw [hturn]
    exact h.keeps_set hfit
  · rw [hturn, List.flatMap_append, List.flatMap_singleton, List.append_assoc]
    exact h.told.trans (.append_left _ ((asked_perm hd).trans
      ((asked_perm_set hd ⟨d.ticks + 1, [], r⟩).append_left d.asked).symm))
  · intro x hx delivered
    rcases List.mem_append.1 hx with hx | hx
    · exact h.exact x hx delivered
    · obtain rfl := List.mem_singleton.1 hx
      have hcloses := Book.countsOf_of_closes (hold.follows _ _ post) delivered
      rw [hold.turns, hold.counts, hcloses.1, hcloses.2]
      exact ⟨rfl, rfl⟩
  · rw [figures, hturn]
    exact h.counted
  · intro x hx
    rw [List.length_set]
    rcases List.mem_append.1 hx with hx | hx
    · exact h.placed x hx
    · rw [List.mem_singleton.1 hx]
      exact (List.getElem?_eq_some_iff.1 hd).1
  · intro k y hy
    rw [List.countP_append, List.countP_singleton]
    by_cases hk : place = k
    · subst hk
      rw [List.getElem?_set_self (List.getElem?_eq_some_iff.1 hd).1] at hy
      cases hy
      simp [h.ticked place d hd]
    · rw [List.getElem?_set_ne hk] at hy
      simp [hk, h.ticked k y hy]

/-- A relay takes a step towards the gauges, which leaves the counters as they are. -/
theorem refreshed (h : b.Sound) (hn : b.fleet.runners[place]? = some n)
    (hd : b.desks[place]? = some d) (hopen : d.refresh ≠ .idle) (r : Refresh) :
    Ledger.Sound { b with desks := b.desks.set place { d with refresh := r } } := by
  have hfit := (h.keeps place n d hn hd).refreshed hopen r
  refine ⟨h.fleet, (List.length_set ..).trans h.length, fun k x y hx hy => ?_, ?_, h.exact,
    h.counted, by simpa using h.placed, h.ticked_set hd rfl⟩
  · refine h.keeps_set hfit k x y ?_ hy
    obtain ⟨hlt, rfl⟩ := List.getElem?_eq_some_iff.1 hn
    rwa [List.set_getElem_self hlt]
  · exact h.told.trans (.append_left _ ((asked_perm hd).trans
      (asked_perm_set hd { d with refresh := r }).symm))

/-- Every move keeps relays, desks and figures together. -/
theorem step (h : b.Sound) (m : Fleet.Move) : (b.step m).Sound := by
  have hsteps := b.steps_step m
  generalize b.step m = b' at hsteps
  cases hsteps with
  | idle => exact h
  | spawned period metered stopped => exact h.spawned period metered stopped
  | moved plain free => exact h.moved plain free
  | apart site => exact h.apart site fun _ => rfl
  | asked runner desk free post => exact h.asked runner desk post
  | returned runner desk free post =>
      exact h.finished runner desk post _ ((h.keeps _ _ _ runner desk).returned post)
  | looked runner desk due => exact h.refreshed runner desk (by rw [due]; nofun) _
  | @notedPending place n d w runner desk seen =>
      have hwritten := h.written { b.figures with pending := (backlogOf w).pending } fun _ => rfl
      exact hwritten.refreshed runner desk (by rw [seen]; nofun) _
  | @notedAge place n d w runner desk half =>
      have hwritten := h.written { b.figures with oldestAge := (backlogOf w).oldestAge } fun _ => rfl
      exact hwritten.refreshed runner desk (by rw [half]; nofun) _

theorem run (h : b.Sound) (moves : List Fleet.Move) : (b.run moves).Sound := by
  induction moves generalizing b with
  | nil => exact h
  | cons m moves ih => exact ih (h.step m)

end Sound

/-! ## What the counters tell -/

/-- How many cycles of relays that count are in flight. -/
def inFlight (b : Ledger) : Nat := b.fleet.runners.countP fun n => n.metered && n.post.InCycle

/-- How many cycles of relays that count returned a delivery, or a failure. -/
def returned (b : Ledger) (delivered : Bool) : Nat := (b.returns.map (Return.counts delivered)).sum

/-- How many rows that waited were marked by relays that count, as delivered or as failed. -/
def transitions (b : Ledger) (delivered : Bool) : Nat :=
  (b.fleet.deeds.map (Deed.turns delivered)).sum

end Ledger

theorem sum_map_flatMap {α β : Type} (xs : List α) (g : α → List β) (f : β → Nat) :
    ((xs.flatMap g).map f).sum = (xs.map fun x => ((g x).map f).sum).sum := by
  rw [List.map_flatMap, List.flatMap, List.sum_flatten, List.map_map]
  rfl

/-- A relay that is in no cycle, or that does not count, has made no transition that is not
returned; one that is in a cycle has made one at most. -/
theorem Desk.Keeps.sums {d : Desk} {n : Runner} (h : d.Keeps n) (delivered : Bool) :
    (d.asked.map (Deed.counts delivered)).sum ≤ (d.asked.map (Deed.turns delivered)).sum ∧
      (d.asked.map (Deed.turns delivered)).sum ≤
        if n.metered && n.post.InCycle then 1 else 0 := by
  by_cases hcycle : n.post.InCycle
  · rw [h.counts, h.turns]
    have hle := d.book.counts_le_marks delivered
    have hone := d.book.marks_le_one delivered
    cases n.metered <;> simp [hcycle, hle, hone]
  · rw [h.free hcycle]
    simp

namespace Ledger.Sound

variable {b : Ledger}

theorem asked_sums {desks : List Desk} {runners : List Runner}
    (h : List.Forall₂ Desk.Keeps desks runners) (delivered : Bool) :
    (desks.map fun d => (d.asked.map (Deed.counts delivered)).sum).sum ≤
        (desks.map fun d => (d.asked.map (Deed.turns delivered)).sum).sum ∧
      (desks.map fun d => (d.asked.map (Deed.turns delivered)).sum).sum ≤
        runners.countP fun n => n.metered && n.post.InCycle := by
  induction h with
  | nil => exact ⟨Nat.le_refl 0, Nat.le_refl 0⟩
  | cons hkeeps _ ih =>
      have hsums := hkeeps.sums delivered
      rw [List.countP_cons]
      simp only [List.map_cons, List.sum_cons]
      omega

theorem forall₂_keeps (h : b.Sound) : List.Forall₂ Desk.Keeps b.desks b.fleet.runners :=
  List.forall₂_iff_get.2 ⟨h.length, fun k hd hn =>
    h.keeps k _ _ (List.getElem?_eq_getElem hn) (List.getElem?_eq_getElem hd)⟩

/-- What is returned was counted, what was counted was marked, and what was marked was returned
or is of a cycle in flight. -/
theorem figures_between (h : b.Sound) (delivered : Bool) :
    b.returned delivered ≤ b.figures.counter delivered ∧
      b.figures.counter delivered ≤ b.transitions delivered ∧
      b.transitions delivered ≤ b.returned delivered + b.inFlight := by
  have hasked := asked_sums h.forall₂_keeps delivered
  have hturns : b.transitions delivered = b.returned delivered +
      (b.desks.map fun d => (d.asked.map (Deed.turns delivered)).sum).sum := by
    rw [transitions, (h.told.map _).sum_nat, List.map_append, List.sum_append, sum_map_flatMap,
      sum_map_flatMap, returned,
      List.map_congr_left fun r hr => (h.exact r hr delivered).1]
  have hcounts : b.figures.counter delivered = b.returned delivered +
      (b.desks.map fun d => (d.asked.map (Deed.counts delivered)).sum).sum := by
    rw [h.counted, (h.told.map _).sum_nat, List.map_append, List.sum_append, sum_map_flatMap,
      sum_map_flatMap, returned,
      List.map_congr_left fun r hr => (h.exact r hr delivered).2]
  rw [inFlight]
  omega

end Ledger.Sound

end Accounts.Outbox
