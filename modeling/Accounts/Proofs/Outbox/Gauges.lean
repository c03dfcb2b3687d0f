import Accounts.Proofs.Outbox.Ledger
import Accounts.Proofs.Outbox.Queue
import Mathlib.Data.List.Induction
/-!
# When the gauges change

A relay looks the backlog up between two cycles, after every so many ticks, and notes the two
gauges; nobody else touches them.  When it notes them others may have moved since it looked, so
what the gauges tell is the backlog of that moment, which `Ledger.lookedUp` finds in the run.  If
nobody moves in between, it is the backlog as it stands.
-/

namespace Accounts.Outbox

/-! ## What a backlog tells -/

namespace Store

variable {s : Store}

/-- How many whole seconds the oldest of the rows that wait has waited at an instant, and 0 if
none waits. -/
inductive Waited (s : Store) (now : Instant) : Int → Prop
  | nobody (none : ∀ e ∈ s.rows, e.status ≠ .created) : Waited s now 0
  | oldest {e : Envelope} (mem : e ∈ s.rows) (created : e.status = .created)
      (first : ∀ x ∈ s.rows, x.status = .created → x.createdAt.lt e.createdAt = false) :
      Waited s now (e.createdAt.secondsBetween now)

theorem waited_backlog (hn : s.Numbered) (now : Instant) :
    s.Waited now (s.backlog now).oldestAge := by
  have hwaiting : ∀ x, x ∈ s.waiting ↔ x ∈ s.rows ∧ x.status = .created := by
    simp [waiting]
  rw [backlog]
  dsimp only
  cases holdest : oldest? s.waiting with
  | none =>
      have hnobody := oldest?_eq_none.1 holdest
      refine .nobody fun e he hcreated => ?_
      have hmem := (hwaiting e).2 ⟨he, hcreated⟩
      rw [hnobody] at hmem
      cases hmem
  | some e =>
      obtain ⟨hmem, hcreated⟩ := (hwaiting e).1 (oldest?_mem holdest)
      refine .oldest hmem hcreated fun x hx hwaits => ?_
      have hfirst := before_of_oldest? holdest ((hwaiting x).2 ⟨hx, hwaits⟩) fun y hy z hz hid =>
        hn.eq_of_id ((hwaiting y).1 hy).1 ((hwaiting z).1 hz).1 hid
      rcases hfirst with rfl | hbefore
      · exact x.createdAt.lt_irrefl
      · rcases before_iff.1 hbefore with hlt | ⟨heq, -⟩
        · by_contra hnot
          have hcycle := Instant.lt_trans hlt (eq_true_of_ne_false hnot)
          rw [Instant.lt_irrefl] at hcycle
          cases hcycle
        · rw [heq]
          exact x.createdAt.lt_irrefl

end Store

/-- The gauges tell the backlog of some surroundings. -/
structure Metrics.Tells (m : Metrics) (w : Timeline) : Prop where
  /-- How many rows wait, claimed ones included. -/
  pending : m.pending = w.store.rows.countP (·.status == .created)
  oldestAge : w.store.Waited w.clock m.oldestAge

theorem Metrics.tells_look (m : Metrics) {w : Timeline} (hn : w.store.Numbered) :
    (m.look (Ledger.backlogOf w)).Tells w where
  pending := by
    show ((w.store.waiting.length : Nat) : Int) = _
    rw [Store.waiting, List.countP_eq_length_filter]
  oldestAge := w.store.waited_backlog hn w.clock

/-! ## Who changes the gauges -/

/-- The surroundings that a relay found when it looked the backlog up. -/
def Refresh.found? : Refresh → Option Timeline
  | .seen w | .half w => some w
  | .idle | .due => none

theorem Timeline.gauges_reply (w : Timeline) (metered : Bool) (q : RelayCall) :
    (w.reply metered q).2.metrics.pending = w.metrics.pending ∧
      (w.reply metered q).2.metrics.oldestAge = w.metrics.oldestAge := by
  cases q with
  | count o => cases metered <;> cases o <;> exact ⟨rfl, rfl⟩
  | claim | publish | mark | release | note => exact ⟨rfl, rfl⟩

namespace Ledger

variable {b b' : Ledger} {m : Fleet.Move} {place : Nat} {n : Runner} {d d' : Desk} {w : Timeline}

/-- How many cycles of the relay at a place are over. -/
def cycles (b : Ledger) (place : Nat) : Nat := b.returns.countP (·.runner == place)

namespace Steps

/-- A gauge changes only when a relay notes it. -/
theorem gauges (h : b.Steps m b') :
    (b'.figures.pending = b.figures.pending ∧ b'.figures.oldestAge = b.figures.oldestAge) ∨
      ∃ place d w, m = .turn place ∧ b.desks[place]? = some d ∧ d.refresh.found? = some w ∧
        (b'.figures = { b.figures with pending := (backlogOf w).pending } ∨
          b'.figures = { b.figures with oldestAge := (backlogOf w).oldestAge }) := by
  cases h with
  | idle | spawned | apart | looked => exact .inl ⟨rfl, rfl⟩
  | moved plain =>
      have hmetrics := (b.fleet.step_plain plain).2.1
      exact .inl ⟨congrArg _ hmetrics, congrArg _ hmetrics⟩
  | asked runner desk free post =>
      refine .inl ?_
      simp only [figures, Fleet.turn_asked runner post]
      exact Timeline.gauges_reply ..
  | returned runner desk free post =>
      refine .inl ?_
      rw [figures, Fleet.turn_finished runner post]
      exact ⟨rfl, rfl⟩
  | @notedPending place n d w runner desk seen =>
      exact .inr ⟨place, d, w, rfl, desk, by rw [seen]; rfl, .inl rfl⟩
  | @notedAge place n d w runner desk half =>
      exact .inr ⟨place, d, w, rfl, desk, by rw [half]; rfl, .inr rfl⟩

/-- A relay that found a backlog found it in this move, or had found it before. -/
theorem found (h : b.Steps m b') (hd' : b'.desks[place]? = some d')
    (hfound : d'.refresh.found? = some w) :
    ∃ d, b.desks[place]? = some d ∧ d.ticks = d'.ticks ∧
      (d.refresh.found? = some w ∨ m = .turn place ∧ d.refresh = .due ∧ w = b.fleet.site) := by
  have hkept (hd : b.desks[place]? = some d') :
      ∃ d, b.desks[place]? = some d ∧ d.ticks = d'.ticks ∧
        (d.refresh.found? = some w ∨ m = .turn place ∧ d.refresh = .due ∧ w = b.fleet.site) :=
    ⟨d', hd, rfl, .inl hfound⟩
  have hset {k : Nat} {x y : Desk} (hx : b.desks[k]? = some x)
      (hy : (b.desks.set k y)[place]? = some d') (hnew : k = place → y = d' → x.ticks = d'.ticks ∧
        (x.refresh.found? = some w ∨ m = .turn place ∧ x.refresh = .due ∧ w = b.fleet.site)) :
      ∃ d, b.desks[place]? = some d ∧ d.ticks = d'.ticks ∧
        (d.refresh.found? = some w ∨ m = .turn place ∧ d.refresh = .due ∧ w = b.fleet.site) := by
    by_cases hk : k = place
    · subst hk
      rw [List.getElem?_set_self (List.getElem?_eq_some_iff.1 hx).1] at hy
      exact ⟨x, hx, hnew rfl (Option.some.inj hy)⟩
    · rw [List.getElem?_set_ne hk] at hy
      exact hkept hy
  cases h with
  | idle | moved | apart => exact hkept hd'
  | spawned =>
      rcases Nat.lt_or_ge place b.desks.length with hlt | hge
      · exact hkept ((List.getElem?_append_left hlt).symm.trans hd')
      · have hnew := (List.getElem?_append_right hge).symm.trans hd'
        rw [List.getElem?_singleton] at hnew
        split at hnew <;> cases hnew
        cases hfound
  | asked runner desk free post =>
      refine hset desk hd' ?_
      rintro rfl rfl
      exact ⟨rfl, .inl hfound⟩
  | returned runner desk free post =>
      refine hset desk hd' ?_
      rintro rfl rfl
      dsimp only at hfound
      split at hfound <;> cases hfound
  | looked runner desk due =>
      refine hset desk hd' ?_
      rintro rfl rfl
      exact ⟨rfl, .inr ⟨rfl, due, (Option.some.inj hfound).symm⟩⟩
  | notedPending runner desk seen =>
      refine hset desk hd' ?_
      rintro rfl rfl
      exact ⟨rfl, .inl ((congrArg Refresh.found? seen).trans hfound)⟩
  | notedAge runner desk half =>
      refine hset desk hd' ?_
      rintro rfl rfl
      cases hfound

end Steps

/-! ## When they change -/

theorem Sound.exists_runner (h : b.Sound) (hd : b.desks[place]? = some d) :
    ∃ n, b.fleet.runners[place]? = some n ∧ d.Keeps n := by
  have hlt : place < b.fleet.runners.length := h.length ▸ (List.getElem?_eq_some_iff.1 hd).1
  have hn := List.getElem?_eq_getElem hlt
  exact ⟨_, hn, h.keeps place _ d hn hd⟩

theorem Sound.exists_desk (h : b.Sound) (hn : b.fleet.runners[place]? = some n) :
    ∃ d, b.desks[place]? = some d ∧ d.Keeps n := by
  have hlt : place < b.desks.length := h.length ▸ (List.getElem?_eq_some_iff.1 hn).1
  have hd := List.getElem?_eq_getElem hlt
  exact ⟨_, hd, h.keeps place n _ hn hd⟩

/-- In a run the relay at a place looked the backlog up when `past` had happened, after a tick
whose number calls for it, and has not gone on since. -/
structure LookedUp (clock : Instant) (moves past : List Fleet.Move) (place : Nat) : Prop where
  before : ∃ since, moves = past ++ .turn place :: since
  /-- It counts, and it is between two cycles, then and still. -/
  between : ∀ done ∈ [past, moves], ∃ n,
    ((start clock).run done).fleet.runners[place]? = some n ∧ n.metered = true ∧ n.post = .looking
  /-- They are the same two cycles. -/
  still : ((start clock).run past).cycles place = ((start clock).run moves).cycles place
  /-- It counted a tick for each cycle that is over, whatever it returned. -/
  ticks : 0 < ((start clock).run moves).cycles place ∧
    backlogTicks ∣ ((start clock).run moves).cycles place

/-- What a relay found it found at a moment of the run, at which it had counted as many ticks. -/
theorem found_of_run (clock : Instant) (moves : List Fleet.Move) :
    ∀ d, ((start clock).run moves).desks[place]? = some d → d.refresh.found? = some w →
      ∃ past since d₀, moves = past ++ .turn place :: since ∧
        ((start clock).run past).desks[place]? = some d₀ ∧ d₀.refresh = .due ∧
        d₀.ticks = d.ticks ∧ w = ((start clock).run past).fleet.site := by
  induction moves using List.reverseRecOn with
  | nil => exact fun d hd => nomatch hd
  | append_singleton moves m ih =>
      intro d' hd' hfound
      rw [run_concat] at hd'
      obtain ⟨d, hd, hticks, hold | ⟨rfl, hdue, hw⟩⟩ :=
        (((start clock).run moves).steps_step m).found hd' hfound
      · obtain ⟨past, since, d₀, rfl, hd₀, hdue, hticks₀, hw⟩ := ih d hd hold
        exact ⟨past, since ++ [m], d₀, List.append_assoc .., hd₀, hdue, hticks₀.trans hticks, hw⟩
      · exact ⟨moves, [], d, rfl, hd, hdue, hticks, hw⟩

/-- A relay that found a backlog looked it up. -/
theorem lookedUp (clock : Instant) (moves : List Fleet.Move)
    (hd : ((start clock).run moves).desks[place]? = some d) (hfound : d.refresh.found? = some w) :
    ∃ past, LookedUp clock moves past place ∧ w = ((start clock).run past).fleet.site := by
  obtain ⟨past, since, d₀, hmoves, hd₀, hdue, hticks, hw⟩ := found_of_run clock moves d hd hfound
  have hopen : d.refresh ≠ .idle := fun hidle => by
    rw [hidle] at hfound
    cases hfound
  -- in both moments the relay has a desk at which it does not idle
  have hstood (done : List Fleet.Move) {x : Desk}
      (hx : ((start clock).run done).desks[place]? = some x) (hx' : x.refresh ≠ .idle) :
      x.ticks = ((start clock).run done).cycles place ∧ (0 < x.ticks ∧ backlogTicks ∣ x.ticks) ∧
        ∃ n, ((start clock).run done).fleet.runners[place]? = some n ∧ n.metered = true ∧
          n.post = .looking := by
    have hsound := (Sound.start clock).run done
    obtain ⟨n, hn, hkeeps⟩ := hsound.exists_runner hx
    obtain ⟨hmetered, hpost, hticks⟩ := hkeeps.refresh hx'
    exact ⟨hsound.ticked place x hx, hticks, n, hn, hmetered, hpost⟩
  obtain ⟨hcycles₀, -, hbetween₀⟩ := hstood past hd₀ (by rw [hdue]; nofun)
  obtain ⟨hcycles, hcalls, hbetween⟩ := hstood moves hd hopen
  refine ⟨past, ⟨⟨since, hmoves⟩, ?_, ?_, hcycles ▸ hcalls⟩, hw⟩
  · simpa using And.intro hbetween₀ hbetween
  · rw [← hcycles₀, ← hcycles, hticks]

/-- The gauges change only when a relay notes a backlog that it looked up, between two cycles and
after a tick that called for it: first how many rows waited, then for how long the oldest had. -/
theorem gauges_of_run (clock : Instant) (moves : List Fleet.Move) (m : Fleet.Move) :
    let b := (start clock).run moves
    ((b.step m).figures.pending = b.figures.pending ∧
        (b.step m).figures.oldestAge = b.figures.oldestAge) ∨
      ∃ place past, m = .turn place ∧ LookedUp clock moves past place ∧ ∃ found : Metrics,
        found.Tells ((start clock).run past).fleet.site ∧
          ((b.step m).figures = { b.figures with pending := found.pending } ∨
            (b.step m).figures = { b.figures with oldestAge := found.oldestAge }) := by
  intro b
  rcases (b.steps_step m).gauges with hsame | ⟨place, d, w, rfl, hd, hfound, hnoted⟩
  · exact .inl hsame
  · obtain ⟨past, hlooked, rfl⟩ := lookedUp clock moves hd hfound
    have hnumbered := ((Sound.start clock).run past).fleet.orderly.numbered
    exact .inr ⟨place, past, rfl, hlooked, b.figures.look (backlogOf _),
      b.figures.tells_look hnumbered, hnoted⟩

/-! ## Without interruption -/

/-- The cycle of a relay is over, the tick is counted, and the figures became these. -/
def afterTick (b : Ledger) (place : Nat) (n : Runner) (d : Desk)
    (result : Except OutboxError Outcome) (figures : Metrics) : Ledger where
  fleet := { b.fleet with
    site := { b.fleet.site with metrics := figures }
    runners := b.fleet.runners.set place { n with post := .looking } }
  desks := b.desks.set place ⟨d.ticks + 1, [], .idle⟩
  returns := b.returns ++ [⟨place, n.metered, d.asked, result⟩]

variable {st : Stage} {result : Except OutboxError Outcome}

theorem turn_returned (hn : b.fleet.runners[place]? = some n) (hd : b.desks[place]? = some d)
    (free : d.refresh = .idle) (post : n.post = .cycling st (.done result)) :
    b.turn place =
      { fleet := { b.fleet with
          runners := b.fleet.runners.set place { n with post := .looking } }
        desks := b.desks.set place
          ⟨d.ticks + 1, [], if (d.ticks + 1) % backlogTicks = 0 ∧ n.metered then .due else .idle⟩
        returns := b.returns ++ [⟨place, n.metered, d.asked, result⟩] } := by
  simp only [turn, hn, hd, free, post, Fleet.turn_finished hn post]

/-- A relay that is about to look the backlog up notes it, if nobody moves in between. -/
theorem run_due (hn : b.fleet.runners[place]? = some n) (hd : b.desks[place]? = some d)
    (due : d.refresh = .due) :
    b.run [.turn place, .turn place, .turn place] =
      { b with
        fleet := { b.fleet with
          site := { b.fleet.site with metrics := b.figures.look (backlogOf b.fleet.site) } }
        desks := b.desks.set place { d with refresh := .idle } } := by
  have hlt := (List.getElem?_eq_some_iff.1 hd).1
  have hself (x : Desk) : (b.desks.set place x)[place]? = some x := List.getElem?_set_self hlt
  simp only [run, List.foldl_cons, List.foldl_nil, step, turn, write, Fleet.step, figures, hn, hd,
    due, hself, List.set_set]
  rfl

/-- Without interruption a relay whose cycle is over does what it does in time. -/
theorem run_tick (hn : b.fleet.runners[place]? = some n) (hd : b.desks[place]? = some d)
    (free : d.refresh = .idle) (post : n.post = .cycling st (.done result)) :
    let calls := (d.ticks + 1) % backlogTicks = 0 ∧ n.metered
    b.run (.turn place :: if calls then [.turn place, .turn place, .turn place] else []) =
      b.afterTick place n d result
        (if calls then b.figures.look (backlogOf b.fleet.site) else b.figures) := by
  intro calls
  show (b.turn place).run _ = _
  rw [turn_returned hn hd free post]
  by_cases hcalls : calls
  · rw [if_pos hcalls, if_pos hcalls, if_pos hcalls]
    have hlooks : (b.fleet.runners.set place { n with post := .looking })[place]? =
        some { n with post := .looking } :=
      List.getElem?_set_self (List.getElem?_eq_some_iff.1 hn).1
    have hdue : (b.desks.set place ⟨d.ticks + 1, [], .due⟩)[place]? =
        some ⟨d.ticks + 1, [], .due⟩ :=
      List.getElem?_set_self (List.getElem?_eq_some_iff.1 hd).1
    refine (run_due hlooks hdue rfl).trans ?_
    simp only [afterTick, List.set_set]
    rfl
  · rw [if_neg hcalls, if_neg hcalls, if_neg hcalls]
    rfl

/-- If nobody moves in between, the gauges tell the backlog as it stands after the tick, and the
counters stay as they are. -/
theorem Sound.gauges_after_tick (h : b.Sound) (hn : b.fleet.runners[place]? = some n)
    (post : n.post = .cycling st (.done result)) (metered : n.metered = true)
    (calls : backlogTicks ∣ b.cycles place + 1) :
    let b' := b.run [.turn place, .turn place, .turn place, .turn place]
    b'.cycles place = b.cycles place + 1 ∧ b'.fleet.site.store = b.fleet.site.store ∧
      b'.figures.Tells b'.fleet.site ∧
      ∀ delivered, b'.figures.counter delivered = b.figures.counter delivered := by
  obtain ⟨d, hd, hkeeps⟩ := h.exists_desk hn
  have hticks : d.ticks = b.cycles place := h.ticked place d hd
  have htick := run_tick hn hd (hkeeps.idle_of_post (post ▸ nofun)) post
  have hcalls : (d.ticks + 1) % backlogTicks = 0 ∧ n.metered :=
    ⟨hticks ▸ Nat.mod_eq_zero_of_dvd calls, metered⟩
  simp only [if_pos hcalls] at htick
  intro b'
  rw [show b' = _ from htick]
  have htells := b.figures.tells_look (w := b.fleet.site) h.fleet.orderly.numbered
  refine ⟨?_, rfl, ⟨htells.pending, htells.oldestAge⟩, fun delivered => rfl⟩
  simp [cycles, afterTick]

end Ledger

end Accounts.Outbox
