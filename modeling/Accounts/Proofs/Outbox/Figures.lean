import Accounts.Proofs.Outbox.Gauges
import Accounts.Proofs.Outbox.Shutdown
/-!
# The figures are exact

However many relays share their figures, and whoever moves next, the counters tell what the cycles
returned and which transitions of rows they made, up to the cycles in flight, and the gauges tell a
backlog that a relay looked up after a tick that called for it (`Ledger.figures_exact`).

A ledger is more finely divided than a relay in time, which notes the gauges at once.  It does
whatever a course does, and comes to the same figures (`Ledger.Shows.run`).
-/

namespace Accounts.Outbox

/-! ## Following a relay in time -/

/-- A ledger has the outbox and the figures of some surroundings, and nobody is about to note the
gauges. -/
structure Ledger.Quiet (b : Ledger) (w : Timeline) : Prop where
  store : b.fleet.site.store = w.store
  figures : b.figures = w.metrics
  idle : ∀ d ∈ b.desks, d.refresh = .idle

/-- In every quiet ledger the relay can become another one, in other surroundings, by moves that
leave the other relays alone. -/
def Runner.Leads (n : Runner) (w : Timeline) (n' : Runner) (w' : Timeline) : Prop :=
  ∀ (b : Ledger) (place : Nat), b.Sound → b.Quiet w → b.fleet.runners[place]? = some n →
    ∃ moves : List Fleet.Move, (b.run moves).Quiet w' ∧
      (b.run moves).fleet.runners = b.fleet.runners.set place n' ∧
      (b.run moves).fleet.others = b.fleet.others

namespace Ledger

variable {b : Ledger} {w : Timeline} {place : Nat} {n : Runner} {d : Desk}

theorem Quiet.idle_at (h : b.Quiet w) (hd : b.desks[place]? = some d) : d.refresh = .idle :=
  h.idle d (List.mem_of_getElem? hd)

/-- An idle desk takes the place of another one. -/
theorem Quiet.idle_set (h : b.Quiet w) (hidle : d.refresh = .idle) :
    ∀ x ∈ b.desks.set place d, x.refresh = .idle := by
  intro x hx
  rcases List.mem_or_eq_of_mem_set hx with hx | rfl
  · exact h.idle x hx
  · exact hidle

/-- The surroundings of a quiet ledger can become those whose outbox and figures it has. -/
theorem Quiet.step_elsewhere (h : b.Quiet w) :
    b.step (.elsewhere w) = { b with fleet := { b.fleet with site := w } } := by
  rw [step, Fleet.step, h.figures, h.store]

theorem look_of_idle (hd : b.desks[place]? = some d) (hidle : d.refresh = .idle) :
    b.look place = { b with fleet := b.fleet.step (.look place) } := by
  obtain ⟨ticks, asked, refresh⟩ := d
  subst hidle
  rw [look, hd]

theorem turn_asked {st : Stage} {q : RelayCall}
    {next : q.Reply → Relaying (Except OutboxError Outcome)}
    (hn : b.fleet.runners[place]? = some n) (hd : b.desks[place]? = some d)
    (free : d.refresh = .idle) (post : n.post = .cycling st (.ask q next)) :
    b.turn place =
      { b with
        fleet := b.fleet.turn place
        desks := b.desks.set place
          { d with asked := d.asked ++ [⟨place, n.metered, b.fleet.site, q⟩] } } := by
  simp only [turn, hn, hd, free, post]

end Ledger

namespace Runner.Leads

variable {n n' n'' : Runner} {w w' w'' : Timeline}

theorem trans (h : n.Leads w n' w') (h' : n'.Leads w' n'' w'') : n.Leads w n'' w'' := by
  intro b place hb hquiet hn
  obtain ⟨first, hquiet', hrunners, hothers⟩ := h b place hb hquiet hn
  have hn' : (b.run first).fleet.runners[place]? = some n' := by
    rw [hrunners]
    exact List.getElem?_set_self (List.getElem?_eq_some_iff.1 hn).1
  obtain ⟨second, hquiet'', hrunners', hothers'⟩ := h' _ place (hb.run first) hquiet' hn'
  refine ⟨first ++ second, ?_, ?_, ?_⟩ <;> rw [Ledger.run_append]
  · exact hquiet''
  · rw [hrunners', hrunners, List.set_set]
  · rw [hothers', hothers]

/-- A move that changes the relay alone. -/
theorem change {g : Runner → Runner} {m : Nat → Fleet.Move}
    (hm : ∀ (f : Fleet) place, f.step (m place) = f.change place g)
    (hstep : ∀ (b : Ledger) place d, b.desks[place]? = some d → d.refresh = .idle →
      b.step (m place) = { b with fleet := b.fleet.step (m place) })
    (n : Runner) (w : Timeline) : n.Leads w (g n) w := by
  intro b place hb hquiet hn
  obtain ⟨d, hd, -⟩ := hb.exists_desk hn
  have hone : b.run [m place] = { b with fleet := b.fleet.change place g } := by
    rw [← hm]
    exact hstep b place d hd (hquiet.idle_at hd)
  refine ⟨[m place], ?_⟩
  rw [hone]
  exact ⟨⟨hquiet.store, hquiet.figures, hquiet.idle⟩, Fleet.runners_change hn g, rfl⟩

theorem asked (w : Timeline) {st : Stage} {q : RelayCall}
    {next : q.Reply → Relaying (Except OutboxError Outcome)}
    (post : n.post = .cycling st (.ask q next)) :
    n.Leads w
      { n with
        post := .cycling (st.after q (w.reply n.metered q).1) (next (w.reply n.metered q).1) }
      (w.reply n.metered q).2 := by
  intro b place hb hquiet hn
  obtain ⟨d, hd, -⟩ := hb.exists_desk hn
  have hidle := hquiet.idle_at hd
  refine ⟨[.elsewhere w, .turn place], ?_⟩
  show Ledger.Quiet ((b.step (.elsewhere w)).turn place) _ ∧
    ((b.step (.elsewhere w)).turn place).fleet.runners = _ ∧
    ((b.step (.elsewhere w)).turn place).fleet.others = _
  rw [hquiet.step_elsewhere]
  rw [Ledger.turn_asked (b := { b with fleet := { b.fleet with site := w } }) hn hd hidle post,
    Fleet.turn_asked (f := { b.fleet with site := w }) hn post]
  exact ⟨⟨rfl, rfl, hquiet.idle_set hidle⟩, rfl, rfl⟩

/-- A tick is counted, and the gauges are noted if it calls for it. -/
theorem finish {st : Stage} {result : Except OutboxError Outcome} {r : Relay} (w : Timeline)
    (post : n.post = .cycling st (.done result)) (metered : r.metered = n.metered)
    (begun : n.begun = r.ticks + 1) :
    n.Leads w { n with post := .looking } (w.afterCycle r).2 := by
  intro b place hb hquiet hn
  obtain ⟨d, hd, hkeeps⟩ := hb.exists_desk hn
  have hidle := hquiet.idle_at hd
  have hticks : d.ticks = r.ticks := by
    have hbegun := hkeeps.ticks
    rw [if_pos (post ▸ trivial)] at hbegun
    omega
  obtain ⟨moves, htick⟩ : ∃ moves, (b.step (.elsewhere w)).run moves =
      Ledger.afterTick { b with fleet := { b.fleet with site := w } } place n d result
        (w.afterCycle r).2.metrics := by
    have hrun := Ledger.run_tick (b := { b with fleet := { b.fleet with site := w } }) hn hd hidle
      post
    refine ⟨_, (congrArg (Ledger.run · _) hquiet.step_elsewhere).trans (hrun.trans ?_)⟩
    rw [Timeline.afterCycle, ← hticks, metered]
    split <;> rfl
  refine ⟨.elsewhere w :: moves, ?_⟩
  show Ledger.Quiet ((b.step (.elsewhere w)).run moves) _ ∧
    ((b.step (.elsewhere w)).run moves).fleet.runners = _ ∧
    ((b.step (.elsewhere w)).run moves).fleet.others = _
  rw [htick]
  exact ⟨⟨(w.store_afterCycle r).symm, rfl, hquiet.idle_set rfl⟩, rfl, rfl⟩

end Runner.Leads

/-- What a relay in time does a relay of a ledger does too, with the same figures. -/
theorem Runner.Walks.leads {n n' : Runner} {w w' : Timeline} (h : n.Walks w n' w') :
    n.Leads w n' w' := by
  induction h with
  | stay n w turn =>
      intro b place hb hquiet hn
      obtain ⟨hlt, rfl⟩ := List.getElem?_eq_some_iff.1 hn
      exact ⟨[], ⟨hquiet.store, hquiet.figures, hquiet.idle⟩,
        (List.set_getElem_self hlt).symm, rfl⟩
  | launch n w =>
      exact .change (m := .launch) (fun _ _ => rfl) (fun _ _ _ _ _ => rfl) n w
  | look n w =>
      exact .change (m := .look) (fun _ _ => rfl)
        (fun b place d hd hidle => Ledger.look_of_idle hd hidle) n w
  | poll n w ticked p =>
      exact .change (m := (.poll · ticked p)) (fun _ _ => rfl) (fun _ _ _ _ _ => rfl) n w
  | asked w post => exact .asked w post
  | finish w post metered begun => exact .finish w post metered begun
  | trans _ _ ih ih' => exact ih.trans ih'

/-! ## Ledgers that show a course -/

/-- A ledger stands where a course stands, with the same figures. -/
structure Ledger.Shows (b : Ledger) (c : Course) : Prop where
  fleet : c.ShownBy b.fleet
  figures : b.figures = c.timeline.metrics
  idle : ∀ d ∈ b.desks, d.refresh = .idle

theorem Timeline.metrics_signalAt (w : Timeline) (place : Nat) (g : Switch → Switch) :
    (w.signalAt place g).metrics = w.metrics := by
  unfold signalAt
  split
  · rfl
  · split
    · rfl
    · dsimp only
      split <;> rfl

namespace Ledger.Shows

variable {b : Ledger} {c : Course} {w : Timeline} {others : List Claim}

theorem start (clock : Instant) (delay : Nat) :
    (Ledger.start clock).Shows (Course.start clock delay) where
  fleet := Course.shownBy_start clock delay
  figures := rfl
  idle := nofun

theorem quiet (h : b.Shows c) : b.Quiet c.timeline := ⟨h.fleet.shows.store, h.figures, h.idle⟩

theorem resumeAt (h : b.Shows ⟨w, others⟩) (hb : b.Sound) (place : Nat) :
    ∃ moves, (b.run moves).Shows ⟨w.resumeAt place, others⟩ := by
  unfold Timeline.resumeAt
  split
  · exact ⟨[], h⟩
  · next r hr =>
      obtain ⟨n, hn, hstands⟩ := h.fleet.shows.exists_runner hr
      obtain ⟨n', hwalks, hstands'⟩ :=
        ({ w with now := max w.now r.wake } : Timeline).resume_stands hstands
          (hb.fleet.regular place n hn).noticed
      obtain ⟨moves, hquiet, hrunners, hothers⟩ :=
        hwalks.leads b place hb ⟨h.quiet.store, h.figures, h.idle⟩ hn
      have hrelays := ({ w with now := max w.now r.wake } : Timeline).sameMoment_resume r |>.relays
      refine ⟨moves, ⟨?_, hothers.trans h.fleet.others⟩, hquiet.figures, hquiet.idle⟩
      exact h.fleet.shows.set hstands' hrunners (congrArg (List.set · place _) hrelays)
        hquiet.store

theorem runBefore (h : b.Shows ⟨w, others⟩) (hb : b.Sound) (limit : Nat) (until? : Option Nat)
    (fuel : Nat) : ∃ moves, (b.run moves).Shows ⟨w.runBefore limit until? fuel, others⟩ := by
  refine Timeline.runBefore_induction (P := fun w => ∃ moves, (b.run moves).Shows ⟨w, others⟩)
    ?_ ⟨[], h⟩ limit until? fuel
  rintro w' place ⟨first, hshows⟩
  obtain ⟨second, hshows'⟩ := hshows.resumeAt (hb.run first) place
  exact ⟨first ++ second, Ledger.run_append .. ▸ hshows'⟩

/-- A signal does the same in both. -/
theorem signalled (h : b.Shows ⟨w, others⟩) {place : Nat} {g : Switch → Switch} {m : Fleet.Move}
    (hm : b.step m = { b with fleet := b.fleet.change place (·.signal g) }) :
    (b.step m).Shows ⟨w.signalAt place g, others⟩ := by
  rw [hm]
  exact ⟨⟨h.fleet.shows.signalAt place g, h.fleet.others⟩,
    h.figures.trans (w.metrics_signalAt place g).symm, h.idle⟩

theorem step (h : b.Shows c) (hb : b.Sound) (a : Course.Act) :
    ∃ moves, (b.run moves).Shows (c.step a) := by
  cases a with
  | spawn period metered stopped =>
      refine ⟨[.spawn period metered stopped],
        ⟨h.fleet.shows.spawn period metered stopped, h.fleet.others⟩, h.figures, ?_⟩
      intro d hd
      rcases List.mem_append.1 hd with hd | hd
      · exact h.idle d hd
      · rw [List.mem_singleton.1 hd]
  | send place value => exact ⟨[.send place value], h.signalled (m := .send place value) rfl⟩
  | dropSender place => exact ⟨[.close place], h.signalled (m := .close place) rfl⟩
  | client m => exact ⟨[.client m], h.fleet.client m, h.figures, h.idle⟩
  | surround clock delay recorder =>
      have hshows := h.fleet.shows
      exact ⟨[], ⟨⟨hshows.store, hshows.length, hshows.stands⟩, h.fleet.others⟩, h.figures, h.idle⟩
  | advance ms =>
      obtain ⟨moves, hshown⟩ := h.runBefore hb (c.timeline.now + ms) none _
      have hshows := hshown.fleet.shows
      exact ⟨moves, ⟨⟨hshows.store, hshows.length, hshows.stands⟩, hshown.fleet.others⟩,
        hshown.figures, hshown.idle⟩
  | shutdown place =>
      have hsent : (b.step (.send place true)).Shows ⟨c.timeline.send place true, c.others⟩ :=
        h.signalled rfl
      obtain ⟨moves, hshown⟩ := hsent.runBefore (hb.step _) _ (some place) _
      exact ⟨.send place true :: moves, hshown⟩

/-- A course does nothing that a ledger cannot do, and it comes to the same figures. -/
theorem run (h : b.Shows c) (hb : b.Sound) (acts : List Course.Act) :
    ∃ moves, (b.run moves).Shows (c.run acts) := by
  induction acts generalizing b c with
  | nil => exact ⟨[], h⟩
  | cons a acts ih =>
      obtain ⟨first, hshown⟩ := h.step hb a
      obtain ⟨second, hshown'⟩ := ih hshown (hb.run first)
      exact ⟨first ++ second, Ledger.run_append .. ▸ hshown'⟩

end Ledger.Shows

/-! ## What is promised -/

/-- A cycle that is over did to rows and counters what it returned. -/
structure Return.Exact (r : Return) : Prop where
  /-- If its relay counts, a delivery is one transition of a row and is counted once, and so is a
  failure. -/
  sums : ∀ delivered, (r.asked.map (Deed.turns delivered)).sum = r.counts delivered ∧
    (r.asked.map (Deed.counts delivered)).sum = r.counts delivered
  /-- If nothing waited, or if it was an error, none of its questions changed a counter, nor did a
  relay that counts make a transition. -/
  fruitless : r.result = .ok .idle ∨ (∃ e, r.result = .error e) → ∀ x ∈ r.asked, ∀ delivered,
    x.after.metrics.counter delivered = x.site.metrics.counter delivered ∧ x.turns delivered = 0

/-- The counters tell what the cycles of the relays that count returned and did. -/
structure Ledger.CountsExactly (b : Ledger) : Prop where
  /-- While no cycle is in flight, a counter tells how many cycles returned a delivery, or a
  failure, and how many rows that waited became delivered ones, or failed ones. -/
  settled : b.inFlight = 0 → ∀ delivered,
    b.figures.counter delivered = b.returned delivered ∧
      b.returned delivered = b.transitions delivered
  /-- It is never ahead of the transitions, and behind them by the cycles in flight at most. -/
  behind : ∀ delivered, b.figures.counter delivered ≤ b.transitions delivered ∧
    b.transitions delivered ≤ b.figures.counter delivered + b.inFlight
  returns : ∀ r ∈ b.returns, r.Exact
  /-- Every cycle that a relay began returned once, or is in flight. -/
  begun : ∀ (place : Nat) (n : Runner), b.fleet.runners[place]? = some n →
    n.begun = b.cycles place + if n.post.InCycle then 1 else 0

/-- The gauges tell a backlog of the right moment. -/
structure Ledger.GaugesExactly (clock : Instant) (moves : List Fleet.Move) : Prop where
  /-- A gauge changes only when a relay that counts notes it.  It had looked the backlog up between
  the same two cycles of its own, when the number of its cycles that were over, whatever they
  returned, was one of those that call for it; and the gauge tells the backlog of that moment. -/
  noted : ∀ m : Fleet.Move,
    let b := (start clock).run moves
    ((b.step m).figures.pending = b.figures.pending ∧
        (b.step m).figures.oldestAge = b.figures.oldestAge) ∨
      ∃ place past, m = .turn place ∧ LookedUp clock moves past place ∧ ∃ found : Metrics,
        found.Tells ((start clock).run past).fleet.site ∧
          ((b.step m).figures = { b.figures with pending := found.pending } ∨
            (b.step m).figures = { b.figures with oldestAge := found.oldestAge })
  /-- After every such tick the gauges are noted, and they tell the backlog as it stands if nobody
  moves in between. -/
  refreshed : ∀ (place : Nat) (n : Runner) (st : Stage) (result : Except OutboxError Outcome),
    let b := (start clock).run moves
    b.fleet.runners[place]? = some n → n.post = .cycling st (.done result) →
    n.metered = true → backlogTicks ∣ b.cycles place + 1 →
      let b' := b.run [.turn place, .turn place, .turn place, .turn place]
      b'.cycles place = b.cycles place + 1 ∧ b'.fleet.site.store = b.fleet.site.store ∧
        b'.figures.Tells b'.fleet.site ∧
        ∀ delivered, b'.figures.counter delivered = b.figures.counter delivered

namespace Ledger

theorem Sound.return_exact {b : Ledger} (h : b.Sound) {r : Return} (hr : r ∈ b.returns) :
    r.Exact where
  sums := h.exact r hr
  fruitless := by
    intro hresult x hx delivered
    have hnone : r.counts delivered = 0 := by
      rcases hresult with hidle | ⟨e, herror⟩
      · rw [Return.counts, hidle]
        exact ite_self 0
      · rw [Return.counts, herror]
        exact ite_self 0
    obtain ⟨hturns, hcounts⟩ := h.exact r hr delivered
    rw [hnone, List.sum_eq_zero_iff] at hturns hcounts
    refine ⟨?_, hturns _ (List.mem_map_of_mem hx)⟩
    have hcount : x.counts delivered = 0 := hcounts _ (List.mem_map_of_mem hx)
    calc x.after.metrics.counter delivered
        = x.site.metrics.counter delivered + x.counts delivered :=
          x.site.counter_reply x.metered x.query delivered
      _ = x.site.metrics.counter delivered := by rw [hcount, Nat.add_zero]

theorem Sound.countsExactly {b : Ledger} (h : b.Sound) : b.CountsExactly where
  settled := by
    intro hnone delivered
    have hbetween := h.figures_between delivered
    omega
  behind := by
    intro delivered
    have hbetween := h.figures_between delivered
    omega
  returns := fun _ hr => h.return_exact hr
  begun := by
    intro place n hn
    obtain ⟨d, hd, hkeeps⟩ := h.exists_desk hn
    have hticks : d.ticks = b.cycles place := h.ticked place d hd
    rw [hkeeps.ticks, hticks]

/-- **The figures are exact.**  Any number of relays share their figures; whatever the bus refuses
and whichever claims fail, whoever moves next, and wherever in its cycle each relay is, the
counters count exactly and the gauges tell a backlog.

Relays in time do nothing else: what any course comes to, a ledger comes to as well, with the same
figures.  A cycle that is run alone is the first cycle of a relay that does not move any more. -/
theorem figures_exact (clock : Instant) :
    (∀ moves : List Fleet.Move,
      ((start clock).run moves).CountsExactly ∧ GaugesExactly clock moves) ∧
    ∀ (delay : Nat) (acts : List Course.Act), ∃ moves : List Fleet.Move,
      ((start clock).run moves).Shows ((Course.start clock delay).run acts) := by
  refine ⟨fun moves => ?_, fun delay acts => (Shows.start clock delay).run (.start clock) acts⟩
  have hsound := (Sound.start clock).run moves
  refine ⟨hsound.countsExactly, gauges_of_run clock moves, fun place n st result hn post => ?_⟩
  exact hsound.gauges_after_tick hn post

/-- Of three envelopes a relay delivers one, and the bus refuses one; the last is claimed by someone
else.  After eighteen more cycles, for which nothing waits, the gauges tell that one envelope waits
and that it is seven seconds old. -/
theorem figures_exact_after_twenty :
    let event : NewEnvelope := ⟨"events", .null⟩
    let refusing : Timeline := { Timeline.start ⟨7, 0⟩ 0 with recorder := ⟨[], 1, []⟩ }
    let begin : List Fleet.Move := [.look 0, .poll 0 true .tick]
    let moves : List Fleet.Move :=
      [.client (.append ⟨0, 0⟩ [event, event, event]), .spawn 5 true false, .launch 0] ++
      begin ++ List.replicate 7 (.turn 0) ++ [.elsewhere refusing] ++
      begin ++ List.replicate 7 (.turn 0) ++ [.client .claim] ++
      (List.replicate 18 (begin ++ [.turn 0, .turn 0])).flatten ++ List.replicate 3 (.turn 0)
    let b := (start ⟨0, 0⟩).run moves
    b.figures = ⟨1, 7, 1, 1⟩ ∧ b.inFlight = 0 ∧
      ∀ delivered, b.returned delivered = 1 ∧ b.transitions delivered = 1 := by
  intro event refusing begin moves b
  have hfigures : b.figures = ⟨1, 7, 1, 1⟩ := by decide +kernel +revert
  have hnone : b.inFlight = 0 := by decide +kernel +revert
  refine ⟨hfigures, hnone, fun delivered => ?_⟩
  obtain ⟨hreturned, htransitions⟩ :=
    ((figures_exact ⟨0, 0⟩).1 moves).1.settled hnone delivered
  rw [show ((start ⟨0, 0⟩).run moves).figures = ⟨1, 7, 1, 1⟩ from hfigures] at hreturned
  have hone : b.returned delivered = 1 := by
    cases delivered <;> exact hreturned.symm
  exact ⟨hone, htransitions.symm.trans hone⟩

end Ledger

end Accounts.Outbox
