import Accounts.Proofs.Outbox.Shutdown
import Mathlib
/-!
# Relays that nobody can tell to stop

When the last who could send a value is gone, that is a signal, and a relay that takes it ends.  But
the switch does not say that the relay shall stop, so it is not noticed when the relay looks at its
switch: a tick that is due may be taken first.  A bus that is slower than the ticks makes one due
after every cycle.

So every tick that is taken first is a cycle more, and there is no bound on them
(`Fleet.abandoned_relay`).  A relay that is told to stop begins one cycle more at most, because it
looks at its switch before it waits (`Fleet.run_begun_le`).  In a timeline, where ticks are taken
first, it is the time that the bus takes which decides (`Timeline.resume_of_closed`).
-/

namespace Accounts.Outbox

namespace Switch

variable {s : Switch} {ticked : Bool} {p : Preference}

/-- When nobody can send a value any more, a cycle begins only with a tick that is taken first. -/
theorem tick_of_select (closed : s.closed = true) (h : s.select ticked p = .cycle) :
    ticked = true ∧ p = .tick := by
  unfold select at h
  cases ticked <;> cases p <;> grind

/-- Without such a tick it ends, or takes note of a value that it did not see. -/
theorem select_of_closed (closed : s.closed = true) (h : (ticked && p == .tick) = false) :
    s.select ticked p = if s.changed && !s.on then .lookAgain else .stop := by
  have hsignal : ((s.changed || s.closed) && (p == .signal || !ticked)) = true := by
    cases ticked <;> cases p <;> simp_all
  rw [select, if_pos hsignal]

end Switch

namespace Fleet

/-- The relay at a place takes a tick that is due, whatever else is there. -/
def Move.takesTick (place : Nat) : Move → Bool
  | .poll k ticked p => k == place && ticked && p == .tick
  | _ => false

end Fleet

namespace Runner.Steps

variable {place : Nat} {site : Timeline} {m : Fleet.Move} {n n' : Runner} {new : List Deed}

/-- Once nobody can send a value, that stays so, and a relay begins one cycle with every tick that
it takes. -/
theorem begun_le_of_closed (s : n.Steps place site m new n') (closed : n.switch.closed = true) :
    n'.switch.closed = true ∧ n'.begun ≤ n.begun + (m.takesTick place).toNat := by
  cases s with
  | began post decision =>
      obtain ⟨rfl, rfl⟩ := Switch.tick_of_select closed decision
      refine ⟨closed, ?_⟩
      simp [Fleet.Move.takesTick]
  | closed => exact ⟨rfl, Nat.le_add_right _ _⟩
  | idle | sent | launched | failed | told | settled | stopped | noted | asked | finished =>
      exact ⟨closed, Nat.le_add_right _ _⟩

end Runner.Steps

namespace Fleet

variable {f : Fleet} {place : Nat} {n : Runner}

/-! ## As many cycles as ticks -/

theorem run_begun_le_of_closed (hn : f.runners[place]? = some n) (closed : n.switch.closed = true)
    (later : List Move) :
    ∃ n', (f.run later).runners[place]? = some n' ∧
      n'.begun ≤ n.begun + later.countP (Move.takesTick place) := by
  induction later generalizing f n with
  | nil => exact ⟨n, hn, Nat.le_refl _⟩
  | cons m later ih =>
      obtain ⟨k, new, hk, -, hsteps⟩ := step_runner hn m
      obtain ⟨hkclosed, hle⟩ := hsteps.begun_le_of_closed closed
      obtain ⟨n', hn', hle'⟩ := ih hk hkclosed
      refine ⟨n', hn', ?_⟩
      have hcount : (m :: later).countP (Move.takesTick place) =
          later.countP (Move.takesTick place) + (m.takesTick place).toNat := by
        cases h : m.takesTick place <;> simp [h]
      omega

theorem runner_change_self (hn : f.runners[place]? = some n) (g : Runner → Runner) :
    (f.change place g).runners[place]? = some (g n) := by
  rw [runners_change hn]
  exact List.getElem?_set_self (List.getElem?_eq_some_iff.1 hn).1

theorem poll_of_closed (hn : f.runners[place]? = some n) (hpost : n.post = .waiting)
    (closed : n.switch.closed = true) {ticked : Bool} {p : Preference}
    (h : (Move.poll place ticked p).takesTick place = false) :
    (f.step (.poll place ticked p)).runners[place]? =
      some (n.follow (if n.switch.changed && !n.switch.on then .lookAgain else .stop)) := by
  have htick : (ticked && p == .tick) = false := by simpa [Move.takesTick] using h
  have hpoll : n.poll ticked p =
      n.follow (if n.switch.changed && !n.switch.on then .lookAgain else .stop) := by
    simp only [Runner.poll, hpost, Switch.select_of_closed closed htick]
  rw [← hpoll]
  exact runner_change_self hn (·.poll ticked p)

/-! ## As many ticks as one likes -/

/-- By moves of its own the relay at a place can become another one. -/
def Leads (f : Fleet) (place : Nat) (n' : Runner) : Prop :=
  ∃ later : List Move, (∀ m ∈ later, m.By place) ∧ (f.run later).runners[place]? = some n'

namespace Leads

variable {n' n'' : Runner}

theorem refl (hn : f.runners[place]? = some n) : f.Leads place n := ⟨[], by simp, hn⟩

theorem step {m : Move} (hm : m.By place) (hn' : (f.step m).runners[place]? = some n') :
    f.Leads place n' :=
  ⟨[m], by simpa using hm, hn'⟩

theorem trans (h : f.Leads place n')
    (h' : ∀ g : Fleet, g.runners[place]? = some n' → g.Leads place n'') : f.Leads place n'' := by
  obtain ⟨first, hfirst, hn'⟩ := h
  obtain ⟨second, hsecond, hn''⟩ := h' _ hn'
  exact ⟨first ++ second, List.forall_mem_append.2 ⟨hfirst, hsecond⟩, by rwa [run_append]⟩

variable {metered : Bool} {switch : Switch} {begun : Nat}

/-- A cycle comes to its end, whatever is replied. -/
theorem looking (st : Stage) (rest : Relaying (Except OutboxError Outcome))
    (hn : f.runners[place]? = some ⟨metered, switch, .cycling st rest, begun⟩) :
    f.Leads place ⟨metered, switch, .looking, begun⟩ := by
  have hlt := (List.getElem?_eq_some_iff.1 hn).1
  have hturn : (Move.turn place).By place := rfl
  induction rest generalizing f st with
  | done result =>
      refine .step hturn ?_
      simp only [Fleet.step, turn, hn]
      exact List.getElem?_set_self hlt
  | ask q next ih =>
      let r := (f.site.reply metered q).1
      have hasked : (f.step (.turn place)).runners[place]? =
          some ⟨metered, switch, .cycling (st.after q r) (next r), begun⟩ := by
        simp only [Fleet.step, turn, hn]
        exact List.getElem?_set_self hlt
      exact (Leads.step hturn hasked).trans fun g hg =>
        ih r (st.after q r) hg (List.getElem?_eq_some_iff.1 hg).1

/-- A relay that is not told to stop comes to wait, unless it cannot tick. -/
theorem waiting (hn : f.runners[place]? = some n) (off : n.switch.on = false)
    (runs : n.hasEnded = false) (ticks : n.post ≠ .fresh 0) :
    f.Leads place { n with post := .waiting } := by
  have hlook : ∀ g : Fleet, g.runners[place]? = some { n with post := .looking } →
      g.Leads place { n with post := .waiting } := by
    intro g hg
    have hsettled := runner_change_self hg Runner.look
    simp only [Runner.look, off, Bool.false_eq_true, if_false] at hsettled
    exact .step (m := .look place) rfl hsettled
  obtain ⟨metered, switch, post, begun⟩ := n
  cases post with
  | fresh period =>
      have hlaunched := runner_change_self hn Runner.launch
      have hpos : 0 < period := Nat.pos_of_ne_zero fun hzero => ticks (hzero ▸ rfl)
      simp only [Runner.launch, hpos, if_true] at hlaunched
      exact (Leads.step (m := .launch place) rfl hlaunched).trans hlook
  | looking => exact hlook f hn
  | waiting => exact .refl hn
  | cycling st rest => exact (looking st rest hn).trans hlook
  | ended orderly => cases runs

/-- With a tick that is taken first, a relay begins a cycle and waits again. -/
theorem cycle (hn : f.runners[place]? = some n) (off : n.switch.on = false)
    (hpost : n.post = .waiting) :
    f.Leads place { n with begun := n.begun + 1 } := by
  have hdecision : n.switch.select true .tick = .cycle := by simp [Switch.select]
  have hbegan := runner_change_self hn (·.poll true .tick)
  simp only [Runner.poll, hpost, hdecision, Runner.follow] at hbegan
  have hsame : { n with begun := n.begun + 1 } =
      (⟨n.metered, n.switch, .waiting, n.begun + 1⟩ : Runner) := by rw [← hpost]
  have hcycling : Post.cycling .free Outbox.cycle ≠ .fresh 0 := by
    intro heq
    cases heq
  rw [hsame]
  exact (Leads.step (m := .poll place true .tick) rfl hbegan).trans fun g hg =>
    waiting hg off rfl hcycling

theorem cycles (hn : f.runners[place]? = some n) (off : n.switch.on = false)
    (hpost : n.post = .waiting) (k : Nat) : f.Leads place { n with begun := n.begun + k } := by
  induction k generalizing f n with
  | zero => exact .refl hn
  | succ k ih =>
      have hmore := (cycle hn off hpost).trans fun g hg => ih hg off hpost
      rwa [Nat.add_assoc, Nat.add_comm 1 k] at hmore

end Leads

/-- **A relay that nobody can tell to stop ends with the first signal that it takes, and not with
the first cycle.**  From the moment when the last who could send it a value is gone, it begins no
more cycles than the ticks that it takes although that signal is there.  If it takes no tick, it
ends, or it takes note of a value that was sent before and looks at its switch again.  But if the
last value does not say that it shall stop, then there are runs in which it begins as many cycles
as one likes, and still goes on. -/
theorem abandoned_relay (hn : f.runners[place]? = some n) (closed : n.switch.closed = true) :
    (∀ later : List Move, ∃ n', (f.run later).runners[place]? = some n' ∧
      n'.begun ≤ n.begun + later.countP (Move.takesTick place)) ∧
    (n.post = .waiting → ∀ ticked p, (Move.poll place ticked p).takesTick place = false →
      (f.step (.poll place ticked p)).runners[place]? =
        some (n.follow (if n.switch.changed && !n.switch.on then .lookAgain else .stop))) ∧
    (n.switch.on = false → n.hasEnded = false → n.post ≠ .fresh 0 →
      ∀ k, ∃ later : List Move, (∀ m ∈ later, m.By place) ∧
        ∃ n', (f.run later).runners[place]? = some n' ∧ n'.begun = n.begun + k ∧
          n'.hasEnded = false) := by
  refine ⟨run_begun_le_of_closed hn closed, fun hpost ticked p => poll_of_closed hn hpost closed,
    fun off runs ticks k => ?_⟩
  obtain ⟨later, hby, hrun⟩ :=
    (Leads.waiting hn off runs ticks).trans fun g hg => Leads.cycles hg off rfl k
  exact ⟨later, hby, _, hrun, rfl, rfl⟩

/-- A relay that loses its sender in its first cycle: two cycles more take two ticks, and there is
a run in which it begins two. -/
theorem abandoned_relay_in_first_cycle :
    let f := (start ⟨0, 0⟩).run [.client (.append ⟨0, 0⟩ [⟨"events", .null⟩]),
      .spawn 10 false false, .launch 0, .look 0, .poll 0 true .tick, .close 0]
    f.runners[0]? = some ⟨false, ⟨false, false, true⟩, .cycling .free cycle, 1⟩ ∧
    (∀ later : List Move, ∃ n', (f.run later).runners[0]? = some n' ∧
      n'.begun ≤ 1 + later.countP (Move.takesTick 0)) ∧
    ∃ later : List Move, (∀ m ∈ later, m.By 0) ∧
      ∃ n', (f.run later).runners[0]? = some n' ∧ n'.begun = 3 ∧ n'.hasEnded = false := by
  intro f
  have hn : f.runners[0]? = some ⟨false, ⟨false, false, true⟩, .cycling .free cycle, 1⟩ := rfl
  obtain ⟨hbound, -, hmore⟩ := abandoned_relay hn rfl
  exact ⟨hn, hbound, hmore rfl rfl nofun 2⟩

end Fleet

/-! ## In time -/

namespace Timeline

variable {now : Nat} {w : Timeline} {r : Relay} {ticker : Ticker}

/-- A relay does not forget the cycles that it began. -/
theorem ticks_le_begun_loop (now : Nat) (w : Timeline) (r : Relay) (ticker : Ticker) :
    r.ticks ≤ (loop now w r ticker).1.begun := by
  fun_induction loop now w r ticker with
  | case1 w r ticker h => exact Nat.le_refl _
  | case2 w r ticker h => exact Nat.le_refl _
  | case3 w r ticker h ih => exact ih
  | case4 w r ticker h result w₁ hproceed r₂ w₂ hafter ih =>
      obtain rfl : { r with ticks := r.ticks + 1 } = r₂ := congrArg Prod.fst hafter
      exact Nat.le_of_succ_le ih
  | case5 w r ticker h m next w₁ hproceed => exact Nat.le_succ _

/-- A tick that is due is a cycle, if the switch does not say that the relay shall stop. -/
theorem begun_loop_of_due (off : r.switch.on = false) (hdue : ticker.due ≤ now) :
    r.ticks + 1 ≤ (loop now w r ticker).1.begun := by
  have henter : r.switch.enter (ticker.due ≤ now) .tick = .cycle := by
    simp [Switch.enter, Switch.select, off, hdue]
  fun_induction loop now w r ticker with
  | case1 w r ticker h | case2 w r ticker h | case3 w r ticker h =>
      rw [henter] at h
      cases h
  | case4 w r ticker h result w₁ hproceed r₂ w₂ hafter =>
      obtain rfl : { r with ticks := r.ticks + 1 } = r₂ := congrArg Prod.fst hafter
      exact ticks_le_begun_loop now w₂ { r with ticks := r.ticks + 1 } (ticker.next now)
  | case5 w r ticker h m next w₁ hproceed => exact Nat.le_refl _

/-- Without a tick that is due, a relay that nobody can tell to stop ends. -/
theorem loop_of_closed (closed : r.switch.closed = true) (seen : r.switch.changed = false)
    (hearly : now < ticker.due) : loop now w r ticker = ({ r with phase := .ended true }, w) := by
  have henter : r.switch.enter (ticker.due ≤ now) .tick = .stop := by
    simp [Switch.enter, Switch.select, closed, seen, Nat.not_le.2 hearly]
  fun_induction loop now w r ticker with
  | case1 w r ticker h => rfl
  | case2 w r ticker h | case3 w r ticker h | case4 w r ticker h | case5 w r ticker h =>
      rw [henter] at h
      cases h

/-- A relay that loses its sender while it waits for the bus ends with its cycle if the bus was
faster than the ticks.  Otherwise a tick is due, and it begins another cycle. -/
theorem resume_of_closed (w : Timeline) {m : Message}
    {next : Except OutboxError Unit → Relaying (Except OutboxError Outcome)}
    (hphase : r.phase = .publishing ticker m next) (once : ∀ x, AsksNo RelayCall.isPublish (next x))
    (off : r.switch.on = false) (closed : r.switch.closed = true)
    (seen : r.switch.changed = false) :
    (w.now < ticker.due →
      (w.resume r).1.phase = .ended true ∧ (w.resume r).1.begun = r.begun) ∧
    (ticker.due ≤ w.now → r.begun + 1 ≤ (w.resume r).1.begun) := by
  obtain ⟨result, w₁, -, -, hresume⟩ := w.resume_publishing hphase once
  have hbegun : r.begun = r.ticks + 1 := by rw [Relay.begun, hphase]
  rw [hresume, hbegun]
  refine ⟨fun hearly => ?_, fun hdue => ?_⟩
  · rw [loop_of_closed (r := { r with ticks := r.ticks + 1 }) closed seen hearly]
    exact ⟨rfl, rfl⟩
  · exact begun_loop_of_due (r := { r with ticks := r.ticks + 1 }) off hdue

end Timeline

namespace Course

/-- A bus that takes ten times as long as the ticks.  The relay loses its sender while it waits for
the bus in its first cycle, and nobody told it to stop; it delivers all that waits, and begins
three cycles more. -/
theorem abandoned_relay_delivers_backlog :
    let before := (start ⟨0, 0⟩ 100).run [
      .client (.append ⟨0, 0⟩ (List.replicate 3 ⟨"events", .null⟩)), .spawn 10 false false,
      .advance 50, .dropSender 0]
    let after := before.run [.advance 300]
    before.timeline.relays.map (fun r => (r.switch, r.begun)) = [(⟨false, false, true⟩, 1)] ∧
    after.timeline.relays.map (fun r => (r.switch, r.begun)) = [(⟨false, false, true⟩, 4)] ∧
    after.timeline.store.rows.map (·.status) = [.done, .done, .done] := by
  cbv

end Course

end Accounts.Outbox
