import Accounts.Proofs.Outbox.Pace
import Mathlib.Algebra.Group.Action.Defs
import Mathlib.Algebra.Order.BigOperators.Group.List
import Mathlib.Algebra.Order.Ring.Nat
/-!
# Orderly shutdown

A relay that is told to stop begins one cycle more at most, ends between two cycles, and leaves
no claim behind.  That holds of a fleet, so at any pace and whichever of a tick and a signal is
taken (`orderly_shutdown`).  A `Course` is a timeline with others who work on its outbox; what
it does, a fleet does too (`Fleet.Shows.run`).

That a shutdown comes to its end in a timeline is a matter of counting: no relay goes on twice in
a millisecond (`Timeline.load`), so the relay that is told to stop has its turn, and it ends then.
-/

namespace Accounts.Outbox

namespace Switch

variable {s : Switch} {ticked : Bool} {p : Preference}

/-- A relay waits only when no tick is due. -/
theorem not_ticked_of_enter (h : s.enter ticked p = .wait) : ticked = false := by
  unfold enter select at h
  cases ticked with
  | false => rfl
  | true => grind

end Switch

namespace Timeline

/-! ## Who goes on next -/

/-- The one that goes on first of the best so far and another one. -/
def better (limit : Nat) (best : Option (Relay × Nat)) (x : Relay × Nat) : Option (Relay × Nat) :=
  if x.1.wakesBefore limit then
    match best with
    | some (b, _) => if Relay.goesBefore b x.1 then best else some x
    | none => some x
  else best

theorem next?_eq (limit : Nat) (relays : List Relay) :
    next? limit relays = (relays.zipIdx.foldl (better limit) none).map Prod.snd := rfl

/-- The best of some relays is one of them that goes on before the millisecond. -/
theorem foldl_better_some {limit : Nat} {xs : List (Relay × Nat)} {best : Option (Relay × Nat)}
    (hbest : ∀ x, best = some x → x.1.wakesBefore limit = true) {x : Relay × Nat}
    (h : xs.foldl (better limit) best = some x) :
    (x ∈ xs ∨ best = some x) ∧ x.1.wakesBefore limit = true := by
  induction xs generalizing best with
  | nil => exact ⟨.inr h, hbest x h⟩
  | cons y xs ih =>
      have hnew : ∀ z, better limit best y = some z →
          (z = y ∨ best = some z) ∧ z.1.wakesBefore limit = true := by
        intro z hz
        unfold better at hz
        split at hz
        · next hy =>
            split at hz
            · split at hz
              · exact ⟨.inr hz, hbest z hz⟩
              · cases hz
                exact ⟨.inl rfl, hy⟩
            · cases hz
              exact ⟨.inl rfl, hy⟩
        · exact ⟨.inr hz, hbest z hz⟩
      obtain ⟨hmem, hwakes⟩ := ih (fun z hz => (hnew z hz).2) h
      refine ⟨?_, hwakes⟩
      rcases hmem with hmem | hbetter
      · exact .inl (List.mem_cons_of_mem y hmem)
      · rcases (hnew x hbetter).1 with rfl | hold
        · exact .inl List.mem_cons_self
        · exact .inr hold

theorem foldl_better_none {limit : Nat} {xs : List (Relay × Nat)} {best : Option (Relay × Nat)}
    (h : xs.foldl (better limit) best = none) :
    best = none ∧ ∀ x ∈ xs, x.1.wakesBefore limit = false := by
  induction xs generalizing best with
  | nil => exact ⟨h, by simp⟩
  | cons y xs ih =>
      obtain ⟨hnone, hrest⟩ := ih h
      unfold better at hnone
      split at hnone
      · split at hnone
        · split at hnone <;> cases hnone
        · cases hnone
      · next hy =>
          refine ⟨hnone, ?_⟩
          intro x hx
          rcases List.mem_cons.1 hx with rfl | hx
          · exact eq_false_of_ne_true hy
          · exact hrest x hx

theorem next?_some {limit : Nat} {relays : List Relay} {place : Nat}
    (h : next? limit relays = some place) :
    ∃ r, relays[place]? = some r ∧ r.wakesBefore limit = true := by
  rw [next?_eq] at h
  obtain ⟨⟨r, k⟩, hx, rfl⟩ := Option.map_eq_some_iff.1 h
  obtain ⟨hmem, hwakes⟩ := foldl_better_some (by simp) hx
  rcases hmem with hmem | hnone
  · exact ⟨r, List.mem_zipIdx_iff_getElem?.1 hmem, hwakes⟩
  · cases hnone

theorem next?_none {limit : Nat} {relays : List Relay} (h : next? limit relays = none) {r : Relay}
    (hr : r ∈ relays) : r.wakesBefore limit = false := by
  rw [next?_eq] at h
  obtain ⟨k, hk⟩ := List.getElem?_of_mem hr
  exact (foldl_better_none (Option.map_eq_none_iff.1 h)).2 (r, k)
    (List.mem_zipIdx_iff_getElem?.2 hk)

/-! ## When a relay goes on -/

/-- A relay that looks at its switch ends, or waits until later. -/
theorem loop_wake (now : Nat) (w : Timeline) (r : Relay) (ticker : Ticker) :
    (loop now w r ticker).1.hasEnded = true ∨ now < (loop now w r ticker).1.wake := by
  fun_induction loop now w r ticker with
  | case1 w r ticker h => exact .inl rfl
  | case2 w r ticker h =>
      have hlate := of_decide_eq_false (Switch.not_ticked_of_enter h)
      exact .inr (Nat.lt_of_not_le hlate)
  | case3 w r ticker h ih => exact ih
  | case4 w r ticker h result w₁ hproceed r₂ w₂ hafter ih => exact ih
  | case5 w r ticker h m next w₁ hproceed =>
      have hdelay := (proceed_publishing asksOnce_publish_cycle hproceed).1
      refine .inr ?_
      show now < now + w₁.delay
      omega

/-- A relay that is told to stop ends when it looks at its switch. -/
theorem loop_of_on {now : Nat} {w : Timeline} {r : Relay} {ticker : Ticker}
    (on : r.switch.on = true) : (loop now w r ticker).1.hasEnded = true := by
  have hstop : r.switch.enter (ticker.due ≤ now) .tick = .stop := by
    rw [Switch.enter, if_pos on]
  fun_induction loop now w r ticker with
  | case1 w r ticker h => rfl
  | case2 | case3 | case4 | case5 => simp_all

variable {w : Timeline} {r : Relay} {n : Runner} {place limit : Nat}

/-- A relay that goes on ends, or waits until later. -/
theorem resume_wake (w : Timeline) (h : r.Stands n) :
    (w.resume r).1.hasEnded = true ∨ w.now < (w.resume r).1.wake := by
  obtain ⟨metered, ticks, switch, phase, wake, turn⟩ := r
  have hpost := h.post
  generalize n.post = post at hpost
  cases hpost with
  | fresh period =>
      unfold resume
      dsimp only
      split
      · exact loop_wake ..
      · exact .inl rfl
  | waiting ticker => exact loop_wake ..
  | publishing ticker st m next once =>
      obtain ⟨result, w₁, -, -, hresume⟩ := w.resume_publishing
        (r := ⟨metered, ticks, switch, .publishing ticker m next, wake, turn⟩) rfl once
      rw [hresume]
      exact loop_wake ..
  | ended orderly => exact .inl rfl

/-- A relay that is told to stop ends when it goes on. -/
theorem resume_of_on (w : Timeline) (h : r.Stands n) (on : r.switch.on = true) :
    (w.resume r).1.hasEnded = true := by
  obtain ⟨metered, ticks, switch, phase, wake, turn⟩ := r
  have hpost := h.post
  generalize n.post = post at hpost
  cases hpost with
  | fresh period =>
      unfold resume
      dsimp only
      split
      · exact loop_of_on on
      · rfl
  | waiting ticker => exact loop_of_on on
  | publishing ticker st m next once =>
      obtain ⟨result, w₁, -, -, hresume⟩ := w.resume_publishing
        (r := ⟨metered, ticks, switch, .publishing ticker m next, wake, turn⟩) rfl once
      rw [hresume]
      exact loop_of_on on
  | ended orderly => rfl

theorem resume_of_hasEnded (w : Timeline) (h : r.hasEnded = true) : w.resume r = (r, w) := by
  obtain ⟨metered, ticks, switch, phase, wake, turn⟩ := r
  cases phase with
  | ended orderly => rfl
  | fresh | waiting | publishing => cases h

/-- The relay at a place goes on, and time comes to where it goes on. -/
theorem resumeAt_eq (hr : w.relays[place]? = some r) :
    (w.resumeAt place).now = max w.now r.wake ∧
      (w.resumeAt place).relays =
        w.relays.set place (({ w with now := max w.now r.wake } : Timeline).resume r).1 := by
  have hsame := ({ w with now := max w.now r.wake } : Timeline).sameMoment_resume r
  unfold resumeAt
  simp only [hr]
  exact ⟨hsame.now, congrArg (List.set · place _) hsame.relays⟩

/-! ## How often relays go on -/

/-- How often a relay goes on before a millisecond, at most. -/
def share (limit now : Nat) (r : Relay) : Nat :=
  if r.wakesBefore limit then limit - max r.wake now + 1 else 0

/-- How often all relays together go on before a millisecond, at most. -/
def load (w : Timeline) (limit : Nat) : Nat := (w.relays.map (share limit w.now)).sum

theorem share_mono {now now' : Nat} (h : now ≤ now') (r : Relay) :
    share limit now' r ≤ share limit now r := by
  unfold share
  split <;> omega

/-- A relay that goes on has used up some of its share. -/
theorem share_resumed {r' : Relay} {now : Nat} (hwakes : r.wakesBefore limit = true)
    (h : r'.hasEnded = true ∨ max now r.wake < r'.wake) :
    share limit (max now r.wake) r' < share limit now r := by
  have hlimit : r.wake < limit := by
    simp only [Relay.wakesBefore, Bool.and_eq_true, decide_eq_true_eq] at hwakes
    exact hwakes.2
  unfold share
  rw [if_pos hwakes]
  split
  · next hagain =>
      simp only [Relay.wakesBefore, Bool.and_eq_true, Bool.not_eq_true',
        decide_eq_true_eq] at hagain
      rcases h with hended | hlater
      · rw [hended] at hagain
        cases hagain.1
      · omega
  · omega

/-- Whoever goes on, less is left to do. -/
theorem load_resumeAt (hr : w.relays[place]? = some r) (hwakes : r.wakesBefore limit = true)
    (h : r.Stands n) : (w.resumeAt place).load limit < w.load limit := by
  obtain ⟨hnow, hrelays⟩ := resumeAt_eq hr
  have hafter := perm_set hr (({ w with now := max w.now r.wake } : Timeline).resume r).1
  unfold load
  rw [hnow, hrelays, (hafter.map _).sum_eq, ((perm_at hr).map _).sum_eq, List.map_cons,
    List.map_cons, List.sum_cons, List.sum_cons]
  refine Nat.add_lt_add_of_lt_of_le ?_ ?_
  · exact share_resumed hwakes (resume_wake _ h)
  · exact List.sum_le_sum fun x _ => share_mono (Nat.le_max_left _ _) x

theorem load_le_eventBound (w : Timeline) (limit : Nat) : w.load limit ≤ w.eventBound limit := by
  have hshare : ∀ x ∈ w.relays.map (share limit w.now), x ≤ limit - w.now + 2 := by
    intro x hx
    obtain ⟨r, -, rfl⟩ := List.mem_map.1 hx
    unfold share
    split <;> omega
  have hsum := List.sum_le_card_nsmul _ _ hshare
  rwa [List.length_map, smul_eq_mul] at hsum

theorem not_wakesBefore_of_load (h : w.load limit = 0) (hr : r ∈ w.relays) :
    r.wakesBefore limit = false := by
  have hzero : share limit w.now r = 0 :=
    List.sum_eq_zero_iff.1 h _ (List.mem_map_of_mem hr)
  unfold share at hzero
  split at hzero
  · omega
  · next hnot => exact eq_false_of_ne_true hnot

/-- Time that may pass does pass: in the end the relay that is waited for ended, or nobody goes
on before the millisecond. -/
theorem runBefore_done {f : Fleet} (hf : f.Sound) (hshows : f.Shows w) (until? : Option Nat)
    {fuel : Nat} (hfuel : w.load limit ≤ fuel) :
    (until?.bind ((runBefore limit until? fuel w).relays[·]?)).any Relay.hasEnded = true ∨
      ∀ r ∈ (runBefore limit until? fuel w).relays, r.wakesBefore limit = false := by
  induction fuel generalizing f w with
  | zero => exact .inr fun r hr => not_wakesBefore_of_load (Nat.le_zero.1 hfuel) hr
  | succ fuel ih =>
      rw [runBefore]
      split
      · next hended => exact .inl hended
      · split
        · next hnone => exact .inr fun r hr => next?_none hnone hr
        · next place hnext =>
            obtain ⟨r, hr, hwakes⟩ := next?_some hnext
            obtain ⟨n, -, hstands⟩ := hshows.exists_runner hr
            obtain ⟨moves, -, -, hshows'⟩ := hshows.resumeAt hf place
            -- whoever goes on has used up some of its share, so the fuel suffices for the rest
            have hless := load_resumeAt hr hwakes hstands
            exact ih (hf.run moves) hshows' (by omega)

/-! ## A shutdown comes to its end -/

/-- A relay that is sent that it shall stop ended before, or its switch says so now. -/
theorem relay_send (hr : w.relays[place]? = some r) :
    ∃ r', (w.send place true).relays[place]? = some r' ∧
      (r'.hasEnded = true ∨ r'.switch.on = true) := by
  have hlt := (List.getElem?_eq_some_iff.1 hr).1
  unfold send signalAt
  simp only [hr]
  split
  · next hended => exact ⟨r, hr, .inl hended⟩
  · split
    · exact ⟨_, List.getElem?_set_self hlt, .inr rfl⟩
    · exact ⟨_, List.getElem?_set_self hlt, .inr rfl⟩

/-- A relay that is told to stop stays as it is while others go on, and ends when it goes on. -/
theorem relay_resumeAt {f : Fleet} (hshows : f.Shows w) (hr : w.relays[place]? = some r)
    (hstop : r.hasEnded = true ∨ r.switch.on = true) (who : Nat) :
    ∃ r', (w.resumeAt who).relays[place]? = some r' ∧ (r' = r ∨ r'.hasEnded = true) := by
  cases hk : w.relays[who]? with
  | none =>
      refine ⟨r, ?_, .inl rfl⟩
      rw [resumeAt, hk]
      exact hr
  | some k =>
      rw [(resumeAt_eq hk).2]
      by_cases hwho : who = place
      · subst hwho
        obtain rfl : k = r := Option.some.inj (hk.symm.trans hr)
        refine ⟨_, List.getElem?_set_self (List.getElem?_eq_some_iff.1 hr).1, .inr ?_⟩
        rcases hstop with hended | on
        · rw [resume_of_hasEnded _ hended]
          exact hended
        · obtain ⟨n, -, hstands⟩ := hshows.exists_runner hr
          exact resume_of_on _ hstands on
      · exact ⟨r, (List.getElem?_set_ne hwho).trans hr, .inl rfl⟩

/-- When a shutdown is over, the relay ended. -/
theorem shutdown_ends {f : Fleet} (hf : f.Sound) (hshows : f.Shows w)
    (hr : w.relays[place]? = some r) :
    ∃ r', (w.shutdown place).relays[place]? = some r' ∧ r'.hasEnded = true := by
  obtain ⟨told, htold, hstop⟩ := relay_send hr
  have hshown : (f.step (.send place true)).Shows (w.send place true) :=
    hshows.signalAt place (·.send true)
  have hlimit : ((w.send place true).relays[place]?).elim (w.send place true).now Relay.wake =
      told.wake := by
    rw [htold]
    rfl
  unfold shutdown
  simp only [hlimit]
  -- the relay is as it was told, or it ended, whoever went on
  have hstays := runBefore_induction
    (P := fun w' => (∃ f : Fleet, f.Sound ∧ f.Shows w') ∧
      ∃ r', w'.relays[place]? = some r' ∧ (r' = told ∨ r'.hasEnded = true))
    (by
      rintro w' who ⟨⟨f', hf', hshows'⟩, r', hr', hcases⟩
      obtain ⟨moves, -, -, hnext⟩ := hshows'.resumeAt hf' who
      refine ⟨⟨_, hf'.run moves, hnext⟩, ?_⟩
      have hstop' : r'.hasEnded = true ∨ r'.switch.on = true := by
        rcases hcases with rfl | hended
        · exact hstop
        · exact .inl hended
      obtain ⟨r'', hr'', hcases'⟩ := relay_resumeAt hshows' hr' hstop' who
      refine ⟨r'', hr'', ?_⟩
      rcases hcases' with rfl | hended
      · exact hcases
      · exact .inr hended)
    ⟨⟨_, hf.step (.send place true), hshown⟩, told, htold, .inl rfl⟩
    (told.wake + 1) (some place) ((w.send place true).eventBound (told.wake + 1))
  obtain ⟨-, r', hr', hcases⟩ := hstays
  refine ⟨r', hr', ?_⟩
  rcases runBefore_done (hf.step (.send place true)) hshown (some place)
    (load_le_eventBound (w.send place true) (told.wake + 1)) with hended | hnobody
  · rw [Option.bind_some, hr'] at hended
    exact hended
  · rcases hcases with rfl | hended
    · have hwakes := hnobody r' (List.mem_of_getElem? hr')
      simpa [Relay.wakesBefore] using hwakes
    · exact hended

end Timeline

/-! ## Courses -/

/-- A timeline, and others who work on its outbox. -/
structure Course where
  timeline : Timeline
  /-- The live claims of others. -/
  others : List Claim

namespace Course

/-- What is done from outside. -/
inductive Act
  | spawn (period : Nat) (metered stopped : Bool)
  | send (place : Nat) (value : Bool)
  | dropSender (place : Nat)
  | shutdown (place : Nat)
  | advance (ms : Nat)
  /-- Others work on the outbox. -/
  | client (move : Clients.Move)
  /-- The clock is set, the bus gets slower or faster, or becomes another one. -/
  | surround (clock : Instant) (delay : Nat) (recorder : Recorder)

def start (clock : Instant) (delay : Nat) : Course := ⟨.start clock delay, []⟩

def step (c : Course) : Act → Course
  | .spawn period metered stopped =>
    { c with timeline := c.timeline.spawn period metered stopped }
  | .send place value => { c with timeline := c.timeline.send place value }
  | .dropSender place => { c with timeline := c.timeline.dropSender place }
  | .shutdown place => { c with timeline := c.timeline.shutdown place }
  | .advance ms => { c with timeline := c.timeline.advance ms }
  | .client m =>
    let s := (⟨c.timeline.store, c.others⟩ : Clients).step m
    ⟨{ c.timeline with store := s.store }, s.claims⟩
  | .surround clock delay recorder =>
    { c with timeline := { c.timeline with clock, delay, recorder } }

def run (c : Course) (acts : List Act) : Course := acts.foldl step c

/-- The move of a fleet that is not one of its relays. -/
def Act.outer? : Act → Option Fleet.Move
  | .spawn period metered stopped => some (.spawn period metered stopped)
  | .send place value => some (.send place value)
  | .dropSender place => some (.close place)
  | .shutdown place => some (.send place true)
  | .client m => some (.client m)
  | .advance _ | .surround _ _ _ => none

/-- A fleet stands where a course stands. -/
structure ShownBy (c : Course) (f : Fleet) : Prop where
  shows : f.Shows c.timeline
  others : f.others = c.others

variable {c : Course} {f : Fleet}

theorem shownBy_start (clock : Instant) (delay : Nat) :
    (start clock delay).ShownBy (Fleet.start clock) :=
  ⟨⟨rfl, rfl, by simp [start, Timeline.start]⟩, rfl⟩

/-- What others do on the outbox they do in both. -/
theorem ShownBy.client (h : c.ShownBy f) (m : Clients.Move) :
    (c.step (.client m)).ShownBy (f.step (.client m)) := by
  have hclients : (⟨f.site.store, f.others⟩ : Clients) = ⟨c.timeline.store, c.others⟩ := by
    rw [h.shows.store, h.others]
  refine ⟨⟨?_, h.shows.length, h.shows.stands⟩, ?_⟩
  · simp only [Fleet.step, Fleet.client, Course.step, hclients]
  · simp only [Fleet.step, Fleet.client, Course.step, hclients]

/-- What is done from outside is one move, and what follows from it are moves of relays. -/
theorem ShownBy.step (h : c.ShownBy f) (hf : f.Sound) (a : Act) :
    ∃ moves : List Fleet.Move, (∀ m ∈ moves, m.Inner ∨ a.outer? = some m) ∧
      (c.step a).ShownBy (f.run moves) := by
  have hone : ∀ {m : Fleet.Move}, a.outer? = some m → (c.step a).ShownBy (f.step m) →
      ∃ moves : List Fleet.Move, (∀ m ∈ moves, m.Inner ∨ a.outer? = some m) ∧
        (c.step a).ShownBy (f.run moves) := by
    intro m hm hshown
    refine ⟨[m], ?_, hshown⟩
    intro x hx
    rw [List.mem_singleton.1 hx]
    exact .inr hm
  cases a with
  | spawn period metered stopped => exact hone rfl ⟨h.shows.spawn period metered stopped, h.others⟩
  | send place value => exact hone rfl ⟨h.shows.signalAt place _, h.others⟩
  | dropSender place => exact hone rfl ⟨h.shows.signalAt place _, h.others⟩
  | client m => exact hone rfl (h.client m)
  | surround clock delay recorder =>
      exact ⟨[], by simp, ⟨h.shows.store, h.shows.length, h.shows.stands⟩, h.others⟩
  | advance ms =>
      obtain ⟨moves, hinner, hothers, hshows⟩ := h.shows.advance hf ms
      exact ⟨moves, fun m hm => .inl (hinner m hm), hshows, hothers.trans h.others⟩
  | shutdown place =>
      have hsent : (f.step (.send place true)).Shows (c.timeline.send place true) :=
        h.shows.signalAt place _
      obtain ⟨moves, hinner, hothers, hshows⟩ := hsent.runBefore (hf.step _)
        (((c.timeline.send place true).relays[place]?).elim (c.timeline.send place true).now
          Relay.wake + 1) (some place) _
      refine ⟨.send place true :: moves, ?_, hshows, hothers.trans h.others⟩
      intro m hm
      rcases List.mem_cons.1 hm with rfl | hm
      · exact .inr rfl
      · exact .inl (hinner m hm)

/-- A course does nothing that a fleet cannot do. -/
theorem ShownBy.run (h : c.ShownBy f) (hf : f.Sound) (acts : List Act) :
    ∃ moves : List Fleet.Move, (∀ m ∈ moves, m.Inner ∨ ∃ a ∈ acts, a.outer? = some m) ∧
      (c.run acts).ShownBy (f.run moves) := by
  induction acts generalizing c f with
  | nil => exact ⟨[], by simp, h⟩
  | cons a acts ih =>
      obtain ⟨first, hfirst, hshown⟩ := h.step hf a
      obtain ⟨second, hsecond, hshown'⟩ := ih hshown (hf.run first)
      refine ⟨first ++ second, ?_, ?_⟩
      · intro m hm
        rcases List.mem_append.1 hm with hm | hm
        · exact (hfirst m hm).imp_right fun ha => ⟨a, List.mem_cons_self, ha⟩
        · exact (hsecond m hm).imp_right fun ⟨x, hx, hxm⟩ => ⟨x, List.mem_cons_of_mem a hx, hxm⟩
      · rw [Fleet.run_append]
        exact hshown'

end Course

/-! ## What is promised -/

namespace Fleet

/-- How the relay at a place of a fleet stops, and what it leaves behind. -/
structure StopsInOrder (f : Fleet) (place : Nat) (n : Runner) : Prop where
  /-- As long as its switch says that it shall stop, it begins one cycle more at most, and none if
  it did not run before. -/
  oneMore : n.switch.on = true → ∀ later : List Move, (∀ m ∈ later, m ≠ .send place false) →
    ∃ n', (f.run later).runners[place]? = some n' ∧ n'.begun ≤ n.begun + 1 ∧
      ∀ period, n.post = .fresh period → n'.begun = 0
  /-- It ends between two cycles. -/
  between : ∀ (m : Move) (n' : Runner), (f.step m).runners[place]? = some n' →
    n.hasEnded = false → n'.hasEnded = true → ¬ n.post.InCycle
  /-- Its stage is what its story tells. -/
  told : n.post.stage = Deed.stage .free (f.story place)
  /-- When it ended, it had asked for one claim in every cycle, and none is left: what is locked is
  what others and the other relays claimed. -/
  unlocked : n.hasEnded = true → Deed.claimsAsked (f.story place) = n.begun ∧
    f.site.store.locked.Perm (Clients.heldBy (f.others ++ held (f.runners.eraseIdx place)))
  /-- When it ended, it had marked every envelope that it claimed as delivered or as failed, and
  then had let go of it. -/
  settled : n.hasEnded = true → ∀ past d rest e, f.story place = past ++ d :: rest →
    d.claimed? = some e →
      ∃ before marked between dropped after,
        rest = before ++ marked :: between ++ dropped :: after ∧
        marked.Settles e ∧ dropped.query = .release e.id
  /-- Whatever it does, it adds no row, and it leaves the rows that it never claimed and their
  locks as they are. -/
  untouched : ∀ m : Move, m.By place →
    (f.step m).site.store.rows.length = f.site.store.rows.length ∧
    ∀ (k : Nat) (row : Envelope), f.site.store.rows[k]? = some row →
      (∀ d ∈ (f.step m).story place, ∀ e, d.claimed? = some e → e.id ≠ row.id) →
      (f.step m).site.store.rows[k]? = some row ∧
        (row.id ∈ (f.step m).site.store.locked ↔ row.id ∈ f.site.store.locked)
  /-- As long as its switch does not say that it shall stop, and someone can still say so, it does
  not end in good order; that it shall go on is said as often as one likes. -/
  goesOn : n.switch.on = false → n.switch.closed = false → n.post ≠ .ended true →
    ∀ later : List Move, (∀ m ∈ later, m ≠ .send place true ∧ m ≠ .close place) →
      ∃ n', (f.run later).runners[place]? = some n' ∧ n'.post ≠ .ended true

theorem Sound.stopsInOrder {f : Fleet} (h : f.Sound) {place : Nat} {n : Runner}
    (hn : f.runners[place]? = some n) : f.StopsInOrder place n where
  oneMore := by
    intro on later hkeep
    obtain ⟨n', hn', -, hle⟩ := run_begun_le hn on later hkeep
    refine ⟨n', hn', ?_, ?_⟩
    · have hwaits : n.post.toBegin ≤ 1 := by
        unfold Post.toBegin
        split <;> omega
      omega
    · intro period hpost
      have hnone := (h.regular place n hn).fresh period hpost
      rw [hpost, hnone] at hle
      exact Nat.eq_zero_of_le_zero (Nat.le_trans (Nat.le_add_right _ _) hle)
  between := by
    intro m n' hn' runs ended
    obtain ⟨k, new, hk, -, hsteps⟩ := step_runner hn m
    obtain rfl : k = n' := Option.some.inj (hk.symm.trans hn')
    exact hsteps.not_inCycle_of_ends runs ended
  told := (h.regular place n hn).told.symm
  unlocked := by
    intro ended
    have hout := Runner.not_inCycle_of_hasEnded ended
    exact ⟨((h.regular place n hn).between (.inl hout)).2, h.locked_of_ended hn ended⟩
  settled := fun ended _ _ _ _ hsplit hd => h.settled_of_ended hn ended hsplit hd
  untouched := fun _ hm => h.untouched hm
  goesOn := fun off opened runs later hnone => run_goes_on hn off opened runs later hnone

/-- In a course as well, a relay that is told to stop begins one cycle more at most, and none if it
did not run before. -/
theorem begun_le_of_shownBy {f : Fleet} {c : Course} (hf : f.Sound) (h : c.ShownBy f) {place : Nat}
    {r : Relay} (hr : c.timeline.relays[place]? = some r) (on : r.switch.on = true)
    (later : List Course.Act) (hkeep : ∀ a ∈ later, a ≠ .send place false) :
    ∃ r', (c.run later).timeline.relays[place]? = some r' ∧ r'.begun ≤ r.begun + 1 ∧
      ∀ period, r.phase = .fresh period → r'.begun = 0 := by
  obtain ⟨n, hn, hstands⟩ := h.shows.exists_runner hr
  obtain ⟨moves, hmoves, hshown⟩ := h.run hf later
  have hsent : ∀ m ∈ moves, m ≠ .send place false := by
    rintro m hm rfl
    rcases hmoves _ hm with hinner | ⟨a, ha, hout⟩
    · exact hinner
    · cases a with
      | send place' value =>
          cases hout
          exact hkeep _ ha rfl
      | spawn | dropSender | shutdown | advance | client | surround => cases hout
  obtain ⟨n', hn', hle, hfresh⟩ :=
    (hf.stopsInOrder hn).oneMore (by rw [hstands.switch, on]) moves hsent
  obtain ⟨r', hr', hstands'⟩ := hshown.shows.exists_relay hn'
  refine ⟨r', hr', ?_, ?_⟩
  · rw [← hstands'.begun, ← hstands.begun]
    exact hle
  · intro period hphase
    have hpost := hstands.post
    rw [hphase] at hpost
    rw [← hstands'.begun]
    refine hfresh period ?_
    generalize n.post = post at hpost
    cases hpost
    rfl

/-- **Orderly shutdown.**  Every relay of every fleet stops in order, whatever happens: however
many rows wait, whoever moves next, however long the bus takes, at whatever moment its switch is
changed, and whichever of a tick and a signal it takes when both are there.

Relays in time do nothing else.  What any course comes to, and whatever follows on it, a fleet
comes to as well, with the same signals.  So a relay begins one cycle more at most after it is told
to stop, and none if it did not run before; and when a shutdown is over, the relay ended. -/
theorem orderly_shutdown (clock : Instant) (delay : Nat) :
    (∀ (moves : List Move) (place : Nat) (n : Runner),
      ((start clock).run moves).runners[place]? = some n →
        ((start clock).run moves).StopsInOrder place n) ∧
    ∀ acts : List Course.Act,
      let c := (Course.start clock delay).run acts
      (∃ moves : List Move, c.ShownBy ((start clock).run moves) ∧
        ∀ later : List Course.Act, ∃ more : List Move,
          (∀ m ∈ more, m.Inner ∨ ∃ a ∈ later, a.outer? = some m) ∧
          (c.run later).ShownBy ((start clock).run (moves ++ more))) ∧
      ∀ (place : Nat) (r : Relay), c.timeline.relays[place]? = some r →
        (r.switch.on = true → ∀ later : List Course.Act, (∀ a ∈ later, a ≠ .send place false) →
          ∃ r', (c.run later).timeline.relays[place]? = some r' ∧ r'.begun ≤ r.begun + 1 ∧
            ∀ period, r.phase = .fresh period → r'.begun = 0) ∧
        ∃ r', (c.step (.shutdown place)).timeline.relays[place]? = some r' ∧ r'.hasEnded = true ∧
          ∃ (moves : List Move) (n : Runner),
            (c.step (.shutdown place)).ShownBy ((start clock).run moves) ∧
            ((start clock).run moves).runners[place]? = some n ∧ n.hasEnded = true := by
  refine ⟨fun moves place n hn => ((Sound.start clock).run moves).stopsInOrder hn, ?_⟩
  intro acts c
  obtain ⟨moves, -, hshown⟩ := (Course.shownBy_start clock delay).run (.start clock) acts
  have hsound := (Sound.start clock).run moves
  refine ⟨⟨moves, hshown, fun later => ?_⟩, fun place r hr => ⟨fun on later hkeep => ?_, ?_⟩⟩
  · obtain ⟨more, hmore, hshown'⟩ := hshown.run hsound later
    exact ⟨more, hmore, by rw [run_append]; exact hshown'⟩
  · exact begun_le_of_shownBy hsound hshown hr on later hkeep
  · obtain ⟨r', hr', hended⟩ := Timeline.shutdown_ends hsound hshown.shows hr
    obtain ⟨more, -, hshown'⟩ := hshown.step hsound (.shutdown place)
    obtain ⟨n, hn, hstands⟩ := hshown'.shows.exists_runner hr'
    rw [← run_append] at hshown' hn
    exact ⟨r', hr', hended, moves ++ more, n, hshown', hn, hstands.hasEnded_eq.trans hended⟩

/-- A relay that is told to stop while a tick is due, and that takes the tick, delivers one
envelope more, and ends without a claim. -/
theorem orderly_shutdown_at_due_tick :
    let told : List Move := [.client (.append ⟨0, 0⟩ [⟨"events", .null⟩]), .spawn 5 false false,
      .launch 0, .look 0, .send 0 true]
    let later : List Move := [.poll 0 true .tick, .turn 0, .turn 0, .turn 0, .turn 0, .turn 0,
      .turn 0, .turn 0, .look 0]
    let f := (start ⟨0, 0⟩).run told
    let g := (start ⟨0, 0⟩).run (told ++ later)
    f.runners[0]? = some ⟨false, ⟨true, true, false⟩, .waiting, 0⟩ ∧
    (∃ n', (f.run later).runners[0]? = some n' ∧ n'.begun ≤ 0 + 1 ∧
      ∀ period, Post.waiting = .fresh period → n'.begun = 0) ∧
    g.runners[0]? = some ⟨false, ⟨true, true, false⟩, .ended true, 1⟩ ∧
    g.site.store.statusOf 1 = some .done ∧
    g.site.store.locked.Perm (Clients.heldBy (g.others ++ held (g.runners.eraseIdx 0))) := by
  intro told later f g
  have hwaits : f.runners[0]? = some ⟨false, ⟨true, true, false⟩, .waiting, 0⟩ := rfl
  have hended : g.runners[0]? = some ⟨false, ⟨true, true, false⟩, .ended true, 1⟩ := rfl
  have hmore := ((orderly_shutdown ⟨0, 0⟩ 0).1 told 0 _ hwaits).oneMore rfl later (by simp [later])
  have hfree := ((orderly_shutdown ⟨0, 0⟩ 0).1 (told ++ later) 0 _ hended).unlocked rfl
  exact ⟨hwaits, hmore, hended, by decide, hfree.2⟩

end Fleet

end Accounts.Outbox
