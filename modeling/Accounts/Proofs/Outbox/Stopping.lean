import Accounts.Proofs.Outbox.Fleet
/-!
# How a relay stops

The invariant of a fleet has two parts.  `Runner.Regular` is about one relay and its story: the
story leads to its stage, and it begins a cycle for every claim that it asks for.
`Fleet.Sound` adds that the locked numbers are those of the live claims, of others and of the
relays together, so that every question of a relay is answered as it expects.

From the invariant it follows what a relay leaves behind when it ended, and from
`Runner.Steps` how many cycles it still begins when it is told to stop, and when it ends at all.
-/

namespace Accounts.Outbox

/-! ## The switch -/

namespace Switch

variable {s : Switch} {ticked : Bool} {p : Preference}

/-- A relay that waits ends only when it is told to, or when nobody can tell it any more. -/
theorem on_or_closed_of_select (h : s.select ticked p = .stop) :
    s.on = true ∨ s.closed = true := by
  unfold select at h
  cases hon : s.on with
  | true => exact .inl rfl
  | false =>
      cases hclosed : s.closed with
      | true => exact .inr rfl
      | false => cases hchanged : s.changed <;> grind

/-- A relay that is told to stop does not look again. -/
theorem on_of_lookAgain (h : s.select ticked p = .lookAgain) : s.on = false := by
  unfold select at h
  cases hon : s.on with
  | true => grind
  | false => rfl

end Switch

/-! ## One relay and its story -/

/-- It is in a cycle. -/
def Post.InCycle : Post → Prop
  | .cycling _ _ => True
  | _ => False

theorem Post.stage_of_not_inCycle {p : Post} (h : ¬ p.InCycle) : p.stage = .free := by
  cases p with
  | cycling st rest => exact absurd trivial h
  | fresh | looking | waiting | ended => rfl

namespace Runner

theorem not_inCycle_of_hasEnded {n : Runner} (h : n.hasEnded = true) : ¬ n.post.InCycle := by
  unfold hasEnded at h
  split at h
  · next hpost => exact hpost ▸ id
  · cases h

theorem stage_of_hasEnded {n : Runner} (h : n.hasEnded = true) : n.post.stage = .free :=
  Post.stage_of_not_inCycle (not_inCycle_of_hasEnded h)

/-- A relay and its story fit together. -/
structure Regular (n : Runner) (story : List Deed) : Prop where
  /-- The story leads to its stage. -/
  told : Deed.stage .free story = n.post.stage
  /-- The story keeps to the order of the stages. -/
  lawful : Deed.Lawful .free story
  /-- What it still has to do in its cycle keeps to the order of the stages. -/
  follows : ∀ st rest, n.post = .cycling st rest → st.Follows rest
  /-- It asks for one claim in every cycle, as the first thing. -/
  counted : (n.post = .cycling .free cycle ∧ Deed.claimsAsked story + 1 = n.begun) ∨
    (Deed.claimsAsked story = n.begun ∧
      ∀ st rest, n.post = .cycling st rest → AsksNo RelayCall.isClaim rest)
  /-- It began no cycle before it ran. -/
  fresh : ∀ period, n.post = .fresh period → n.begun = 0
  /-- It does not wait when it saw that it is told to stop. -/
  noticed : n.post = .waiting → n.switch.on = true → n.switch.changed = true
  /-- It ends in good order only when it is told to, or when nobody can tell it any more. -/
  reason : n.post = .ended true → n.switch.on = true ∨ n.switch.closed = true

namespace Regular

variable {n n' : Runner} {story new : List Deed}

theorem initial (metered stopped : Bool) (period : Nat) :
    Regular ⟨metered, .initial stopped, .fresh period, 0⟩ [] where
  told := rfl
  lawful := trivial
  follows := nofun
  counted := .inr ⟨rfl, nofun⟩
  fresh := fun _ _ => rfl
  noticed := nofun
  reason := nofun

/-- Between two cycles all claims are accounted for. -/
theorem between (h : n.Regular story)
    (hpost : ¬ n.post.InCycle ∨ ∃ st result, n.post = .cycling st (.done result)) :
    Deed.stage .free story = .free ∧ Deed.claimsAsked story = n.begun := by
  rcases hpost with hout | ⟨st, result, hpost⟩
  · refine ⟨h.told.trans (Post.stage_of_not_inCycle hout), ?_⟩
    rcases h.counted with ⟨hpost, -⟩ | ⟨hcount, -⟩
    · exact absurd (by rw [hpost]; trivial) hout
    · exact hcount
  · have hfree : st = .free := h.follows st _ hpost
    refine ⟨by rw [h.told, hpost]; exact hfree, ?_⟩
    rcases h.counted with ⟨hcycle, -⟩ | ⟨hcount, -⟩
    · rw [hpost] at hcycle
      cases hcycle
    · exact hcount

/-- A relay goes on outside of its cycles, or from the end of one. -/
theorem moved (h : n.Regular story)
    (hpost : ¬ n.post.InCycle ∨ ∃ st result, n.post = .cycling st (.done result))
    {p : Post} {s : Switch} (hout : ¬ p.InCycle) (hfresh : ∀ period, p ≠ .fresh period)
    (hnoticed : p = .waiting → s.on = true → s.changed = true)
    (hreason : p = .ended true → s.on = true ∨ s.closed = true) :
    Regular { n with post := p, switch := s } story := by
  obtain ⟨hfree, hcount⟩ := h.between hpost
  have hcycle : ∀ st rest, p ≠ .cycling st rest := fun _ _ hp => hout (by rw [hp]; trivial)
  exact {
    told := hfree.trans (Post.stage_of_not_inCycle hout).symm
    lawful := h.lawful
    follows := fun st rest hp => absurd hp (hcycle st rest)
    counted := .inr ⟨hcount, fun st rest hp => absurd hp (hcycle st rest)⟩
    fresh := fun period hp => absurd hp (hfresh period)
    noticed := hnoticed
    reason := hreason }

/-- A signal changes the switch only. -/
theorem signalled (h : n.Regular story) (runs : n.hasEnded = false) {s : Switch}
    (hs : s.on = true → n.switch.on = true ∨ s.changed = true)
    (hkeep : n.switch.changed = true → s.changed = true) :
    Regular { n with switch := s } story where
  told := h.told
  lawful := h.lawful
  follows := h.follows
  counted := h.counted
  fresh := h.fresh
  noticed := by
    intro hpost hon
    rcases hs hon with hwas | hchanged
    · exact hkeep (h.noticed hpost hwas)
    · exact hchanged
  reason := by
    intro hpost
    have hended : n.hasEnded = true := by rw [hasEnded, show n.post = .ended true from hpost]
    rw [runs] at hended
    cases hended

/-- A cycle begins. -/
theorem began (h : n.Regular story) (hpost : n.post = .waiting) :
    Regular { n with post := .cycling .free cycle, begun := n.begun + 1 } story := by
  obtain ⟨hfree, hcount⟩ := h.between (.inl (by rw [hpost]; exact id))
  refine ⟨hfree, h.lawful, ?_, .inl ⟨rfl, by rw [hcount]⟩, nofun, nofun, nofun⟩
  rintro st rest ⟨⟩
  exact Stage.follows_cycle

/-- A question is asked and gets a reply that is expected. -/
theorem asked (h : n.Regular story) {place : Nat} {site : Timeline} {st : Stage} {q : RelayCall}
    {next : q.Reply → Relaying (Except OutboxError Outcome)}
    (hpost : n.post = .cycling st (.ask q next)) (hr : q.Expected (site.reply n.metered q).1) :
    Regular
      { n with
        post := .cycling (st.after q (site.reply n.metered q).1)
          (next (site.reply n.metered q).1) }
      (story ++ [⟨place, n.metered, site, q⟩]) := by
  obtain ⟨hallows, hnext⟩ := h.follows _ _ hpost
  have hstage : Deed.stage .free story = st := by rw [h.told, hpost]; rfl
  have hasked : Deed.claimsAsked (story ++ [⟨place, n.metered, site, q⟩]) =
      Deed.claimsAsked story + if q.isClaim then 1 else 0 := by
    simp [Deed.claimsAsked, List.countP_append, List.countP_singleton]
  refine ⟨?_, ?_, ?_, .inr ?_, nofun, nofun, nofun⟩
  · rw [Deed.stage_append, hstage]
    rfl
  · rw [Deed.lawful_append, hstage]
    exact ⟨h.lawful, hallows, hr, trivial⟩
  · rintro _ _ ⟨⟩
    exact hnext _ hr
  · rcases h.counted with ⟨hcycle, hcount⟩ | ⟨hcount, hmore⟩
    · rw [hpost] at hcycle
      cases hcycle
      refine ⟨by rw [hasked]; exact hcount, ?_⟩
      rintro _ _ ⟨⟩
      exact asksNo_claim_afterClaim _
    · obtain ⟨hnone, hrest⟩ := hmore _ _ hpost
      refine ⟨by rw [hasked, hnone]; exact hcount, ?_⟩
      rintro _ _ ⟨⟩
      exact hrest _

/-- A step keeps a relay and its story together, if what it asks is answered as it expects. -/
theorem step {place : Nat} {site : Timeline} {m : Fleet.Move} (h : n.Regular story)
    (s : n.Steps place site m new n') (hnew : ∀ d ∈ new, d.query.Expected d.reply) :
    n'.Regular (story ++ new) := by
  cases s
  case asked post => exact h.asked post (hnew _ List.mem_cons_self)
  -- nothing else adds to the story
  all_goals rw [List.append_nil]
  case idle => exact h
  case sent value runs => exact h.signalled runs (fun _ => .inr rfl) fun _ => rfl
  case closed runs => exact h.signalled runs .inl id
  case launched post pos => exact h.moved (.inl (post ▸ id)) id nofun nofun nofun
  case failed post => exact h.moved (.inl (post ▸ id)) id nofun nofun nofun
  case told post on => exact h.moved (.inl (post ▸ id)) id nofun nofun fun _ => .inl on
  case settled post off =>
    refine h.moved (.inl (post ▸ id)) id nofun ?_ nofun
    intro _ hon
    rw [off] at hon
    cases hon
  case stopped post decision =>
    exact h.moved (.inl (post ▸ id)) id nofun nofun fun _ => Switch.on_or_closed_of_select decision
  case noted post decision => exact h.moved (.inl (post ▸ id)) id nofun nofun nofun
  case began post decision => exact h.began post
  case finished post => exact h.moved (.inr ⟨_, _, post⟩) id nofun nofun nofun

end Regular

end Runner

/-! ## A fleet -/

namespace Runner.Steps

variable {place : Nat} {site : Timeline} {m : Fleet.Move} {n n' : Runner} {new : List Deed}

/-- Only a question changes the stage. -/
theorem stage_eq (s : n.Steps place site m new n') (hm : m ≠ .turn place) :
    n'.post.stage = n.post.stage := by
  cases s with
  | idle | sent | closed => rfl
  | asked | finished => exact absurd rfl hm
  | launched post | failed post | told post | settled post | stopped post | noted post
  | began post => rw [post]; rfl

end Runner.Steps

namespace Fleet

variable {f : Fleet} {place : Nat} {n n' : Runner} {m : Move}

/-- The live claims of the relays. -/
def held (runners : List Runner) : List Claim :=
  (runners.map fun n => n.post.stage).filterMap Stage.claim?

/-- Everything in a fleet fits together. -/
structure Sound (f : Fleet) : Prop where
  /-- What is locked is what others and the relays claimed. -/
  orderly : Clients.Orderly f.site.store (f.others ++ held f.runners)
  /-- Every relay fits to its story. -/
  regular : ∀ (place : Nat) (n : Runner), f.runners[place]? = some n → n.Regular (f.story place)
  /-- Every deed is one of a relay. -/
  placed : ∀ d ∈ f.deeds, d.runner < f.runners.length

theorem held_modify (runners : List Runner) (place : Nat) {g : Runner → Runner}
    (hg : ∀ n : Runner, (g n).post.stage = n.post.stage) :
    held (runners.modify place g) = held runners := by
  unfold held
  congr 1
  apply List.ext_getElem?
  intro k
  rw [List.getElem?_map, List.getElem?_map, List.getElem?_modify]
  cases runners[k]? with
  | none => rfl
  | some n =>
      simp only [Option.map_eq_map, Option.map_some]
      split
      · rw [hg]
      · rfl

theorem held_cons_perm (others : List Claim) (n : Runner) (runners : List Runner) :
    (others ++ held (n :: runners)).Perm
      (n.post.stage.claim?.toList ++ (others ++ held runners)) := by
  have hcons : held (n :: runners) = n.post.stage.claim?.toList ++ held runners := by
    unfold held
    rw [List.map_cons, List.filterMap_cons]
    cases n.post.stage.claim? <;> rfl
  rw [hcons, ← List.append_assoc, ← List.append_assoc]
  exact List.perm_append_comm.append_right _

theorem held_perm {runners runners' : List Runner} (p : runners.Perm runners') :
    (held runners).Perm (held runners') := (p.map _).filterMap _

/-- The claim of the relay at a place, and the others. -/
theorem held_at (hn : f.runners[place]? = some n) :
    (f.others ++ held f.runners).Perm
      (n.post.stage.claim?.toList ++ (f.others ++ held (f.runners.eraseIdx place))) :=
  ((held_perm (perm_at hn)).append_left f.others).trans (held_cons_perm ..)

theorem held_set (hn : f.runners[place]? = some n) (n' : Runner) :
    (f.others ++ held (f.runners.set place n')).Perm
      (n'.post.stage.claim?.toList ++ (f.others ++ held (f.runners.eraseIdx place))) :=
  ((held_perm (perm_set hn n')).append_left f.others).trans (held_cons_perm ..)

/-- A relay that is there is there after any move, and took a step. -/
theorem step_runner (hn : f.runners[place]? = some n) (m : Move) :
    ∃ (n' : Runner) (new : List Deed), (f.step m).runners[place]? = some n' ∧
      (f.step m).story place = f.story place ++ new ∧ n.Steps place f.site m new n' := by
  have hlt := (List.getElem?_eq_some_iff.1 hn).1
  have hlt' := Nat.lt_of_lt_of_le hlt (f.length_step m)
  have hn' := List.getElem?_eq_getElem hlt'
  rcases runner_step hn' with ⟨-, -, -, -, hnew, -⟩ | ⟨k, new, hk, hstory, hsteps⟩
  · omega
  · obtain rfl : k = n := Option.some.inj (hk.symm.trans hn)
    exact ⟨_, new, hn', hstory, hsteps⟩

/-- A move adds no deed and, unless it is one of others, leaves the outbox alone, or it adds the
deed of one relay, which makes the outbox what it is afterwards. -/
theorem deeds_step (f : Fleet) (m : Move) :
    ((f.step m).deeds = f.deeds ∧
      ((∀ c, m ≠ .client c) → (f.step m).site.store = f.site.store)) ∨
    ∃ (at' : Nat) (n : Runner) (st : Stage) (q : RelayCall)
      (next : q.Reply → Relaying (Except OutboxError Outcome)),
      m = .turn at' ∧ f.runners[at']? = some n ∧ n.post = .cycling st (.ask q next) ∧
      (f.step m).deeds = f.deeds ++ [⟨at', n.metered, f.site, q⟩] ∧
      (f.step m).site = (f.site.reply n.metered q).2 := by
  cases m with
  | spawn | send | close | launch | look | poll | elsewhere => exact .inl ⟨rfl, fun _ => rfl⟩
  | client c => exact .inl ⟨rfl, fun hc => absurd rfl (hc c)⟩
  | turn at' =>
      simp only [step, turn]
      split
      · next metered switch st q next begun hn =>
          exact .inr ⟨at', _, st, q, next, rfl, hn, rfl, rfl, rfl⟩
      · exact .inl ⟨rfl, fun _ => rfl⟩
      · exact .inl ⟨rfl, fun _ => rfl⟩

namespace Sound

theorem start (clock : Instant) : (Fleet.start clock).Sound where
  orderly := Clients.Orderly.empty
  regular := by simp [Fleet.start]
  placed := by simp [Fleet.start]

/-- What a relay asks is answered as it expects. -/
theorem reply (h : f.Sound) (hn : f.runners[place]? = some n) {st : Stage} {q : RelayCall}
    {next : q.Reply → Relaying (Except OutboxError Outcome)}
    (hpost : n.post = .cycling st (.ask q next)) :
    q.Expected (f.site.reply n.metered q).1 ∧
      Clients.Orderly (f.site.reply n.metered q).2.store
        ((st.after q (f.site.reply n.metered q).1).claim?.toList ++
          (f.others ++ held (f.runners.eraseIdx place))) := by
  have horderly := h.orderly.perm (held_at hn)
  rw [show n.post.stage = st by rw [hpost]; rfl] at horderly
  exact Timeline.reply_orderly horderly n.metered ((h.regular place n hn).follows _ _ hpost).1

theorem turn_orderly (h : f.Sound) (at' : Nat) :
    Clients.Orderly (f.turn at').site.store ((f.turn at').others ++ held (f.turn at').runners) := by
  unfold turn
  split
  · next metered switch st q next begun hn =>
      let d : Deed := ⟨at', metered, f.site, q⟩
      exact (h.reply hn rfl).2.perm (held_set hn
        ⟨metered, switch, .cycling (st.after q d.reply) (next d.reply), begun⟩).symm
  · next metered switch st result begun hn =>
      refine h.orderly.perm ((held_at hn).trans ?_)
      have hfree : st = .free := (h.regular at' _ hn).follows _ _ rfl
      subst hfree
      exact (held_set hn ⟨metered, switch, .looking, begun⟩).symm
  · exact h.orderly

/-- Every move keeps rows, locks and claims together. -/
theorem step_orderly (h : f.Sound) (m : Move) :
    Clients.Orderly (f.step m).site.store ((f.step m).others ++ held (f.step m).runners) := by
  have hchange : ∀ {at' : Nat} {g : Runner → Runner}, (∀ n, (g n).post.stage = n.post.stage) →
      Clients.Orderly f.site.store (f.others ++ held (f.runners.modify at' g)) := by
    intro at' g hg
    rw [held_modify f.runners at' hg]
    exact h.orderly
  cases m with
  | spawn period metered stopped =>
      have hnone : held [⟨metered, .initial stopped, .fresh period, 0⟩] = [] := rfl
      simp only [Fleet.step]
      rw [held, List.map_append, List.filterMap_append, ← held, ← held, hnone, List.append_nil]
      exact h.orderly
  | send at' value =>
      exact hchange fun n => (Runner.Steps.signal_send at' f.site n value).stage_eq (by simp)
  | close at' => exact hchange fun n => (Runner.Steps.signal_close at' f.site n).stage_eq (by simp)
  | launch at' => exact hchange fun n => (Runner.Steps.launch at' f.site n).stage_eq (by simp)
  | look at' => exact hchange fun n => (Runner.Steps.look at' f.site n).stage_eq (by simp)
  | poll at' ticked p =>
      exact hchange fun n => (Runner.Steps.poll at' f.site n ticked p).stage_eq (by simp)
  | turn at' => exact h.turn_orderly at'
  | client m => exact Clients.Orderly.beside (c := ⟨f.site.store, f.others⟩) h.orderly m
  | elsewhere site => exact h.orderly

/-- Every move keeps a fleet together. -/
theorem step (h : f.Sound) (m : Move) : (f.step m).Sound where
  orderly := h.step_orderly m
  placed := by
    rcases deeds_step f m with ⟨hdeeds, -⟩ | ⟨place, n, st, q, next, -, hn, -, hdeeds, -⟩
    · rw [hdeeds]
      exact fun d hd => Nat.lt_of_lt_of_le (h.placed d hd) (f.length_step m)
    · rw [hdeeds]
      intro x hx
      refine Nat.lt_of_lt_of_le ?_ (f.length_step m)
      rcases List.mem_append.1 hx with hold | hnew
      · exact h.placed x hold
      · rw [List.mem_singleton.1 hnew]
        exact (List.getElem?_eq_some_iff.1 hn).1
  regular := by
    intro place n' hn'
    rcases runner_step hn' with ⟨period, metered, stopped, rfl, rfl, rfl⟩ |
      ⟨n, new, hn, hstory, hsteps⟩
    · have hnone : (f.step (.spawn period metered stopped)).story f.runners.length = [] := by
        refine List.filter_eq_nil_iff.2 fun d hd => ?_
        simpa using Nat.ne_of_lt (h.placed d hd)
      rw [hnone]
      exact .initial metered stopped period
    · rw [hstory]
      refine (h.regular place n hn).step hsteps ?_
      intro d hd
      cases hsteps with
      | asked post =>
          obtain rfl := List.mem_singleton.1 hd
          exact (h.reply hn post).1
      | idle | sent | closed | launched | failed | told | settled | stopped | noted | began
      | finished => cases hd

theorem run (h : f.Sound) (moves : List Move) : (f.run moves).Sound := by
  induction moves generalizing f with
  | nil => exact h
  | cons m moves ih => exact ih (h.step m)

end Sound

end Fleet

/-! ## One cycle more -/

/-- How many cycles a relay begins at most before it looks at its switch again. -/
def Post.toBegin : Post → Nat
  | .waiting => 1
  | _ => 0

namespace Runner.Steps

variable {place : Nat} {site : Timeline} {m : Fleet.Move} {n n' : Runner} {new : List Deed}

/-- A relay that is told to stop begins a cycle only if it waits, and then looks at its switch. -/
theorem begun_le (s : n.Steps place site m new n') (on : n.switch.on = true)
    (hm : m ≠ .send place false) :
    n'.switch.on = true ∧ n'.begun + n'.post.toBegin ≤ n.begun + n.post.toBegin := by
  cases s with
  | idle => exact ⟨on, Nat.le_refl _⟩
  | sent value runs =>
      cases value with
      | true => exact ⟨rfl, Nat.le_refl _⟩
      | false => exact absurd rfl hm
  | closed runs => exact ⟨on, Nat.le_refl _⟩
  | launched post | failed post | told post | stopped post | asked post | finished post =>
      exact ⟨on, Nat.le_add_right _ _⟩
  | settled post off =>
      rw [off] at on
      cases on
  | noted post decision =>
      rw [Switch.on_of_lookAgain decision] at on
      cases on
  | began post decision =>
      refine ⟨on, ?_⟩
      rw [post]
      exact Nat.le_refl _

/-- A relay ends between two cycles only. -/
theorem not_inCycle_of_ends (s : n.Steps place site m new n') (runs : n.hasEnded = false)
    (ended : n'.hasEnded = true) : ¬ n.post.InCycle := by
  cases s with
  | failed post | told post | stopped post => exact post ▸ id
  | idle | sent | closed => exact absurd (runs.symm.trans ended) (by decide)
  | launched | settled | noted | began | asked | finished => cases ended

/-- A relay that nobody tells to stop does not end in good order. -/
theorem goes_on (s : n.Steps place site m new n') (off : n.switch.on = false)
    (opened : n.switch.closed = false) (runs : n.post ≠ .ended true)
    (hm : m ≠ .send place true ∧ m ≠ .close place) :
    n'.switch.on = false ∧ n'.switch.closed = false ∧ n'.post ≠ .ended true := by
  cases s with
  | idle => exact ⟨off, opened, runs⟩
  | sent value =>
      cases value with
      | true => exact absurd rfl hm.1
      | false => exact ⟨rfl, opened, runs⟩
  | closed => exact absurd rfl hm.2
  | told post on =>
      rw [off] at on
      cases on
  | stopped post decision =>
      rcases Switch.on_or_closed_of_select decision with on | shut
      · rw [off] at on
        cases on
      · rw [opened] at shut
        cases shut
  | launched | failed | settled | noted | began | asked | finished => exact ⟨off, opened, nofun⟩

end Runner.Steps

namespace Fleet

variable {f : Fleet} {place : Nat} {n : Runner}

/-- A relay that is told to stop, and not told otherwise, begins one cycle more at most, and
none if it does not wait. -/
theorem run_begun_le (hn : f.runners[place]? = some n) (on : n.switch.on = true)
    (later : List Move) (hkeep : ∀ m ∈ later, m ≠ .send place false) :
    ∃ n', (f.run later).runners[place]? = some n' ∧ n'.switch.on = true ∧
      n'.begun + n'.post.toBegin ≤ n.begun + n.post.toBegin := by
  induction later generalizing f n with
  | nil => exact ⟨n, hn, on, Nat.le_refl _⟩
  | cons m later ih =>
      obtain ⟨k, new, hk, -, hsteps⟩ := step_runner hn m
      obtain ⟨hkon, hle⟩ := hsteps.begun_le on (hkeep m List.mem_cons_self)
      obtain ⟨n', hn', hon, hle'⟩ := ih hk hkon fun x hx => hkeep x (List.mem_cons_of_mem m hx)
      exact ⟨n', hn', hon, Nat.le_trans hle' hle⟩

/-- A relay that nobody tells to stop goes on. -/
theorem run_goes_on (hn : f.runners[place]? = some n) (off : n.switch.on = false)
    (opened : n.switch.closed = false) (runs : n.post ≠ .ended true) (later : List Move)
    (hnone : ∀ m ∈ later, m ≠ .send place true ∧ m ≠ .close place) :
    ∃ n', (f.run later).runners[place]? = some n' ∧ n'.post ≠ .ended true := by
  induction later generalizing f n with
  | nil => exact ⟨n, hn, runs⟩
  | cons m later ih =>
      obtain ⟨k, new, hk, -, hsteps⟩ := step_runner hn m
      obtain ⟨hkoff, hkopened, hkruns⟩ :=
        hsteps.goes_on off opened runs (hnone m List.mem_cons_self)
      exact ih hk hkoff hkopened hkruns fun x hx => hnone x (List.mem_cons_of_mem m hx)

/-! ## What a relay leaves behind -/

/-- It is a move of the relay at a place. -/
def Move.By (place : Nat) : Move → Prop
  | .launch k | .look k | .poll k _ _ | .turn k => k = place
  | _ => False

namespace Sound

/-- A relay that ended holds no claim: what is locked is what others and the other relays
claimed. -/
theorem locked_of_ended (h : f.Sound) (hn : f.runners[place]? = some n)
    (ended : n.hasEnded = true) :
    f.site.store.locked.Perm
      (Clients.heldBy (f.others ++ held (f.runners.eraseIdx place))) := by
  have hp := held_at hn
  rw [Runner.stage_of_hasEnded ended] at hp
  exact h.orderly.locked.trans (hp.map _)

/-- A relay that ended marked every envelope that it claimed, and then let go of it. -/
theorem settled_of_ended (h : f.Sound) (hn : f.runners[place]? = some n)
    (ended : n.hasEnded = true) {past rest : List Deed} {d : Deed} {e : Envelope}
    (hsplit : f.story place = past ++ d :: rest) (hd : d.claimed? = some e) :
    ∃ before m between x after, rest = before ++ m :: between ++ x :: after ∧
      m.Settles e ∧ x.query = .release e.id := by
  have hregular := h.regular place n hn
  refine hregular.lawful.settles ?_ hsplit hd
  rw [hregular.told, Runner.stage_of_hasEnded ended]

/-- What a relay does leaves every row that it never claimed, and the lock of that row, as they
are, and adds no row. -/
theorem untouched (h : f.Sound) {m : Move} (hm : m.By place) :
    (f.step m).site.store.rows.length = f.site.store.rows.length ∧
    ∀ (k : Nat) (row : Envelope), f.site.store.rows[k]? = some row →
      (∀ d ∈ (f.step m).story place, ∀ e, d.claimed? = some e → e.id ≠ row.id) →
      (f.step m).site.store.rows[k]? = some row ∧
        (row.id ∈ (f.step m).site.store.locked ↔ row.id ∈ f.site.store.locked) := by
  rcases deeds_step f m with ⟨-, hsame⟩ | ⟨at', n, st, q, next, rfl, hn, hpost, hdeeds, hsite⟩
  · rw [hsame (by rintro c rfl; exact hm)]
    exact ⟨rfl, fun k row hrow _ => ⟨hrow, .rfl⟩⟩
  · obtain rfl : at' = place := hm
    have hregular := h.regular at' n hn
    let d : Deed := ⟨at', n.metered, f.site, q⟩
    have hstory : (f.step (.turn at')).story at' = f.story at' ++ [d] := by
      rw [story, hdeeds, story_concat, if_pos rfl]
    rw [hsite, hstory]
    refine ⟨d.length_rows_after, ?_⟩
    intro k row hrow hother
    refine Deed.keeps (d := d) (hregular.follows _ _ hpost).1 hrow ?_
    rintro x (hheld | hnew)
    · -- the envelope that it holds is one that it claimed before
      have hstage : (Deed.stage .free (f.story at')).held? = some x := by
        rw [hregular.told, hpost]
        exact hheld
      rcases Deed.claimed_of_held hstage with hnone | ⟨past, hpast, hclaim⟩
      · cases hnone
      · exact hother past (List.mem_append_left _ hpast) x hclaim
    · exact hother d (List.mem_append_right _ List.mem_cons_self) x hnew

end Sound

end Fleet

end Accounts.Outbox
