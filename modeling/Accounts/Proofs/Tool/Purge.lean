import Accounts.Proofs.Operation.Trace
import Accounts.Tool.Run
/-!
# Purging what was delivered

The days of a purge are any number of 64 bits, and nothing looks at them before they are counted
back from now.  Where that leads out of the calendar the tool breaks off, with its connection open
and without a word.  `Purge` lists the three ways in which a purge can go, and a purge goes in just
these ways (`purge_ends_iff`).

The calendar has 191,491,529 days and a part of one, so a number of days beyond that is too great
at any time, and almost all numbers of 64 bits are.
-/

namespace Accounts

namespace Instant

/-- The second is one of the calendar. -/
def OnCalendar (second : Int) : Prop := firstSecond ≤ second ∧ second ≤ lastSecond

instance (second : Int) : Decidable (OnCalendar second) := inferInstanceAs (Decidable (_ ∧ _))

/-- The same time of the day so many days earlier. -/
def daysEarlier (t : Instant) (days : Int) : Instant :=
  { t with seconds := t.seconds - days * 86400 }

theorem before?_days (t : Instant) (days : Int) : t.before? (days * 86400) =
    if OnCalendar (t.daysEarlier days).seconds then some (t.daysEarlier days) else none := rfl

/-- More days than the calendar has lead out of it from everywhere. -/
theorem not_onCalendar_daysEarlier {t : Instant} {days : Int} (ht : t.InRange)
    (h : 191491529 < days.natAbs) : ¬ OnCalendar (t.daysEarlier days).seconds := by
  obtain ⟨hfirst, hlast, -⟩ := ht
  unfold OnCalendar daysEarlier firstSecond lastSecond at *
  dsimp only
  omega

end Instant

namespace Tool

open Database

/-- What the tool tells of the reply to a purge. -/
def purgeReport (days : Int) : Except DatabaseError Answer → Exit
  | .ok a => .success ("Purged " ++ toString a.affected ++ " delivered envelopes older than " ++
      toString days ++ " days")
  | .error e => failed (outboxDiagnosis (Outbox.Stored.during
      "Failed to purge delivered envelopes" e))

/-- How a purge of what was delivered more than so many days ago goes: what was asked and replied,
and how the tool ends. -/
inductive Purge (days : Int) (address : String) : List (Exchange sessionSurroundings) → Exit → Prop
  /-- The database cannot be opened. -/
  | unopened (e : DatabaseError) :
      Purge days address [⟨.connect (.ofAddress address), .error e⟩] (failed (databaseDiagnosis e))
  /-- What was last changed before just so many days ago is deleted, and the tool tells how that
  went. -/
  | sent (now : Instant) (r : Except DatabaseError Answer)
      (onCalendar : Instant.OnCalendar (now.daysEarlier days).seconds) :
      Purge days address [⟨.connect (.ofAddress address), .ok ()⟩, ⟨.clock, now⟩,
        ⟨.alone (.purgeDone (now.daysEarlier days)), r⟩] (purgeReport days r)
  /-- There was nothing yet so many days ago, or there is nothing any more. -/
  | broken (now : Instant) (outside : ¬ Instant.OnCalendar (now.daysEarlier days).seconds) :
      Purge days address [⟨.connect (.ofAddress address), .ok ()⟩, ⟨.clock, now⟩] .broken

variable {text address : String} {days : Int}

theorem parse_purgeDone (h : readNumber text = .ok days) (address : String) :
    Command.parse ["purge-done", text, address] = .ok (.purgeDone days, address) := by
  rw [Command.parse, h]
  rfl

theorem carryOut_purgeDone : (Command.purgeDone days).carryOut = (Session.clock >>= fun now =>
    if Instant.OnCalendar (now.daysEarlier days).seconds then do
      let n ← Session.mapFailure Command.carryOut.lost
        (Outbox.Stored.purgeDone (now.daysEarlier days))
      return "Purged " ++ toString n ++ " delivered envelopes older than " ++ toString days ++
        " days"
    else throw .broken) := by
  refine congrArg (Session.clock >>= ·) (funext fun now => ?_)
  rw [Instant.before?_days]
  by_cases h : Instant.OnCalendar (now.daysEarlier days).seconds
  · rw [if_pos h, if_pos h]
  · rw [if_neg h, if_neg h]

theorem run_purgeDone (h : readNumber text = .ok days) (address : String) :
    run ["purge-done", text, address] =
      .ask (I := sessionSurroundings) (.connect (.ofAddress address)) fun
        | .error e => .done (failed (databaseDiagnosis e))
        | .ok () => .ask (I := sessionSurroundings) .clock fun (now : Instant) =>
          if Instant.OnCalendar (now.daysEarlier days).seconds then
            .ask (I := sessionSurroundings) (.alone (.purgeDone (now.daysEarlier days))) fun r =>
              .done (purgeReport days r)
          else .done .broken := by
  rw [run, parse_purgeDone h]
  simp only [Command.work, carryOut_purgeDone]
  refine congrArg (Dialogue.ask _) (funext fun opened => ?_)
  match opened with
  | .error e => rfl
  | .ok () =>
      refine congrArg (Dialogue.ask _) (funext fun (now : Instant) => ?_)
      by_cases h : Instant.OnCalendar (now.daysEarlier days).seconds
      · simp only [Dialogue.bind, ExceptT.bindCont, if_pos h]
        refine congrArg (Dialogue.ask _) (funext fun r => ?_)
        cases r <;> rfl
      · simp only [Dialogue.bind, ExceptT.bindCont, if_neg h]
        rfl

theorem Purge.of_ends (h : readNumber text = .ok days) {t : List (Exchange sessionSurroundings)}
    {x : Exit} (hends : (run ["purge-done", text, address]).Ends t x) : Purge days address t x := by
  rw [run_purgeDone h] at hends
  obtain ⟨opened, t, rfl, hopened⟩ := Dialogue.ends_ask_iff.mp hends
  match opened with
  | .error e =>
      obtain ⟨rfl, rfl⟩ := Dialogue.ends_done_iff.mp hopened
      exact .unopened e
  | .ok () =>
      obtain ⟨now, t, rfl, hread⟩ := Dialogue.ends_ask_iff.mp hopened
      by_cases hday : Instant.OnCalendar (Instant.daysEarlier now days).seconds
      · rw [if_pos hday] at hread
        obtain ⟨r, t, rfl, hsent⟩ := Dialogue.ends_ask_iff.mp hread
        obtain ⟨rfl, rfl⟩ := Dialogue.ends_done_iff.mp hsent
        exact .sent now r hday
      · rw [if_neg hday] at hread
        obtain ⟨rfl, rfl⟩ := Dialogue.ends_done_iff.mp hread
        exact .broken now hday

theorem Purge.ends (h : readNumber text = .ok days) {t : List (Exchange sessionSurroundings)}
    {x : Exit} (hpurge : Purge days address t x) :
    (run ["purge-done", text, address]).Ends t x := by
  rw [run_purgeDone h]
  cases hpurge with
  | unopened e => exact Dialogue.ends_ask_iff.mpr ⟨_, _, rfl, Dialogue.ends_done_iff.mpr ⟨rfl, rfl⟩⟩
  | sent now r hday =>
      refine Dialogue.ends_ask_iff.mpr ⟨.ok (), _, rfl, Dialogue.ends_ask_iff.mpr ⟨now, _, rfl, ?_⟩⟩
      rw [if_pos hday]
      exact Dialogue.ends_ask_iff.mpr ⟨r, _, rfl, Dialogue.ends_done_iff.mpr ⟨rfl, rfl⟩⟩
  | broken now hday =>
      refine Dialogue.ends_ask_iff.mpr ⟨.ok (), _, rfl, Dialogue.ends_ask_iff.mpr ⟨now, _, rfl, ?_⟩⟩
      rw [if_neg hday]
      exact Dialogue.ends_done_iff.mpr ⟨rfl, rfl⟩

/-- A purge goes in one of the three ways, whatever number of days its text reads as and whatever
the time is.  More days than the calendar has make it break off at any time. -/
theorem purge_ends_iff (h : readNumber text = .ok days) (address : String) :
    (∀ (t : List (Exchange sessionSurroundings)) (x : Exit),
      (run ["purge-done", text, address]).Ends t x ↔ Purge days address t x) ∧
    ∀ now : Instant, now.InRange → 191491529 < days.natAbs →
      (run ["purge-done", text, address]).Ends
        [⟨.connect (.ofAddress address), .ok ()⟩, ⟨.clock, now⟩] .broken :=
  ⟨fun _ _ => ⟨.of_ends h, Purge.ends h⟩, fun now hnow hfar =>
    Purge.ends h (.broken now (Instant.not_onCalendar_daysEarlier hnow hfar))⟩

/-- A purge of a week, with the sign written out, and one of half a million years. -/
theorem purge_ends_iff_week : readNumber "+7" = .ok 7 ∧
    (∀ (t : List (Exchange sessionSurroundings)) (x : Exit),
      (run ["purge-done", "+7", "db"]).Ends t x ↔ Purge 7 "db" t x) ∧
    (run ["purge-done", "200000000", "db"]).Ends
      [⟨.connect (.ofAddress "db"), .ok ()⟩, ⟨.clock, ⟨1700000000, 0⟩⟩] .broken :=
  have hweek : readNumber "+7" = .ok 7 := rfl
  have hfar : readNumber "200000000" = .ok 200000000 := rfl
  ⟨hweek, (purge_ends_iff hweek "db").1,
    (purge_ends_iff hfar "db").2 ⟨1700000000, 0⟩ (by decide) (by decide)⟩

/-- In 2023 the greatest number of 64 bits, and a hundred million days back or ahead, make the tool
break off on an opened database, with no statement sent and nothing told. -/
theorem purge_breaks_off :
    let opened (now : Instant) : List (Exchange sessionSurroundings) :=
      [⟨.connect (.ofAddress "db"), .ok ()⟩, ⟨.clock, now⟩]
    (run ["purge-done", "9223372036854775807", "db"]).Ends (opened ⟨1700000000, 0⟩) .broken ∧
    (run ["purge-done", "100000000", "db"]).Ends (opened ⟨1700000000, 0⟩) .broken ∧
    (run ["purge-done", "-100000000", "db"]).Ends (opened ⟨1700000000, 0⟩) .broken ∧
    Exit.broken.code = 101 :=
  have hgreatest : readNumber "9223372036854775807" = .ok 9223372036854775807 := rfl
  have hback : readNumber "100000000" = .ok 100000000 := rfl
  have hahead : readNumber "-100000000" = .ok (-100000000) := rfl
  ⟨Purge.ends hgreatest (.broken _ (by decide)), Purge.ends hback (.broken _ (by decide)),
    Purge.ends hahead (.broken _ (by decide)), rfl⟩

end Tool

end Accounts
