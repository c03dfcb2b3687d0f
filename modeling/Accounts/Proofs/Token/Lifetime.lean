import Accounts.Token.Claims
/-!
# Lifetimes of tokens

A token expires a span after the instant at which it is issued.  Spans are longer than the calendar,
and instants have parts of a second, leap seconds among them, but claims have whole seconds only.

Put on a line of nanoseconds (`Instant.position`), the second in which a token expires is that of
the sum, cut at the last second that there is (`Claims.exp_issue`).  All else about lifetimes is
arithmetic on that line.
-/

namespace Accounts

/-! ## A line of nanoseconds -/

/-- The nanoseconds since the start of 1970.  A leap second lies over the second with which it
shares its number. -/
def Instant.position (t : Instant) : Int :=
  t.seconds * nanosPerSecond + (t.nanos % nanosPerSecond : Nat)

/-- The nanoseconds of a span. -/
def Span.length (s : Span) : Nat := s.seconds * nanosPerSecond + s.nanos

namespace Instant

variable {now t : Instant} {ttl : Span}

/-- A span after an instant there is another one. -/
structure Reaches (now : Instant) (ttl : Span) (t : Instant) : Prop where
  /-- There is this instant. -/
  inRange : t.InRange
  /-- It lies the length of the span after the first one. -/
  position : t.position = now.position + ttl.length

/-- The second that the parts of a second in an instant and in a span complete together, if they
complete one. -/
def carry (now : Instant) (ttl : Span) : Nat :=
  if nanosPerSecond ≤ now.nanos % nanosPerSecond + ttl.nanos then 1 else 0

theorem carry_le_one (now : Instant) (ttl : Span) : now.carry ttl ≤ 1 := by
  unfold carry
  split <;> omega

theorem carry_of_whole (h : ttl.nanos = 0) : now.carry ttl = 0 := by
  have := Nat.mod_lt now.nanos (show 0 < nanosPerSecond by decide)
  rw [carry, if_neg (by omega)]

/-- The second of the sum on the line. -/
theorem position_add_length_div (httl : ttl.nanos < nanosPerSecond) :
    (now.position + ttl.length) / nanosPerSecond = now.seconds + ttl.seconds + now.carry ttl := by
  unfold position Span.length carry nanosPerSecond at *
  split <;> omega

theorem position_div (t : Instant) : t.position / nanosPerSecond = t.seconds := by
  unfold position nanosPerSecond
  omega

theorem Reaches.seconds (h : now.Reaches ttl t) (httl : ttl.nanos < nanosPerSecond) :
    t.seconds = now.seconds + ttl.seconds + now.carry ttl := by
  rw [← position_add_length_div httl, ← h.position, position_div]

/-- The sum is an instant unless it is too late. -/
theorem exists_reaches (hnow : now.InRange) (httl : ttl.nanos < nanosPerSecond)
    (hin : now.seconds + ttl.seconds + now.carry ttl ≤ lastSecond) : ∃ t, now.Reaches ttl t := by
  have hdiv : (now.position + ttl.length) / nanosPerSecond =
      now.seconds + ttl.seconds + now.carry ttl := position_add_length_div httl
  refine ⟨⟨(now.position + ttl.length) / nanosPerSecond,
    ((now.position + ttl.length) % nanosPerSecond).toNat⟩, ?_, ?_⟩
  · obtain ⟨hfirst, -, -⟩ := hnow
    refine ⟨?_, ?_, ?_⟩ <;> unfold nanosPerSecond at * <;> dsimp only <;> omega
  · rw [position]
    unfold nanosPerSecond
    dsimp only
    omega

/-- Nothing is before the first instant. -/
theorem not_lt_first (h : t.InRange) : t.lt first = false := by
  obtain ⟨hfirst, -, -⟩ := h
  simp [lt, first, Int.not_lt.2 hfirst]

/-! ## Adding a span -/

/-- A span that cannot be added is longer than all instants are apart. -/
theorem lastSecond_lt_of_not_fits (hnow : now.InRange) (h : fits ttl = false) :
    lastSecond < now.seconds + ttl.seconds := by
  obtain ⟨hfirst, -, -⟩ := hnow
  rw [fits, Bool.or_eq_false_iff, decide_eq_false_iff_not] at h
  have hlong : longestMillis / 1000 = 9223372036854775 := by decide
  rw [hlong] at h
  unfold firstSecond at hfirst
  unfold lastSecond
  omega

/-- Adding gives an instant in the second of the sum, unless that is too late. -/
theorem add?_cases (hnow : now.InRange) (ttl : Span) :
    (now.seconds + ttl.seconds + now.carry ttl ≤ lastSecond ∧
      ∃ nanos, now.add? ttl = some ⟨now.seconds + ttl.seconds + now.carry ttl, nanos⟩) ∨
    (lastSecond < now.seconds + ttl.seconds + now.carry ttl ∧ now.add? ttl = none) := by
  obtain ⟨-, hlast, hnanos⟩ := hnow
  have hparts : (if nanosPerSecond ≤ now.nanos then now.nanos - nanosPerSecond else now.nanos) =
      now.nanos % nanosPerSecond := by
    unfold nanosPerSecond at *
    split <;> omega
  unfold add?
  split
  · next h =>
      -- what stays within a leap second completes none
      have hzero : now.carry ttl = 0 := by
        rw [carry, if_neg]
        rw [← hparts, if_pos h.1]
        omega
      rw [hzero, h.2.1]
      exact .inl ⟨by simpa using hlast, now.nanos + ttl.nanos, by simp⟩
  · next h =>
      rw [hparts]
      dsimp only
      rw [← carry]
      split
      · next hle => exact .inl ⟨hle, _, rfl⟩
      · next hgt => exact .inr ⟨by omega, rfl⟩

end Instant

/-! ## Claims -/

/-- Claims last for a span from an instant on, up to the last instant at most.  The part
of a second in the span adds a second when it completes one. -/
structure Claims.LastsFor (c : Claims) (now : Instant) (ttl : Span) : Prop where
  /-- They are issued at the instant. -/
  iat : c.iat = now.seconds
  /-- They expire after the span. -/
  exp : ∃ carry : Nat, carry ≤ 1 ∧ (ttl.nanos = 0 → carry = 0) ∧
    c.exp = min (now.seconds + ttl.seconds + carry) Instant.lastSecond

namespace Claims

variable {publicId email : String} {scopes : List Scope} {now : Instant} {ttl : Span}

/-- A token expires in the second of the sum, or in the last second. -/
theorem exp_issue (hnow : now.InRange) (ttl : Span) :
    (issue publicId email scopes now ttl).exp =
      min (now.seconds + ttl.seconds + now.carry ttl) Instant.lastSecond := by
  show (expiry now ttl).seconds = _
  unfold expiry
  split
  · next hfits =>
      rcases Instant.add?_cases hnow ttl with ⟨hin, nanos, hadd⟩ | ⟨hout, hadd⟩
      · rw [hadd, Int.min_eq_left hin]
        rfl
      · rw [hadd, Int.min_eq_right (Int.le_of_lt hout)]
        rfl
  · next hfits =>
      have := Instant.lastSecond_lt_of_not_fits hnow (eq_false_of_ne_true hfits)
      rw [Int.min_eq_right (by omega)]
      rfl

theorem iat_le_exp (hnow : now.InRange) (ttl : Span) :
    (issue publicId email scopes now ttl).iat ≤ (issue publicId email scopes now ttl).exp := by
  rw [exp_issue hnow ttl]
  show now.seconds ≤ _
  have hlast := hnow.2.1
  omega

/-- Claims that are issued last for their span. -/
theorem lastsFor_issue (hnow : now.InRange) (ttl : Span) :
    (issue publicId email scopes now ttl).LastsFor now ttl :=
  ⟨rfl, now.carry ttl, now.carry_le_one ttl, Instant.carry_of_whole, exp_issue hnow ttl⟩

namespace LastsFor

variable {c : Claims}

/-- A span of whole seconds that ends in time is the distance of the two instants. -/
theorem exp_sub_iat (h : c.LastsFor now ttl) (hz : ttl.nanos = 0)
    (hin : now.seconds + ttl.seconds ≤ Instant.lastSecond) : c.exp - c.iat = ttl.seconds := by
  obtain ⟨carry, -, hzero, hexp⟩ := h.exp
  have := hzero hz
  rw [hexp, h.iat]
  omega

/-- Claims expire at an instant that there is. -/
theorem expiresAt (h : c.LastsFor now ttl) (hnow : now.InRange) :
    c.expiresAt = Instant.ofSeconds c.exp := by
  obtain ⟨carry, -, -, hexp⟩ := h.exp
  obtain ⟨hfirst, hlast, -⟩ := hnow
  apply Claims.expiresAt_of_inRange
  omega

end LastsFor

/-- A token that expires at an instant that there is lasts as long as it should. -/
theorem exp_of_reaches (hnow : now.InRange) (httl : ttl.nanos < nanosPerSecond) {t : Instant}
    (h : now.Reaches ttl t) :
    (issue publicId email scopes now ttl).exp = t.seconds ∧
      t.seconds = now.seconds + ttl.seconds + now.carry ttl := by
  have hsum := h.seconds httl
  obtain ⟨-, hlast, -⟩ := h.inRange
  rw [exp_issue hnow ttl, hsum]
  exact ⟨Int.min_eq_left (hsum ▸ hlast), rfl⟩

/-- A token that should last longer than the calendar lasts to its end. -/
theorem exp_of_not_reaches (hnow : now.InRange) (httl : ttl.nanos < nanosPerSecond)
    (h : ∀ t, ¬ now.Reaches ttl t) :
    (issue publicId email scopes now ttl).exp = Instant.lastSecond := by
  rw [exp_issue hnow ttl]
  refine Int.min_eq_right (Int.le_of_lt (Int.lt_of_not_ge fun hin => ?_))
  obtain ⟨t, ht⟩ := Instant.exists_reaches hnow httl hin
  exact h t ht

/-- A longer span does not make a token expire earlier. -/
theorem exp_mono (hnow : now.InRange) {longer : Span} (httl : ttl.nanos < nanosPerSecond)
    (hlonger : longer.nanos < nanosPerSecond) (hle : ttl.length ≤ longer.length) :
    (issue publicId email scopes now ttl).exp ≤ (issue publicId email scopes now longer).exp := by
  rw [exp_issue hnow ttl, exp_issue hnow longer, ← Instant.position_add_length_div httl,
    ← Instant.position_add_length_div hlonger]
  have hsum : (now.position + ttl.length) / nanosPerSecond ≤
      (now.position + longer.length) / nanosPerSecond :=
    Int.ediv_le_ediv (by decide) (by omega)
  omega

/-- Claims whose second of expiry is none of the calendar expired before everything else. -/
theorem expiresAt_of_not_inRange {c : Claims}
    (h : ∀ t : Instant, t.InRange → t.seconds ≠ c.exp) : c.expiresAt = Instant.first := by
  have hout : ¬ (Instant.firstSecond ≤ c.exp ∧ c.exp ≤ Instant.lastSecond) := fun hin =>
    h (.ofSeconds c.exp) ⟨hin.1, hin.2, Nat.zero_lt_succ _⟩ rfl
  rw [expiresAt, Instant.ofSeconds?, if_neg hout]
  rfl

/-- **Lifetimes neither overflow nor shrink.**  Claims that are issued at an instant for a span
expire no earlier than they are issued, and at an instant that there is.
- If the instant and the span add up to an instant, they expire in its second, which is as many
  seconds later as the span has, or one more; it is just as many if the span has whole seconds only.
- If they do not, the claims expire with the last instant.
- For a longer span they do not expire earlier.

Claims that say that they expire in a second that is none of the calendar expired when everything
began, and so are expired at any time. -/
theorem lifetimes_saturate (publicId email : String) (scopes : List Scope) :
    (∀ (now : Instant) (ttl : Span), now.InRange → ttl.nanos < nanosPerSecond →
      let c := issue publicId email scopes now ttl
      c.iat = now.seconds ∧ c.iat ≤ c.exp ∧ c.expiresAt.seconds = c.exp ∧
      (∀ t, now.Reaches ttl t → c.exp = t.seconds ∧
        (c.exp - c.iat = ttl.seconds ∨ c.exp - c.iat = ttl.seconds + 1) ∧
        (ttl.nanos = 0 → c.exp - c.iat = ttl.seconds)) ∧
      ((∀ t, ¬ now.Reaches ttl t) → c.exp = Instant.last.seconds) ∧
      ∀ longer : Span, longer.nanos < nanosPerSecond → ttl.length ≤ longer.length →
        c.exp ≤ (issue publicId email scopes now longer).exp) ∧
    ∀ c : Claims, (∀ t : Instant, t.InRange → t.seconds ≠ c.exp) →
      c.expiresAt = Instant.first ∧ ∀ now : Instant, now.InRange → now.lt c.expiresAt = false := by
  refine ⟨fun now ttl hnow httl => ?_, fun c hout => ?_⟩
  · have hlasts : (issue publicId email scopes now ttl).LastsFor now ttl := lastsFor_issue hnow ttl
    have hcarry := now.carry_le_one ttl
    refine ⟨rfl, ?_, ?_, fun t ht => ?_, exp_of_not_reaches hnow httl,
      fun longer hlonger => exp_mono hnow httl hlonger⟩
    · exact iat_le_exp hnow ttl
    · rw [hlasts.expiresAt hnow]
      rfl
    · obtain ⟨hexp, hsum⟩ : (issue publicId email scopes now ttl).exp = t.seconds ∧
          t.seconds = now.seconds + ttl.seconds + now.carry ttl := exp_of_reaches hnow httl ht
      rw [hlasts.iat, hexp, hsum]
      refine ⟨rfl, by omega, fun hwhole => ?_⟩
      rw [Instant.carry_of_whole hwhole]
      omega
  · have hfirst := expiresAt_of_not_inRange hout
    exact ⟨hfirst, fun now hnow => by rw [hfirst, Instant.not_lt_first hnow]⟩

/-- A token that is issued in a leap second for a second and a half expires two seconds later, since
the halves complete a second.  One that is issued for the longest span expires with the last
instant, and claims that say that they expire a second later are read as expired. -/
theorem lifetimes_saturate_leap :
    let now : Instant := ⟨1483228799, 1500000000⟩
    let c := issue "p" "e" [.user] now ⟨1, 500000000⟩
    let longest := issue "p" "e" [.user] now ⟨18446744073709551615, 999999999⟩
    let late : Claims := ⟨"p", "e", [.user], 0, 8210266876800⟩
    now.InRange ∧ now.Reaches ⟨1, 500000000⟩ ⟨1483228801, 0⟩ ∧
    c.exp = 1483228801 ∧ (c.exp - c.iat = 1 ∨ c.exp - c.iat = 2) ∧ c.exp ≤ longest.exp ∧
    longest.exp = Instant.last.seconds ∧
    late.expiresAt = Instant.first ∧ now.lt late.expiresAt = false := by
  intro now c longest late
  have hnow : now.InRange := by decide
  have hreaches : now.Reaches ⟨1, 500000000⟩ ⟨1483228801, 0⟩ := ⟨by decide, by decide⟩
  obtain ⟨hissued, hout⟩ := lifetimes_saturate "p" "e" [.user]
  obtain ⟨-, -, -, hin, -, hmono⟩ := hissued now ⟨1, 500000000⟩ hnow (by decide)
  obtain ⟨hexp, hlasts, -⟩ := hin _ hreaches
  obtain ⟨-, -, -, -, hsaturates, -⟩ :=
    hissued now ⟨18446744073709551615, 999999999⟩ hnow (by decide)
  have hnever : ∀ t, ¬ now.Reaches ⟨18446744073709551615, 999999999⟩ t := by
    intro t ht
    have hsum := ht.seconds (by decide)
    have hlast := ht.inRange.2.1
    have hcarry : now.carry ⟨18446744073709551615, 999999999⟩ = 1 := by decide
    rw [hsum, hcarry] at hlast
    exact absurd hlast (by decide)
  obtain ⟨hfirst, hexpired⟩ := hout late fun t ht hsec => by
    have hlast := ht.2.1
    rw [hsec] at hlast
    exact absurd hlast (by decide)
  exact ⟨hnow, hreaches, hexp, hlasts, hmono _ (by decide) (by decide), hsaturates hnever, hfirst,
    hexpired now hnow⟩

end Claims

end Accounts
