import Accounts.Outbox.Timeline
import Accounts.Proofs.Except
import Accounts.Proofs.Otp.RecoveryCode
import Accounts.Proofs.Service.Provenance
import Accounts.Proofs.Text.Integer
/-!
# Settings are accepted if they can be used

What is asked of the variables is spelled out in `Variables.Usable`, and it is just what reading
the settings checks (`Settings.exists_read_iff`).

Some of the bounds are there for others: the relay cannot tick without a period, an engine
refuses an issuer with a colon, there are only so many recovery codes, and the calendar comes to
an end.  `Settings.Sound` says that none of these fails on settings that were accepted.
-/

namespace Accounts

open Text (IntegerRange Writes trimChars)

/-! ## Variables -/

namespace Variables

variable {vars : Variables} {key : String} {r : IntegerRange} {n default least greatest : Nat}

/-- A variable that is set writes a number between two others, with blanks around it or none. -/
def Between (vars : Variables) (key : String) (least greatest : Nat) : Prop :=
  ∀ raw, vars key = some raw → ∃ n, Writes (trimChars raw.toList) n ∧ least ≤ n ∧ n ≤ greatest

/-- A variable that is set is one of the words for truth values, with blanks around it or none. -/
def Flag (vars : Variables) (key : String) : Prop :=
  ∀ raw, vars key = some raw → Text.trim raw = "true" ∨ Text.trim raw = "false"

theorem integerOr_of_none (hv : vars key = none) : vars.integerOr key r default = .ok default := by
  simp [integerOr, hv]

theorem integerOr_of_some {raw : String} (hv : vars key = some raw) (hleast : r.least = 0)
    (hgreatest : r.greatest = greatest) : vars.integerOr key r default = .ok n ↔
      Writes (trimChars raw.toList) n ∧ n ≤ greatest := by
  have hread : Text.readInteger r (Text.trim raw) = Text.readChars r (trimChars raw.toList) := by
    rw [Text.readInteger, Text.trim, String.toList_ofList]
  have hiff (i : Int) : Text.readChars r (trimChars raw.toList) = .ok i ↔ _ :=
    Text.readChars_eq_ok_iff hleast (by omega)
  simp only [integerOr, hv, hread]
  cases hi : Text.readChars r (trimChars raw.toList) with
  | error f =>
      have hnone := hiff n
      simp only [hi, hgreatest, reduceCtorEq, false_iff, not_exists] at hnone
      simpa using fun hw => Nat.lt_of_not_le fun hle => hnone n ⟨hw, rfl, by omega⟩
  | ok i =>
      obtain ⟨m, hw, rfl, hle⟩ := (hiff i).1 hi
      constructor
      · intro h
        cases h
        exact ⟨hw, by simpa [hgreatest] using hle⟩
      · rintro ⟨hw', hle'⟩
        have hn := (hiff n).2 ⟨n, hw', rfl, by omega⟩
        rw [hi] at hn
        cases hn
        rfl

variable (default) in
theorem exists_integerOr_iff (hleast : r.least = 0) (hgreatest : r.greatest = greatest) :
    (∃ n, vars.integerOr key r default = .ok n) ↔ vars.Between key 0 greatest := by
  cases hv : vars key with
  | none => simp [integerOr_of_none hv, Between, hv]
  | some raw => simp [integerOr_of_some hv hleast hgreatest, Between, hv]

theorem le_of_integerOr (hleast : r.least = 0) (hgreatest : r.greatest = greatest)
    (hdefault : default ≤ greatest) (h : vars.integerOr key r default = .ok n) : n ≤ greatest := by
  cases hv : vars key with
  | none =>
      rw [integerOr_of_none hv] at h
      cases h
      exact hdefault
  | some raw => exact ((integerOr_of_some hv hleast hgreatest).1 h).2

theorem boundedOr_eq_ok_iff : vars.boundedOr key greatest default = .ok n ↔
    vars.integerOr key .nat64 default = .ok n ∧ 1 ≤ n ∧ n ≤ greatest := by
  rw [boundedOr, Except.bind_eq_ok_iff]
  constructor
  · rintro ⟨m, hm, h⟩
    split at h
    · cases h
    · cases h
      exact ⟨hm, by omega⟩
  · rintro ⟨hn, hleast, hgreatest⟩
    refine ⟨n, hn, ?_⟩
    rw [if_neg (by omega)]
    rfl

variable (default) in
theorem exists_boundedOr_iff (hdefault : 1 ≤ default ∧ default ≤ greatest)
    (hgreatest : greatest < Nat.pow 2 64) :
    (∃ n, vars.boundedOr key greatest default = .ok n) ↔ vars.Between key 1 greatest := by
  have hrange : IntegerRange.nat64.greatest = (Nat.pow 2 64 - 1 : Nat) := rfl
  simp only [boundedOr_eq_ok_iff]
  cases hv : vars key with
  | none => simpa [integerOr_of_none hv, Between, hv] using hdefault
  | some raw =>
      simp only [integerOr_of_some hv rfl hrange, Between, hv, Option.some.injEq, forall_eq']
      refine exists_congr fun n => ?_
      constructor
      · exact fun h => ⟨h.1.1, h.2⟩
      · exact fun h => ⟨⟨h.1, by omega⟩, h.2⟩

theorem exists_flagOr_iff (default : Bool) :
    (∃ b, vars.flagOr key default = .ok b) ↔ vars.Flag key := by
  cases hv : vars key with
  | none => simp [flagOr, Flag, hv]
  | some raw =>
      simp only [flagOr, Flag, hv, Option.some.injEq, forall_eq']
      by_cases htrue : Text.trim raw = "true"
      · simp [htrue]
      by_cases hfalse : Text.trim raw = "false"
      · simp [hfalse]
      · simp [htrue, hfalse]

/-- What is asked of the variables. -/
structure Usable (vars : Variables) : Prop where
  database : (vars "DATABASE_URL").isSome
  connections : ∀ key ∈ ["DATABASE_MAX_CONNECTIONS", "DATABASE_MIN_CONNECTIONS"],
    vars.Between key 0 (Nat.pow 2 32 - 1)
  timeouts : ∀ key ∈ ["DATABASE_ACQUIRE_TIMEOUT", "KAFKA_PRODUCER_TIMEOUT"],
    vars.Between key 0 (Nat.pow 2 64 - 1)
  /-- Both halves of a pair of keys are there, or none of them and a secret that is not empty. -/
  keys : ((vars "JWT_PRIVATE_KEY").isSome ∧ (vars "JWT_PUBLIC_KEY").isSome) ∨
    (vars "JWT_PRIVATE_KEY" = none ∧ vars "JWT_PUBLIC_KEY" = none ∧
      ∃ secret, vars "JWT_SECRET" = some secret ∧ secret ≠ "")
  lifetimes : ∀ key ∈ ["JWT_TTL_SECONDS", "JWT_TWO_FA_TTL_SECONDS"], vars.Between key 1 31536000
  issuer : ∀ issuer, vars "OTP_ISSUER" = some issuer → ':' ∉ issuer.toList
  recoveryCodes : vars.Between "OTP_RECOVERY_CODE_COUNT" 1 100
  enabled : vars.Flag "OTP_ENABLED"
  skew : vars.Between "OTP_SKEW" 0 255
  tick : vars.Between "OUTBOX_TICK_MS" 1 (Nat.pow 2 64 - 1)

end Variables

/-! ## The groups of settings -/

section Groups

variable {vars : Variables}

theorem DatabaseSettings.exists_read_iff : (∃ st, DatabaseSettings.read vars = .ok st) ↔
    (vars "DATABASE_URL").isSome ∧ vars.Between "DATABASE_MAX_CONNECTIONS" 0 (Nat.pow 2 32 - 1) ∧
      vars.Between "DATABASE_MIN_CONNECTIONS" 0 (Nat.pow 2 32 - 1) ∧
      vars.Between "DATABASE_ACQUIRE_TIMEOUT" 0 (Nat.pow 2 64 - 1) := by
  rw [← Variables.exists_integerOr_iff 20 (r := .nat32) rfl rfl,
    ← Variables.exists_integerOr_iff 2 (r := .nat32) rfl rfl,
    ← Variables.exists_integerOr_iff 5 (r := .nat64) rfl rfl]
  cases hv : vars "DATABASE_URL" with
  | none => simp [DatabaseSettings.read, hv]
  | some url => simp [DatabaseSettings.read, hv, Except.exists_bind_iff, Except.exists_map_iff]

theorem KafkaSettings.exists_read_iff : (∃ st, KafkaSettings.read vars = .ok st) ↔
    vars.Between "KAFKA_PRODUCER_TIMEOUT" 0 (Nat.pow 2 64 - 1) := by
  rw [← Variables.exists_integerOr_iff 5 (r := .nat64) rfl rfl]
  simp [KafkaSettings.read, Except.exists_map_iff]

theorem JwtSettings.exists_readKeys_iff : (∃ keys, JwtSettings.readKeys vars = .ok keys) ↔
    ((vars "JWT_PRIVATE_KEY").isSome ∧ (vars "JWT_PUBLIC_KEY").isSome) ∨
    (vars "JWT_PRIVATE_KEY" = none ∧ vars "JWT_PUBLIC_KEY" = none ∧
      ∃ secret, vars "JWT_SECRET" = some secret ∧ secret ≠ "") := by
  cases hpriv : vars "JWT_PRIVATE_KEY" with
  | some priv =>
      cases hpub : vars "JWT_PUBLIC_KEY" with
      | some pub => simp [JwtSettings.readKeys, hpriv, hpub]
      | none => simp [JwtSettings.readKeys, hpriv, hpub]
  | none =>
      cases hpub : vars "JWT_PUBLIC_KEY" with
      | some pub => simp [JwtSettings.readKeys, hpriv, hpub]
      | none =>
          cases hsecret : vars "JWT_SECRET" with
          | none => simp [JwtSettings.readKeys, hpriv, hpub, hsecret]
          | some secret =>
              by_cases hempty : secret = ""
              · simp [JwtSettings.readKeys, hpriv, hpub, hsecret, hempty]
              · simp [JwtSettings.readKeys, hpriv, hpub, hsecret, hempty]

theorem JwtSettings.exists_read_iff : (∃ st, JwtSettings.read vars = .ok st) ↔
    (∃ keys, JwtSettings.readKeys vars = .ok keys) ∧
      vars.Between "JWT_TTL_SECONDS" 1 maxTokenSeconds ∧
      vars.Between "JWT_TWO_FA_TTL_SECONDS" 1 maxTokenSeconds := by
  rw [← Variables.exists_boundedOr_iff 3600 (by decide) (by decide),
    ← Variables.exists_boundedOr_iff 300 (by decide) (by decide)]
  simp [JwtSettings.read, Except.exists_bind_iff, Except.exists_map_iff]

theorem OtpSettings.exists_read_iff : (∃ st, OtpSettings.read vars = .ok st) ↔
    (∀ issuer, vars "OTP_ISSUER" = some issuer → ':' ∉ issuer.toList) ∧
      vars.Between "OTP_RECOVERY_CODE_COUNT" 1 maxRecoveryCodes ∧ vars.Flag "OTP_ENABLED" ∧
      vars.Between "OTP_SKEW" 0 255 := by
  rw [← Variables.exists_boundedOr_iff 10 (by decide) (by decide),
    ← Variables.exists_flagOr_iff false,
    ← Variables.exists_integerOr_iff 0 (r := .nat8) rfl rfl]
  cases hv : vars "OTP_ISSUER" with
  | none =>
    simp [OtpSettings.read, hv, OtpSettings.default, Except.exists_bind_iff, Except.exists_map_iff]
  | some issuer =>
    by_cases hcolon : ':' ∈ issuer.toList
    · simp [OtpSettings.read, hv, hcolon, throw, throwThe, MonadExceptOf.throw, bind, Except.bind]
    · simp [OtpSettings.read, hv, hcolon, OtpSettings.default, Except.exists_bind_iff,
        Except.exists_map_iff]

theorem OutboxSettings.read_eq_ok_iff {st : OutboxSettings} :
    OutboxSettings.read vars = .ok st ↔
      ∃ ms, vars.boundedOr "OUTBOX_TICK_MS" (Nat.pow 2 64 - 1) 50 = .ok ms ∧
        st = ⟨.ofMillis ms⟩ := by
  simp only [OutboxSettings.read, Except.bind_eq_ok_iff, Variables.boundedOr_eq_ok_iff]
  constructor
  · rintro ⟨ms, hms, h⟩
    split at h
    · cases h
    · next hpos =>
        cases h
        have hle : ms ≤ Nat.pow 2 64 - 1 := Variables.le_of_integerOr rfl rfl (by decide) hms
        exact ⟨ms, ⟨hms, Nat.pos_of_ne_zero hpos, hle⟩, rfl⟩
  · rintro ⟨ms, ⟨hms, hpos, -⟩, rfl⟩
    refine ⟨ms, hms, ?_⟩
    rw [if_neg (by omega)]
    rfl

theorem OutboxSettings.exists_read_iff : (∃ st, OutboxSettings.read vars = .ok st) ↔
    vars.Between "OUTBOX_TICK_MS" 1 (Nat.pow 2 64 - 1) := by
  rw [← Variables.exists_boundedOr_iff 50 (by decide) (by decide)]
  simp only [OutboxSettings.read_eq_ok_iff]
  exact ⟨fun ⟨_, ms, hms, _⟩ => ⟨ms, hms⟩, fun ⟨ms, hms⟩ => ⟨_, ms, hms, rfl⟩⟩

/-- Settings are accepted exactly if the variables are usable. -/
theorem Settings.exists_read_iff : (∃ st, Settings.read vars = .ok st) ↔ vars.Usable := by
  have hgroups : (∃ st, Settings.read vars = .ok st) ↔
      (∃ st, DatabaseSettings.read vars = .ok st) ∧ (∃ st, KafkaSettings.read vars = .ok st) ∧
        (∃ st, JwtSettings.read vars = .ok st) ∧ (∃ st, OtpSettings.read vars = .ok st) ∧
        ∃ st, OutboxSettings.read vars = .ok st := by
    simp [Settings.read, Except.exists_bind_iff, Except.exists_map_iff]
  rw [hgroups, DatabaseSettings.exists_read_iff, KafkaSettings.exists_read_iff,
    JwtSettings.exists_read_iff, JwtSettings.exists_readKeys_iff, OtpSettings.exists_read_iff,
    OutboxSettings.exists_read_iff]
  constructor
  · rintro ⟨⟨hurl, hmost, hfewest, hacquire⟩, hproducer, ⟨hkeys, httl, htwoFa⟩,
      ⟨hissuer, hcodes, henabled, hskew⟩, htick⟩
    exact {
      database := hurl
      connections := by simpa using ⟨hmost, hfewest⟩
      timeouts := by simpa using ⟨hacquire, hproducer⟩
      keys := hkeys
      lifetimes := by simpa using ⟨httl, htwoFa⟩
      issuer := hissuer
      recoveryCodes := hcodes
      enabled := henabled
      skew := hskew
      tick := htick }
  · intro h
    exact ⟨⟨h.database, h.connections _ (by simp), h.connections _ (by simp),
        h.timeouts _ (by simp)⟩, h.timeouts _ (by simp),
      ⟨h.keys, h.lifetimes _ (by simp), h.lifetimes _ (by simp)⟩,
      ⟨h.issuer, h.recoveryCodes, h.enabled, h.skew⟩, h.tick⟩

end Groups

/-! ## Settings that are put to use -/

/-- What depends on the settings does not fail on them. -/
structure Settings.Sound (st : Settings) : Prop where
  /-- A relay can tick. -/
  ticks : st.outbox.tick.isZero = false ∧ ∀ (w : Outbox.Timeline) (r : Outbox.Relay),
    r.phase = .fresh st.outbox.tick.millis → (w.resume r).1.phase ≠ .ended false
  /-- An engine makes a secret for every account that can have one. -/
  enrols : ∀ bytes account, Otp.leastSecret ≤ bytes.length → ':' ∉ account.toList →
    ∃ setup, (⟨st.otp.issuer, st.otp.skew⟩ : Otp.Totp).generate bytes account = .ok setup
  /-- Making recovery codes does not fail, and it comes to an end when there are enough
  different draws. -/
  recovers : ∀ draws, ∃ codes,
    Otp.RecoveryCode.generate st.otp.recoveryCodeCount draws = .ok codes ∧
    ∀ distinct : List Nat, distinct.Nodup → distinct ⊆ draws →
      st.otp.recoveryCodeCount ≤ distinct.length → codes.isSome = true
  /-- Tokens last as long as they should. -/
  expires : ∀ ttl ∈ [st.jwt.ttl, st.jwt.twoFaTtl], ttl.nanos = 0 ∧
    ∀ (now : Instant) (publicId email : String) (scopes : List Scope), now.InRange →
      now.seconds + maxTokenSeconds ≤ Instant.lastSecond →
      (Claims.issue publicId email scopes now ttl).exp -
        (Claims.issue publicId email scopes now ttl).iat = ttl.seconds

section Uses

variable {vars : Variables}

theorem JwtSettings.lifetimes {st : JwtSettings} (h : JwtSettings.read vars = .ok st) :
    ∀ ttl ∈ [st.ttl, st.twoFaTtl], ttl.nanos = 0 ∧ ttl.seconds ≤ maxTokenSeconds := by
  simp only [JwtSettings.read, Except.bind_eq_ok_iff] at h
  obtain ⟨keys, -, ttl, httl, twoFa, htwoFa, hst⟩ := h
  cases hst
  have hle := (Variables.boundedOr_eq_ok_iff.1 httl).2.2
  have hle' := (Variables.boundedOr_eq_ok_iff.1 htwoFa).2.2
  simp [Span.ofSeconds, hle, hle']

theorem OtpSettings.bounds {st : OtpSettings} (h : OtpSettings.read vars = .ok st) :
    ':' ∉ st.issuer.toList ∧ st.recoveryCodeCount ≤ maxRecoveryCodes := by
  unfold OtpSettings.read at h
  dsimp only at h
  split at h
  · cases h
  · next hcolon =>
      simp only [Except.bind_eq_ok_iff] at h
      obtain ⟨count, hcount, enabled, -, skew, -, hst⟩ := h
      cases hst
      exact ⟨by simpa using hcolon, (Variables.boundedOr_eq_ok_iff.1 hcount).2.2⟩

theorem Span.millis_ofMillis (n : Nat) : (Span.ofMillis n).millis = n := by
  dsimp only [Span.millis, Span.ofMillis]
  omega

theorem Span.isZero_ofMillis {n : Nat} (h : 1 ≤ n) : (Span.ofMillis n).isZero = false := by
  rw [Span.isZero, Span.ofMillis, Bool.and_eq_false_iff]
  simp only [beq_eq_false_iff_ne]
  omega

namespace Outbox.Timeline

/-- Who has a ticker does not come to a disorderly end. -/
theorem loop_orderly (now : Nat) (w : Timeline) (r : Relay) (ticker : Ticker) :
    (loop now w r ticker).1.phase ≠ .ended false := by
  fun_induction loop now w r ticker with
  | case1 w r ticker h => simp
  | case2 w r ticker h => simp [await]
  | case3 w r ticker h ih => exact ih
  | case4 w r ticker h result w₁ hproceed r₂ w₂ hafter ih => exact ih
  | case5 w r ticker h m next w₁ hproceed => simp [await]

theorem resume_of_pos {w : Timeline} {r : Relay} {period : Nat} (hr : r.phase = .fresh period)
    (hpos : 0 < period) : (w.resume r).1.phase ≠ .ended false := by
  rw [resume, hr]
  dsimp only
  rw [dif_pos hpos]
  exact loop_orderly w.now w r ⟨period, w.now, hpos⟩

end Outbox.Timeline

theorem Otp.Totp.exists_generate {t : Totp} {bytes : List UInt8} {account : String}
    (hissuer : ':' ∉ t.issuer.toList) (hbytes : leastSecret ≤ bytes.length)
    (haccount : ':' ∉ account.toList) : ∃ setup, t.generate bytes account = .ok setup := by
  have hcheck : t.check bytes account = .ok () := by
    simp [check, Nat.not_lt.2 hbytes, hissuer, haccount]
  rw [generate, hcheck]
  exact ⟨_, rfl⟩

theorem Settings.sound_of_read {st : Settings} (h : Settings.read vars = .ok st) : st.Sound := by
  simp only [Settings.read, Except.bind_eq_ok_iff] at h
  obtain ⟨database, -, kafka, -, jwt, hjwt, otp, hotp, outbox, houtbox, hst⟩ := h
  cases hst
  obtain ⟨ms, hms, rfl⟩ := OutboxSettings.read_eq_ok_iff.1 houtbox
  have hpos := (Variables.boundedOr_eq_ok_iff.1 hms).2.1
  obtain ⟨hissuer, hcount⟩ := OtpSettings.bounds hotp
  refine ⟨⟨Span.isZero_ofMillis hpos, fun w r hr => ?_⟩,
    fun bytes account => Otp.Totp.exists_generate hissuer, fun draws => ?_, fun ttl httl => ?_⟩
  · exact Outbox.Timeline.resume_of_pos hr (by rwa [Span.millis_ofMillis])
  · have hle : otp.recoveryCodeCount ≤ Otp.RecoveryCode.available :=
      Nat.le_trans hcount (by decide)
    refine ⟨_, Otp.RecoveryCode.generate_of_le hle draws, fun distinct hnodup hsub henough => ?_⟩
    rw [Option.isSome_map]
    exact Otp.RecoveryCode.collect_isSome hnodup (fun d hd => ⟨hsub hd, by simp⟩) henough
  · obtain ⟨hnanos, hle⟩ := JwtSettings.lifetimes hjwt ttl httl
    refine ⟨hnanos, fun now publicId email scopes hnow hlast => ?_⟩
    exact (Claims.lastsFor_issue hnow ttl).exp_sub_iat hnanos (by omega)

end Uses

/-- **Settings are accepted exactly if they are usable**, and nothing that depends on accepted
settings fails on them: a relay ticks, an engine makes secrets and recovery codes, and tokens
last as long as they should. -/
theorem settings_accepted_iff_usable (vars : Variables) :
    ((∃ st, Settings.read vars = .ok st) ↔ vars.Usable) ∧
      ∀ st, Settings.read vars = .ok st → st.Sound :=
  ⟨Settings.exists_read_iff, fun _ => Settings.sound_of_read⟩

/-- The variables of a small server. -/
def Variables.sample : Variables
  | "DATABASE_URL" => some "postgres://localhost/accounts"
  | "JWT_SECRET" => some "secret"
  | "JWT_TTL_SECONDS" => some " +900\n"
  | "OTP_ENABLED" => some "true"
  | _ => none

/-- The settings of a small server are accepted. -/
theorem settings_accepted_iff_usable_sample : Variables.sample.Usable ∧
    ∃ st, Settings.read Variables.sample = .ok st ∧ st.jwt.ttl = .ofSeconds 900 ∧
      st.outbox.tick = .ofMillis 50 ∧ st.Sound := by
  obtain ⟨haccepted, hsound⟩ := settings_accepted_iff_usable Variables.sample
  have hread : ∃ st, Settings.read Variables.sample = .ok st ∧ st.jwt.ttl = .ofSeconds 900 ∧
    st.outbox.tick = .ofMillis 50 := ⟨_, rfl, rfl, rfl⟩
  obtain ⟨st, hst, httl, htick⟩ := hread
  exact ⟨haccepted.1 ⟨st, hst⟩, st, hst, httl, htick, hsound st hst⟩

end Accounts
