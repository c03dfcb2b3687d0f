import Accounts.Operation.Memory
import Accounts.Proofs.Operation.Failure
import Accounts.Proofs.Service.World
/-!
# A call on its own

A call runs alone, and anything may go wrong with any of its questions: the directory
fails or finds nobody, the outbox refuses what is stored, the engine for the second
factor or the signer fails.  What goes wrong is up to a sequence of circumstances, one
for each question.

`Directory.Answered` is what is left of a run when the call is forgotten: questions with
their replies, each made to the directory that the one before left.  A call that fails
has made none of its changes, so such a chain leads from a directory to itself, but for
the switches of the outbox.
-/

namespace Accounts

open Operation (Trace)
open Outbox (Store)

/-- What the surroundings of a question of a call on its own are like. -/
structure Circumstance extends Moment where
  /-- The outbox stores nothing. -/
  refusing : Bool
  /-- The directory finds nobody. -/
  missing : Bool

/-- What a call on its own leaves behind. -/
structure Aftermath (α : Type) where
  /-- Its result. -/
  result : α
  /-- What it asked. -/
  trace : Trace
  /-- The directory afterwards. -/
  directory : Directory

namespace Directory

/-- The directory with its outbox switched. -/
def switched (d : Directory) (refusing : Bool) : Directory :=
  { d with outbox := { d.outbox with refusing } }

/-- Users and rows are the same; the switches of the outbox and its locks need not be. -/
structure Same (d d' : Directory) : Prop where
  users : d'.users = d.users
  rows : d'.outbox.rows = d.outbox.rows

/-- Users and rows are the same, but for one recovery code of one user. -/
structure WithoutCode (d d' : Directory) (publicId code : String) : Prop where
  /-- The user had the code, and has the other ones still. -/
  users : ∃ before u after, d.users = before ++ u :: after ∧ u.publicId = publicId ∧
    code ∈ u.otpRecoveryCodes ∧ d'.users = before ++
      { u with otpRecoveryCodes := u.otpRecoveryCodes.filter (· != code) } :: after
  /-- The rows are the same. -/
  rows : d'.outbox.rows = d.outbox.rows

theorem Same.refl (d : Directory) : d.Same d := ⟨rfl, rfl⟩

theorem Same.trans {d d' d'' : Directory} (h : d.Same d') (k : d'.Same d'') : d.Same d'' :=
  ⟨k.users.trans h.users, k.rows.trans h.rows⟩

end Directory

namespace Circumstance

/-- The reply to a question, and what it does to a directory. -/
def reply (x : Circumstance) (d : Directory) :
    (q : ServiceCall) → Except AccountError q.Result × Directory
  | .users c =>
    match x.failure with
    | some e => (.error e, d.switched x.refusing)
    | none =>
      if x.missing then (d.switched x.refusing).replyAimless x.clock c
      else (d.switched x.refusing).reply x.clock c
  | .otp c => (x.otp c, d)
  | .sign c => (x.sign c, d)

variable {x : Circumstance} {d : Directory}

/-- A request fails, is aimed at nobody, or is replied to as usual. -/
theorem reply_users (x : Circumstance) (d : Directory) (c : DirectoryCall) :
    (∃ e, x.reply d (.users c) = (.error e, d.switched x.refusing)) ∨
    x.reply d (.users c) = (d.switched x.refusing).replyAimless x.clock c ∨
    x.reply d (.users c) = (d.switched x.refusing).reply x.clock c := by
  cases hf : x.failure with
  | some e => exact .inl ⟨e, by simp only [reply, hf]⟩
  | none =>
      cases hm : x.missing with
      | true =>
          refine .inr (.inl ?_)
          simp only [reply, hf, hm]
          rfl
      | false =>
          refine .inr (.inr ?_)
          simp only [reply, hf, hm]
          rfl

/-- Nothing was changed when the reply says so. -/
theorem same_of_idle {q : ServiceCall} (h : Exchange.Idle ⟨q, (x.reply d q).1⟩) :
    d.Same (x.reply d q).2 := by
  cases q with
  | otp c => exact .refl d
  | sign c => exact .refl d
  | users c =>
      have hswitched : d.Same (d.switched x.refusing) := ⟨rfl, rfl⟩
      rcases x.reply_users d c with ⟨e, hr⟩ | hr | hr
      · rwa [hr]
      · rw [hr] at h ⊢
        rwa [Directory.replyAimless_eq_of_not_granted (Exchange.idle_users.1 h)]
      · rw [hr] at h ⊢
        rwa [(Directory.replies_reply _ _ c).eq_of_not_granted (Exchange.idle_users.1 h)]

/-- Who is found by a public name is there and has it. -/
theorem found_publicId {publicId : String} {u : User}
    (h : (x.reply d (.users (.findByPublicId publicId))).1 = .ok (some u)) :
    u ∈ d.users ∧ u.publicId = publicId := by
  rcases x.reply_users d (.findByPublicId publicId) with ⟨e, hr⟩ | hr | hr
  · rw [hr] at h
    cases h
  · rw [hr] at h
    cases h
  · rw [hr] at h
    have hfind : d.users.find? (·.publicId == publicId) = some u := Except.ok.inj h
    exact ⟨List.mem_of_find?_eq_some hfind, by simpa using List.find?_some hfind⟩

/-- A code that is used up is removed from a user who held it, and nothing else happens. -/
theorem consumed {id : Int} {code : String}
    (h : (x.reply d (.users (.consumeRecoveryCode id code))).1 = .ok true) :
    ∃ before u after, d.users = before ++ u :: after ∧ u.id = id ∧ code ∈ u.otpRecoveryCodes ∧
      (x.reply d (.users (.consumeRecoveryCode id code))).2.users = before ++
        { u with otpRecoveryCodes := u.otpRecoveryCodes.filter (· != code) } :: after ∧
      (x.reply d (.users (.consumeRecoveryCode id code))).2.outbox.rows = d.outbox.rows := by
  rcases x.reply_users d (.consumeRecoveryCode id code) with ⟨e, hr⟩ | hr | hr
  · rw [hr] at h
    cases h
  · rw [hr] at h
    cases h
  · rw [hr] at h ⊢
    have hreplies := (d.switched x.refusing).replies_reply x.clock (.consumeRecoveryCode id code)
    rw [h] at hreplies
    exact hreplies.consumed

end Circumstance

namespace Directory

variable {d d' : Directory} {t t' : Trace}

/-- A chain of questions with their replies leads from one directory to another. -/
inductive Answered : Directory → Trace → Directory → Prop
  /-- Nothing is asked. -/
  | nil (d : Directory) : Answered d [] d
  /-- One question is asked, and the others after it. -/
  | cons {d d' : Directory} {t : Trace} (x : Circumstance) (q : ServiceCall)
      (rest : Answered (x.reply d q).2 t d') : Answered d (⟨q, (x.reply d q).1⟩ :: t) d'

namespace Answered

theorem of_append (h : Answered d (t ++ t') d') : ∃ m, Answered d t m ∧ Answered m t' d' := by
  induction t generalizing d with
  | nil => exact ⟨d, .nil d, h⟩
  | cons y t ih =>
      cases h with
      | cons x q rest =>
          obtain ⟨m, h₁, h₂⟩ := ih rest
          exact ⟨m, .cons x q h₁, h₂⟩

/-- Nothing was changed when all replies say so. -/
theorem same (h : Answered d t d') (hidle : ∀ y ∈ t, y.Idle) : d.Same d' := by
  induction h with
  | nil d => exact .refl d
  | cons x q rest ih =>
      obtain ⟨hy, ht⟩ := List.forall_mem_cons.1 hidle
      exact (Circumstance.same_of_idle hy).trans (ih ht)

theorem of_cons {y : Exchange serviceSurroundings} (h : Answered d (y :: t) d') :
    ∃ x : Circumstance, (x.reply d y.query).1 = y.reply ∧
      Answered (x.reply d y.query).2 t d' := by
  cases h with
  | cons x q rest => exact ⟨x, rfl, rest⟩

/-- A second step of a login that uses a recovery code up and then gets no token takes the
code from the account that it is about. -/
theorem withoutCode {publicId code : String} {u : User} {k : Claims} {e : AccountError}
    (hd : d.Numbered) (h : Answered d (.users (.findByPublicId publicId) (.ok (some u)) ::
      (Operation.rejected u code ++ [.users (.consumeRecoveryCode u.id code) (.ok true),
        .sign k (.error e)])) d') : d.WithoutCode d' publicId code := by
  obtain ⟨x, hfound, hrest⟩ := h.of_cons
  obtain ⟨hu, hpublic⟩ := Circumstance.found_publicId hfound
  have hsame₁ : d.Same _ := Circumstance.same_of_idle (by rw [hfound]; rfl)
  obtain ⟨d₂, hrejected, hconsume⟩ := hrest.of_append
  have hsame : d.Same d₂ := hsame₁.trans (hrejected.same (Operation.idle_rejected u code))
  obtain ⟨y, hused, hsign⟩ := hconsume.of_cons
  obtain ⟨before, v, after, hv, hid, hcode, husers, hrows⟩ := Circumstance.consumed hused
  have hlast := hsign.same (List.forall_mem_singleton.2 rfl)
  -- The user who was found and the one who had the code have the same number.
  rw [hsame.users] at hv
  have hmem : v ∈ d.users := by rw [hv]; exact List.mem_append_right _ List.mem_cons_self
  obtain rfl := hd.eq_of_id hmem hu hid
  exact ⟨⟨before, v, after, hv, hpublic, hcode, hlast.users.trans husers⟩,
    hlast.rows.trans (hrows.trans hsame.rows)⟩

end Answered

variable {α : Type}

/-- Runs a call on its own. -/
def alone (d : Directory) (x : Nat → Circumstance) : Dialogue serviceSurroundings α → Aftermath α
  | .done a => ⟨a, [], d⟩
  | .ask q next =>
    let (r, d') := (x 0).reply d q
    let rest := d'.alone (fun k => x (k + 1)) (next r)
    { rest with trace := ⟨q, r⟩ :: rest.trace }

theorem ends_alone (d : Directory) (x : Nat → Circumstance)
    (p : Dialogue serviceSurroundings α) : p.Ends (d.alone x p).trace (d.alone x p).result := by
  induction p generalizing d x with
  | done a => exact .start _
  | ask q next ih => exact .reply (ih _ _ _)

theorem answered_alone (d : Directory) (x : Nat → Circumstance)
    (p : Dialogue serviceSurroundings α) :
    Answered d (d.alone x p).trace (d.alone x p).directory := by
  induction p generalizing d x with
  | done a => exact .nil d
  | ask q next ih => exact .cons (x 0) q (ih _ _ _)

/-- What a call on its own leaves behind when it fails. -/
theorem alone_error {d : Directory} (hd : d.Numbered) (s : Service) (call : Call)
    (x : Nat → Circumstance) {e : AccountError}
    (he : (d.alone x (s.operation call).run).result = .error e) :
    d.Same (d.alone x (s.operation call).run).directory ∨
    ∃ claims r now k, call = .authenticateTwoFa claims r now ∧
      .sign k (.error e) ∈ (d.alone x (s.operation call).run).trace ∧
      d.WithoutCode (d.alone x (s.operation call).run).directory claims.sub r.code := by
  have hends : (s.operation call).Ends _ _ := d.ends_alone x _
  have hanswered := d.answered_alone x (s.operation call).run
  rw [he] at hends
  by_cases hcall : ∃ claims r now, call = .authenticateTwoFa claims r now
  · obtain ⟨claims, r, now, rfl⟩ := hcall
    rcases Operation.ends_authenticateTwoFa_error hends with hidle | ⟨u, ht⟩
    · exact .inl (hanswered.same hidle)
    · refine .inr ⟨claims, r, now, Operation.claimsFor u .user now s.policy.sessionTtl, rfl, ?_, ?_⟩
      · rw [ht]
        simp
      · rw [ht] at hanswered
        exact hanswered.withoutCode hd
  · have hcareful : (s.operation call).Careful :=
      Operation.careful_operation s fun claims r now h => hcall ⟨claims, r, now, h⟩
    exact .inl (hanswered.same (hcareful.idle_of_error hends))

end Directory

/-! ## Calls in memory -/

namespace ServiceMemory

/-- What the surroundings in memory are like for a question. -/
def circumstance (m : ServiceMemory) (q : ServiceCall) : Circumstance where
  clock := m.clock
  failure :=
    match q with
    | .users c =>
      if m.faults.lookup c.name = some .broken then some (.database "injected") else none
    | _ => none
  otp o := (m.engine.reply m.chance o).1.getD (.error .invalidOtpCode)
  sign := m.replySign
  refusing := m.directory.outbox.refusing
  missing :=
    match q with
    | .users c => m.faults.lookup c.name == some .missing
    | _ => false

/-- Requests fail and find nobody, and that is all that goes wrong with them.  Faults that
change the directory under a call are about calls that meet, not about one on its own. -/
def Plain (m : ServiceMemory) : Prop := ∀ f ∈ m.faults, f.2 = .broken ∨ f.2 = .missing

/-- In memory a request is replied to as in its circumstance. -/
theorem replyUsers_eq {m : ServiceMemory} (hm : m.Plain) (c : DirectoryCall) :
    (m.circumstance (.users c)).reply m.directory (.users c) =
      ((m.replyUsers c).1, (m.replyUsers c).2.directory) ∧ (m.replyUsers c).2.Plain := by
  have hswitched : m.directory.switched m.directory.outbox.refusing = m.directory := rfl
  unfold replyUsers
  cases hl : m.faults.lookup c.name with
  | none =>
      simp only [Circumstance.reply, circumstance, hl, hswitched]
      exact ⟨rfl, hm⟩
  | some f =>
      have hplain : Plain { m with faults := m.faults.filter (·.1 != c.name) } :=
        fun f' hf' => hm f' (List.mem_filter.1 hf').1
      obtain ⟨before, after, hfaults, -⟩ := List.lookup_eq_some_iff.1 hl
      rcases hm (c.name, f) (by simp [hfaults]) with rfl | rfl
      · simp only [Circumstance.reply, circumstance, hl, hswitched]
        exact ⟨rfl, hplain⟩
      · simp only [Circumstance.reply, circumstance, hl, hswitched]
        exact ⟨rfl, hplain⟩

theorem reply_eq {m m' : ServiceMemory} {q : ServiceCall} {r : Except AccountError q.Result}
    (hm : m.Plain) (h : m.reply q = (some r, m')) :
    (m.circumstance q).reply m.directory q = (r, m'.directory) ∧ m'.Plain := by
  cases q with
  | users c =>
      obtain ⟨hr, hplain⟩ := replyUsers_eq hm c
      cases h
      exact ⟨hr, hplain⟩
  | sign c =>
      cases h
      exact ⟨rfl, hm⟩
  | otp c =>
      simp only [reply] at h
      cases hr : m.engine.reply m.chance c with
      | mk o e =>
          rw [hr] at h
          cases h
          simp only [Circumstance.reply, circumstance, hr]
          exact ⟨rfl, hm⟩

/-- A call in memory is a call on its own. -/
theorem runDialogue_eq_alone {α : Type} {m m' : ServiceMemory}
    {p : Dialogue serviceSurroundings α} {a : α} (hm : m.Plain)
    (h : m.runDialogue p = (some a, m')) : ∃ x, (m.directory.alone x p).result = a ∧
      (m.directory.alone x p).directory = m'.directory := by
  induction p generalizing m with
  | done b =>
      cases h
      exact ⟨fun _ => m'.circumstance (.sign ⟨"", "", [], 0, 0⟩), rfl, rfl⟩
  | ask q next ih =>
      rw [runDialogue] at h
      split at h
      · cases h
      · next r m₁ hr =>
          obtain ⟨hreply, hplain⟩ := reply_eq hm hr
          obtain ⟨x, hx, hd⟩ := ih r hplain h
          obtain ⟨y, hzero, hsucc⟩ : ∃ y : Nat → Circumstance,
              y 0 = m.circumstance q ∧ (fun k => y (k + 1)) = x :=
            ⟨fun k => k.casesOn (m.circumstance q) x, rfl, rfl⟩
          refine ⟨y, ?_, ?_⟩
          · simp only [Directory.alone, hzero, hsucc, hreply]
            exact hx
          · simp only [Directory.alone, hzero, hsucc, hreply]
            exact hd

/-- What a call in memory leaves behind when it fails. -/
theorem run_error {m m' : ServiceMemory} (hm : m.Plain) (hd : m.directory.Numbered) (s : Service)
    {call : Call} {e : AccountError} (h : m.run (s.operation call) = (some (.error e), m')) :
    m.directory.Same m'.directory ∨ ∃ claims r now, call = .authenticateTwoFa claims r now ∧
      m.directory.WithoutCode m'.directory claims.sub r.code := by
  obtain ⟨x, hx, hafter⟩ := runDialogue_eq_alone hm h
  rw [← hafter]
  rcases Directory.alone_error hd s call x hx with hsame | ⟨claims, r, now, k, hcall, -, hwithout⟩
  · exact .inl hsame
  · exact .inr ⟨claims, r, now, hcall, hwithout⟩

end ServiceMemory

/-! ## Calls that fail -/

namespace World

open Directory

/-- **A call that fails leaves no trace.**  In every state of the users that can be
reached, with any outbox and whatever goes wrong with any of the questions: a call that
fails leaves the users and the rows as they were.  The only exception is a second step of
a login that is not given a token after it used up a recovery code, and all that it leaves
behind is an account without that code.  No error is passed over: what refuses or fails
makes the call fail. -/
theorem failed_call_leaves_no_trace (s : Service) (moves : List Move) (store : Store)
    (call : Call) (x : Nat → Circumstance) :
    let d : Directory := ⟨(empty.run s moves).directory.users, store⟩
    let o := d.alone x (s.operation call).run
    (∀ e, o.result = .error e → d.Same o.directory ∨
      ∃ claims r now k, call = .authenticateTwoFa claims r now ∧ .sign k (.error e) ∈ o.trace ∧
        d.WithoutCode o.directory claims.sub r.code) ∧
    ∀ y ∈ o.trace, ∀ e, y.reply = .error e → o.result = .error e := by
  have hnumbered := (Coherent.empty.run (s := s) moves).numbered
  refine ⟨fun e he => alone_error (d := ⟨_, store⟩) hnumbered s call x he, fun y hy e he => ?_⟩
  exact Dialogue.done.inj ((Operation.strict_operation s call (ends_alone _ x _) y hy).2 e he)

/-- Everything succeeds but signing. -/
def Sample.unsigned : Circumstance where
  toMoment := { Sample.moment with sign := fun _ => .error (.jwt "signing unavailable") }
  refusing := false
  missing := false

open Sample in
/-- A recovery code is used up, and the token is not signed. -/
theorem failed_call_leaves_no_trace_unsigned :
    let d : Directory := ⟨(empty.run (service (.ofSeconds 900)) enrolment).directory.users, .empty⟩
    let o := d.alone (fun _ => unsigned) ((service (.ofSeconds 900)).operation
      (.authenticateTwoFa (claims .twoFaCheck) ⟨"123456"⟩ (.ofSeconds 2))).run
    o.result = .error (.jwt "signing unavailable") ∧
      d.WithoutCode o.directory "user" "123456" := by
  intro d o
  have hresult : o.result = .error (.jwt "signing unavailable") := rfl
  have hbefore : d.users.map User.otpRecoveryCodes = [["123456", "654321"]] := rfl
  have hafter : o.directory.users.map User.otpRecoveryCodes = [["654321"]] := rfl
  refine ⟨hresult, ?_⟩
  rcases (failed_call_leaves_no_trace (service (.ofSeconds 900)) enrolment .empty
    (.authenticateTwoFa (claims .twoFaCheck) ⟨"123456"⟩ (.ofSeconds 2))
    fun _ => unsigned).1 _ hresult with hsame | ⟨c, r, now, k, hcall, -, hwithout⟩
  · rw [← hsame.users, hafter] at hbefore
    exact absurd hbefore (by decide)
  · cases hcall
    exact hwithout

end World

end Accounts
