import Accounts.Proofs.Except
import Accounts.Proofs.Operation.Trace
import Accounts.Server.Startup
import Mathlib.Data.List.TakeWhile
/-!
# The brokers that a text names

A list of brokers is written with commas.  What stands between two of them names a broker unless
it is blank, and the name is what is left without the blank characters around it.  The names can
be joined with commas and read again, because a name has no comma and nothing around it to take
away (`brokerList_join`).  The server joins them for its producer; without any it has no relay.
-/

namespace Accounts

/-! ## Trimmed texts -/

namespace Text

/-- The characters neither start nor end with a blank one. -/
def Tight (cs : List Char) : Prop :=
  (∀ c, cs.head? = some c → isBlank c = false) ∧ ∀ c, cs.getLast? = some c → isBlank c = false

/-- Without the blank characters around it, a list of characters is another one. -/
def TrimsTo (cs core : List Char) : Prop :=
  (∃ front back, cs = front ++ core ++ back ∧
    (∀ c ∈ front, isBlank c = true) ∧ ∀ c ∈ back, isBlank c = true) ∧ Tight core

theorem exists_dropBlank (cs : List Char) :
    ∃ front, cs = front ++ dropBlank cs ∧ ∀ c ∈ front, isBlank c = true :=
  ⟨cs.takeWhile isBlank, List.takeWhile_append_dropWhile.symm, fun _ => List.mem_takeWhile_imp⟩

theorem trimsTo_trimChars (cs : List Char) : TrimsTo cs (trimChars cs) := by
  obtain ⟨front, hfront, hblank⟩ := exists_dropBlank cs
  obtain ⟨back, hback, hblank'⟩ := exists_dropBlank (dropBlank cs).reverse
  have hcore : dropBlank cs = trimChars cs ++ back.reverse := by
    rw [trimChars, ← List.reverse_append, ← hback, List.reverse_reverse]
  refine ⟨⟨front, back.reverse, ?_, hblank, by simpa using hblank'⟩, fun c hc => ?_, fun c hc => ?_⟩
  · rw [List.append_assoc, ← hcore, ← hfront]
  · have hhead : (dropBlank cs).head? = some c := by
      rw [hcore, List.head?_append, hc]
      rfl
    exact head?_dropBlank hhead
  · exact head?_dropBlank (by rwa [trimChars, List.getLast?_reverse] at hc)

theorem trimChars_eq_nil_iff {cs : List Char} :
    trimChars cs = [] ↔ ∀ c ∈ cs, isBlank c = true := by
  rw [trimChars, List.reverse_eq_nil_iff, dropBlank, List.dropWhile_eq_nil_iff]
  simp only [List.mem_reverse, dropBlank]
  constructor
  · intro h c hc
    rw [← List.takeWhile_append_dropWhile (p := isBlank) (l := cs), List.mem_append] at hc
    exact hc.elim List.mem_takeWhile_imp (h c)
  · exact fun h c hc => h c (List.dropWhile_subset _ hc)

theorem trimChars_ne_nil_iff {cs : List Char} :
    trimChars cs ≠ [] ↔ cs.any (!isBlank ·) = true := by
  rw [ne_eq, trimChars_eq_nil_iff]
  simp

theorem TrimsTo.subset {cs core : List Char} (h : TrimsTo cs core) : core ⊆ cs := by
  obtain ⟨⟨front, back, rfl, -⟩, -⟩ := h
  exact fun c hc => List.mem_append_left _ (List.mem_append_right _ hc)

end Text

/-! ## Lists of brokers -/

open Text (Tight TrimsTo isBlank trimChars)

variable {cs : List Char}

theorem splitCommas_eq_splitOn (cs : List Char) : splitCommas cs = cs.splitOn ',' := by
  induction cs with
  | nil => rfl
  | cons c cs ih =>
      rw [List.splitOn, List.splitOnP_cons_eq_if_modifyHead, ← List.splitOn, ← ih, splitCommas]
      obtain ⟨p, ps, hps⟩ := List.exists_cons_of_ne_nil (splitCommas_ne_nil cs)
      simp only [hps, beq_iff_eq, List.modifyHead_cons]

theorem exists_mem_splitCommas_iff {c : Char} :
    (∃ p ∈ splitCommas cs, c ∈ p) ↔ c ∈ cs ∧ c ≠ ',' := by
  induction cs with
  | nil => simp [splitCommas]
  | cons d cs ih =>
      obtain ⟨p, ps, hps⟩ := List.exists_cons_of_ne_nil (splitCommas_ne_nil cs)
      rw [hps] at ih
      by_cases hd : d = ','
      · simp only [splitCommas, hps, hd, if_true, List.mem_cons, exists_eq_or_imp,
          List.not_mem_nil, false_or] at ih ⊢
        grind
      · simp only [splitCommas, hps, hd, if_false, List.mem_cons, exists_eq_or_imp] at ih ⊢
        grind

/-- What a list of brokers names: the texts between its commas that are not blank. -/
def brokerPieces (s : String) : List (List Char) :=
  (s.toList.splitOn ',').filter fun piece => piece.any (!isBlank ·)

theorem brokerList_eq_map (s : String) :
    brokerList s = (brokerPieces s).map fun piece => String.ofList (trimChars piece) := by
  have hblank (piece : List Char) :
      decide (trimChars piece ≠ []) = piece.any (!isBlank ·) := by
    rw [Bool.eq_iff_iff, decide_eq_true_iff, Text.trimChars_ne_nil_iff]
  rw [brokerList, splitCommas_eq_splitOn, List.filter_map, brokerPieces, List.map_map]
  exact congrArg (List.map _) (List.filter_congr fun piece _ => hblank piece)

/-- A name that stands between commas as it is. -/
def IsBroker (name : String) : Prop := name ≠ "" ∧ ',' ∉ name.toList ∧ Tight name.toList

theorem isBroker_of_mem_brokerList {s name : String} (h : name ∈ brokerList s) : IsBroker name := by
  rw [brokerList_eq_map, List.mem_map] at h
  obtain ⟨piece, hpiece, rfl⟩ := h
  rw [brokerPieces, List.mem_filter, ← splitCommas_eq_splitOn] at hpiece
  obtain ⟨hmem, hany⟩ := hpiece
  have htrims := Text.trimsTo_trimChars piece
  refine ⟨fun hempty => ?_, ?_, ?_⟩
  · exact Text.trimChars_ne_nil_iff.mpr hany (String.ofList_injective hempty)
  · rw [String.toList_ofList]
    exact fun hcomma => comma_notMem_of_mem_splitCommas hmem (htrims.subset hcomma)
  · rw [String.toList_ofList]
    exact htrims.2

theorem brokerList_eq_nil_iff {s : String} :
    brokerList s = [] ↔ ∀ c ∈ s.toList, c = ',' ∨ isBlank c = true := by
  have hpieces : brokerList s = [] ↔ ∀ p ∈ splitCommas s.toList, ∀ c ∈ p, isBlank c = true := by
    rw [brokerList_eq_map, List.map_eq_nil_iff, brokerPieces, List.filter_eq_nil_iff,
      splitCommas_eq_splitOn]
    simp
  rw [hpieces]
  constructor
  · intro h c hc
    by_cases hcomma : c = ','
    · exact .inl hcomma
    · obtain ⟨p, hp, hcp⟩ := exists_mem_splitCommas_iff.mpr ⟨hc, hcomma⟩
      exact .inr (h p hp c hcp)
  · intro h p hp c hcp
    obtain ⟨hc, hcomma⟩ := exists_mem_splitCommas_iff.mp ⟨p, hp, hcp⟩
    exact (h c hc).resolve_left hcomma

/-- Names that are joined are read as they are. -/
theorem brokerList_intercalate {names : List String} (h : ∀ name ∈ names, IsBroker name) :
    brokerList (",".intercalate names) = names := by
  by_cases hnone : names = []
  · subst hnone
    rfl
  · have hsplit : (",".intercalate names).toList.splitOn ',' = names.map String.toList := by
      rw [String.toList_intercalate]
      refine List.splitOn_intercalate ',' (fun cs hcs => ?_) (by simpa using hnone)
      obtain ⟨name, hname, rfl⟩ := List.mem_map.mp hcs
      exact (h name hname).2.1
    have htrim : (names.map String.toList).map trimChars = names.map String.toList := by
      rw [List.map_map]
      exact List.map_congr_left fun name hname =>
        Text.trimChars_eq_self (h name hname).2.2.1 (h name hname).2.2.2
    have hfilter : (names.map String.toList).filter (· ≠ []) = names.map String.toList := by
      refine List.filter_eq_self.mpr fun cs hcs => ?_
      obtain ⟨name, hname, rfl⟩ := List.mem_map.mp hcs
      simpa using (h name hname).1
    rw [brokerList, splitCommas_eq_splitOn, hsplit, htrim, hfilter, List.map_map]
    simp

theorem brokerList_join (s : String) :
    brokerList (",".intercalate (brokerList s)) = brokerList s :=
  brokerList_intercalate fun _ => isBroker_of_mem_brokerList

theorem Settings.brokers_of_read {vars : Variables} {settings : Settings}
    (h : Settings.read vars = .ok settings) :
    settings.kafka.brokers = brokerList ((vars "KAFKA_BROKERS").getD "") := by
  simp only [Settings.read, KafkaSettings.read, Except.bind_eq_ok_iff] at h
  obtain ⟨_, -, kafka, ⟨_, -, hkafka⟩, _, -, _, -, _, -, hsettings⟩ := h
  cases hsettings
  cases hkafka
  rfl

/-! ## The relay of the server -/

namespace Server

open Outbox (Producer)

section Parts

variable {α β : Type} {a : α} {b : β}

/-- A part of the start can succeed with a result. -/
def Gives (x : Starting α) (a : α) : Prop := ∃ t, x.run.Ends t (.ok a)

/-- What is done after a part of the start is done after that part succeeded. -/
theorem Gives.of_bind {x : Starting α} {f : α → Starting β} (h : Gives (x >>= f) b) :
    ∃ a, Gives x a ∧ Gives (f a) b := by
  obtain ⟨t, h⟩ := h
  obtain ⟨r, t₁, t₂, -, hx, hf⟩ := Dialogue.ends_bind h
  match r with
  | .ok a => exact ⟨a, ⟨t₁, hx⟩, t₂, hf⟩
  | .error e =>
      obtain ⟨-, hb⟩ := Dialogue.ends_done_iff.mp hf
      cases hb

theorem Gives.rest {x : Starting Unit} {y : Starting β} (h : Gives (x >>= fun _ => y) b) :
    Gives y b :=
  let ⟨_, _, hy⟩ := h.of_bind
  hy

theorem Gives.of_done {ε : Type} {r : Except ε α} {fail : ε → StartupError}
    (h : Gives (ExceptT.mk (.done (r.mapError fail))) a) : r = .ok a := by
  obtain ⟨t, h⟩ := h
  obtain ⟨-, h⟩ := Dialogue.ends_done_iff.mp h
  cases r <;> cases h
  rfl

theorem Gives.of_pure {a' : α} (h : Gives (pure a') a) : a = a' := by
  obtain ⟨t, h⟩ := h
  obtain ⟨-, h⟩ := Dialogue.ends_done_iff.mp h
  cases h
  rfl

end Parts

/-- The variables that a server starts with. -/
def startVariables (given : EnvFile.Bindings) (file : Option String) : Variables :=
  fun key => (file.elim (given, false) (EnvFile.load given)).1.lookup key

/-- What becomes of the relay with some settings. -/
def RelayFor (settings : Settings) : Option RelayPlan → Prop
  | none => settings.kafka.brokers = []
  | some p => settings.kafka.brokers ≠ [] ∧
      Producer.setUp (",".intercalate settings.kafka.brokers) settings.kafka.topicPrefix
        settings.kafka.producerTimeout.millis = .ok p.producer

theorem Gives.relayFor {given : EnvFile.Bindings} {file : Option String} {plan : Option RelayPlan}
    (h : Gives (start given file) plan) :
    ∃ settings, Settings.read (startVariables given file) = .ok settings ∧
      RelayFor settings plan := by
  have hstart := h.rest
  split at hstart
  next vars complete hload =>
  have hvars : startVariables given file = fun key => vars.lookup key := by
    funext key
    rw [startVariables, hload]
  extract_lets rest at hstart
  have hrest : Gives (rest ()) plan := by
    split at hstart
    · exact hstart.rest
    · exact hstart
  obtain ⟨settings, hread, hset⟩ := hrest.of_bind
  have hrelay := hset.rest.rest.rest.rest.rest.rest.rest
  refine ⟨settings, hvars ▸ hread.of_done, ?_⟩
  split at hrelay
  · next hnone =>
      rw [hrelay.rest.of_pure]
      exact List.isEmpty_iff.mp hnone
  · next hsome =>
      obtain ⟨producer, hproducer, hplan⟩ := hrelay.of_bind
      rw [hplan.rest.of_pure]
      exact ⟨fun hnil => hsome (List.isEmpty_iff.mpr hnil), hproducer.of_done⟩

/-- The server has no relay exactly if its list of brokers names none, and otherwise its producer
is set up with the names, joined. -/
theorem Gives.relay {given : EnvFile.Bindings} {file : Option String} {plan : Option RelayPlan}
    {text : String} (htext : (startVariables given file "KAFKA_BROKERS").getD "" = text)
    (h : Gives (start given file) plan) :
    (plan = none ↔ brokerList text = []) ∧ ∀ p, plan = some p → ∃ topicPrefix timeout,
      Producer.setUp (",".intercalate (brokerList text)) topicPrefix timeout = .ok p.producer := by
  obtain ⟨settings, hread, hrelay⟩ := h.relayFor
  have hbrokers : settings.kafka.brokers = brokerList text := htext ▸ Settings.brokers_of_read hread
  rw [← hbrokers]
  match plan with
  | none => exact ⟨iff_of_true rfl hrelay, nofun⟩
  | some p =>
      refine ⟨iff_of_false nofun hrelay.1, fun q hq => ?_⟩
      cases hq
      exact ⟨_, _, hrelay.2⟩

/-- Surroundings in which all goes well. -/
def obliging : (c : ServerCall) → c.Reply
  | .log _ => ()
  | .database (.connect _) => .ok ()
  | .database (.command _) => .ok ()
  | .database (.migrate _) => .ok ()
  | .database .abandon => ()
  | .database (.within _) => .ok default
  | .database (.alone _) => .ok default
  | .database .clock => ⟨0, 0⟩
  | .publish _ _ => .ok ()

theorem gives_of_obliging {α : Type} {x : Starting α} {a : α}
    (h : Dialogue.run (m := Id) (I := serverSurroundings) obliging x.run = .ok a) : Gives x a := by
  have hends (p : Serving (Except StartupError α)) :
      ∃ t, p.Ends t (Dialogue.run (m := Id) (I := serverSurroundings) obliging p) := by
    induction p with
    | done r => exact ⟨[], Dialogue.ends_done_iff.mpr ⟨rfl, rfl⟩⟩
    | ask q next ih =>
        obtain ⟨t, ht⟩ := ih (obliging q)
        exact ⟨_, Dialogue.ends_ask_iff.mpr ⟨obliging q, t, rfl, ht⟩⟩
  obtain ⟨t, ht⟩ := hends x.run
  exact ⟨t, h ▸ ht⟩

end Server

/-- The names in a list of brokers: the texts between its commas that are not blank, trimmed, in
their order.  They stand between commas as they are, so that the list that is joined from them is
read as the same one; and there are none, so that the server has no relay, exactly if the list has
nothing but commas and blank characters. -/
theorem broker_list_normalized (text : String) :
    List.Forall₂ (fun piece name => TrimsTo piece name.toList) (brokerPieces text)
      (brokerList text) ∧
    (∀ name ∈ brokerList text, IsBroker name) ∧
    brokerList (",".intercalate (brokerList text)) = brokerList text ∧
    (brokerList text = [] ↔ ∀ c ∈ text.toList, c = ',' ∨ isBlank c = true) ∧
    ∀ (given : EnvFile.Bindings) (file : Option String) (plan : Option Server.RelayPlan),
      (Server.startVariables given file "KAFKA_BROKERS").getD "" = text →
      Server.Gives (Server.start given file) plan →
      (plan = none ↔ ∀ c ∈ text.toList, c = ',' ∨ isBlank c = true) ∧
      ∀ p, plan = some p → ∃ topicPrefix timeout,
        Outbox.Producer.setUp (",".intercalate (brokerList text)) topicPrefix timeout =
          .ok p.producer := by
  refine ⟨?_, fun _ => isBroker_of_mem_brokerList, brokerList_join text, brokerList_eq_nil_iff, ?_⟩
  · rw [brokerList_eq_map, List.forall₂_map_right_iff, List.forall₂_same]
    intro piece _
    rw [String.toList_ofList]
    exact Text.trimsTo_trimChars piece
  · intro given file plan htext hgives
    rw [← brokerList_eq_nil_iff]
    exact hgives.relay htext

/-- The variables of a small server with a list of brokers. -/
def smallServer (brokers : String) : EnvFile.Bindings :=
  [("DATABASE_URL", "db"), ("JWT_SECRET", "s"), ("KAFKA_BROKERS", brokers)]

/-- A server with two brokers, and one whose list of brokers is all commas and blank characters. -/
theorem broker_list_normalized_two :
    brokerList " a:1,,\u3000b:2\t" = ["a:1", "b:2"] ∧
    Server.Gives (Server.start (smallServer " a:1,,\u3000b:2\t") none)
      (some ⟨.ofMillis 50, ⟨none, 1000000⟩⟩) ∧
    (∃ topicPrefix timeout,
      Outbox.Producer.setUp "a:1,b:2" topicPrefix timeout = .ok ⟨none, 1000000⟩) ∧
    Server.Gives (Server.start (smallServer " ,\u3000,") none) none ∧
    ∀ c ∈ " ,\u3000,".toList, c = ',' ∨ isBlank c = true := by
  have hnames : brokerList " a:1,,\u3000b:2\t" = ["a:1", "b:2"] := by cbv
  have htwo : Server.Gives (Server.start (smallServer " a:1,,\u3000b:2\t") none)
      (some ⟨.ofMillis 50, ⟨none, 1000000⟩⟩) := Server.gives_of_obliging rfl
  have hnone : Server.Gives (Server.start (smallServer " ,\u3000,") none) none :=
    Server.gives_of_obliging rfl
  obtain ⟨-, -, -, -, hrelay⟩ := broker_list_normalized " a:1,,\u3000b:2\t"
  obtain ⟨-, -, -, -, hrelay'⟩ := broker_list_normalized " ,\u3000,"
  have hsetUp := (hrelay _ _ _ rfl htwo).2 _ rfl
  rw [hnames] at hsetUp
  exact ⟨hnames, htwo, hsetUp, hnone, (hrelay' _ _ _ rfl hnone).1.mp rfl⟩

end Accounts
