import Accounts.Proofs.Otp.RecoveryCode
import Accounts.Proofs.Text.Integer
import Mathlib.Data.Finset.Card
import Mathlib.Data.Finset.Range
/-!
# Recovery codes from an endless stream of draws

The loop that collects recovery codes has no bound of its own: it draws until it has enough.  A
finite list of draws is what it read so far, and nothing results from it as long as it needs more.
So over a stream the question is from which draw on there is a result, and whether it still changes
then (`recovery_codes_from_stream`).

A draw counts when it is no repeat.  `firsts` lists the draws that count by their places in the
stream, and it is what the collection is taken from (`eraseDups_drawn`).
-/

namespace Accounts.Otp.RecoveryCode

variable {draws : Nat → Nat} {count n m : Nat}

/-- The first draws of a stream. -/
def drawn (draws : Nat → Nat) (n : Nat) : List Nat := (List.range n).map draws

/-- The draw at this place did not come before. -/
def IsFirst (draws : Nat → Nat) (place : Nat) : Prop := ∀ earlier < place, draws earlier ≠ draws place

instance (draws : Nat → Nat) : DecidablePred (IsFirst draws) := fun place =>
  inferInstanceAs (Decidable (∀ earlier < place, draws earlier ≠ draws place))

/-- The draws among the first `n` that did not come before, in their order. -/
def firsts (draws : Nat → Nat) (n : Nat) : List Nat :=
  ((List.range n).filter (IsFirst draws)).map draws

/-! ## The draws that count -/

theorem mem_drawn {d : Nat} : d ∈ drawn draws n ↔ ∃ k < n, draws k = d := by
  simp [drawn]

theorem eraseDups_drawn (draws : Nat → Nat) (n : Nat) :
    (drawn draws n).eraseDups = firsts draws n := by
  induction n with
  | zero => rfl
  | succ n ih =>
      have hdrawn : drawn draws (n + 1) = drawn draws n ++ [draws n] := by
        simp [drawn, List.range_succ]
      have hfirsts : firsts draws (n + 1) =
          firsts draws n ++ if IsFirst draws n then [draws n] else [] := by
        rw [firsts, List.range_succ, List.filter_append, List.map_append, List.filter_singleton]
        split <;> simp_all [firsts]
      have hnew : [draws n].removeAll (drawn draws n) = if IsFirst draws n then [draws n] else [] := by
        by_cases h : IsFirst draws n
        · have hnone : draws n ∉ drawn draws n := fun hmem => by
            obtain ⟨k, hk, heq⟩ := mem_drawn.1 hmem
            exact h k hk heq
          simp [List.removeAll, h, hnone]
        · have hmem : draws n ∈ drawn draws n := by
            obtain ⟨k, hk, heq⟩ : ∃ k < n, draws k = draws n := by simpa [IsFirst] using h
            exact mem_drawn.2 ⟨k, hk, heq⟩
          simp [List.removeAll, h, hmem]
      rw [hdrawn, List.eraseDups_append, ih, hnew, hfirsts]
      split <;> rfl

/-- There are as many of them as there are different values. -/
theorem length_firsts (draws : Nat → Nat) (n : Nat) :
    (firsts draws n).length = ((Finset.range n).image draws).card := by
  have hvalues : (firsts draws n).toFinset = (Finset.range n).image draws := by
    ext d
    rw [List.mem_toFinset, ← eraseDups_drawn, List.mem_eraseDups, mem_drawn]
    simp
  rw [← hvalues, ← eraseDups_drawn, List.toFinset_card_of_nodup (nodup_eraseDups _)]

/-- Further draws come after those that count already. -/
theorem firsts_take (h : n ≤ m) (henough : count ≤ (firsts draws n).length) :
    count ≤ (firsts draws m).length ∧ (firsts draws m).take count = (firsts draws n).take count := by
  obtain ⟨k, rfl⟩ := Nat.exists_eq_add_of_le h
  have hmore : ∃ later, firsts draws (n + k) = firsts draws n ++ later := by
    rw [firsts, List.range_add, List.filter_append, List.map_append, ← firsts]
    exact ⟨_, rfl⟩
  obtain ⟨later, hlater⟩ := hmore
  rw [hlater, List.take_append_of_le_length henough, List.length_append]
  exact ⟨by omega, rfl⟩

/-! ## The collection -/

/-- The result is made of the first draws that count, and there is none while they are too few. -/
theorem generate_drawn (h : count ≤ available) (draws : Nat → Nat) (n : Nat) :
    generate count (drawn draws n) = .ok (if count ≤ (firsts draws n).length then
      some (((firsts draws n).take count).map toString) else none) := by
  rw [generate_of_le h, collect_eq, news_empty, eraseDups_drawn]
  split <;> rfl

/-- A code does not start with a zero. -/
theorem head?_toString_ne_zero {d : Nat} (h : IsDraw d) : (toString d).toList.head? ≠ some '0' := by
  have hsix : (Nat.toDigits 10 d).length = 6 := by
    have := (sixDigits_toString h).1
    rwa [Nat.toString_eq_repr, Nat.repr_eq_ofList_toDigits, String.length_ofList] at this
  intro hzero
  rw [Nat.toString_eq_repr, Nat.repr_eq_ofList_toDigits, String.toList_ofList] at hzero
  rw [Text.length_toDigits_of_zero hzero] at hsix
  cases hsix

/-- **The collection of recovery codes ends as soon as it can.**  More codes than there are refuse
without a draw.  Otherwise there is no result as long as the stream did not produce enough different
values.  From the draw on that completes them there is one, whatever is drawn after it: the first
draws that are no repeats, in their order, as texts of six digits that do not start with a zero. -/
theorem recovery_codes_from_stream (draws : Nat → Nat) (hdraws : ∀ k, IsDraw (draws k))
    (count : Nat) :
    (900000 < count → ∀ ds, generate count ds = .error (.internal ("Cannot generate " ++
      toString count ++ " distinct recovery codes, only 900000 exist"))) ∧
    (count ≤ 900000 → ∀ n,
      (((Finset.range n).image draws).card < count → generate count (drawn draws n) = .ok none) ∧
      (count ≤ ((Finset.range n).image draws).card →
        ∃ codes, codes = (((List.range n).filter (IsFirst draws)).take count).map
            (fun place => toString (draws place)) ∧
          (∀ m, n ≤ m → generate count (drawn draws m) = .ok (some codes)) ∧
          codes.length = count ∧ codes.Nodup ∧
          ∀ c ∈ codes, SixDigits c ∧ c.toList.head? ≠ some '0')) := by
  have havailable : available = 900000 := rfl
  refine ⟨fun hmany ds => ?many, fun hle n => ⟨fun hfew => ?few, fun henough => ?enough⟩⟩
  case many => exact generate_of_lt (havailable ▸ hmany) ds
  case few =>
    rw [generate_drawn (havailable ▸ hle), if_neg (by rw [length_firsts]; omega)]
  case enough =>
    rw [← length_firsts] at henough
    have hresult : ∀ m, n ≤ m → generate count (drawn draws m) =
        .ok (some (((firsts draws n).take count).map toString)) := by
      intro m hm
      obtain ⟨henough', hsame⟩ := firsts_take hm henough
      rw [generate_drawn (havailable ▸ hle), if_pos henough', hsame]
    have hdrawn : ∀ d ∈ drawn draws n, IsDraw d := by
      intro d hd
      obtain ⟨k, -, rfl⟩ := mem_drawn.1 hd
      exact hdraws k
    obtain ⟨hlength, hnodup, hsix⟩ := generate_some hdrawn (hresult n (Nat.le_refl n))
    refine ⟨_, ?_, hresult, hlength, hnodup, fun c hc => ⟨hsix c hc, ?_⟩⟩
    · rw [firsts, ← List.map_take, List.map_map]
      rfl
    · obtain ⟨d, hd, rfl⟩ := List.mem_map.1 hc
      rw [← eraseDups_drawn] at hd
      exact head?_toString_ne_zero (hdrawn d (List.mem_eraseDups.1 (List.mem_of_mem_take hd)))

/-- A stream that starts with a repeat: its third draw does not complete a set of three. -/
theorem recovery_codes_from_stream_repeats :
    let draws : Nat → Nat := fun k => if k % 4 = 3 then 999999 else 100000 + k / 2 % 1000
    (∀ k, IsDraw (draws k)) ∧ generate 3 (drawn draws 3) = .ok none ∧
      generate 3 (drawn draws 9) = .ok (some ["100000", "100001", "999999"]) := by
  intro draws
  have hdraws : ∀ k, IsDraw (draws k) := by
    intro k
    simp only [draws, IsDraw, least, greatest]
    split <;> omega
  have hstream := (recovery_codes_from_stream draws hdraws 3).2 (by decide)
  obtain ⟨codes, hcodes, hresult, -⟩ := (hstream 4).2 (by decide)
  refine ⟨hdraws, (hstream 3).1 (by decide), ?_⟩
  rw [hresult 9 (by decide), hcodes]
  decide

end Accounts.Otp.RecoveryCode
