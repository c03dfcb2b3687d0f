import Accounts.Otp.Engine
import Mathlib.Data.List.Nodup
import Mathlib.Data.List.Perm.Subperm
import Std.Data.HashSet.Lemmas
import Std.Data.String.ToNat
/-!
# Sets of recovery codes

What is collected from draws are different draws, as many as were wanted.  Draws between
the smallest and the largest code are written with six digits, and different ones are
written differently; so are the recovery codes of an engine.

The loop keeps a set beside its list.  Both stand for the draws without their repeats: what results
is the front of these (`collect_eq`).
-/

namespace Accounts.Otp

namespace RecoveryCode

/-- A text of six decimal digits. -/
def SixDigits (code : String) : Prop := code.length = 6 ∧ ∀ c ∈ code.toList, c.isDigit = true

/-- A draw of which a code can be made. -/
def IsDraw (n : Nat) : Prop := least ≤ n ∧ n ≤ greatest

theorem sixDigits_toString {n : Nat} (h : IsDraw n) : SixDigits (toString n) := by
  obtain ⟨hleast, hgreatest⟩ := h
  have hleast : 100000 ≤ n := hleast
  have hgreatest : n ≤ 999999 := hgreatest
  rw [Nat.toString_eq_repr, SixDigits, Nat.repr_eq_ofList_toDigits, String.length_ofList,
    String.toList_ofList]
  refine ⟨?_, fun c hc => Nat.isDigit_of_mem_toDigits (by omega) (by omega) hc⟩
  have hle : (Nat.toDigits 10 n).length ≤ 6 :=
    (Nat.length_toDigits_le_iff (by omega) (by omega)).2 (by omega)
  have hlt : ¬ (Nat.toDigits 10 n).length ≤ 5 := fun h =>
    absurd ((Nat.length_toDigits_le_iff (by omega) (by omega)).1 h) (by omega)
  omega

section Collect

variable {seen : Std.HashSet Nat} {wanted : Nat} {draws codes : List Nat}

theorem nodup_eraseDups : ∀ ds : List Nat, ds.eraseDups.Nodup
  | [] => List.nodup_nil
  | d :: ds => by
      rw [List.eraseDups_cons, List.nodup_cons]
      exact ⟨by simp, nodup_eraseDups _⟩
termination_by ds => ds.length
decreasing_by exact Nat.lt_succ_of_le (List.length_filter_le _ _)

theorem eraseDups_of_nodup {ds : List Nat} (h : ds.Nodup) : ds.eraseDups = ds := by
  induction ds with
  | nil => rfl
  | cons d ds ih =>
      obtain ⟨hd, hds⟩ := List.nodup_cons.1 h
      have hother : ds.filter (fun x => !x == d) = ds := by
        refine List.filter_eq_self.2 fun x hx => ?_
        simpa using fun heq : x = d => hd (heq ▸ hx)
      rw [List.eraseDups_cons, hother, ih hds]

/-- The draws that were not there before, each where it appears first. -/
def news (seen : Std.HashSet Nat) (draws : List Nat) : List Nat :=
  (draws.filter fun d => !seen.contains d).eraseDups

theorem mem_news {d : Nat} : d ∈ news seen draws ↔ d ∈ draws ∧ seen.contains d = false := by
  simp [news]

theorem news_cons_of_contains {d : Nat} (h : seen.contains d = true) :
    news seen (d :: draws) = news seen draws := by
  rw [news, List.filter_cons_of_neg (by simpa using h), news]

theorem news_cons_of_not_contains {d : Nat} (h : seen.contains d = false) :
    news seen (d :: draws) = d :: news (seen.insert d) draws := by
  have hother : (draws.filter fun x => !seen.contains x).filter (fun x => !x == d) =
      draws.filter fun x => !(seen.insert d).contains x := by
    rw [List.filter_filter]
    refine List.filter_congr fun x _ => ?_
    simp [Std.HashSet.contains_insert, Bool.not_or, BEq.comm]
  rw [news, List.filter_cons_of_pos (by simpa using h), List.eraseDups_cons, hother, news]

theorem news_empty (draws : List Nat) : news ∅ draws = draws.eraseDups := by
  simp [news]

/-- The collection is made of the first new draws, if there are as many as are wanted. -/
theorem collect_eq (seen : Std.HashSet Nat) (wanted : Nat) (draws : List Nat) :
    collect seen wanted draws =
      if wanted ≤ (news seen draws).length then some ((news seen draws).take wanted) else none := by
  induction draws generalizing seen wanted with
  | nil => cases wanted <;> simp [collect, news]
  | cons d ds ih =>
      cases wanted with
      | zero => simp [collect]
      | succ more =>
          rw [collect]
          split
          · next hseen => rw [ih, news_cons_of_contains hseen]
          · next hnew =>
              rw [ih, news_cons_of_not_contains (eq_false_of_ne_true hnew)]
              simp only [List.length_cons, Nat.add_le_add_iff_right, List.take_succ_cons]
              split <;> rfl

/-- What is collected was drawn, was not there before, and is there once. -/
theorem collect_some (h : collect seen wanted draws = some codes) :
    codes.length = wanted ∧ codes.Nodup ∧ ∀ d ∈ codes, d ∈ draws ∧ seen.contains d = false := by
  rw [collect_eq] at h
  obtain ⟨henough, hcodes⟩ := Option.ite_none_right_eq_some.1 h
  cases hcodes
  exact ⟨List.length_take_of_le henough, (nodup_eraseDups _).sublist (List.take_sublist _ _),
    fun d hd => mem_news.1 (List.mem_of_mem_take hd)⟩

/-- Different draws are all collected. -/
theorem collect_of_nodup (hnodup : draws.Nodup) (hnew : ∀ d ∈ draws, seen.contains d = false) :
    collect seen draws.length draws = some draws := by
  have hnews : news seen draws = draws := by
    rw [news, List.filter_eq_self.2 fun d hd => by simp [hnew d hd], eraseDups_of_nodup hnodup]
  rw [collect_eq, hnews, if_pos (Nat.le_refl _), List.take_length]

/-- Draws with enough different new ones among them suffice. -/
theorem collect_isSome {distinct : List Nat} (hnodup : distinct.Nodup)
    (hnew : ∀ d ∈ distinct, d ∈ draws ∧ seen.contains d = false)
    (henough : wanted ≤ distinct.length) : (collect seen wanted draws).isSome = true := by
  have hle : distinct.length ≤ (news seen draws).length :=
    (hnodup.subperm fun d hd => mem_news.2 (hnew d hd)).length_le
  rw [collect_eq, if_pos (Nat.le_trans henough hle)]
  rfl

end Collect

/-- Unless more codes are wanted than there are, nothing fails. -/
theorem generate_of_le {count : Nat} (h : count ≤ available) (draws : List Nat) :
    generate count draws = .ok ((collect ∅ count draws).map fun ds => ds.map toString) := by
  rw [generate, checkCount, if_neg (Nat.not_lt.2 h)]
  rfl

/-- More codes than there are are refused, whatever would be drawn. -/
theorem generate_of_lt {count : Nat} (h : available < count) (draws : List Nat) :
    generate count draws = .error (.internal ("Cannot generate " ++ toString count ++
      " distinct recovery codes, only 900000 exist")) := by
  have hrest : " distinct recovery codes, only " ++ (toString available ++ " exist") =
      " distinct recovery codes, only 900000 exist" := by decide
  rw [generate, checkCount, if_pos h, String.append_assoc, String.append_assoc, hrest]
  rfl

/-- A set of codes is a set of texts of six digits, as many as were wanted. -/
theorem generate_some {count : Nat} {draws : List Nat} {codes : List String}
    (hdraws : ∀ d ∈ draws, IsDraw d) (h : generate count draws = .ok (some codes)) :
    codes.length = count ∧ codes.Nodup ∧ ∀ c ∈ codes, SixDigits c := by
  unfold generate checkCount at h
  split at h
  · cases h
  · obtain ⟨ds, hds, rfl⟩ := Option.map_eq_some_iff.1 (Except.ok.inj h)
    obtain ⟨hlength, hnodup, hmem⟩ := collect_some hds
    refine ⟨by rw [List.length_map, hlength], List.Nodup.map ?_ hnodup, ?_⟩
    · intro a b hab
      exact Nat.repr_inj.1 hab
    · intro c hc
      obtain ⟨d, hd, rfl⟩ := List.mem_map.1 hc
      exact sixDigits_toString (hdraws d (hmem d hd).1)

end RecoveryCode

/-- The recovery codes of an engine are different texts of six digits. -/
theorem Totp.reply_recoveryCodes {t : Totp} {c : Chance} {count : Nat} {codes : List String}
    (hdraws : ∀ d ∈ c.draws, RecoveryCode.IsDraw d)
    (h : t.reply c (.recoveryCodes count) = .ok codes) :
    codes.Nodup ∧ ∀ code ∈ codes, RecoveryCode.SixDigits code := by
  have hmap : (RecoveryCode.generate count c.draws).map (·.getD []) = .ok codes := h
  cases hg : RecoveryCode.generate count c.draws with
  | error e =>
      rw [hg] at hmap
      cases hmap
  | ok o =>
      rw [hg] at hmap
      cases hmap
      cases o with
      | none => exact ⟨List.nodup_nil, by simp⟩
      | some codes => exact (RecoveryCode.generate_some hdraws hg).2

end Accounts.Otp
