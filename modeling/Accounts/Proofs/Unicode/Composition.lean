import Accounts.Unicode.Normal
/-!
# Composition leaves a blank end alone

Control characters and the space have no canonical decomposition, are no part of one and
are in no need of an order.  So a text that ends with one of them still ends with it after
it was composed.

That they do not occur in the table of decompositions is read off the packed table in one
pass, without unpacking it: `Entries.scan` goes over its characters as unpacking does and
looks at every number that ends.
-/

namespace Accounts.Unicode

namespace Entries

/-! ## Bounds of a packed table -/

/-- Goes over a packed table with the number that was read last, and with whether there was a
key already: the first key and all values are larger than a bound. -/
def scan (bound : Nat) : Nat → Bool → List Char → Bool
  | _, _, [] => true
  | number, keyed, c :: cs =>
    match packedDigit? c with
    | some d => scan bound (number * 32 + d) keyed cs
    | none =>
      if c = 'k' then (keyed || bound < number) && scan bound 0 true cs
      else keyed && bound < number && scan bound 0 keyed cs

/-- Keys and values are larger than a bound. -/
def Above (bound : Nat) (entries : List (Nat × List Nat)) : Prop :=
  ∀ e ∈ entries, bound < e.1 ∧ ∀ v ∈ e.2, bound < v

/-- What was unpacked so far is larger than a bound. -/
structure Unpacking.Above (bound : Nat) (keyed : Bool) (u : Unpacking) : Prop where
  /-- The finished entries are. -/
  entries : Entries.Above bound u.entries.toList
  /-- The key of the current entry is. -/
  key : keyed = true → bound < u.key
  /-- The values of the current entry are. -/
  values : ∀ v ∈ u.values, bound < v
  /-- There is no value before the first key. -/
  unkeyed : keyed = false → u.values = []

namespace Unpacking.Above

variable {bound : Nat} {keyed : Bool} {u : Unpacking}

theorem finish (h : u.Above bound keyed) : Entries.Above bound u.finish.toList := by
  unfold Unpacking.finish
  split
  · exact h.entries
  · next hvalues =>
      have hkeyed : keyed = true := by
        cases keyed with
        | true => rfl
        | false => exact (hvalues (h.unkeyed rfl)).elim
      intro e he
      rw [Array.toList_push] at he
      rcases List.mem_append.1 he with he | he
      · exact h.entries e he
      · rw [List.mem_singleton.1 he]
        exact ⟨h.key hkeyed, fun v hv => h.values v (List.mem_reverse.1 hv)⟩

/-- Unpacking a table that the scan accepts keeps to the bound. -/
theorem foldl {cs : List Char} (h : u.Above bound keyed) (hs : scan bound u.number keyed cs = true) :
    ∃ keyed', (cs.foldl Unpacking.step u).Above bound keyed' := by
  induction cs generalizing u keyed with
  | nil => exact ⟨keyed, h⟩
  | cons c cs ih =>
      rw [List.foldl_cons, Unpacking.step]
      rw [scan] at hs
      cases hd : packedDigit? c with
      | some d =>
          rw [hd] at hs
          exact ih ⟨h.entries, h.key, h.values, h.unkeyed⟩ hs
      | none =>
          rw [hd] at hs
          dsimp only at hs ⊢
          split at hs
          · next hc =>
              rw [if_pos hc]
              obtain ⟨hkey, hrest⟩ := Bool.and_eq_true_iff.1 hs
              refine ih ⟨h.finish, fun _ => ?_, by simp, by simp⟩ hrest
              rcases Bool.or_eq_true_iff.1 hkey with hkeyed | hlarge
              · exact Nat.lt_of_lt_of_le (h.key hkeyed) (Nat.le_add_right _ _)
              · exact Nat.lt_of_lt_of_le (of_decide_eq_true hlarge) (Nat.le_add_left _ _)
          · next hc =>
              rw [if_neg hc]
              obtain ⟨hnow, hrest⟩ := Bool.and_eq_true_iff.1 hs
              obtain ⟨hkeyed, hlarge⟩ := Bool.and_eq_true_iff.1 hnow
              refine ih ⟨h.entries, h.key, ?_, by simp [hkeyed]⟩ hrest
              intro v hv
              rcases List.mem_cons.1 hv with rfl | hv
              · exact of_decide_eq_true hlarge
              · exact h.values v hv

end Unpacking.Above

/-- Lines of text, spelled out. -/
inductive Spelled : List String → List Char → Prop
  | nil : Spelled [] []
  | cons (line : List Char) {lines : List String} {cs : List Char} (rest : Spelled lines cs) :
      Spelled (String.ofList line :: lines) (line ++ cs)

theorem Spelled.flatMap_toList {lines : List String} {cs : List Char} (h : Spelled lines cs) :
    lines.flatMap String.toList = cs := by
  induction h with
  | nil => rfl
  | cons line rest ih => rw [List.flatMap_cons, ih, String.toList_ofList]

theorem above_unpack {bound : Nat} {lines : List String} {cs : List Char}
    (hspelled : Spelled lines cs) (h : scan bound 0 false cs = true) :
    Above bound (unpack lines).list.toList := by
  rw [← hspelled.flatMap_toList] at h
  have hstart : Unpacking.Above bound false ⟨0, 0, [], #[]⟩ :=
    ⟨by simp [Entries.Above], by simp, by simp, fun _ => rfl⟩
  obtain ⟨keyed, hend⟩ := hstart.foldl h
  exact hend.finish

/-- What is found is in the table. -/
theorem mem_of_find? {e : Entries} {n : Nat} {values : List Nat} (h : e.find? n = some values) :
    (n, values) ∈ e.list.toList := by
  unfold find? at h
  split at h
  · next k vs hget =>
      split at h
      · next hk =>
          cases h
          exact Array.mem_toList_iff.2 (hk ▸ Array.mem_of_getElem? hget)
      · cases h
  · cases h

end Entries

/-- No canonical decomposition has to do with control characters or the space. -/
theorem above_decompositions : Entries.Above 0x20 decompositions.list.toList := by
  unfold decompositions
  apply Entries.above_unpack
  case hspelled =>
    repeat apply Entries.Spelled.cons
    exact .nil
  case h => decide +kernel

/-! ## Characters up to the space -/

section Low

variable {b : Char} (hb : b.toNat ≤ 0x20)

include hb

theorem decomposeBy_low {table : Nat → Option (List Nat)} (h : table b.toNat = none)
    (steps : Nat) : decomposeBy table b.toNat steps = [b.toNat] := by
  have hlt : b.toNat < Hangul.base := Nat.lt_of_le_of_lt hb (by decide)
  have hhangul : Hangul.decompose? b.toNat = none := if_neg fun h => Nat.not_le.2 hlt h.1
  cases steps with
  | zero => rfl
  | succ steps => rw [decomposeBy, hhangul, h]

theorem decomposeChar_low : decomposeChar b.toNat = [b.toNat] := by
  refine decomposeBy_low hb (Option.eq_none_iff_forall_ne_some.2 fun values h => ?_) 5
  have hkey : 0x20 < b.toNat := (above_decompositions _ (Entries.mem_of_find? h)).1
  exact Nat.not_le.2 hkey hb

theorem combiningClass_low : combiningClass b = 0 := if_pos (by omega)

theorem composePair_low (a : Char) : composePair a b = none := by
  have hhangul : Hangul.compose? a.toNat b.toNat = none := by
    unfold Hangul.compose? Hangul.vowelBase Hangul.trailBase
    rw [if_neg (by omega), if_neg (by omega)]
  have htable : decompositions.list.find? (fun e =>
      e.2 == [a.toNat, b.toNat] && !compositionExclusions.contains e.1) = none := by
    rw [Array.find?_eq_none]
    intro e he hpair
    have hvalues : e.2 = [a.toNat, b.toNat] := by
      simp only [Bool.and_eq_true, beq_iff_eq] at hpair
      exact hpair.1
    have := (above_decompositions e (Array.mem_toList_iff.2 he)).2 b.toNat (by simp [hvalues])
    omega
  rw [composePair, hhangul, htable]
  rfl

theorem decompose_concat (cs : List Char) : decompose (cs ++ [b]) = decompose cs ++ [b] := by
  have hmarks : ∀ done ds : List Char, orderMarks done (ds ++ [b]) = orderMarks done ds ++ [b] := by
    intro done ds
    induction ds generalizing done with
    | nil => simp [orderMarks, combiningClass_low hb]
    | cons d ds ih => exact ih _
  rw [decompose, List.flatMap_append, List.flatMap_singleton, decomposeChar_low hb, List.map_singleton,
    Char.ofNat_toNat, hmarks]
  rfl

end Low

/-- There are no marks before the first character that starts a group. -/
def Composing.Fresh (s : Composing) : Prop := s.starter = none → s.marks = []

theorem Composing.Fresh.step {s : Composing} (h : s.Fresh) (c : Char) : (s.step c).Fresh := by
  unfold Composing.step
  cases hs : s.starter with
  | none =>
      dsimp only
      split
      · intro hnone
        cases hnone
      · exact fun _ => h hs
  | some a =>
      dsimp only
      split
      · intro hnone
        cases hnone
      · split
        · intro hnone
          cases hnone
        · intro hnone
          cases hnone

theorem Composing.fresh_foldl {s : Composing} (h : s.Fresh) (cs : List Char) :
    (cs.foldl Composing.step s).Fresh := by
  induction cs generalizing s with
  | nil => exact h
  | cons c cs ih => exact ih (h.step c)

theorem Composing.finish_step {s : Composing} (h : s.Fresh) {b : Char} (hb : b.toNat ≤ 0x20) :
    (s.step b).finish = s.finish ++ [b] := by
  unfold Composing.step
  rw [combiningClass_low hb]
  cases hs : s.starter with
  | none => simp [Composing.finish, hs, h hs]
  | some a => simp [Composing.finish, hs, composePair_low hb]

/-- A control character or a space at the end stays there. -/
theorem nfc_concat {b : Char} (hb : b.toNat ≤ 0x20) (cs : List Char) :
    nfc (cs ++ [b]) = nfc cs ++ [b] := by
  have hstart : Composing.Fresh ⟨[], none, [], 0⟩ := fun _ => rfl
  rw [nfc, decompose_concat hb, compose, List.foldl_append, List.foldl_cons, List.foldl_nil]
  exact Composing.finish_step (Composing.fresh_foldl hstart _) hb

end Accounts.Unicode
