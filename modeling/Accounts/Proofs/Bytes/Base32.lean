import Accounts.Bytes.Base32
import Mathlib.Data.List.Induction
/-!
# Base 32 is read back

Bytes are taken apart into bits, and the bits are cut into digits; a reader does the same the
other way round.  Bits and the number that they stand for determine each other
(`ofBits_bits`, `bits_ofBits`), and what the writer adds to fill the last digit is less than a
digit, so the reader drops it and nothing else (`decode_encode`).
-/

namespace Accounts.Bytes

variable {α : Type} {size : Nat} {a ys : List α}

/-! ## Pieces -/

/-- The steps that are allowed do not matter once there are enough of them. -/
theorem chunks_go_eq (h : 0 < size) {steps steps' : Nat} (hle : ys.length ≤ steps)
    (hle' : ys.length ≤ steps') : chunks.go size steps ys = chunks.go size steps' ys := by
  induction steps generalizing ys steps' with
  | zero =>
      obtain rfl := List.length_eq_zero_iff.1 (Nat.le_zero.1 hle)
      cases steps' <;> rfl
  | succ steps ih =>
      cases ys with
      | nil => cases steps' <;> rfl
      | cons y ys =>
          cases steps' with
          | zero => cases hle'
          | succ steps' =>
              have hdrop : ((y :: ys).drop size).length ≤ ys.length := by simp; omega
              show (y :: ys).take size :: chunks.go size steps ((y :: ys).drop size) = _
              rw [ih (Nat.le_trans hdrop (Nat.le_of_succ_le_succ hle))
                (Nat.le_trans hdrop (Nat.le_of_succ_le_succ hle'))]
              rfl

theorem chunks_nil : chunks size ([] : List α) = [] := rfl

theorem chunks_of_ne_nil (h : 0 < size) (hne : ys ≠ []) :
    chunks size ys = ys.take size :: chunks size (ys.drop size) := by
  obtain ⟨y, ys, rfl⟩ := List.exists_cons_of_ne_nil hne
  show (y :: ys).take size :: chunks.go size ys.length ((y :: ys).drop size) = _
  rw [chunks, chunks_go_eq h (by simp; omega) (Nat.le_refl _)]

theorem chunks_append (h : 0 < size) (ha : a.length = size) (ys : List α) :
    chunks size (a ++ ys) = a :: chunks size ys := by
  have hne : a ++ ys ≠ [] := by
    intro heq
    rw [(List.append_eq_nil_iff.1 heq).1, List.length_nil] at ha
    omega
  rw [chunks_of_ne_nil h hne, List.take_left' ha, List.drop_left' ha]

theorem chunks_of_length_lt (hne : ys ≠ []) (hlt : ys.length < size) : chunks size ys = [ys] := by
  rw [chunks_of_ne_nil (by omega) hne, List.take_of_length_le (by omega),
    List.drop_of_length_le (by omega), chunks_nil]

/-- A list is its pieces: it is empty, or short, or it starts with a whole piece. -/
theorem chunks_induction {motive : List α → Prop} (h : 0 < size) (nil : motive [])
    (short : ∀ ys, ys ≠ [] → ys.length < size → motive ys)
    (whole : ∀ a ys, a.length = size → motive ys → motive (a ++ ys)) (ys : List α) :
    motive ys := by
  induction hlen : ys.length using Nat.strongRecOn generalizing ys with
  | ind count ih =>
      rcases eq_or_ne ys [] with rfl | hne
      · exact nil
      rcases Nat.lt_or_ge ys.length size with hlt | hge
      · exact short ys hne hlt
      · rw [← List.take_append_drop size ys]
        exact whole _ _ (List.length_take_of_le hge)
          (ih _ (by rw [List.length_drop]; omega) _ rfl)

theorem length_chunks (h : 0 < size) (ys : List α) :
    (chunks size ys).length = (ys.length + (size - 1)) / size := by
  induction ys using chunks_induction h with
  | nil =>
      rw [chunks_nil, List.length_nil, List.length_nil, Nat.zero_add, Nat.div_eq_of_lt (by omega)]
  | short ys hne hlt =>
      have hpos := List.length_pos_iff.2 hne
      rw [chunks_of_length_lt hne hlt, List.length_singleton]
      exact (Nat.div_eq_of_lt_le (by omega) (by omega)).symm
  | whole a ys ha ih =>
      rw [chunks_append h ha, List.length_cons, ih, List.length_append, ha, Nat.add_assoc,
        Nat.add_div_left _ h]

theorem length_le_of_mem_chunks (h : 0 < size) (hmem : a ∈ chunks size ys) : a.length ≤ size := by
  induction ys using chunks_induction h with
  | nil => cases hmem
  | short ys hne hlt =>
      rw [chunks_of_length_lt hne hlt, List.mem_singleton] at hmem
      exact hmem ▸ Nat.le_of_lt hlt
  | whole b ys hb ih =>
      rw [chunks_append h hb, List.mem_cons] at hmem
      exact hmem.elim (fun heq => heq ▸ Nat.le_of_eq hb) ih

/-- A piece with `x` added up to the length of a whole one. -/
def padded (size : Nat) (x : α) (c : List α) : List α := c ++ List.replicate (size - c.length) x

/-- The pieces, filled up, are the list and less than a piece of what fills them. -/
theorem flatMap_padded_chunks (h : 0 < size) (x : α) (ys : List α) :
    ∃ more < size, (chunks size ys).flatMap (padded size x) = ys ++ List.replicate more x := by
  induction ys using chunks_induction h with
  | nil => exact ⟨0, h, rfl⟩
  | short ys hne hlt =>
      have hpos := List.length_pos_iff.2 hne
      exact ⟨size - ys.length, by omega, by rw [chunks_of_length_lt hne hlt]; simp [padded]⟩
  | whole a ys ha ih =>
      obtain ⟨more, hmore, heq⟩ := ih
      refine ⟨more, hmore, ?_⟩
      have hpad : padded size x a = a := by simp [padded, ha]
      rw [chunks_append h ha, List.flatMap_cons, heq, hpad, List.append_assoc]

end Accounts.Bytes

namespace Accounts.Bytes.Base32

/-! ## Bits -/

theorem length_bits (count n : Nat) : (bits count n).length = count := by simp [bits]

/-- The lowest bit comes last. -/
theorem bits_succ (count n : Nat) : bits (count + 1) n = bits count (n / 2) ++ [n % 2 == 1] := by
  have hlast : n / Nat.pow 2 (count + 1 - 1 - count) = n := by
    rw [Nat.add_sub_cancel, Nat.sub_self]
    exact Nat.div_one n
  have hrest : ∀ i ∈ List.range count,
      (n / Nat.pow 2 (count + 1 - 1 - i) % 2 == 1) =
        (n / 2 / Nat.pow 2 (count - 1 - i) % 2 == 1) := by
    intro i hi
    have hi := List.mem_range.1 hi
    have hpow : Nat.pow 2 (count + 1 - 1 - i) = 2 * Nat.pow 2 (count - 1 - i) := by
      rw [show count + 1 - 1 - i = (count - 1 - i).succ by omega]
      exact Nat.pow_succ'
    rw [hpow, Nat.div_div_eq_div_mul]
  rw [bits, List.range_succ, List.map_append, List.map_congr_left hrest, List.map_singleton, hlast,
    bits]

theorem ofBits_concat (bs : List Bool) (b : Bool) :
    ofBits (bs ++ [b]) = 2 * ofBits bs + if b then 1 else 0 := by
  rw [ofBits, List.foldl_append]
  rfl

/-- Bits that are written keep the lowest part of a number. -/
theorem ofBits_bits (count n : Nat) : ofBits (bits count n) = n % Nat.pow 2 count := by
  induction count generalizing n with
  | zero => exact (Nat.mod_one n).symm
  | succ count ih =>
      have hbit : (if (n % 2 == 1) = true then 1 else 0) = n % 2 := by
        rcases Nat.mod_two_eq_zero_or_one n with h | h <;> simp [h]
      have hpow : Nat.pow 2 (count + 1) = 2 * Nat.pow 2 count := Nat.pow_succ'
      rw [bits_succ, ofBits_concat, ih, hbit, hpow, Nat.mod_mul, Nat.add_comm]

theorem bits_ofBits (bs : List Bool) : bits bs.length (ofBits bs) = bs := by
  induction bs using List.reverseRecOn with
  | nil => rfl
  | append_singleton bs b ih =>
      have hhigh : (2 * ofBits bs + if b then 1 else 0) / 2 = ofBits bs := by
        split <;> omega
      have hlow : ((2 * ofBits bs + if b then 1 else 0) % 2 == 1) = b := by
        cases b <;> simp
      rw [List.length_append, List.length_singleton, ofBits_concat, bits_succ, hhigh, ih, hlow]

theorem ofBits_lt (bs : List Bool) : ofBits bs < Nat.pow 2 bs.length := by
  rw [← bits_ofBits bs, ofBits_bits, length_bits]
  exact Nat.mod_lt _ (Nat.two_pow_pos _)

/-! ## The text of bytes -/

/-- The bits of bytes. -/
def spread (bytes : List UInt8) : List Bool := bytes.flatMap fun b => bits 8 b.toNat

theorem length_spread (bytes : List UInt8) : (spread bytes).length = 8 * bytes.length := by
  induction bytes with
  | nil => rfl
  | cons b bytes ih =>
      rw [spread, List.flatMap_cons, List.length_append, length_bits, ← spread, ih,
        List.length_cons]
      omega

/-- The values of the digits of bytes. -/
def values (bytes : List UInt8) : List Nat :=
  (chunks 5 (spread bytes)).map fun c => ofBits (padded 5 false c)

theorem encode_eq (bytes : List UInt8) : encode bytes = (values bytes).map digit := by
  rw [values, List.map_map]
  rfl

theorem length_padded_of_mem {bytes : List UInt8} {c : List Bool}
    (h : c ∈ chunks 5 (spread bytes)) : (padded 5 false c).length = 5 := by
  have hle := length_le_of_mem_chunks (by decide) h
  rw [padded, List.length_append, List.length_replicate]
  omega

theorem lt_of_mem_values {bytes : List UInt8} {n : Nat} (h : n ∈ values bytes) : n < 32 := by
  obtain ⟨c, hc, rfl⟩ := List.mem_map.1 h
  have hlt := ofBits_lt (padded 5 false c)
  rwa [length_padded_of_mem hc] at hlt

theorem length_encode (bytes : List UInt8) :
    (encode bytes).length = (8 * bytes.length + 4) / 5 := by
  rw [encode_eq, List.length_map, values, List.length_map, length_chunks (by decide),
    length_spread]

/-- A letter from `A` to `Z` or a digit from `2` to `7`. -/
def InAlphabet (c : Char) : Prop := 'A' ≤ c ∧ c ≤ 'Z' ∨ '2' ≤ c ∧ c ≤ '7'

instance (c : Char) : Decidable (InAlphabet c) := inferInstanceAs (Decidable (_ ∨ _))

theorem inAlphabet_digit : ∀ n < 32, InAlphabet (digit n) := by decide

theorem inAlphabet_of_mem_encode {bytes : List UInt8} {c : Char} (h : c ∈ encode bytes) :
    InAlphabet c := by
  rw [encode_eq] at h
  obtain ⟨n, hn, rfl⟩ := List.mem_map.1 h
  exact inAlphabet_digit n (lt_of_mem_values hn)

/-! ## Reading it back -/

theorem flatMap_bits_values (bytes : List UInt8) :
    (values bytes).flatMap (bits 5) =
      (chunks 5 (spread bytes)).flatMap (padded 5 false) := by
  have hpiece : ∀ c ∈ chunks 5 (spread bytes),
      bits 5 (ofBits (padded 5 false c)) = padded 5 false c := by
    intro c hc
    have hbits := bits_ofBits (padded 5 false c)
    rwa [length_padded_of_mem hc] at hbits
  rw [values, List.flatMap_map, List.flatMap_def, List.map_congr_left hpiece, List.flatMap_def]

/-- Whole bytes are taken off the front, and what follows them is too short for one. -/
theorem filter_chunks_spread (bytes : List UInt8) {rest : List Bool} (h : rest.length < 8) :
    ((chunks 8 (spread bytes ++ rest)).filter (·.length = 8)).map
      (fun c => UInt8.ofNat (ofBits c)) = bytes := by
  induction bytes with
  | nil =>
      rcases eq_or_ne rest [] with rfl | hne
      · rfl
      · have hlen : rest.length ≠ 8 := by omega
        rw [spread, List.flatMap_nil, List.nil_append, chunks_of_length_lt hne h]
        simp [hlen]
  | cons b bytes ih =>
      have hbyte : UInt8.ofNat (ofBits (bits 8 b.toNat)) = b := by
        rw [ofBits_bits, Nat.mod_eq_of_lt b.toNat_lt, UInt8.ofNat_toNat]
      rw [spread, List.flatMap_cons, ← spread, List.append_assoc,
        chunks_append (by decide) (length_bits _ _),
        List.filter_cons_of_pos (by simp [length_bits]), List.map_cons, hbyte, ih]

/-- What was written is read back. -/
theorem decode_encode (bytes : List UInt8) : decode (encode bytes) = some bytes := by
  obtain ⟨more, hmore, hpad⟩ := flatMap_padded_chunks (show 0 < 5 by decide) false (spread bytes)
  have hrest : (List.replicate more false).length < 8 := by rw [List.length_replicate]; omega
  rw [decode, encode_eq, mapM_map_of_undone fun n hn => value?_digit n (lt_of_mem_values hn),
    Option.map_some, flatMap_bits_values, hpad, filter_chunks_spread bytes hrest]

end Accounts.Bytes.Base32
