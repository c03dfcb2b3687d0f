import Accounts.Bytes.Words
/-!
# Percent-encoding

A text is written with letters, digits and the four marks `-`, `_`, `.` and `~`;
every other byte of it is written as a percent sign and two hexadecimal digits.
-/

namespace Accounts.Bytes.Percent

/-- A byte that is written as itself. -/
def isPlain (b : UInt8) : Bool :=
  let n := b.toNat
  (0x30 ≤ n && n ≤ 0x39) || (0x41 ≤ n && n ≤ 0x5A) || (0x61 ≤ n && n ≤ 0x7A) ||
    n == 0x2D || n == 0x5F || n == 0x2E || n == 0x7E

/-- A hexadecimal digit. -/
def hexDigit (n : Nat) : Char :=
  if n < 10 then Char.ofNat ('0'.toNat + n) else Char.ofNat ('A'.toNat + (n - 10))

/-- The value of a hexadecimal digit. -/
def hexValue? (c : Char) : Option Nat :=
  if '0' ≤ c ∧ c ≤ '9' then some (c.toNat - '0'.toNat)
  else if 'A' ≤ c ∧ c ≤ 'F' then some (c.toNat - 'A'.toNat + 10)
  else none

/-- The written form of a byte. -/
def escape (b : UInt8) : List Char :=
  if isPlain b then [Char.ofNat b.toNat]
  else ['%', hexDigit (b.toNat / 16), hexDigit (b.toNat % 16)]

/-- The written form of bytes. -/
def encode (bs : List UInt8) : List Char := bs.flatMap escape

/-- The bytes of a written form. -/
def decode : List Char → Option (List UInt8)
  | [] => some []
  | '%' :: a :: b :: cs => do
    let h ← hexValue? a
    let l ← hexValue? b
    let bs ← decode cs
    return UInt8.ofNat (16 * h + l) :: bs
  | c :: cs => if c = '%' ∨ 0x80 ≤ c.toNat then none else (decode cs).map (UInt8.ofNat c.toNat :: ·)

/-- The written form of a text. -/
def encodeText (s : String) : String := String.ofList (encode (ofText s))

theorem hexValue?_hexDigit : ∀ n < 16, hexValue? (hexDigit n) = some n := by decide

/-- A byte that is written as itself is its own character, and no percent sign. -/
theorem char_of_isPlain {b : UInt8} (h : isPlain b = true) :
    (Char.ofNat b.toNat).toNat = b.toNat ∧ Char.ofNat b.toNat ≠ '%' ∧ b.toNat < 0x80 := by
  have hb : b.toNat < 0x80 ∧ b.toNat ≠ 0x25 := by
    simp only [isPlain, Bool.or_eq_true, Bool.and_eq_true, decide_eq_true_eq, beq_iff_eq] at h
    omega
  have hc : (Char.ofNat b.toNat).toNat = b.toNat := by
    have : b.toNat.isValidChar := by unfold Nat.isValidChar; omega
    rw [Char.ofNat, dif_pos this]
    rfl
  refine ⟨hc, ?_, hb.1⟩
  intro he
  rw [he] at hc
  exact hb.2 hc.symm

theorem decode_escape_append (b : UInt8) (cs : List Char) :
    decode (escape b ++ cs) = (decode cs).map (b :: ·) := by
  unfold escape
  split
  · rename_i h
    obtain ⟨hc, hp, hs⟩ := char_of_isPlain h
    simp only [List.cons_append, List.nil_append]
    rw [decode.eq_3 _ _ (by intro _ _ _ he; exact absurd he hp)]
    simp [hc, hp, show ¬ 128 ≤ b.toNat by omega]
  · have hb : b.toNat < 256 := b.toNat_lt
    have hd : 16 * (b.toNat / 16) + b.toNat % 16 = b.toNat := by omega
    simp only [List.cons_append, List.nil_append, decode]
    rw [hexValue?_hexDigit _ (by omega), hexValue?_hexDigit _ (by omega)]
    cases decode cs with
    | none => rfl
    | some bs =>
      change some (UInt8.ofNat (16 * (b.toNat / 16) + b.toNat % 16) :: bs) = some (b :: bs)
      rw [hd, UInt8.ofNat_toNat]

/-- What was written is read back. -/
theorem decode_encode (bs : List UInt8) : decode (encode bs) = some bs := by
  induction bs with
  | nil => rfl
  | cons b bs ih => rw [encode, List.flatMap_cons, decode_escape_append, ← encode, ih]; rfl

end Accounts.Bytes.Percent
