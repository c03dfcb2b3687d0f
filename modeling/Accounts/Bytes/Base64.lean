import Accounts.Bytes.Words
/-!
# Bytes as text to base 64

Three bytes are written as four digits.  One or two bytes at the end are written
as two or three digits, and the bits that are left over are zero; a reader refuses
other bits there.  The alphabets differ in their last two digits.  No padding is
written.
-/

namespace Accounts.Bytes.Base64

/-- The digits that are not letters or numbers. -/
structure Alphabet where
  /-- The digit 62. -/
  digit62 : Char
  /-- The digit 63. -/
  digit63 : Char

/-- The alphabet of e-mail and of keys. -/
def Alphabet.standard : Alphabet := ⟨'+', '/'⟩

/-- The alphabet of tokens. -/
def Alphabet.urlSafe : Alphabet := ⟨'-', '_'⟩

/-- The digit of a value. -/
def Alphabet.digit (a : Alphabet) (n : Nat) : Char :=
  if n < 26 then Char.ofNat ('A'.toNat + n)
  else if n < 52 then Char.ofNat ('a'.toNat + (n - 26))
  else if n < 62 then Char.ofNat ('0'.toNat + (n - 52))
  else if n = 62 then a.digit62
  else a.digit63

/-- The value of a digit. -/
def Alphabet.value? (a : Alphabet) (c : Char) : Option Nat :=
  if 'A' ≤ c ∧ c ≤ 'Z' then some (c.toNat - 'A'.toNat)
  else if 'a' ≤ c ∧ c ≤ 'z' then some (c.toNat - 'a'.toNat + 26)
  else if '0' ≤ c ∧ c ≤ '9' then some (c.toNat - '0'.toNat + 52)
  else if c = a.digit62 then some 62
  else if c = a.digit63 then some 63
  else none

/-- The values of the digits of bytes. -/
def toValues : List UInt8 → List Nat
  | [] => []
  | [x] =>
    let n := x.toNat * 16
    [n / 64, n % 64]
  | [x, y] =>
    let n := (x.toNat * 256 + y.toNat) * 4
    [n / 4096, n / 64 % 64, n % 64]
  | x :: y :: z :: rest =>
    let n := (x.toNat * 256 + y.toNat) * 256 + z.toNat
    n / 262144 :: n / 4096 % 64 :: n / 64 % 64 :: n % 64 :: toValues rest

/-- The text of bytes, without padding. -/
def encode (a : Alphabet) (bytes : List UInt8) : List Char := (toValues bytes).map a.digit

/-- The bytes of the values of digits. -/
def ofValues : List Nat → Option (List UInt8)
  | [] => some []
  | [_] => none
  | [p, q] => if q % 16 = 0 then some [UInt8.ofNat (p * 4 + q / 16)] else none
  | [p, q, r] =>
    if r % 4 = 0 then
      let n := (p * 64 + q) * 16 + r / 4
      some [UInt8.ofNat (n / 256), UInt8.ofNat n]
    else none
  | p :: q :: r :: s :: rest =>
    let n := ((p * 64 + q) * 64 + r) * 64 + s
    (ofValues rest).map fun bs =>
      UInt8.ofNat (n / 65536) :: UInt8.ofNat (n / 256) :: UInt8.ofNat n :: bs

/-- The bytes of a text without padding. -/
def decode (a : Alphabet) (cs : List Char) : Option (List UInt8) :=
  (cs.mapM a.value?).bind ofValues

/-- The text of bytes without padding. -/
def encodeText (a : Alphabet) (bs : List UInt8) : String := String.ofList (encode a bs)

/-! ## Reading back -/

theorem lt_of_mem_toValues {bytes : List UInt8} {n : Nat} (h : n ∈ toValues bytes) : n < 64 := by
  fun_induction toValues bytes with
  | case1 => simp at h
  | case2 x n =>
    have := x.toNat_lt
    simp only [List.mem_cons, List.not_mem_nil, or_false] at h
    omega
  | case3 x y n =>
    have := x.toNat_lt
    have := y.toNat_lt
    simp only [List.mem_cons, List.not_mem_nil, or_false] at h
    omega
  | case4 x y z rest n ih =>
    have := x.toNat_lt
    have := y.toNat_lt
    have := z.toNat_lt
    simp only [List.mem_cons] at h
    rcases h with h | h | h | h | h
    · omega
    · omega
    · omega
    · omega
    · exact ih h

theorem ofValues_toValues (bytes : List UInt8) : ofValues (toValues bytes) = some bytes := by
  fun_induction toValues bytes with
  | case1 => rfl
  | case2 x n =>
    have := x.toNat_lt
    have h : n / 64 * 4 + n % 64 / 16 = x.toNat := by omega
    have h' : n % 64 % 16 = 0 := by omega
    rw [ofValues, if_pos h', h, UInt8.ofNat_toNat]
  | case3 x y n =>
    have := x.toNat_lt
    have := y.toNat_lt
    have h' : n % 64 % 4 = 0 := by omega
    have h : (n / 4096 * 64 + n / 64 % 64) * 16 + n % 64 / 4 = x.toNat * 256 + y.toNat := by omega
    have hx : UInt8.ofNat ((x.toNat * 256 + y.toNat) / 256) = x := by
      rw [show (x.toNat * 256 + y.toNat) / 256 = x.toNat by omega, UInt8.ofNat_toNat]
    have hy : UInt8.ofNat (x.toNat * 256 + y.toNat) = y := by
      apply UInt8.toNat_inj.1
      rw [UInt8.toNat_ofNat']
      omega
    rw [ofValues, if_pos h', h]
    simp only [hx, hy]
  | case4 x y z rest n ih =>
    have := x.toNat_lt
    have := y.toNat_lt
    have := z.toNat_lt
    have h : ((n / 262144 * 64 + n / 4096 % 64) * 64 + n / 64 % 64) * 64 + n % 64 = n := by omega
    have hx : UInt8.ofNat (n / 65536) = x := by
      rw [show n / 65536 = x.toNat by omega, UInt8.ofNat_toNat]
    have hy : UInt8.ofNat (n / 256) = y := by
      apply UInt8.toNat_inj.1
      rw [UInt8.toNat_ofNat']
      omega
    have hz : UInt8.ofNat n = z := by
      apply UInt8.toNat_inj.1
      rw [UInt8.toNat_ofNat']
      omega
    rw [ofValues, ih, h]
    simp only [Option.map_some, hx, hy, hz]

/-- Every digit of an alphabet has the value that it stands for. -/
def Alphabet.Sound (a : Alphabet) : Prop := ∀ n < 64, a.value? (a.digit n) = some n

theorem Alphabet.standard_sound : standard.Sound := by
  unfold Sound
  decide

theorem Alphabet.urlSafe_sound : urlSafe.Sound := by
  unfold Sound
  decide

/-- What was written is read back. -/
theorem decode_encode {a : Alphabet} (ha : a.Sound) (bytes : List UInt8) :
    decode a (encode a bytes) = some bytes := by
  rw [decode, encode, mapM_map_of_undone fun n hn => ha n (lt_of_mem_toValues hn),
    Option.bind_some, ofValues_toValues]

example : encodeText .standard [0x4d, 0x61, 0x6e, 0x4d] = "TWFuTQ" := by decide
example : decode .standard "TWFuTQ".toList = some [0x4d, 0x61, 0x6e, 0x4d] := by decide
example : decode .standard "TR".toList = none := by decide

end Accounts.Bytes.Base64
