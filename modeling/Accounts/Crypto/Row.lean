/-!
# Sixteen words

A row is sixteen words of 64 bits.  The hash functions that work on rows stir the
four columns of a row, seen as a square of four by four words, and then its four
diagonals.
-/

namespace Accounts.Crypto

/-- Sixteen words. -/
structure Row where
  /-- The first word. -/
  w0 : UInt64
  /-- The second word. -/
  w1 : UInt64
  /-- The third word. -/
  w2 : UInt64
  /-- The fourth word. -/
  w3 : UInt64
  /-- The fifth word. -/
  w4 : UInt64
  /-- The sixth word. -/
  w5 : UInt64
  /-- The seventh word. -/
  w6 : UInt64
  /-- The eighth word. -/
  w7 : UInt64
  /-- The ninth word. -/
  w8 : UInt64
  /-- The tenth word. -/
  w9 : UInt64
  /-- The eleventh word. -/
  w10 : UInt64
  /-- The twelfth word. -/
  w11 : UInt64
  /-- The thirteenth word. -/
  w12 : UInt64
  /-- The fourteenth word. -/
  w13 : UInt64
  /-- The fifteenth word. -/
  w14 : UInt64
  /-- The sixteenth word. -/
  w15 : UInt64
deriving DecidableEq, Repr, Inhabited

namespace Row

/-- The row with the same word everywhere. -/
def replicate (x : UInt64) : Row := ⟨x, x, x, x, x, x, x, x, x, x, x, x, x, x, x, x⟩

/-- The row of zeros. -/
def zero : Row := replicate 0

/-- The words of a row. -/
def toList (r : Row) : List UInt64 :=
  [r.w0, r.w1, r.w2, r.w3, r.w4, r.w5, r.w6, r.w7,
   r.w8, r.w9, r.w10, r.w11, r.w12, r.w13, r.w14, r.w15]

/-- The row of the first sixteen words of a list, filled with zeros. -/
def ofList (ws : List UInt64) : Row :=
  match ws ++ List.replicate 16 0 with
  | w0 :: w1 :: w2 :: w3 :: w4 :: w5 :: w6 :: w7 :: w8 :: w9 :: w10 :: w11 :: w12 :: w13 :: w14 ::
      w15 :: _ =>
    ⟨w0, w1, w2, w3, w4, w5, w6, w7, w8, w9, w10, w11, w12, w13, w14, w15⟩
  | _ => zero

/-- The word at a position. -/
def get (r : Row) (i : Nat) : UInt64 := r.toList.getD i 0

/-- Combines two rows bit by bit. -/
def xor (r s : Row) : Row :=
  ⟨r.w0 ^^^ s.w0, r.w1 ^^^ s.w1, r.w2 ^^^ s.w2, r.w3 ^^^ s.w3,
   r.w4 ^^^ s.w4, r.w5 ^^^ s.w5, r.w6 ^^^ s.w6, r.w7 ^^^ s.w7,
   r.w8 ^^^ s.w8, r.w9 ^^^ s.w9, r.w10 ^^^ s.w10, r.w11 ^^^ s.w11,
   r.w12 ^^^ s.w12, r.w13 ^^^ s.w13, r.w14 ^^^ s.w14, r.w15 ^^^ s.w15⟩

end Row

/-- Turns a word to the right. -/
@[inline] def turn (x n : UInt64) : UInt64 := (x >>> n) ||| (x <<< (64 - n))

end Accounts.Crypto
