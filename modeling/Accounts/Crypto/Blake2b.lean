import Accounts.Bytes.Words
import Accounts.Crypto.Row
/-!
# The hash BLAKE2b

The hash has up to 64 bytes.  A message is cut into blocks of 128 bytes.  For each
block a row is made of the state, the constants, the number of bytes so far and a
mark on the last block; twelve rounds stir it with the words of the block, each
in an order of its own.
-/

namespace Accounts.Crypto.Blake2b

/-- Stirs four words with two words of the message and hands them on. -/
@[inline] def mix (a b c d x y : UInt64) (next : UInt64 → UInt64 → UInt64 → UInt64 → Row) : Row :=
  let a := a + b + x
  let d := turn (d ^^^ a) 32
  let c := c + d
  let b := turn (b ^^^ c) 24
  let a := a + b + y
  let d := turn (d ^^^ a) 16
  let c := c + d
  let b := turn (b ^^^ c) 63
  next a b c d

/-- One round with the words of the message in the order in which they are used. -/
def round (r m : Row) : Row :=
  mix r.w0 r.w4 r.w8 r.w12 m.w0 m.w1 fun v0 v4 v8 v12 =>
  mix r.w1 r.w5 r.w9 r.w13 m.w2 m.w3 fun v1 v5 v9 v13 =>
  mix r.w2 r.w6 r.w10 r.w14 m.w4 m.w5 fun v2 v6 v10 v14 =>
  mix r.w3 r.w7 r.w11 r.w15 m.w6 m.w7 fun v3 v7 v11 v15 =>
  mix v0 v5 v10 v15 m.w8 m.w9 fun u0 u5 u10 u15 =>
  mix v1 v6 v11 v12 m.w10 m.w11 fun u1 u6 u11 u12 =>
  mix v2 v7 v8 v13 m.w12 m.w13 fun u2 u7 u8 u13 =>
  mix v3 v4 v9 v14 m.w14 m.w15 fun u3 u4 u9 u14 =>
  ⟨u0, u1, u2, u3, u4, u5, u6, u7, u8, u9, u10, u11, u12, u13, u14, u15⟩

/-- The orders of the words, one per round. -/
def orders : List (List Nat) :=
  [[0, 1, 2, 3, 4, 5, 6, 7, 8, 9, 10, 11, 12, 13, 14, 15],
   [14, 10, 4, 8, 9, 15, 13, 6, 1, 12, 0, 2, 11, 7, 5, 3],
   [11, 8, 12, 0, 5, 2, 15, 13, 10, 14, 3, 6, 7, 1, 9, 4],
   [7, 9, 3, 1, 13, 12, 11, 14, 2, 6, 5, 10, 4, 0, 15, 8],
   [9, 0, 5, 7, 2, 4, 10, 15, 14, 1, 11, 12, 6, 8, 3, 13],
   [2, 12, 6, 10, 0, 11, 8, 3, 4, 13, 7, 5, 15, 14, 1, 9],
   [12, 5, 1, 15, 14, 13, 4, 10, 0, 7, 6, 3, 9, 2, 8, 11],
   [13, 11, 7, 14, 12, 1, 3, 9, 5, 0, 15, 4, 8, 6, 2, 10],
   [6, 15, 14, 9, 11, 3, 0, 8, 12, 2, 13, 7, 1, 4, 10, 5],
   [10, 2, 8, 4, 7, 6, 1, 5, 15, 11, 9, 14, 3, 12, 13, 0],
   [0, 1, 2, 3, 4, 5, 6, 7, 8, 9, 10, 11, 12, 13, 14, 15],
   [14, 10, 4, 8, 9, 15, 13, 6, 1, 12, 0, 2, 11, 7, 5, 3]]

/-- The constants of the hash. -/
def constants : List UInt64 :=
  [0x6a09e667f3bcc908, 0xbb67ae8584caa73b, 0x3c6ef372fe94f82b, 0xa54ff53a5f1d36f1,
   0x510e527fade682d1, 0x9b05688c2b3e6c1f, 0x1f83d9abfb41bd6b, 0x5be0cd19137e2179]

/-- Takes in one block; `count` is the number of bytes up to its end. -/
def absorb (state : List UInt64) (count : Nat) (last : Bool) (block : List UInt8) : List UInt64 :=
  let padded := block ++ List.replicate (128 - block.length) 0
  let words := (Bytes.chunks 8 padded).map fun c => UInt64.ofNat (Bytes.ofLittleEndian c)
  let message := Row.ofList words
  let marks := [0, 0, 0, 0, UInt64.ofNat count, UInt64.ofNat (count / Nat.pow 2 64),
    if last then 0xffffffffffffffff else 0, 0]
  let start := Row.ofList (state ++ List.zipWith (· ^^^ ·) constants marks)
  let stirred := (orders.foldl (fun r o => round r (.ofList (o.map message.get))) start).toList
  List.zipWith (· ^^^ ·) state (List.zipWith (· ^^^ ·) stirred (stirred.drop 8))

/-- Takes in the blocks of a message; `count` bytes were taken in before. -/
def absorbAll (state : List UInt64) (count : Nat) : List (List UInt8) → List UInt64
  | [] => state
  | [block] => absorb state (count + block.length) true block
  | block :: rest =>
    absorbAll (absorb state (count + block.length) false block) (count + block.length) rest

/-- The hash of a message with `size` bytes, at most 64. -/
def hash (size : Nat) (message : List UInt8) : List UInt8 :=
  let start := match constants with
    | [] => []
    | c :: cs => (c ^^^ 0x01010000 ^^^ UInt64.ofNat size) :: cs
  let blocks := if message = [] then [[]] else Bytes.chunks 128 message
  ((absorbAll start 0 blocks).flatMap fun w => Bytes.littleEndian 8 w.toNat).take size

end Accounts.Crypto.Blake2b
