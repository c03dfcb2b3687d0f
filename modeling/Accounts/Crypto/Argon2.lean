import Accounts.Crypto.Blake2b
/-!
# Password hashing with Argon2

Argon2 fills a memory of blocks of 128 words, each from the block before it and
one block chosen among the earlier ones, and hashes the last column.  The memory
has one row of blocks per lane, cut into four slices; a lane sees the finished
slices of all lanes, and its own current one.

Which block is chosen depends on the data, or on a counter only, or on a counter
in the first half of the first pass and on the data afterwards: these are the
three variants.  In the older version a later pass overwrites the memory, in the
newer one it is combined with what was there.
-/

namespace Accounts.Crypto.Argon2

/-! ## Blocks -/

/-- A block: eight rows. -/
structure Block where
  /-- The first row. -/
  r0 : Row
  /-- The second row. -/
  r1 : Row
  /-- The third row. -/
  r2 : Row
  /-- The fourth row. -/
  r3 : Row
  /-- The fifth row. -/
  r4 : Row
  /-- The sixth row. -/
  r5 : Row
  /-- The seventh row. -/
  r6 : Row
  /-- The eighth row. -/
  r7 : Row
deriving Inhabited

/-- Adds two words and twice the product of their lower halves. -/
@[inline] def blend (x y : UInt64) : UInt64 :=
  x + y + 2 * (x &&& 0xffffffff) * (y &&& 0xffffffff)

/-- Stirs four words and hands them on. -/
@[inline] def mix (a b c d : UInt64) (next : UInt64 → UInt64 → UInt64 → UInt64 → Row) : Row :=
  let a := blend a b
  let d := turn (d ^^^ a) 32
  let c := blend c d
  let b := turn (b ^^^ c) 24
  let a := blend a b
  let d := turn (d ^^^ a) 16
  let c := blend c d
  let b := turn (b ^^^ c) 63
  next a b c d

/-- Stirs a row. -/
def stir (r : Row) : Row :=
  mix r.w0 r.w4 r.w8 r.w12 fun v0 v4 v8 v12 =>
  mix r.w1 r.w5 r.w9 r.w13 fun v1 v5 v9 v13 =>
  mix r.w2 r.w6 r.w10 r.w14 fun v2 v6 v10 v14 =>
  mix r.w3 r.w7 r.w11 r.w15 fun v3 v7 v11 v15 =>
  mix v0 v5 v10 v15 fun u0 u5 u10 u15 =>
  mix v1 v6 v11 v12 fun u1 u6 u11 u12 =>
  mix v2 v7 v8 v13 fun u2 u7 u8 u13 =>
  mix v3 v4 v9 v14 fun u3 u4 u9 u14 =>
  ⟨u0, u1, u2, u3, u4, u5, u6, u7, u8, u9, u10, u11, u12, u13, u14, u15⟩

namespace Block

/-- The block of zeros. -/
def zero : Block := ⟨.zero, .zero, .zero, .zero, .zero, .zero, .zero, .zero⟩

/-- Combines two blocks bit by bit. -/
def xor (a b : Block) : Block :=
  ⟨a.r0.xor b.r0, a.r1.xor b.r1, a.r2.xor b.r2, a.r3.xor b.r3,
   a.r4.xor b.r4, a.r5.xor b.r5, a.r6.xor b.r6, a.r7.xor b.r7⟩

/-- Stirs every row. -/
def stirRows (b : Block) : Block :=
  ⟨stir b.r0, stir b.r1, stir b.r2, stir b.r3, stir b.r4, stir b.r5, stir b.r6, stir b.r7⟩

/-- Turns rows into columns, two words at a time. -/
def transpose (b : Block) : Block :=
  ⟨⟨b.r0.w0, b.r0.w1, b.r1.w0, b.r1.w1, b.r2.w0, b.r2.w1, b.r3.w0, b.r3.w1,
    b.r4.w0, b.r4.w1, b.r5.w0, b.r5.w1, b.r6.w0, b.r6.w1, b.r7.w0, b.r7.w1⟩,
   ⟨b.r0.w2, b.r0.w3, b.r1.w2, b.r1.w3, b.r2.w2, b.r2.w3, b.r3.w2, b.r3.w3,
    b.r4.w2, b.r4.w3, b.r5.w2, b.r5.w3, b.r6.w2, b.r6.w3, b.r7.w2, b.r7.w3⟩,
   ⟨b.r0.w4, b.r0.w5, b.r1.w4, b.r1.w5, b.r2.w4, b.r2.w5, b.r3.w4, b.r3.w5,
    b.r4.w4, b.r4.w5, b.r5.w4, b.r5.w5, b.r6.w4, b.r6.w5, b.r7.w4, b.r7.w5⟩,
   ⟨b.r0.w6, b.r0.w7, b.r1.w6, b.r1.w7, b.r2.w6, b.r2.w7, b.r3.w6, b.r3.w7,
    b.r4.w6, b.r4.w7, b.r5.w6, b.r5.w7, b.r6.w6, b.r6.w7, b.r7.w6, b.r7.w7⟩,
   ⟨b.r0.w8, b.r0.w9, b.r1.w8, b.r1.w9, b.r2.w8, b.r2.w9, b.r3.w8, b.r3.w9,
    b.r4.w8, b.r4.w9, b.r5.w8, b.r5.w9, b.r6.w8, b.r6.w9, b.r7.w8, b.r7.w9⟩,
   ⟨b.r0.w10, b.r0.w11, b.r1.w10, b.r1.w11, b.r2.w10, b.r2.w11, b.r3.w10, b.r3.w11,
    b.r4.w10, b.r4.w11, b.r5.w10, b.r5.w11, b.r6.w10, b.r6.w11, b.r7.w10, b.r7.w11⟩,
   ⟨b.r0.w12, b.r0.w13, b.r1.w12, b.r1.w13, b.r2.w12, b.r2.w13, b.r3.w12, b.r3.w13,
    b.r4.w12, b.r4.w13, b.r5.w12, b.r5.w13, b.r6.w12, b.r6.w13, b.r7.w12, b.r7.w13⟩,
   ⟨b.r0.w14, b.r0.w15, b.r1.w14, b.r1.w15, b.r2.w14, b.r2.w15, b.r3.w14, b.r3.w15,
    b.r4.w14, b.r4.w15, b.r5.w14, b.r5.w15, b.r6.w14, b.r6.w15, b.r7.w14, b.r7.w15⟩⟩

/-- The block made of two blocks. -/
def compress (a b : Block) : Block :=
  let r := a.xor b
  r.xor r.stirRows.transpose.stirRows.transpose

/-- The words of a block. -/
def words (b : Block) : List UInt64 :=
  [b.r0, b.r1, b.r2, b.r3, b.r4, b.r5, b.r6, b.r7].flatMap Row.toList

/-- The block of a list of words. -/
def ofWords (ws : List UInt64) : Block :=
  match (Bytes.chunks 16 ws).map Row.ofList with
  | [r0, r1, r2, r3, r4, r5, r6, r7] => ⟨r0, r1, r2, r3, r4, r5, r6, r7⟩
  | _ => zero

/-- The bytes of a block. -/
def bytes (b : Block) : List UInt8 := b.words.flatMap fun w => Bytes.littleEndian 8 w.toNat

/-- The block of a list of bytes. -/
def ofBytes (bs : List UInt8) : Block :=
  ofWords ((Bytes.chunks 8 bs).map fun c => UInt64.ofNat (Bytes.ofLittleEndian c))

end Block

/-! ## Parameters -/

/-- How blocks are chosen. -/
inductive Variant
  /-- By the data. -/
  | dependent
  /-- By a counter. -/
  | independent
  /-- By a counter at first, by the data later. -/
  | hybrid
deriving DecidableEq, Repr

/-- The number of a variant. -/
def Variant.code : Variant → Nat
  | .dependent => 0
  | .independent => 1
  | .hybrid => 2

/-- Whether a later pass overwrites the memory. -/
inductive Version
  /-- The older version, which does. -/
  | v10
  /-- The newer version, which does not. -/
  | v13
deriving DecidableEq, Repr

/-- The number of a version. -/
def Version.code : Version → Nat
  | .v10 => 0x10
  | .v13 => 0x13

/-- The cost of a hash. -/
structure Cost where
  /-- The size of the memory in blocks. -/
  memory : Nat
  /-- The number of passes. -/
  passes : Nat
  /-- The number of lanes. -/
  lanes : Nat
deriving DecidableEq, Repr

/-- What a hash is made of, the password apart. -/
structure Params where
  /-- How blocks are chosen. -/
  variant : Variant
  /-- Whether a later pass overwrites the memory. -/
  version : Version
  /-- The cost. -/
  cost : Cost
  /-- The length of the hash in bytes. -/
  size : Nat
  /-- Data that is hashed along. -/
  data : List UInt8
deriving DecidableEq, Repr

namespace Params

/-- The number of blocks in a slice of a lane. -/
def segment (p : Params) : Nat := p.cost.memory / (4 * p.cost.lanes)

/-- The number of blocks in a lane. -/
def laneLength (p : Params) : Nat := 4 * p.segment

/-- A number as four bytes. -/
def number (n : Nat) : List UInt8 := Bytes.littleEndian 4 n

/-- Bytes with their length in front. -/
def prefixed (bs : List UInt8) : List UInt8 := number bs.length ++ bs

/-- The hash of everything that goes in. -/
def seed (p : Params) (password salt : List UInt8) : List UInt8 :=
  Blake2b.hash 64 <|
    number p.cost.lanes ++ number p.size ++ number p.cost.memory ++ number p.cost.passes ++
      number p.version.code ++ number p.variant.code ++ prefixed password ++ prefixed salt ++
      prefixed [] ++ prefixed p.data

end Params

/-- The following hashes of a long hash, 32 bytes of each but the last. -/
def longTail (size : Nat) (before : List UInt8) : Nat → List UInt8
  | 0 => []
  | steps + 1 =>
    if size ≤ 64 then Blake2b.hash size before
    else
      let next := Blake2b.hash 64 before
      next.take 32 ++ longTail (size - 32) next steps

/-- A hash of any size. -/
def longHash (size : Nat) (message : List UInt8) : List UInt8 :=
  let input := Params.number size ++ message
  if size ≤ 64 then Blake2b.hash size input
  else
    let next := Blake2b.hash 64 input
    next.take 32 ++ longTail (size - 32) next size

/-! ## Filling the memory -/

/-- The memory, one lane after another. -/
abbrev Memory := Array Block

/-- Where a block is filled. -/
structure Place where
  /-- The pass. -/
  pass : Nat
  /-- The slice. -/
  slice : Nat
  /-- The lane. -/
  lane : Nat

/-- The blocks of a segment are chosen by a counter. -/
def Params.byCounter (p : Params) (place : Place) : Bool :=
  match p.variant with
  | .dependent => false
  | .independent => true
  | .hybrid => place.pass == 0 && place.slice < 2

/-- The numbers by which the next 128 blocks are chosen. -/
def addresses (p : Params) (place : Place) (counter : Nat) : Array UInt64 :=
  let start := [place.pass, place.lane, place.slice, p.laneLength * p.cost.lanes, p.cost.passes,
    p.variant.code, counter].map UInt64.ofNat
  let input := Block.ofWords (start ++ List.replicate 121 0)
  ((Block.zero.compress (Block.zero.compress input)).words).toArray

/-- The position of the chosen block of a segment at `index`, for a random number. -/
def choose (p : Params) (place : Place) (index : Nat) (random : UInt64) : Nat :=
  let q := p.laneLength
  let s := p.segment
  let low := (random &&& 0xffffffff).toNat
  let high := (random >>> 32).toNat
  let lane := if place.pass = 0 ∧ place.slice = 0 then place.lane else high % p.cost.lanes
  let area :=
    if place.pass = 0 then
      if place.slice = 0 then index - 1
      else if lane = place.lane then place.slice * s + index - 1
      else place.slice * s - (if index = 0 then 1 else 0)
    else if lane = place.lane then q - s + index - 1
    else q - s - (if index = 0 then 1 else 0)
  let start := if place.pass = 0 ∨ place.slice = 3 then 0 else (place.slice + 1) * s
  let x := low * low / Nat.pow 2 32
  let y := area * x / Nat.pow 2 32
  lane * q + (start + (area - 1 - y)) % q

/-- Fills the blocks of a segment from `index` on; `left` blocks are left. -/
def fillSegment (p : Params) (place : Place) (memory : Memory) (numbers : Array UInt64)
    (index : Nat) : Nat → Memory
  | 0 => memory
  | left + 1 =>
    if place.pass = 0 ∧ place.slice = 0 ∧ index < 2 then
      let numbers := if index = 0 ∧ p.byCounter place then addresses p place 1 else numbers
      fillSegment p place memory numbers (index + 1) left
    else
      let q := p.laneLength
      let column := place.slice * p.segment + index
      let here := place.lane * q + column
      let before := place.lane * q + (if column = 0 then q - 1 else column - 1)
      let previous := memory.getD before .zero
      let numbers :=
        if index % 128 = 0 ∧ p.byCounter place then addresses p place (index / 128 + 1) else numbers
      let random := if p.byCounter place then numbers.getD (index % 128) 0 else previous.r0.w0
      let other := memory.getD (choose p place index random) .zero
      let made := previous.compress other
      let block :=
        if place.pass = 0 ∨ p.version = .v10 then made else made.xor (memory.getD here .zero)
      fillSegment p place (memory.setIfInBounds here block) numbers (index + 1) left

/-- Fills a slice of every lane. -/
def fillSlice (p : Params) (pass slice : Nat) (memory : Memory) : Memory :=
  (List.range p.cost.lanes).foldl
    (fun m lane => fillSegment p ⟨pass, slice, lane⟩ m #[] 0 p.segment) memory

/-- Fills the memory once. -/
def fillPass (p : Params) (memory : Memory) (pass : Nat) : Memory :=
  (List.range 4).foldl (fun m slice => fillSlice p pass slice m) memory

/-- The memory with the first two blocks of each lane. -/
def startMemory (p : Params) (seed : List UInt8) : Memory :=
  (List.range p.cost.lanes).foldl
    (fun m lane =>
      let block := fun i =>
        Block.ofBytes (longHash 1024 (seed ++ Params.number i ++ Params.number lane))
      (m.setIfInBounds (lane * p.laneLength) (block 0)).setIfInBounds
        (lane * p.laneLength + 1) (block 1))
    (Array.replicate (p.cost.lanes * p.laneLength) Block.zero)

/-- The last blocks of all lanes combined. -/
def lastColumn (p : Params) (memory : Memory) : Block :=
  (List.range p.cost.lanes).foldl
    (fun b lane => b.xor (memory.getD (lane * p.laneLength + p.laneLength - 1) .zero)) .zero

/-- The hash of a password with a salt. -/
def hash (p : Params) (password salt : List UInt8) : List UInt8 :=
  let start := startMemory p (p.seed password salt)
  let memory := (List.range p.cost.passes).foldl (fillPass p) start
  longHash p.size (lastColumn p memory).bytes

end Accounts.Crypto.Argon2
