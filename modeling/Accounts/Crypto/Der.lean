import Accounts.Bytes.Words
/-!
# Structured bytes

Keys are written as blocks of a tag, a length and a content; the content of a
sequence is blocks again.  Only what keys are made of is told apart.
-/

namespace Accounts.Crypto.Der

/-- A block. -/
inductive Block
  /-- A sequence of blocks. -/
  | sequence (items : List Block)
  /-- A whole number, as the bytes it is written with. -/
  | integer (bytes : List UInt8)
  /-- A string of bits, whose bytes are all used. -/
  | bits (bytes : List UInt8)
  /-- A string of bytes. -/
  | octets (bytes : List UInt8)
  /-- The identifier of an object, as the bytes it is written with. -/
  | identifier (bytes : List UInt8)
  /-- Any other block. -/
  | other (tag : UInt8) (bytes : List UInt8)
deriving Inhabited, Repr

/-- Reads a length. -/
def length : List UInt8 → Option (Nat × List UInt8)
  | [] => none
  | b :: rest =>
    if b < 0x80 then some (b.toNat, rest)
    else
      let count := b.toNat - 0x80
      if count = 0 ∨ 8 < count ∨ rest.length < count then none
      else some (Bytes.ofBigEndian (rest.take count), rest.drop count)

/-- Reads blocks up to the end; there are at most `steps` of them, inner ones
included. -/
def blocks : Nat → List UInt8 → Option (List Block)
  | _, [] => some []
  | 0, _ :: _ => none
  | steps + 1, tag :: rest => do
    let (n, body) ← length rest
    if body.length < n then none
    else
      let content := body.take n
      let block ←
        if tag = 0x30 then (blocks steps content).map Block.sequence
        else if tag = 0x02 then (if content = [] then none else some (.integer content))
        else if tag = 0x03 then
          match content with
          | [] => none
          | _ :: bytes => some (.bits bytes)
        else if tag = 0x04 then some (.octets content)
        else if tag = 0x06 then some (.identifier content)
        else some (.other tag content)
      let more ← blocks steps (body.drop n)
      some (block :: more)

/-- Reads all blocks of a list of bytes. -/
def parse (bytes : List UInt8) : Option (List Block) := blocks bytes.length bytes

mutual

/-- The first string of bits or bytes in a block. -/
def Block.firstString? : Block → Option (List UInt8)
  | .sequence items => firstString? items
  | .bits bytes => some bytes
  | .octets bytes => some bytes
  | _ => none

/-- The first string of bits or bytes in a list of blocks. -/
def firstString? : List Block → Option (List UInt8)
  | [] => none
  | b :: bs => match Block.firstString? b with
    | some bytes => some bytes
    | none => firstString? bs

end

mutual

/-- The identifiers in a block, in order. -/
def Block.identifiers : Block → List (List UInt8)
  | .sequence items => identifiers items
  | .identifier bytes => [bytes]
  | _ => []

/-- The identifiers in a list of blocks, in order. -/
def identifiers : List Block → List (List UInt8)
  | [] => []
  | b :: bs => Block.identifiers b ++ identifiers bs

end

/-- The natural number of a block. -/
def Block.natural? : Block → Option Nat
  | .integer bytes =>
    match bytes with
    | [] => none
    | b :: rest =>
      if 0x80 ≤ b then none
      else if b = 0 ∧ rest ≠ [] ∧ rest.head?.all (· < 0x80) then none
      else some (Bytes.ofBigEndian bytes)
  | _ => none

end Accounts.Crypto.Der
