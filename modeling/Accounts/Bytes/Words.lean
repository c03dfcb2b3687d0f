/-!
# Bytes and words

Numbers are written to bytes with a fixed length, the most or the least
significant byte first, and bytes are read as numbers.
-/

namespace Accounts.Bytes

/-- The number that bytes stand for, the least significant first. -/
def ofLittleEndian : List UInt8 → Nat
  | [] => 0
  | b :: bs => b.toNat + 256 * ofLittleEndian bs

/-- The lowest `count` bytes of a number, the least significant first. -/
def littleEndian : Nat → Nat → List UInt8
  | 0, _ => []
  | count + 1, n => UInt8.ofNat n :: littleEndian count (n / 256)

/-- The number that bytes stand for, the most significant first. -/
def ofBigEndian (bs : List UInt8) : Nat :=
  bs.foldl (fun n b => n * 256 + b.toNat) 0

/-- The lowest `count` bytes of a number, the most significant first. -/
def bigEndian (count n : Nat) : List UInt8 := (littleEndian count n).reverse

/-- Cuts a list into pieces of a positive length, the last one possibly shorter. -/
def chunks {α : Type} (size : Nat) (xs : List α) : List (List α) :=
  go xs.length xs
where
  /-- Cuts with at most `steps` pieces. -/
  go : Nat → List α → List (List α)
    | 0, _ => []
    | _, [] => []
    | steps + 1, ys => ys.take size :: go steps (ys.drop size)

/-- Reads bytes as words of 32 bits, the most significant byte first. -/
def toWords32 (bs : List UInt8) : List UInt32 :=
  (chunks 4 bs).map fun c => UInt32.ofNat (ofBigEndian c)

/-- Reads bytes as words of 64 bits, the most significant byte first. -/
def toWords64 (bs : List UInt8) : List UInt64 :=
  (chunks 8 bs).map fun c => UInt64.ofNat (ofBigEndian c)

/-- The bytes of a text in UTF-8. -/
def ofText (s : String) : List UInt8 := s.toUTF8.toList

/-- The text that bytes spell in UTF-8, if they spell one. -/
def toText? (bs : List UInt8) : Option String := String.fromUTF8? bs.toByteArray

theorem length_littleEndian (count n : Nat) : (littleEndian count n).length = count := by
  induction count generalizing n with
  | zero => rfl
  | succ count ih => simp [littleEndian, ih]

/-- What is undone for each element is undone for a list. -/
theorem mapM_map_of_undone {α β : Type} {write : α → β} {read : β → Option α} {xs : List α}
    (h : ∀ x ∈ xs, read (write x) = some x) : (xs.map write).mapM read = some xs := by
  induction xs with
  | nil => rfl
  | cons x xs ih =>
    rw [List.map_cons, List.mapM_cons, h x List.mem_cons_self,
      ih fun y hy => h y (List.mem_cons_of_mem x hy)]
    rfl

theorem toList_eq_data (bs : ByteArray) : bs.toList = bs.data.toList := by
  have hloop : ∀ i done, ByteArray.toList.loop bs i done =
      done.reverse ++ bs.data.toList.drop i := by
    intro i done
    fun_induction ByteArray.toList.loop bs i done with
    | case1 i done h ih =>
      have hi : i < bs.data.toList.length := h
      have hget : bs.get! i = bs.data.toList[i] := by
        show bs.data[i]! = _
        rw [getElem!_pos bs.data i h, Array.getElem_toList]
      rw [ih, hget, List.reverse_cons, List.append_assoc, List.singleton_append,
        List.drop_eq_getElem_cons hi]
    | case2 i done h => rw [List.drop_of_length_le (Nat.not_lt.1 h), List.append_nil]
  simpa [ByteArray.toList] using hloop 0 []

/-- The bytes of a text spell the text. -/
theorem toText?_ofText (s : String) : toText? (ofText s) = some s := by
  have hbytes : (ofText s).toByteArray = s.toUTF8 := by
    apply ByteArray.ext
    simp [ofText, toList_eq_data]
  have hvalid : s.toUTF8.IsValidUTF8 := s.isValidUTF8
  rw [toText?, hbytes, String.fromUTF8?, dif_pos hvalid]
  rfl

end Accounts.Bytes
