import WebSso.Codec.Deflate.Stored
import WebSso.Proofs.Codec.Deflate.Blocks

/-!
# Stored blocks are the compressed form of their bytes

Deflating writes every byte as it is, in blocks of whole bytes.  Whatever the rules of the reader,
the format has these blocks: the first byte says whether the block is the last and fills up to a
whole byte, and two numbers of two bytes say how long it is.

## What is here

* `flatMap_storedBlock`, the bits of a stored block;
* `writesBlocks_deflate`, blocks up to the last;
* `inflates_deflate`: a deflated stream is the compressed form of what was deflated.
-/

set_option autoImplicit false
namespace WebSso
namespace Deflate

/-- A number of 16 bits, as two bytes. -/
theorem lowBits_of_le {n : Nat} (h : n ≤ allOnes) :
    lowBits 16 n = bitsOfByte (UInt8.ofNat n) ++ bitsOfByte (UInt8.ofNat (n / 256)) := by
  rw [allOnes] at h
  rw [← lowBits_pairValue, pairValue, UInt8.toNat_ofNat', UInt8.toNat_ofNat']
  congr 1
  omega

/-- What fills up the first byte of a stored block. -/
def storedPadding : List Bool := List.replicate 5 false

/-- **The bits of a stored block.** -/
theorem flatMap_storedBlock (last : Bool) {bytes : Bytes} (h : bytes.length ≤ maxStored) :
    (storedBlock last bytes).flatMap bitsOfByte
      = last :: (lowBits 2 0 ++ storedPadding ++ lowBits 16 bytes.length
          ++ lowBits 16 (allOnes - bytes.length) ++ bytes.flatMap bitsOfByte) := by
  have hfirst : bitsOfByte (if last then 1 else 0) = last :: (lowBits 2 0 ++ storedPadding) := by
    cases last <;> decide
  rw [lowBits_of_le (show bytes.length ≤ allOnes from h), lowBits_of_le (Nat.sub_le allOnes _)]
  simp only [storedBlock, List.flatMap_cons, hfirst, List.append_assoc, List.cons_append]
  rfl

theorem writesBlock_stored (rules : Rules) {offset : Nat} (past : Bytes) {bytes : Bytes}
    (hoffset : 8 ∣ offset) (h : bytes.length ≤ maxStored) :
    WritesBlock rules (offset + 1) past (past ++ bytes)
      (lowBits 2 0 ++ storedPadding ++ lowBits 16 bytes.length
        ++ lowBits 16 (allOnes - bytes.length) ++ bytes.flatMap bitsOfByte) :=
  .stored (by decide) (by rw [storedPadding, List.length_replicate]; omega) h

/-- **Deflated bytes are blocks of the format**, from between two bytes on. -/
theorem writesBlocks_deflate (rules : Rules) (bytes : Bytes) :
    ∀ {offset : Nat} (past : Bytes), 8 ∣ offset →
      WritesBlocks rules offset past (past ++ bytes) ((deflate bytes).flatMap bitsOfByte) := by
  induction bytes using deflate.induct with
  | case1 bytes h =>
    intro offset past hoffset
    rw [deflate, if_pos h, flatMap_storedBlock true h]
    exact .last (writesBlock_stored rules past hoffset h)
  | case2 bytes h ih =>
    intro offset past hoffset
    have hfront : (bytes.take maxStored).length ≤ maxStored := List.length_take_le _ _
    have hdata : past ++ bytes = past ++ bytes.take maxStored ++ bytes.drop maxStored := by
      rw [List.append_assoc, List.take_append_drop]
    have hblock := writesBlock_stored rules past hoffset hfront
    have hwhole := congrArg List.length (flatMap_storedBlock false hfront)
    rw [length_flatMap_bitsOfByte, List.length_cons] at hwhole
    rw [deflate, if_neg h, List.flatMap_append, flatMap_storedBlock false hfront, hdata]
    exact .more hblock (ih _ (by omega))

/-- **A deflated stream is the compressed form of what was deflated**, to every reader. -/
theorem inflates_deflate (rules : Rules) (bytes : Bytes) : rules.Inflates (deflate bytes) bytes :=
  ⟨_, writesBlocks_deflate rules bytes [] (Nat.dvd_zero 8), List.prefix_rfl⟩

end Deflate
end WebSso
