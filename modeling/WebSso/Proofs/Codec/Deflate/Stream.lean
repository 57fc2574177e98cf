import Mathlib.Logic.Basic
import WebSso.Codec.Deflate.Bits

/-!
# Bits taken from a stream

All that is read from a compressed stream is read bit by bit, so that whatever is read amounts to
some bits and leads from one stream to another.  This file says what a run of bits does to a stream;
what follows it only says which bits the parts of the format are written with.

## What is here

* `BitStream.Reads`, that some bits lead from one stream to another, with `BitStream.exists_reads`
  (what a stream starts with can be read) and `BitStream.Reads.unique` (in one way only);
* `BitStream.Tidy`, a stream with less than a byte pending;
* `lowBits`, the bits of a number, lowest first, and `BitStream.number_eq_ok_iff`, that a number is
  read from them and nothing else;
* `except_bind_eq_ok_iff`, by which a reader made of others is taken apart.
-/

set_option autoImplicit false
namespace WebSso
namespace Deflate

/-- A computation that may fail succeeds if its first part does and what follows does too. -/
theorem except_bind_eq_ok_iff {ε α β : Type} {x : Except ε α} {f : α → Except ε β} {b : β} :
    (x >>= f) = .ok b ↔ ∃ a, x = .ok a ∧ f a = .ok b := by
  cases x with
  | error e => exact ⟨nofun, nofun⟩
  | ok a =>
    constructor
    · exact fun h => ⟨a, rfl, h⟩
    · rintro ⟨a', ha, h⟩
      cases ha
      exact h

/-! ## Bits of a number -/

/-- The lowest bits of a number, lowest first. -/
def lowBits (width n : Nat) : List Bool := (List.range width).map fun i => n.testBit i

@[simp] theorem length_lowBits (width n : Nat) : (lowBits width n).length = width := by
  simp [lowBits]

theorem bitsOfByte_eq (b : UInt8) : bitsOfByte b = lowBits 8 b.toNat := rfl

@[simp] theorem length_bitsOfByte (b : UInt8) : (bitsOfByte b).length = 8 := length_lowBits 8 _

@[simp] theorem length_flatMap_bitsOfByte (bytes : Bytes) :
    (bytes.flatMap bitsOfByte).length = 8 * bytes.length := by
  induction bytes with
  | nil => rfl
  | cons b rest ih =>
    rw [List.flatMap_cons, List.length_append, length_bitsOfByte, ih, List.length_cons]
    omega

theorem lowBits_succ (width n : Nat) :
    lowBits (width + 1) n = n.testBit 0 :: lowBits width (n / 2) := by
  simp [lowBits, List.range_succ_eq_map, Function.comp_def, Nat.testBit_succ]

/-- The bits of a number put together from two, the lower one first. -/
theorem lowBits_add (low high m n : Nat) (h : m < 2 ^ low) :
    lowBits (low + high) (m + 2 ^ low * n) = lowBits low m ++ lowBits high n := by
  induction low generalizing m with
  | zero =>
    obtain rfl : m = 0 := by omega
    simp [lowBits]
  | succ low ih =>
    have hhalf : (m + 2 ^ (low + 1) * n) / 2 = m / 2 + 2 ^ low * n := by
      rw [Nat.pow_succ, Nat.mul_comm (2 ^ low) 2, Nat.mul_assoc]
      omega
    have hbit : (m + 2 ^ (low + 1) * n).testBit 0 = m.testBit 0 := by
      rw [Nat.testBit_zero, Nat.testBit_zero, Nat.pow_succ, Nat.mul_comm (2 ^ low) 2, Nat.mul_assoc,
        Nat.add_mul_mod_self_left]
    rw [show low + 1 + high = low + high + 1 by omega, lowBits_succ, lowBits_succ, hhalf, hbit,
      ih _ (by rw [Nat.pow_succ] at h; omega), List.cons_append]

/-- A number is known by its bits, if there are enough of them. -/
theorem eq_of_lowBits_eq {width m n : Nat} (hm : m < 2 ^ width) (hn : n < 2 ^ width)
    (h : lowBits width m = lowBits width n) : m = n := by
  induction width generalizing m n with
  | zero => omega
  | succ width ih =>
    rw [lowBits_succ, lowBits_succ, List.cons.injEq, Nat.testBit_zero, Nat.testBit_zero,
      decide_eq_decide] at h
    have hhalf := ih (by rw [Nat.pow_succ] at hm; omega) (by rw [Nat.pow_succ] at hn; omega) h.2
    omega

namespace BitStream

/-! ## Reading -/

/-- That the bits that come next are the given ones, and what is left behind them. -/
def Reads : BitStream → List Bool → BitStream → Prop
  | s, [], t => s = t
  | s, b :: w, t => ∃ u : BitStream, s.bit = .ok (b, u) ∧ u.Reads w t

variable {s t u : BitStream} {b : Bool} {v w : List Bool}

@[simp] theorem reads_nil : s.Reads [] t ↔ s = t := Iff.rfl

theorem reads_cons : s.Reads (b :: w) t ↔ ∃ u : BitStream, s.bit = .ok (b, u) ∧ u.Reads w t :=
  Iff.rfl

theorem reads_append : s.Reads (v ++ w) t ↔ ∃ u, s.Reads v u ∧ u.Reads w t := by
  induction v generalizing s with
  | nil => simp
  | cons b v ih =>
    simp only [List.cons_append, reads_cons, ih]
    constructor
    · rintro ⟨r, hbit, u, hv, hw⟩
      exact ⟨u, ⟨r, hbit, hv⟩, hw⟩
    · rintro ⟨u, ⟨r, hbit, hv⟩, hw⟩
      exact ⟨r, hbit, u, hv, hw⟩

/-- The next bit is taken from the byte that is being read, or from the one behind it. -/
theorem bit_eq_ok_iff : s.bit = .ok (b, t) ↔
    s.pending = b :: t.pending ∧ s.bytes = t.bytes ∨
      ∃ byte, s.pending = [] ∧ s.bytes = byte :: t.bytes ∧ bitsOfByte byte = b :: t.pending := by
  obtain ⟨pending, bytes⟩ := s
  obtain ⟨pending', bytes'⟩ := t
  cases pending with
  | cons c rest =>
    simp [bit, and_assoc]
  | nil =>
    cases bytes with
    | nil => simp [bit]
    | cons byte rest =>
      have hbits : bitsOfByte byte = byte.toNat.testBit 0 :: lowBits 7 (byte.toNat / 2) :=
        lowBits_succ 7 _
      have hbit : (⟨[], byte :: rest⟩ : BitStream).bit
          = .ok (byte.toNat.testBit 0, ⟨lowBits 7 (byte.toNat / 2), rest⟩) := rfl
      rw [hbit]
      constructor
      · intro h
        cases h
        exact .inr ⟨byte, rfl, rfl, hbits⟩
      · rintro (⟨h, -⟩ | ⟨byte', -, hbytes, hbits'⟩)
        · cases h
        · obtain ⟨rfl, rfl⟩ := List.cons.inj hbytes
          obtain ⟨rfl, rfl⟩ := List.cons.inj (hbits.symm.trans hbits')
          rfl

theorem toList_of_bit (h : s.bit = .ok (b, t)) : s.toList = b :: t.toList := by
  rcases bit_eq_ok_iff.1 h with ⟨hpending, hbytes⟩ | ⟨byte, hpending, hbytes, hbits⟩
  · rw [toList, hpending, hbytes]
    rfl
  · rw [toList, hpending, hbytes, List.flatMap_cons, hbits]
    rfl

theorem exists_bit (h : s.toList = b :: w) : ∃ t, s.bit = .ok (b, t) ∧ t.toList = w := by
  obtain ⟨pending, bytes⟩ := s
  cases pending with
  | cons c rest =>
    obtain ⟨rfl, rfl⟩ := List.cons.inj h
    exact ⟨⟨rest, bytes⟩, rfl, rfl⟩
  | nil =>
    cases bytes with
    | nil => cases h
    | cons byte rest =>
      obtain ⟨rfl, rfl⟩ := List.cons.inj h
      exact ⟨⟨_, rest⟩, rfl, rfl⟩

theorem Reads.toList (h : s.Reads w t) : s.toList = w ++ t.toList := by
  induction w generalizing s with
  | nil => rw [reads_nil.1 h, List.nil_append]
  | cons b w ih =>
    obtain ⟨u, hbit, hrest⟩ := h
    rw [toList_of_bit hbit, ih hrest, List.cons_append]

/-- **What a stream starts with can be read.** -/
theorem exists_reads (h : s.toList = v ++ w) : ∃ t, s.Reads v t ∧ t.toList = w := by
  induction v generalizing s with
  | nil => exact ⟨s, rfl, h⟩
  | cons b v ih =>
    obtain ⟨u, hbit, hu⟩ := exists_bit h
    obtain ⟨t, hreads, ht⟩ := ih hu
    exact ⟨t, ⟨u, hbit, hreads⟩, ht⟩

/-- **As many bits are read in one way only.** -/
theorem Reads.unique (hv : s.Reads v t) (hw : s.Reads w u) (h : v.length = w.length) :
    v = w ∧ t = u := by
  induction v generalizing s w with
  | nil =>
    obtain rfl : w = [] := List.eq_nil_of_length_eq_zero h.symm
    exact ⟨rfl, hv.symm.trans hw⟩
  | cons b v ih =>
    cases w with
    | nil => cases h
    | cons c w =>
      obtain ⟨r, hbit, hv⟩ := hv
      obtain ⟨r', hbit', hw⟩ := hw
      rw [hbit, Except.ok.injEq, Prod.mk.injEq] at hbit'
      obtain ⟨rfl, rfl⟩ := hbit'
      obtain ⟨rfl, rfl⟩ := ih hv hw (by simpa using h)
      exact ⟨rfl, rfl⟩

/-! ## Size -/

theorem length_toList (s : BitStream) : s.toList.length = s.size := by
  rw [BitStream.toList, List.length_append, length_flatMap_bitsOfByte, size]

theorem Reads.size (h : s.Reads w t) : s.size = w.length + t.size := by
  rw [← length_toList, h.toList, List.length_append, length_toList]

/-- Less than a byte is pending. -/
def Tidy (s : BitStream) : Prop := s.pending.length < 8

theorem tidy_ofBytes (bytes : Bytes) : (ofBytes bytes).Tidy := by simp [Tidy, ofBytes]

theorem Tidy.bit (hs : s.Tidy) (h : s.bit = .ok (b, t)) : t.Tidy := by
  rcases bit_eq_ok_iff.1 h with ⟨hpending, -⟩ | ⟨byte, -, -, hbits⟩
  · rw [Tidy, hpending, List.length_cons] at hs
    rw [Tidy]
    omega
  · have hlength := congrArg List.length hbits
    rw [length_bitsOfByte, List.length_cons] at hlength
    rw [Tidy]
    omega

theorem Tidy.reads (hs : s.Tidy) (h : s.Reads w t) : t.Tidy := by
  induction w generalizing s with
  | nil => exact reads_nil.1 h ▸ hs
  | cons b w ih =>
    obtain ⟨u, hbit, hrest⟩ := h
    exact ih (hs.bit hbit) hrest

/-! ## Whole bytes -/

/-- What is pending is read before the bytes behind it. -/
theorem reads_pending (s : BitStream) : s.Reads s.pending (ofBytes s.bytes) := by
  obtain ⟨pending, bytes⟩ := s
  induction pending with
  | nil => rfl
  | cons b rest ih => exact ⟨⟨rest, bytes⟩, rfl, ih⟩

theorem reads_bitsOfByte (byte : UInt8) (bytes : Bytes) :
    (ofBytes (byte :: bytes)).Reads (bitsOfByte byte) (ofBytes bytes) := by
  rw [bitsOfByte_eq, lowBits_succ]
  exact ⟨⟨_, bytes⟩, rfl, reads_pending _⟩

theorem reads_bytes (front back : Bytes) :
    (ofBytes (front ++ back)).Reads (front.flatMap bitsOfByte) (ofBytes back) := by
  induction front with
  | nil => rfl
  | cons byte rest ih =>
    rw [List.flatMap_cons, reads_append]
    exact ⟨ofBytes (rest ++ back), reads_bitsOfByte byte _, ih⟩

/-- **Whole bytes are read as bytes**, from between two bytes. -/
theorem reads_bytes_iff {bytes front : Bytes} :
    (ofBytes bytes).Reads (front.flatMap bitsOfByte) t ↔
      ∃ back, bytes = front ++ back ∧ t = ofBytes back := by
  constructor
  · intro h
    induction front generalizing bytes with
    | nil => exact ⟨bytes, rfl, (reads_nil.1 h).symm⟩
    | cons byte front ih =>
      rw [List.flatMap_cons, reads_append] at h
      obtain ⟨u, hbyte, hrest⟩ := h
      cases bytes with
      | nil =>
        have hsize := hbyte.size
        rw [length_bitsOfByte, BitStream.size, ofBytes, List.length_nil, List.length_nil] at hsize
        omega
      | cons first bytes =>
        obtain ⟨hbits, rfl⟩ := hbyte.unique (reads_bitsOfByte first bytes) (by simp)
        obtain ⟨back, rfl, hback⟩ := ih hrest
        rw [bitsOfByte_eq, bitsOfByte_eq] at hbits
        obtain rfl := UInt8.toNat_inj.1 (eq_of_lowBits_eq byte.toNat_lt first.toNat_lt hbits)
        exact ⟨back, rfl, hback⟩
  · rintro ⟨back, rfl, rfl⟩
    exact reads_bytes front back

/-! ## Numbers -/

/-- **A number is read from its bits and from nothing else.** -/
theorem number_eq_ok_iff {width n : Nat} :
    s.number width = .ok (n, t) ↔ n < 2 ^ width ∧ s.Reads (lowBits width n) t := by
  induction width generalizing s n with
  | zero =>
    have hbits : lowBits 0 n = [] := rfl
    rw [number, hbits, reads_nil, Except.ok.injEq, Prod.mk.injEq, Nat.pow_zero, Nat.lt_one_iff]
    exact and_congr_left fun _ => eq_comm
  | succ width ih =>
    rw [number, except_bind_eq_ok_iff, lowBits_succ, reads_cons, Nat.pow_succ]
    constructor
    · rintro ⟨⟨b, u⟩, hbit, h⟩
      obtain ⟨⟨m, r⟩, hm, h⟩ := except_bind_eq_ok_iff.1 h
      cases h
      obtain ⟨hlt, hreads⟩ := ih.1 hm
      have hb : b.toNat < 2 := b.toNat_lt
      have htest : (b.toNat + 2 * m).testBit 0 = b := by
        rw [Nat.testBit_zero]
        cases b <;> simp
      refine ⟨by omega, u, by rw [htest, hbit], ?_⟩
      rwa [show (b.toNat + 2 * m) / 2 = m by omega]
    · rintro ⟨hlt, u, hbit, hreads⟩
      refine ⟨(n.testBit 0, u), hbit, except_bind_eq_ok_iff.2
        ⟨(n / 2, t), ih.2 ⟨by omega, hreads⟩, ?_⟩⟩
      have hn : (n.testBit 0).toNat + 2 * (n / 2) = n := by
        rw [Nat.toNat_testBit]
        omega
      simp only [hn]
      rfl

end BitStream
end Deflate
end WebSso
