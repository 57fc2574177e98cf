import WebSso.Binding
import WebSso.Response

/-!
# Which text is base64

Reading base64 text accepts one form of some bytes and no other.  The form is told here without
regard to how it is written or read: each character of the alphabet stands for six bits, and the
bits of the text are those of the bytes, with zeros behind them up to the end of a character.

## What is here

* `Base64.bits`, the bits of a number, with `Base64.bits_add` and `Base64.bits_congr`, by which bits
  are cut into groups of another width;
* `Base64.IsFormOf`, the padded standard form of some bytes;
* `Base64.decode?_eq_some_iff`: what is read is what is written;
* `Base64.isFormOf_iff`: what is written has the standard form, and nothing else has;
* `Base64.decodeText?_eq_some_iff`: both together, for text with layout in it and for messages.
-/

set_option autoImplicit false
namespace WebSso
namespace Base64

/-! ## Bits -/

/-- The last bits of a number, the highest first. -/
def bits : Nat → Nat → List Bool
  | 0, _ => []
  | width + 1, n => n.testBit width :: bits width n

theorem length_bits (width n : Nat) : (bits width n).length = width := by
  induction width with
  | zero => rfl
  | succ width ih => rw [bits, List.length_cons, ih]

/-- Bits are cut in two by a division. -/
theorem bits_add (high low n : Nat) :
    bits (high + low) n = bits high (n / 2 ^ low) ++ bits low n := by
  induction high with
  | zero => rw [Nat.zero_add, bits, List.nil_append]
  | succ high ih =>
    rw [Nat.succ_add, bits, bits, ih, Nat.testBit_div_two_pow, List.cons_append]

/-- Higher bits play no part. -/
theorem bits_congr {width m n : Nat} (h : m % 2 ^ width = n % 2 ^ width) :
    bits width m = bits width n := by
  induction width with
  | zero => rfl
  | succ width ih =>
    have hlow : m % 2 ^ width = n % 2 ^ width := by
      have hpow : 2 ^ width ∣ 2 ^ (width + 1) := Nat.pow_dvd_pow 2 (Nat.le_succ width)
      rw [← Nat.mod_mod_of_dvd m hpow, h, Nat.mod_mod_of_dvd n hpow]
    have htop : m.testBit width = n.testBit width := by
      have hbit := congrArg (Nat.testBit · width) h
      simpa [Nat.testBit_mod_two_pow] using hbit
    rw [bits, bits, ih hlow, htop]

/-- Bits tell the number, as far as they go. -/
theorem mod_eq_of_bits_eq {width m n : Nat} (h : bits width m = bits width n) :
    m % 2 ^ width = n % 2 ^ width := by
  induction width with
  | zero => rw [Nat.pow_zero, Nat.mod_one, Nat.mod_one]
  | succ width ih =>
    rw [bits, bits, List.cons.injEq] at h
    have htop : m / 2 ^ width % 2 = n / 2 ^ width % 2 := by
      have hbit := h.1
      rw [Nat.testBit_eq_decide_div_mod_eq, Nat.testBit_eq_decide_div_mod_eq, decide_eq_decide]
        at hbit
      omega
    rw [Nat.mod_pow_succ, Nat.mod_pow_succ, ih h.2, htop]

theorem bits_zero (width : Nat) : bits width 0 = List.replicate width false := by
  induction width with
  | zero => rfl
  | succ width ih => rw [bits, Nat.zero_testBit, ih, List.replicate_succ]

/-- Bits are put together as the numbers are. -/
theorem bits_append_bits {i j m k n : Nat} (hm : n / 2 ^ j = m)
    (hk : k % 2 ^ j = n % 2 ^ j) : bits i m ++ bits j k = bits (i + j) n := by
  rw [bits_add, hm, bits_congr hk]

theorem bits_append_zeros (width low n : Nat) :
    bits width n ++ List.replicate low false = bits (width + low) (n * 2 ^ low) := by
  rw [← bits_zero]
  refine bits_append_bits (Nat.mul_div_cancel _ (Nat.two_pow_pos low)) ?_
  rw [Nat.mul_mod_left, Nat.zero_mod]

/-! ## The standard form -/

/-- The characters of the numbers below 64, in their order. -/
def alphabet : List Char :=
  "ABCDEFGHIJKLMNOPQRSTUVWXYZabcdefghijklmnopqrstuvwxyz0123456789+/".toList

/-- The bits that a character stands for. -/
def charBits (c : Char) : List Bool := bits 6 (alphabet.idxOf c)

/-- The bits of a byte. -/
def byteBits (b : UInt8) : List Bool := bits 8 b.toNat

/-- **The padded standard form of some bytes**: characters of the alphabet, then at most two of the
padding, together in groups of four.  The characters stand for the bits of the bytes and for two
zeros more for each that is padded. -/
def IsFormOf (text : List Char) (bytes : Bytes) : Prop :=
  ∃ (body : List Char) (fill : Nat), text = body ++ List.replicate fill padding ∧
    (∀ c ∈ body, c ∈ alphabet) ∧ fill ≤ 2 ∧ 4 ∣ text.length ∧
    body.flatMap charBits = bytes.flatMap byteBits ++ List.replicate (2 * fill) false

/-! ### Digits -/

/-- The alphabet holds the digits, in their order. -/
theorem alphabet_eq_map_digit : alphabet = (List.range 64).map digit := String.toList_ofList

theorem length_alphabet : alphabet.length = 64 := by
  rw [alphabet_eq_map_digit, List.length_map, List.length_range]

theorem forall_mem_alphabet {P : Char → Prop} :
    (∀ c ∈ alphabet, P c) ↔ ∀ n < 64, P (digit n) := by
  simp [alphabet_eq_map_digit]

variable {n : Nat}

theorem digit_mem (h : n < 64) : digit n ∈ alphabet := by
  rw [alphabet_eq_map_digit]
  exact List.mem_map_of_mem (List.mem_range.2 h)

/-- Each digit is read back. -/
theorem value?_digit (h : n < 64) : value? (digit n) = some n := by
  revert n
  decide

theorem nodup_alphabet : alphabet.Nodup := by
  rw [alphabet_eq_map_digit, List.Nodup, List.pairwise_map]
  refine List.nodup_range.imp_of_mem fun hm hk hne heq => hne ?_
  have hvalue := value?_digit (List.mem_range.1 hm)
  rw [heq, value?_digit (List.mem_range.1 hk)] at hvalue
  exact (Option.some.inj hvalue).symm

/-- Each digit stands in the alphabet at its number. -/
theorem charBits_digit (h : n < 64) : charBits (digit n) = bits 6 n := by
  have hlt : n < alphabet.length := length_alphabet.symm ▸ h
  have hget : alphabet[n] = digit n := by simp [alphabet_eq_map_digit]
  rw [charBits, ← hget, nodup_alphabet.idxOf_getElem n hlt]

theorem digit_ne_padding (h : n < 64) : digit n ≠ padding := by
  intro heq
  have hvalue := value?_digit h
  rw [heq, show value? padding = none by decide] at hvalue
  cases hvalue

/-- Only digits have a value. -/
theorem eq_digit_of_value? {c : Char} (h : value? c = some n) : n < 64 ∧ c = digit n := by
  have hc : c = Char.ofNat c.toNat := (Char.ofNat_toNat c).symm
  simp only [value?] at h
  split at h
  · cases h
    refine ⟨by omega, ?_⟩
    rw [digit, if_pos (by omega)]
    exact hc.trans (congrArg Char.ofNat (by omega))
  split at h
  · cases h
    refine ⟨by omega, ?_⟩
    rw [digit, if_neg (by omega), if_pos (by omega)]
    exact hc.trans (congrArg Char.ofNat (by omega))
  split at h
  · cases h
    refine ⟨by omega, ?_⟩
    rw [digit, if_neg (by omega), if_neg (by omega), if_pos (by omega)]
    exact hc.trans (congrArg Char.ofNat (by omega))
  split at h
  · rename_i hplus
    cases h
    exact ⟨by omega, hc.trans (congrArg Char.ofNat hplus)⟩
  split at h
  · rename_i hslash
    cases h
    exact ⟨by omega, hc.trans (congrArg Char.ofNat hslash)⟩
  · cases h

/-! ## What is read is what is written -/

/-- What is written already stays in front. -/
theorem encodeOnto_eq : ∀ (bytes : Bytes) (written : List Char),
    encodeOnto written bytes = written.reverse ++ encodeOnto [] bytes
  | [], written => by simp [encodeOnto]
  | [a], written => by simp [encodeOnto]
  | [a, b], written => by simp [encodeOnto]
  | a :: b :: c :: rest, written => by
    rw [encodeOnto, encodeOnto_eq rest, encodeOnto, encodeOnto_eq rest [_, _, _, _]]
    simp

theorem encodeOnto_group (a b c : UInt8) (rest : Bytes) :
    encodeOnto [] (a :: b :: c :: rest)
      = digit (((a.toNat * 256 + b.toNat) * 256 + c.toNat) / 262144)
        :: digit (((a.toNat * 256 + b.toNat) * 256 + c.toNat) / 4096 % 64)
        :: digit (((a.toNat * 256 + b.toNat) * 256 + c.toNat) / 64 % 64)
        :: digit (((a.toNat * 256 + b.toNat) * 256 + c.toNat) % 64) :: encodeOnto [] rest := by
  rw [encodeOnto, encodeOnto_eq]
  rfl

/-! ### Groups of digits -/

section Groups

variable {x y z w : Nat} (hx : x < 64) (hy : y < 64) (hz : z < 64) (hw : w < 64) (read : Bytes)
include hx hy

/-- Two characters and two of the padding are read as one byte, -/
theorem decodeOnto_one (hzero : y % 16 = 0) :
    decodeOnto read [digit x, digit y, padding, padding]
      = some (read.reverse ++ [UInt8.ofNat (x * 4 + y / 16)]) := by
  simp [decodeOnto, value?_digit hx, value?_digit hy, hzero]

/-- which is written as them. -/
theorem encodeOnto_one (hzero : y % 16 = 0) :
    encodeOnto [] [UInt8.ofNat (x * 4 + y / 16)] = [digit x, digit y, padding, padding] := by
  have hbyte : (UInt8.ofNat (x * 4 + y / 16)).toNat = x * 4 + y / 16 := by
    rw [UInt8.toNat_ofNat']
    omega
  have hfirst : (x * 4 + y / 16) / 4 = x := by omega
  have hsecond : (x * 4 + y / 16) % 4 * 16 = y := by omega
  simp only [encodeOnto, hbyte, hfirst, hsecond]
  rfl

include hz

/-- Three characters and one of the padding are read as two bytes, -/
theorem decodeOnto_two (hzero : z % 4 = 0) :
    decodeOnto read [digit x, digit y, digit z, padding]
      = some (read.reverse ++ [UInt8.ofNat (((x * 64 + y) * 16 + z / 4) / 256),
          UInt8.ofNat ((x * 64 + y) * 16 + z / 4)]) := by
  simp [decodeOnto, value?_digit hx, value?_digit hy, value?_digit hz, digit_ne_padding hz, hzero]

/-- which are written as them. -/
theorem encodeOnto_two (hzero : z % 4 = 0) :
    encodeOnto [] [UInt8.ofNat (((x * 64 + y) * 16 + z / 4) / 256),
        UInt8.ofNat ((x * 64 + y) * 16 + z / 4)]
      = [digit x, digit y, digit z, padding] := by
  have hbytes : (UInt8.ofNat (((x * 64 + y) * 16 + z / 4) / 256)).toNat * 256
      + (UInt8.ofNat ((x * 64 + y) * 16 + z / 4)).toNat = (x * 64 + y) * 16 + z / 4 := by
    rw [UInt8.toNat_ofNat', UInt8.toNat_ofNat']
    omega
  have hfirst : ((x * 64 + y) * 16 + z / 4) / 1024 = x := by omega
  have hsecond : ((x * 64 + y) * 16 + z / 4) / 16 % 64 = y := by omega
  have hthird : ((x * 64 + y) * 16 + z / 4) % 16 * 4 = z := by omega
  simp only [encodeOnto, hbytes, hfirst, hsecond, hthird]
  rfl

include hw

/-- Four characters are read as three bytes, -/
theorem decodeOnto_group (rest : List Char) :
    decodeOnto read (digit x :: digit y :: digit z :: digit w :: rest)
      = decodeOnto (UInt8.ofNat (((x * 64 + y) * 64 + z) * 64 + w)
          :: UInt8.ofNat ((((x * 64 + y) * 64 + z) * 64 + w) / 256)
          :: UInt8.ofNat ((((x * 64 + y) * 64 + z) * 64 + w) / 65536) :: read) rest := by
  rw [decodeOnto, if_neg (digit_ne_padding hw), value?_digit hx, value?_digit hy, value?_digit hz,
    value?_digit hw]
  rfl

/-- which are written as them. -/
theorem encodeOnto_group_ofNat (rest : Bytes) :
    encodeOnto [] (UInt8.ofNat ((((x * 64 + y) * 64 + z) * 64 + w) / 65536)
        :: UInt8.ofNat ((((x * 64 + y) * 64 + z) * 64 + w) / 256)
        :: UInt8.ofNat (((x * 64 + y) * 64 + z) * 64 + w) :: rest)
      = digit x :: digit y :: digit z :: digit w :: encodeOnto [] rest := by
  have hbytes : ((UInt8.ofNat ((((x * 64 + y) * 64 + z) * 64 + w) / 65536)).toNat * 256
      + (UInt8.ofNat ((((x * 64 + y) * 64 + z) * 64 + w) / 256)).toNat) * 256
      + (UInt8.ofNat (((x * 64 + y) * 64 + z) * 64 + w)).toNat
        = ((x * 64 + y) * 64 + z) * 64 + w := by
    rw [UInt8.toNat_ofNat', UInt8.toNat_ofNat', UInt8.toNat_ofNat']
    omega
  have hfirst : (((x * 64 + y) * 64 + z) * 64 + w) / 262144 = x := by omega
  have hsecond : (((x * 64 + y) * 64 + z) * 64 + w) / 4096 % 64 = y := by omega
  have hthird : (((x * 64 + y) * 64 + z) * 64 + w) / 64 % 64 = z := by omega
  have hfourth : (((x * 64 + y) * 64 + z) * 64 + w) % 64 = w := by omega
  rw [encodeOnto_group, hbytes, hfirst, hsecond, hthird, hfourth]

end Groups

theorem ofNat_eq {b : UInt8} {k : Nat} (h : k % 256 = b.toNat) : UInt8.ofNat k = b := by
  rw [← UInt8.toNat_inj, UInt8.toNat_ofNat']
  exact h

/-- **What is written is read.** -/
theorem decodeOnto_encodeOnto : ∀ bytes read : Bytes,
    decodeOnto read (encodeOnto [] bytes) = some (read.reverse ++ bytes)
  | [], read => by rw [encodeOnto, List.append_nil]; rfl
  | [a], read => by
    have ha := a.toNat_lt
    rw [show encodeOnto [] [a] = [digit (a.toNat / 4), digit (a.toNat % 4 * 16), padding, padding]
      from rfl, decodeOnto_one (by omega) (by omega) read (by omega), ofNat_eq (b := a) (by omega)]
  | [a, b], read => by
    have ha := a.toNat_lt
    have hb := b.toNat_lt
    rw [show encodeOnto [] [a, b] = [digit ((a.toNat * 256 + b.toNat) / 1024),
        digit ((a.toNat * 256 + b.toNat) / 16 % 64), digit ((a.toNat * 256 + b.toNat) % 16 * 4),
        padding] from rfl,
      decodeOnto_two (by omega) (by omega) (by omega) read (by omega), ofNat_eq (b := a) (by omega),
      ofNat_eq (b := b) (by omega)]
  | a :: b :: c :: rest, read => by
    have ha := a.toNat_lt
    have hb := b.toNat_lt
    have hc := c.toNat_lt
    have hjoin : ∀ n : Nat,
        ((n / 262144 * 64 + n / 4096 % 64) * 64 + n / 64 % 64) * 64 + n % 64 = n := by omega
    rw [encodeOnto_group, decodeOnto_group (by omega) (by omega) (by omega) (by omega) read, hjoin,
      ofNat_eq (b := c) (by omega), ofNat_eq (b := b) (by omega), ofNat_eq (b := a) (by omega),
      decodeOnto_encodeOnto rest]
    simp

/-- **What is read was written.** -/
theorem exists_of_decodeOnto : ∀ (text : List Char) (read : Bytes) {bytes : Bytes},
    decodeOnto read text = some bytes →
      ∃ new, bytes = read.reverse ++ new ∧ text = encodeOnto [] new
  | [], read, bytes, h => by
    cases h
    exact ⟨[], by rw [List.append_nil], rfl⟩
  | [_], _, _, h => by cases h
  | [_, _], _, _, h => by cases h
  | [_, _, _], _, _, h => by cases h
  | a :: b :: c :: d :: rest, read, bytes, h => by
    rw [decodeOnto] at h
    by_cases hd : d = padding
    · rw [if_pos hd] at h
      subst hd
      by_cases hrest : rest = []
      · rw [if_neg (not_not_intro hrest)] at h
        subst hrest
        by_cases hc : c = padding
        · rw [if_pos hc] at h
          subst hc
          simp only [Option.bind_eq_bind, Option.bind_eq_some_iff, Option.ite_none_right_eq_some]
            at h
          obtain ⟨x, hx, y, hy, hzero, h⟩ := h
          obtain ⟨hxlt, rfl⟩ := eq_digit_of_value? hx
          obtain ⟨hylt, rfl⟩ := eq_digit_of_value? hy
          cases h
          exact ⟨_, List.reverse_cons, (encodeOnto_one hxlt hylt hzero).symm⟩
        · rw [if_neg hc] at h
          simp only [Option.bind_eq_bind, Option.bind_eq_some_iff, Option.ite_none_right_eq_some]
            at h
          obtain ⟨x, hx, y, hy, z, hz, hzero, h⟩ := h
          obtain ⟨hxlt, rfl⟩ := eq_digit_of_value? hx
          obtain ⟨hylt, rfl⟩ := eq_digit_of_value? hy
          obtain ⟨hzlt, rfl⟩ := eq_digit_of_value? hz
          cases h
          refine ⟨_, ?_, (encodeOnto_two hxlt hylt hzlt hzero).symm⟩
          rw [List.reverse_cons, List.reverse_cons, List.append_assoc, List.singleton_append]
      · rw [if_pos hrest] at h
        cases h
    · rw [if_neg hd] at h
      simp only [Option.bind_eq_bind, Option.bind_eq_some_iff] at h
      obtain ⟨x, hx, y, hy, z, hz, w, hw, h⟩ := h
      obtain ⟨hxlt, rfl⟩ := eq_digit_of_value? hx
      obtain ⟨hylt, rfl⟩ := eq_digit_of_value? hy
      obtain ⟨hzlt, rfl⟩ := eq_digit_of_value? hz
      obtain ⟨hwlt, rfl⟩ := eq_digit_of_value? hw
      obtain ⟨new, rfl, rfl⟩ := exists_of_decodeOnto rest _ h
      refine ⟨_, ?_, (encodeOnto_group_ofNat hxlt hylt hzlt hwlt new).symm⟩
      simp only [List.reverse_cons, List.append_assoc, List.cons_append, List.nil_append]

/-- **Reading accepts what is written, and nothing else.** -/
theorem decode?_eq_some_iff {text : List Char} {bytes : Bytes} :
    decode? text = some bytes ↔ text = (encode bytes).toList := by
  rw [decode?, encode, String.toList_ofList]
  constructor
  · intro h
    obtain ⟨new, hnew, rfl⟩ := exists_of_decodeOnto text [] h
    rw [hnew]
    rfl
  · rintro rfl
    exact decodeOnto_encodeOnto bytes []

/-! ## What is written has the standard form -/

theorem isFormOf_nil : IsFormOf [] [] :=
  ⟨[], 0, rfl, fun _ h => absurd h List.not_mem_nil, by decide, ⟨0, rfl⟩, rfl⟩

theorem isFormOf_one (a : UInt8) : IsFormOf (encodeOnto [] [a]) [a] := by
  have ha := a.toNat_lt
  refine ⟨[digit (a.toNat / 4), digit (a.toNat % 4 * 16)], 2, rfl, ?_, by decide, ⟨1, rfl⟩, ?_⟩
  · simp only [List.forall_mem_cons]
    exact ⟨digit_mem (by omega), digit_mem (by omega), nofun⟩
  · simp only [List.flatMap_cons, List.flatMap_nil, List.append_nil]
    rw [charBits_digit (by omega), charBits_digit (by omega), byteBits, bits_append_zeros,
      bits_append_bits (n := a.toNat * 2 ^ 4) (by omega) (by omega)]

theorem isFormOf_two (a b : UInt8) : IsFormOf (encodeOnto [] [a, b]) [a, b] := by
  have ha := a.toNat_lt
  have hb := b.toNat_lt
  refine ⟨[digit ((a.toNat * 256 + b.toNat) / 1024), digit ((a.toNat * 256 + b.toNat) / 16 % 64),
    digit ((a.toNat * 256 + b.toNat) % 16 * 4)], 1, rfl, ?_, by decide, ⟨1, rfl⟩, ?_⟩
  · simp only [List.forall_mem_cons]
    exact ⟨digit_mem (by omega), digit_mem (by omega), digit_mem (by omega), nofun⟩
  · simp only [List.flatMap_cons, List.flatMap_nil, List.append_nil]
    rw [charBits_digit (by omega), charBits_digit (by omega), charBits_digit (by omega), byteBits,
      byteBits, ← List.append_assoc,
      bits_append_bits (i := 6) (n := (a.toNat * 256 + b.toNat) / 16) (by omega) (by omega),
      bits_append_bits (i := 12) (n := (a.toNat * 256 + b.toNat) * 2 ^ 2) (by omega) (by omega),
      bits_append_bits (i := 8) (n := a.toNat * 256 + b.toNat) (by omega) (by omega),
      bits_append_zeros]

theorem IsFormOf.group {text : List Char} {bytes : Bytes} (h : IsFormOf text bytes)
    (a b c : UInt8) (n : Nat) (hn : n = (a.toNat * 256 + b.toNat) * 256 + c.toNat) :
    IsFormOf (digit (n / 262144) :: digit (n / 4096 % 64) :: digit (n / 64 % 64) :: digit (n % 64)
      :: text) (a :: b :: c :: bytes) := by
  have ha := a.toNat_lt
  have hb := b.toNat_lt
  have hc := c.toNat_lt
  obtain ⟨body, fill, rfl, hbody, hfill, hfour, hbits⟩ := h
  refine ⟨digit (n / 262144) :: digit (n / 4096 % 64) :: digit (n / 64 % 64) :: digit (n % 64)
    :: body, fill, rfl, ?_, hfill, ?_, ?_⟩
  · simp only [List.forall_mem_cons]
    exact ⟨digit_mem (by omega), digit_mem (by omega), digit_mem (by omega), digit_mem (by omega),
      hbody⟩
  · simp only [List.length_cons]
    omega
  · simp only [List.flatMap_cons]
    rw [hbits, charBits_digit (by omega), charBits_digit (by omega), charBits_digit (by omega),
      charBits_digit (by omega), byteBits, byteBits, byteBits]
    have hsextets : bits 6 (n / 262144) ++ bits 6 (n / 4096 % 64) ++ bits 6 (n / 64 % 64)
        ++ bits 6 (n % 64) = bits 24 n := by
      rw [bits_append_bits (n := n / 4096) (by omega) (by omega),
        bits_append_bits (n := n / 64) (by omega) (by omega),
        bits_append_bits (n := n) (by omega) (by omega)]
    have hoctets : bits 8 a.toNat ++ bits 8 b.toNat ++ bits 8 c.toNat = bits 24 n := by
      rw [bits_append_bits (n := a.toNat * 256 + b.toNat) (by omega) (by omega),
        bits_append_bits (n := n) (by omega) (by omega)]
    simp only [← List.append_assoc]
    rw [hsextets, hoctets]

theorem isFormOf_encodeOnto : ∀ bytes : Bytes, IsFormOf (encodeOnto [] bytes) bytes
  | [] => isFormOf_nil
  | [a] => isFormOf_one a
  | [a, b] => isFormOf_two a b
  | a :: b :: c :: rest => by
    rw [encodeOnto_group]
    exact (isFormOf_encodeOnto rest).group a b c _ rfl

/-! ## Nothing else has it -/

theorem length_flatMap_bits {α : Type} {width : Nat} {spell : α → List Bool}
    (h : ∀ a, (spell a).length = width) (l : List α) :
    (l.flatMap spell).length = width * l.length := by
  induction l with
  | nil => rfl
  | cons a rest ih =>
    rw [List.flatMap_cons, List.length_append, h, ih, List.length_cons, Nat.mul_succ, Nat.add_comm]

theorem charBits_injective {c d : Char} (hc : c ∈ alphabet) (hd : d ∈ alphabet)
    (h : charBits c = charBits d) : c = d := by
  have hclt := List.idxOf_lt_length_iff.2 hc
  have hdlt := List.idxOf_lt_length_iff.2 hd
  have hplace : alphabet.idxOf c = alphabet.idxOf d := by
    have hmod := mod_eq_of_bits_eq h
    rw [length_alphabet] at hclt hdlt
    omega
  calc c = alphabet[alphabet.idxOf c] := (List.getElem_idxOf hclt).symm
    _ = alphabet[alphabet.idxOf d] := by simp only [hplace]
    _ = d := List.getElem_idxOf hdlt

/-- Characters of the alphabet are known by their bits. -/
theorem eq_of_flatMap_charBits : ∀ {text other : List Char}, (∀ c ∈ text, c ∈ alphabet) →
    (∀ c ∈ other, c ∈ alphabet) → text.flatMap charBits = other.flatMap charBits → text = other
  | [], [], _, _, _ => rfl
  | [], d :: other, _, _, h => by
    have hlength := congrArg List.length h
    simp [charBits, bits] at hlength
  | c :: text, [], _, _, h => by
    have hlength := congrArg List.length h
    simp [charBits, bits] at hlength
  | c :: text, d :: other, htext, hother, h => by
    rw [List.flatMap_cons, List.flatMap_cons] at h
    obtain ⟨hfirst, hrest⟩ :=
      List.append_inj h (by rw [charBits, charBits, length_bits, length_bits])
    rw [List.forall_mem_cons] at htext hother
    rw [charBits_injective htext.1 hother.1 hfirst,
      eq_of_flatMap_charBits htext.2 hother.2 hrest]

/-- **There is one text of the standard form** for some bytes: their number tells how much is
padded, and the rest is told by its bits. -/
theorem IsFormOf.unique {text other : List Char} {bytes : Bytes} (h : IsFormOf text bytes)
    (h' : IsFormOf other bytes) : text = other := by
  obtain ⟨body, fill, rfl, hbody, hfill, -, hbits⟩ := h
  obtain ⟨body', fill', rfl, hbody', hfill', -, hbits'⟩ := h'
  have hwidth : ∀ c, (charBits c).length = 6 := fun c => length_bits 6 _
  have hlength := congrArg List.length hbits
  have hlength' := congrArg List.length hbits'
  rw [List.length_append, List.length_replicate, length_flatMap_bits hwidth] at hlength hlength'
  obtain rfl : fill = fill' := by omega
  rw [eq_of_flatMap_charBits hbody hbody' (hbits.trans hbits'.symm)]

/-- **Writing is the standard form.** -/
theorem isFormOf_iff {text : List Char} {bytes : Bytes} :
    IsFormOf text bytes ↔ text = (encode bytes).toList := by
  rw [encode, String.toList_ofList]
  constructor
  · exact fun h => h.unique (isFormOf_encodeOnto bytes)
  · rintro rfl
    exact isFormOf_encodeOnto bytes

/-! ## Text with layout, and messages -/

/-- The characters of a text that are not layout. -/
def withoutLayout (text : String) : List Char := text.toList.filter fun c => !isLayout c

/-- What holds of the alphabet and of the padding holds of all that is written. -/
theorem forall_mem_encode {P : Char → Prop} (halphabet : ∀ c ∈ alphabet, P c)
    (hpadding : P padding) (bytes : Bytes) : ∀ c ∈ (encode bytes).toList, P c := by
  obtain ⟨body, fill, htext, hbody, -⟩ := isFormOf_iff.2 (Eq.refl (encode bytes).toList)
  rw [htext]
  intro c hc
  rcases List.mem_append.1 hc with hc | hc
  · exact halphabet c (hbody c hc)
  · rwa [List.eq_of_mem_replicate hc]

/-- There is no layout in what is written. -/
theorem withoutLayout_encode (bytes : Bytes) :
    withoutLayout (encode bytes) = (encode bytes).toList := by
  rw [withoutLayout, List.filter_eq_self]
  exact forall_mem_encode (forall_mem_alphabet.2 (by decide)) (by decide) bytes

/-- What is written is read. -/
theorem decodeText?_encode (bytes : Bytes) : decodeText? (encode bytes) = some bytes :=
  decode?_eq_some_iff.2 (withoutLayout_encode bytes)

theorem decodePosted_eq_ok_iff {text : String} {bytes : Bytes} :
    decodePosted text = .ok bytes ↔ decodeText? text = some bytes := by
  rw [decodePosted]
  cases decodeText? text with
  | none => exact ⟨nofun, nofun⟩
  | some read => rw [Except.ok.injEq, Option.some.injEq]

theorem decodeResponse_eq_ok_iff {text : String} {bytes : Bytes} :
    decodeResponse text = .ok bytes ↔ decodeText? text = some bytes := by
  rw [decodeResponse]
  cases decodeText? text with
  | none => exact ⟨nofun, nofun⟩
  | some read => rw [Except.ok.injEq, Option.some.injEq]

/-- **Reading accepts exactly the standard form.**  Without its layout, a text that is read as some
bytes is their padded standard form, which is what is written for them; and every such text is read
so, wherever layout stands in it.  Requests and responses that are posted are read in this way, so
that the response of a provider is read as its text. -/
theorem decodeText?_eq_some_iff (text : String) (bytes : Bytes) :
    (decodeText? text = some bytes ↔ withoutLayout text = (encode bytes).toList) ∧
    (decodeText? text = some bytes ↔ IsFormOf (withoutLayout text) bytes) ∧
    (decodePosted text = .ok bytes ↔ decodeText? text = some bytes) ∧
    (decodeResponse text = .ok bytes ↔ decodeText? text = some bytes) ∧
    ∀ response : FinishedResponse,
      decodeResponse response.encodePost = .ok (Bytes.ofString response.xml) := by
  have hread : ∀ {text : String} {bytes : Bytes},
      decodeText? text = some bytes ↔ withoutLayout text = (encode bytes).toList :=
    decode?_eq_some_iff
  refine ⟨hread, hread.trans isFormOf_iff.symm, decodePosted_eq_ok_iff, decodeResponse_eq_ok_iff,
    fun response => ?_⟩
  rw [decodeResponse_eq_ok_iff, hread, FinishedResponse.encodePost]
  exact withoutLayout_encode _

example : decodeText? "aGVs\nbG8=\r\n" = some (Bytes.ofString "hello") := by decide +kernel

/-- A bit behind the last byte is set. -/
example : decodeText? "aGVsbG9=" = none := by decide +kernel

end Base64
end WebSso
