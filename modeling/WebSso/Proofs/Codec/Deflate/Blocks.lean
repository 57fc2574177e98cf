import WebSso.Proofs.Codec.Deflate.Codes

/-!
# Blocks are read as they are written

A stream is a run of blocks up to the one that says it is the last, and each is read as the format
writes it: a stored block from between two bytes on, which needs that less than a byte is pending
and that the place in the stream is known, or tokens under the fixed codes or under codes that were
sent.  Nothing else is read, so that without a capacity reading a stream comes to its data if and
only if the stream begins with the compressed form of that data.

## What is here

* `inflateStoredBlock_eq_ok_iff`, a stored block;
* `inflateBlock_eq_ok_iff`, a block of any kind;
* `inflateBlocks_eq_ok_iff`, blocks up to the last;
* `run_eq_ok_iff_inflates`: the data of a stream is what it is the compressed form of;
* `Rules.Inflates.mono`, by which a reader that takes more takes what others take.
-/

set_option autoImplicit false
namespace WebSso
namespace Deflate

variable {s t : BitStream} {out data : Array UInt8}

/-! ## Stored blocks -/

theorem lowBits_pairValue (low high : UInt8) :
    lowBits 16 (pairValue low high) = bitsOfByte low ++ bitsOfByte high := by
  rw [pairValue, bitsOfByte_eq, bitsOfByte_eq]
  exact lowBits_add 8 8 low.toNat high.toNat low.toNat_lt

theorem pairValue_le (low high : UInt8) : pairValue low high ≤ allOnes := by
  have := low.toNat_lt
  have := high.toNat_lt
  rw [pairValue, allOnes]
  omega

/-- Every number of 16 bits is that of two bytes. -/
theorem exists_pairValue {n : Nat} (h : n ≤ allOnes) : ∃ low high, pairValue low high = n := by
  rw [allOnes] at h
  refine ⟨UInt8.ofNat (n % 256), UInt8.ofNat (n / 256), ?_⟩
  rw [pairValue, UInt8.toNat_ofNat', UInt8.toNat_ofNat']
  omega

theorem inflateStored_eq_ok_iff {count : Nat} {bytes : Bytes} :
    inflateStored none count bytes out = .ok (t, data) ↔
      ∃ front back, bytes = front ++ back ∧ front.length = count ∧ t = .ofBytes back ∧
        data.toList = out.toList ++ front := by
  induction count generalizing bytes out with
  | zero =>
    rw [inflateStored, Except.ok.injEq, Prod.mk.injEq]
    constructor
    · rintro ⟨rfl, rfl⟩
      exact ⟨[], bytes, rfl, rfl, rfl, (List.append_nil _).symm⟩
    · rintro ⟨front, back, rfl, hlength, rfl, hdata⟩
      obtain rfl := List.eq_nil_of_length_eq_zero hlength
      rw [List.append_nil, Array.toList_inj] at hdata
      exact ⟨rfl, hdata.symm⟩
  | succ count ih =>
    cases bytes with
    | nil =>
      refine ⟨nofun, ?_⟩
      rintro ⟨front, back, hnil, hlength, -⟩
      obtain ⟨rfl, -⟩ := List.append_eq_nil_iff.1 hnil.symm
      cases hlength
    | cons byte bytes =>
      change inflateStored none count bytes (out.push byte) = .ok (t, data) ↔ _
      rw [ih]
      constructor
      · rintro ⟨front, back, rfl, rfl, rfl, hdata⟩
        refine ⟨byte :: front, back, rfl, rfl, rfl, ?_⟩
        rw [hdata, Array.toList_push, List.append_assoc, List.singleton_append]
      · rintro ⟨front, back, hbytes, hlength, rfl, hdata⟩
        obtain ⟨first, front, rfl⟩ := List.exists_cons_of_length_eq_add_one hlength
        obtain ⟨rfl, rfl⟩ := List.cons.inj hbytes
        refine ⟨front, back, rfl, by simpa using hlength, rfl, ?_⟩
        rw [hdata, Array.toList_push, List.append_assoc, List.singleton_append]

/-- What a stored block consists of behind its padding: two bytes of its length, two of the length
inverted, and its bytes. -/
theorem inflateStoredBlock_eq_ok_iff_bytes :
    inflateStoredBlock none s out = .ok (t, data) ↔
      ∃ a b c d front back, s.bytes = [a, b, c, d] ++ front ++ back ∧
        pairValue a b = front.length ∧ pairValue c d = allOnes - front.length ∧
          t = .ofBytes back ∧ data.toList = out.toList ++ front := by
  rw [inflateStoredBlock, BitStream.alignedBytes]
  constructor
  · intro h
    split at h
    · rename_i a b c d bytes hbytes
      split at h
      · rename_i hinverted
        obtain ⟨front, back, rfl, hlength, rfl, hdata⟩ := inflateStored_eq_ok_iff.1 h
        exact ⟨a, b, c, d, front, back, hbytes, hlength.symm, by rw [allOnes]; omega, rfl, hdata⟩
      · cases h
    · cases h
  · rintro ⟨a, b, c, d, front, back, hbytes, hlength, hinverted, rfl, hdata⟩
    have hle := pairValue_le a b
    rw [hbytes]
    change (if pairValue a b + pairValue c d = 65535 then _ else _) = _
    rw [if_pos (by rw [hinverted, ← hlength]; rw [allOnes] at hle ⊢; omega)]
    exact inflateStored_eq_ok_iff.2 ⟨front, back, rfl, hlength.symm, rfl, hdata⟩

/-- The next stored block begins with a whole byte: what is pending is its padding. -/
theorem padding_eq {offset : Nat} (hs : s.Tidy) (hoffset : 8 ∣ offset + s.size)
    {padding : List Bool} (hpadding : padding.length < 8) (hwhole : 8 ∣ offset + padding.length)
    {u : BitStream} (hreads : s.Reads padding u) : padding = s.pending ∧ u = .ofBytes s.bytes := by
  have hlength : padding.length = s.pending.length := by
    have hsize : s.size = s.pending.length + 8 * s.bytes.length := rfl
    rw [BitStream.Tidy] at hs
    omega
  exact hreads.unique s.reads_pending hlength

/-- **A stored block is read where it is written.** -/
theorem inflateStoredBlock_eq_ok_iff {offset : Nat} (hs : s.Tidy) (hoffset : 8 ∣ offset + s.size) :
    inflateStoredBlock none s out = .ok (t, data) ↔
      ∃ padding bytes, padding.length < 8 ∧ 8 ∣ offset + padding.length ∧
        bytes.length ≤ allOnes ∧ data.toList = out.toList ++ bytes ∧
          s.Reads (padding ++ lowBits 16 bytes.length ++ lowBits 16 (allOnes - bytes.length)
            ++ bytes.flatMap bitsOfByte) t := by
  rw [inflateStoredBlock_eq_ok_iff_bytes]
  have hbits (a b c d : UInt8) (front : Bytes) :
      lowBits 16 (pairValue a b) ++ lowBits 16 (pairValue c d) ++ front.flatMap bitsOfByte
        = ([a, b, c, d] ++ front).flatMap bitsOfByte := by
    simp [lowBits_pairValue]
  constructor
  · rintro ⟨a, b, c, d, front, back, hbytes, hlength, hinverted, rfl, hdata⟩
    have hwhole : 8 ∣ offset + s.pending.length := by
      have hsize : s.size = s.pending.length + 8 * s.bytes.length := rfl
      omega
    refine ⟨s.pending, front, hs, hwhole, hlength ▸ pairValue_le a b, hdata, ?_⟩
    rw [← hlength] at hinverted ⊢
    rw [← hinverted, List.append_assoc, List.append_assoc, ← List.append_assoc (lowBits 16 _),
      hbits, BitStream.reads_append]
    exact ⟨_, s.reads_pending, BitStream.reads_bytes_iff.2 ⟨back, hbytes, rfl⟩⟩
  · rintro ⟨padding, bytes, hpadding, hwhole, hle, hdata, hreads⟩
    obtain ⟨a, b, hlength⟩ := exists_pairValue hle
    obtain ⟨c, d, hinverted⟩ := exists_pairValue (Nat.sub_le allOnes bytes.length)
    rw [← hinverted, ← hlength, List.append_assoc, List.append_assoc,
      ← List.append_assoc (lowBits 16 _), hbits, BitStream.reads_append] at hreads
    obtain ⟨u, hu, hreads⟩ := hreads
    obtain ⟨-, rfl⟩ := padding_eq hs hoffset hpadding hwhole hu
    obtain ⟨back, hbytes, rfl⟩ := BitStream.reads_bytes_iff.1 hreads
    exact ⟨a, b, c, d, bytes, back, hbytes, hlength, hinverted, rfl, hdata⟩

/-! ## Blocks of any kind -/

/-- A block under the fixed codes is its tokens. -/
theorem inflateBlock_fixed_eq_ok_iff :
    inflateBlock none 1 s out = .ok (t, data) ↔
      ∃ w, WritesTokens Rules.followed.preset fixedLiteralLengths fixedDistanceLengths out.toList
        data.toList w ∧ s.Reads w t := by
  obtain ⟨fixed, hfixed, hdecode⟩ := exists_fixedCodes
  rw [inflateBlock, if_neg Nat.one_ne_zero, if_pos rfl, hfixed]
  exact inflateTokens_eq_ok_iff hdecode (Nat.lt_succ_self _)

/-- A block that sends its codes is these codes and its tokens under them. -/
theorem inflateBlock_sent_eq_ok_iff :
    inflateBlock none 2 s out = .ok (t, data) ↔
      ∃ literals distances v w, WritesCodes Rules.followed literals distances v ∧
        WritesTokens Rules.followed.preset literals distances out.toList data.toList w ∧
          s.Reads (v ++ w) t := by
  rw [inflateBlock, if_neg (by decide), if_neg (by decide), if_pos rfl]
  constructor
  · intro h
    cases hcodes : sentCodes s with
    | error cause =>
      rw [hcodes] at h
      cases h
    | ok result =>
      obtain ⟨codes, u⟩ := result
      rw [hcodes] at h
      obtain ⟨literals, distances, v, hv, hreads, hdecode⟩ := writesCodes_of_sentCodes hcodes
      obtain ⟨w, hw, hrest⟩ := (inflateTokens_eq_ok_iff hdecode (Nat.lt_succ_self _)).1 h
      exact ⟨literals, distances, v, w, hv, hw, BitStream.reads_append.2 ⟨u, hreads, hrest⟩⟩
  · rintro ⟨literals, distances, v, w, hv, hw, hreads⟩
    obtain ⟨u, hcodes, hrest⟩ := BitStream.reads_append.1 hreads
    obtain ⟨codes, hsent, hdecode⟩ := sentCodes_of_writesCodes hv hcodes
    rw [hsent]
    exact (inflateTokens_eq_ok_iff hdecode (Nat.lt_succ_self _)).2 ⟨w, hw, hrest⟩

/-- There are three kinds of blocks. -/
theorem kind_of_inflateBlock {kind : Nat} (h : inflateBlock none kind s out = .ok (t, data)) :
    kind = 0 ∨ kind = 1 ∨ kind = 2 := by
  by_contra hkind
  simp only [not_or] at hkind
  rw [inflateBlock, if_neg hkind.1, if_neg hkind.2.1, if_neg hkind.2.2] at h
  cases h

/-- **A block is read where it is written**, its kind first. -/
theorem inflateBlock_eq_ok_iff {offset : Nat} (hs : s.Tidy) (hoffset : 8 ∣ offset + s.size) :
    (∃ kind u, s.number 2 = .ok (kind, u) ∧ inflateBlock none kind u out = .ok (t, data)) ↔
      ∃ w, WritesBlock Rules.followed offset out.toList data.toList w ∧ s.Reads w t := by
  have hbehind {kind : Nat} {u : BitStream} (hreads : s.Reads (lowBits 2 kind) u) :
      u.Tidy ∧ 8 ∣ offset + 2 + u.size := by
    have := hreads.size
    rw [length_lowBits] at this
    exact ⟨hs.reads hreads, by omega⟩
  constructor
  · rintro ⟨kind, u, hkind, h⟩
    obtain ⟨-, hreads⟩ := BitStream.number_eq_ok_iff.1 hkind
    obtain ⟨hu, hoffset'⟩ := hbehind hreads
    rcases kind_of_inflateBlock h with rfl | rfl | rfl
    · obtain ⟨padding, bytes, hpadding, hwhole, hle, hdata, hrest⟩ :=
        (inflateStoredBlock_eq_ok_iff hu hoffset').1 h
      rw [hdata]
      refine ⟨_, .stored hpadding hwhole hle, ?_⟩
      simp only [List.append_assoc] at hrest ⊢
      exact BitStream.reads_append.2 ⟨u, hreads, hrest⟩
    · obtain ⟨w, hw, hrest⟩ := inflateBlock_fixed_eq_ok_iff.1 h
      exact ⟨_, .fixed hw, BitStream.reads_append.2 ⟨u, hreads, hrest⟩⟩
    · obtain ⟨literals, distances, v, w, hv, hw, hrest⟩ := inflateBlock_sent_eq_ok_iff.1 h
      refine ⟨_, .sent hv hw, ?_⟩
      rw [List.append_assoc]
      exact BitStream.reads_append.2 ⟨u, hreads, hrest⟩
  · rintro ⟨w, hw, hreads⟩
    generalize hend : data.toList = data' at hw
    cases hw with
    | @stored bytes padding hpadding hwhole hle =>
      simp only [List.append_assoc] at hreads
      obtain ⟨u, hkind, hrest⟩ := BitStream.reads_append.1 hreads
      obtain ⟨hu, hoffset'⟩ := hbehind hkind
      refine ⟨0, u, BitStream.number_eq_ok_iff.2 ⟨by decide, hkind⟩, ?_⟩
      refine (inflateStoredBlock_eq_ok_iff hu hoffset').2 ⟨padding, bytes, hpadding, hwhole, hle,
        hend, ?_⟩
      simpa only [List.append_assoc] using hrest
    | fixed hw =>
      obtain ⟨u, hkind, hrest⟩ := BitStream.reads_append.1 hreads
      exact ⟨1, u, BitStream.number_eq_ok_iff.2 ⟨by decide, hkind⟩,
        inflateBlock_fixed_eq_ok_iff.2 ⟨_, hend ▸ hw, hrest⟩⟩
    | sent hv hw =>
      rw [List.append_assoc] at hreads
      obtain ⟨u, hkind, hrest⟩ := BitStream.reads_append.1 hreads
      exact ⟨2, u, BitStream.number_eq_ok_iff.2 ⟨by decide, hkind⟩,
        inflateBlock_sent_eq_ok_iff.2 ⟨_, _, _, _, hv, hend ▸ hw, hrest⟩⟩

/-! ## The stream -/

theorem inflateBlocks_succ_eq_ok_iff {fuel : Nat} :
    inflateBlocks none (fuel + 1) s out = .ok data ↔
      ∃ last u r mid, s.number 1 = .ok (last, u) ∧
        (∃ kind v, u.number 2 = .ok (kind, v) ∧ inflateBlock none kind v out = .ok (r, mid)) ∧
          if last = 1 then mid = data else inflateBlocks none fuel r mid = .ok data := by
  rw [inflateBlocks]
  constructor
  · intro h
    split at h
    · cases h
    rename_i last u hlast
    split at h
    · cases h
    rename_i kind v hkind
    split at h
    · cases h
    rename_i r mid hblock
    refine ⟨last, u, r, mid, hlast, ⟨kind, v, hkind, hblock⟩, ?_⟩
    split at h
    · rename_i hone
      rw [if_pos hone]
      exact Except.ok.inj h
    · rename_i hone
      rwa [if_neg hone]
  · rintro ⟨last, u, r, mid, hlast, ⟨kind, v, hkind, hblock⟩, h⟩
    simp only [hlast, hkind, hblock]
    split at h
    · rename_i hone
      rw [if_pos hone, h]
    · rename_i hone
      rwa [if_neg hone]

/-- **Blocks are read where they are written.**  The induction is on the fuel, of which every block
needs no more than it has bits. -/
theorem inflateBlocks_eq_ok_iff {offset fuel : Nat} (hs : s.Tidy) (hoffset : 8 ∣ offset + s.size)
    (hfuel : s.size < fuel) :
    inflateBlocks none fuel s out = .ok data ↔
      ∃ w t, WritesBlocks Rules.followed offset out.toList data.toList w ∧ s.Reads w t := by
  induction fuel generalizing s out offset with
  | zero => omega
  | succ fuel ih =>
    have hbehind {b : Bool} {u : BitStream} (hreads : s.Reads [b] u) :
        u.Tidy ∧ 8 ∣ offset + 1 + u.size ∧ s.size = 1 + u.size := by
      have hsize := hreads.size
      rw [List.length_singleton] at hsize
      exact ⟨hs.reads hreads, by omega, hsize⟩
    have hafter {u r : BitStream} {v : List Bool} (hu : u.Tidy) (hoffset : 8 ∣ offset + 1 + u.size)
        (hreads : u.Reads v r) :
        r.Tidy ∧ 8 ∣ offset + 1 + v.length + r.size ∧ r.size ≤ u.size := by
      have hsize := hreads.size
      exact ⟨hu.reads hreads, by omega, by omega⟩
    rw [inflateBlocks_succ_eq_ok_iff]
    constructor
    · rintro ⟨last, u, r, mid, hlast, hblock, h⟩
      obtain ⟨hlt, hbit⟩ := BitStream.number_eq_ok_iff.1 hlast
      obtain ⟨hu, hoffset', hsize⟩ := hbehind (b := last.testBit 0) hbit
      obtain ⟨v, hv, hvreads⟩ := (inflateBlock_eq_ok_iff hu hoffset').1 hblock
      by_cases hone : last = 1
      · rw [if_pos hone] at h
        subst hone h
        exact ⟨_, r, .last hv, (BitStream.reads_append (v := [true])).2 ⟨u, hbit, hvreads⟩⟩
      · rw [if_neg hone] at h
        obtain rfl : last = 0 := by omega
        obtain ⟨hr, hoffset'', hle⟩ := hafter hu hoffset' hvreads
        obtain ⟨w, t, hw, hwreads⟩ := (ih hr hoffset'' (by omega)).1 h
        refine ⟨_, t, .more hv hw, (BitStream.reads_append (v := [false])).2 ⟨u, hbit, ?_⟩⟩
        exact BitStream.reads_append.2 ⟨r, hvreads, hwreads⟩
    · rintro ⟨w, t, hw, hreads⟩
      cases hw with
      | last hv =>
        obtain ⟨u, hbit, hvreads⟩ := (BitStream.reads_append (v := [true])).1 hreads
        obtain ⟨hu, hoffset', -⟩ := hbehind hbit
        exact ⟨1, u, t, data, BitStream.number_eq_ok_iff.2 ⟨by omega, hbit⟩,
          (inflateBlock_eq_ok_iff hu hoffset').2 ⟨_, hv, hvreads⟩, rfl⟩
      | @more _ _ mid _ v w hv hw =>
        obtain ⟨u, hbit, hrest⟩ := (BitStream.reads_append (v := [false])).1 hreads
        obtain ⟨r, hvreads, hwreads⟩ := BitStream.reads_append.1 hrest
        obtain ⟨hu, hoffset', hsize⟩ := hbehind hbit
        obtain ⟨hr, hoffset'', hle⟩ := hafter hu hoffset' hvreads
        refine ⟨0, u, r, mid.toArray, BitStream.number_eq_ok_iff.2 ⟨by omega, hbit⟩,
          (inflateBlock_eq_ok_iff hu hoffset').2 ⟨v, hv, hvreads⟩, ?_⟩
        exact (ih hr hoffset'' (by omega)).2 ⟨w, t, hw, hwreads⟩

/-- **The data of a stream** is that of which it begins with the compressed form. -/
theorem run_eq_ok_iff_inflates {bytes : Bytes} :
    run none bytes = .ok data ↔ Rules.followed.Inflates bytes data.toList := by
  have htoList : (BitStream.ofBytes bytes).toList = bytes.flatMap bitsOfByte := List.nil_append _
  have hsize : (BitStream.ofBytes bytes).size = 8 * bytes.length := Nat.zero_add _
  have hwhole : 8 ∣ 0 + (BitStream.ofBytes bytes).size := by
    rw [hsize]
    omega
  rw [run, inflateBlocks_eq_ok_iff (BitStream.tidy_ofBytes bytes) hwhole (Nat.lt_succ_self _),
    Rules.Inflates]
  constructor
  · rintro ⟨w, t, hw, hreads⟩
    exact ⟨w, hw, t.toList, by rw [← hreads.toList, htoList]⟩
  · rintro ⟨w, hw, rest, hrest⟩
    obtain ⟨t, hreads, -⟩ := BitStream.exists_reads (htoList.trans hrest.symm)
    exact ⟨w, t, hw, hreads⟩

/-- **A stream is the compressed form of one thing only.** -/
theorem Rules.Inflates.unique {stream data data' : Bytes} (h : Rules.followed.Inflates stream data)
    (h' : Rules.followed.Inflates stream data') : data = data' := by
  have hrun : run none stream = .ok data.toArray := run_eq_ok_iff_inflates.2 h
  have hrun' : run none stream = .ok data'.toArray := run_eq_ok_iff_inflates.2 h'
  rw [hrun, Except.ok.injEq] at hrun'
  simpa using hrun'

/-! ## Readers that take more -/

/-- What lies before all that a copy reaches does not matter. -/
theorem copied_append (front : Bytes) {past : Bytes} {distance : Nat} (h : distance ≤ past.length)
    (length : Nat) : copied (front ++ past) distance length = copied past distance length := by
  refine List.map_congr_left fun i _ => ?_
  rw [List.length_append,
    show front.length + past.length - distance + i % distance
      = front.length + (past.length - distance + i % distance) by omega,
    List.getElem?_append_right (Nat.le_add_right _ _), Nat.add_sub_cancel_left]

/-- A reader that lets copies reach further back, blocks send more distance codes, and the only
string of a code be longer. -/
structure Rules.Extends (more rules : Rules) : Prop where
  /-- There is at least as much to reach back into. -/
  preset : rules.preset <:+ more.preset
  /-- There are at least as many distance codes. -/
  maxDistances : rules.maxDistances ≤ more.maxDistances
  /-- The only string of a code may be at least as long. -/
  maxLone : rules.maxLone ≤ more.maxLone

theorem Rules.followed_extends_common : Rules.followed.Extends Rules.common :=
  ⟨List.nil_suffix, Nat.le_refl _, Nat.le_refl _⟩

variable {more rules : Rules} {past result : Bytes} {literals distances : List Nat} {w : List Bool}

theorem WritesTokens.mono (hmore : more.Extends rules)
    (h : WritesTokens rules.preset literals distances past result w) :
    WritesTokens more.preset literals distances past result w := by
  obtain ⟨front, hfront⟩ := hmore.preset
  induction h with
  | stop h => exact .stop h
  | literal h _ ih => exact .literal h ih
  | @copy past result length distance v w h hreach _ ih =>
    have hcopied : copied (more.preset ++ past) distance length
        = copied (rules.preset ++ past) distance length := by
      rw [← hfront, List.append_assoc, copied_append front (by rwa [List.length_append])]
    refine .copy h ?_ (hcopied ▸ ih)
    rw [← hfront, List.length_append]
    omega

theorem Rules.IsCode.mono (hmore : more.Extends rules) {lengths : List Nat}
    (h : rules.IsCode lengths) : more.IsCode lengths := by
  rcases h with hfills | hnone | ⟨length, hle, hlone⟩
  · exact .inl hfills
  · exact .inr (.inl hnone)
  · exact .inr (.inr ⟨length, hle.trans hmore.maxLone, hlone⟩)

theorem WritesCodes.mono (hmore : more.Extends rules) (h : WritesCodes rules literals distances w) :
    WritesCodes more literals distances w := by
  obtain ⟨hliterals, ⟨hone, hmax⟩, htriples, hlt, hfills, hlengths, hliteralCode,
    hdistanceCode⟩ := h
  exact ⟨hliterals, ⟨hone, hmax.trans hmore.maxDistances⟩, htriples, hlt, hfills, hlengths,
    hliteralCode.mono hmore, hdistanceCode.mono hmore⟩

theorem WritesBlock.mono (hmore : more.Extends rules) {offset : Nat}
    (h : WritesBlock rules offset past result w) : WritesBlock more offset past result w := by
  cases h with
  | stored hpadding hwhole hlength => exact .stored hpadding hwhole hlength
  | fixed h => exact .fixed (h.mono hmore)
  | sent hcodes h => exact .sent (hcodes.mono hmore) (h.mono hmore)

theorem WritesBlocks.mono (hmore : more.Extends rules) {offset : Nat}
    (h : WritesBlocks rules offset past result w) : WritesBlocks more offset past result w := by
  induction h with
  | last h => exact .last (h.mono hmore)
  | more h _ ih => exact .more (h.mono hmore) ih

/-- **A reader that takes more takes what others take**, with the same data. -/
theorem Rules.Inflates.mono (hmore : more.Extends rules) {stream data : Bytes}
    (h : rules.Inflates stream data) : more.Inflates stream data := by
  obtain ⟨w, hw, hstream⟩ := h
  exact ⟨w, hw.mono hmore, hstream⟩

end Deflate
end WebSso
