import WebSso.Proofs.Codec.Deflate.Format

/-!
# Blocks of tokens are read as they are written

The tokens of a block are read one after the other, each from its own bits, until the one that ends
the block.  Since a stream is read in one way only, what is read at each step is what the format
says, so that reading a block amounts to its being written there.

## What is here

* `Code.Decodes`, that a code reads the strings of some lengths;
* `rangeValue_eq_ok_iff` and `token_eq_ok_iff`, which bits a value of a table and a token are read
  from;
* `toList_copyBack`, that a copy made byte by byte is the copy of the format;
* `inflateTokens_eq_ok_iff`: a block of tokens is read where it is written, with nothing else.
-/

set_option autoImplicit false
namespace WebSso
namespace Deflate

open Code (HasWord word)

/-- A code reads the symbols of some lengths, each from its string and from nothing else. -/
def Code.Decodes (code : Code) (lengths : List Nat) : Prop :=
  ∀ s t symbol, code.symbol s = .ok (symbol, t) ↔
    HasWord lengths symbol ∧ s.Reads (word lengths symbol) t

/-! ## One token -/

theorem rangeValue_eq_ok_iff {ranges : List Range} {place n : Nat} {s t : BitStream} :
    rangeValue ranges place s = .ok (n, t) ↔
      ∃ range extra, ranges[place]? = some range ∧ extra < 2 ^ range.extraBits ∧
        n = range.base + extra ∧ s.Reads (lowBits range.extraBits extra) t := by
  rw [rangeValue]
  cases hrange : ranges[place]? with
  | none => exact ⟨nofun, nofun⟩
  | some range =>
    simp only [except_bind_eq_ok_iff, Option.some.injEq]
    constructor
    · rintro ⟨⟨extra, u⟩, hnumber, h⟩
      cases h
      obtain ⟨hlt, hreads⟩ := BitStream.number_eq_ok_iff.1 hnumber
      exact ⟨range, extra, rfl, hlt, rfl, hreads⟩
    · rintro ⟨_, extra, rfl, hlt, rfl, hreads⟩
      exact ⟨(extra, t), BitStream.number_eq_ok_iff.2 ⟨hlt, hreads⟩, rfl⟩

/-- **A value of a table** is read as a symbol and what comes above the base of its range. -/
theorem writesValue_iff {code : Code} {lengths : List Nat} (hcode : code.Decodes lengths)
    {first n : Nat} {ranges : List Range} {s t : BitStream} :
    (∃ place u, code.symbol s = .ok (first + place, u) ∧ rangeValue ranges place u = .ok (n, t)) ↔
      ∃ w, WritesValue lengths first ranges n w ∧ s.Reads w t := by
  constructor
  · rintro ⟨place, u, hsymbol, hvalue⟩
    obtain ⟨hword, hreads⟩ := (hcode s u _).1 hsymbol
    obtain ⟨range, extra, hrange, hlt, rfl, hextra⟩ := rangeValue_eq_ok_iff.1 hvalue
    exact ⟨_, .intro hrange hword hlt, BitStream.reads_append.2 ⟨u, hreads, hextra⟩⟩
  · rintro ⟨w, hvalue, hreads⟩
    cases hvalue with
    | @intro place extra range hrange hword hlt =>
      obtain ⟨u, hsymbol, hextra⟩ := BitStream.reads_append.1 hreads
      exact ⟨place, u, (hcode s u _).2 ⟨hword, hsymbol⟩,
        rangeValue_eq_ok_iff.2 ⟨range, extra, hrange, hlt, rfl, hextra⟩⟩

/-- The codes of a block, by their lengths. -/
structure Codes.Decode (codes : Codes) (literals distances : List Nat) : Prop where
  /-- The code for literals and lengths. -/
  literals : codes.literals.Decodes literals
  /-- The code for distances. -/
  distances : codes.distances.Decodes distances

variable {codes : Codes} {literals distances : List Nat} {s t : BitStream}

/-- **A token is read from its bits and from nothing else.** -/
theorem token_eq_ok_iff (hcodes : codes.Decode literals distances) {k : Token} :
    token codes s = .ok (k, t) ↔
      ∃ w, WritesToken literals distances k w ∧ s.Reads w t := by
  rw [token, except_bind_eq_ok_iff]
  constructor
  · rintro ⟨⟨symbol, u⟩, hsymbol, h⟩
    obtain ⟨hword, hreads⟩ := (hcodes.literals s u symbol).1 hsymbol
    dsimp only at h
    by_cases hlt : symbol < endOfBlock
    · rw [if_pos hlt] at h
      cases h
      have hbyte : (UInt8.ofNat symbol).toNat = symbol := by
        rw [UInt8.toNat_ofNat']
        exact Nat.mod_eq_of_lt hlt
      exact ⟨_, .literal (by rwa [hbyte]), by rwa [hbyte]⟩
    rw [if_neg hlt] at h
    by_cases hend : symbol = endOfBlock
    · rw [if_pos hend] at h
      cases h
      subst hend
      exact ⟨_, .stop hword, hreads⟩
    · rw [if_neg hend] at h
      obtain ⟨⟨length, r⟩, hlength, h⟩ := except_bind_eq_ok_iff.1 h
      obtain ⟨⟨place, r'⟩, hplace, h⟩ := except_bind_eq_ok_iff.1 h
      obtain ⟨⟨distance, r''⟩, hdistance, h⟩ := except_bind_eq_ok_iff.1 h
      cases h
      have hsymbol' : symbol = endOfBlock + 1 + (symbol - 257) := by
        rw [endOfBlock] at hlt hend ⊢
        omega
      rw [hsymbol'] at hsymbol
      obtain ⟨v, hv, hvreads⟩ := (writesValue_iff hcodes.literals).1 ⟨_, u, hsymbol, hlength⟩
      rw [← Nat.zero_add place] at hplace
      obtain ⟨w, hw, hwreads⟩ := (writesValue_iff hcodes.distances).1
        ⟨place, r', hplace, hdistance⟩
      exact ⟨v ++ w, .copy hv hw, BitStream.reads_append.2 ⟨r, hvreads, hwreads⟩⟩
  · rintro ⟨w, hw, hreads⟩
    cases hw with
    | @literal byte hword =>
      have hlt : byte.toNat < endOfBlock := by
        have := byte.toNat_lt
        rw [endOfBlock]
        omega
      refine ⟨(byte.toNat, t), (hcodes.literals s t _).2 ⟨hword, hreads⟩, ?_⟩
      simp only [if_pos hlt, UInt8.ofNat_toNat]
      rfl
    | stop hword =>
      refine ⟨(endOfBlock, t), (hcodes.literals s t _).2 ⟨hword, hreads⟩, ?_⟩
      simp only [if_neg (Nat.lt_irrefl endOfBlock), if_pos]
      rfl
    | @copy length distance v w hlength hdistance =>
      obtain ⟨r, hv, hw⟩ := BitStream.reads_append.1 hreads
      obtain ⟨place, u, hsymbol, hlength⟩ := (writesValue_iff hcodes.literals).2 ⟨v, hlength, hv⟩
      obtain ⟨place', u', hsymbol', hdistance⟩ :=
        (writesValue_iff hcodes.distances).2 ⟨w, hdistance, hw⟩
      rw [Nat.zero_add] at hsymbol'
      refine ⟨(endOfBlock + 1 + place, u), hsymbol, ?_⟩
      have hplace : endOfBlock + 1 + place - 257 = place := by
        rw [endOfBlock]
        omega
      dsimp only
      rw [if_neg (show ¬endOfBlock + 1 + place < endOfBlock by omega),
        if_neg (show ¬endOfBlock + 1 + place = endOfBlock by omega), hplace]
      exact except_bind_eq_ok_iff.2 ⟨_, hlength, except_bind_eq_ok_iff.2
        ⟨_, hsymbol', except_bind_eq_ok_iff.2 ⟨_, hdistance, rfl⟩⟩⟩

/-- A token has at least one bit. -/
theorem WritesToken.ne_nil {k : Token} {w : List Bool} (h : WritesToken literals distances k w) :
    w ≠ [] := by
  have hne {lengths : List Nat} {symbol : Nat} (hword : HasWord lengths symbol) :
      word lengths symbol ≠ [] := by
    rw [← List.length_pos_iff, Code.length_word]
    exact Nat.pos_of_ne_zero hword
  cases h with
  | literal hword => exact hne hword
  | stop hword => exact hne hword
  | copy hlength hdistance =>
    cases hlength with
    | intro _ hword _ =>
      intro h
      rw [List.append_assoc, List.append_eq_nil_iff] at h
      exact hne hword h.1

/-! ## Copies -/

/-- A copy that is one longer begins with the byte at its distance, and goes on as a copy behind
it. -/
theorem copied_succ {past : Bytes} {distance : Nat} (hpos : 0 < distance)
    (hreach : distance ≤ past.length) (length : Nat) :
    copied past distance (length + 1)
      = past[past.length - distance]?.getD 0
        :: copied (past ++ [past[past.length - distance]?.getD 0]) distance length := by
  rw [copied, copied, List.range_succ_eq_map, List.map_cons, List.map_map, Nat.zero_mod,
    Nat.add_zero]
  congr 1
  refine List.map_congr_left fun i _ => ?_
  rw [Function.comp_apply, List.length_append, List.length_singleton]
  have hmod : i % distance < distance := Nat.mod_lt _ hpos
  by_cases hwrap : i % distance + 1 = distance
  · -- the copy comes to its own first byte
    have hzero : (i + 1) % distance = 0 := by
      have hdiv := Nat.div_add_mod i distance
      rw [show i + 1 = distance * (i / distance + 1) by rw [Nat.mul_succ]; omega,
        Nat.mul_mod_right]
    rw [Nat.succ_eq_add_one, hzero, Nat.add_zero,
      show past.length + 1 - distance + i % distance = past.length by omega,
      List.getElem?_append_right (Nat.le_refl _), Nat.sub_self]
    rfl
  · have hnext : (i + 1) % distance = i % distance + 1 := by
      rw [Nat.add_mod, Nat.mod_eq_of_lt (show 1 < distance by omega), Nat.mod_eq_of_lt (by omega)]
    rw [Nat.succ_eq_add_one, hnext,
      show past.length + 1 - distance + i % distance
        = past.length - distance + (i % distance + 1) by omega,
      List.getElem?_append_left (by omega)]

/-- Reaching back past the start finds zeros. -/
theorem byteBack_eq {out : Array UInt8} {distance : Nat} (hwindow : distance ≤ window) :
    byteBack out distance
      = (Rules.followed.preset ++ out.toList)[
          (Rules.followed.preset ++ out.toList).length - distance]?.getD 0 := by
  have hpreset : Rules.followed.preset.length = window := List.length_replicate
  rw [byteBack, List.length_append, hpreset, Array.length_toList]
  split
  · rename_i h
    rw [List.getElem?_append_right (by rw [hpreset]; omega), hpreset, Array.getElem?_toList,
      show window + out.size - distance - window = out.size - distance by omega]
  · rename_i h
    rw [List.getElem?_append_left (by rw [hpreset]; omega), Rules.followed,
      List.getElem?_replicate, if_pos (by omega)]
    rfl

/-- **A copy made byte by byte** is the copy of the format. -/
theorem toList_copyBack {distance : Nat} (hpos : 0 < distance) (hwindow : distance ≤ window)
    (length : Nat) (out : Array UInt8) :
    (copyBack distance length out).toList
      = out.toList ++ copied (Rules.followed.preset ++ out.toList) distance length := by
  induction length generalizing out with
  | zero => exact (List.append_nil _).symm
  | succ length ih =>
    have hreach : distance ≤ (Rules.followed.preset ++ out.toList).length := by
      rw [List.length_append, show Rules.followed.preset.length = window from
        List.length_replicate]
      omega
    rw [copyBack, ih, copied_succ hpos hreach, ← byteBack_eq hwindow, Array.toList_push,
      List.append_assoc, List.append_assoc, List.singleton_append]

/-- Distances lie within a window. -/
theorem WritesValue.distance_bounds {n : Nat} {w : List Bool}
    (h : WritesValue distances 0 distanceRanges n w) : 0 < n ∧ n ≤ window := by
  have hranges : ∀ range ∈ distanceRanges,
      0 < range.base ∧ range.base + 2 ^ range.extraBits ≤ window + 1 := by decide
  cases h with
  | intro hrange _ hextra =>
    have := hranges _ (List.mem_of_getElem? hrange)
    omega

theorem WritesToken.distance_bounds {length distance : Nat} {w : List Bool}
    (h : WritesToken literals distances (.copy length distance) w) :
    0 < distance ∧ distance ≤ window := by
  cases h with
  | copy _ hdistance => exact hdistance.distance_bounds

/-! ## A block of tokens -/

/-- What some tokens leave behind that begin with a given one.  A copy reaches back no further than
to the start of what is preset. -/
def FollowsToken (preset : Bytes) (literals distances : List Nat) (past data : Bytes)
    (t : BitStream) : Token → BitStream → Prop
  | .stop, u => data = past ∧ t = u
  | .literal byte, u =>
    ∃ w, WritesTokens preset literals distances (past ++ [byte]) data w ∧ u.Reads w t
  | .copy length distance, u =>
    distance ≤ preset.length + past.length ∧
      ∃ w, WritesTokens preset literals distances
        (past ++ copied (preset ++ past) distance length) data w ∧ u.Reads w t

/-- Tokens are the first of them, as it is read, and what follows it. -/
theorem writesTokens_iff (hcodes : codes.Decode literals distances) {preset past data : Bytes} :
    (∃ w, WritesTokens preset literals distances past data w ∧ s.Reads w t) ↔
      ∃ k u, token codes s = .ok (k, u) ∧
        FollowsToken preset literals distances past data t k u := by
  constructor
  · rintro ⟨w, hw, hreads⟩
    cases hw with
    | stop h => exact ⟨.stop, t, (token_eq_ok_iff hcodes).2 ⟨w, h, hreads⟩, rfl, rfl⟩
    | literal h hrest =>
      obtain ⟨u, hv, hw⟩ := BitStream.reads_append.1 hreads
      exact ⟨_, u, (token_eq_ok_iff hcodes).2 ⟨_, h, hv⟩, _, hrest, hw⟩
    | copy h hreach hrest =>
      obtain ⟨u, hv, hw⟩ := BitStream.reads_append.1 hreads
      exact ⟨_, u, (token_eq_ok_iff hcodes).2 ⟨_, h, hv⟩, hreach, _, hrest, hw⟩
  · rintro ⟨k, u, htoken, hfollows⟩
    obtain ⟨v, hv, hvreads⟩ := (token_eq_ok_iff hcodes).1 htoken
    cases k with
    | stop =>
      obtain ⟨rfl, rfl⟩ := hfollows
      exact ⟨v, .stop hv, hvreads⟩
    | literal byte =>
      obtain ⟨w, hw, hreads⟩ := hfollows
      exact ⟨v ++ w, .literal hv hw, BitStream.reads_append.2 ⟨u, hvreads, hreads⟩⟩
    | copy length distance =>
      obtain ⟨hreach, w, hw, hreads⟩ := hfollows
      exact ⟨v ++ w, .copy hv hreach hw, BitStream.reads_append.2 ⟨u, hvreads, hreads⟩⟩

/-- **A block of tokens is read where it is written**, as long as there is room for its data.  The
induction is on the fuel, of which every token needs no more than it has bits. -/
theorem inflateTokens_eq_ok_iff (hcodes : codes.Decode literals distances) {fuel : Nat}
    {out data : Array UInt8} (hfuel : s.size < fuel) :
    inflateTokens none codes fuel s out = .ok (t, data) ↔
      ∃ w, WritesTokens Rules.followed.preset literals distances out.toList data.toList w ∧
        s.Reads w t := by
  induction fuel generalizing s out with
  | zero => omega
  | succ fuel ih =>
    rw [writesTokens_iff hcodes, inflateTokens]
    cases htoken : token codes s with
    | error cause => exact ⟨nofun, nofun⟩
    | ok result =>
      obtain ⟨k, u⟩ := result
      have hless : u.size < fuel := by
        obtain ⟨v, hv, hreads⟩ := (token_eq_ok_iff hcodes).1 htoken
        have := hreads.size
        have := List.length_pos_iff.2 hv.ne_nil
        omega
      have hone : (∃ k' u', Except.ok (k, u) = Except.ok (ε := Halt) (k', u') ∧
          FollowsToken Rules.followed.preset literals distances out.toList data.toList t k' u') ↔
            FollowsToken Rules.followed.preset literals distances out.toList data.toList t k u := by
        constructor
        · rintro ⟨k', u', heq, h⟩
          cases heq
          exact h
        · exact fun h => ⟨k, u, rfl, h⟩
      rw [hone]
      cases k with
      | stop =>
        rw [FollowsToken, Except.ok.injEq, Prod.mk.injEq, Array.toList_inj]
        exact ⟨fun ⟨ht, hdata⟩ => ⟨hdata.symm, ht.symm⟩, fun ⟨hdata, ht⟩ => ⟨ht.symm, hdata.symm⟩⟩
      | literal byte =>
        have hlist : (out.push byte).toList = out.toList ++ [byte] := Array.toList_push
        rw [FollowsToken, ← hlist]
        exact ih hless
      | copy length distance =>
        obtain ⟨v, hv, -⟩ := (token_eq_ok_iff hcodes).1 htoken
        have hreach : distance ≤ Rules.followed.preset.length + out.toList.length :=
          hv.distance_bounds.2.trans (by rw [Rules.followed, List.length_replicate]; omega)
        rw [FollowsToken, and_iff_right hreach,
          ← toList_copyBack hv.distance_bounds.1 hv.distance_bounds.2]
        exact ih hless

end Deflate
end WebSso
