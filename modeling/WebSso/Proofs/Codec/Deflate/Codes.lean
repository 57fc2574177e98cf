import WebSso.Proofs.Codec.Deflate.Token

/-!
# The codes of a block are read as they are written

A block either goes by the fixed codes or sends its own: the lengths of their strings, under a third
code whose lengths are sent as they are.  Here it is shown that the codes that are read are those
that the format writes, and that they are refused if and only if the format has no such codes.

## What is here

* `readTriples_eq_ok_iff`, the lengths of the code for lengths;
* `readRun`, one symbol of that code, with `readRun_eq_ok_iff`, and `readLengths_eq_ok_iff` for all
  of them;
* `codeOf_eq_ok_iff` and `exists_codeOf_iff`, by which the lengths of which a code is made are those
  the format allows;
* `writesCodes_of_sentCodes` and `sentCodes_of_writesCodes`: codes are read where they are written,
  and nowhere else;
* `exists_fixedCodes`, that the fixed codes are codes.
-/

set_option autoImplicit false
namespace WebSso
namespace Deflate

open Code (HasWord word maxLength)

variable {s t : BitStream}

/-! ## The code for lengths -/

theorem readTriples_eq_ok_iff {count : Nat} {triples : List Nat} :
    readTriples count s = .ok (triples, t) ↔
      triples.length = count ∧ (∀ n ∈ triples, n < 2 ^ 3) ∧
        s.Reads (triples.flatMap (lowBits 3)) t := by
  induction count generalizing s triples with
  | zero =>
    rw [readTriples, Except.ok.injEq, Prod.mk.injEq, List.length_eq_zero_iff]
    constructor
    · rintro ⟨rfl, rfl⟩
      exact ⟨rfl, nofun, rfl⟩
    · rintro ⟨rfl, -, hreads⟩
      exact ⟨rfl, hreads⟩
  | succ count ih =>
    rw [readTriples, except_bind_eq_ok_iff]
    constructor
    · rintro ⟨⟨n, u⟩, hn, h⟩
      obtain ⟨⟨rest, r⟩, hrest, h⟩ := except_bind_eq_ok_iff.1 h
      cases h
      obtain ⟨hlt, hreads⟩ := BitStream.number_eq_ok_iff.1 hn
      obtain ⟨hlength, hall, hrest⟩ := ih.1 hrest
      refine ⟨by rw [List.length_cons, hlength], List.forall_mem_cons.2 ⟨hlt, hall⟩, ?_⟩
      rw [List.flatMap_cons]
      exact BitStream.reads_append.2 ⟨u, hreads, hrest⟩
    · rintro ⟨hlength, hall, hreads⟩
      obtain ⟨n, rest, rfl⟩ := List.exists_cons_of_length_eq_add_one hlength
      rw [List.forall_mem_cons] at hall
      rw [List.flatMap_cons, BitStream.reads_append] at hreads
      obtain ⟨u, hn, hrest⟩ := hreads
      exact ⟨(n, u), BitStream.number_eq_ok_iff.2 ⟨hall.1, hn⟩, except_bind_eq_ok_iff.2
        ⟨(rest, t), ih.2 ⟨by simpa using hlength, hall.2, hrest⟩, rfl⟩⟩

theorem length_orderedLengths (triples : List Nat) : (orderedLengths triples).length = 19 := by
  rw [orderedLengths, List.length_map, List.length_range]
  rfl

theorem orderedLengths_le {triples : List Nat} (h : ∀ n ∈ triples, n < 2 ^ 3) :
    ∀ length ∈ orderedLengths triples, length ≤ maxLength := by
  intro length hlength
  obtain ⟨symbol, -, rfl⟩ := List.mem_map.1 hlength
  cases hplace : triples[lengthOrder.idxOf symbol]? with
  | none => exact Nat.zero_le _
  | some n =>
    have hlt := h n (List.mem_of_getElem? hplace)
    rw [Option.getD_some, maxLength]
    omega

/-! ## Runs of lengths -/

/-- What one symbol of the code for lengths stands for, behind the lengths read so far, newest
first. -/
def readRun (code : Code) (read : List Nat) (s : BitStream) :
    Except Halt (List Nat × BitStream) := do
  let (symbol, s) ← code.symbol s
  if symbol < 16 then return ([symbol], s)
  else if symbol = 16 then
    match read with
    | [] => .error .damaged
    | last :: _ =>
      let (extra, s) ← s.number 2
      return (List.replicate (3 + extra) last, s)
  else if symbol = 17 then
    let (extra, s) ← s.number 3
    return (List.replicate (3 + extra) 0, s)
  else
    let (extra, s) ← s.number 7
    return (List.replicate (11 + extra) 0, s)

/-- Lengths are read run by run. -/
theorem readLengths_succ (code : Code) (count fuel : Nat) (read : List Nat) (s : BitStream) :
    readLengths code count (fuel + 1) read s =
      if read.length = count then .ok (read, s)
      else if count < read.length then .error .damaged
      else readRun code read s >>= fun (run, s) => readLengths code count fuel (run ++ read) s := by
  rw [readLengths]
  refine if_congr Iff.rfl rfl (if_congr Iff.rfl rfl ?_)
  rw [readRun]
  cases code.symbol s with
  | error e => rfl
  | ok result =>
    obtain ⟨symbol, u⟩ := result
    change (if symbol < 16 then _ else _) = (if symbol < 16 then _ else _) >>= _
    split
    · rfl
    split
    · cases read with
      | nil => rfl
      | cons last rest =>
        dsimp only
        cases u.number 2 <;> rfl
    split
    · cases u.number 3 <;> rfl
    · cases u.number 7 <;> rfl

variable {code : Code} {lengths : List Nat}

theorem WritesRun.reverse_eq {sent run : List Nat} {w : List Bool}
    (h : WritesRun lengths sent run w) : run.reverse = run := by
  cases h with
  | length => rfl
  | again => exact List.reverse_replicate
  | zeros => exact List.reverse_replicate
  | manyZeros => exact List.reverse_replicate

theorem WritesRun.ne_nil {sent run : List Nat} {w : List Bool}
    (h : WritesRun lengths sent run w) : run ≠ [] := by
  cases h with
  | length => exact List.cons_ne_nil _ _
  | again => simp
  | zeros => simp
  | manyZeros => simp

/-- The extra bits of a run are read as a number. -/
theorem bind_number_eq_ok_iff {α : Type} {width : Nat} (f : Nat → α) {a : α} :
    (s.number width >>= fun x => (pure (f x.1, x.2) : Except Halt (α × BitStream))) = .ok (a, t) ↔
      ∃ extra < 2 ^ width, f extra = a ∧ s.Reads (lowBits width extra) t := by
  rw [except_bind_eq_ok_iff]
  constructor
  · rintro ⟨⟨extra, u⟩, hnumber, h⟩
    cases h
    obtain ⟨hlt, hreads⟩ := BitStream.number_eq_ok_iff.1 hnumber
    exact ⟨extra, hlt, rfl, hreads⟩
  · rintro ⟨extra, hlt, rfl, hreads⟩
    exact ⟨(extra, t), BitStream.number_eq_ok_iff.2 ⟨hlt, hreads⟩, rfl⟩

/-- **A run of lengths is read from its bits and from nothing else**, with the code of at most 19
lengths. -/
theorem readRun_eq_ok_iff (hcode : code.Decodes lengths) (hlength : lengths.length ≤ 19)
    {read run : List Nat} :
    readRun code read s = .ok (run, t) ↔
      ∃ w, WritesRun lengths read.reverse run w ∧ s.Reads w t := by
  rw [readRun, except_bind_eq_ok_iff]
  constructor
  · rintro ⟨⟨symbol, u⟩, hsymbol, h⟩
    obtain ⟨hword, hreads⟩ := (hcode s u symbol).1 hsymbol
    have hlt := Code.lt_length_of_hasWord hword
    dsimp only at h
    by_cases hlow : symbol < 16
    · rw [if_pos hlow] at h
      cases h
      exact ⟨_, .length hword hlow, hreads⟩
    rw [if_neg hlow] at h
    by_cases h16 : symbol = 16
    · subst h16
      rw [if_pos rfl] at h
      cases read with
      | nil => cases h
      | cons last rest =>
        obtain ⟨extra, hextra, rfl, hbits⟩ :=
          (bind_number_eq_ok_iff fun extra => List.replicate (3 + extra) last).1 h
        exact ⟨_, .again hword (by simp) hextra, BitStream.reads_append.2 ⟨u, hreads, hbits⟩⟩
    rw [if_neg h16] at h
    by_cases h17 : symbol = 17
    · subst h17
      rw [if_pos rfl] at h
      obtain ⟨extra, hextra, rfl, hbits⟩ :=
        (bind_number_eq_ok_iff fun extra => List.replicate (3 + extra) 0).1 h
      exact ⟨_, .zeros hword hextra, BitStream.reads_append.2 ⟨u, hreads, hbits⟩⟩
    · rw [if_neg h17] at h
      obtain rfl : symbol = 18 := by omega
      obtain ⟨extra, hextra, rfl, hbits⟩ :=
        (bind_number_eq_ok_iff fun extra => List.replicate (11 + extra) 0).1 h
      exact ⟨_, .manyZeros hword hextra, BitStream.reads_append.2 ⟨u, hreads, hbits⟩⟩
  · rintro ⟨w, hw, hreads⟩
    cases hw with
    | @length n hword hlow =>
      refine ⟨(n, t), (hcode s t n).2 ⟨hword, hreads⟩, ?_⟩
      dsimp only
      rw [if_pos hlow]
      rfl
    | @again last extra hword hlast hextra =>
      obtain ⟨u, hsymbol, hbits⟩ := BitStream.reads_append.1 hreads
      refine ⟨(16, u), (hcode s u 16).2 ⟨hword, hsymbol⟩, ?_⟩
      cases read with
      | nil => cases hlast
      | cons first rest =>
        obtain rfl : first = last := by simpa using hlast
        exact (bind_number_eq_ok_iff fun extra => List.replicate (3 + extra) first).2
          ⟨extra, hextra, rfl, hbits⟩
    | @zeros extra hword hextra =>
      obtain ⟨u, hsymbol, hbits⟩ := BitStream.reads_append.1 hreads
      exact ⟨(17, u), (hcode s u 17).2 ⟨hword, hsymbol⟩,
        (bind_number_eq_ok_iff fun extra => List.replicate (3 + extra) 0).2
          ⟨extra, hextra, rfl, hbits⟩⟩
    | @manyZeros extra hword hextra =>
      obtain ⟨u, hsymbol, hbits⟩ := BitStream.reads_append.1 hreads
      exact ⟨(18, u), (hcode s u 18).2 ⟨hword, hsymbol⟩,
        (bind_number_eq_ok_iff fun extra => List.replicate (11 + extra) 0).2
          ⟨extra, hextra, rfl, hbits⟩⟩

/-- What is sent goes on from what was sent before. -/
theorem WritesLengths.length_le {sent all : List Nat} {w : List Bool}
    (h : WritesLengths lengths sent all w) : sent.length ≤ all.length := by
  induction h with
  | done => exact Nat.le_refl _
  | more _ _ ih =>
    rw [List.length_append] at ih
    omega

/-- **Lengths are read where they are written**, as many as there are to be.  The induction is on
the fuel, of which every run needs no more than it has lengths. -/
theorem readLengths_eq_ok_iff (hcode : code.Decodes lengths) (hlength : lengths.length ≤ 19)
    {count fuel : Nat} {read all : List Nat} (hfuel : count < fuel + read.length) :
    readLengths code count fuel read s = .ok (all, t) ↔
      all.length = count ∧ ∃ w, WritesLengths lengths read.reverse all.reverse w ∧ s.Reads w t := by
  induction fuel generalizing read s with
  | zero =>
    refine ⟨nofun, ?_⟩
    rintro ⟨hcount, w, hw, -⟩
    have := hw.length_le
    rw [List.length_reverse, List.length_reverse] at this
    omega
  | succ fuel ih =>
    have hrun {run : List Nat} {w : List Bool} (h : WritesRun lengths read.reverse run w) :
        count < fuel + (run ++ read).length ∧ (run ++ read).reverse = read.reverse ++ run := by
      have := List.length_pos_iff.2 h.ne_nil
      rw [List.length_append, List.reverse_append, h.reverse_eq]
      exact ⟨by omega, rfl⟩
    rw [readLengths_succ]
    constructor
    · intro h
      split at h
      · rename_i hcount
        cases h
        exact ⟨hcount, [], .done, rfl⟩
      split at h
      · cases h
      obtain ⟨⟨run, u⟩, hread, h⟩ := except_bind_eq_ok_iff.1 h
      obtain ⟨v, hv, hvreads⟩ := (readRun_eq_ok_iff hcode hlength).1 hread
      obtain ⟨hcount, w, hw, hwreads⟩ := (ih (hrun hv).1).1 h
      rw [(hrun hv).2] at hw
      exact ⟨hcount, v ++ w, .more hv hw, BitStream.reads_append.2 ⟨u, hvreads, hwreads⟩⟩
    · rintro ⟨hcount, w, hw, hreads⟩
      generalize hall : all.reverse = all' at hw
      cases hw with
      | done =>
        rw [List.reverse_inj] at hall
        rw [← hall, if_pos hcount, BitStream.reads_nil.1 hreads]
      | @more _ run _ v w hv hw =>
        have hle := hw.length_le
        have := List.length_pos_iff.2 hv.ne_nil
        rw [← hall, List.length_append, List.length_reverse, List.length_reverse, hcount] at hle
        obtain ⟨u, hvreads, hwreads⟩ := BitStream.reads_append.1 hreads
        rw [if_neg (by omega), if_neg (by omega)]
        refine except_bind_eq_ok_iff.2
          ⟨(run, u), (readRun_eq_ok_iff hcode hlength).2 ⟨v, hv, hvreads⟩, ?_⟩
        refine (ih (hrun hv).1).2 ⟨hcount, w, ?_, hwreads⟩
        rwa [(hrun hv).2, hall]

/-! ## Which lengths have a code -/

theorem codeOf_eq_ok_iff {sparse : Bool} :
    codeOf sparse lengths = .ok code ↔ Code.ofLengths? sparse lengths = some code := by
  rw [codeOf]
  cases Code.ofLengths? sparse lengths with
  | none => exact ⟨nofun, nofun⟩
  | some c => rw [Except.ok.injEq, Option.some.injEq]

/-- The code of some lengths reads their strings. -/
theorem decodes_of_codeOf {sparse : Bool} (hle : ∀ length ∈ lengths, length ≤ maxLength)
    (h : codeOf sparse lengths = .ok code) : code.Decodes lengths :=
  fun _ _ _ => Code.symbol_eq_ok_iff_word hle (codeOf_eq_ok_iff.1 h)

theorem exists_codeOf_iff (sparse : Bool) (hle : ∀ length ∈ lengths, length ≤ maxLength) :
    (∃ code, codeOf sparse lengths = .ok code) ↔
      Code.Fills lengths ∨ sparse = true ∧ Code.IsSmall 1 lengths := by
  simp only [codeOf_eq_ok_iff]
  exact Code.exists_ofLengths?_iff sparse hle

theorem WritesRun.le_maxLength {sent run : List Nat} {w : List Bool}
    (h : WritesRun lengths sent run w) (hsent : ∀ n ∈ sent, n ≤ maxLength) :
    ∀ n ∈ run, n ≤ maxLength := by
  intro n hn
  cases h with
  | length _ hlt =>
    rw [List.mem_singleton.1 hn]
    exact Nat.le_of_lt_succ hlt
  | again _ hlast =>
    rw [List.eq_of_mem_replicate hn]
    exact hsent _ (List.mem_of_getLast? hlast)
  | zeros =>
    rw [List.eq_of_mem_replicate hn]
    exact Nat.zero_le _
  | manyZeros =>
    rw [List.eq_of_mem_replicate hn]
    exact Nat.zero_le _

/-- No length is sent that a string cannot have. -/
theorem WritesLengths.le_maxLength {sent all : List Nat} {w : List Bool}
    (h : WritesLengths lengths sent all w) (hsent : ∀ n ∈ sent, n ≤ maxLength) :
    ∀ n ∈ all, n ≤ maxLength := by
  induction h with
  | done => exact hsent
  | more hrun _ ih =>
    refine ih fun n hn => ?_
    rcases List.mem_append.1 hn with hn | hn
    · exact hsent n hn
    · exact hrun.le_maxLength hsent n hn

/-! ## The codes of a block -/

/-- **Codes that are read are written there.** -/
theorem writesCodes_of_sentCodes {codes : Codes} (h : sentCodes s = .ok (codes, t)) :
    ∃ literals distances w, WritesCodes Rules.followed literals distances w ∧
      s.Reads w t ∧ codes.Decode literals distances := by
  rw [sentCodes] at h
  obtain ⟨⟨l, s₁⟩, hl, h⟩ := except_bind_eq_ok_iff.1 h
  obtain ⟨⟨d, s₂⟩, hd, h⟩ := except_bind_eq_ok_iff.1 h
  obtain ⟨⟨c, s₃⟩, hc, h⟩ := except_bind_eq_ok_iff.1 h
  dsimp only at h
  split at h
  · cases h
  rename_i hbound
  obtain ⟨⟨triples, s₄⟩, htriples, h⟩ := except_bind_eq_ok_iff.1 h
  obtain ⟨code, hcode, h⟩ := except_bind_eq_ok_iff.1 h
  obtain ⟨⟨read, s₅⟩, hread, h⟩ := except_bind_eq_ok_iff.1 h
  obtain ⟨literals, hliterals, h⟩ := except_bind_eq_ok_iff.1 h
  obtain ⟨distances, hdistances, h⟩ := except_bind_eq_ok_iff.1 h
  cases h
  obtain ⟨hl32, hlreads⟩ := BitStream.number_eq_ok_iff.1 hl
  obtain ⟨hd32, hdreads⟩ := BitStream.number_eq_ok_iff.1 hd
  obtain ⟨hc16, hcreads⟩ := BitStream.number_eq_ok_iff.1 hc
  obtain ⟨hcount, htlt, htreads⟩ := readTriples_eq_ok_iff.1 htriples
  have hcode' := decodes_of_codeOf (orderedLengths_le htlt) hcode
  obtain ⟨hlength, w, hw, hwreads⟩ := (readLengths_eq_ok_iff hcode'
    (length_orderedLengths triples).le (by rw [List.length_nil]; omega)).1 hread
  -- the two lists of lengths are cut where the first is told to end
  obtain ⟨ls, hls⟩ : ∃ ls, ls = read.reverse.take (l + 257) := ⟨_, rfl⟩
  obtain ⟨ds, hds⟩ : ∃ ds, ds = read.reverse.drop (l + 257) := ⟨_, rfl⟩
  have hsplit : read.reverse = ls ++ ds := by rw [hls, hds, List.take_append_drop]
  have hlslength : ls.length = l + 257 := by
    rw [hls, List.length_take, List.length_reverse]
    omega
  have hdslength : ds.length = d + 1 := by
    rw [hds, List.length_drop, List.length_reverse]
    omega
  rw [← hls] at hliterals
  rw [← hds] at hdistances
  rw [hsplit, List.reverse_nil] at hw
  have hle := hw.le_maxLength nofun
  have hlsle : ∀ n ∈ ls, n ≤ maxLength := fun n hn => hle n (List.mem_append_left _ hn)
  have hdsle : ∀ n ∈ ds, n ≤ maxLength := fun n hn => hle n (List.mem_append_right _ hn)
  have hliteralCode := (exists_codeOf_iff true hlsle).1 ⟨_, hliterals⟩
  have hdistanceCode := (exists_codeOf_iff true hdsle).1 ⟨_, hdistances⟩
  have hfills := (exists_codeOf_iff false (orderedLengths_le htlt)).1 ⟨_, hcode⟩
  simp only [true_and, Bool.false_eq_true, false_and, or_false] at hliteralCode hdistanceCode hfills
  have hmax : Rules.followed.maxDistances = 30 := rfl
  refine ⟨ls, ds, _, .intro (by omega) ⟨by omega, by rw [hmax]; omega⟩ (by omega) htlt hfills hw
    hliteralCode hdistanceCode, ?_, decodes_of_codeOf hlsle hliterals,
    decodes_of_codeOf hdsle hdistances⟩
  simp only [BitStream.reads_append, hlslength, hdslength, hcount, Nat.add_sub_cancel]
  exact ⟨s₄, ⟨s₃, ⟨s₂, ⟨s₁, hlreads, hdreads⟩, hcreads⟩, htreads⟩, hwreads⟩

/-- **Codes that are written are read**, all of them. -/
theorem sentCodes_of_writesCodes {literals distances : List Nat} {w : List Bool}
    (h : WritesCodes Rules.followed literals distances w) (hreads : s.Reads w t) :
    ∃ codes, sentCodes s = .ok (codes, t) ∧ codes.Decode literals distances := by
  obtain ⟨hliterals, hdistances, htriples, hlt, hfills, hlengths, hliteralCode, hdistanceCode⟩ := h
  rename_i triples w
  simp only [BitStream.reads_append] at hreads
  obtain ⟨s₄, ⟨s₃, ⟨s₂, ⟨s₁, hl, hd⟩, hc⟩, ht⟩, hw⟩ := hreads
  have hle := hlengths.le_maxLength nofun
  have hlsle : ∀ n ∈ literals, n ≤ maxLength := fun n hn => hle n (List.mem_append_left _ hn)
  have hdsle : ∀ n ∈ distances, n ≤ maxLength := fun n hn => hle n (List.mem_append_right _ hn)
  obtain ⟨code, hcode⟩ := (exists_codeOf_iff false (orderedLengths_le hlt)).2 (.inl hfills)
  obtain ⟨ls, hls⟩ := (exists_codeOf_iff true hlsle).2 (hliteralCode.imp_right fun h => ⟨rfl, h⟩)
  obtain ⟨ds, hds⟩ := (exists_codeOf_iff true hdsle).2 (hdistanceCode.imp_right fun h => ⟨rfl, h⟩)
  have hmax : Rules.followed.maxDistances = 30 := rfl
  rw [hmax] at hdistances
  refine ⟨⟨ls, ds⟩, ?_, decodes_of_codeOf hlsle hls, decodes_of_codeOf hdsle hds⟩
  have hcount : (literals ++ distances).reverse.length = literals.length + distances.length := by
    rw [List.length_reverse, List.length_append]
  have hread : readLengths code (literals.length + distances.length)
      (literals.length + distances.length + 1) [] s₄ = .ok ((literals ++ distances).reverse, t) :=
    (readLengths_eq_ok_iff (decodes_of_codeOf (orderedLengths_le hlt) hcode)
      (length_orderedLengths triples).le (by rw [List.length_nil]; omega)).2
      ⟨hcount, w, by rwa [List.reverse_reverse], hw⟩
  rw [sentCodes]
  refine except_bind_eq_ok_iff.2 ⟨_, BitStream.number_eq_ok_iff.2 ⟨by omega, hl⟩, ?_⟩
  refine except_bind_eq_ok_iff.2 ⟨_, BitStream.number_eq_ok_iff.2 ⟨by omega, hd⟩, ?_⟩
  refine except_bind_eq_ok_iff.2 ⟨_, BitStream.number_eq_ok_iff.2 ⟨by omega, hc⟩, ?_⟩
  dsimp only
  rw [if_neg (by omega), show literals.length - 257 + 257 = literals.length by omega,
    show distances.length - 1 + 1 = distances.length by omega,
    show triples.length - 4 + 4 = triples.length by omega]
  refine except_bind_eq_ok_iff.2 ⟨_, readTriples_eq_ok_iff.2 ⟨rfl, hlt, ht⟩, ?_⟩
  refine except_bind_eq_ok_iff.2 ⟨code, hcode, except_bind_eq_ok_iff.2 ⟨_, hread, ?_⟩⟩
  dsimp only
  rw [List.reverse_reverse, List.take_left' rfl, List.drop_left' rfl]
  exact except_bind_eq_ok_iff.2 ⟨ls, hls, except_bind_eq_ok_iff.2 ⟨ds, hds, rfl⟩⟩

/-- **The fixed codes** are codes. -/
theorem exists_fixedCodes :
    ∃ codes, fixedCodes? = some codes ∧ codes.Decode fixedLiteralLengths fixedDistanceLengths := by
  have hliterals : ∀ length ∈ fixedLiteralLengths, length ≤ maxLength := by
    simp [fixedLiteralLengths, maxLength, or_imp, forall_and, -List.reduceReplicate]
  have hdistances : ∀ length ∈ fixedDistanceLengths, length ≤ maxLength := by decide
  have hcomplete : Code.isComplete fixedLiteralLengths = true := by
    simp [Code.isComplete, Code.weight, fixedLiteralLengths, maxLength, -List.reduceReplicate]
  obtain ⟨literals, hl⟩ := (exists_codeOf_iff false hliterals).2
    (.inl ((Code.isComplete_iff hliterals).1 hcomplete))
  obtain ⟨distances, hd⟩ := (exists_codeOf_iff false hdistances).2
    (.inl ((Code.isComplete_iff hdistances).1 (by decide)))
  refine ⟨⟨literals, distances⟩, ?_, decodes_of_codeOf hliterals hl,
    decodes_of_codeOf hdistances hd⟩
  rw [fixedCodes?, codeOf_eq_ok_iff.1 hl, codeOf_eq_ok_iff.1 hd]
  rfl

end Deflate
end WebSso
