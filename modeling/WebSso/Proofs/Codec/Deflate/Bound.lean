import WebSso.Proofs.Codec.Deflate.Blocks

/-!
# Reading within a bound

A reader with room for so many bytes stops as soon as there are more.  What it has then is of no use
to anyone, so that all that matters is this: it comes to some data if and only if the reader without
a bound does and there is room for it, and where there is no room it says so.  The reason is that
data only grows, so that what did not fit on the way does not fit at the end.

## What is here

* `Bounds`, how the two readers compare;
* `bounds_inflateTokens`, `bounds_inflateStored` and `bounds_inflateBlocks`, that they compare so on
  every part of the format;
* `inflate_eq_ok_iff` and `inflate_of_lt`: data is handed out if and only if it is within the bound,
  although it is looked at a window at a time.
-/

set_option autoImplicit false
namespace WebSso
namespace Deflate

/-- How a reader with room for `n` bytes compares with one without a bound. -/
structure Bounds {α : Type} (n : Nat) (size : α → Nat) (free bounded : Except Stop α) : Prop where
  /-- It comes to the same data, as long as there is room. -/
  ok_iff : ∀ a, bounded = .ok a ↔ free = .ok a ∧ size a ≤ n
  /-- It is full where there is none. -/
  full : ∀ a, free = .ok a → n < size a → ∃ out, bounded = .error ⟨.full, out⟩

namespace Bounds

variable {α : Type} {n : Nat} {size : α → Nat}

theorem ok {a : α} (h : size a ≤ n) : Bounds n size (.ok a) (.ok a) where
  ok_iff b := by
    refine ⟨fun hb => ⟨hb, ?_⟩, And.left⟩
    cases hb
    exact h
  full b hb hlt := by
    cases hb
    omega

theorem error (stop stop' : Stop) : Bounds n size (.error stop) (.error stop') :=
  ⟨fun _ => ⟨nofun, nofun⟩, nofun⟩

/-- Where there was no room on the way, there is none at the end. -/
theorem of_grown {free : Except Stop α} {m : Nat} (hgrown : ∀ a, free = .ok a → m ≤ size a)
    (h : n < m) (out : Array UInt8) : Bounds n size free (.error ⟨.full, out⟩) where
  ok_iff a := by
    refine ⟨nofun, fun ⟨ha, hle⟩ => ?_⟩
    have := hgrown a ha
    omega
  full _ _ _ := ⟨out, rfl⟩

end Bounds

variable {n : Nat} {s t : BitStream} {out data : Array UInt8}

/-! ## Data grows -/

theorem size_copyBack (distance length : Nat) (out : Array UInt8) :
    (copyBack distance length out).size = out.size + length := by
  induction length generalizing out with
  | zero => rfl
  | succ length ih =>
    rw [copyBack, ih, Array.size_push]
    omega

theorem size_le_inflateTokens {codes : Codes} {fuel : Nat}
    (h : inflateTokens none codes fuel s out = .ok (t, data)) : out.size ≤ data.size := by
  induction fuel generalizing s out with
  | zero => cases h
  | succ fuel ih =>
    rw [inflateTokens] at h
    split at h
    · cases h
    · cases h
      exact Nat.le_refl _
    · have := ih h
      rw [Array.size_push] at this
      omega
    · have := ih h
      rw [size_copyBack] at this
      omega

theorem size_le_inflateStoredBlock (h : inflateStoredBlock none s out = .ok (t, data)) :
    out.size ≤ data.size := by
  obtain ⟨_, _, _, _, front, _, _, _, _, _, hdata⟩ := inflateStoredBlock_eq_ok_iff_bytes.1 h
  rw [← Array.length_toList, ← Array.length_toList, hdata, List.length_append]
  omega

theorem size_le_inflateBlock {kind : Nat} (h : inflateBlock none kind s out = .ok (t, data)) :
    out.size ≤ data.size := by
  rw [inflateBlock] at h
  split at h
  · exact size_le_inflateStoredBlock h
  split at h
  · split at h
    · exact size_le_inflateTokens h
    · cases h
  split at h
  · split at h
    · exact size_le_inflateTokens h
    · cases h
  · cases h

theorem size_le_inflateBlocks {fuel : Nat} (h : inflateBlocks none fuel s out = .ok data) :
    out.size ≤ data.size := by
  induction fuel generalizing s out with
  | zero => cases h
  | succ fuel ih =>
    obtain ⟨last, u, r, mid, -, ⟨kind, v, -, hblock⟩, h⟩ := inflateBlocks_succ_eq_ok_iff.1 h
    have hmid := size_le_inflateBlock hblock
    split at h
    · exact h ▸ hmid
    · exact hmid.trans (ih h)

/-! ## The parts of the format -/

/-- The size of the data that came with a part of a stream. -/
abbrev sizeBehind (p : BitStream × Array UInt8) : Nat := p.2.size

theorem bounds_inflateTokens (codes : Codes) (fuel : Nat) (h : out.size ≤ n) :
    Bounds n sizeBehind (inflateTokens none codes fuel s out)
      (inflateTokens (some n) codes fuel s out) := by
  induction fuel generalizing s out with
  | zero => exact .error _ _
  | succ fuel ih =>
    -- one token leaves more data: if it fits, the rest compares, and otherwise no rest helps
    have hnext (u : BitStream) (next : Array UInt8) :
        Bounds n sizeBehind (inflateTokens none codes fuel u next)
          (if fits (some n) next then inflateTokens (some n) codes fuel u next
            else .error ⟨.full, next⟩) := by
      have hfits : fits (some n) next = true ↔ next.size ≤ n := decide_eq_true_iff
      split
      · rename_i hle
        exact ih (hfits.1 hle)
      · rename_i hle
        rw [hfits] at hle
        exact .of_grown (fun _ => size_le_inflateTokens) (Nat.lt_of_not_le hle) next
    rw [inflateTokens, inflateTokens]
    cases token codes s with
    | error cause => exact .error _ _
    | ok result =>
      obtain ⟨k, u⟩ := result
      cases k with
      | stop => exact .ok h
      | literal byte => exact hnext u _
      | copy length distance => exact hnext u _

theorem bounds_inflateStored (count : Nat) (bytes : Bytes) (h : out.size ≤ n) :
    Bounds n sizeBehind (inflateStored none count bytes out)
      (inflateStored (some n) count bytes out) := by
  induction count generalizing bytes out with
  | zero => exact .ok h
  | succ count ih =>
    have hfits : fits (some n) (out.push 0) = decide (out.size + 1 ≤ n) := by
      rw [fits, Array.size_push]
    have hgrown : ∀ p,
        inflateStored none (count + 1) bytes out = .ok p → out.size + 1 ≤ p.2.size := by
      intro p hp
      obtain ⟨front, back, -, hlength, -, hdata⟩ := inflateStored_eq_ok_iff.1 hp
      rw [← Array.length_toList, ← Array.length_toList, hdata, List.length_append]
      omega
    rw [inflateStored.eq_def (some n)]
    dsimp only
    by_cases hle : out.size + 1 ≤ n
    · rw [hfits, decide_eq_true hle]
      cases bytes with
      | nil => exact .error _ _
      | cons byte bytes => exact ih bytes (by rwa [Array.size_push])
    · rw [hfits, decide_eq_false hle]
      exact .of_grown hgrown (by omega) out

theorem bounds_inflateBlock (kind : Nat) (h : out.size ≤ n) :
    Bounds n sizeBehind (inflateBlock none kind s out) (inflateBlock (some n) kind s out) := by
  rw [inflateBlock, inflateBlock]
  split
  · rw [inflateStoredBlock, inflateStoredBlock]
    split
    · split
      · exact bounds_inflateStored _ _ h
      · exact .error _ _
    · exact .error _ _
  split
  · split
    · exact bounds_inflateTokens _ _ h
    · exact .error _ _
  split
  · split
    · exact bounds_inflateTokens _ _ h
    · exact .error _ _
  · exact .error _ _

/-- **Readers with and without a bound compare on every stream.**  The induction is on the fuel; a
block that leaves no room is followed by none that makes some. -/
theorem bounds_inflateBlocks (fuel : Nat) (h : out.size ≤ n) :
    Bounds n Array.size (inflateBlocks none fuel s out) (inflateBlocks (some n) fuel s out) := by
  induction fuel generalizing s out with
  | zero => exact .error _ _
  | succ fuel ih =>
    rw [inflateBlocks, inflateBlocks]
    cases s.number 1 with
    | error cause => exact .error _ _
    | ok result =>
      obtain ⟨last, u⟩ := result
      dsimp only
      cases u.number 2 with
      | error cause => exact .error _ _
      | ok result =>
        obtain ⟨kind, v⟩ := result
        have hblock := bounds_inflateBlock (s := v) kind h
        dsimp only
        cases hfree : inflateBlock none kind v out with
        | error stop =>
          rw [hfree] at hblock
          cases hbounded : inflateBlock (some n) kind v out with
          | error stop' => exact .error _ _
          | ok p => cases ((hblock.ok_iff p).1 hbounded).1
        | ok p =>
          obtain ⟨r, mid⟩ := p
          by_cases hle : mid.size ≤ n
          · rw [(hblock.ok_iff (r, mid)).2 ⟨hfree, hle⟩]
            dsimp only
            split
            · exact .ok hle
            · exact ih hle
          · obtain ⟨out', hfull⟩ := hblock.full _ hfree (Nat.lt_of_not_le hle)
            rw [hfull]
            refine .of_grown (fun a ha => ?_) (Nat.lt_of_not_le hle) out'
            dsimp only at ha
            split at ha
            · cases ha
              exact Nat.le_refl _
            · exact size_le_inflateBlocks ha

theorem bounds_run (n : Nat) (bytes : Bytes) :
    Bounds n Array.size (run none bytes) (run (some n) bytes) :=
  bounds_inflateBlocks _ (Nat.zero_le n)

/-! ## Data within a bound -/

theorem lt_windowEnd (bound : Nat) : bound < windowEnd bound := by
  rw [windowEnd, window]
  omega

/-- **Data is handed out if and only if it is within the bound.** -/
theorem inflate_eq_ok_iff {bound : Nat} {stream bytes : Bytes} :
    inflate bound stream = .ok bytes ↔
      Rules.followed.Inflates stream bytes ∧ bytes.length ≤ bound := by
  have hbounds := bounds_run (windowEnd bound) stream
  constructor
  · intro h
    rw [inflate] at h
    split at h
    · rename_i out hrun
      split at h
      · rename_i hout
        cases h
        exact ⟨run_eq_ok_iff_inflates.1 ((hbounds.ok_iff out).1 hrun).1, hout⟩
      · cases h
    · cases h
    · cases h
    · cases h
  · rintro ⟨hinflates, hlength⟩
    have hrun : run none stream = .ok bytes.toArray := run_eq_ok_iff_inflates.2 hinflates
    have hroom : bytes.length ≤ windowEnd bound := hlength.trans (lt_windowEnd bound).le
    rw [inflate, (hbounds.ok_iff _).2 ⟨hrun, hroom⟩]
    exact if_pos hlength

/-- **Data past the bound is refused as such**, and never cut off. -/
theorem inflate_of_lt {bound : Nat} {stream bytes : Bytes}
    (h : Rules.followed.Inflates stream bytes) (hlt : bound < bytes.length) :
    inflate bound stream = .error .tooLarge := by
  have hbounds := bounds_run (windowEnd bound) stream
  have hrun : run none stream = .ok bytes.toArray := run_eq_ok_iff_inflates.2 h
  rw [inflate]
  by_cases hle : bytes.length ≤ windowEnd bound
  · rw [(hbounds.ok_iff _).2 ⟨hrun, hle⟩]
    exact if_neg (Nat.not_le_of_lt hlt)
  · obtain ⟨out, hfull⟩ := hbounds.full _ hrun (Nat.lt_of_not_le hle)
    rw [hfull]

end Deflate
end WebSso
