import Mathlib.Algebra.Order.Field.Basic
import Mathlib.Data.Rat.Cast.Defs
import Mathlib.Tactic.Linarith
import WebSso.Codec.Deflate.Huffman
import WebSso.Proofs.Codec.Base64
import WebSso.Proofs.Codec.Deflate.Stream

/-!
# The strings of a prefix code

A code is given by the lengths of its strings.  Here the string of a symbol is told directly: taken
as a binary number, it is how many strings of its length come before it, namely those that begin
with a shorter string of the code and those of earlier symbols.  The tree that is built string by
string has these strings and no others, because none of them begins with another.

## What is here

* `Code.word`, the string of a symbol, and `Code.HasWord`, whether it has one;
* `Code.Fills` and `Code.IsSmall`, which lengths can make a code: those whose strings take up
  everything (Kraft's equation), and those of at most one string, which is not too long;
* `Code.exists_ofLengths?_iff`: they do make one if they fill up everything or, where that is
  allowed, if the only string has one bit, and not if it is longer;
* `Code.Fit.eq_of_isPrefix_word`, that no string begins with another;
* `Code.Spells`, the strings in a tree, with `Code.spells_insert_iff`, what one more string does;
* `Code.symbol_eq_ok_iff_word`: a symbol is read from its string and from nothing else.
-/

set_option autoImplicit false
namespace WebSso
namespace Deflate
namespace Code

/-! ## Strings -/

/-- How many bits the string of a symbol has; 0 if it has none. -/
def widthOf (lengths : List Nat) (symbol : Nat) : Nat := lengths[symbol]?.getD 0

/-- Whether a symbol has a string. -/
def HasWord (lengths : List Nat) (symbol : Nat) : Prop := widthOf lengths symbol ≠ 0

instance (lengths : List Nat) (symbol : Nat) : Decidable (HasWord lengths symbol) :=
  inferInstanceAs (Decidable (widthOf lengths symbol ≠ 0))

/-- How many strings of a width begin with a shorter string of the code. -/
def extending (lengths : List Nat) (width : Nat) : Nat :=
  (lengths.map fun length => if length = 0 ∨ width ≤ length then 0 else 2 ^ (width - length)).sum

/-- How many strings of its width come before the string of a symbol: those that begin with a
shorter string of the code, and those of earlier symbols. -/
def rank (lengths : List Nat) (symbol : Nat) : Nat :=
  extending lengths (widthOf lengths symbol)
    + (lengths.take symbol).count (widthOf lengths symbol)

/-- The string of a symbol: its rank as a binary number, highest bit first. -/
def word (lengths : List Nat) (symbol : Nat) : List Bool :=
  stringOf (widthOf lengths symbol) (rank lengths symbol)

/-- **Kraft's equation**: the strings take up everything. -/
def Fills (lengths : List Nat) : Prop :=
  ((lengths.filter (· ≠ 0)).map fun length => (1 / 2 : ℚ) ^ length).sum = 1

/-- At most one symbol has a string, and it has no more than so many bits. -/
def IsSmall (most : Nat) (lengths : List Nat) : Prop :=
  lengths.filter (· ≠ 0) = [] ∨ ∃ length ≤ most, lengths.filter (· ≠ 0) = [length]

theorem stringOf_eq_bits (width n : Nat) : stringOf width n = Base64.bits width n := by
  induction width generalizing n with
  | zero => rfl
  | succ width ih =>
    have hbit : [n % 2 == 1] = Base64.bits 1 n := by
      simp [Base64.bits, Nat.testBit_zero, beq_eq_decide]
    rw [stringOf, ih, Base64.bits_add width 1 n, Nat.pow_one, hbit]

theorem length_word (lengths : List Nat) (symbol : Nat) :
    (word lengths symbol).length = widthOf lengths symbol := by
  rw [word, stringOf_eq_bits, Base64.length_bits]

/-! ## Room for the strings -/

/-- How many strings of a width begin with a string of the code, which may be all of it. -/
def covered (lengths : List Nat) (width : Nat) : Nat :=
  (lengths.map fun length => if length = 0 ∨ width < length then 0 else 2 ^ (width - length)).sum

theorem extending_succ (lengths : List Nat) (width : Nat) :
    extending lengths (width + 1) = 2 * covered lengths width := by
  induction lengths with
  | nil => rfl
  | cons length rest ih =>
    simp only [extending, covered, List.map_cons, List.sum_cons, Nat.succ_le_iff] at ih ⊢
    rw [ih, Nat.mul_add]
    split
    · rfl
    · rename_i h
      rw [show width + 1 - length = width - length + 1 by omega, Nat.pow_succ,
        Nat.mul_comm (2 ^ (width - length))]

theorem covered_eq {lengths : List Nat} {width : Nat} (h : width ≠ 0) :
    covered lengths width = extending lengths width + lengths.count width := by
  induction lengths with
  | nil => rfl
  | cons length rest ih =>
    have hterm : (if length = 0 ∨ width < length then 0 else 2 ^ (width - length))
        = (if length = 0 ∨ width ≤ length then 0 else 2 ^ (width - length))
          + if length = width then 1 else 0 := by
      by_cases heq : length = width
      · subst heq
        simp [h]
      · have hlt : width < length ↔ width ≤ length := by omega
        simp [heq, hlt]
    simp only [extending, covered, List.map_cons, List.sum_cons, List.count_cons, beq_iff_eq]
      at ih ⊢
    rw [ih, hterm]
    omega

/-- The number that the first string of a length is given is that of the strings before it. -/
theorem firstString_eq (lengths : List Nat) (width : Nat) :
    firstString lengths width = extending lengths width := by
  induction width with
  | zero => simp [firstString, extending, List.map_const']
  | succ width ih =>
    rw [firstString, ih, extending_succ]
    by_cases h : width = 0
    · subst h
      simp [covered, extending, Nat.pos_iff_ne_zero, em]
    · rw [if_neg h, covered_eq h]

/-- A shorter string takes up its share of every greater width. -/
theorem covered_mul_le (lengths : List Nat) {width wider : Nat} (h : width ≤ wider) :
    covered lengths width * 2 ^ (wider - width) ≤ covered lengths wider := by
  induction lengths with
  | nil => simp [covered]
  | cons length rest ih =>
    simp only [covered, List.map_cons, List.sum_cons] at ih ⊢
    rw [Nat.add_mul]
    refine Nat.add_le_add ?_ ih
    split
    · rw [Nat.zero_mul]
      exact Nat.zero_le _
    · rw [if_neg (by omega), ← Nat.pow_add]
      exact Nat.le_of_eq (by congr 1; omega)

theorem covered_mul_le_extending (lengths : List Nat) {width wider : Nat} (h : width < wider) :
    covered lengths width * 2 ^ (wider - width) ≤ extending lengths wider := by
  obtain ⟨k, rfl⟩ : ∃ k, wider = k + 1 := ⟨wider - 1, by omega⟩
  have hle := covered_mul_le lengths (show width ≤ k by omega)
  rw [extending_succ, show k + 1 - width = k - width + 1 by omega, Nat.pow_succ, ← Nat.mul_assoc]
  omega

theorem weight_eq_covered {lengths : List Nat} (hle : ∀ length ∈ lengths, length ≤ maxLength) :
    weight lengths = covered lengths maxLength := by
  rw [weight, covered]
  congr 1
  refine List.map_congr_left fun length hlength => ?_
  have := hle length hlength
  by_cases h : length = 0
  · simp [h]
  · simp [h, Nat.not_lt.2 this]

/-- Lengths that leave room for their strings. -/
structure Fit (lengths : List Nat) : Prop where
  /-- No string is too long. -/
  le_maxLength : ∀ length ∈ lengths, length ≤ maxLength
  /-- Together they take up no more than there is. -/
  weight_le : weight lengths ≤ 2 ^ maxLength

variable {lengths : List Nat} {x y : Nat}

theorem Fit.covered_le (h : Fit lengths) {width : Nat} (hwidth : width ≤ maxLength) :
    covered lengths width ≤ 2 ^ width := by
  have hle := (covered_mul_le lengths hwidth).trans
    ((weight_eq_covered h.le_maxLength).symm.le.trans h.weight_le)
  rw [show (2 : Nat) ^ maxLength = 2 ^ width * 2 ^ (maxLength - width) by
    rw [← Nat.pow_add]; congr 1; omega] at hle
  exact Nat.le_of_mul_le_mul_right hle (Nat.two_pow_pos _)

/-! ## No string begins with another -/

theorem getElem?_of_hasWord (h : HasWord lengths x) : lengths[x]? = some (widthOf lengths x) := by
  rw [HasWord, widthOf] at h
  rw [widthOf]
  cases hx : lengths[x]? with
  | none => rw [hx] at h; exact absurd rfl h
  | some length => rfl

theorem lt_length_of_hasWord (h : HasWord lengths x) : x < lengths.length :=
  (List.getElem?_eq_some_iff.1 (getElem?_of_hasWord h)).1

theorem widthOf_mem (h : HasWord lengths x) : widthOf lengths x ∈ lengths :=
  List.mem_of_getElem? (getElem?_of_hasWord h)

/-- A symbol counts among those of its width before any later one. -/
theorem count_take_lt (h : HasWord lengths x) {k : Nat} (hk : x < k) :
    (lengths.take x).count (widthOf lengths x) < (lengths.take k).count (widthOf lengths x) := by
  have hlist : lengths.take (x + 1) = lengths.take x ++ [widthOf lengths x] := by
    rw [List.take_add_one, getElem?_of_hasWord h]
    rfl
  have hsub : (lengths.take (x + 1)).Sublist (lengths.take k) :=
    (List.take_prefix_take_left (Nat.succ_le_of_lt hk)).sublist
  have hle := hsub.count_le (widthOf lengths x)
  rw [hlist, List.count_append, List.count_singleton_self] at hle
  omega

theorem rank_lt_covered (h : HasWord lengths x) :
    rank lengths x < covered lengths (widthOf lengths x) := by
  have hcount := count_take_lt h (lt_length_of_hasWord h)
  rw [List.take_length] at hcount
  rw [rank, covered_eq h]
  omega

theorem Fit.rank_lt (hfit : Fit lengths) (h : HasWord lengths x) :
    rank lengths x < 2 ^ widthOf lengths x :=
  (rank_lt_covered h).trans_le (hfit.covered_le (hfit.le_maxLength _ (widthOf_mem h)))

/-- Symbols of one width differ in their ranks. -/
theorem eq_of_rank_eq (hx : HasWord lengths x) (hy : HasWord lengths y)
    (hwidth : widthOf lengths x = widthOf lengths y) (h : rank lengths x = rank lengths y) :
    x = y := by
  rw [rank, rank, ← hwidth, Nat.add_left_cancel_iff] at h
  rcases Nat.lt_trichotomy x y with hlt | heq | hlt
  · have := count_take_lt hx hlt
    omega
  · exact heq
  · have := count_take_lt hy hlt
    rw [← hwidth] at this
    omega

/-- **No string begins with another**: what begins with a shorter string of the code comes before
all longer ones. -/
theorem Fit.eq_of_isPrefix_word (hfit : Fit lengths) (hx : HasWord lengths x)
    (hy : HasWord lengths y) (h : word lengths x <+: word lengths y) : x = y := by
  have hwidth := h.length_le
  rw [length_word, length_word] at hwidth
  obtain ⟨d, hd⟩ := Nat.exists_eq_add_of_le hwidth
  obtain ⟨rest, hrest⟩ := h
  rw [word, word, stringOf_eq_bits, stringOf_eq_bits, hd, Base64.bits_add] at hrest
  have hbits := (List.append_inj hrest (by rw [Base64.length_bits, Base64.length_bits])).1
  have hranks := Base64.mod_eq_of_bits_eq hbits
  have hxlt := hfit.rank_lt hx
  have hylt : rank lengths y / 2 ^ d < 2 ^ widthOf lengths x := by
    rw [Nat.div_lt_iff_lt_mul (Nat.two_pow_pos d), ← Nat.pow_add, ← hd]
    exact hfit.rank_lt hy
  rw [Nat.mod_eq_of_lt hxlt, Nat.mod_eq_of_lt hylt] at hranks
  rcases Nat.eq_zero_or_pos d with rfl | hpos
  · exact eq_of_rank_eq hx hy (by omega) (by simpa using hranks)
  · have hle := covered_mul_le_extending lengths
      (show widthOf lengths x < widthOf lengths y by omega)
    rw [hd, Nat.add_sub_cancel_left, ← hd] at hle
    have hsucc : (rank lengths x + 1) * 2 ^ d ≤ rank lengths y := by
      have hmul := Nat.mul_le_mul_right (2 ^ d) (Nat.succ_le_of_lt (rank_lt_covered hx))
      have hrank : extending lengths (widthOf lengths y) ≤ rank lengths y := Nat.le_add_right _ _
      exact hmul.trans (hle.trans hrank)
    have hdiv := (Nat.le_div_iff_mul_le (Nat.two_pow_pos d)).2 hsucc
    omega

/-! ## Strings in a tree -/

/-- The strings of a tree, with the symbols that they end at. -/
inductive Spells : Code → List Bool → Nat → Prop
  | leaf (symbol : Nat) : Spells (leaf symbol) [] symbol
  | zero {zero one : Code} {w : List Bool} {symbol : Nat} (h : Spells zero w symbol) :
      Spells (fork zero one) (false :: w) symbol
  | one {zero one : Code} {w : List Bool} {symbol : Nat} (h : Spells one w symbol) :
      Spells (fork zero one) (true :: w) symbol

variable {code : Code} {v w : List Bool}

@[simp] theorem not_spells_vacant : ¬Spells vacant v x := nofun

@[simp] theorem spells_zero_iff {zero one : Code} :
    Spells (fork zero one) (false :: w) x ↔ Spells zero w x :=
  ⟨fun h => by cases h; assumption, .zero⟩

@[simp] theorem spells_one_iff {zero one : Code} :
    Spells (fork zero one) (true :: w) x ↔ Spells one w x :=
  ⟨fun h => by cases h; assumption, .one⟩

@[simp] theorem not_spells_nil {zero one : Code} : ¬Spells (fork zero one) [] x := nofun

/-- **A symbol is read from its string in the tree and from nothing else.** -/
theorem symbol_eq_ok_iff {s t : BitStream} :
    code.symbol s = .ok (x, t) ↔ ∃ w, code.Spells w x ∧ s.Reads w t := by
  induction code generalizing s with
  | vacant => simp [symbol]
  | leaf y =>
    rw [symbol, Except.ok.injEq, Prod.mk.injEq]
    constructor
    · rintro ⟨rfl, rfl⟩
      exact ⟨[], .leaf y, rfl⟩
    · rintro ⟨w, hspells, hreads⟩
      cases hspells
      exact ⟨rfl, hreads⟩
  | fork zero one ihzero ihone =>
    constructor
    · intro h
      rw [symbol] at h
      split at h
      · cases h
      · rename_i u hbit
        obtain ⟨w, hspells, hreads⟩ := ihzero.1 h
        exact ⟨_, .zero hspells, u, hbit, hreads⟩
      · rename_i u hbit
        obtain ⟨w, hspells, hreads⟩ := ihone.1 h
        exact ⟨_, .one hspells, u, hbit, hreads⟩
    · rintro ⟨w, hspells, hreads⟩
      cases hspells with
      | zero hspells =>
        obtain ⟨u, hbit, hreads⟩ := hreads
        rw [symbol, hbit]
        exact ihzero.2 ⟨_, hspells, hreads⟩
      | one hspells =>
        obtain ⟨u, hbit, hreads⟩ := hreads
        rw [symbol, hbit]
        exact ihone.2 ⟨_, hspells, hreads⟩

/-- Where a string goes on in a tree: with a zero and with a one. -/
def branches : Code → Code × Code
  | fork zero one => (zero, one)
  | _ => (vacant, vacant)

theorem insert_cons (x : Nat) (b : Bool) (w : List Bool) (code : Code) :
    code.insert x (b :: w)
      = if b then fork code.branches.1 (insert x w code.branches.2)
        else fork (insert x w code.branches.1) code.branches.2 := by
  cases code <;> rfl

/-- **One more string** in a tree in which none begins with it, nor it with any. -/
theorem spells_insert_iff (hfree : ∀ v y, code.Spells v y → ¬v <+: w ∧ ¬w <+: v) :
    (code.insert x w).Spells v y ↔ v = w ∧ y = x ∨ code.Spells v y := by
  induction w generalizing code v with
  | nil =>
    have hnone : ∀ v y, ¬code.Spells v y := fun v y h => (hfree v y h).2 List.nil_prefix
    have hleaf : code.insert x [] = leaf x := by cases code <;> rfl
    rw [hleaf]
    constructor
    · intro h
      cases h
      exact .inl ⟨rfl, rfl⟩
    · rintro (⟨rfl, rfl⟩ | h)
      · exact .leaf _
      · exact absurd h (hnone v y)
  | cons b w ih =>
    -- no leaf stands where the new string goes on, so what the branches spell is all there was
    have hsplit : ∀ v y, code.Spells v y ↔ (fork code.branches.1 code.branches.2).Spells v y := by
      intro v y
      cases code with
      | vacant =>
        refine ⟨nofun, fun h => ?_⟩
        cases h with
        | zero h => cases h
        | one h => cases h
      | leaf z => exact absurd List.nil_prefix (hfree [] z (.leaf z)).1
      | fork zero one => rfl
    have hsub : ∀ u y, (if b then code.branches.2 else code.branches.1).Spells u y →
        ¬u <+: w ∧ ¬w <+: u := by
      intro u y h
      have hspells : code.Spells (b :: u) y := by
        rw [hsplit]
        cases b
        · exact .zero h
        · exact .one h
      have hword := hfree _ _ hspells
      rwa [List.prefix_cons_inj, List.prefix_cons_inj] at hword
    rw [insert_cons, hsplit]
    cases b with
    | false =>
      rcases v with _ | ⟨c, v⟩
      · simp
      · cases c
        · simpa only [if_false, spells_zero_iff, List.cons.injEq, true_and, Bool.false_eq_true]
            using ih hsub
        · simp
    | true =>
      rcases v with _ | ⟨c, v⟩
      · simp
      · cases c
        · simp
        · simpa only [if_true, spells_one_iff, List.cons.injEq, true_and] using ih hsub

/-! ## The tree of a list of lengths -/

/-- What the tree spells after the strings of some first symbols were inserted. -/
def SpellsFirst (lengths : List Nat) (count : Nat) (code : Code) : Prop :=
  ∀ v y, code.Spells v y ↔ y < count ∧ HasWord lengths y ∧ v = word lengths y

/-- Which numbers are next after some lengths were passed. -/
def NextNumbers (lengths done next : List Nat) : Prop :=
  ∀ width, width ≠ 0 → width ≤ maxLength →
    next[width]? = some (extending lengths width + done.count width)

variable {done next : List Nat}

/-- A symbol without a string takes no number. -/
theorem NextNumbers.skip (h : NextNumbers lengths done next) :
    NextNumbers lengths (done ++ [0]) next := by
  intro width hne hle
  rw [h width hne hle, List.count_append, List.count_singleton]
  simp [hne.symm]

/-- A symbol with a string takes the number that is next for its length. -/
theorem NextNumbers.set {length n : Nat} (h : NextNumbers lengths done next)
    (hn : next[length]? = some n) :
    NextNumbers lengths (done ++ [length]) (next.set length (n + 1)) := by
  intro width hne hle
  rw [List.getElem?_set, List.count_append, List.count_singleton]
  by_cases heq : length = width
  · subst heq
    have hbound : length < next.length := (List.getElem?_eq_some_iff.1 hn).1
    have hcount : n = extending lengths length + done.count length :=
      Option.some.inj (hn.symm.trans (h length hne hle))
    rw [if_pos rfl, if_pos hbound, hcount]
    simp [Nat.add_assoc]
  · rw [if_neg heq, h width hne hle]
    simp [heq]

theorem SpellsFirst.skip {count : Nat} (h : SpellsFirst lengths count code)
    (hnone : ¬HasWord lengths count) : SpellsFirst lengths (count + 1) code := by
  intro v y
  rw [h]
  refine ⟨fun ⟨hlt, h⟩ => ⟨by omega, h⟩, fun ⟨hlt, hword, h⟩ => ⟨?_, hword, h⟩⟩
  have hne : y ≠ count := by
    rintro rfl
    exact hnone hword
  omega

/-- The string of the next symbol is free. -/
theorem SpellsFirst.insert (hfit : Fit lengths) {count : Nat} (h : SpellsFirst lengths count code)
    (hhas : HasWord lengths count) :
    SpellsFirst lengths (count + 1) (code.insert count (word lengths count)) := by
  have hfree : ∀ u z, code.Spells u z → ¬u <+: word lengths count ∧ ¬word lengths count <+: u := by
    intro u z hspells
    obtain ⟨hlt, hz, rfl⟩ := (h u z).1 hspells
    exact ⟨fun h => hlt.ne (hfit.eq_of_isPrefix_word hz hhas h),
      fun h => hlt.ne (hfit.eq_of_isPrefix_word hhas hz h).symm⟩
  intro v y
  rw [spells_insert_iff hfree, h]
  constructor
  · rintro (⟨rfl, rfl⟩ | ⟨hlt, h⟩)
    · exact ⟨by omega, hhas, rfl⟩
    · exact ⟨by omega, h⟩
  · rintro ⟨hlt, hword, rfl⟩
    rcases Nat.eq_or_lt_of_le (Nat.le_of_lt_succ hlt) with rfl | hlt
    · exact .inl ⟨rfl, rfl⟩
    · exact .inr ⟨hlt, hword, rfl⟩

/-- **The tree of some lengths spells the strings of its symbols.**  The induction is on the lengths
that are left; the numbers that are next are those of the strings that are free. -/
theorem Fit.spellsFirst_addLengths (hfit : Fit lengths) (rest : List Nat)
    (hlengths : lengths = done ++ rest) (hnext : NextNumbers lengths done next)
    (hcode : SpellsFirst lengths done.length code) :
    SpellsFirst lengths lengths.length (addLengths next done.length code rest) := by
  induction rest generalizing done next code with
  | nil =>
    rw [List.append_nil] at hlengths
    rw [hlengths] at hcode ⊢
    exact hcode
  | cons length rest ih =>
    have hmore : lengths = (done ++ [length]) ++ rest := by rw [hlengths]; simp
    have hsucc : (done ++ [length]).length = done.length + 1 := by simp
    have hwidth : widthOf lengths done.length = length := by simp [widthOf, hlengths]
    rw [addLengths]
    by_cases hzero : length = 0
    · subst hzero
      have hnone : ¬HasWord lengths done.length := fun hhas => hhas hwidth
      rw [if_pos rfl, ← hsucc]
      exact ih hmore hnext.skip (hsucc ▸ hcode.skip hnone)
    · have hhas : HasWord lengths done.length := by rwa [HasWord, hwidth]
      have hle : length ≤ maxLength := hfit.le_maxLength _ (by simp [hlengths])
      have htake : lengths.take done.length = done := by simp [hlengths]
      have hnumber : next[length]? = some (rank lengths done.length) := by
        rw [hnext length hzero hle, rank, hwidth, htake]
      have hstring : stringOf length (rank lengths done.length) = word lengths done.length := by
        rw [word, hwidth]
      simp only [if_neg hzero, hnumber, Option.getD_some, hstring, ← hsucc]
      exact ih hmore (hnext.set hnumber) (hsucc ▸ hcode.insert hfit hhas)

/-! ## Which lengths make a code -/

theorem isSparse_iff : isSparse lengths = true ↔ IsSmall 1 lengths := by
  have hpos : ∀ length ∈ lengths.filter (· ≠ 0), length ≠ 0 := fun length hlength => by
    simpa using (List.mem_filter.1 hlength).2
  rw [isSparse, IsSmall]
  generalize lengths.filter (· ≠ 0) = used at hpos ⊢
  rcases used with _ | ⟨length, _ | ⟨other, rest⟩⟩
  · simp
  · have hlength := hpos length List.mem_cons_self
    have hone : length = 1 ↔ length ≤ 1 := by omega
    simp [hone]
  · simp

/-- The weight of some lengths is what they take up, on the scale of the greatest length. -/
theorem cast_weight (hle : ∀ length ∈ lengths, length ≤ maxLength) :
    (weight lengths : ℚ) = 2 ^ maxLength
      * ((lengths.filter (· ≠ 0)).map fun length => (1 / 2 : ℚ) ^ length).sum := by
  induction lengths with
  | nil => simp [weight]
  | cons length rest ih =>
    rw [List.forall_mem_cons] at hle
    have hrest := ih hle.2
    by_cases hzero : length = 0
    · subst hzero
      simpa [weight] using hrest
    · have hsplit : (2 : ℚ) ^ maxLength = 2 ^ (maxLength - length) * 2 ^ length := by
        rw [← pow_add, Nat.sub_add_cancel hle.1]
      have hterm : (2 : ℚ) ^ maxLength * (1 / 2) ^ length = 2 ^ (maxLength - length) := by
        rw [hsplit, mul_assoc, ← mul_pow]
        norm_num
      have hweight : weight (length :: rest) = 2 ^ (maxLength - length) + weight rest := by
        simp [weight, hzero]
      rw [List.filter_cons_of_pos (by simpa using hzero), List.map_cons, List.sum_cons, mul_add,
        hterm, ← hrest, hweight]
      push_cast
      rfl

theorem isComplete_iff (hle : ∀ length ∈ lengths, length ≤ maxLength) :
    isComplete lengths = true ↔ Fills lengths := by
  have hpos : (2 : ℚ) ^ maxLength ≠ 0 := by norm_num
  rw [isComplete, decide_eq_true_eq, Fills, ← @Nat.cast_inj ℚ, cast_weight hle, Nat.cast_pow,
    Nat.cast_ofNat]
  exact mul_eq_left₀ hpos

theorem fit_of_fills (hle : ∀ length ∈ lengths, length ≤ maxLength) (h : Fills lengths) :
    Fit lengths :=
  ⟨hle, (of_decide_eq_true ((isComplete_iff hle).2 h)).le⟩

theorem fit_of_isSmall (hle : ∀ length ∈ lengths, length ≤ maxLength) {most : Nat}
    (h : IsSmall most lengths) : Fit lengths := by
  refine ⟨hle, ?_⟩
  have hweight := cast_weight hle
  rw [← @Nat.cast_le ℚ, hweight]
  rcases h with h | ⟨length, -, h⟩
  · rw [h]
    norm_num
  · have hshare : (1 / 2 : ℚ) ^ length ≤ 1 := pow_le_one₀ (by norm_num) (by norm_num)
    rw [h, List.map_singleton, List.sum_singleton, Nat.cast_pow, Nat.cast_ofNat]
    exact mul_le_of_le_one_right (by positivity) hshare

/-- **Which lengths have a code**: those that fill up everything, and, where that is allowed, those
of at most one string, which has one bit. -/
theorem exists_ofLengths?_iff (sparse : Bool) (hle : ∀ length ∈ lengths, length ≤ maxLength) :
    (∃ code, ofLengths? sparse lengths = some code) ↔
      Fills lengths ∨ sparse = true ∧ IsSmall 1 lengths := by
  have hcond : (isComplete lengths || (sparse && isSparse lengths)) = true ↔
      Fills lengths ∨ sparse = true ∧ IsSmall 1 lengths := by
    rw [Bool.or_eq_true, Bool.and_eq_true, isComplete_iff hle, isSparse_iff]
  rw [ofLengths?, ← hcond]
  split
  · rename_i h
    exact ⟨fun _ => h, fun _ => ⟨_, rfl⟩⟩
  · rename_i h
    exact ⟨nofun, fun h' => absurd h' h⟩

/-- At the start the first string of every length is free. -/
theorem nextNumbers_firstString (lengths : List Nat) :
    NextNumbers lengths [] ((List.range (maxLength + 1)).map (firstString lengths)) := by
  intro width hne hle
  rw [List.getElem?_map, List.getElem?_range (by omega), Option.map_some, firstString_eq]
  rfl

/-- **A symbol is read from its string and from nothing else.** -/
theorem symbol_eq_ok_iff_word {sparse : Bool} (hle : ∀ length ∈ lengths, length ≤ maxLength)
    (h : ofLengths? sparse lengths = some code) {s t : BitStream} :
    code.symbol s = .ok (x, t) ↔ HasWord lengths x ∧ s.Reads (word lengths x) t := by
  have hfit : Fit lengths := by
    rcases (exists_ofLengths?_iff sparse hle).1 ⟨code, h⟩ with hfills | ⟨-, hsmall⟩
    · exact fit_of_fills hle hfills
    · exact fit_of_isSmall hle hsmall
  have hspells : SpellsFirst lengths lengths.length code := by
    rw [ofLengths?] at h
    split at h
    · cases h
      have hnone : SpellsFirst lengths ([] : List Nat).length vacant := fun v y => by simp
      exact hfit.spellsFirst_addLengths lengths rfl (nextNumbers_firstString lengths) hnone
    · cases h
  rw [symbol_eq_ok_iff]
  constructor
  · rintro ⟨w, hw, hreads⟩
    obtain ⟨-, hword, rfl⟩ := (hspells w x).1 hw
    exact ⟨hword, hreads⟩
  · rintro ⟨hword, hreads⟩
    exact ⟨_, (hspells _ x).2 ⟨lt_length_of_hasWord hword, hword, rfl⟩, hreads⟩

end Code
end Deflate
end WebSso
