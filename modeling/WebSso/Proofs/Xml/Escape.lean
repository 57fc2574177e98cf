import Mathlib.Tactic.SplitIfs
import WebSso.Xml.Written

/-!
# Escaped text can be read back

Characters of markup are written as references.  Whatever the style of a document, a reader that
knows the references finds each character again and sees where it ends.  So text that is escaped up
to a delimiter is determined by what is written, and so is the place at which it ends.

## What is here

* `readReference`, the character that a text begins with;
* `flatMap_append_inj`, by which what is written item by item is determined item by item;
* `Escapes`, a way to write characters that can be read back and never begins with a delimiter, and
  `Escapes.text_append_inj`, which says that it loses nothing;
* `XmlStyle.Legible`, a style whose values and runs are escaped, and the two styles in use,
  `XmlStyle.legible_message` and `XmlStyle.legible_descriptor`.
-/

set_option autoImplicit false
namespace WebSso

/-! ## Reading a character -/

/-- The character that a text begins with, which may be written as a reference, and what comes
after it. -/
def readReference : List Char → Option (Char × List Char)
  | '&' :: 'l' :: 't' :: ';' :: rest => some ('<', rest)
  | '&' :: 'g' :: 't' :: ';' :: rest => some ('>', rest)
  | '&' :: 'a' :: 'm' :: 'p' :: ';' :: rest => some ('&', rest)
  | '&' :: 'a' :: 'p' :: 'o' :: 's' :: ';' :: rest => some ('\'', rest)
  | '&' :: 'q' :: 'u' :: 'o' :: 't' :: ';' :: rest => some ('"', rest)
  | '&' :: '#' :: 'x' :: 'A' :: ';' :: rest => some ('\n', rest)
  | '&' :: '#' :: 'x' :: 'D' :: ';' :: rest => some ('\r', rest)
  | '&' :: _ => none
  | c :: rest => some (c, rest)
  | [] => none

theorem readReference_cons {c : Char} (h : c ≠ '&') (rest : List Char) :
    readReference (c :: rest) = some (c, rest) := by
  rw [readReference.eq_def]
  split <;> simp_all

/-! ## Text up to a delimiter -/

/-- **Items written one after the other are determined**, if each is by itself, and if none can be
taken for what may follow the last of them. -/
theorem flatMap_append_inj {α β : Type} {write : α → List β} {Item : α → Prop}
    {Follows : List β → Prop}
    (hinj : ∀ x y t u, Item x → Item y → write x ++ t = write y ++ u → x = y ∧ t = u)
    (hfollows : ∀ x t, Item x → ¬Follows (write x ++ t)) {l m : List α} {r s : List β}
    (hl : ∀ x ∈ l, Item x) (hm : ∀ x ∈ m, Item x) (hr : Follows r) (hs : Follows s)
    (h : l.flatMap write ++ r = m.flatMap write ++ s) : l = m ∧ r = s := by
  induction l generalizing m with
  | nil =>
    cases m with
    | nil => exact ⟨rfl, h⟩
    | cons y m =>
      rw [List.flatMap_nil, List.nil_append, List.flatMap_cons, List.append_assoc] at h
      exact absurd (h ▸ hr) (hfollows y _ (hm y List.mem_cons_self))
  | cons x l ih =>
    have hx := hl x List.mem_cons_self
    cases m with
    | nil =>
      rw [List.flatMap_nil, List.nil_append, List.flatMap_cons, List.append_assoc] at h
      exact absurd (h ▸ hs) (hfollows x _ hx)
    | cons y m =>
      rw [List.flatMap_cons, List.flatMap_cons, List.append_assoc, List.append_assoc] at h
      obtain ⟨rfl, hrest⟩ := hinj x y _ _ hx (hm y List.mem_cons_self) h
      obtain ⟨rfl, hrs⟩ := ih (fun z hz => hl z (List.mem_cons_of_mem _ hz))
        (fun z hz => hm z (List.mem_cons_of_mem _ hz)) hrest
      exact ⟨rfl, hrs⟩

/-- Text that ends, or goes on with a delimiter. -/
def StopsAt (stop : Char) (text : List Char) : Prop := ∀ c ∈ text.head?, c = stop

theorem stopsAt_nil (stop : Char) : StopsAt stop [] := by simp [StopsAt]

theorem stopsAt_cons (stop : Char) (rest : List Char) : StopsAt stop (stop :: rest) := by
  simp [StopsAt]

/-- A way to write characters, each of which is read back and none of which begins with the
delimiter. -/
structure Escapes (write : Char → List Char) (stop : Char) : Prop where
  /-- What is written is read back. -/
  read (c : Char) (rest : List Char) : readReference (write c ++ rest) = some (c, rest)
  /-- It is not taken for the delimiter. -/
  head (c : Char) (rest : List Char) : (write c ++ rest).head? ≠ some stop

namespace Escapes
variable {write : Char → List Char} {stop : Char}

theorem not_stopsAt (h : Escapes write stop) (c : Char) (rest : List Char) :
    ¬StopsAt stop (write c ++ rest) := by
  intro hstop
  cases htext : write c ++ rest with
  | nil =>
    have hread := h.read c rest
    rw [htext] at hread
    cases hread
  | cons d tail =>
    have hd : d = stop := hstop d (by rw [htext]; rfl)
    exact h.head c rest (by rw [htext, hd]; rfl)

theorem append_inj (h : Escapes write stop) {c d : Char} {t u : List Char}
    (heq : write c ++ t = write d ++ u) : c = d ∧ t = u := by
  have hread := congrArg readReference heq
  rw [h.read, h.read] at hread
  exact Prod.mk.inj (Option.some.inj hread)

/-- **Escaped text is determined up to its delimiter**: which characters it has, and what comes
after it. -/
theorem text_append_inj (h : Escapes write stop) {a b : String} {r s : List Char}
    (hr : StopsAt stop r) (hs : StopsAt stop s)
    (heq : a.toList.flatMap write ++ r = b.toList.flatMap write ++ s) : a = b ∧ r = s := by
  have hlists := flatMap_append_inj (fun _ _ _ _ _ _ heq => h.append_inj heq)
    (fun c t _ => h.not_stopsAt c t) (fun _ _ => trivial) (fun _ _ => trivial) hr hs heq
  exact ⟨String.toList_inj.mp hlists.1, hlists.2⟩

end Escapes

/-! ## The styles in use -/

namespace XmlStyle

theorem escapes_reference : Escapes reference '<' where
  read c rest := by
    rw [reference]
    split_ifs with hlt hgt hamp
    · subst hlt; rfl
    · subst hgt; rfl
    · subst hamp; rfl
    · exact readReference_cons hamp rest
  head c rest := by
    rw [reference]
    split_ifs with hlt <;> simp [hlt]

/-- With quotes written as references too, quotes and angle brackets can both be delimiters. -/
theorem escapes_quotedReference {stop : Char} (h : stop = '"' ∨ stop = '<') :
    Escapes quotedReference stop where
  read c rest := by
    rw [quotedReference]
    split_ifs with hapos hquot
    · subst hapos; rfl
    · subst hquot; rfl
    · exact escapes_reference.read c rest
  head c rest := by
    rw [quotedReference, reference]
    rcases h with rfl | rfl <;> split_ifs <;> simp_all

theorem escapes_lineReference : Escapes lineReference '"' where
  read c rest := by
    rw [lineReference]
    split_ifs with hfeed hreturn
    · subst hfeed; rfl
    · subst hreturn; rfl
    · exact (escapes_quotedReference (Or.inl rfl)).read c rest
  head c rest := by
    rw [lineReference]
    split_ifs
    · simp
    · simp
    · exact (escapes_quotedReference (Or.inl rfl)).head c rest

/-- A style in which values end at a quote and runs of text at a tag, and in which the end of an
empty tag is not taken for an attribute. -/
structure Legible (style : XmlStyle) : Prop where
  /-- A value ends at the first quote. -/
  values : Escapes style.inAttribute '"'
  /-- A run of text ends at the first `<`. -/
  runs : Escapes style.inText '<'
  /-- The end of an empty tag. -/
  emptyEnd : style.emptyEnd = ['/', '>'] ∨ style.emptyEnd = [' ', '/', '>']

theorem legible_message : message.Legible :=
  ⟨escapes_quotedReference (Or.inl rfl), escapes_quotedReference (Or.inr rfl), Or.inl rfl⟩

theorem legible_descriptor : descriptor.Legible :=
  ⟨escapes_lineReference, escapes_reference, Or.inr rfl⟩

end XmlStyle
end WebSso
