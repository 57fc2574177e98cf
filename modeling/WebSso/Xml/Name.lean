/-!
# Qualified names

A name in an XML document is a local name, before which a qualifier and a colon may stand.  The
qualifier says which namespace the name belongs to.

## What is here

* `QName`, with `QName.plain` for a name without qualifier;
* `QName.ofString`, which splits a name at its first colon, and `QName.qualified`, which writes it
  as it was;
* `samlp`, `saml`, `md` and `ds`, the names under the qualifiers that the library's documents use.
-/

set_option autoImplicit false
namespace WebSso

/-- A name with an optional qualifier. -/
structure QName where
  /-- What stands before the colon. -/
  qualifier : Option String
  /-- The name itself. -/
  localName : String
  deriving DecidableEq

namespace QName

/-- A name without qualifier. -/
def plain (name : String) : QName := ⟨none, name⟩

/-- The name that some text writes.  All after the first colon is the local name, further colons
included. -/
def ofString (text : String) : QName :=
  match text.toList.dropWhile (· != ':') with
  | [] => plain text
  | _ :: rest => ⟨some (String.ofList (text.toList.takeWhile (· != ':'))), String.ofList rest⟩

/-- The text of a name. -/
def qualified (name : QName) : String :=
  match name.qualifier with
  | none => name.localName
  | some qualifier => qualifier ++ ":" ++ name.localName

theorem dropWhile_eq_cons {α : Type} {p : α → Bool} {l : List α} {a : α} {rest : List α}
    (h : l.dropWhile p = a :: rest) : p a = false := by
  induction l with
  | nil => simp at h
  | cons b l ih =>
    rw [List.dropWhile_cons] at h
    split at h
    · exact ih h
    · next hb =>
      obtain ⟨rfl, -⟩ := List.cons.inj h
      simpa using hb

/-- **A name is written as it was read.** -/
theorem qualified_ofString (text : String) : (ofString text).qualified = text := by
  unfold ofString
  split
  · rfl
  · next c rest h =>
    have hc : c = ':' := by simpa using dropWhile_eq_cons h
    have split := List.takeWhile_append_dropWhile (p := (· != ':')) (l := text.toList)
    rw [h, hc] at split
    apply String.toList_inj.mp
    simpa [qualified] using split

/-- Names that read differently are written differently. -/
theorem ofString_injective {a b : String} (h : ofString a = ofString b) : a = b := by
  rw [← qualified_ofString a, h, qualified_ofString]

end QName

/-! ## The qualifiers of the library's documents -/

/-- A name of the protocol namespace. -/
def samlp (name : String) : QName := ⟨some "samlp", name⟩

/-- A name of the assertion namespace. -/
def saml (name : String) : QName := ⟨some "saml", name⟩

/-- A name of the metadata namespace. -/
def md (name : String) : QName := ⟨some "md", name⟩

/-- A name of the signature namespace. -/
def ds (name : String) : QName := ⟨some "ds", name⟩

end WebSso
