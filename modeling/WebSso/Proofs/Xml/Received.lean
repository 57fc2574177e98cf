import WebSso.Proofs.Xml.Processor
import WebSso.Proofs.Xml.Tag

/-!
# What is received of a text

A text that is written with its markup as references is not always received as it was.  Line ends
become line feeds, in the value of an attribute white space becomes blanks, and a writer who refers
to the characters of markup only prevents neither.  What is received is determined all the same, and
so is which texts are received as they were.

## What is here

* `receivedText` and `receivedValue`, what is received of character data and of a value, with
  `receivedText_eq_self_iff` and `receivedValue_eq_self_iff`;
* `Report.received`, what is received of what was meant, and `Report.Survives`, which holds if it is
  the same;
* `Content.reports` and `Element.reports`, what the writer of a tree means to be reported;
* `Item.written`, the item that a character is written as, with `normalizeLineEnds_quoted` and
  `Item.read_quoted`: the items of a text are what its line ends make of it.
-/

set_option autoImplicit false
namespace WebSso
namespace XmlProcessor

/-! ## Line ends -/

theorem normalizeLineEnds_cons {c : Char} (h : c ≠ '\r') (rest : List Char) :
    normalizeLineEnds (c :: rest) = c :: normalizeLineEnds rest := by
  rw [normalizeLineEnds.eq_def]
  split <;> simp_all

theorem normalizeLineEnds_return {rest : List Char} (h : rest.head? ≠ some '\n') :
    normalizeLineEnds ('\r' :: rest) = '\n' :: normalizeLineEnds rest := by
  cases rest with
  | nil => rfl
  | cons c rest =>
    have hc : c ≠ '\n' := fun hc => h (congrArg some hc)
    simp [normalizeLineEnds, hc]

/-- Nothing happens up to the first carriage return. -/
theorem normalizeLineEnds_append {text : List Char} (h : '\r' ∉ text) (rest : List Char) :
    normalizeLineEnds (text ++ rest) = text ++ normalizeLineEnds rest := by
  induction text with
  | nil => rfl
  | cons c text ih =>
    rw [List.mem_cons, not_or] at h
    rw [List.cons_append, normalizeLineEnds_cons (Ne.symm h.1), ih h.2, List.cons_append]

theorem return_notMem_normalizeLineEnds (text : List Char) : '\r' ∉ normalizeLineEnds text := by
  fun_induction normalizeLineEnds text <;> simp_all [eq_comm]

/-- What holds of all characters of a text holds of them afterwards, if it holds of line feeds. -/
theorem forall_mem_normalizeLineEnds {P : Char → Prop} (hfeed : P '\n') {text : List Char}
    (h : ∀ c ∈ text, P c) : ∀ c ∈ normalizeLineEnds text, P c := by
  fun_induction normalizeLineEnds text <;> simp_all

theorem normalizeLineEnds_eq_self_iff (text : List Char) :
    normalizeLineEnds text = text ↔ '\r' ∉ text := by
  constructor
  · intro h
    rw [← h]
    exact return_notMem_normalizeLineEnds text
  · intro h
    simpa [normalizeLineEnds] using normalizeLineEnds_append h []

theorem normalizeLineEnds_eq_nil_iff (text : List Char) :
    normalizeLineEnds text = [] ↔ text = [] := by
  fun_cases normalizeLineEnds text <;> simp

/-! ## Texts as they are received -/

theorem map_eq_self_iff {α : Type} {f : α → α} {l : List α} :
    l.map f = l ↔ ∀ x ∈ l, f x = x := by
  simpa using List.map_inj_left (l := l) (f := f) (g := id)

/-- What is received of character data. -/
def receivedText (text : String) : String := String.ofList (normalizeLineEnds text.toList)

/-- What is received of the value of an attribute. -/
def receivedValue (value : String) : String :=
  String.ofList ((normalizeLineEnds value.toList).map fun c => if isSpace c then ' ' else c)

/-- **Character data is received as it was** if there is no carriage return in it. -/
theorem receivedText_eq_self_iff (text : String) :
    receivedText text = text ↔ '\r' ∉ text.toList := by
  rw [receivedText, ← String.toList_inj, String.toList_ofList, normalizeLineEnds_eq_self_iff]

/-- Text whose white space is all blanks. -/
def OnlyBlanks (text : String) : Prop := ∀ c ∈ text.toList, isSpace c = true → c = ' '

instance (text : String) : Decidable (OnlyBlanks text) :=
  decidable_of_iff (text.toList.all (fun c => !isSpace c || c == ' ') = true)
    (by simp [OnlyBlanks, Decidable.imp_iff_not_or])

/-- **A value is received as it was** if all its white space is blanks. -/
theorem receivedValue_eq_self_iff (value : String) :
    receivedValue value = value ↔ OnlyBlanks value := by
  rw [receivedValue, ← String.toList_inj, String.toList_ofList]
  constructor
  · intro h
    rw [OnlyBlanks, ← h]
    simp only [List.forall_mem_map]
    intro c _ hspace
    split at hspace
    · next hc => rw [if_pos hc]
    · next hc => exact absurd hspace hc
  · intro h
    have hreturn : '\r' ∉ value.toList := fun hmem => absurd (h _ hmem rfl) (by decide)
    rw [(normalizeLineEnds_eq_self_iff _).mpr hreturn, map_eq_self_iff]
    intro c hc
    split
    · next hspace => exact (h c hc hspace).symm
    · rfl

theorem receivedText_eq_empty_iff (text : String) : receivedText text = "" ↔ text = "" := by
  rw [receivedText, ← String.toList_inj, ← String.toList_inj, String.toList_ofList]
  exact normalizeLineEnds_eq_nil_iff _

namespace Report

/-- What is received of what was meant. -/
def received : Report → Report
  | start name attributes => start name (attributes.map fun (name, v) => (name, receivedValue v))
  | text run => text (receivedText run)
  | stop name => stop name

/-- What is received as it was meant. -/
def Survives : Report → Prop
  | start _ attributes => ∀ a ∈ attributes, OnlyBlanks a.2
  | text run => '\r' ∉ run.toList
  | stop _ => True

instance : DecidablePred Survives
  | start _ attributes => inferInstanceAs (Decidable (∀ a ∈ attributes, OnlyBlanks a.2))
  | text run => inferInstanceAs (Decidable ('\r' ∉ run.toList))
  | stop _ => isTrue trivial

theorem received_eq_self_iff (said : Report) : said.received = said ↔ said.Survives := by
  cases said with
  | start name attributes =>
    simp only [received, Survives, start.injEq, true_and, map_eq_self_iff, Prod.ext_iff,
      receivedValue_eq_self_iff]
  | text run => simp only [received, Survives, text.injEq, receivedText_eq_self_iff]
  | stop name => simp only [received, Survives]

end Report

theorem map_received_textReports (run : String) :
    (textReports run).map Report.received = textReports (receivedText run) := by
  by_cases h : run = ""
  · subst h; rfl
  · rw [textReports, textReports, if_neg h, if_neg (h ∘ (receivedText_eq_empty_iff run).mp)]
    rfl

/-! ## References -/

/-- The item that a character is written as in a message. -/
def Item.written (c : Char) : Item :=
  if c ∈ ['<', '>', '&', '\'', '"'] then .referenced c else .literal c

theorem return_notMem_quotedReference {c : Char} (h : c ≠ '\r') :
    '\r' ∉ XmlStyle.quotedReference c := by
  rw [XmlStyle.quotedReference, XmlStyle.reference]
  split_ifs <;> simp [Ne.symm h]

theorem head?_quotedReference_append {c : Char} (h : c ≠ '\n') (rest : List Char) :
    (XmlStyle.quotedReference c ++ rest).head? ≠ some '\n' := by
  rw [XmlStyle.quotedReference, XmlStyle.reference]
  split_ifs <;> simp [h]

/-- **Line ends are the same before and behind references**: a text may be written after what its
line ends make of it. -/
theorem normalizeLineEnds_quoted (text : List Char) {rest : List Char}
    (hrest : rest.head? ≠ some '\n') :
    normalizeLineEnds (text.flatMap XmlStyle.quotedReference ++ rest)
      = (normalizeLineEnds text).flatMap XmlStyle.quotedReference ++ normalizeLineEnds rest := by
  have hreturn : XmlStyle.quotedReference '\r' = ['\r'] := by decide
  have hfeed : XmlStyle.quotedReference '\n' = ['\n'] := by decide
  fun_induction normalizeLineEnds text with
  | case1 => rfl
  | case2 text ih => simp [hreturn, hfeed, normalizeLineEnds, ih]
  | case3 text htext ih =>
    have hhead : (text.flatMap XmlStyle.quotedReference ++ rest).head? ≠ some '\n' := by
      cases text with
      | nil => exact hrest
      | cons c text =>
        rw [List.flatMap_cons, List.append_assoc]
        exact head?_quotedReference_append (fun hc => htext text (by rw [hc])) _
    simp [hreturn, hfeed, normalizeLineEnds_return hhead, ih]
  | case4 c text _ hc ih =>
    rw [List.flatMap_cons, List.append_assoc,
      normalizeLineEnds_append (return_notMem_quotedReference hc), ih, List.flatMap_cons,
      List.append_assoc]

namespace Item

theorem read_literal {c : Char} (hxml : isXmlChar c = true) (hamp : c ≠ '&') (rest : List Char) :
    read none (c :: rest) = (read none rest).map (literal c :: ·) := by
  rw [read, if_neg hamp, if_pos hxml]

theorem read_quotedReference {c : Char} (hxml : isXmlChar c = true) (rest : List Char) :
    read none (XmlStyle.quotedReference c ++ rest) = (read none rest).map (written c :: ·) := by
  rw [XmlStyle.quotedReference, XmlStyle.reference]
  split_ifs with hapos hquot hlt hgt hamp
  · subst hapos; rfl
  · subst hquot; rfl
  · subst hlt; rfl
  · subst hgt; rfl
  · subst hamp; rfl
  · rw [written, if_neg (by simp [hapos, hquot, hlt, hgt, hamp])]
    exact read_literal hxml hamp rest

theorem read_quoted {text : List Char} (hxml : ∀ c ∈ text, isXmlChar c = true)
    (rest : List Char) :
    read none (text.flatMap XmlStyle.quotedReference ++ rest)
      = (read none rest).map (text.map written ++ ·) := by
  induction text with
  | nil => simp
  | cons c text ih =>
    rw [List.forall_mem_cons] at hxml
    rw [List.flatMap_cons, List.append_assoc, read_quotedReference hxml.1, ih hxml.2,
      Option.map_map]
    rfl

/-- Markup is never written as it stands. -/
theorem written_ne_literal (c : Char) {d : Char} (h : d ∈ ['<', '>', '&', '\'', '"']) :
    written c ≠ literal d := by
  rw [written]
  split
  · simp
  · next hc =>
    intro heq
    exact hc (literal.inj heq ▸ h)

theorem inText_written (c : Char) : (written c).inText = c := by
  rw [written]
  split <;> rfl

theorem inValue_written (c : Char) : (written c).inValue = if isSpace c then ' ' else c := by
  rw [written]
  split
  · next hc =>
    have hspace : isSpace c = false := by
      revert hc
      simp only [List.mem_cons, List.not_mem_nil, or_false]
      rintro (rfl | rfl | rfl | rfl | rfl) <;> rfl
    rw [inValue, hspace, if_neg Bool.false_ne_true]
  · rfl

end Item
end XmlProcessor

/-! ## What is meant -/

open XmlProcessor

/-- What an element means to be reported, around what its content does. -/
def Tag.around (tag : Tag) (inside : List Report) : List Report :=
  .start tag.name.qualified (tag.written.map fun a => (a.name.qualified, a.value))
    :: (inside ++ [.stop tag.name.qualified])

/-- What content means to be reported, behind some text.  Runs next to each other are one. -/
def Content.reports (pending : String) : Content → List Report
  | done => textReports pending
  | text run rest => rest.reports (pending ++ run)
  | element tag inner rest =>
    textReports pending ++ (tag.around (inner.reports "") ++ rest.reports "")

/-- What an element means to be reported. -/
def Element.reports (e : Element) : List Report := e.tag.around (e.content.reports "")

end WebSso
