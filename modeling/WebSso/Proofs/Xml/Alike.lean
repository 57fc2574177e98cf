import Mathlib.Data.List.Forall2
import Mathlib.Data.List.Nodup
import WebSso.MessageId
import WebSso.Proofs.Signature.Place
import WebSso.Proofs.Xml.Build
import WebSso.Proofs.Xml.Report

/-!
# Documents that differ in what they answer

A response to a request says in its attributes `InResponseTo` what it answers; one without a request
has no such attribute.  Once a part is signed, its digest and the value of its signature differ too,
both of them bytes in base64.  That is all there is between the two documents, and nothing of it
decides whether an element can be signed or written.

## What is here

* `Element.Alike`, elements that differ in this way, and what keeps them alike: `addChildren`,
  `attr?_inResponseTo`, `insertSignature`, `signatureElement_alike`;
* what they have in common: `Element.Alike.signableId_eq`, under which ID they can be signed, and
  `Element.Alike.wellFormed_iff`, whether they are documents.
-/

set_option autoImplicit false
namespace WebSso

open XmlProcessor (isXmlChar isName)

/-! ## Options that are related -/

section Option

variable {α β γ δ : Type} {R : α → β → Prop} {S : γ → δ → Prop} {x : Option α} {y : Option β}

theorem rel_map (h : Option.Rel R x y) {f : α → γ} {g : β → δ}
    (hfg : ∀ a b, R a b → S (f a) (g b)) : Option.Rel S (x.map f) (y.map g) := by
  cases h with
  | none => exact .none
  | some h => exact .some (hfg _ _ h)

theorem rel_getD (h : Option.Rel R x y) {a : α} {b : β} (hab : R a b) :
    R (x.getD a) (y.getD b) := by
  cases h with
  | none => exact hab
  | some h => exact h

end Option

/-! ## What may differ -/

/-- An attribute that says what is answered, by an ID that was drawn. -/
def answerAttribute (draw : Draw) : Attribute := ⟨.plain "InResponseTo", messageId draw⟩

/-- A tag does not say what is answered, in whatever way its names are written. -/
def Tag.Silent (tag : Tag) : Prop := "InResponseTo" ∉ tag.written.map (·.name.qualified)

instance (tag : Tag) : Decidable tag.Silent :=
  inferInstanceAs (Decidable ("InResponseTo" ∉ tag.written.map (·.name.qualified)))

/-- Tags that are the same, or of which the first does not say what is answered and the second does
so at its end. -/
def Tag.Alike (a b : Tag) : Prop :=
  b = a ∨ a.Silent ∧ ∃ draw, b = { a with attributes := a.attributes ++ [answerAttribute draw] }

/-- Runs of text that are the same, or both are bytes in base64. -/
def RunAlike (run other : String) : Prop :=
  other = run ∨ ∃ bytes more, run = Base64.encode bytes ∧ other = Base64.encode more

/-- Content that is alike in every run of text and in every tag. -/
inductive Content.Alike : Content → Content → Prop where
  /-- Nothing more on either side. -/
  | done : Alike .done .done
  /-- A run of text on both sides. -/
  | text {run other : String} {c d : Content} (run_alike : RunAlike run other)
      (rest_alike : Alike c d) : Alike (.text run c) (.text other d)
  /-- An element on both sides. -/
  | element {a b : Tag} {inner other c d : Content} (tag_alike : a.Alike b)
      (inner_alike : Alike inner other) (rest_alike : Alike c d) :
      Alike (.element a inner c) (.element b other d)

/-- Elements that differ in nothing but what they answer and what is in base64. -/
structure Element.Alike (e f : Element) : Prop where
  /-- The tags are alike. -/
  tag : e.tag.Alike f.tag
  /-- What stands inside is alike. -/
  content : e.content.Alike f.content

/-! ## Tags -/

/-- An attribute that is not there yet comes last. -/
theorem setAttributeIn_of_forall_ne {name : QName} {l : List Attribute} (h : ∀ a ∈ l, a.name ≠ name)
    (value : String) : setAttributeIn name value l = l ++ [⟨name, value⟩] := by
  induction l with
  | nil => rfl
  | cons a rest ih =>
    rw [List.forall_mem_cons] at h
    rw [setAttributeIn, if_neg h.1, ih h.2, List.cons_append]

theorem isXmlText_messageId (draw : Draw) : IsXmlText (messageId draw) := by
  have hdigits (width n : Nat) : ∀ c ∈ hexDigits width n, isXmlChar c = true := by
    induction width generalizing n with
    | zero => exact nofun
    | succ width ih =>
      have hlast : ∀ digit < 16, isXmlChar (Nat.digitChar digit) = true := by decide
      intro c hc
      rcases List.mem_append.1 hc with hc | hc
      · exact ih (n / 16) c hc
      · rw [List.mem_singleton.1 hc]
        exact hlast _ (Nat.mod_lt n (by decide))
  rw [IsXmlText, messageId, String.toList_ofList]
  exact List.forall_mem_cons.2 ⟨by decide, hdigits 32 draw.toNat⟩

namespace Tag.Alike

variable {a b : Tag}

theorem refl (a : Tag) : a.Alike a := Or.inl rfl

theorem name_eq (h : a.Alike b) : b.name = a.name := by
  obtain rfl | ⟨-, draw, rfl⟩ := h
  · rfl
  · rfl

/-- Any other attribute is the same. -/
theorem find?_eq (h : a.Alike b) {name : QName} (hname : name ≠ .plain "InResponseTo") :
    (b.attributes.find? fun entry => entry.name == name)
      = a.attributes.find? fun entry => entry.name == name := by
  obtain rfl | ⟨-, draw, rfl⟩ := h
  · rfl
  · have hother : ((answerAttribute draw).name == name) = false := by
      simpa [answerAttribute] using hname.symm
    simp [List.find?_append, hother]

/-- What is answered is no obstacle to writing a tag: it is a name that is not there yet, with a
text. -/
theorem wellFormed_iff (h : a.Alike b) : b.WellFormed ↔ a.WellFormed := by
  obtain rfl | ⟨hsilent, draw, rfl⟩ := h
  · rfl
  have hwritten : Tag.written { a with attributes := a.attributes ++ [answerAttribute draw] }
      = a.written ++ [answerAttribute draw] := by
    rw [Tag.written, Tag.written, List.append_assoc]
  have hname : isName (answerAttribute draw).name.qualified.toList = true := by
    change isName "InResponseTo".toList = true
    decide
  have hnodup : ((a.written ++ [answerAttribute draw]).map (·.name.qualified)).Nodup ↔
      (a.written.map (·.name.qualified)).Nodup := by
    rw [List.map_append, List.map_singleton, List.nodup_append_comm, List.singleton_append,
      List.nodup_cons]
    exact and_iff_right hsilent
  have hvalue : IsXmlText (answerAttribute draw).value := isXmlText_messageId draw
  rw [Tag.wellFormed_iff, Tag.wellFormed_iff, hwritten, hnodup]
  simp only [List.forall_mem_append, List.forall_mem_singleton, hname, hvalue, and_true]

end Tag.Alike

/-! ## Content -/

theorem isXmlText_encode (bytes : Bytes) : IsXmlText (Base64.encode bytes) :=
  Base64.forall_mem_encode (Base64.forall_mem_alphabet.2 (by decide)) (by decide) bytes

theorem RunAlike.isXmlText_iff {run other : String} (h : RunAlike run other) :
    IsXmlText other ↔ IsXmlText run := by
  obtain rfl | ⟨bytes, more, rfl, rfl⟩ := h
  · rfl
  · exact iff_of_true (isXmlText_encode more) (isXmlText_encode bytes)

namespace Content.Alike

theorem refl (c : Content) : c.Alike c := by
  induction c with
  | done => exact .done
  | text run rest ih => exact .text (Or.inl rfl) ih
  | element tag inner rest ihinner ihrest => exact .element (.refl tag) ihinner ihrest

theorem append {c d c' d' : Content} (h : c.Alike d) (h' : c'.Alike d') :
    (c ++ c').Alike (d ++ d') := by
  induction h with
  | done => exact h'
  | text hrun _ ih => exact .text hrun ih
  | element htag hinner _ _ ih => exact .element htag hinner ih

theorem ofElements {l m : List Element} (h : List.Forall₂ Element.Alike l m) :
    (Content.ofElements l).Alike (Content.ofElements m) := by
  induction h with
  | nil => exact .done
  | cons hfirst _ ih => exact .element hfirst.tag hfirst.content ih

/-- The elements have the same names. -/
theorem names_eq {c d : Content} (h : c.Alike d) :
    d.elements.map (·.name) = c.elements.map (·.name) := by
  induction h with
  | done => rfl
  | text _ _ ih => exact ih
  | element htag _ _ _ ih => exact congrArg₂ List.cons htag.name_eq ih

/-- An element gets to the same place in both. -/
theorem insertBehind? {c d : Content} (h : c.Alike d) (localName : String) {new other : Element}
    (hnew : new.Alike other) :
    Option.Rel Content.Alike (c.insertBehind? localName new)
      (d.insertBehind? localName other) := by
  induction h with
  | done => exact .none
  | text hrun _ ih => exact rel_map ih fun _ _ hrest => .text hrun hrest
  | @element a b inner inner' rest rest' htag hinner hrest _ ih =>
    rw [Content.insertBehind?, Content.insertBehind?, htag.name_eq]
    split
    · exact .some (.element htag hinner (.element hnew.tag hnew.content hrest))
    · exact rel_map ih fun _ _ hrest => .element htag hinner hrest

/-- Both can be written or neither can. -/
theorem wellFormed_iff {c d : Content} (h : c.Alike d) : d.WellFormed ↔ c.WellFormed := by
  induction h with
  | done => rfl
  | text hrun _ ih => exact and_congr hrun.isXmlText_iff ih
  | element htag _ _ ihinner ihrest => exact and_congr htag.wellFormed_iff (and_congr ihinner ihrest)

end Content.Alike

/-! ## Elements -/

namespace Element.Alike

variable {e f : Element}

theorem refl (e : Element) : e.Alike e := ⟨.refl e.tag, .refl e.content⟩

theorem addChildren (h : e.Alike f) {l m : List Element} (hchildren : List.Forall₂ Alike l m) :
    (e.addChildren l).Alike (f.addChildren m) :=
  ⟨h.tag, h.content.append (.ofElements hchildren)⟩

theorem addChild (h : e.Alike f) {child other : Element} (hchild : child.Alike other) :
    (e.addChild child).Alike (f.addChild other) :=
  ⟨h.tag, h.content.append (.element hchild.tag hchild.content .done)⟩

/-- Text in base64 makes no difference. -/
theorem addText (h : e.Alike f) (bytes more : Bytes) :
    (e.addText (Base64.encode bytes)).Alike (f.addText (Base64.encode more)) :=
  ⟨h.tag, h.content.append (.text (Or.inr ⟨bytes, more, rfl, rfl⟩) .done)⟩

/-- What is answered makes no difference to an element that did not say it. -/
theorem attr?_inResponseTo (h : e.tag.Silent) (draw : Draw) :
    (e.attr? "InResponseTo" none).Alike (e.attr? "InResponseTo" (some (messageId draw))) := by
  refine ⟨Or.inr ⟨h, draw, ?_⟩, .refl e.content⟩
  have hnew : ∀ a ∈ e.tag.attributes, a.name ≠ .plain "InResponseTo" := fun a ha hname =>
    h (List.mem_map.2 ⟨a, List.mem_append_right _ ha, congrArg QName.qualified hname⟩)
  exact congrArg (Tag.mk e.tag.name e.tag.namespaces) (setAttributeIn_of_forall_ne hnew _)

theorem insertSignature (h : e.Alike f) {signature other : Element}
    (hsignature : signature.Alike other) :
    (WebSso.insertSignature signature e).Alike (WebSso.insertSignature other f) := by
  refine ⟨h.tag, rel_getD (h.content.insertBehind? "Issuer" hsignature) ?_⟩
  exact .append (.element hsignature.tag hsignature.content .done) h.content

/-- They can be signed under the same ID, or neither can. -/
theorem signableId_eq (h : e.Alike f) : f.signableId = e.signableId := by
  have hother : QName.plain "ID" ≠ .plain "InResponseTo" := by decide
  have hid : f.attribute? "ID" = e.attribute? "ID" := by
    rw [Element.attribute?, Element.attribute?, h.tag.find?_eq hother]
  have hsigned : (f.children.any fun child => child.name.localName == "Signature")
      = e.children.any fun child => child.name.localName == "Signature" := by
    have hnames := congrArg (List.any · fun name => name.localName == "Signature")
      h.content.names_eq
    simpa [Element.children, List.any_map, Function.comp_def] using hnames
  rw [Element.signableId, Element.signableId, hid, hsigned]

/-- **Both are documents or neither is.** -/
theorem wellFormed_iff (h : e.Alike f) : f.WellFormed ↔ e.WellFormed :=
  and_congr h.tag.wellFormed_iff h.content.wellFormed_iff

end Element.Alike

/-! ## Signatures -/

/-- Signatures by different digests, without a value or with values that may differ. -/
theorem signatureElement_alike (id : String) (digest other certificate : Bytes)
    (options : SignatureOptions) {value value' : Option String}
    (hvalue : (Signature.valueElement value).Alike (Signature.valueElement value')) :
    (signatureElement id (Base64.encode digest) certificate options value).Alike
      (signatureElement id (Base64.encode other) certificate options value') := by
  have hdigest := (Element.Alike.refl (Element.named (ds "DigestValue"))).addText digest other
  have hreference : (Signature.referenceElement id (Base64.encode digest) options).Alike
      (Signature.referenceElement id (Base64.encode other) options) :=
    (Element.Alike.refl _).addChildren (.cons (.refl _) (.cons (.refl _) (.cons hdigest .nil)))
  have hinfo : (Signature.signedInfoElement id (Base64.encode digest) options).Alike
      (Signature.signedInfoElement id (Base64.encode other) options) :=
    (Element.Alike.refl _).addChildren (.cons (.refl _) (.cons (.refl _) (.cons hreference .nil)))
  exact (Element.Alike.refl _).addChildren (.cons hinfo (.cons hvalue (.cons (.refl _) .nil)))

/-- **Elements that are alike are alike once they are signed**, each in its own way. -/
theorem SignedBy.alike {denied : DenyList} {signer : Signer} {certificate : Bytes}
    {options : SignatureOptions} {e f : Element} {digest value other value' : Bytes}
    {d d' : SignedDocument} (h : e.Alike f)
    (hd : SignedBy denied signer certificate options e digest value d)
    (hd' : SignedBy denied signer certificate options f other value' d') :
    d.element.Alike d'.element := by
  have hid : d'.referenceId = d.referenceId := by
    have hsignable := hd'.signable
    rw [h.signableId_eq, hd.signable] at hsignable
    exact (Except.ok.inj hsignable).symm
  rw [hd.document_eq, hd'.document_eq, hid]
  refine h.insertSignature (signatureElement_alike _ digest other certificate options ?_)
  exact (Element.Alike.refl _).addText value value'

end WebSso
