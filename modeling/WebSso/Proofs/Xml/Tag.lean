import WebSso.Proofs.Xml.Escape

/-!
# Tags can be read back

A name ends where a character comes that no name has, and a value at its quote, so that the start
of a tag can be taken apart again.  A declaration is written as an attribute of a reserved name.
What tells the declarations from the attributes is that no attribute has such a name.

## What is here

* `Unbroken` text, which has no character at which a name ends, and `QName.Readable`, the names read
  from such text;
* `NamespaceDecl.asAttribute`, the attribute as which a declaration is written;
* `Tag.Readable`, the tags whose names are readable and whose attributes have no reserved name, and
  `Tag.writeStart_append_inj`, by which such a tag is determined by its text.
-/

set_option autoImplicit false
namespace WebSso

/-! ## Names -/

/-- The characters of a name: no white space, no quote, and none that ends a name in a tag or
begins a reference. -/
def isNameChar (c : Char) : Bool :=
  !(c.isWhitespace || ['"', '\'', '<', '>', '/', '=', '&'].contains c)

/-- Text of characters of names only. -/
def Unbroken (text : String) : Prop := ∀ c ∈ text.toList, isNameChar c = true

instance (text : String) : Decidable (Unbroken text) :=
  decidable_of_iff (text.toList.all isNameChar = true) List.all_eq_true

/-- Text that ends, or goes on with a character that no name has. -/
def EndsName (text : List Char) : Prop := ∀ c ∈ text.head?, isNameChar c = false

/-- A list up to the first element without a property, if there is one. -/
theorem append_inj_of_stop {α : Type} {p : α → Bool} {a b r s : List α} (ha : ∀ x ∈ a, p x = true)
    (hb : ∀ x ∈ b, p x = true) (hr : ∀ x ∈ r.head?, p x = false) (hs : ∀ x ∈ s.head?, p x = false)
    (h : a ++ r = b ++ s) : a = b ∧ r = s := by
  have taken {l t : List α} (hl : ∀ x ∈ l, p x = true) (ht : ∀ x ∈ t.head?, p x = false) :
      (l ++ t).takeWhile p = l := by
    rw [List.takeWhile_append_of_pos hl]
    cases t with
    | nil => simp
    | cons x t => simp [ht x rfl]
  have hab : a = b := by rw [← taken ha hr, h, taken hb hs]
  subst hab
  exact ⟨rfl, List.append_cancel_left h⟩

theorem unbroken_append_inj {a b : String} {r s : List Char} (ha : Unbroken a) (hb : Unbroken b)
    (hr : EndsName r) (hs : EndsName s) (h : a.toList ++ r = b.toList ++ s) : a = b ∧ r = s := by
  have hlists := append_inj_of_stop ha hb hr hs h
  exact ⟨String.toList_inj.mp hlists.1, hlists.2⟩

namespace QName

/-- A name is split at its first colon. -/
theorem ofString_colon {qualifier : String} (h : ':' ∉ qualifier.toList) (localName : String) :
    ofString (qualifier ++ ":" ++ localName) = ⟨some qualifier, localName⟩ := by
  have hkept : ∀ c ∈ qualifier.toList, (c != ':') = true := by
    intro c hc
    simpa using fun heq : c = ':' => h (heq ▸ hc)
  have htext : (qualifier ++ ":" ++ localName).toList
      = qualifier.toList ++ ':' :: localName.toList := by
    simp
  rw [ofString, htext, List.dropWhile_append_of_pos hkept, List.takeWhile_append_of_pos hkept]
  simp

/-- A name read from text that is not empty and unbroken. -/
def Readable (name : QName) : Prop :=
  ∃ text : String, text ≠ "" ∧ Unbroken text ∧ ofString text = name

theorem readable_iff (name : QName) :
    name.Readable ↔ name.qualified ≠ "" ∧ Unbroken name.qualified ∧
      ofString name.qualified = name := by
  constructor
  · rintro ⟨text, hne, hunbroken, rfl⟩
    rw [qualified_ofString]
    exact ⟨hne, hunbroken, rfl⟩
  · rintro ⟨hne, hunbroken, hread⟩
    exact ⟨_, hne, hunbroken, hread⟩

instance (name : QName) : Decidable name.Readable := decidable_of_iff _ (readable_iff name).symm

namespace Readable
variable {a b : QName}

theorem unbroken (h : a.Readable) : Unbroken a.qualified := ((readable_iff a).mp h).2.1

/-- A readable name begins with a character of names. -/
theorem exists_head (h : a.Readable) :
    ∃ c rest, a.qualified.toList = c :: rest ∧ isNameChar c = true := by
  cases htext : a.qualified.toList with
  | nil => exact absurd (String.toList_inj.mp htext) ((readable_iff a).mp h).1
  | cons c rest => exact ⟨c, rest, rfl, h.unbroken c (by rw [htext]; exact List.mem_cons_self)⟩

theorem eq_of_qualified_eq (ha : a.Readable) (hb : b.Readable) (h : a.qualified = b.qualified) :
    a = b := by
  rw [← ((readable_iff a).mp ha).2.2, h, ((readable_iff b).mp hb).2.2]

end Readable

/-! ## Reserved names -/

/-- The names of declarations: `xmlns`, and what is qualified by it. -/
def isReserved (name : QName) : Bool :=
  name == .plain "xmlns" || name.qualifier == some "xmlns"

end QName

namespace NamespaceDecl

/-- The name by which a declaration is written. -/
def name (d : NamespaceDecl) : QName :=
  match d.qualifier with
  | none => .plain "xmlns"
  | some qualifier => ⟨some "xmlns", qualifier⟩

/-- The attribute as which a declaration is written. -/
def asAttribute (d : NamespaceDecl) : Attribute := ⟨d.name, d.uri⟩

theorem write_eq (style : XmlStyle) (d : NamespaceDecl) :
    d.write style = d.asAttribute.write style := by
  obtain ⟨_ | qualifier, uri⟩ := d <;> rfl

theorem isReserved_name (d : NamespaceDecl) : d.name.isReserved = true := by
  obtain ⟨_ | qualifier, uri⟩ := d <;> simp [name, QName.isReserved]

theorem asAttribute_injective {d d' : NamespaceDecl} (h : d.asAttribute = d'.asAttribute) :
    d = d' := by
  obtain ⟨_ | qualifier, uri⟩ := d <;> obtain ⟨_ | qualifier', uri'⟩ := d' <;>
    simp_all [asAttribute, name, QName.plain]

theorem readable_name {d : NamespaceDecl} (h : ∀ qualifier ∈ d.qualifier, Unbroken qualifier) :
    d.name.Readable := by
  obtain ⟨_ | qualifier, uri⟩ := d
  · exact (by decide : (QName.plain "xmlns").Readable)
  · refine ⟨"xmlns" ++ ":" ++ qualifier, ?_, ?_, QName.ofString_colon (by decide) qualifier⟩
    · intro hempty
      simpa using congrArg String.toList hempty
    · intro c hc
      rw [String.toList_append, List.mem_append] at hc
      rcases hc with hc | hc
      · exact (by decide : Unbroken ("xmlns" ++ ":")) c hc
      · exact h qualifier rfl c hc

end NamespaceDecl

/-! ## Attributes -/

namespace Attribute
variable {style : XmlStyle}

/-- An attribute is determined by its text, and so is where it ends. -/
theorem write_append_inj (hs : style.Legible) {a b : Attribute} {t u : List Char}
    (ha : a.name.Readable) (hb : b.name.Readable)
    (h : a.write style ++ t = b.write style ++ u) : a = b ∧ t = u := by
  obtain ⟨name, value⟩ := a
  obtain ⟨name', value'⟩ := b
  simp only [Attribute.write, XmlStyle.writePair, List.cons_append, List.append_assoc,
    List.nil_append, List.cons.injEq, true_and] at h
  have hequals (rest : List Char) : EndsName ('=' :: rest) := by simp [EndsName, isNameChar]
  obtain ⟨hname, hrest⟩ :=
    unbroken_append_inj ha.unbroken hb.unbroken (hequals _) (hequals _) h
  obtain rfl := ha.eq_of_qualified_eq hb hname
  obtain ⟨rfl, hend⟩ := hs.values.text_append_inj (stopsAt_cons _ _) (stopsAt_cons _ _)
    (List.cons.inj (List.cons.inj hrest).2).2
  exact ⟨rfl, (List.cons.inj hend).2⟩

/-- An attribute begins with a blank and a character of names. -/
theorem exists_write_eq (style : XmlStyle) {a : Attribute} (h : a.name.Readable) :
    ∃ c rest, a.write style = ' ' :: c :: rest ∧ isNameChar c = true := by
  obtain ⟨c, rest, htext, hc⟩ := h.exists_head
  exact ⟨c, _, by rw [Attribute.write, XmlStyle.writePair, htext]; rfl, hc⟩

end Attribute

/-! ## Tags -/

/-- The text in which the start of a tag ends. -/
def EndsTag (style : XmlStyle) (text : List Char) : Prop :=
  ∃ rest, text = '>' :: rest ∨ text = style.emptyEnd ++ rest

namespace XmlStyle.Legible
variable {style : XmlStyle}

theorem endsName_of_endsTag (hs : style.Legible) {text : List Char} (h : EndsTag style text) :
    EndsName text := by
  obtain ⟨rest, rfl | rfl⟩ := h
  · simp [EndsName, isNameChar]
  · rcases hs.emptyEnd with hend | hend <;> simp [EndsName, isNameChar, hend]

/-- The end of a tag is not taken for an attribute. -/
theorem not_endsTag (hs : style.Legible) {a : Attribute} (ha : a.name.Readable) (t : List Char) :
    ¬EndsTag style (a.write style ++ t) := by
  obtain ⟨c, rest, htext, hc⟩ := a.exists_write_eq style ha
  rintro ⟨after, h | h⟩
  · rw [htext] at h
    simp at h
  · rw [htext] at h
    rcases hs.emptyEnd with hend | hend
    · simp [hend] at h
    · rw [hend] at h
      obtain rfl : c = '/' := (List.cons.inj (List.cons.inj h).2).1
      cases hc

end XmlStyle.Legible

namespace Tag
variable {style : XmlStyle}

/-- A tag whose names are readable and none of whose attributes has a reserved name. -/
structure Readable (tag : Tag) : Prop where
  /-- The name of the element. -/
  name : tag.name.Readable
  /-- What is declared. -/
  qualifiers : ∀ d ∈ tag.namespaces, ∀ qualifier ∈ d.qualifier, Unbroken qualifier
  /-- The names of the attributes. -/
  attributes : ∀ a ∈ tag.attributes, a.name.Readable ∧ a.name.isReserved = false

/-- What is written after the name: the declarations, as attributes, and the attributes. -/
def written (tag : Tag) : List Attribute :=
  tag.namespaces.map (·.asAttribute) ++ tag.attributes

theorem writeStart_eq (style : XmlStyle) (tag : Tag) :
    tag.writeStart style
      = '<' :: (tag.name.qualified.toList ++ tag.written.flatMap (·.write style)) := by
  have hdecls : tag.namespaces.flatMap (·.write style)
      = (tag.namespaces.map (·.asAttribute)).flatMap (·.write style) := by
    simp only [List.flatMap_map, NamespaceDecl.write_eq]
  rw [writeStart, hdecls, written, List.flatMap_append, List.append_assoc, List.cons_append]

namespace Readable
variable {a b : Tag}

theorem readable_of_mem_written (h : a.Readable) {x : Attribute} (hx : x ∈ a.written) :
    x.name.Readable := by
  rw [written, List.mem_append, List.mem_map] at hx
  rcases hx with ⟨d, hd, rfl⟩ | hx
  · exact NamespaceDecl.readable_name (h.qualifiers d hd)
  · exact (h.attributes x hx).1

/-- The names tell the declarations from the attributes. -/
theorem eq_of_written_eq (ha : a.Readable) (hb : b.Readable) (hname : a.name = b.name)
    (h : a.written = b.written) : a = b := by
  have hdecls (tag : Tag) :
      ∀ x ∈ tag.namespaces.map (·.asAttribute), x.name.isReserved = true := by
    intro x hx
    obtain ⟨d, -, rfl⟩ := List.mem_map.mp hx
    exact d.isReserved_name
  have hattributes {tag : Tag} (htag : tag.Readable) :
      ∀ x ∈ tag.attributes.head?, x.name.isReserved = false :=
    fun x hx => (htag.attributes x (List.mem_of_mem_head? hx)).2
  obtain ⟨hnamespaces, hattrs⟩ := append_inj_of_stop (p := fun x : Attribute => x.name.isReserved)
    (hdecls a) (hdecls b) (hattributes ha) (hattributes hb) h
  obtain ⟨name, namespaces, attributes⟩ := a
  obtain ⟨name', namespaces', attributes'⟩ := b
  obtain rfl : name = name' := hname
  obtain rfl : attributes = attributes' := hattrs
  obtain rfl : namespaces = namespaces' :=
    (List.map_inj_right fun _ _ => NamespaceDecl.asAttribute_injective).mp hnamespaces
  rfl

/-- **A tag is determined by its text**, and so is where it ends. -/
theorem writeStart_append_inj (hs : style.Legible) (ha : a.Readable) (hb : b.Readable)
    {r s : List Char} (hr : EndsTag style r) (hs' : EndsTag style s)
    (h : a.writeStart style ++ r = b.writeStart style ++ s) : a = b ∧ r = s := by
  have hend {tag : Tag} (htag : tag.Readable) {t : List Char} (ht : EndsTag style t) :
      EndsName (tag.written.flatMap (·.write style) ++ t) := by
    cases hwritten : tag.written with
    | nil => exact hs.endsName_of_endsTag ht
    | cons x rest =>
      obtain ⟨c, more, htext, -⟩ := x.exists_write_eq style
        (htag.readable_of_mem_written (by rw [hwritten]; exact List.mem_cons_self))
      simp [EndsName, htext, isNameChar]
  rw [writeStart_eq, writeStart_eq, List.cons_append, List.cons_append, List.append_assoc,
    List.append_assoc] at h
  obtain ⟨hname, hrest⟩ := unbroken_append_inj ha.name.unbroken hb.name.unbroken (hend ha hr)
    (hend hb hs') (List.cons.inj h).2
  obtain ⟨hwritten, hrs⟩ := flatMap_append_inj
    (fun _ _ _ _ => Attribute.write_append_inj hs) (fun _ t hx => hs.not_endsTag hx t)
    (fun _ => ha.readable_of_mem_written) (fun _ => hb.readable_of_mem_written) hr hs' hrest
  exact ⟨eq_of_written_eq ha hb (ha.name.eq_of_qualified_eq hb.name hname) hwritten, hrs⟩

end Readable
end Tag
end WebSso
