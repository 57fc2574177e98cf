import WebSso.Proofs.Xml.Joined

/-!
# What is built into an element

Elements are built step by step, and are looked at through their attributes, their elements and
their text.  These are the laws between the two, so that what an element says can be read off the
steps that built it.

## What is here

* `Element.ownText`, the text of an element, and what each step does to the name, to the
  attributes, to the elements and to the text;
* `Element.toXml_addChildren_eq_iff`, by which what is added last can be cut off from the text;
* what elements that are the same up to joining have in common: `Element.attribute?_eq`,
  `Element.children_eq` and `Element.ownText_eq`, with `Element.eq_of_joined_addText`,
  `Element.eq_of_map_joined_eq` and `Element.eq_of_toList_map_joined_eq` for the parts that recur;
* `IsAttributeName`, and the steps that keep an element readable.
-/

set_option autoImplicit false
namespace WebSso

/-! ## Attributes -/

theorem find?_setAttributeIn (name other : QName) (value : String) (l : List Attribute) :
    (setAttributeIn name value l).find? (fun a => a.name == other)
      = if name = other then some ⟨name, value⟩ else l.find? fun a => a.name == other := by
  induction l with
  | nil => by_cases h : name = other <;> simp [setAttributeIn, h]
  | cons a rest ih =>
    rw [setAttributeIn]
    by_cases ha : a.name = name
    · rw [if_pos ha]
      by_cases h : name = other
      · simp [h]
      · have hold : ¬a.name = other := ha ▸ h
        simp [h, hold]
    · rw [if_neg ha, List.find?_cons, List.find?_cons, ih]
      by_cases h : name = other
      · have hold : (a.name == other) = false := by simpa [← h] using ha
        simp [h, hold]
      · simp [h]

/-- What holds of all names after an attribute is set. -/
theorem forall_name_setAttributeIn (P : QName → Prop) (name : QName) (value : String)
    (l : List Attribute) :
    (∀ a ∈ setAttributeIn name value l, P a.name) ↔ P name ∧ ∀ a ∈ l, P a.name := by
  induction l with
  | nil => simp [setAttributeIn]
  | cons a rest ih =>
    rw [setAttributeIn]
    split
    · next h => simp [h]
    · simp only [List.forall_mem_cons, ih]
      exact and_left_comm

/-! ## Content -/

namespace Content

theorem elements_append (c d : Content) : (c ++ d).elements = c.elements ++ d.elements := by
  show (c.append d).elements = _
  induction c with
  | done => rfl
  | text run rest ih => exact ih
  | element tag inner rest _ ih => simp only [append, elements, ih, List.cons_append]

theorem ownText_append (c d : Content) : (c ++ d).ownText = c.ownText ++ d.ownText := by
  show (c.append d).ownText = _
  induction c with
  | done => simp [append, ownText]
  | text run rest ih => simp only [append, ownText, ih, String.append_assoc]
  | element tag inner rest _ ih => exact ih

theorem readable_append (c d : Content) : (c ++ d).Readable ↔ c.Readable ∧ d.Readable := by
  show (c.append d).Readable ↔ _
  induction c with
  | done => simp [append, Readable]
  | text run rest ih => exact ih
  | element tag inner rest _ ih => simp only [append, Readable, ih, and_assoc]

theorem append_assoc (b c d : Content) : b ++ c ++ d = b ++ (c ++ d) := by
  show (b.append c).append d = b.append (c.append d)
  induction b with
  | done => rfl
  | text run rest ih => exact congrArg (text run) ih
  | element tag inner rest _ ih => exact congrArg (element tag inner) ih

theorem isDone_append (c d : Content) : (c ++ d).isDone = (c.isDone && d.isDone) := by
  cases c <;> rfl

theorem write_append (style : XmlStyle) (c d : Content) :
    (c ++ d).write style = c.write style ++ d.write style := by
  show (c.append d).write style = _
  induction c with
  | done => rfl
  | text run rest ih => simp only [append, write, ih, List.append_assoc]
  | element tag inner rest _ ih => simp only [append, write, ih, List.append_assoc]

theorem ofElements_append (l m : List Element) :
    ofElements (l ++ m) = ofElements l ++ ofElements m := by
  induction l with
  | nil => rfl
  | cons e rest ih => exact congrArg (element e.tag e.content) ih

theorem write_ofElements (style : XmlStyle) (l : List Element) :
    (ofElements l).write style = l.flatMap (·.write style) := by
  induction l with
  | nil => rfl
  | cons e rest ih =>
    have hfirst : ofElements (e :: rest) = ofElement e ++ ofElements rest := rfl
    rw [hfirst, write_append, ih, List.flatMap_cons, Element.write]

theorem elements_ofElements (l : List Element) : (ofElements l).elements = l := by
  induction l with
  | nil => rfl
  | cons e rest ih => exact congrArg (e :: ·) ih

theorem ownText_ofElements (l : List Element) : (ofElements l).ownText = "" := by
  induction l with
  | nil => rfl
  | cons e rest ih => exact ih

theorem readable_ofElements (l : List Element) :
    (ofElements l).Readable ↔ ∀ e ∈ l, e.Readable := by
  induction l with
  | nil => simp [ofElements, Readable]
  | cons e rest ih =>
    rw [List.forall_mem_cons, ← ih, Element.Readable, and_assoc]
    rfl

end Content

/-! ## Elements -/

namespace Element
variable (e child : Element) (n m v : String) (o : Option String)

/-- The text of an element that stands between the elements inside, all of it. -/
def ownText : String := e.content.ownText

@[simp] theorem name_named (name : QName) : (named name).name = name := rfl

@[simp] theorem name_declare (q : Option String) : (e.declare q v).name = e.name := rfl

@[simp] theorem name_attr : (e.attr n v).name = e.name := rfl

@[simp] theorem name_attr? : (e.attr? n o).name = e.name := by
  cases o <;> rfl

@[simp] theorem name_addText : (e.addText v).name = e.name := rfl

@[simp] theorem name_addChild : (e.addChild child).name = e.name := rfl

@[simp] theorem name_addChildren (l : List Element) : (e.addChildren l).name = e.name := rfl

@[simp] theorem attribute?_named (name : QName) : (named name).attribute? m = none := rfl

@[simp] theorem attribute?_declare (q : Option String) :
    (e.declare q v).attribute? m = e.attribute? m := rfl

@[simp] theorem attribute?_attr :
    (e.attr n v).attribute? m = if n = m then some v else e.attribute? m := by
  rw [attribute?, attr, setAttribute, find?_setAttributeIn]
  by_cases h : n = m <;> simp [QName.plain, attribute?, h]

@[simp] theorem attribute?_attr? :
    (e.attr? n o).attribute? m = if n = m then o.or (e.attribute? m) else e.attribute? m := by
  cases o <;> simp [attr?]

@[simp] theorem attribute?_addText : (e.addText v).attribute? m = e.attribute? m := rfl

@[simp] theorem attribute?_addChild : (e.addChild child).attribute? m = e.attribute? m := rfl

@[simp] theorem attribute?_addChildren (l : List Element) :
    (e.addChildren l).attribute? m = e.attribute? m := rfl

@[simp] theorem children_named (name : QName) : (named name).children = [] := rfl

@[simp] theorem children_declare (q : Option String) :
    (e.declare q v).children = e.children := rfl

@[simp] theorem children_attr : (e.attr n v).children = e.children := rfl

@[simp] theorem children_attr? : (e.attr? n o).children = e.children := by
  cases o <;> rfl

@[simp] theorem children_addText : (e.addText v).children = e.children := by
  simp [children, addText, Content.elements_append, Content.ofText, Content.elements]

@[simp] theorem children_addChild : (e.addChild child).children = e.children ++ [child] := by
  simp [children, addChild, Content.elements_append, Content.ofElement, Content.elements]

@[simp] theorem children_addChildren (l : List Element) :
    (e.addChildren l).children = e.children ++ l := by
  simp [children, addChildren, Content.elements_append, Content.elements_ofElements]

@[simp] theorem ownText_named (name : QName) : (named name).ownText = "" := rfl

@[simp] theorem ownText_declare (q : Option String) : (e.declare q v).ownText = e.ownText := rfl

@[simp] theorem ownText_attr : (e.attr n v).ownText = e.ownText := rfl

@[simp] theorem ownText_attr? : (e.attr? n o).ownText = e.ownText := by
  cases o <;> rfl

@[simp] theorem ownText_addText : (e.addText v).ownText = e.ownText ++ v := by
  simp [ownText, addText, Content.ownText_append, Content.ofText, Content.ownText]

@[simp] theorem ownText_addChild : (e.addChild child).ownText = e.ownText := by
  simp [ownText, addChild, Content.ownText_append, Content.ofElement, Content.ownText]

@[simp] theorem ownText_addChildren (l : List Element) : (e.addChildren l).ownText = e.ownText := by
  simp [ownText, addChildren, Content.ownText_append, Content.ownText_ofElements]

theorem addChildren_addChildren (l m : List Element) :
    (e.addChildren l).addChildren m = e.addChildren (l ++ m) := by
  rw [addChildren, addChildren, addChildren, Content.append_assoc, ← Content.ofElements_append]

/-! ## The text of what is added -/

/-- The text of an element with more behind its content, if it has content. -/
theorem write_addChildren (style : XmlStyle) {e : Element} (he : e.content.isDone = false)
    (l : List Element) :
    (e.addChildren l).write style
      = e.tag.writeStart style ++ '>' :: e.content.write style
        ++ (l.flatMap (·.write style) ++ e.tag.writeEnd) := by
  have hdone : (e.content ++ Content.ofElements l).isDone = false := by
    rw [Content.isDone_append, he, Bool.false_and]
  simp only [write, addChildren, Content.ofElement, Content.write, hdone, Content.write_append,
    Content.write_ofElements, Bool.false_eq_true, if_false, List.append_assoc, List.cons_append,
    List.append_nil]

/-- What is added is determined by the text just as far as it determines the text. -/
theorem toXml_addChildren_eq_iff {e : Element} (he : e.content.isDone = false)
    {l m : List Element} :
    (e.addChildren l).toXml = (e.addChildren m).toXml ↔
      l.flatMap (·.write .message) = m.flatMap (·.write .message) := by
  rw [toXml, toXml, String.ofList_inj, write_addChildren _ he, write_addChildren _ he,
    List.append_cancel_left_eq, List.append_cancel_right_eq]

/-! ## Up to joining -/

variable {a b : Element}

theorem attribute?_eq (h : a.joined = b.joined) (name : String) :
    a.attribute? name = b.attribute? name := by
  show a.joined.attribute? name = b.joined.attribute? name
  rw [h]

theorem children_eq (h : a.joined = b.joined) :
    a.children.map joined = b.children.map joined := by
  have hchildren (e : Element) : e.joined.children = e.children.map joined :=
    e.content.elements_joined
  rw [← hchildren, h, hchildren]

theorem ownText_eq (h : a.joined = b.joined) : a.ownText = b.ownText := by
  have htext (e : Element) : e.joined.ownText = e.ownText := e.content.ownText_joined
  rw [← htext, h, htext]

/-- An element with nothing but text is determined by its text. -/
theorem eq_of_joined_addText {name name' : QName} {x y : String}
    (h : ((named name).addText x).joined = ((named name').addText y).joined) : x = y := by
  simpa using ownText_eq h

section Members

variable {α : Type} {f : α → Element}

/-- Elements made of the members of a list determine the list, if each determines its member. -/
theorem eq_of_map_joined_eq (hf : ∀ x y, (f x).joined = (f y).joined → x = y) {l m : List α}
    (h : l.map (joined ∘ f) = m.map (joined ∘ f)) : l = m :=
  (List.map_inj_right hf).mp h

/-- A part that may be missing is determined by its element, if there is one. -/
theorem eq_of_toList_map_joined_eq (hf : ∀ x y, (f x).joined = (f y).joined → x = y)
    {o p : Option α} (h : (o.map f).toList.map joined = (p.map f).toList.map joined) : o = p := by
  rw [Option.toList_map, Option.toList_map, List.map_map, List.map_map] at h
  have hlists : o.toList = p.toList := eq_of_map_joined_eq hf h
  simpa using congrArg List.head? hlists

end Members

end Element

/-! ## Readable elements -/

/-- A name that an attribute without qualifier may have. -/
def IsAttributeName (name : String) : Prop :=
  (QName.plain name).Readable ∧ (QName.plain name).isReserved = false

instance (name : String) : Decidable (IsAttributeName name) :=
  inferInstanceAs (Decidable (_ ∧ _))

namespace Element
variable {e child : Element} {n v q : String} {o : Option String}

@[simp] theorem readable_named {name : QName} (h : name.Readable) : (named name).Readable :=
  ⟨⟨h, by simp [named], by simp [named]⟩, trivial⟩

@[simp] theorem readable_declare (h : Unbroken q) :
    (e.declare (some q) v).Readable ↔ e.Readable := by
  refine and_congr_left' ⟨fun he => ⟨he.name, fun d hd => he.qualifiers d ?_, he.attributes⟩,
    fun he => ⟨he.name, fun d hd => ?_, he.attributes⟩⟩
  · simp [declare, hd]
  · simp only [declare, List.mem_append, List.mem_singleton] at hd
    rcases hd with hd | rfl
    · exact he.qualifiers d hd
    · simpa using h

@[simp] theorem readable_attr (h : IsAttributeName n) : (e.attr n v).Readable ↔ e.Readable := by
  have hnames := forall_name_setAttributeIn (fun x => x.Readable ∧ x.isReserved = false)
    (.plain n) v e.tag.attributes
  refine and_congr_left' ⟨fun he => ⟨he.name, he.qualifiers, (hnames.mp he.attributes).2⟩,
    fun he => ⟨he.name, he.qualifiers, hnames.mpr ⟨h, he.attributes⟩⟩⟩

@[simp] theorem readable_attr? (h : IsAttributeName n) :
    (e.attr? n o).Readable ↔ e.Readable := by
  cases o with
  | none => rfl
  | some value => exact readable_attr h

@[simp] theorem readable_addText : (e.addText v).Readable ↔ e.Readable := by
  simp [Readable, addText, Content.readable_append, Content.ofText, Content.Readable]

@[simp] theorem readable_addChild :
    (e.addChild child).Readable ↔ e.Readable ∧ child.Readable := by
  simp [Readable, addChild, Content.readable_append, Content.ofElement, Content.Readable,
    and_assoc]

@[simp] theorem readable_addChildren {l : List Element} :
    (e.addChildren l).Readable ↔ e.Readable ∧ ∀ x ∈ l, x.Readable := by
  simp [Readable, addChildren, Content.readable_append, Content.readable_ofElements, and_assoc]

end Element
end WebSso
