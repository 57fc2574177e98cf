import Mathlib.Data.List.TakeWhile
import WebSso.Proofs.Keyed
import WebSso.Proofs.Xml.Injective

/-!
# Attributes stand as they were set

An attribute is set under a name as it is written, and kept under the two parts that the name has.
What is looked up are the parts, what is written is the name put together again.  Since a name is
put together as it was split, whatever colons it has, it makes no difference: there is one attribute
for each name as it was written, with the value that was set last, where the name was set first.

## What is here

* `QName.ofString_eq_plain_iff`, the names that have no qualifier;
* `Attribute.ofPair` and `setAttributeIn_map_ofPair`, attributes as pairs of a written name and a
  value;
* `Element.setAttributes`, an element with attributes set one after another, `Element.ofPairs`, one
  with pairs as attributes, and `Element.setAttributes_eq`, by which the one is the other;
* `Element.writtenPair` and `Element.startWith`, the start of a tag with pairs as attributes, and
  `Element.carries_last_set`, what of the attributes that were set is written and found.
-/

set_option autoImplicit false
namespace WebSso

/-! ## Names as they are written -/

/-- A name has no qualifier just if it is written without a colon. -/
theorem QName.ofString_eq_plain_iff {raw name : String} :
    ofString raw = .plain name ↔ raw = name ∧ ':' ∉ raw.toList := by
  have hraw (h : ofString raw = .plain name) : raw = name := by
    rw [← qualified_ofString raw, h]
    rfl
  constructor
  · intro h
    refine ⟨hraw h, fun hcolon => ?_⟩
    rw [ofString] at h
    split at h
    · next hnone => simpa using List.dropWhile_eq_nil_iff.mp hnone ':' hcolon
    · cases h
  · rintro ⟨rfl, hcolon⟩
    have hnone : raw.toList.dropWhile (· != ':') = [] := by
      rw [List.dropWhile_eq_nil_iff]
      intro c hc
      simpa using fun heq : c = ':' => hcolon (heq ▸ hc)
    rw [ofString, hnone]

namespace Attribute

/-- An attribute with a name as it is written. -/
def ofPair (p : String × String) : Attribute := ⟨.ofString p.1, p.2⟩

/-- A name is written as it was given. -/
theorem write_ofPair (style : XmlStyle) (p : String × String) :
    (ofPair p).write style = style.writePair p.1 p.2 := by
  rw [Attribute.write, ofPair, QName.qualified_ofString]

/-- A value is found by a name without colon, and by no other. -/
theorem find?_map_ofPair (name : String) (pairs : List (String × String)) :
    ((pairs.map ofPair).find? fun a => a.name == .plain name).map (·.value)
      = if ':' ∈ name.toList then none else pairs.lookup name := by
  induction pairs with
  | nil => simp
  | cons p rest ih =>
    rw [List.map_cons, List.find?_cons, lookup_cons_eq_ite]
    by_cases h : p.1 = name ∧ ':' ∉ p.1.toList
    · have hname : ((ofPair p).name == .plain name) = true :=
        beq_iff_eq.mpr (QName.ofString_eq_plain_iff.mpr h)
      rw [hname, if_pos h.1, if_neg (h.1 ▸ h.2)]
      rfl
    · have hname : ((ofPair p).name == .plain name) = false :=
        beq_eq_false_iff_ne.mpr (mt QName.ofString_eq_plain_iff.mp h)
      rw [hname, ih]
      by_cases hp : p.1 = name
      · have hcolon : ':' ∈ name.toList := by
          by_contra hnone
          exact h ⟨hp, hp ▸ hnone⟩
        rw [if_pos hcolon, if_pos hcolon]
      · rw [if_neg hp]

end Attribute

/-- Names are the same in parts just if they are written the same. -/
theorem setAttributeIn_map_ofPair (raw value : String) (pairs : List (String × String)) :
    setAttributeIn (.ofString raw) value (pairs.map .ofPair)
      = (putInPlace raw value pairs).map .ofPair := by
  induction pairs with
  | nil => rfl
  | cons p rest ih =>
    have hname : (Attribute.ofPair p).name = .ofString raw ↔ p.1 = raw :=
      ⟨QName.ofString_injective, congrArg QName.ofString⟩
    rw [List.map_cons, setAttributeIn, putInPlace]
    by_cases h : p.1 = raw
    · rw [if_pos (hname.mpr h), if_pos h]
      rfl
    · rw [if_neg (mt hname.mp h), if_neg h, ih]
      rfl

/-! ## Attributes set one after another -/

namespace Element

/-- The element with values for attributes by their names as they are written, set first to last. -/
def setAttributes (e : Element) (calls : List (String × String)) : Element :=
  calls.foldl (fun e p => e.setAttribute (.ofString p.1) p.2) e

section OfPairs

variable (name : QName) (namespaces : List NamespaceDecl) (content : Content)

/-- An element with pairs of a written name and a value as attributes. -/
def ofPairs (pairs : List (String × String)) : Element :=
  ⟨⟨name, namespaces, pairs.map .ofPair⟩, content⟩

theorem setAttribute_ofPairs (raw value : String) (pairs : List (String × String)) :
    (ofPairs name namespaces content pairs).setAttribute (.ofString raw) value
      = ofPairs name namespaces content (putInPlace raw value pairs) := by
  rw [ofPairs, ofPairs, ← setAttributeIn_map_ofPair]
  rfl

/-- **One attribute for each name that was written**, where it was set first, with the value that
was set last; and nothing else is changed. -/
theorem setAttributes_eq (calls : List (String × String)) :
    setAttributes ⟨⟨name, namespaces, []⟩, content⟩ calls
      = ofPairs name namespaces content (keptInPlace calls) := by
  refine foldl_eq_of_concat (fun given => ofPairs name namespaces content (keptInPlace given)) rfl
    (fun given p => ?_) calls
  rw [setAttribute_ofPairs, keptInPlace_concat]

end OfPairs

/-- A pair as it is written in a tag: the name as it is, and the value in quotes, with its markup
and its own quotes as references. -/
def writtenPair (p : String × String) : List Char :=
  ' ' :: p.1.toList ++ '=' :: '"' :: p.2.toList.flatMap XmlStyle.quotedReference ++ ['"']

/-- The start of a tag with pairs as attributes. -/
def startWith (name : QName) (namespaces : List NamespaceDecl) (pairs : List (String × String)) :
    List Char :=
  '<' :: name.qualified.toList ++ namespaces.flatMap (·.write .message)
    ++ pairs.flatMap writtenPair

theorem toXml_ofPairs (name : QName) (namespaces : List NamespaceDecl) (content : Content)
    (pairs : List (String × String)) :
    (toXml (ofPairs name namespaces content pairs)).toList
      = startWith name namespaces pairs
        ++ Content.writeBody .message ⟨name, namespaces, []⟩ content := by
  have hpairs : (pairs.map .ofPair).flatMap (Attribute.write .message)
      = pairs.flatMap writtenPair := by
    rw [List.flatMap_map]
    exact List.flatMap_congr fun p _ => Attribute.write_ofPair .message p
  rw [toXml, String.toList_ofList, write, Content.ofElement, ofPairs]
  simp only [Content.write, Tag.writeStart, hpairs, startWith, List.append_nil]
  rfl

/-- **Attributes are written as they were set**, whatever their names and values are.  The tag that
begins an element has each name that was set, once and as it was given, in the order in which they
were set first, with the value that was set last; and this is the value that is found under a name
without a colon.  This is so because no two names are split alike, and each is put together again as
it was. -/
theorem carries_last_set (name : QName) (namespaces : List NamespaceDecl) (content : Content)
    (calls : List (String × String)) :
    (∃ pairs, IsKept calls pairs ∧ pairs.map (·.1) = (calls.map (·.1)).eraseDups ∧
      (setAttributes ⟨⟨name, namespaces, []⟩, content⟩ calls).toXml.toList
        = startWith name namespaces pairs
          ++ Content.writeBody .message ⟨name, namespaces, []⟩ content) ∧
      (∀ label, (setAttributes ⟨⟨name, namespaces, []⟩, content⟩ calls).attribute? label
        = if ':' ∈ label.toList then none else lastOf? label calls) ∧
      (∀ raw, (QName.ofString raw).qualified = raw) ∧ Function.Injective QName.ofString := by
  rw [setAttributes_eq]
  refine ⟨⟨keptInPlace calls, isKept_keptInPlace calls, keys_keptInPlace calls,
    toXml_ofPairs name namespaces content _⟩, fun label => ?_, QName.qualified_ofString,
    fun _ _ => QName.ofString_injective⟩
  rw [attribute?, ofPairs, Attribute.find?_map_ofPair, (isKept_keptInPlace calls).last]

/-- Names with any colons are told apart, and an empty name is one too. -/
example : (setAttributes (named (.plain "a"))
    [("b:c:d", "1"), ("", "<"), ("b:c", "2"), (":", "3"), ("b:c:d", "4")]).toXml
      = "<a b:c:d=\"4\" =\"&lt;\" b:c=\"2\" :=\"3\"/>" := by decide +kernel

end Element
end WebSso
