import WebSso.Proofs.Xml.Build
import WebSso.Xml.Node

/-!
# Reading does not see how runs were put together

A document determines its elements up to how their runs of text were put together.  Whoever looks
for elements by their names, for attributes and for text finds the same in either case.

## What is here

* `Node.joined`, an element with its runs joined, where it stands;
* what is found in it: `Node.named_joined` and `Node.text_joined`, and `Node.only?_joined` for an
  element that has to be the only one of its name;
* `Element.fullText_named_addText` and `Node.filter_isNamed_map`, what is found in elements as they
  are built.
-/

set_option autoImplicit false
namespace WebSso

namespace Content

theorem fullText_prepend (c : Content) (run : String) :
    (c.prepend run).fullText = run ++ c.fullText := by
  cases c with
  | text next rest => simp [prepend, fullText, String.append_assoc]
  | done => by_cases hrun : run = "" <;> simp [prepend, fullText, hrun]
  | element tag inner rest => by_cases hrun : run = "" <;> simp [prepend, fullText, hrun]

theorem fullText_joined (c : Content) : c.joined.fullText = c.fullText := by
  induction c with
  | done => rfl
  | text run rest ih => rw [joined, fullText_prepend, ih, fullText]
  | element tag inner rest ihinner ihrest => rw [joined, fullText, ihinner, ihrest, fullText]

end Content

theorem Element.fullText_named_addText (name : QName) (run : String) :
    ((named name).addText run).content.fullText = run := by
  show run ++ "" = run
  simp

namespace Node
variable (n : Node) (uri label : String)

/-- The element with its runs joined, where it stands. -/
def joined (n : Node) : Node := ⟨n.around, n.element.joined⟩

@[simp] theorem isNamed_joined : n.joined.isNamed uri label = n.isNamed uri label := rfl

@[simp] theorem attribute?_joined : n.joined.attribute? label = n.attribute? label := rfl

@[simp] theorem text_joined : n.joined.text = n.text := n.element.content.fullText_joined

theorem children_joined : n.joined.children = n.children.map joined := by
  have hinside : n.joined.element.children = n.element.children.map Element.joined :=
    n.element.content.elements_joined
  rw [children, hinside, children, List.map_map, List.map_map]
  rfl

@[simp] theorem named_joined : n.joined.named uri label = (n.named uri label).map joined := by
  rw [named, children_joined, List.filter_map]
  rfl

/-- The element inside that has a name of a namespace, if there is one and no second. -/
def only? (n : Node) (uri localName : String) : Option Node :=
  match n.named uri localName with
  | [inner] => some inner
  | _ => none

@[simp] theorem only?_joined : n.joined.only? uri label = (n.only? uri label).map joined := by
  rw [only?, named_joined, only?]
  rcases n.named uri label with _ | ⟨inner, _ | ⟨second, rest⟩⟩ <;> rfl

/-- Elements of which all have a name or none has. -/
theorem filter_isNamed_map {α : Type} {f : α → Node} {b : Bool}
    (h : ∀ a, (f a).isNamed uri label = b) (l : List α) :
    (l.map f).filter (·.isNamed uri label) = if b then l.map f else [] := by
  cases b with
  | true => exact List.filter_eq_self.mpr (by simp [h])
  | false => exact List.filter_eq_nil_iff.mpr (by simp [h])

end Node
end WebSso
