import WebSso.Xml.Element

/-!
# Elements where they stand

A qualifier by itself says nothing: which namespace a name belongs to is said by the declarations of
its element and of the elements around it.  So whoever reads a document looks at an element together
with the declarations that are in force where it stands, and looks for names of a namespace, however
they are qualified.

## What is here

* `Content.fullText`, the text inside an element, that of the elements inside it included;
* `Node`, an element where it stands, and `Node.uri?`, the namespace that its name belongs to;
* `Node.named` and `Node.first?`, the elements inside it that have a name.
-/

set_option autoImplicit false
namespace WebSso

/-- All text, inside and outside of the elements. -/
def Content.fullText : Content → String
  | done => ""
  | text run rest => run ++ rest.fullText
  | element _ inner rest => inner.fullText ++ rest.fullText

/-- An element where it stands in a document. -/
structure Node where
  /-- The declarations that are in force around it, the innermost first. -/
  around : List NamespaceDecl
  /-- The element. -/
  element : Element
  deriving DecidableEq

namespace Node

/-- The declarations that are in force inside the element, the innermost first. -/
def declared (n : Node) : List NamespaceDecl := n.element.tag.namespaces.reverse ++ n.around

/-- The namespace that the name of the element belongs to, by the innermost declaration of its
qualifier. -/
def uri? (n : Node) : Option String :=
  (n.declared.find? fun d => d.qualifier == n.element.name.qualifier).map (·.uri)

/-- Whether the element has a name of a namespace. -/
def isNamed (n : Node) (uri localName : String) : Bool :=
  n.uri? == some uri && n.element.name.localName == localName

/-- The elements inside, first to last. -/
def children (n : Node) : List Node := n.element.children.map (Node.mk n.declared)

/-- The elements inside that have a name of a namespace. -/
def named (n : Node) (uri localName : String) : List Node :=
  n.children.filter (·.isNamed uri localName)

/-- The first of them. -/
def first? (n : Node) (uri localName : String) : Option Node := (n.named uri localName).head?

/-- The value of an attribute without qualifier. -/
def attribute? (n : Node) (name : String) : Option String := n.element.attribute? name

/-- The text inside. -/
def text (n : Node) : String := n.element.content.fullText

end Node

end WebSso
