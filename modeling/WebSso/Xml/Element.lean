import WebSso.Xml.Name

/-!
# Elements

The documents that the library sends are trees of elements and text.

## What is here

* `Tag`, what the start of an element says: its name, the namespaces it declares, its attributes;
* `Content`, the text and the elements inside an element, in order;
* `Element`, a tag with its content, built up by `declare`, `setAttribute`, `addText`, `addChild`;
* `Element.attribute?` and `Element.children`, which look into it.
-/

set_option autoImplicit false
namespace WebSso

/-! ## Tags -/

/-- A declaration: what a qualifier stands for, or what names without one belong to. -/
structure NamespaceDecl where
  /-- The qualifier, if it is one that is declared. -/
  qualifier : Option String
  /-- The namespace. -/
  uri : String
  deriving DecidableEq

/-- An attribute of an element. -/
structure Attribute where
  /-- Its name. -/
  name : QName
  /-- Its value. -/
  value : String
  deriving DecidableEq

/-- What the start of an element says. -/
structure Tag where
  /-- The name of the element. -/
  name : QName
  /-- The declarations, first to last. -/
  namespaces : List NamespaceDecl
  /-- The attributes, first to last. -/
  attributes : List Attribute
  deriving DecidableEq

/-- Attributes with a value for a name: in its place if it is there, at the end otherwise. -/
def setAttributeIn (name : QName) (value : String) : List Attribute → List Attribute
  | [] => [⟨name, value⟩]
  | a :: rest =>
    if a.name = name then ⟨name, value⟩ :: rest else a :: setAttributeIn name value rest

/-! ## Content -/

/-- What stands inside an element, first to last. -/
inductive Content where
  /-- Nothing more. -/
  | done
  /-- A run of text, and what follows it. -/
  | text (run : String) (rest : Content)
  /-- An element, by its tag and its own content, and what follows it. -/
  | element (tag : Tag) (inner rest : Content)
  deriving DecidableEq

/-- An element. -/
structure Element where
  /-- Its start. -/
  tag : Tag
  /-- What stands inside. -/
  content : Content
  deriving DecidableEq

namespace Content

/-- Whether there is nothing. -/
def isDone : Content → Bool
  | done => true
  | _ => false

/-- Content followed by other content. -/
def append : Content → Content → Content
  | done, c => c
  | text run rest, c => text run (rest.append c)
  | element tag inner rest, c => element tag inner (rest.append c)

instance : Append Content := ⟨append⟩

/-- A run of text and nothing else. -/
def ofText (run : String) : Content := text run done

/-- An element and nothing else. -/
def ofElement (e : Element) : Content := element e.tag e.content done

/-- Elements one after the other. -/
def ofElements (elements : List Element) : Content :=
  elements.foldr (fun e rest => element e.tag e.content rest) done

/-- The number of runs and elements. -/
def size : Content → Nat
  | done => 0
  | text _ rest => rest.size + 1
  | element _ _ rest => rest.size + 1

/-- The elements, first to last. -/
def elements : Content → List Element
  | done => []
  | text _ rest => rest.elements
  | element tag inner rest => ⟨tag, inner⟩ :: rest.elements

/-- The content with the inside of every element replaced. -/
def mapInner (f : Content → Content) : Content → Content
  | done => done
  | text run rest => text run (rest.mapInner f)
  | element tag inner rest => element tag (f inner) (rest.mapInner f)

end Content

/-! ## Elements -/

namespace Element

/-- An element of a name and nothing else. -/
def named (name : QName) : Element := ⟨⟨name, [], []⟩, .done⟩

/-- The name. -/
def name (e : Element) : QName := e.tag.name

/-- The element with one more declaration. -/
def declare (e : Element) (qualifier : Option String) (uri : String) : Element :=
  { e with tag := { e.tag with namespaces := e.tag.namespaces ++ [⟨qualifier, uri⟩] } }

/-- The element with a value for an attribute, which replaces the value it has. -/
def setAttribute (e : Element) (name : QName) (value : String) : Element :=
  { e with tag := { e.tag with attributes := setAttributeIn name value e.tag.attributes } }

/-- The element with a value for an attribute without qualifier. -/
def attr (e : Element) (name value : String) : Element := e.setAttribute (.plain name) value

/-- The element with a value for an attribute without qualifier, if there is one. -/
def attr? (e : Element) (name : String) : Option String → Element
  | none => e
  | some value => e.attr name value

/-- The element with a run of text behind its content. -/
def addText (e : Element) (run : String) : Element :=
  { e with content := e.content ++ .ofText run }

/-- The element with another one behind its content. -/
def addChild (e child : Element) : Element :=
  { e with content := e.content ++ .ofElement child }

/-- The element with other ones behind its content. -/
def addChildren (e : Element) (children : List Element) : Element :=
  { e with content := e.content ++ .ofElements children }

/-- The element with a run of text in place of its content. -/
def setText (e : Element) (run : String) : Element := { e with content := .ofText run }

/-- The element with a run of text in place of the content of every element inside it. -/
def setChildrenText (e : Element) (run : String) : Element :=
  { e with content := e.content.mapInner fun _ => .ofText run }

/-- The value of an attribute without qualifier. -/
def attribute? (e : Element) (name : String) : Option String :=
  (e.tag.attributes.find? fun a => a.name == .plain name).map (·.value)

/-- The elements inside. -/
def children (e : Element) : List Element := e.content.elements

/-- The number of runs of text and elements inside. -/
def size (e : Element) : Nat := e.content.size

end Element

end WebSso
