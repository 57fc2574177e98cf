import WebSso.Xml.Element

/-!
# Elements as text

## What is here

* `XmlStyle`, the choices a writer has: which characters are written as references, and how a tag
  without content ends; `XmlStyle.message` for protocol messages and `XmlStyle.descriptor` for
  metadata;
* `Content.write` and `Element.write`, the text of a tree;
* `Element.toXml` and `Element.toDocument`, the text of a message, without and with the declaration
  that begins a document.
-/

set_option autoImplicit false
namespace WebSso

/-! ## Styles -/

/-- The choices of a writer. -/
structure XmlStyle where
  /-- How a character is written in the value of an attribute. -/
  inAttribute : Char → List Char
  /-- How a character is written in a run of text. -/
  inText : Char → List Char
  /-- How the tag of an element without content ends. -/
  emptyEnd : List Char

namespace XmlStyle

/-- A character of markup as a reference, and any other as it is. -/
def reference (c : Char) : List Char :=
  if c = '<' then "&lt;".toList
  else if c = '>' then "&gt;".toList
  else if c = '&' then "&amp;".toList
  else [c]

/-- A character of markup or a quote as a reference, and any other as it is. -/
def quotedReference (c : Char) : List Char :=
  if c = '\'' then "&apos;".toList
  else if c = '"' then "&quot;".toList
  else reference c

/-- The same, with a line feed and a carriage return as references too. -/
def lineReference (c : Char) : List Char :=
  if c = '\n' then "&#xA;".toList
  else if c = '\r' then "&#xD;".toList
  else quotedReference c

/-- How messages are written: quotes are references everywhere. -/
def message : XmlStyle := ⟨quotedReference, quotedReference, "/>".toList⟩

/-- How metadata is written: quotes are references in attributes only, where line ends are too, and
a blank stands before the end of an empty tag. -/
def descriptor : XmlStyle := ⟨lineReference, reference, " />".toList⟩

end XmlStyle

/-! ## Writing -/

/-- A name with a value in quotes, behind a blank. -/
def XmlStyle.writePair (style : XmlStyle) (name value : String) : List Char :=
  ' ' :: name.toList ++ '=' :: '"' :: value.toList.flatMap style.inAttribute ++ ['"']

/-- A declaration. -/
def NamespaceDecl.write (style : XmlStyle) (d : NamespaceDecl) : List Char :=
  match d.qualifier with
  | none => style.writePair "xmlns" d.uri
  | some qualifier => style.writePair ("xmlns:" ++ qualifier) d.uri

/-- An attribute. -/
def Attribute.write (style : XmlStyle) (a : Attribute) : List Char :=
  style.writePair a.name.qualified a.value

/-- The start of a tag, up to where it ends. -/
def Tag.writeStart (style : XmlStyle) (tag : Tag) : List Char :=
  '<' :: tag.name.qualified.toList ++ tag.namespaces.flatMap (·.write style)
    ++ tag.attributes.flatMap (·.write style)

/-- The tag that ends an element. -/
def Tag.writeEnd (tag : Tag) : List Char :=
  '<' :: '/' :: tag.name.qualified.toList ++ ['>']

/-- The text of content. -/
def Content.write (style : XmlStyle) : Content → List Char
  | done => []
  | text run rest => run.toList.flatMap style.inText ++ rest.write style
  | element tag inner rest =>
    let body :=
      if inner.isDone then style.emptyEnd
      else '>' :: inner.write style ++ tag.writeEnd
    tag.writeStart style ++ body ++ rest.write style

/-- The text of an element. -/
def Element.write (style : XmlStyle) (e : Element) : List Char :=
  (Content.ofElement e).write style

/-- The declaration that begins a document. -/
def xmlDeclaration : String := "<?xml version=\"1.0\" encoding=\"UTF-8\"?>"

namespace Element

/-- The text of an element as part of a message. -/
def toXml (e : Element) : String := String.ofList (e.write .message)

/-- The text of an element as a message of its own. -/
def toDocument (e : Element) : String := xmlDeclaration ++ e.toXml

end Element

end WebSso
