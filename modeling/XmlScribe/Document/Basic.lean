/-
**Documents as values.**

A document is what its XML declaration says together with a sequence of items: elements, comments,
processing instructions and the document type.  An element has a name, attributes and items of its
own.

Main definitions:

* `Declaration` — version, encoding and standalone flag;
* `Item` — a node with all that is below it;
* `Document` — a whole document.
-/

import XmlScribe.Document.Attribute
import XmlScribe.Doctype.Basic

set_option autoImplicit false

namespace XmlScribe

/-- What an XML declaration says. -/
structure Declaration where
  /-- The version of XML. -/
  version : Option Text
  /-- The encoding that the document was read from. -/
  encoding : Option Text
  /-- The document does not depend on an external definition. -/
  standalone : Option Bool
deriving DecidableEq, Repr

/-- The declaration that says nothing. -/
def Declaration.none : Declaration := ⟨.none, .none, .none⟩

/-- A node of a document with all that is below it. -/
inductive Item where
  /-- An element. -/
  | element (name : QName) (attributes : List Attribute) (content : List Item)
  /-- Character data. -/
  | text (data : Text)
  /-- A section of character data that is written without references. -/
  | cdata (data : Text)
  /-- A comment. -/
  | comment (data : Text)
  /-- A processing instruction. -/
  | instruction (target : Text) (data : Option Text)
  /-- The document type. -/
  | doctype (d : Doctype)
deriving Repr

namespace Item

/-- The item is an element. -/
def isElement : Item → Bool
  | element _ _ _ => true
  | _ => false

/-- The item is a document type. -/
def isDoctype : Item → Bool
  | doctype _ => true
  | _ => false

end Item

/-- A document. -/
structure Document where
  /-- What the XML declaration says. -/
  declaration : Declaration
  /-- The items outside all elements, in order. -/
  content : List Item
deriving Repr

/-- The document element. -/
def Document.root? (doc : Document) : Option Item :=
  doc.content.find? Item.isElement

end XmlScribe
