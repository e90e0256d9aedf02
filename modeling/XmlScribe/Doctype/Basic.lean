/-
**Document types.**

A document type declaration names the document element, may say where the definition of the
document type is kept, and may hold a part of that definition itself, the internal subset.

Main definitions:

* `Doctype` — a declaration together with the entities that it declares;
* `Doctype.addEntity` — one more entity, if its name is new;
* `DoctypeFault` — what can be wrong with the text of a declaration.
-/

import XmlScribe.Entity.Basic

set_option autoImplicit false

namespace XmlScribe

/-- A document type declaration. -/
structure Doctype where
  /-- The name of the document element. -/
  name : Text
  /-- The public identifier of the definition. -/
  publicId : Option Text
  /-- The system identifier of the definition. -/
  systemId : Option Text
  /-- The part of the definition that stands in the declaration. -/
  subset : Option Text
  /-- The declared general entities, in the order of their declarations. -/
  entities : List EntityDecl
deriving DecidableEq, Repr

namespace Doctype

/-- The declaration of an entity. -/
def entity? (d : Doctype) (name : Text) : Option EntityDecl :=
  d.entities.find? fun decl => decl.name = name

/-- The document type with one more entity.  The first declaration of a name is the one that
counts. -/
def addEntity (d : Doctype) (decl : EntityDecl) : Doctype :=
  if (d.entity? decl.name).isSome then d else { d with entities := d.entities ++ [decl] }

/-- A public identifier needs a system identifier beside it. -/
def hasValidIds (publicId systemId : Option Text) : Bool :=
  publicId.isNone || systemId.isSome

end Doctype

/-- What is wrong with the text of a document type declaration. -/
inductive DoctypeFault where
  /-- There is no name where one must stand. -/
  | nameExpected
  /-- There is no quotation mark where a literal must stand. -/
  | literalExpected
  /-- A literal has no second quotation mark. -/
  | unterminatedLiteral
  /-- A comment does not end. -/
  | unterminatedComment
  /-- A processing instruction does not end. -/
  | unterminatedInstruction
  /-- Any other declaration does not end. -/
  | unterminatedMarkup
  /-- The internal subset does not end. -/
  | unterminatedSubset
  /-- Something follows the end of the declaration. -/
  | unexpectedText (rest : Text)
  /-- The keyword and the name of an entity are not kept apart. -/
  | blankRequired
  /-- A character reference in the value of an entity has no semicolon. -/
  | unterminatedReference
  /-- A character reference in the value of an entity denotes no character. -/
  | invalidReference (digits : Text)
deriving DecidableEq, Repr

/-- The wording of the fault. -/
def DoctypeFault.message : DoctypeFault → String
  | .nameExpected => "a name is expected"
  | .literalExpected => "a quoted literal is expected"
  | .unterminatedLiteral => "unterminated literal"
  | .unterminatedComment => "unterminated comment"
  | .unterminatedInstruction => "unterminated processing instruction"
  | .unterminatedMarkup => "unterminated markup declaration"
  | .unterminatedSubset => "unterminated internal subset"
  | .unexpectedText rest =>
      "unexpected text after document type declaration: '" ++ String.ofList rest ++ "'"
  | .blankRequired => "blank is required after '<!ENTITY'"
  | .unterminatedReference => "unterminated character reference"
  | .invalidReference digits => "invalid character reference '&#" ++ String.ofList digits ++ ";'"

end XmlScribe
