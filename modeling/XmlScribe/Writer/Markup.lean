/-
**Writing single nodes.**

Comments, processing instructions, names and the document type are written as they are, because no
reference can stand in them; if the character set lacks one of their characters they cannot be
written at all.  Text and attribute values are escaped.

Main definitions:

* `Writer.putMarkup` — text in which no reference can stand;
* `Writer.putDeclaration`, `Writer.putDoctype` — what comes before the document element;
* `Writer.putText`, `Writer.putComment`, `Writer.putInstruction`, `Writer.putCData` — the nodes
  without children;
* `Writer.putStartTag` — the start tag of an element, up to its last character.
-/

import XmlScribe.Forest.Query
import XmlScribe.Layout.AttributeOrder
import XmlScribe.Text.LineEnding
import XmlScribe.Writer.CData
import XmlScribe.Writer.Walk

set_option autoImplicit false

namespace XmlScribe

namespace Writer

open Walk

/-- Writes text in which no reference can stand. -/
def putMarkup (W : Writer) (construct : Construct) (s : Text) : Walk Unit :=
  match s.find? (!W.settings.charset.canEncode ·) with
  | some c => throw (.unencodable c W.settings.charset.name construct)
  | none => put s

/-- Ends the line. -/
def putNewline (W : Writer) : Walk Unit :=
  put W.settings.separator

/-- Writes the indentation of a depth. -/
def putIndent (W : Writer) (depth : Nat) : Walk Unit :=
  putAll (List.replicate depth W.settings.indent)

/-! ### Before the document element -/

/-- The wording of the standalone flag. -/
def yesOrNo (standalone : Bool) : Text :=
  if standalone then "yes".toList else "no".toList

/-- Writes the XML declaration. -/
def putDeclaration (W : Writer) (declaration : Declaration) : Walk Unit := do
  putString "<?xml version=\""
  put (declaration.version.getD "1.0".toList)
  putString "\" encoding=\""
  put W.settings.encodingLabel
  putString "\""
  match declaration.standalone with
  | some standalone =>
      putString " standalone=\""
      put (yesOrNo standalone)
      putString "\""
  | none => pure ()
  putString "?>"

/-- Writes an identifier between quotation marks. -/
def putQuoted (W : Writer) (literal : Text) : Walk Unit := do
  let quote := Entity.chooseQuote literal
  put [quote]
  W.putMarkup .doctypeId literal
  put [quote]

/-- Writes the identifiers of a document type. -/
def putIds (W : Writer) (publicId systemId : Option Text) : Walk Unit :=
  match publicId, systemId with
  | some publicId, some systemId => do
      putString " PUBLIC "
      W.putQuoted publicId
      putString " "
      W.putQuoted systemId
  | none, some systemId => do
      putString " SYSTEM "
      W.putQuoted systemId
  | some _, none => throw .publicIdAlone
  | none, none => pure ()

/-- Writes an internal subset, unless it is empty. -/
def putSubset (W : Writer) (subset : Text) : Walk Unit :=
  if subset.isEmpty then pure ()
  else do
    putString " ["
    W.putMarkup .subset subset
    putString "]"

/-- Writes a document type declaration. -/
def putDoctype (W : Writer) (heading : Heading) (subset : Option Text) : Walk Unit := do
  putString "<!DOCTYPE "
  W.putMarkup .doctypeName heading.name
  W.putIds heading.publicId heading.systemId
  W.putSubset (subset.getD [])
  putString ">"

/-! ### Nodes without children -/

/-- Writes character data. -/
def putText (W : Writer) (escaper : Escaper) (data : Text) : Walk Unit :=
  put (escaper.encode none (Text.withLineEndings W.settings.separator data))

/-- Writes a comment. -/
def putComment (W : Writer) (data : Text) : Walk Unit := do
  putString "<!--"
  W.putMarkup .comment data
  putString "-->"

/-- Writes a processing instruction. -/
def putInstruction (W : Writer) (target : Text) (data : Option Text) : Walk Unit := do
  putString "<?"
  W.putMarkup .instructionTarget target
  let data := data.getD []
  if data.isEmpty then pure ()
  else
    putString " "
    W.putMarkup .instruction data
  putString "?>"

/-- Writes a CDATA section. -/
def putCData (W : Writer) (data : Text) : Walk Unit :=
  putAll (CData.pieces W.settings.charset.canEncode data)

/-- Writes a node without children, if it may stand in an element. -/
def putLeaf (W : Writer) (escaper : Escaper) : Payload → Walk Unit
  | .text data => W.putText escaper data
  | .cdata data => W.putCData data
  | .comment data => W.putComment data
  | .instruction target data => W.putInstruction target data
  | _ => pure ()

/-! ### Start tags -/

/-- Writes an attribute with the space before it. -/
def putAttribute (W : Writer) (escaper : Escaper) (a : Attribute) : Walk Unit := do
  let quote := Entity.chooseQuote a.value
  putString " "
  W.putMarkup .attributeName a.name.text
  putString "="
  put [quote]
  put (escaper.encode (some quote) a.value)
  put [quote]

/-- Writes some attributes. -/
def putAttributes (W : Writer) (escaper : Escaper) : List Attribute → Walk Unit
  | [] => pure ()
  | a :: attributes => do
      W.putAttribute escaper a
      W.putAttributes escaper attributes

/-- What the profile knows of an element with a name. -/
def keyOf (name : QName) : ElementKey :=
  ⟨name.namespaceUri, name.localName⟩

/-- Writes a start tag without the characters that end it. -/
def putStartTag (W : Writer) (escaper : Escaper) (f : Frame) : Walk Unit := do
  putString "<"
  W.putMarkup .elementName f.name.text
  W.putAttributes escaper (Attribute.sorted W.profile (keyOf f.name) f.attributes)

end Writer

end XmlScribe
