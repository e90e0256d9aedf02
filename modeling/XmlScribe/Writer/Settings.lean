/-
**What a writer is told to do.**

Main definitions:

* `Heading` — a document type to be written in place of that of the document;
* `Settings` — all settings of a writer;
* `Settings.standard` — the settings that hold if nothing else is said;
* `Settings.withEncoding`, `Settings.withHeading` — the settings that can be refused.
-/

import XmlScribe.Charset.Basic
import XmlScribe.Entity.Escape
import XmlScribe.Writer.Fault

set_option autoImplicit false

namespace XmlScribe

/-- The name and the identifiers of a document type. -/
structure Heading where
  /-- The name of the document element. -/
  name : Text
  /-- The public identifier. -/
  publicId : Option Text
  /-- The system identifier. -/
  systemId : Option Text
deriving DecidableEq, Repr

/-- The settings of a writer. -/
structure Settings where
  /-- The content is laid out on lines, by a profile. -/
  formatted : Bool
  /-- Declared entities with a single character are used. -/
  declaredEntities : Bool
  /-- When the predefined entities are used. -/
  predefined : PredefinedUse
  /-- Control characters are escaped. -/
  escapeControl : Bool
  /-- Characters outside ASCII are escaped. -/
  escapeNonAscii : Bool
  /-- Private use characters are escaped. -/
  escapePrivateUse : Bool
  /-- Missing namespace declarations are added before anything is written. -/
  completeNamespaces : Bool
  /-- Missing declarations of prefixes are added at the top where possible. -/
  declareAtTop : Bool
  /-- The text for a level of indentation. -/
  indent : Text
  /-- The text that ends a line. -/
  separator : Text
  /-- A line ends after the document element. -/
  endsWithLine : Bool
  /-- The end tag of an element with blocks in it stands on a line of its own. -/
  endTagOnLine : Bool
  /-- A byte order mark is written. -/
  byteOrderMark : Bool
  /-- The XML declaration is written. -/
  xmlDeclaration : Bool
  /-- An element without content is written as a single tag. -/
  emptyTags : Bool
  /-- The name of the encoding, as the XML declaration has it. -/
  encodingLabel : Text
  /-- The character set. -/
  charset : Charset
  /-- The document type to be written in place of that of the document. -/
  heading : Option Heading

namespace Settings

/-- The settings that hold if nothing else is said. -/
def standard : Settings where
  formatted := false
  declaredEntities := true
  predefined := .asNeeded
  escapeControl := false
  escapeNonAscii := false
  escapePrivateUse := false
  completeNamespaces := true
  declareAtTop := true
  indent := ['\t']
  separator := ['\n']
  endsWithLine := true
  endTagOnLine := true
  byteOrderMark := false
  xmlDeclaration := true
  emptyTags := true
  encodingLabel := "UTF-8".toList
  charset := .utf8
  heading := none

/-- The settings with another encoding, which must be known under the label. -/
def withEncoding (settings : Settings) (label : Text) : Except SaveFault Settings :=
  match Charset.forWriting? label with
  | some charset => .ok { settings with charset := charset, encodingLabel := label }
  | none => .error (.unknownEncoding label)

/-- The settings with a document type.  A public identifier needs a system identifier beside it. -/
def withHeading (settings : Settings) (heading : Heading) : Except SaveFault Settings :=
  if Doctype.hasValidIds heading.publicId heading.systemId then
    .ok { settings with heading := some heading }
  else .error .publicIdAlone

/-- How text is escaped, given the entities of the document. -/
def escaper (settings : Settings) (table : EntityTable) : Escaper where
  table := table
  predefined := settings.predefined
  control := settings.escapeControl
  nonAscii := settings.escapeNonAscii
  privateUse := settings.escapePrivateUse
  canEncode := settings.charset.canEncode

end Settings

end XmlScribe
