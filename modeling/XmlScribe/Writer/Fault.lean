/-
**Why a document cannot be written.**

Main definitions:

* `Construct` — the parts of a document in which no character reference can stand;
* `SaveFault` — the reasons;
* `SaveFault.message`, `SaveFault.causes` — their wordings.
-/

import XmlScribe.Doctype.Basic
import XmlScribe.Entity.Basic
import XmlScribe.Output.Buffer
import XmlScribe.Text.Shown
import XmlScribe.Tree.Fault

set_option autoImplicit false

namespace XmlScribe

/-- A part of a document in which no character reference can stand. -/
inductive Construct where
  /-- The name of an element. -/
  | elementName
  /-- The name of an attribute. -/
  | attributeName
  /-- A comment. -/
  | comment
  /-- The target of a processing instruction. -/
  | instructionTarget
  /-- The data of a processing instruction. -/
  | instruction
  /-- The name of a document type. -/
  | doctypeName
  /-- An identifier of a document type. -/
  | doctypeId
  /-- The internal subset of a document type. -/
  | subset
deriving DecidableEq, Repr

/-- The wording of the construct. -/
def Construct.text : Construct → String
  | .elementName => "element name"
  | .attributeName => "attribute name"
  | .comment => "comment"
  | .instructionTarget => "processing instruction target"
  | .instruction => "processing instruction"
  | .doctypeName => "document type name"
  | .doctypeId => "document type identifier"
  | .subset => "internal subset"

/-- Why a document cannot be written. -/
inductive SaveFault where
  /-- A document type has a public but no system identifier. -/
  | publicIdAlone
  /-- A declaration gives a predefined entity another character. -/
  | conflictingEntity (conflict : EntityConflict)
  /-- A namespace declaration cannot be added. -/
  | tree (fault : TreeFault)
  /-- Children of an element were added or removed while they were written. -/
  | childrenChanged (expected found : Nat)
  /-- No character set has the label. -/
  | unknownEncoding (label : Text)
  /-- The character set lacks a character where no reference to it can stand. -/
  | unencodable (c : Char) (charset : String) (construct : Construct)
  /-- The destination fails. -/
  | sink (fault : SinkFault)
deriving DecidableEq, Repr

/-- The wording of the conflict. -/
def EntityConflict.message (conflict : EntityConflict) : String :=
  "entity '" ++ String.ofList conflict.name ++ "' is predefined as "
    ++ String.ofList (Text.shownChar conflict.expected) ++ " but declared as "
    ++ String.ofList (Text.shownChar conflict.declared)

namespace SaveFault

/-- The wording of the fault. -/
def message : SaveFault → String
  | .publicIdAlone =>
      "invalid configuration: a document type with a public identifier requires a system identifier"
  | .conflictingEntity conflict => conflict.message
  | .tree fault => fault.message
  | .childrenChanged expected found =>
      "child list modified during traversal: expected " ++ toString expected
        ++ " children, found " ++ toString found
  | .unknownEncoding label => "unknown encoding '" ++ String.ofList label ++ "'"
  | .unencodable c charset construct =>
      construct.text ++ " contains " ++ String.ofList (Text.shownChar c) ++ " ("
        ++ String.ofList (Text.codePoint c) ++ "), which " ++ charset ++ " cannot represent"
  | .sink fault => "I/O error: " ++ fault.message

/-- The wordings of the faults behind the fault. -/
def causes : SaveFault → List String
  | .tree fault => [fault.message]
  | .sink fault => [fault.message]
  | _ => []

end SaveFault

end XmlScribe
