/-
**What can be wrong with markup.**

Main definitions:

* `LexicalFault` — markup that does not end or is none at all;
* `FormFault` — tags that do not match, and incomplete declarations;
* `AttributeFault` — attributes that cannot be read;
* `MarkupFault` — all of these and faulty references;
* `MarkupFault.message`, `MarkupFault.causes` — the wording, and the wordings of what is behind it.
-/

import XmlScribe.Entity.Reference

set_option autoImplicit false

namespace XmlScribe

/-- Markup that does not end, or that is none. -/
inductive LexicalFault where
  /-- What follows `<!` is no markup. -/
  | unknownMarkup
  /-- A CDATA section does not end. -/
  | unclosedCData
  /-- A comment does not end. -/
  | unclosedComment
  /-- A document type declaration does not end. -/
  | unclosedDoctype
  /-- A processing instruction or an XML declaration does not end. -/
  | unclosedInstruction
  /-- A tag does not end. -/
  | unclosedTag
deriving DecidableEq, Repr

/-- The wording of the fault. -/
def LexicalFault.message : LexicalFault → String
  | .unknownMarkup => "unknown or missed symbol in markup"
  | .unclosedCData => "CDATA not closed: `]]>` not found before end of input"
  | .unclosedComment => "comment not closed: `-->` not found before end of input"
  | .unclosedDoctype => "DOCTYPE not closed: `>` not found before end of input"
  | .unclosedInstruction =>
      "processing instruction or xml declaration not closed: `?>` not found before end of input"
  | .unclosedTag => "tag not closed: `>` not found before end of input"

/-- Markup that is complete but does not make a document. -/
inductive FormFault where
  /-- The XML declaration does not begin with the version, but perhaps with another attribute. -/
  | missingVersion (found : Option Text)
  /-- The document type declaration has no name. -/
  | missingDoctypeName
  /-- An element is open at the end of the document. -/
  | missingEndTag (name : Text)
  /-- There is an end tag where no element is open. -/
  | unmatchedEndTag (name : Text)
  /-- An end tag has another name than the element that is open. -/
  | mismatchedEndTag (expected found : Text)
deriving DecidableEq, Repr

/-- The wording of the fault. -/
def FormFault.message : FormFault → String
  | .missingVersion none => "an XML declaration does not contain `version` attribute"
  | .missingVersion (some found) =>
      "an XML declaration must start with `version` attribute, but in starts with `"
        ++ String.ofList found ++ "`"
  | .missingDoctypeName =>
      "`<!DOCTYPE>` declaration does not contain a name of a document type"
  | .missingEndTag name =>
      "start tag not closed: `</" ++ String.ofList name ++ ">` not found before end of input"
  | .unmatchedEndTag name =>
      "close tag `</" ++ String.ofList name ++ ">` does not match any open tag"
  | .mismatchedEndTag expected found =>
      "expected `</" ++ String.ofList expected ++ ">`, but `</" ++ String.ofList found
        ++ ">` was found"

/-- Why an attribute cannot be read.  Places are counted in UTF-8 bytes from the start of the
tag. -/
inductive AttributeFault where
  /-- No equals sign follows the name. -/
  | equalsExpected (place : Nat)
  /-- No value follows the equals sign. -/
  | valueExpected (place : Nat)
  /-- The value has no quotation marks. -/
  | unquoted (place : Nat)
  /-- The value has no second quotation mark. -/
  | unclosedQuote (place : Nat) (quote : Char)
  /-- The name stands a second time. -/
  | duplicated (place earlier : Nat)
deriving DecidableEq, Repr

/-- The wording of the fault. -/
def AttributeFault.message : AttributeFault → String
  | .equalsExpected place =>
      "position " ++ toString place
        ++ ": attribute key must be directly followed by `=` or space"
  | .valueExpected place =>
      "position " ++ toString place ++ ": `=` must be followed by an attribute value"
  | .unquoted place =>
      "position " ++ toString place ++ ": attribute value must be enclosed in `\"` or `'`"
  | .unclosedQuote place quote =>
      "position " ++ toString place ++ ": missing closing quote `" ++ String.singleton quote
        ++ "` in attribute value"
  | .duplicated place earlier =>
      "position " ++ toString place ++ ": duplicated attribute, previous declaration at position "
        ++ toString earlier

/-- Why markup cannot be read. -/
inductive MarkupFault where
  /-- Markup does not end, or is none. -/
  | lexical (fault : LexicalFault)
  /-- Markup does not make a document. -/
  | form (fault : FormFault)
  /-- An attribute cannot be read. -/
  | attribute (fault : AttributeFault)
  /-- A reference cannot be replaced. -/
  | reference (fault : ReferenceFault)
deriving DecidableEq, Repr

namespace MarkupFault

/-- The wording of the fault. -/
def message : MarkupFault → String
  | .lexical fault => "syntax error: " ++ fault.message
  | .form fault => "ill-formed document: " ++ fault.message
  | .attribute fault => "error while parsing attribute: " ++ fault.message
  | .reference fault => fault.message

/-- The wordings of the faults behind the fault, from the nearest to the deepest. -/
def causes : MarkupFault → List String
  | .lexical fault => [fault.message]
  | .form fault => [fault.message]
  | .attribute fault => [fault.message]
  | .reference (.character (.number fault)) =>
      [(ReferenceFault.character (.number fault)).message, (CharRefFault.number fault).message,
       fault.message]
  | .reference (.character fault) =>
      [(ReferenceFault.character fault).message, fault.message]
  | .reference fault => [fault.message]

end MarkupFault

end XmlScribe
