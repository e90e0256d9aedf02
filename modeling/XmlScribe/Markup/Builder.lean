/-
**From events to a document.**

The events of a document are taken one after the other.  A start tag opens an element, which
collects items until its end tag; names are resolved against the namespace declarations of the open
elements; references are replaced by what the document type declares.

Main definitions:

* `ReadFault` — why a document cannot be read;
* `Subsets` — the external definitions that are at hand;
* `Builder` — the elements that are open and all that has been read;
* `Builder.step` — the effect of one event;
* `Builder.finish` — the document, if no element is open.
-/

import XmlScribe.Doctype.Entities
import XmlScribe.Document.Basic
import XmlScribe.Document.Rules
import XmlScribe.Files.Place
import XmlScribe.Markup.Event

set_option autoImplicit false

namespace XmlScribe

/-- Why a document cannot be read. -/
inductive ReadFault where
  /-- The markup is faulty. -/
  | markup (fault : MarkupFault)
  /-- A node is not allowed where it stands. -/
  | tree (fault : TreeFault)
  /-- No declaration in scope binds a prefix. -/
  | unboundPrefix (pfx : Text)
  /-- The document type declaration is faulty. -/
  | doctype (fault : DoctypeFault)
  /-- No character set has the declared label. -/
  | unknownEncoding (label : Text)
  /-- The bytes are no text of the character set. -/
  | undecodable (charset : String)
  /-- The bytes cannot be had. -/
  | file (fault : FileFault)
deriving DecidableEq, Repr

namespace ReadFault

/-- The wording of the fault. -/
def message : ReadFault → String
  | .markup fault => "malformed XML: " ++ fault.message
  | .tree fault => fault.message
  | .unboundPrefix pfx => "namespace prefix '" ++ String.ofList pfx ++ "' is not bound"
  | .doctype fault => "malformed document type: " ++ fault.message
  | .unknownEncoding label => "unknown encoding '" ++ String.ofList label ++ "'"
  | .undecodable charset => "input is not valid " ++ charset
  | .file fault => "I/O error: " ++ fault.message

/-- The wordings of the faults behind the fault, from the nearest to the deepest. -/
def causes : ReadFault → List String
  | .markup fault => fault.message :: fault.causes
  | .tree fault => [fault.message]
  | .file fault => [fault.message]
  | _ => []

end ReadFault

/-- The external definitions that are at hand, under their public and their system identifiers. -/
structure Subsets where
  /-- Definitions by public identifier. -/
  byPublicId : List (Text × Text)
  /-- Definitions by system identifier. -/
  bySystemId : List (Text × Text)

namespace Subsets

/-- No definition at all. -/
def none : Subsets := ⟨[], []⟩

/-- The definition with these identifiers.  The public identifier is looked up first. -/
def resolve? (subsets : Subsets) (publicId : Option Text) (systemId : Text) : Option Text :=
  (publicId.bind fun id => subsets.byPublicId.lookup id).or (subsets.bySystemId.lookup systemId)

end Subsets

/-- What a start tag declares: prefixes, or the default namespace, and their namespaces. -/
abbrev Bindings := List (Option Text × Text)

/-- An element whose end tag has not been read. -/
structure OpenElement where
  /-- The name of the element. -/
  name : QName
  /-- Its attributes. -/
  attributes : List Attribute
  /-- What its start tag declares. -/
  bindings : Bindings
  /-- Its items so far, the last one first. -/
  content : List Item

/-- The state of reading: the open elements and all that has been read. -/
structure Builder where
  /-- What the XML declaration says. -/
  declaration : Declaration
  /-- The replacement texts of the declared entities. -/
  entities : List (Text × Text)
  /-- The open elements, innermost first. -/
  opened : List OpenElement
  /-- The items outside all elements, the last one first. -/
  content : List Item

namespace Builder

/-- Nothing has been read. -/
def start : Builder := ⟨.none, [], [], []⟩

/-! ### Items -/

/-- The kind of an item. -/
def typeOf : Item → NodeType
  | .element _ _ _ => .element
  | .text _ => .text
  | .cdata _ => .cdata
  | .comment _ => .comment
  | .instruction _ _ => .instruction
  | .doctype _ => .doctype

/-- Refuses an item of a kind that cannot stand here. -/
def checkPlace (b : Builder) (type : NodeType) : Except ReadFault Unit :=
  match b.opened with
  | _ :: _ => if NodeType.element.mayHold type then .ok () else .error (.tree .hierarchy)
  | [] =>
      if !NodeType.document.mayHold type then .error (.tree .hierarchy)
      else if type.isUniqueInDocument && b.content.any (typeOf · == type) then
        .error (.tree .hierarchy)
      else .ok ()

/-- The state with one more item in the innermost open element, or outside all elements. -/
def push (b : Builder) (item : Item) : Builder :=
  match b.opened with
  | [] => { b with content := item :: b.content }
  | e :: outer => { b with opened := { e with content := item :: e.content } :: outer }

/-- The state with one more item, if it can stand here. -/
def append (b : Builder) (item : Item) : Except ReadFault Builder :=
  (b.checkPlace (typeOf item)).map fun _ => b.push item

theorem append_eq_ok_iff {b b' : Builder} {item : Item} :
    b.append item = .ok b' ↔ b.checkPlace (typeOf item) = .ok () ∧ b' = b.push item := by
  rw [append]
  cases b.checkPlace (typeOf item) with
  | error fault => simp [Except.map]
  | ok place => simp [Except.map, eq_comm]

/-! ### References -/

/-- The text with its references replaced. -/
def expand (b : Builder) (raw : Text) : Except ReadFault Text :=
  (Reference.expand (fun name => b.entities.lookup name) raw).mapError fun fault =>
    .markup (.reference fault)

/-- The value of an attribute with every white space character replaced by a space. -/
def normalizeValue (raw : Text) : Text :=
  raw.map fun c => if c = '\t' ∨ c = '\n' ∨ c = '\r' then ' ' else c

/-! ### Namespaces -/

/-- The namespace that a list of declarations, innermost first, binds to a prefix.  The result is
missing for an unbound prefix; an empty namespace stands for none. -/
def boundTo? (scopes : List Bindings) (pfx : Option Text) : Option Text :=
  scopes.findSome? fun bindings => bindings.reverse.lookup pfx

/-- The namespace of a prefix, or of names without a prefix. -/
def namespaceOf (scopes : List Bindings) (pfx : Option Text) : Except ReadFault (Option Text) :=
  if pfx = some xmlPrefix then .ok (some xmlUri)
  else if pfx = some xmlnsPrefix then .ok (some xmlnsUri)
  else
    match boundTo? scopes pfx, pfx with
    | some uri, _ => .ok (QName.someNamespace (some uri))
    | none, none => .ok none
    | none, some p => .error (.unboundPrefix p)

/-! ### Tags -/

/-- The attributes of a start tag with their values, up to the first fault. -/
def readAttributes (b : Builder) (content : Text) : Except ReadFault (List (Text × Text)) := do
  let (raw, fault) := Tag.attributes content
  let pairs ← raw.mapM fun a => do return (a.name, ← b.expand (normalizeValue a.value))
  match fault with
  | some fault => throw (.markup (.attribute fault))
  | none => return pairs

/-- What the attributes of a start tag declare. -/
def bindingsOf (pairs : List (Text × Text)) : Bindings :=
  pairs.filterMap fun (name, value) =>
    (Attribute.prefixOfDeclarationName? name).map fun declared => (declared, value)

/-- The attributes of an element with one more from its start tag. -/
def addAttribute (scopes : List Bindings) (attributes : List Attribute) (pair : Text × Text) :
    Except ReadFault (List Attribute) :=
  let (name, value) := pair
  if Attribute.isDeclarationName name then
    match QName.ofText (some xmlnsUri) name with
    | .ok q => .ok (Attribute.setExpanded q value attributes)
    | .error fault => .error (.tree fault)
  else
    match QName.splitAtColon? name with
    | some (pfx, _) => do
        let uri ← namespaceOf scopes (some pfx)
        match QName.ofText uri name with
        | .ok q => return Attribute.setExpanded q value attributes
        | .error fault => throw (.tree fault)
    | none =>
        match Name.check name with
        | .ok _ => .ok (Attribute.setPlain name value attributes)
        | .error fault => .error (.tree fault)

/-- The element that a start tag opens. -/
def openElement (b : Builder) (content : Text) : Except ReadFault OpenElement := do
  let pairs ← b.readAttributes content
  let bindings := bindingsOf pairs
  let scopes := bindings :: b.opened.map OpenElement.bindings
  let text := Tag.name content
  let uri ← namespaceOf scopes ((QName.splitAtColon? text).map Prod.fst)
  let name ← (QName.ofText uri text).mapError .tree
  let attributes ← pairs.foldlM (addAttribute scopes) []
  b.checkPlace .element
  return ⟨name, attributes, bindings, []⟩

/-- The element with the items that it has collected. -/
def close (e : OpenElement) : Item :=
  .element e.name e.attributes e.content.reverse

/-! ### Declarations -/

/-- The value of the first attribute with this name, unless a faulty attribute comes before. -/
def attributeValue? (attributes : List RawAttribute × Option AttributeFault) (name : Text) :
    Except ReadFault (Option Text) :=
  match attributes.1.find? (·.name = name), attributes.2 with
  | some a, _ => .ok (some a.value)
  | none, none => .ok none
  | none, some fault => .error (.markup (.attribute fault))

/-- The version in an XML declaration, which must come first. -/
def versionOf (attributes : List RawAttribute × Option AttributeFault) : Except ReadFault Text :=
  match attributes with
  | (a :: _, _) =>
      if a.name = "version".toList then .ok a.value
      else .error (.markup (.form (.missingVersion (some a.name))))
  | ([], some fault) => .error (.markup (.attribute fault))
  | ([], none) => .error (.markup (.form (.missingVersion none)))

/-- The declaration after an XML declaration with this content.  What it does not mention stays as
it was. -/
def readDeclaration (old : Declaration) (content : Text) : Except ReadFault Declaration := do
  let attributes := Tag.declarationAttributes content
  let version ← versionOf attributes
  let encoding ← attributeValue? attributes "encoding".toList
  let standalone ← attributeValue? attributes "standalone".toList
  return ⟨some version, encoding.or old.encoding,
    (standalone.map (· == "yes".toList)).or old.standalone⟩

/-- The document type with this content, and the replacement texts of its entities. -/
def readDoctype (subsets : Subsets) (content : Text) :
    Except ReadFault (Doctype × List (Text × Text)) := do
  let header ← (Doctype.parse content).mapError .doctype
  (Name.check header.name).mapError .tree
  let inner ← (Doctype.parseEntities (header.subset.getD [])).mapError .doctype
  let outer ←
    match header.systemId.bind (subsets.resolve? header.publicId) with
    | some subset => (Doctype.parseEntities subset).mapError .doctype
    | none => pure []
  let decls := inner ++ outer
  let bare : Doctype := ⟨header.name, header.publicId, header.systemId, header.subset, []⟩
  return (decls.foldl Doctype.addEntity bare,
    decls.filterMap fun decl => decl.value?.map fun value => (decl.name, value))

/-! ### Events -/

/-- The effect of an event. -/
def step (subsets : Subsets) (b : Builder) : Event → Except ReadFault Builder
  | .declaration content => do
      return { b with declaration := ← readDeclaration b.declaration content }
  | .doctype content => do
      let (d, entities) ← readDoctype subsets content
      { b with entities := b.entities ++ entities }.append (.doctype d)
  | .startTag content closed => do
      let e ← b.openElement content
      if closed then return b.push (close e)
      else return { b with opened := e :: b.opened }
  | .endTag _ =>
      match b.opened with
      | [] => .ok b
      | e :: outer => .ok ({ b with opened := outer }.push (close e))
  | .text raw =>
      if b.opened.isEmpty && Text.isAllBlank raw then .ok b
      else do
        let data ← b.expand raw
        if data.isEmpty then return b else b.append (.text data)
  | .cdata data => b.append (.cdata data)
  | .comment data => b.append (.comment data)
  | .instruction target data => do
      (Instruction.checkTarget target).mapError .tree
      let data := Text.trimStart data
      b.append (.instruction target (if data.isEmpty then none else some data))

/-- The document, if no element is open. -/
def finish (b : Builder) : Except ReadFault Document :=
  match b.opened with
  | [] => .ok ⟨b.declaration, b.content.reverse⟩
  | e :: _ => .error (.markup (.form (.missingEndTag e.name.text)))

end Builder

end XmlScribe
