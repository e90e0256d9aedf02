/-
**Writing documents.**

A document is written in this order: byte order mark, XML declaration, document type, and then the
comments, processing instructions and elements of the document as they come.  Before anything is
written, the document type is checked and missing namespace declarations are added.

Main definitions:

* `Writer.documentWalk`, `Writer.elementWalk` — the walks that write a document, an element;
* `Writer.documentText` — the document as a text;
* `OutputBuffer.deliver` — the pieces of a walk are handed to a sink;
* `Saved` — what has become of forest and sink;
* `Writer.saveDocument`, `Writer.saveElement` — a document, an element as bytes in a sink.
-/

import XmlScribe.Output.Buffer
import XmlScribe.Writer.Element

set_option autoImplicit false

namespace XmlScribe

namespace Writer

open Walk

/-! ### The walks -/

/-- The entities that a document type asks to be used. -/
def entityTable (W : Writer) (doctype : Option Doctype) : Except SaveFault EntityTable :=
  let decls :=
    if W.settings.declaredEntities then (doctype.map Doctype.entities).getD [] else []
  (EntityTable.build decls (W.settings.predefined == .always)).mapError .conflictingEntity

/-- How text is escaped in a document with this document type. -/
def escaperFor (W : Writer) (doctype : Option Doctype) : Walk Escaper :=
  match W.entityTable doctype with
  | .ok table => pure (W.settings.escaper table)
  | .error fault => throw fault

/-- Adds the namespace declarations that an element and those below it lack. -/
def completeFrom (W : Writer) (element : NodeId) : Walk Unit :=
  if W.settings.completeNamespaces then
    complete element (if W.settings.declareAtTop then some element else none)
  else pure ()

/-- Writes the byte order mark if it is wanted. -/
def putMark (wanted : Bool) : Walk Unit :=
  if wanted then putPiece .mark else pure ()

/-- The document type to be written, with its internal subset. -/
def headingFor (W : Writer) (doctype : Option Doctype) : Option (Heading × Option Text) :=
  match W.settings.heading with
  | some heading => some (heading, none)
  | none => doctype.map fun d => (⟨d.name, d.publicId, d.systemId⟩, d.subset)

/-- Refuses a document type with a public but no system identifier, if it is to be written. -/
def checkDoctype (W : Writer) (doctype : Option Doctype) : Walk Unit :=
  match W.settings.heading, doctype with
  | none, some d =>
      if Doctype.hasValidIds d.publicId d.systemId then pure () else throw .publicIdAlone
  | _, _ => pure ()

/-- Writes a comment or processing instruction outside the document element.  It stands on a line
of its own. -/
def putBeside (W : Writer) (escaper : Escaper) (afterRoot : Bool) (payload : Payload) :
    Walk Unit := do
  if afterRoot then W.putNewline
  W.putLeaf escaper payload
  if !afterRoot then W.putNewline

/-- Writes some children of a document, and says whether an element was among them or before. -/
def putChildren (W : Writer) (escaper : Escaper) : (afterRoot : Bool) → List NodeId → Walk Bool
  | afterRoot, [] => pure afterRoot
  | afterRoot, id :: ids => do
      match (← forest).payload? id with
      | some (.element _ _) =>
          W.putElement escaper id 0 W.settings.formatted
          W.putChildren escaper true ids
      | some (.comment data) =>
          W.putBeside escaper afterRoot (.comment data)
          W.putChildren escaper afterRoot ids
      | some (.instruction target data) =>
          W.putBeside escaper afterRoot (.instruction target data)
          W.putChildren escaper afterRoot ids
      | _ => W.putChildren escaper afterRoot ids

/-- Writes the XML declaration and the document type. -/
def putProlog (W : Writer) (declaration : Declaration) (doctype : Option Doctype) :
    Walk Unit := do
  if W.settings.xmlDeclaration then
    W.putDeclaration declaration
    W.putNewline
  match W.headingFor doctype with
  | some (heading, subset) =>
      W.putDoctype heading subset
      W.putNewline
  | none => pure ()

/-- Writes a document. -/
def documentWalk (W : Writer) (doc : NodeId) (mark : Bool) : Walk Unit := do
  let F ← forest
  W.checkDoctype (F.doctype? doc)
  let escaper ← W.escaperFor (F.doctype? doc)
  match F.root? doc with
  | some root => W.completeFrom root
  | none => pure ()
  putMark mark
  W.putProlog (F.declaration doc) (F.doctype? doc)
  if (← W.putChildren escaper false (F.children doc)) && W.settings.endsWithLine then
    W.putNewline

/-- Writes an element without what surrounds it. -/
def elementWalk (W : Writer) (element : NodeId) : Walk Unit := do
  let F ← forest
  let escaper ← W.escaperFor ((F.owner? element).bind F.doctype?)
  putMark W.settings.byteOrderMark
  W.completeFrom element
  W.putElement escaper element 0 W.settings.formatted

/-- What a walk through a forest comes to. -/
def runWalk (W : Writer) (F : Forest) (walk : Walk Unit) : Except SaveFault Unit × WalkState :=
  walk.run.run ⟨F, W.disturbance, 0, []⟩

/-! ### Texts -/

/-- The text of a trace that has its latest step first. -/
def textOf (trace : List Step) : Text :=
  trace.reverse.flatMap fun step => step.piece.toText

/-- A document as a text, and the forest after it has been written.  The text has no byte order
mark; characters that the character set lacks are escaped all the same. -/
def documentText (W : Writer) (F : Forest) (doc : NodeId) : Forest × Except SaveFault Text :=
  let (outcome, st) := W.runWalk F (W.documentWalk doc false)
  (st.forest, outcome.map fun _ => textOf st.trace)

end Writer

/-! ### Bytes -/

namespace OutputBuffer

/-- The buffer after a piece has been written. -/
def accept (b : OutputBuffer) : Piece → OutputBuffer × Option SinkFault
  | .text s => b.writeText s
  | .mark =>
      match b.writeMark with
      | .ok c => (c, none)
      | .error fault => (b, some fault)

/-- The buffer after the pieces of some steps have been written, up to the first that the sink
refuses; in that case with the fault and the forest at its time. -/
def deliver : OutputBuffer → List Step → OutputBuffer × Option (SinkFault × Forest)
  | b, [] => (b, none)
  | b, step :: steps =>
      match b.accept step.piece with
      | (c, none) => c.deliver steps
      | (c, some fault) => (c, some (fault, step.forest))

end OutputBuffer

/-- What has become of forest and sink. -/
structure Saved where
  /-- The forest. -/
  forest : Forest
  /-- The sink. -/
  sink : Sink
  /-- Why writing has failed, if it has. -/
  fault : Option SaveFault

namespace Writer

/-- What becomes of forest and sink when a walk is written to the sink.  A failure of the sink
comes before whatever the walk meets later; nothing that waits in the buffer is written when the
walk fails. -/
def save (W : Writer) (F : Forest) (walk : Walk Unit) (sink : Sink) : Saved :=
  let (outcome, st) := W.runWalk F walk
  match (OutputBuffer.ofSink W.settings.charset sink).deliver st.trace.reverse, outcome with
  | (b, some (fault, G)), _ => ⟨G, b.sink, some (.sink fault)⟩
  | (b, none), .error fault => ⟨st.forest, b.sink, some fault⟩
  | (b, none), .ok () =>
      let (c, total) := b.flush
      match total with
      | .ok _ => ⟨st.forest, c.sink, none⟩
      | .error fault => ⟨st.forest, c.sink, some (.sink fault)⟩

/-- Writes a document to a sink. -/
def saveDocument (W : Writer) (F : Forest) (doc : NodeId) (sink : Sink) : Saved :=
  W.save F (W.documentWalk doc W.settings.byteOrderMark) sink

/-- Writes an element to a sink. -/
def saveElement (W : Writer) (F : Forest) (element : NodeId) (sink : Sink) : Saved :=
  W.save F (W.elementWalk element) sink

end Writer

end XmlScribe
