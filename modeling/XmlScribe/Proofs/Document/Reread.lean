/-
**A written document is read again.**

The text of a document that has been read consists of events that are read back, so it is scanned as
these events.  Reading them gives the document type without an empty subset, and then the items of
the fragments that were written.

Main definitions:

* `Document.IsWritable` — nothing in the document is lost when it is written;
* `Writer.IsFaithful` — the writer adds nothing but white space and knows its encoding;
* `Writer.readAgain` — the document that is read from the text.

Main results:

* `Writer.parse_eventsAround` — reading a prolog and fragments gives the items of the fragments;
* `Writer.parse_eventsOf` — reading the text gives that document.
-/

import XmlScribe.Document.Read
import XmlScribe.Proofs.Charset.Label
import XmlScribe.Proofs.Doctype.Parts
import XmlScribe.Proofs.Text.LineEnding
import XmlScribe.Proofs.Writer.Entities
import XmlScribe.Proofs.Writer.Scanned

set_option autoImplicit false

namespace XmlScribe

open Builder Fragment

/-- Nothing in the document is lost when it is written: the version can stand between quotation
marks, the names of the entities in references, and all characters can be referred to. -/
structure Document.IsWritable (doc : Document) : Prop where
  /-- The version. -/
  version : ∀ version, doc.declaration.version = some version → '"' ∉ version
  /-- The names of the entities. -/
  entities : ∀ d, doc.doctype? = some d → ∀ decl ∈ d.entities, Name.isName decl.name = true
  /-- The characters. -/
  hasNoNull : Item.Everywhere Item.HasNoNull doc.content

namespace Writer

/-- The writer adds nothing but white space, and knows the encoding that it mentions. -/
structure IsFaithful (W : Writer) : Prop where
  /-- The document type is that of the document. -/
  heading : W.settings.heading = none
  /-- Lines end with a line feed. -/
  separator : W.settings.separator = ['\n']
  /-- The label is known. -/
  label : Charset.forWriting? W.settings.encodingLabel = some W.settings.charset
  /-- Layout is white space. -/
  layout : W.settings.formatted = true → W.IsBlankLayout

/-- What the XML declaration says when it is read again. -/
def declarationAgain (W : Writer) (declaration : Declaration) : Declaration :=
  if W.settings.xmlDeclaration then
    ⟨some (declaration.version.getD ['1', '.', '0']),
      some (Text.unifyLineEndings W.settings.encodingLabel), declaration.standalone⟩
  else .none

/-- The document type as an item, when it is read again. -/
def doctypeAgain (doctype? : Option Doctype) : List Item :=
  (doctype?.map fun d => Item.doctype d.withoutEmptySubset).toList

/-- The document that is read from what has been written. -/
def readAgain (W : Writer) (escaper : Escaper) (doc : Document) : Document where
  declaration := W.declarationAgain doc.declaration
  content := doctypeAgain doc.doctype? ++
    itemsOutside (W.bodyFragments escaper (Item.joined doc.content))

variable {W : Writer} {escaper : Escaper} {subsets : Subsets} {doc : Document}

/-! ### Line endings -/

theorem not_mem_version (hs : doc.IsSound subsets) :
    '\r' ∉ doc.declaration.version.getD ['1', '.', '0'] := by
  cases hv : doc.declaration.version with
  | none => decide
  | some version => exact (hs.declaration version hv).2

/-- What follows the XML declaration, once line endings have become line feeds. -/
theorem endLinesWith_afterDeclaration (hs : doc.IsSound subsets) {W' : Writer}
    (hsep : W.settings.separator ∈ Text.lineEndings) (hsep' : W'.settings.separator = ['\n'])
    {fragments read : List Fragment} (hhead : (Fragment.text fragments).head? ≠ some '\n')
    (hbody : Text.endLinesWith ['\n'] (Fragment.text fragments) = Fragment.text read) :
    ((W.doctypeEvents doc.doctype? ++ Fragment.events fragments).flatMap Event.source).head? ≠
        some '\n' ∧
      Text.endLinesWith ['\n']
          ((W.doctypeEvents doc.doctype? ++ Fragment.events fragments).flatMap Event.source) =
        (W'.doctypeEvents doc.doctype? ++ Fragment.events read).flatMap Event.source := by
  cases hd : doc.doctype? with
  | none => exact ⟨hhead, hbody⟩
  | some d =>
      obtain ⟨content, entities, hread, -, hr⟩ := isSoundOutside_of_doctype? hs hd
      have hwritten := Doctype.not_mem_written hread hr
      have hdoctype : '\r' ∉ (Event.doctype
          (Doctype.written d.name d.publicId d.systemId d.subset)).source := by
        simp [Event.source, hwritten]
      have hsource : ∀ (V : Writer) (fragments : List Fragment),
          (V.doctypeEvents (some d) ++ Fragment.events fragments).flatMap Event.source =
            (Event.doctype (Doctype.written d.name d.publicId d.systemId d.subset)).source ++
              (V.settings.separator ++ Fragment.text fragments) := by
        intro V fragments
        simp [doctypeEvents, Event.source, Fragment.text]
      rw [hsource, hsource]
      refine ⟨by simp [Event.source], ?_⟩
      rw [Text.endLinesWith_append_of_not_mem hdoctype, Text.endLinesWith_lineEnding hsep hhead,
        hbody, hsep']

/-- Reading makes line feeds of the line endings in the label and after declarations, and of those
that are left in what follows. -/
theorem unifyLineEndings_eventsAround (hs : doc.IsSound subsets) {W' : Writer}
    (hdeclaration : W'.settings.xmlDeclaration = W.settings.xmlDeclaration)
    (hsep : W.settings.separator ∈ Text.lineEndings) (hsep' : W'.settings.separator = ['\n'])
    {fragments read : List Fragment} (hhead : (Fragment.text fragments).head? ≠ some '\n')
    (hbody : Text.endLinesWith ['\n'] (Fragment.text fragments) = Fragment.text read)
    (label : Text) :
    Text.unifyLineEndings ((W.eventsAround label doc.declaration doc.doctype? fragments).flatMap
        Event.source) =
      (W'.eventsAround (Text.unifyLineEndings label) doc.declaration doc.doctype? read).flatMap
        Event.source := by
  obtain ⟨hrest, hafter⟩ := endLinesWith_afterDeclaration hs hsep hsep' hhead hbody
  simp only [Text.unifyLineEndings_eq, eventsAround, declarationEvents, hdeclaration]
  split
  · have hsource : ∀ (sep label : Text) (events : List Event),
        ([Event.declaration (declarationContent label doc.declaration), .text sep] ++
          events).flatMap Event.source =
            Declaration.lead (doc.declaration.version.getD ['1', '.', '0']) ++ (label ++
              (Declaration.tail doc.declaration.standalone ++
                (sep ++ events.flatMap Event.source))) := by
      intro sep label events
      rw [List.flatMap_append, List.flatMap_cons, declarationContent, Declaration.source_written]
      simp [Event.source]
    rw [hsource, hsource, Text.endLinesWith_append_of_not_mem
      (Declaration.not_mem_lead (not_mem_version hs)), Text.endLinesWith_append
      (by simp [Declaration.tail]), Text.endLinesWith_append_of_not_mem (Declaration.not_mem_tail _),
      Text.endLinesWith_lineEnding hsep hrest, hafter, hsep']
  · exact hafter

/-- Reading makes line feeds of the line endings in the label; there are no others to be changed. -/
theorem unifyLineEndings_eventsOf (hs : doc.IsSound subsets)
    (hsep : W.settings.separator = ['\n'])
    (hbody : '\r' ∉ Fragment.text (W.bodyFragments escaper (Item.joined doc.content)))
    (label : Text) :
    Text.unifyLineEndings ((W.eventsOf escaper label doc).flatMap Event.source) =
      (W.eventsOf escaper (Text.unifyLineEndings label) doc).flatMap Event.source :=
  unifyLineEndings_eventsAround hs rfl (by simp [hsep, Text.lineEndings]) hsep
    (Fragment.head?_text head?_bodyFragments) (Text.endLinesWith_eq_self hbody) label

/-! ### Entities -/

theorem isRead_of_doctype? (hs : doc.IsSound subsets) {d : Doctype} (hd : doc.doctype? = some d) :
    d.IsRead subsets :=
  isSoundOutside_of_doctype? hs hd

/-- The entities that the document type declares are known when it is read again, and what the
writer uses of them is read as it was meant. -/
theorem exists_entities (hs : doc.IsSound subsets) (hw : doc.IsWritable) {table : EntityTable}
    (ht : W.entityTable doc.doctype? = .ok table) :
    ∃ entities : List (Text × Text), table.IsReadable (fun name => entities.lookup name) ∧
      (doc.doctype? = none → entities = []) ∧ ∀ d, doc.doctype? = some d →
        readDoctype subsets (Doctype.written d.name d.publicId d.systemId d.subset) =
          .ok (d.withoutEmptySubset, entities) := by
  obtain ⟨entities, hlookup, hnone, hread, -⟩ :=
    exists_replacements (fun d hd => isRead_of_doctype? hs hd) hw.entities ht
  exact ⟨entities, hlookup, hnone, hread⟩

/-- The fragments of the document are read as they are meant. -/
theorem isReadable_body (hs : doc.IsSound subsets) (hw : doc.IsWritable) (hf : W.IsFaithful)
    {lookup : Text → Option Text} (ht : escaper.table.IsReadable lookup) :
    IsReadable lookup (fun _ => none) (W.bodyFragments escaper (Item.joined doc.content)) ∧
      ∀ f ∈ W.bodyFragments escaper (Item.joined doc.content), f.IsOutside :=
  isReadable_bodyFragments ht hf.separator hf.layout (Item.isSoundOutside_joined hs.content)
    ((Item.hasNoNull_joined doc.content).2 hw.hasNoNull)

theorem countP_isElement_doctypeAgain (doctype? : Option Doctype) :
    (doctypeAgain doctype?).countP Item.isElement = 0 := by
  cases doctype? <;> rfl

/-- As many elements are read as there are in the document. -/
theorem countP_isElement_readAgain (doc : Document) :
    (W.readAgain escaper doc).content.countP Item.isElement =
      doc.content.countP Item.isElement := by
  rw [readAgain, List.countP_append, countP_isElement_doctypeAgain, Nat.zero_add,
    countP_bodyFragments, Item.countP_joined]

/-! ### Scanning -/

theorem isWritable_label (hs : doc.IsSound subsets) (hw : doc.IsWritable) {label : Text}
    (hl : Charset.forWriting? label = some W.settings.charset) :
    Declaration.IsWritable (doc.declaration.version.getD ['1', '.', '0'])
      (Text.unifyLineEndings label) := by
  have hlabel : ∀ c ∈ Charset.endings, c ∉ Text.unifyLineEndings label := by
    intro c hc hm
    rw [Text.unifyLineEndings_eq] at hm
    rcases Text.mem_of_mem_endLinesWith hm with hm | rfl
    · exact Charset.not_mem_of_forWriting? hl hc hm
    · exact absurd hc (by decide)
  have hversion : ¬ ['?', '>'] <:+: doc.declaration.version.getD ['1', '.', '0'] ∧
      '"' ∉ doc.declaration.version.getD ['1', '.', '0'] := by
    cases hv : doc.declaration.version with
    | none => decide
    | some version => exact ⟨(hs.declaration version hv).1, hw.version version hv⟩
  exact ⟨hversion.1, hversion.2, hlabel '"' (by decide), hlabel '?' (by decide)⟩

/-! ### Reading -/

/-- The document type is read, and the end of its line is left. -/
theorem foldlM_doctypeEvents (hsep : W.settings.separator = ['\n'])
    {entities : List (Text × Text)} {doctype? : Option Doctype}
    (hnone : doctype? = none → entities = [])
    (hread : ∀ d, doctype? = some d →
      readDoctype subsets (Doctype.written d.name d.publicId d.systemId d.subset) =
        .ok (d.withoutEmptySubset, entities))
    (declaration : Declaration) {raw : Text} (hraw : Text.isAllBlank raw = true)
    (events : List Event) :
    ∃ raw', Text.isAllBlank raw' = true ∧
      (Event.mergeFrom raw (W.doctypeEvents doctype? ++ events)).foldlM (step subsets)
          ⟨declaration, [], [], []⟩ =
        (Event.mergeFrom raw' events).foldlM (step subsets)
          ⟨declaration, entities, [], doctypeAgain doctype?⟩ := by
  cases doctype? with
  | none =>
      rw [hnone rfl]
      exact ⟨raw, hraw, rfl⟩
  | some d =>
      have hstep : step subsets ⟨declaration, [], [], []⟩
          (.doctype (Doctype.written d.name d.publicId d.systemId d.subset)) =
            .ok ⟨declaration, entities, [], doctypeAgain (some d)⟩ := by
        rw [step, hread d rfl]
        rfl
      refine ⟨['\n'], rfl, ?_⟩
      rw [doctypeEvents, hsep, List.cons_append, Event.mergeFrom_cons (by simp),
        foldlM_flush_blank rfl hraw, List.foldlM_cons, Outcome.bind_of_eq_ok hstep]
      rfl

/-- The XML declaration is read as it was meant. -/
theorem foldlM_declarationAgain (hs : doc.IsSound subsets) (hw : doc.IsWritable)
    (hf : W.IsFaithful) (events : List Event) :
    ∃ raw, Text.isAllBlank raw = true ∧
      (Event.mergeFrom [] (W.declarationEvents (Text.unifyLineEndings W.settings.encodingLabel)
          doc.declaration ++ events)).foldlM (step subsets) start =
        (Event.mergeFrom raw events).foldlM (step subsets)
          ⟨W.declarationAgain doc.declaration, [], [], []⟩ :=
  foldlM_declarationEvents hf.separator (isWritable_label hs hw hf.label) events

/-- Reading a text with a prolog and fragments that can be read gives the items of the fragments. -/
theorem parse_eventsAround (hs : doc.IsSound subsets) (hw : doc.IsWritable) (hf : W.IsFaithful)
    {entities : List (Text × Text)} (hnone : doc.doctype? = none → entities = [])
    (hread : ∀ d, doc.doctype? = some d →
      readDoctype subsets (Doctype.written d.name d.publicId d.systemId d.subset) =
        .ok (d.withoutEmptySubset, entities))
    {fragments : List Fragment}
    (hb : IsReadable (fun name => entities.lookup name) (fun _ => none) fragments)
    (hout : ∀ f ∈ fragments, f.IsOutside)
    (hhead : ∀ raw data, fragments.head? ≠ some (chars raw data))
    (hcount : (itemsOutside fragments).countP Item.isElement ≤ 1) {x : Text}
    (hx : Text.unifyLineEndings x =
      (W.eventsAround (Text.unifyLineEndings W.settings.encodingLabel) doc.declaration doc.doctype?
        fragments).flatMap Event.source) :
    Document.parse subsets x =
      .ok ⟨W.declarationAgain doc.declaration,
        doctypeAgain doc.doctype? ++ itemsOutside fragments⟩ := by
  have hwritable := isWritable_label hs hw hf.label
  have hscan : Event.scan ((W.eventsAround (Text.unifyLineEndings W.settings.encodingLabel)
      doc.declaration doc.doctype? fragments).flatMap Event.source) = _ :=
    scan_eventsAround (by rw [hf.separator]; decide)
      (Declaration.readsBack_written hwritable.not_isInfix hwritable.not_mem_label.2 _)
      (fun d hd => (isRead_of_doctype? hs hd).readsBack) hb.isLexical hhead
  obtain ⟨raw, hraw, hdeclaration⟩ := @foldlM_declarationAgain W subsets doc hs hw hf
    (W.doctypeEvents doc.doctype? ++ Fragment.events fragments)
  obtain ⟨raw', hraw', hdoctype⟩ := @foldlM_doctypeEvents W subsets hf.separator entities
    doc.doctype? hnone hread (W.declarationAgain doc.declaration) raw hraw
    (Fragment.events fragments)
  have hcount' : (itemsOutside fragments ++ doctypeAgain doc.doctype?).countP Item.isElement ≤
      1 := by
    rwa [List.countP_append, countP_isElement_doctypeAgain]
  have hbody := @foldlM_outside subsets _ ⟨W.declarationAgain doc.declaration, entities, [],
    doctypeAgain doc.doctype?⟩ rfl hb hout hcount' raw' hraw'
  have hreverse : (doctypeAgain doc.doctype?).reverse = doctypeAgain doc.doctype? := by
    cases doc.doctype? <;> rfl
  rw [Document.parse, hx, hscan]
  show (List.foldlM _ _ (Event.mergeFrom [] (W.eventsAround _ _ _ _)) >>= _) = _
  rw [eventsAround, hdeclaration, hdoctype, hbody, pushAll_nothing rfl, Outcome.bind_of_eq_ok rfl]
  simp [finish, hreverse]

/-- Reading the text of a document gives what the writer has put into it. -/
theorem parse_eventsOf (hs : doc.IsSound subsets) (hw : doc.IsWritable) (hf : W.IsFaithful)
    {table : EntityTable} (ht : W.entityTable doc.doctype? = .ok table) :
    Document.parse subsets ((W.eventsOf (W.settings.escaper table) W.settings.encodingLabel
      doc).flatMap Event.source) = .ok (W.readAgain (W.settings.escaper table) doc) := by
  obtain ⟨entities, hlookup, hnone, hread⟩ := exists_entities hs hw ht
  obtain ⟨hb, hout⟩ := @isReadable_body W (W.settings.escaper table) subsets doc hs hw hf _ hlookup
  refine parse_eventsAround hs hw hf hnone hread hb hout head?_bodyFragments ?_
    (unifyLineEndings_eventsOf hs hf.separator (not_mem_text _ hb) _)
  rw [countP_bodyFragments, Item.countP_joined]
  exact hs.element

end Writer

end XmlScribe
