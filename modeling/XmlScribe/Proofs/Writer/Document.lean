/-
**Writing a document.**

A document that has been planted as it was read needs no completion, so all that is written for it
can be told from the document: the XML declaration, the document type, and the fragments of the
items outside all elements, each comment and processing instruction on a line of its own.

Main definitions:

* `Writer.declarationEvents`, `Writer.doctypeEvents` — the events of what comes before the items;
* `Writer.eventsOf` — the events of the whole text;
* `Writer.CanWriteDocument` — nothing stands in the way of writing the document.

Main results:

* `Writer.writes_documentWalk` — the walk writes the text of the events;
* `Writer.documentText_eq_ok_iff` — when a document is written as a text, and as which.
-/

import XmlScribe.Proofs.Doctype.Written
import XmlScribe.Proofs.Markup.Declaration
import XmlScribe.Proofs.Namespace.Planted
import XmlScribe.Proofs.Writer.Content

set_option autoImplicit false

namespace XmlScribe

namespace Writer

open Walk

variable {W : Writer} {escaper : Escaper} {F : Forest}

/-! ### What is written -/

/-- The content of the XML declaration. -/
def declarationContent (label : Text) (declaration : Declaration) : Text :=
  Declaration.written (declaration.version.getD ['1', '.', '0']) label declaration.standalone

/-- The events of the XML declaration, which stands on a line of its own. -/
def declarationEvents (W : Writer) (label : Text) (declaration : Declaration) : List Event :=
  if W.settings.xmlDeclaration then
    [.declaration (declarationContent label declaration), .text W.settings.separator]
  else []

/-- The events of the document type, which stands on a line of its own. -/
def doctypeEvents (W : Writer) : Option Doctype → List Event
  | some d => [.doctype (Doctype.written d.name d.publicId d.systemId d.subset),
      .text W.settings.separator]
  | none => []

/-- The document type that is written for a document with this one. -/
def writtenDoctype (W : Writer) (doctype : Option Doctype) : Option Doctype :=
  match W.settings.heading with
  | some heading => some ⟨heading.name, heading.publicId, heading.systemId, none, []⟩
  | none => doctype

/-- The events of the text of a document with this declaration, document type and content, where
`label` is the label of the encoding. -/
def eventsWith (W : Writer) (escaper : Escaper) (label : Text) (declaration : Declaration)
    (doctype : Option Doctype) (items : List Item) : List Event :=
  W.declarationEvents label declaration ++ (W.doctypeEvents doctype ++
    Fragment.events (W.bodyFragments escaper (Item.joined items)))

/-- The events of the text of a document, where `label` is the label of the encoding. -/
def eventsOf (W : Writer) (escaper : Escaper) (label : Text) (doc : Document) : List Event :=
  W.eventsWith escaper label doc.declaration doc.doctype? doc.content

/-- The document type has only characters of the character set. -/
structure CanWriteDoctype (W : Writer) (d : Doctype) : Prop where
  /-- The name. -/
  name : W.Encodes d.name
  /-- The public identifier. -/
  publicId : ∀ literal, d.publicId = some literal → W.Encodes literal
  /-- The system identifier. -/
  systemId : ∀ literal, d.systemId = some literal → W.Encodes literal
  /-- The subset. -/
  subset : W.Encodes (d.subset.getD [])

/-- Nothing stands in the way of writing the document. -/
structure CanWriteDocument (W : Writer) (doc : Document) : Prop where
  /-- The document type. -/
  doctype : ∀ d, doc.doctype? = some d → W.CanWriteDoctype d
  /-- The items. -/
  content : Item.Everywhere W.CanWrite (Item.joined doc.content)

/-! ### Prolog -/

theorem writes_putDeclaration (declaration : Declaration) :
    Writes F (W.putDeclaration declaration) True ()
      (Event.declaration (declarationContent W.settings.encodingLabel declaration)).source := by
  obtain ⟨version, encoding, standalone⟩ := declaration
  cases standalone with
  | none =>
      refine ((writes_putString _).bind ((writes_put _).bind ((writes_putString _).bind
        ((writes_put _).bind ((writes_putString _).bind (writes_putString _)))))).congr
        (by simp) ?_
      simp [declarationContent, Declaration.written, Declaration.writtenAttributes,
        Declaration.versionKey, Declaration.encodingKey, Declaration.standaloneKey, Tag.written,
        Event.source, WrittenAttribute.text]
  | some standalone =>
      refine ((writes_putString _).bind ((writes_put _).bind ((writes_putString _).bind
        ((writes_put _).bind ((writes_putString _).bind ((writes_putString _).bind
          ((writes_put _).bind ((writes_putString _).bind (writes_putString _))))))))).congr
        (by simp) ?_
      simp [declarationContent, Declaration.written, Declaration.writtenAttributes,
        Declaration.versionKey, Declaration.encodingKey, Declaration.standaloneKey, Tag.written,
        Event.source, WrittenAttribute.text]

theorem writes_putQuoted (literal : Text) :
    Writes F (W.putQuoted literal) (W.Encodes literal) () (Doctype.quoted literal) :=
  ((writes_put _).bind ((writes_putMarkup _ _).bind (writes_put _))).congr (by simp)
    (by simp [Doctype.quoted])

theorem writes_putIds (publicId systemId : Option Text) :
    Writes F (W.putIds publicId systemId)
      (Doctype.hasValidIds publicId systemId = true ∧
        (∀ literal, publicId = some literal → W.Encodes literal) ∧
          ∀ literal, systemId = some literal → W.Encodes literal) ()
      (Doctype.writtenIds publicId systemId) := by
  cases publicId with
  | none =>
      cases systemId with
      | none => exact (writes_pure ()).congr (by simp [Doctype.hasValidIds]) rfl
      | some systemId =>
          exact ((writes_putString _).bind (writes_putQuoted _)).congr
            (by simp [Doctype.hasValidIds]) (by simp [Doctype.writtenIds, Doctype.systemKeyword])
  | some publicId =>
      cases systemId with
      | none => exact (writes_throw _).congr (by simp [Doctype.hasValidIds]) rfl
      | some systemId =>
          exact ((writes_putString _).bind ((writes_putQuoted _).bind
            ((writes_putString _).bind (writes_putQuoted _)))).congr
            (by simp [Doctype.hasValidIds]) (by simp [Doctype.writtenIds, Doctype.publicKeyword])

theorem writes_putSubset (subset : Text) :
    Writes F (W.putSubset subset) (W.Encodes subset) () (Doctype.writtenSubset subset) := by
  cases subset with
  | nil => exact (writes_pure ()).congr (by simp [Encodes]) rfl
  | cons c subset =>
      exact ((writes_putString _).bind ((writes_putMarkup _ _).bind
        (writes_putString _))).congr (by simp) (by simp [Doctype.writtenSubset])

/-- What a document type is written as. -/
theorem writes_putDoctype (d : Doctype) :
    Writes F (W.putDoctype ⟨d.name, d.publicId, d.systemId⟩ d.subset)
      (Doctype.hasValidIds d.publicId d.systemId = true ∧ W.CanWriteDoctype d) ()
      (Event.doctype (Doctype.written d.name d.publicId d.systemId d.subset)).source := by
  refine ((writes_putString _).bind ((writes_putMarkup _ _).bind ((writes_putIds _ _).bind
    ((writes_putSubset _).bind (writes_putString _))))).congr ?_ ?_
  · exact ⟨fun ⟨_, h₁, ⟨hids, h₂, h₃⟩, h₄, _⟩ => ⟨hids, h₁, h₂, h₃, h₄⟩,
      fun ⟨hids, hd⟩ =>
        ⟨trivial, hd.name, ⟨hids, hd.publicId, hd.systemId⟩, hd.subset, trivial⟩⟩
  · simp [Event.source, Doctype.written]

theorem writes_putProlog (declaration : Declaration) (doctype : Option Doctype) :
    Writes F (W.putProlog declaration doctype)
      (∀ d, W.writtenDoctype doctype = some d →
        Doctype.hasValidIds d.publicId d.systemId = true ∧ W.CanWriteDoctype d) ()
      ((W.declarationEvents W.settings.encodingLabel declaration ++
        W.doctypeEvents (W.writtenDoctype doctype)).flatMap Event.source) := by
  have hone : ∀ d : Doctype, Writes F (do
        W.putDoctype ⟨d.name, d.publicId, d.systemId⟩ d.subset
        W.putNewline)
      (∀ e, some d = some e →
        Doctype.hasValidIds e.publicId e.systemId = true ∧ W.CanWriteDoctype e) ()
      ((W.doctypeEvents (some d)).flatMap Event.source) := fun d =>
    ((writes_putDoctype d).bind (writes_put _)).congr (by simp) (by simp [doctypeEvents, Event.source])
  have hdoctype : Writes F (W.putHeading doctype) (∀ d, W.writtenDoctype doctype = some d →
        Doctype.hasValidIds d.publicId d.systemId = true ∧ W.CanWriteDoctype d) ()
      ((W.doctypeEvents (W.writtenDoctype doctype)).flatMap Event.source) := by
    rw [putHeading, headingFor, writtenDoctype]
    cases W.settings.heading with
    | some heading => exact hone ⟨heading.name, heading.publicId, heading.systemId, none, []⟩
    | none =>
        cases doctype with
        | none => exact (writes_pure ()).congr (by simp) rfl
        | some d => exact hone d
  rw [putProlog_eq, declarationEvents, List.flatMap_append]
  cases W.settings.xmlDeclaration with
  | false => exact hdoctype
  | true =>
      exact ((writes_putDeclaration declaration).bind ((writes_put _).bind hdoctype)).congr
        (by simp) (by simp [Event.source])

/-! ### Items -/

theorem writes_putBeside {able : Prop} {payload : Payload} {f : Fragment}
    (h : Writes F (W.putLeaf escaper payload) able () (Fragment.text [f])) (afterRoot : Bool) :
    Writes F (W.putBeside escaper afterRoot payload) able ()
      (Fragment.text (if afterRoot then [W.lineEnd, f] else [f, W.lineEnd])) := by
  cases afterRoot with
  | true =>
      refine (writes_putNewline.bind (h.then_pure _)).congr (by simp) ?_
      simp [← Fragment.text_append]
  | false =>
      refine (h.bind writes_putNewline).congr (by simp) ?_
      simp [← Fragment.text_append]

/-- What the items outside all elements are written as. -/
theorem writes_putChildren {owner parent : NodeId} {ids : List NodeId}
    {items : List Item} (h : F.Holds owner parent ids items)
    (hs : ∀ item ∈ items, NodeType.document.mayHold (Builder.typeOf item) = true)
    (hsize : Item.count items ≤ F.size + 1) (afterRoot : Bool) :
    Writes F (W.putChildren escaper afterRoot ids)
      (Item.Everywhere W.CanWrite (Item.joined items))
      (afterRoot || (Item.joined items).any Item.isElement)
      (Fragment.text (W.outside escaper afterRoot (Item.joined items))) := by
  induction ids generalizing items afterRoot with
  | nil =>
      cases items with
      | nil =>
          rw [Item.joined, List.any_nil, Bool.or_false]
          exact writes_pure afterRoot
      | cons item items => exact h.elim
  | cons id ids ih =>
      cases items with
      | nil => exact h.elim
      | cons item items =>
          obtain ⟨hitem, hitems⟩ := h
          have hsound := hs item (by simp)
          have hcount : item.countAt + Item.count items ≤ F.size + 1 := hsize
          have ih := @ih items hitems (fun other ho => hs other (by simp [ho])) (by omega)
          have htext : ∀ data, item ≠ .text data := by
            rintro data rfl
            cases hsound
          rw [Item.joined_cons_of_ne_text htext, Item.Everywhere, outside, Fragment.text_append,
            List.any_cons, ← Bool.or_assoc]
          refine Writes.bind_silent writes_forest ?_
          cases item with
          | element name attributes content =>
              have helement : Writes F (W.putElement escaper id 0 W.settings.formatted) _ () _ :=
                Writes.bind_silent writes_forest
                  (writes_putElementFrom hitem (by omega) 0 W.settings.formatted)
              obtain ⟨cells, children, -, hget, -⟩ := hitem
              have hpayload := Forest.payload?_of_get? hget
              simp only [hpayload, Item.joinedAt, Item.isElement, Bool.or_true]
              exact helement.bind (ih true)
          | comment data =>
              have hpayload := Forest.payload?_of_get? hitem
              simp only [hpayload, Item.joinedAt, Item.isElement, Bool.or_false]
              exact (writes_putBeside (writes_putComment data) afterRoot).bind (ih afterRoot)
          | instruction target data =>
              have hpayload := Forest.payload?_of_get? hitem
              simp only [hpayload, Item.joinedAt, Item.isElement, Bool.or_false]
              exact (writes_putBeside (writes_putInstruction target data) afterRoot).bind
                (ih afterRoot)
          | doctype d =>
              have hpayload := Forest.payload?_of_get? hitem
              simp only [hpayload, Item.joinedAt, Item.isElement, Bool.or_false]
              exact (ih afterRoot).congr (iff_of_eq (true_and _)).symm rfl
          | text data => cases hsound
          | cdata data => cases hsound

/-! ### Documents -/

/-- What is written of a document once nothing is missing. -/
theorem writes_putProlog_putChildren {owner parent : NodeId} {ids : List NodeId}
    {items : List Item} (h : F.Holds owner parent ids items)
    (hs : ∀ item ∈ items, NodeType.document.mayHold (Builder.typeOf item) = true)
    (hsize : Item.count items ≤ F.size + 1) (declaration : Declaration)
    (doctype : Option Doctype) :
    Writes F (do
        putMark false
        W.putProlog declaration doctype
        if (← W.putChildren escaper false ids) && W.settings.endsWithLine then
          W.putNewline)
      ((∀ d, W.writtenDoctype doctype = some d →
        Doctype.hasValidIds d.publicId d.systemId = true ∧ W.CanWriteDoctype d) ∧
          Item.Everywhere W.CanWrite (Item.joined items)) ()
      ((W.eventsWith escaper W.settings.encodingLabel declaration (W.writtenDoctype doctype)
        items).flatMap Event.source) := by
  have hend : ∀ hasRoot : Bool, Writes F
      (if hasRoot && W.settings.endsWithLine then W.putNewline else pure ()) True ()
      (Fragment.text (if hasRoot && W.settings.endsWithLine then [W.lineEnd] else [])) := by
    intro hasRoot
    split
    · exact writes_putNewline
    · exact writes_pure ()
  refine Writes.bind_silent (writes_pure ()) (((writes_putProlog declaration doctype).bind
    ((writes_putChildren h hs hsize false).bind (hend _))).congr ?_ ?_)
  · simp
  · simp only [eventsWith, bodyFragments, Fragment.text, Fragment.events_append,
      List.flatMap_append, List.append_assoc, Bool.false_or]

theorem isSoundOutside_of_doctype? {subsets : Subsets} {doc : Document}
    (hs : doc.IsSound subsets) {d : Doctype} (hd : doc.doctype? = some d) :
    (Item.doctype d).IsSoundOutside subsets := by
  obtain ⟨item, hitem, hd⟩ := Option.bind_eq_some_iff.1 hd
  have hsound := hs.content item (List.mem_of_find?_eq_some hitem)
  cases item with
  | doctype e =>
      obtain rfl : e = d := Option.some.inj hd
      exact hsound
  | _ => cases hd

/-- A document that has been read needs no completion. -/
theorem writes_completeFrom {subsets : Subsets} {id root : NodeId} {doc : Document}
    (h : F.IsPlanted id doc) (hs : doc.IsSound subsets) (hr : F.root? id = some root) :
    Writes F (W.completeFrom root) True () [] := by
  obtain ⟨name, attributes, content, hm, hroot⟩ := h.holdsAt_root? hr
  rw [completeFrom]
  split
  · exact writes_complete
      (Forest.ensureDeclared_of_holdsAt hroot (hs.content _ hm) h.isElement _ true)
  · exact writes_pure ()

theorem hasValidIds_of_doctype? {subsets : Subsets} {doc : Document} (hs : doc.IsSound subsets)
    {d : Doctype} (hd : doc.doctype? = some d) :
    Doctype.hasValidIds d.publicId d.systemId = true := by
  obtain ⟨content, entities, hread, -⟩ := isSoundOutside_of_doctype? hs hd
  exact Builder.hasValidIds_of_readDoctype hread

theorem writes_checkDoctype {subsets : Subsets} {doc : Document} (hs : doc.IsSound subsets)
    (hh : W.settings.heading = none) : Writes F (W.checkDoctype doc.doctype?) True () [] := by
  cases hd : doc.doctype? with
  | none =>
      rw [checkDoctype]
      · exact writes_pure ()
      · exact fun d _ hd => nomatch hd
  | some d =>
      rw [checkDoctype, if_pos (hasValidIds_of_doctype? hs hd)]
      · exact writes_pure ()
      · exact hh

theorem mayHold_of_isSoundOutside {subsets : Subsets} {item : Item}
    (h : item.IsSoundOutside subsets) :
    NodeType.document.mayHold (Builder.typeOf item) = true := by
  cases item with
  | text data => exact h.elim
  | cdata data => exact h.elim
  | _ => rfl

theorem writes_escaperFor {doctype : Option Doctype} {table : EntityTable}
    (ht : W.entityTable doctype = .ok table) :
    Writes F (W.escaperFor doctype) True (W.settings.escaper table) [] := by
  rw [escaperFor, ht]
  exact writes_pure _

/-- What a document is written as that has a proper document type and lacks no declaration. -/
theorem writes_documentWalk_of_complete {id owner parent : NodeId} {items : List Item}
    (hcheck : Writes F (W.checkDoctype (F.doctype? id)) True () []) {table : EntityTable}
    (ht : W.entityTable (F.doctype? id) = .ok table)
    (hcomplete : ∀ root, F.root? id = some root → Writes F (W.completeFrom root) True () [])
    (h : F.Holds owner parent (F.children id) items)
    (hkinds : ∀ item ∈ items, NodeType.document.mayHold (Builder.typeOf item) = true)
    (hsize : Item.count items ≤ F.size + 1) :
    Writes F (W.documentWalk id false)
      ((∀ d, W.writtenDoctype (F.doctype? id) = some d →
        Doctype.hasValidIds d.publicId d.systemId = true ∧ W.CanWriteDoctype d) ∧
          Item.Everywhere W.CanWrite (Item.joined items)) ()
      ((W.eventsWith (W.settings.escaper table) W.settings.encodingLabel (F.declaration id)
        (W.writtenDoctype (F.doctype? id)) items).flatMap Event.source) := by
  have hrest := @writes_putProlog_putChildren W (W.settings.escaper table) F owner parent
    (F.children id) items h hkinds hsize (F.declaration id) (F.doctype? id)
  refine Writes.bind_silent writes_forest
    (Writes.bind_silent hcheck (Writes.bind_silent (writes_escaperFor ht) ?_))
  cases hr : F.root? id with
  | none => exact hrest
  | some root => exact Writes.bind_silent (hcomplete root hr) hrest

/-- What a document that has been read is written as. -/
theorem writes_documentWalk {subsets : Subsets} {id : NodeId} {doc : Document}
    (h : F.IsPlanted id doc) (hs : doc.IsSound subsets) (hh : W.settings.heading = none)
    {table : EntityTable} (ht : W.entityTable doc.doctype? = .ok table) :
    Writes F (W.documentWalk id false) (W.CanWriteDocument doc) ()
      ((W.eventsOf (W.settings.escaper table) W.settings.encodingLabel doc).flatMap Event.source) := by
  have hwritten : W.writtenDoctype doc.doctype? = doc.doctype? := by rw [writtenDoctype, hh]
  have hwrites := @writes_documentWalk_of_complete W F id id id doc.content
    (h.doctype? ▸ writes_checkDoctype hs hh) table (h.doctype? ▸ ht)
    (fun root hr => writes_completeFrom h hs hr) h.holds_children
    (fun item hi => mayHold_of_isSoundOutside (hs.content item hi))
    (Nat.le_succ_of_le (Nat.le_of_lt h.count_lt_size))
  rw [h.declaration, h.doctype?, hwritten] at hwrites
  exact hwrites.congr
    ⟨fun ⟨h₁, h₂⟩ => ⟨fun d hd => (h₁ d hd).2, h₂⟩,
      fun hc => ⟨fun d hd => ⟨hasValidIds_of_doctype? hs hd, hc.doctype d hd⟩, hc.content⟩⟩ rfl

/-- A document whose entities contradict each other is not written. -/
theorem writes_documentWalk_of_error {subsets : Subsets} {id : NodeId} {doc : Document}
    (h : F.IsPlanted id doc) (hs : doc.IsSound subsets) (hh : W.settings.heading = none)
    {fault : SaveFault} (ht : W.entityTable doc.doctype? = .error fault) :
    Writes F (W.documentWalk id false) False () [] := by
  have hescaper : Writes F (W.escaperFor doc.doctype?) False (W.settings.escaper ⟨[], false⟩) [] := by
    rw [escaperFor, ht]
    exact writes_throw fault
  refine Writes.bind_silent writes_forest ?_
  rw [h.declaration, h.doctype?]
  exact Writes.bind_silent (writes_checkDoctype hs hh) hescaper.bind_of_fails

/-- The text of a document that has no document type and lacks no declaration. -/
theorem documentText_of_complete {settings : Settings} {profile : Profile}
    {id owner parent : NodeId} {items : List Item} (hd : F.doctype? id = none)
    (hh : settings.heading = none) {table : EntityTable}
    (ht : (quiet settings profile).entityTable none = .ok table)
    (hcomplete : ∀ root, F.root? id = some root →
      Writes F ((quiet settings profile).completeFrom root) True () [])
    (h : F.Holds owner parent (F.children id) items)
    (hkinds : ∀ item ∈ items, NodeType.document.mayHold (Builder.typeOf item) = true)
    (hsize : Item.count items ≤ F.size + 1)
    (hcan : Item.Everywhere (quiet settings profile).CanWrite (Item.joined items)) :
    ((quiet settings profile).documentText F id).2 =
      .ok (((quiet settings profile).eventsWith (settings.escaper table) settings.encodingLabel
        (F.declaration id) none items).flatMap Event.source) := by
  have hcheck : Writes F ((quiet settings profile).checkDoctype (F.doctype? id)) True () [] := by
    rw [hd, checkDoctype]
    · exact writes_pure ()
    · exact fun _ _ hd => nomatch hd
  have hnone : (quiet settings profile).writtenDoctype (F.doctype? id) = none := by
    rw [hd, writtenDoctype]
    simp [show (quiet settings profile).settings.heading = none from hh]
  have hwrites := writes_documentWalk_of_complete hcheck (hd.symm ▸ ht) hcomplete h hkinds hsize
  rw [hnone] at hwrites
  exact hwrites.runWalk.2 ⟨⟨nofun, hcan⟩, rfl⟩

/-- When a document that has been read is written as a text, and as which text. -/
theorem documentText_eq_ok_iff {subsets : Subsets} {settings : Settings} {profile : Profile}
    {id : NodeId} {doc : Document} (h : F.IsPlanted id doc) (hs : doc.IsSound subsets)
    (hh : settings.heading = none) {s : Text} :
    ((quiet settings profile).documentText F id).2 = .ok s ↔
      ∃ table, (quiet settings profile).entityTable doc.doctype? = .ok table ∧
        (quiet settings profile).CanWriteDocument doc ∧
        s = ((quiet settings profile).eventsOf (settings.escaper table) settings.encodingLabel
          doc).flatMap Event.source := by
  cases ht : (quiet settings profile).entityTable doc.doctype? with
  | error fault =>
      refine (writes_documentWalk_of_error h hs hh ht).runWalk.trans ?_
      simp
  | ok table =>
      refine (writes_documentWalk h hs hh ht).runWalk.trans ?_
      simp [quiet]

end Writer

end XmlScribe
