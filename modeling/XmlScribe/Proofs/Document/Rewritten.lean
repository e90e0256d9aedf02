/-
**A document is written again.**

The document that is read from the text of a document can be written.  If content is written as it
is, its text is the same exactly if no reference in a CDATA section becomes a reference to an
entity; if content is laid out on lines, exactly if no element loses all its content.

Main definitions:

* `Writer.RewritesOutside` — what is read from an item is written as the item was exactly if
  something holds.

Main results:

* `Writer.isSound_readAgain` — what is read obeys the rules;
* `Writer.canWriteDocument_readAgain` — it can be written;
* `Writer.rewritesOutside_of_unformatted`, `Writer.rewritesOutside_of_formatted` — when items are
  the same;
* `Writer.agreesIff_readAgain` — when the text is the same.
-/

import XmlScribe.Proofs.Document.Reread
import XmlScribe.Proofs.Writer.Relaid

set_option autoImplicit false

namespace XmlScribe

open Builder Fragment
open Text (AgreesIff)

namespace Writer

variable {W : Writer} {escaper : Escaper} {subsets : Subsets} {doc : Document}

/-! ### Document type -/

theorem find?_doctypeAgain {items : List Item} (h : ∀ item ∈ items, item.isDoctype = false)
    (doctype? : Option Doctype) (declaration : Declaration) :
    Document.doctype? ⟨declaration, doctypeAgain doctype? ++ items⟩ =
      doctype?.map Doctype.withoutEmptySubset := by
  cases doctype? with
  | some d => rfl
  | none =>
      have hnone : items.find? Item.isDoctype = none := List.find?_eq_none.2 fun item hi => by
        simp [h item hi]
      simp [Document.doctype?, doctypeAgain, hnone]

theorem entityTable_map (doctype? : Option Doctype) :
    W.entityTable (doctype?.map Doctype.withoutEmptySubset) = W.entityTable doctype? := by
  cases doctype? <;> rfl

theorem doctypeEvents_map (doctype? : Option Doctype) :
    W.doctypeEvents (doctype?.map Doctype.withoutEmptySubset) = W.doctypeEvents doctype? := by
  cases doctype? with
  | none => rfl
  | some d =>
      have hwritten : Doctype.written d.name d.publicId d.systemId (Doctype.nonEmpty d.subset) =
          Doctype.written d.name d.publicId d.systemId d.subset := by
        rw [Doctype.written, Doctype.written, Doctype.getD_nonEmpty]
      rw [Option.map_some, doctypeEvents, doctypeEvents, Doctype.withoutEmptySubset, hwritten]

theorem declarationEvents_declarationAgain (label : Text) (declaration : Declaration) :
    W.declarationEvents label (W.declarationAgain declaration) =
      W.declarationEvents label declaration := by
  rw [declarationEvents, declarationEvents, declarationAgain]
  split <;> rfl

/-! ### Outside all elements -/

theorem joined_doctypeAgain (doctype? : Option Doctype) (items : List Item) :
    Item.joined (doctypeAgain doctype? ++ items) = doctypeAgain doctype? ++ Item.joined items := by
  cases doctype? with
  | none => rfl
  | some d => exact Item.joined_cons_of_ne_text (by simp) items

theorem bodyFragments_doctypeAgain (doctype? : Option Doctype) (items : List Item) :
    W.bodyFragments escaper (doctypeAgain doctype? ++ items) = W.bodyFragments escaper items := by
  cases doctype? <;> rfl

/-- What is read from the fragments of an item outside all elements is written as `s`, which is
their text exactly if `P` holds of everything in the item. -/
structure IsRewrittenOutside (W : Writer) (escaper : Escaper) (P : Item → Prop) (afterRoot : Bool)
    (item : Item) (s : Text) : Prop where
  /-- The text, before that of other items. -/
  text_eq : ∀ items, Fragment.text (W.outside escaper afterRoot (Item.joined
    (itemsOutside (W.outsideAt escaper afterRoot item) ++ items))) =
      s ++ Fragment.text (W.outside escaper (afterRoot || item.isElement) (Item.joined items))
  /-- When the text is the same. -/
  agreesIff : AgreesIff (item.EverywhereAt P) (Fragment.text (W.outsideAt escaper afterRoot item)) s
  /-- All characters can be written. -/
  canWrite : Item.Everywhere W.CanWrite (itemsOutside (W.outsideAt escaper afterRoot item))

/-- What is read from any item outside all elements is written as the item was exactly if `P` holds
of everything in it. -/
structure RewritesOutside (W : Writer) (escaper : Escaper) (subsets : Subsets) (P : Item → Prop) :
    Prop where
  /-- It does not depend on where texts end. -/
  joined_iff : ∀ items, Item.Everywhere P (Item.joined items) ↔ Item.Everywhere P items
  /-- There is a text that it is written as. -/
  exists_text : ∀ item : Item, item.IsSoundOutside subsets → item.EverywhereAt W.CanWrite →
    ∀ afterRoot, ∃ s, W.IsRewrittenOutside escaper P afterRoot item.joinedAt s

variable {P : Item → Prop}

/-- Something beside the document element is the same again. -/
theorem isRewrittenOutside_beside {f : Fragment} {item : Item} (hf : (itemsAt [] f).1 = [item])
    (hne : ∀ data, item ≠ .text data) (hjoined : item.joinedAt = item) (afterRoot : Bool)
    (hwritten : W.outsideAt escaper afterRoot item =
      if afterRoot then [W.lineEnd, f] else [f, W.lineEnd])
    (hp : item.EverywhereAt P) (hw : item.EverywhereAt W.CanWrite) :
    W.IsRewrittenOutside escaper P afterRoot item
      (Fragment.text (W.outsideAt escaper afterRoot item)) := by
  have hitems : itemsOutside (W.outsideAt escaper afterRoot item) = [item] := by
    rw [hwritten, itemsOutside_beside hf]
  refine ⟨fun items => ?_, (AgreesIff.rfl _).congr (iff_of_true trivial hp), ?_⟩
  · rw [hitems, List.singleton_append, Item.joined_cons_of_ne_text hne, hjoined, outside,
      text_append]
  · rw [hitems]
    exact ⟨hw, trivial⟩

/-- All items are rewritten if the document element is. -/
theorem rewritesOutside_of_element
    (hjoined : ∀ items, Item.Everywhere P (Item.joined items) ↔ Item.Everywhere P items)
    (hbeside : ∀ item : Item, item.IsSoundOutside subsets → item.isElement = false → P item)
    (helement : ∀ (name : QName) (attributes : List Attribute) (content : List Item)
      (afterRoot : Bool), (Item.element name attributes content).IsSoundAt (fun _ => none) →
      (Item.element name attributes content).EverywhereAt W.CanWrite →
      ∃ s, W.IsRewrittenOutside escaper P afterRoot
        (Item.element name attributes content).joinedAt s) :
    W.RewritesOutside escaper subsets P := by
  refine ⟨hjoined, fun item hs hw afterRoot => ?_⟩
  cases item with
  | element name attributes content => exact helement name attributes content afterRoot hs hw
  | comment data =>
      have hread : (itemsAt [] (.comment data)).1 = [Item.comment data] := rfl
      exact ⟨_, isRewrittenOutside_beside hread (by simp) rfl afterRoot rfl (hbeside _ hs rfl) hw⟩
  | instruction target data =>
      have hread : (itemsAt [] (.instruction target data)).1 = [Item.instruction target data] := rfl
      exact ⟨_, isRewrittenOutside_beside hread (by simp) rfl afterRoot rfl (hbeside _ hs rfl) hw⟩
  | doctype d =>
      refine ⟨[], fun items => ?_, (AgreesIff.rfl _).congr
        (iff_of_true trivial (hbeside _ hs rfl)), trivial⟩
      cases afterRoot <;> rfl
  | text data => exact hs.elim
  | cdata data => exact hs.elim

/-- What is written of the items outside all elements, when they have been read again. -/
theorem RewritesOutside.agreesIff_outside (h : W.RewritesOutside escaper subsets P)
    {items : List Item} (hs : ∀ item ∈ items, item.IsSoundOutside subsets)
    (hw : Item.Everywhere W.CanWrite items) (afterRoot : Bool) :
    AgreesIff (Item.Everywhere P (Item.joined items))
        (Fragment.text (W.outside escaper afterRoot (Item.joined items)))
        (Fragment.text (W.outside escaper afterRoot (Item.joined
          (itemsOutside (W.outside escaper afterRoot (Item.joined items)))))) ∧
      Item.Everywhere W.CanWrite
        (itemsOutside (W.outside escaper afterRoot (Item.joined items))) := by
  induction items generalizing afterRoot with
  | nil => exact ⟨AgreesIff.rfl _, trivial⟩
  | cons item items ih =>
      have hne : ∀ data, item ≠ .text data := fun data he => by
        have hsound := hs item (by simp)
        rwa [he] at hsound
      obtain ⟨s, hitem⟩ := h.exists_text item (hs item (by simp)) hw.1 afterRoot
      obtain ⟨hagrees, hcan⟩ := ih (fun other ho => hs other (by simp [ho])) hw.2
        (afterRoot || item.joinedAt.isElement)
      rw [Item.joined_cons_of_ne_text hne, outside, itemsOutside_append, hitem.text_eq, text_append]
      exact ⟨hitem.agreesIff.append hagrees, Item.everywhere_append.2 ⟨hitem.canWrite, hcan⟩⟩

/-! ### Content as it is -/

theorem keepsReferences_joined (items : List Item) :
    Item.Everywhere (W.KeepsReferences escaper) (Item.joined items) ↔
      Item.Everywhere (W.KeepsReferences escaper) items :=
  Item.everywhere_joined (by simp [KeepsReferences]) (fun _ _ _ => Iff.rfl) items

theorem canWrite_joinedAt (item : Item) :
    item.joinedAt.EverywhereAt W.CanWrite ↔ item.EverywhereAt W.CanWrite :=
  Item.everywhereAt_joinedAt (by simp [CanWrite]) (fun _ _ _ => Iff.rfl) item

theorem canWrite_joined (items : List Item) :
    Item.Everywhere W.CanWrite (Item.joined items) ↔ Item.Everywhere W.CanWrite items :=
  Item.everywhere_joined (by simp [CanWrite]) (fun _ _ _ => Iff.rfl) items

/-- The document element is read as an element. -/
theorem exists_itemsOutside_element (depth : Nat) (formatting : Bool) (name : QName)
    (attributes : List Attribute) (content : List Item) : ∃ attributes' content',
      itemsFrom [] (W.fragmentsAt escaper depth formatting (.element name attributes content)) =
          ([.element name attributes' content'], []) ∧
        itemsOutside (W.fragmentsAt escaper depth formatting (.element name attributes content)) =
          [.element name attributes' content'] := by
  rw [fragmentsAt_element]
  exact ⟨_, _, rfl, rfl⟩

/-- The document element is the same again exactly if its references are kept. -/
theorem exists_isRewrittenOutside_element (hsep : W.settings.separator = ['\n'])
    (hf : W.settings.formatted = false) (ha : W.settings.charset.HasAscii)
    (he : escaper.canEncode = W.settings.charset.canEncode) {lookup : Text → Option Text}
    (ht : escaper.table.IsReadable lookup) {name : QName} {attributes : List Attribute}
    {content : List Item} {m : Meaning} (hs : (Item.element name attributes content).IsSoundAt m)
    (hw : (Item.element name attributes content).EverywhereAt W.CanWrite) (afterRoot : Bool) :
    ∃ s, W.IsRewrittenOutside escaper (W.KeepsReferences escaper) afterRoot
      (.element name attributes content) s := by
  obtain ⟨s, hagain, -, hagrees⟩ := isRewritten_fragmentsAt hsep ha he ht _ _ hs hw
  have hwritten : W.outsideAt escaper afterRoot (.element name attributes content) =
      W.fragmentsAt escaper 0 false (.element name attributes content) := by
    rw [outsideAt, hf]
  obtain ⟨attributes', content', hitems, houtside⟩ := @exists_itemsOutside_element W escaper 0 false
    name attributes content
  have htext := hagain.text_eq [] List.not_mem_nil
  have hreturn := (hagain.hasNoReturn [] List.not_mem_nil).1
  have hable := hagain.canWrite []
  rw [hitems] at htext hreturn hable
  have hsame : Fragment.text (W.fragmentsAt escaper 0 false
      (Item.element name attributes' content').joinedAt) = s := by
    rw [text_fragmentsAt_joinedAt hsep _ hreturn.1]
    simpa [verbatim, Escaper.encode] using htext
  refine ⟨s, fun items => ?_, by rwa [hwritten], by rwa [hwritten, houtside]⟩
  rw [hwritten, houtside, List.singleton_append, Item.joined_cons_of_ne_text (by simp), outside,
    text_append, Item.joinedAt, outsideAt, hf, ← Item.joinedAt, hsame]
  rfl

/-- Content that is written as it is is the same again exactly if its references are kept. -/
theorem rewritesOutside_of_unformatted (hsep : W.settings.separator = ['\n'])
    (hf : W.settings.formatted = false) (ha : W.settings.charset.HasAscii)
    (he : escaper.canEncode = W.settings.charset.canEncode) {lookup : Text → Option Text}
    (ht : escaper.table.IsReadable lookup) :
    W.RewritesOutside escaper subsets (W.KeepsReferences escaper) := by
  refine rewritesOutside_of_element keepsReferences_joined (fun item hs he => ?_)
    fun name attributes content afterRoot hs hw =>
      exists_isRewrittenOutside_element hsep hf ha he ht (Item.isSoundAt_joinedAt _ hs)
        ((canWrite_joinedAt _).2 hw) afterRoot
  cases item with
  | cdata data => exact hs.elim
  | _ => trivial

/-! ### Content on lines -/

theorem canWrite_of_canEncode (h : ∀ c, W.settings.charset.canEncode c = true) (item : Item) :
    W.CanWrite item := by
  cases item <;> simp [CanWrite, Encodes, h]

/-- The document element is the same again exactly if elements keep their tags. -/
theorem exists_isRewrittenOutside_lines (hb : W.IsBlockLayout) (hf : W.settings.formatted = true)
    {name : QName} {attributes : List Attribute} {content : List Item} {m : Meaning}
    (hs : (Item.element name attributes content).IsSoundAt m) (afterRoot : Bool) :
    ∃ s, W.IsRewrittenOutside escaper W.KeepsTag afterRoot
      (Item.element name attributes content).joinedAt s := by
  obtain ⟨first, more, hr⟩ := @exists_isRelaid W escaper hb m _ 0 hs (by simp)
  have hwritten : W.outsideAt escaper afterRoot (Item.element name attributes content).joinedAt =
      W.fragmentsAt escaper 0 true (Item.element name attributes content).joinedAt := by
    rw [Item.joinedAt, outsideAt, hf]
  obtain ⟨attributes', content', hitems, houtside⟩ := @exists_itemsOutside_element W escaper 0 true
    name attributes (Item.joined content)
  rw [← Item.joinedAt] at hitems houtside
  -- A single element is read.
  obtain ⟨rfl, rfl⟩ : first = .element name attributes' content' ∧ more = [] :=
    List.cons.inj (Prod.mk.inj ((hr.reads []).symm.trans hitems)).1
  have hjoined := joined_itemsFrom_append
    (W.fragmentsAt escaper 0 true (Item.element name attributes content).joinedAt) [] []
  rw [hitems, List.append_nil, Item.joined_cons_of_ne_text (by simp)] at hjoined
  have hagrees := hr.agreesIff
  rw [List.flatMap_nil, List.append_nil] at hagrees
  refine ⟨_, fun items => ?_, by rwa [hwritten], ?_⟩
  · rw [hwritten, houtside, List.singleton_append, Item.joined_cons_of_ne_text (by simp),
      (List.cons.inj hjoined).1, outside, text_append, outsideAt, hf]
    rfl
  · rw [hwritten, houtside]
    exact Item.everywhere_of_forall (canWrite_of_canEncode hb.canEncode) _

/-- Content on lines is the same again exactly if elements keep their tags. -/
theorem rewritesOutside_of_formatted (hb : W.IsBlockLayout) (hf : W.settings.formatted = true) :
    W.RewritesOutside escaper subsets W.KeepsTag := by
  refine rewritesOutside_of_element keepsTag_joined (fun item hs he => ?_)
    fun name attributes content afterRoot hs _ => exists_isRewrittenOutside_lines hb hf hs afterRoot
  cases item with
  | element name attributes content => cases he
  | _ => trivial

/-! ### The document -/

theorem itemsOutside_bodyFragments (items : List Item) :
    itemsOutside (W.bodyFragments escaper items) =
      itemsOutside (W.outside escaper false items) := by
  rw [bodyFragments, itemsOutside_append]
  split <;> exact List.append_nil _

/-- The document that is read obeys the rules. -/
theorem isSound_readAgain (hs : doc.IsSound subsets) (hw : doc.IsWritable) (hf : W.IsFaithful)
    {lookup : Text → Option Text} (ht : escaper.table.IsReadable lookup) :
    (W.readAgain escaper doc).IsSound subsets := by
  obtain ⟨hb, hout⟩ := @isReadable_body W escaper subsets doc hs hw hf lookup ht
  have hitems := isSoundOutside_itemsOutside hb hout subsets
  refine ⟨fun version hv => ?_, fun item hi => ?_, ?_, ?_⟩
  · have hversion : version = doc.declaration.version.getD ['1', '.', '0'] := by
      simp only [readAgain, declarationAgain] at hv
      split at hv
      · exact (Option.some.inj hv).symm
      · cases hv
    rw [hversion]
    exact ⟨(isWritable_label hs hw hf.label).not_isInfix, not_mem_version hs⟩
  · rcases List.mem_append.1 hi with hi | hi
    · obtain ⟨d, hd, rfl⟩ : ∃ d, doc.doctype? = some d ∧ .doctype d.withoutEmptySubset = item := by
        simpa [doctypeAgain] using hi
      obtain ⟨content, entities, hread, hnest, hr⟩ := isSoundOutside_of_doctype? hs hd
      exact ⟨_, entities, readDoctype_written hread, Doctype.nest_written hread hnest,
        Doctype.not_mem_written hread hr⟩
    · exact (hitems item hi).1
  · rw [countP_isElement_readAgain]
    exact hs.element
  · have hnone : (itemsOutside (W.bodyFragments escaper (Item.joined doc.content))).countP
        Item.isDoctype = 0 := by
      rw [List.countP_eq_zero]
      intro item hi
      simp [(hitems item hi).2]
    rw [readAgain, List.countP_append, hnone, Nat.add_zero]
    cases doc.doctype? with
    | none => exact Nat.zero_le 1
    | some d => exact Nat.le_refl 1

theorem doctype?_readAgain (hs : doc.IsSound subsets) (hw : doc.IsWritable) (hf : W.IsFaithful)
    {lookup : Text → Option Text} (ht : escaper.table.IsReadable lookup) :
    (W.readAgain escaper doc).doctype? = doc.doctype?.map Doctype.withoutEmptySubset := by
  obtain ⟨hb, hout⟩ := @isReadable_body W escaper subsets doc hs hw hf lookup ht
  exact find?_doctypeAgain (fun item hi => (isSoundOutside_itemsOutside hb hout subsets item hi).2)
    _ _

theorem any_eq_of_countP_eq {p : Item → Bool} {items more : List Item}
    (h : items.countP p = more.countP p) : items.any p = more.any p := by
  rw [Bool.eq_iff_iff, List.any_eq_true, List.any_eq_true, ← List.countP_pos_iff,
    ← List.countP_pos_iff, h]

/-- What is written of the document that is read. -/
theorem bodyFragments_readAgain (doc : Document) :
    W.bodyFragments escaper (Item.joined (W.readAgain escaper doc).content) =
      W.outside escaper false
          (Item.joined (itemsOutside (W.outside escaper false (Item.joined doc.content)))) ++
        if (Item.joined doc.content).any Item.isElement && W.settings.endsWithLine
          then [W.lineEnd] else [] := by
  have hcount : (Item.joined (itemsOutside (W.bodyFragments escaper
      (Item.joined doc.content)))).countP Item.isElement =
        (Item.joined doc.content).countP Item.isElement := by
    rw [Item.countP_joined, countP_bodyFragments]
  rw [readAgain, joined_doctypeAgain, bodyFragments_doctypeAgain, bodyFragments,
    any_eq_of_countP_eq hcount, itemsOutside_bodyFragments]

variable {table : EntityTable}

theorem text_eventsOf (label : Text) (doc : Document) :
    (W.eventsOf escaper label doc).flatMap Event.source =
      (W.declarationEvents label doc.declaration ++
        W.doctypeEvents doc.doctype?).flatMap Event.source ++
        Fragment.text (W.bodyFragments escaper (Item.joined doc.content)) := by
  rw [eventsOf, eventsWith, ← List.append_assoc, List.flatMap_append]
  rfl

/-- What is read from outside all elements can be written, and when its text is the same. -/
theorem RewritesOutside.agreesIff_joined {W : Writer} {escaper : Escaper} {P : Item → Prop}
    (h : W.RewritesOutside escaper subsets P) (hs : doc.IsSound subsets)
    (hcan : W.CanWriteDocument doc) :
    AgreesIff (Item.Everywhere P doc.content)
        (Fragment.text (W.outside escaper false (Item.joined doc.content)))
        (Fragment.text (W.outside escaper false (Item.joined
          (itemsOutside (W.outside escaper false (Item.joined doc.content)))))) ∧
      Item.Everywhere W.CanWrite
        (itemsOutside (W.outside escaper false (Item.joined doc.content))) := by
  obtain ⟨hagrees, hitems⟩ := h.agreesIff_outside hs.content ((canWrite_joined _).1 hcan.content)
    false
  exact ⟨hagrees.congr (h.joined_iff doc.content), hitems⟩

/-- The document that is read can be written. -/
theorem canWriteDocument_readAgain (hs : doc.IsSound subsets) (hw : doc.IsWritable)
    (hf : W.IsFaithful) (ht : W.entityTable doc.doctype? = .ok table)
    (hcan : W.CanWriteDocument doc) (h : W.RewritesOutside (W.settings.escaper table) subsets P) :
    W.CanWriteDocument (W.readAgain (W.settings.escaper table) doc) := by
  obtain ⟨entities, hlookup, -⟩ := exists_entities hs hw ht
  refine ⟨fun again hd => ?_, ?_⟩
  · rw [@doctype?_readAgain W (W.settings.escaper table) subsets doc hs hw hf _ hlookup] at hd
    obtain ⟨d, hdoctype, rfl⟩ := Option.map_eq_some_iff.1 hd
    obtain ⟨hname, hpublic, hsystem, hsubset⟩ := hcan.doctype d hdoctype
    rw [← Doctype.getD_nonEmpty] at hsubset
    exact ⟨hname, hpublic, hsystem, hsubset⟩
  · rw [canWrite_joined, readAgain, itemsOutside_bodyFragments]
    refine Item.everywhere_append.2 ⟨?_, (h.agreesIff_joined hs hcan).2⟩
    cases doc.doctype? <;> simp [doctypeAgain, Item.Everywhere, Item.EverywhereAt, CanWrite]

/-- The text of the document that is read is the same exactly if `P` holds of everything in it. -/
theorem agreesIff_readAgain (hs : doc.IsSound subsets) (hw : doc.IsWritable) (hf : W.IsFaithful)
    (ht : W.entityTable doc.doctype? = .ok table) (hcan : W.CanWriteDocument doc)
    (h : W.RewritesOutside (W.settings.escaper table) subsets P) (label : Text) :
    AgreesIff (Item.Everywhere P doc.content)
      ((W.eventsOf (W.settings.escaper table) label doc).flatMap Event.source)
      ((W.eventsOf (W.settings.escaper table) label
        (W.readAgain (W.settings.escaper table) doc)).flatMap Event.source) := by
  obtain ⟨entities, hlookup, -⟩ := exists_entities hs hw ht
  have hagrees := (h.agreesIff_joined hs hcan).1
  have hprolog : (W.declarationEvents label (W.readAgain (W.settings.escaper table)
      doc).declaration ++ W.doctypeEvents (W.readAgain (W.settings.escaper table) doc).doctype?) =
        W.declarationEvents label doc.declaration ++ W.doctypeEvents doc.doctype? := by
    rw [@doctype?_readAgain W (W.settings.escaper table) subsets doc hs hw hf _ hlookup,
      doctypeEvents_map, readAgain, declarationEvents_declarationAgain]
  rw [text_eventsOf, text_eventsOf, hprolog, bodyFragments_readAgain,
    bodyFragments, text_append, text_append]
  exact (hagrees.append_right _).append_left _

end Writer

end XmlScribe
