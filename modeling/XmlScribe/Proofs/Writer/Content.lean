/-
**Writing an element writes its fragments.**

The walks that write nodes are followed one by one.  What a walk over the content of an element
needs to know of the content is only that each part of it stands for an item: that the part is of
the kind of the item, and that it is written as the fragments of the item.

Main definitions:

* `Writer.CanWrite` — the names and the markup of an item have only characters of the character
  set;
* `Writer.StandsFor` — a part of the content stands for an item.

Main results:

* `Writer.writes_putVerbatim`, `Writer.writes_putFormatted` — content as it is and on lines;
* `Writer.writes_putElementFrom` — elements of a planted document.
-/

import XmlScribe.Proofs.Document.Joined
import XmlScribe.Proofs.Forest.Planted
import XmlScribe.Proofs.Layout.Merged
import XmlScribe.Proofs.Writer.Layout
import XmlScribe.Proofs.Writer.Quiet

set_option autoImplicit false

namespace XmlScribe

namespace Writer

open Walk

variable {W : Writer} {escaper : Escaper} {F : Forest}

/-- The text has only characters of the character set. -/
def Encodes (W : Writer) (s : Text) : Prop :=
  ∀ c ∈ s, W.settings.charset.canEncode c = true

/-- The item has only characters of the character set where no reference can stand. -/
def CanWrite (W : Writer) : Item → Prop
  | .element name attributes _ => W.Encodes name.text ∧ ∀ a ∈ attributes, W.Encodes a.name.text
  | .comment data => W.Encodes data
  | .instruction target data => W.Encodes target ∧ W.Encodes (data.getD [])
  | _ => True

/-! ### Nodes without children -/

theorem writes_putMarkup (construct : Construct) (s : Text) :
    Writes F (W.putMarkup construct s) (W.Encodes s) () s := by
  rw [putMarkup]
  cases h : s.find? (!W.settings.charset.canEncode ·) with
  | none =>
      refine (writes_put s).congr (iff_of_true trivial fun c hc => ?_) rfl
      simpa using List.find?_eq_none.1 h c hc
  | some c =>
      refine (writes_throw _).congr ⟨False.elim, fun hable => ?_⟩ rfl
      have hc := hable c (List.mem_of_find?_eq_some h)
      simpa [hc] using List.find?_some h

theorem writes_putText (data : Text) :
    Writes F (W.putText escaper data) True () (Fragment.text [W.spellText escaper data]) :=
  (writes_put _).congr Iff.rfl (by simp [Fragment.text, Fragment.events, Fragment.eventsOf,
    Event.source, spellText])

theorem writes_putComment (data : Text) :
    Writes F (W.putComment data) (W.Encodes data) () (Fragment.text [.comment data]) := by
  refine ((writes_putString _).bind ((writes_putMarkup .comment data).bind
    (writes_putString _))).congr (by simp) ?_
  simp [Fragment.text, Fragment.events, Fragment.eventsOf, Event.source]

theorem writes_putInstruction (target : Text) (data : Option Text) :
    Writes F (W.putInstruction target data) (W.Encodes target ∧ W.Encodes (data.getD [])) ()
      (Fragment.text [.instruction target data]) := by
  rcases data with _ | (_ | ⟨c, s⟩)
  · refine ((writes_putString _).bind ((writes_putMarkup _ _).bind (writes_putString _))).congr
      (by simp [Encodes]) ?_
    simp [Fragment.text, Fragment.events, Fragment.eventsOf, Event.source, Fragment.spaced]
  · refine ((writes_putString _).bind ((writes_putMarkup _ _).bind (writes_putString _))).congr
      (by simp [Encodes]) ?_
    simp [Fragment.text, Fragment.events, Fragment.eventsOf, Event.source, Fragment.spaced]
  · refine ((writes_putString _).bind ((writes_putMarkup _ _).bind ((writes_putString _).bind
      ((writes_putMarkup _ _).bind (writes_putString _))))).congr (by simp) ?_
    simp [Fragment.text, Fragment.events, Fragment.eventsOf, Event.source, Fragment.spaced]

theorem writes_putCData (data : Text) :
    Writes F (W.putCData data) True ()
      (Fragment.text (CData.fragments W.settings.charset.canEncode data)) :=
  (writes_putAll _).congr Iff.rfl (CData.flatten_pieces _ _)

/-- A node without children is written as the fragments of the item. -/
theorem writes_putLeaf {item : Item} {payload : Payload} (h : item.leaf? = some payload)
    (depth : Nat) (formatting : Bool) :
    Writes F (W.putLeaf escaper payload) (item.EverywhereAt W.CanWrite) ()
      (Fragment.text (W.fragmentsAt escaper depth formatting item)) := by
  cases item with
  | element name attributes content => cases h
  | text data => cases h
  | cdata data =>
      cases h
      exact writes_putCData data
  | comment data =>
      cases h
      exact writes_putComment data
  | instruction target data =>
      cases h
      exact writes_putInstruction target data
  | doctype d =>
      cases h
      exact writes_pure ()

/-! ### Start tags -/

theorem writes_putAttribute (a : Attribute) :
    Writes F (W.putAttribute escaper a) (W.Encodes a.name.text) ()
      (spellAttribute escaper a).2.text := by
  refine ((writes_putString _).bind ((writes_putMarkup _ _).bind ((writes_putString _).bind
    ((writes_put _).bind ((writes_put _).bind (writes_put _)))))).congr (by simp) ?_
  simp [spellAttribute, WrittenAttribute.text]

theorem writes_putAttributes (attributes : List Attribute) :
    Writes F (W.putAttributes escaper attributes) (∀ a ∈ attributes, W.Encodes a.name.text) ()
      (attributes.flatMap fun a => (spellAttribute escaper a).2.text) := by
  induction attributes with
  | nil => exact (writes_pure ()).congr (by simp) rfl
  | cons a attributes ih =>
      exact ((writes_putAttribute a).bind ih).congr (by simp) rfl

/-- What a start tag is written as. -/
theorem writes_putStartTag (name : QName) (attributes : List Attribute) :
    Writes F (W.putStartTag escaper ⟨name, attributes⟩)
      (W.Encodes name.text ∧ ∀ a ∈ attributes, W.Encodes a.name.text) ()
      ('<' :: Fragment.tagOf name (W.spellAttributes escaper name attributes)) := by
  have hperm := Attribute.sorted_perm W.profile (keyOf name) attributes
  refine ((writes_putString _).bind ((writes_putMarkup _ _).bind
    (writes_putAttributes _))).congr ?_ ?_
  · simp only [true_and, hperm.mem_iff]
  · simp [Fragment.tagOf, Tag.written, spellAttributes, List.flatMap_map]

/-! ### Parts of the content -/

/-- Writing a part of the content of an element writes an item. -/
inductive StandsFor (W : Writer) (escaper : Escaper) (F : Forest) (putElement : ElementWriter) :
    Content → Item → Prop where
  /-- A text. -/
  | text (data : Text) : StandsFor W escaper F putElement (.text data) (.text data)
  /-- An element. -/
  | element {id : NodeId} {name : QName} {attributes : List Attribute} {content : List Item}
      (hname : F.elementName? id = some name)
      (hwrites : ∀ depth formatting, Writes F (putElement id depth formatting)
        (Item.EverywhereAt W.CanWrite (.element name attributes content)) ()
        (Fragment.text
          (W.fragmentsAt escaper depth formatting (.element name attributes content)))) :
      StandsFor W escaper F putElement (.node id) (.element name attributes content)
  /-- Another node. -/
  | leaf {id : NodeId} {item : Item} {payload : Payload} (hpayload : F.payload? id = some payload)
      (hleaf : item.leaf? = some payload)
      (hwrites : ∀ depth formatting, Writes F (W.putLeaf escaper payload)
        (item.EverywhereAt W.CanWrite) ()
        (Fragment.text (W.fragmentsAt escaper depth formatting item))) :
      StandsFor W escaper F putElement (.node id) item

variable {putElement : ElementWriter}

theorem exists_cells_of_elementName? {id : NodeId} {name : QName}
    (h : F.elementName? id = some name) : ∃ cells, F.payload? id = some (.element name cells) := by
  rw [Forest.elementName?] at h
  split at h
  · rename_i cells hpayload
    rw [← Option.some.inj h]
    exact ⟨cells, hpayload⟩
  · cases h

theorem isElement_of_elementName? {id : NodeId} {name : QName}
    (h : F.elementName? id = some name) : F.isElement id = true := by
  obtain ⟨cells, hpayload⟩ := exists_cells_of_elementName? h
  rw [Forest.isElement, Forest.type?, hpayload]
  rfl

/-- What a node that stands for an item is written as. -/
theorem writes_putNode {id : NodeId} {item : Item}
    (h : W.StandsFor escaper F putElement (.node id) item) (depth : Nat) (formatting : Bool) :
    Writes F (W.putNode escaper putElement id depth formatting) (item.EverywhereAt W.CanWrite) ()
      (Fragment.text (W.fragmentsAt escaper depth formatting item)) := by
  refine Writes.bind_silent writes_forest ?_
  cases h with
  | element hname hwrites =>
      obtain ⟨cells, hpayload⟩ := exists_cells_of_elementName? hname
      simp only [hpayload]
      exact hwrites depth formatting
  | leaf hpayload hleaf hwrites =>
      rename_i payload
      have hne := Item.ne_element_of_leaf? hleaf
      cases payload with
      | element name cells => exact absurd rfl hne
      | _ =>
          simp only [hpayload]
          exact hwrites depth formatting

theorem writes_traitsOf {id : NodeId} {name : QName} (h : F.elementName? id = some name) :
    Writes F (W.traitsOf id) True (W.traits name) [] := by
  refine Writes.bind_silent writes_forest ?_
  simp only [h]
  exact writes_ask _ _

/-- What a part of the content is to the text beside it. -/
theorem writes_neighbour {part : Content} {item : Item}
    (h : W.StandsFor escaper F putElement part item) :
    Writes F (W.neighbour (some part)) True (W.neighbourOf (some item)) [] := by
  cases h with
  | text data => exact writes_pure _
  | element hname hwrites =>
      refine Writes.bind_silent writes_forest ?_
      rw [if_pos (isElement_of_elementName? hname)]
      exact Writes.bind_silent (writes_traitsOf hname) (writes_pure _)
  | leaf hpayload hleaf hwrites =>
      refine Writes.bind_silent writes_forest ?_
      rw [if_neg (Forest.not_isElement_of_payload? hpayload (Item.ne_element_of_leaf? hleaf))]
      cases item <;> cases hleaf <;> exact writes_pure _

theorem writes_neighbour_head? {parts : List Content} {items : List Item}
    (h : List.Forall₂ (W.StandsFor escaper F putElement) parts items) :
    Writes F (W.neighbour parts.head?) True (W.neighbourOf items.head?) [] := by
  cases h with
  | nil => exact writes_pure _
  | cons hpart _ => exact writes_neighbour hpart

/-- To be asked about a part twice makes no difference. -/
theorem writes_neighbourBefore {part : Option Content} {neighbour : Neighbour}
    (h : Writes F (W.neighbour part) True neighbour []) :
    Writes F (W.neighbourBefore part) True neighbour [] := by
  refine Writes.bind_silent h ?_
  cases neighbour with
  | element isBlock isBreak =>
      cases isBlock with
      | false => exact h
      | true => exact writes_pure _
  | _ => exact writes_pure _

/-! ### Content as it is -/

theorem writes_putVerbatimParts {parent : NodeId} {parts : List Content} {items : List Item}
    (h : List.Forall₂ (W.StandsFor escaper F putElement) parts items) :
    Writes F (W.putVerbatimParts escaper putElement parent (F.children parent).length parts)
      (Item.Everywhere W.CanWrite items) () (Fragment.text (W.verbatim escaper items)) := by
  induction h with
  | nil => exact writes_checkChildren parent
  | @cons part item parts items hpart _ ih =>
      rw [verbatim, Fragment.text_append, Item.Everywhere]
      refine Writes.bind_silent (writes_checkChildren parent) ?_
      cases part with
      | text data =>
          cases hpart
          exact (writes_putText data).bind ih
      | node id => exact (writes_putNode hpart 0 false).bind ih

/-- Content as it is is written as its fragments. -/
theorem writes_putVerbatim {parent : NodeId} {items : List Item}
    (h : List.Forall₂ (W.StandsFor escaper F putElement) (F.content parent) items) :
    Writes F (W.putVerbatim escaper putElement parent) (Item.Everywhere W.CanWrite items) ()
      (Fragment.text (W.verbatim escaper items)) :=
  Writes.bind_silent writes_forest (writes_putVerbatimParts h)

/-! ### Content on lines -/

theorem text_blanks (s : Text) : Fragment.text [blanks s] = s := by
  simp [Fragment.text, Fragment.events, Fragment.eventsOf, Event.source, blanks]

theorem writes_putIndent (depth : Nat) :
    Writes F (W.putIndent depth) True () (Fragment.text [W.indentation depth]) :=
  (writes_putAll _).congr Iff.rfl (text_blanks _).symm

theorem writes_putNewline : Writes F W.putNewline True () (Fragment.text [W.lineEnd]) :=
  (writes_put _).congr Iff.rfl (text_blanks _).symm

theorem writes_putIndentAtStart (st : LineState) (depth : Nat) :
    Writes F (W.putIndentAtStart st depth) True () (Fragment.text (W.indentAtStart st depth)) := by
  rw [putIndentAtStart, indentAtStart]
  split
  · exact writes_putIndent depth
  · exact writes_pure ()

/-- A text on lines, between what `before` and `after` are to it. -/
theorem writes_putFormattedText {before after : Option Content} {first last : Neighbour}
    (hbefore : Writes F (W.neighbour before) True first [])
    (hafter : Writes F (W.neighbour after) True last []) (parentIsBlock : Bool) (depth : Nat)
    (data : Text) (st : LineState) :
    Writes F (W.putFormattedText escaper parentIsBlock depth before after data st) True
      (W.placeText escaper (Trim.between parentIsBlock first last) depth data st).2
      (Fragment.text
        (W.placeText escaper (Trim.between parentIsBlock first last) depth data st).1) := by
  refine Writes.bind_silent (writes_neighbourBefore hbefore) (Writes.bind_silent hafter ?_)
  rw [placeText]
  simp only []
  split
  · exact writes_pure st
  · rw [Fragment.text_append]
    exact ((writes_putIndentAtStart st depth).bind
      ((writes_putText _).then_pure _)).congr (iff_of_eq (true_and True)) rfl

/-- An element on lines. -/
theorem writes_putFormattedElement {id : NodeId} {name : QName} {able : Prop}
    {own : List Fragment} (hname : F.elementName? id = some name) {depth : Nat}
    (hown : Writes F (putElement id depth true) able () (Fragment.text own)) (st : LineState) :
    Writes F (W.putFormattedElement putElement depth id st) able
      (W.placeElement (W.traits name) depth own st).2
      (Fragment.text (W.placeElement (W.traits name) depth own st).1) := by
  refine Writes.bind_silent (writes_traitsOf hname) ?_
  rw [placeElement]
  simp only []
  split
  · have hline : Writes F (do
        W.putIndent depth
        putElement id depth true
        W.putNewline
        return st.afterLine (W.traits name)) able (st.afterLine (W.traits name))
        (Fragment.text (W.indentation depth :: own ++ [W.lineEnd])) := by
      refine ((writes_putIndent depth).bind (hown.bind (writes_putNewline.then_pure _))).congr
        (by simp) ?_
      simp [← Fragment.text_append]
    cases st.atLineStart with
    | true => exact hline
    | false =>
        refine (writes_putNewline.bind hline).congr (iff_of_eq (true_and able)) ?_
        simp [← Fragment.text_append]
  · split
    · refine ((writes_putIndentAtStart st depth).bind (hown.bind
        (writes_putNewline.then_pure _))).congr (by simp) ?_
      simp [← Fragment.text_append]
    · refine ((writes_putIndentAtStart st depth).bind (hown.then_pure _)).congr (by simp) ?_
      simp [← Fragment.text_append]

/-- A part of the content on lines. -/
theorem writes_putFormattedPart {part : Content} {item : Item}
    (h : W.StandsFor escaper F putElement part item) {before after : Option Content}
    {first last : Neighbour} (hbefore : Writes F (W.neighbour before) True first [])
    (hafter : Writes F (W.neighbour after) True last []) (parentIsBlock : Bool) (depth : Nat)
    (st : LineState) :
    Writes F (W.putFormattedPart escaper putElement parentIsBlock depth before after part st)
      (item.EverywhereAt W.CanWrite)
      (W.place escaper parentIsBlock depth first last item
        (W.fragmentsAt escaper depth true item) st).2
      (Fragment.text (W.place escaper parentIsBlock depth first last item
        (W.fragmentsAt escaper depth true item) st).1) := by
  cases h with
  | text data => exact writes_putFormattedText hbefore hafter parentIsBlock depth data st
  | element hname hwrites =>
      refine Writes.bind_silent writes_forest ?_
      rw [if_pos (isElement_of_elementName? hname)]
      exact writes_putFormattedElement hname (hwrites depth true) st
  | leaf hpayload hleaf hwrites =>
      have hplace : W.place escaper parentIsBlock depth first last item
          (W.fragmentsAt escaper depth true item) st =
            (W.indentAtStart st depth ++ W.fragmentsAt escaper depth true item, st.inLine) := by
        cases item <;> cases hleaf <;> rfl
      refine Writes.bind_silent writes_forest ?_
      rw [if_neg (Forest.not_isElement_of_payload? hpayload (Item.ne_element_of_leaf? hleaf)), hplace,
        Fragment.text_append]
      exact ((writes_putIndentAtStart st depth).bind
        ((writes_putNode (.leaf hpayload hleaf hwrites) depth true).then_pure _)).congr
        (iff_of_eq (true_and _)) rfl

theorem writes_putFormattedParts {parent : NodeId} {parts : List Content} {items : List Item}
    (h : List.Forall₂ (W.StandsFor escaper F putElement) parts items) (depth : Nat)
    (traits : Traits) {before : Option Content} {first : Neighbour}
    (hbefore : Writes F (W.neighbour before) True first []) (st : LineState) :
    Writes F (W.putFormattedParts escaper putElement parent (F.children parent).length depth traits
        before st parts) (Item.Everywhere W.CanWrite items)
      (W.laidOut escaper depth traits first st items).2
      (Fragment.text (W.laidOut escaper depth traits first st items).1) := by
  induction h generalizing before first st with
  | nil => exact Writes.bind_silent (writes_checkChildren parent) (writes_pure st)
  | @cons part item parts items hpart hparts ih =>
      rw [laidOut, Item.Everywhere, Fragment.text_append]
      refine Writes.bind_silent (writes_checkChildren parent) ?_
      exact (writes_putFormattedPart hpart hbefore (writes_neighbour_head? hparts) _ _ _).bind
        (ih (writes_neighbour hpart) _)

/-- Content on lines is written as its fragments. -/
theorem writes_putFormatted {parent : NodeId} {items : List Item}
    (h : List.Forall₂ (W.StandsFor escaper F putElement) (F.content parent) items) (depth : Nat)
    (traits : Traits) :
    Writes F (W.putFormatted escaper putElement parent depth traits)
      (Item.Everywhere W.CanWrite items) ()
      (Fragment.text ((W.laidOut escaper depth traits .edge .start items).1 ++
        W.lastLine depth (W.laidOut escaper depth traits .edge .start items).2)) := by
  rw [Fragment.text_append]
  have hend : ∀ st : LineState, Writes F
      (if st.atLineStart then W.putIndent depth
        else if st.hadBlock && W.settings.endTagOnLine then do
          W.putNewline
          W.putIndent depth
        else pure ()) True () (Fragment.text (W.lastLine depth st)) := by
    intro st
    rw [lastLine]
    split
    · exact writes_putIndent depth
    · split
      · refine (writes_putNewline.bind (writes_putIndent depth)).congr
          (iff_of_eq (true_and True)) ?_
        simp [← Fragment.text_append]
      · exact writes_pure ()
  refine Writes.bind_silent writes_forest ?_
  exact ((writes_putFormattedParts h depth traits (writes_pure _) .start).bind (hend _)).congr
    (and_iff_left trivial) rfl

/-! ### Elements -/

theorem text_element (name : QName) (attributes : List (Attribute × WrittenAttribute))
    (closed : Bool) (content : List Fragment) :
    Fragment.text [.element name attributes closed content] =
      '<' :: Fragment.tagOf name attributes ++
        (if closed then ['/', '>']
          else '>' :: Fragment.text content ++ '<' :: '/' :: name.text ++ ['>']) := by
  cases closed <;>
    simp [Fragment.text, Fragment.events, Fragment.eventsOf, Event.source]

theorem writes_putEmptyEnd (name : Text) :
    Writes F (W.putEmptyEnd name) True ()
      (if W.settings.emptyTags then ['/', '>'] else '>' :: '<' :: '/' :: name ++ ['>']) := by
  rw [putEmptyEnd]
  split
  · exact writes_putString _
  · exact ((writes_putString _).bind ((writes_put _).bind (writes_putString _))).congr
      (by simp) (by simp)

/-- The content of an element, between the end of its start tag and the end of its end tag. -/
theorem writes_putContent {id : NodeId} {name : QName} {items : List Item}
    (hname : F.elementName? id = some name) (hne : items ≠ [])
    (h : List.Forall₂ (W.StandsFor escaper F putElement) (F.content id) items) (depth : Nat)
    (formatting : Bool) :
    Writes F (W.putContent escaper putElement id name.text depth formatting)
      (Item.Everywhere W.CanWrite items) ()
      ('>' :: Fragment.text (W.inside escaper depth formatting name items) ++
        '<' :: '/' :: name.text ++ ['>']) := by
  have hend : ∀ {able : Prop} {walk : Walk Unit} {t : Text}, Writes F walk able () t →
      Writes F (do
        walk
        putString "</"
        put name.text
        putString ">") able () (t ++ '<' :: '/' :: name.text ++ ['>']) := fun hwalk =>
    (hwalk.bind ((writes_putString _).bind ((writes_put _).bind (writes_putString _)))).congr
      (by simp) (by simp)
  have hrest : Writes F (do
        let traits ← W.traitsOf id
        if formatting && !traits.preserved then W.putFormatted escaper putElement id depth traits
        else W.putVerbatim escaper putElement id
        putString "</"
        put name.text
        putString ">") (Item.Everywhere W.CanWrite items) ()
      (Fragment.text (W.inside escaper depth formatting name items) ++
        '<' :: '/' :: name.text ++ ['>']) := by
    have hinside : W.inside escaper depth formatting name items =
        if formatting && !(W.traits name).preserved then
          (W.laidOut escaper depth (W.traits name) .edge .start items).1 ++
            W.lastLine depth (W.laidOut escaper depth (W.traits name) .edge .start items).2
        else W.verbatim escaper items := by
      rw [inside, if_neg (by simpa using hne)]
    refine Writes.bind_silent (writes_traitsOf hname) ?_
    rw [hinside]
    by_cases hf : (formatting && !(W.traits name).preserved) = true
    · rw [if_pos hf, if_pos hf]
      exact hend (writes_putFormatted h depth (W.traits name))
    · rw [if_neg hf, if_neg hf]
      exact hend (writes_putVerbatim h)
  exact ((writes_putString _).bind hrest).congr (iff_of_eq (true_and _)) rfl

/-- A part that shows an item stands for it. -/
theorem standsFor_of_shows {owner parent : NodeId} {items : List Item} {part : Content}
    {shown : Item} (h : F.Shows owner parent items part shown)
    (helement : ∀ id name attributes content, Item.element name attributes content ∈ items →
      F.HoldsAt owner parent id (.element name attributes content) → ∀ depth formatting,
      Writes F (putElement id depth formatting)
        (Item.EverywhereAt W.CanWrite (Item.joinedAt (.element name attributes content))) ()
        (Fragment.text (W.fragmentsAt escaper depth formatting
          (Item.joinedAt (.element name attributes content))))) :
    W.StandsFor escaper F putElement part shown := by
  cases h with
  | text data => exact .text data
  | @node id item hm hitem hne =>
      have hleaf : ∀ payload, item.leaf? = some payload →
          W.StandsFor escaper F putElement (.node id) item.joinedAt := fun payload hl =>
        .leaf (Forest.payload?_of_leaf? hitem hl) ((Item.leaf?_joinedAt item).trans hl)
          fun depth formatting => writes_putLeaf ((Item.leaf?_joinedAt item).trans hl) depth formatting
      cases item with
      | element name attributes content =>
          have hname : F.elementName? id = some name := by
            obtain ⟨cells, children, -, hget, -⟩ := hitem
            simp [Forest.elementName?, Forest.payload?, hget]
          exact .element hname (helement id name attributes content hm hitem)
      | text data => exact absurd rfl (hne data)
      | cdata data => exact hleaf _ rfl
      | comment data => exact hleaf _ rfl
      | instruction target data => exact hleaf _ rfl
      | doctype d => exact hleaf _ rfl

/-- An element of a planted document is written as its fragments. -/
theorem writes_putElementFrom {owner : NodeId} {name : QName} {attributes : List Attribute}
    {content : List Item} {fuel : Nat} {parent id : NodeId}
    (h : F.HoldsAt owner parent id (.element name attributes content))
    (hfuel : Item.countAt (.element name attributes content) ≤ fuel) (depth : Nat)
    (formatting : Bool) :
    Writes F (W.putElementFrom escaper fuel id depth formatting)
      (Item.EverywhereAt W.CanWrite (Item.joinedAt (.element name attributes content))) ()
      (Fragment.text (W.fragmentsAt escaper depth formatting
        (Item.joinedAt (.element name attributes content)))) := by
  induction fuel generalizing name attributes content parent id depth formatting with
  | zero => simp [Item.countAt] at hfuel
  | succ fuel ih =>
      obtain ⟨cells, children, hcells, hget, hcontent⟩ := h
      have hname : F.elementName? id = some name := by
        simp [Forest.elementName?, Forest.payload?, hget]
      have hframe : F.frame? id = some ⟨name, attributes⟩ := by
        simp [Forest.frame?, Forest.payload?, hget, hcells]
      have hchildren : F.children id = children := by
        simp [Forest.children, hget]
      have hparts : List.Forall₂ (W.StandsFor escaper F (W.putElementFrom escaper fuel))
          (F.content id) (Item.joined content) := by
        rw [Forest.content, hchildren]
        refine (Forest.shows_contentOf hcontent).imp fun _ _ hs =>
          standsFor_of_shows hs fun other name attributes inner hm ho => ih ho ?_
        have := Item.countAt_le_count hm
        rw [Item.countAt] at hfuel
        omega
      rw [Item.joinedAt, fragmentsAt_element, text_element, Item.EverywhereAt]
      refine Writes.bind_silent writes_forest ?_
      simp only [hframe, hchildren]
      refine ((writes_putStartTag name attributes).bind ?_).congr Iff.rfl rfl
      cases content with
      | nil =>
          obtain rfl := Forest.eq_nil_of_holds_nil hcontent
          refine (writes_putEmptyEnd name.text).congr (iff_of_true trivial trivial) ?_
          simp [Item.joined, inside, Fragment.text, Fragment.events]
      | cons item items =>
          have hne : Item.joined (item :: items) ≠ [] := by simp [Item.joined_eq_nil_iff]
          have hchildren : children.isEmpty = false := by
            cases children with
            | nil => exact hcontent.elim
            | cons _ _ => rfl
          rw [hchildren, if_neg (by decide), List.isEmpty_eq_false_iff.2 hne, Bool.false_and,
            if_neg (by decide)]
          exact writes_putContent hname hne hparts depth formatting

end Writer

end XmlScribe
