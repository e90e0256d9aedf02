/-
**Content that is written as it is, read again.**

The fragments of an item are read if its names are resolved where it stands, its attributes have
different texts, and nothing in a comment or a processing instruction ends it too early.  The markup
is then that of the item, so the text of a document has the markup of the document.

Main definitions:

* `Item.IsAccepted` — the items are read once they are written.

Main results:

* `Writer.isWrittenAs_bodyFragments` — what is written is read, and has the markup of the items;
* `Writer.exists_parse_eventsWith` — the text of a document is read, and has its markup.
-/

import XmlScribe.Document.Read
import XmlScribe.Proofs.Markup.Unified
import XmlScribe.Proofs.Writer.Scanned

set_option autoImplicit false

namespace XmlScribe

open Builder Fragment

variable {α : Type} {tell : QName → α}

theorem Attribute.IsAccepted.isName {m : Meaning} {a : Attribute} (h : a.IsAccepted m) :
    Name.IsName a.name.text := by
  obtain ⟨a', ha, ht⟩ := h
  exact ht ▸ ha.isName

namespace Item

mutual

/-- The item is read once it is written, where `m` is what the prefixes mean. -/
def IsAcceptedAt (tell : QName → α) (m : Meaning) : Item → Prop
  | element name attributes content =>
      let inner := meaningIn m attributes
      name.IsAccepted tell inner ∧ (∀ a ∈ attributes, a.IsAccepted inner) ∧
        (attributes.map fun a => a.name.text).Nodup ∧ IsAccepted tell inner content
  | comment data => ¬ ['-', '-', '>'] <:+: data
  | instruction target data =>
      Instruction.checkTarget target = .ok () ∧ ¬ ['?', '>'] <:+: data.getD []
  | _ => True

/-- The items are read once they are written. -/
def IsAccepted (tell : QName → α) (m : Meaning) : List Item → Prop
  | [] => True
  | item :: items => IsAcceptedAt tell m item ∧ IsAccepted tell m items

end

mutual

theorem isAcceptedAt_joinedAt :
    ∀ {item : Item} {m : Meaning}, IsAcceptedAt tell m item → IsAcceptedAt tell m item.joinedAt
  | element _ _ _, _, h => ⟨h.1, h.2.1, h.2.2.1, isAccepted_joined h.2.2.2⟩
  | text _, _, h => h
  | cdata _, _, h => h
  | comment _, _, h => h
  | instruction _ _, _, h => h
  | doctype _, _, h => h

/-- Joining texts changes nothing about that. -/
theorem isAccepted_joined :
    ∀ {items : List Item} {m : Meaning}, IsAccepted tell m items → IsAccepted tell m (joined items)
  | [], _, h => h
  | item :: items, m, h => by
      have hitem := isAcceptedAt_joinedAt h.1
      have hitems := isAccepted_joined h.2
      rw [joined]
      rcases join_cases item.joinedAt (joined items) with he | ⟨data, next, rest, -, hr, he⟩
      · rw [he]
        exact ⟨hitem, hitems⟩
      · rw [hr] at hitems
        rw [he]
        exact ⟨trivial, hitems.2⟩

end

end Item

namespace Writer

variable {W : Writer} {escaper : Escaper} {lookup : Text → Option Text}

/-! ### Sections -/

/-- The sections and references of data are read. -/
theorem isAccepted_cdata {m : Meaning} (canEncode : Char → Bool) {data : Text}
    (hn : '\x00' ∉ data) :
    Fragment.IsAccepted tell lookup m (CData.fragments canEncode data) := by
  refine Fragment.isAccepted_iff.2 (CData.forall_mem_fragments (fun _ => ?_)
    (fun _ hclosing _ => hclosing) fun c hc _ => ?_)
  · exact by simp [Fragment.IsAcceptedAt]
  · have hne : c ≠ '\x00' := fun he => hn (he ▸ hc)
    exact ⟨⟨Escaper.not_mem_hexReference c (by decide),
      Escaper.not_mem_hexReference c (by decide)⟩, Reference.spells_hexReference hne⟩

theorem marks_of_marksAt {fragments : List Fragment}
    (h : ∀ f ∈ fragments, f.marksAt tell = []) : Fragment.marks tell fragments = [] := by
  induction fragments with
  | nil => rfl
  | cons f fragments ih =>
      rw [Fragment.marks, h f (by simp), ih fun g hg => h g (by simp [hg])]
      rfl

/-- They are no markup. -/
theorem marks_cdata (canEncode : Char → Bool) (data : Text) :
    Fragment.marks tell (CData.fragments canEncode data) = [] :=
  marks_of_marksAt (CData.forall_mem_fragments (fun _ => rfl) (fun _ _ _ => rfl) fun _ _ _ => rfl)

/-! ### Content -/

theorem isAcceptedAt_spellText (ht : escaper.table.IsReadable lookup)
    (hsep : W.settings.separator = ['\n']) {m : Meaning} {data : Text} (h : '\x00' ∉ data) :
    Fragment.IsAcceptedAt tell lookup m (W.spellText escaper data) :=
  @isReadableAt_spellText W escaper lookup m ht hsep data h

theorem isAcceptedAt_lineEnd (hsep : W.settings.separator = ['\n']) {m : Meaning} :
    Fragment.IsAcceptedAt tell lookup m W.lineEnd :=
  @isReadableAt_lineEnd W lookup m hsep

theorem inside_unformatted (name : QName) (content : List Item) :
    W.inside escaper 0 false name content = W.verbatim escaper content := by
  rw [inside]
  cases content with
  | nil => rfl
  | cons item content => rfl

mutual

/-- The fragments of an item are read. -/
theorem isAccepted_fragmentsAt (ht : escaper.table.IsReadable lookup)
    (hsep : W.settings.separator = ['\n']) :
    ∀ (item : Item) (m : Meaning), item.IsAcceptedAt tell m → item.EverywhereAt Item.HasNoNull →
      Fragment.IsAccepted tell lookup m (W.fragmentsAt escaper 0 false item)
  | .element name attributes content, m, h, hn => by
      obtain ⟨hname, haccepted, hnodup, hcontent⟩ := h
      have hperm := Attribute.sorted_perm W.profile (keyOf name) attributes
      have hmeaning := meaningIn_perm (m := m) hperm.symm hnodup
      have hspelled : ∀ a ∈ W.spellAttributes escaper name attributes,
          Fragment.IsSpelled lookup a.1 a.2 := by
        intro a ha
        obtain ⟨b, hmem, rfl⟩ := List.mem_map.1 ha
        have hb := hperm.mem_iff.1 hmem
        exact isSpelled_spellAttribute ht (haccepted b hb).isName (hn.1 b hb)
      rw [fragmentsAt_element, inside_unformatted]
      refine ⟨?_, trivial⟩
      rw [Fragment.IsAcceptedAt, map_fst_spellAttributes, ← hmeaning]
      refine ⟨hname, fun a ha => ?_, hspelled, (hperm.map _).nodup_iff.2 hnodup, fun hc => ?_,
        isAccepted_verbatim ht hsep content _ hcontent hn.2⟩
      · obtain ⟨b, hb, rfl⟩ := List.mem_map.1 ha
        exact haccepted b (hperm.mem_iff.1 hb)
      · rw [List.isEmpty_iff.1 (Bool.and_eq_true_iff.1 hc).1, verbatim]
  | .text data, _, _, hn => ⟨isAcceptedAt_spellText ht hsep hn, trivial⟩
  | .cdata data, _, _, hn => isAccepted_cdata _ hn
  | .comment data, _, h, _ => ⟨h, trivial⟩
  | .instruction target data, _, h, _ => ⟨h, trivial⟩
  | .doctype _, _, _, _ => trivial

/-- The fragments of content are read. -/
theorem isAccepted_verbatim (ht : escaper.table.IsReadable lookup)
    (hsep : W.settings.separator = ['\n']) :
    ∀ (items : List Item) (m : Meaning), Item.IsAccepted tell m items →
      Item.Everywhere Item.HasNoNull items →
      Fragment.IsAccepted tell lookup m (W.verbatim escaper items)
  | [], _, _, _ => trivial
  | item :: items, m, h, hn => by
      have hitem := isAccepted_fragmentsAt ht hsep item m h.1 hn.1
      have hitems := isAccepted_verbatim ht hsep items m h.2 hn.2
      refine Fragment.isAccepted_iff.2 fun f hf => ?_
      rcases List.mem_append.1 hf with hf | hf
      · exact Fragment.isAccepted_iff.1 hitem f hf
      · exact Fragment.isAccepted_iff.1 hitems f hf

end

mutual

/-- The fragments of an item have its markup. -/
theorem marks_fragmentsAt :
    ∀ item : Item, Fragment.marks tell (W.fragmentsAt escaper 0 false item) = item.marksAt tell
  | .element name attributes content => by
      rw [fragmentsAt_element, inside_unformatted, Fragment.marks, Fragment.marksAt,
        marks_verbatim content]
      rfl
  | .text _ => rfl
  | .cdata data => marks_cdata _ data
  | .comment _ => rfl
  | .instruction _ _ => rfl
  | .doctype _ => rfl

/-- The fragments of content have its markup. -/
theorem marks_verbatim :
    ∀ items : List Item, Fragment.marks tell (W.verbatim escaper items) = Item.marks tell items
  | [] => rfl
  | item :: items => by
      rw [verbatim, Fragment.marks_append, marks_fragmentsAt item, marks_verbatim items, Item.marks]

end

/-! ### Outside all elements -/

/-- The fragments are read outside all elements, and have the markup of the items and as many
elements. -/
structure IsWrittenAs (tell : QName → α) (lookup : Text → Option Text) (items : List Item)
    (fragments : List Fragment) : Prop where
  /-- They are read. -/
  isAccepted : Fragment.IsAccepted tell lookup (fun _ => none) fragments
  /-- They may stand there. -/
  isOutside : ∀ f ∈ fragments, f.IsOutside
  /-- They have the markup of the items. -/
  marks : Fragment.marks tell fragments = Item.marks tell items
  /-- There are as many elements. -/
  countP : fragments.countP Fragment.isElement = items.countP Item.isElement

theorem IsWrittenAs.append {items more : List Item} {fragments rest : List Fragment}
    (h : IsWrittenAs tell lookup items fragments) (h' : IsWrittenAs tell lookup more rest) :
    IsWrittenAs tell lookup (items ++ more) (fragments ++ rest) where
  isAccepted := Fragment.isAccepted_iff.2 fun f hf => (List.mem_append.1 hf).elim
    (Fragment.isAccepted_iff.1 h.isAccepted f) (Fragment.isAccepted_iff.1 h'.isAccepted f)
  isOutside f hf := (List.mem_append.1 hf).elim (h.isOutside f) (h'.isOutside f)
  marks := by rw [Fragment.marks_append, Item.marks_append, h.marks, h'.marks]
  countP := by rw [List.countP_append, List.countP_append, h.countP, h'.countP]

/-- The end of a line stands for no item. -/
theorem isWrittenAs_lineEnd (hsep : W.settings.separator = ['\n']) :
    IsWrittenAs tell lookup [] [W.lineEnd] := by
  refine ⟨⟨isAcceptedAt_lineEnd hsep, trivial⟩, fun f hf => ?_, rfl, rfl⟩
  rw [List.mem_singleton.1 hf, lineEnd, hsep]
  exact ⟨rfl, rfl⟩

/-- A comment or a processing instruction stands on a line of its own. -/
theorem isWrittenAs_beside (hsep : W.settings.separator = ['\n']) {item : Item} {f : Fragment}
    (h : IsWrittenAs tell lookup [item] [f]) (afterRoot : Bool) :
    IsWrittenAs tell lookup [item] (if afterRoot then [W.lineEnd, f] else [f, W.lineEnd]) := by
  cases afterRoot with
  | true => exact (isWrittenAs_lineEnd hsep).append h
  | false => exact h.append (isWrittenAs_lineEnd hsep)

theorem isWrittenAs_outsideAt (ht : escaper.table.IsReadable lookup)
    (hsep : W.settings.separator = ['\n']) (hf : W.settings.formatted = false) {item : Item}
    (h : item.IsAcceptedAt tell fun _ => none) (hn : item.EverywhereAt Item.HasNoNull)
    (afterRoot : Bool) : IsWrittenAs tell lookup [item] (W.outsideAt escaper afterRoot item) := by
  have hone : ∀ f : Fragment, Fragment.IsAcceptedAt tell lookup (fun _ => none) f → f.IsOutside →
      f.marksAt tell = item.marksAt tell → f.isElement = item.isElement →
        IsWrittenAs tell lookup [item] [f] := fun f ha ho hm he =>
    ⟨⟨ha, trivial⟩, by simpa using ho, by simp [Fragment.marks, Item.marks, hm],
      by simp [List.countP_cons, he]⟩
  cases item with
  | element name attributes content =>
      have haccepted := isAccepted_fragmentsAt ht hsep _ _ h hn
      have hmarks := @marks_fragmentsAt α tell W escaper (.element name attributes content)
      rw [outsideAt, hf]
      rw [fragmentsAt_element] at haccepted hmarks ⊢
      refine hone _ haccepted.1 trivial ?_ rfl
      rwa [Fragment.marks, Fragment.marks, List.append_nil] at hmarks
  | comment data => exact isWrittenAs_beside hsep (hone (.comment data) h trivial rfl rfl) afterRoot
  | instruction target data =>
      exact isWrittenAs_beside hsep (hone (.instruction target data) h trivial rfl rfl) afterRoot
  | _ => exact ⟨trivial, by simp [outsideAt], rfl, rfl⟩

/-- What is written of a document after its prolog. -/
theorem isWrittenAs_bodyFragments (ht : escaper.table.IsReadable lookup)
    (hsep : W.settings.separator = ['\n']) (hf : W.settings.formatted = false) {items : List Item}
    (h : Item.IsAccepted tell (fun _ => none) items) (hn : Item.Everywhere Item.HasNoNull items) :
    IsWrittenAs tell lookup items (W.bodyFragments escaper items) := by
  have houtside : ∀ afterRoot,
      IsWrittenAs tell lookup items (W.outside escaper afterRoot items) := by
    induction items with
    | nil => exact fun _ => ⟨trivial, by simp [outside], rfl, rfl⟩
    | cons item items ih => exact fun afterRoot =>
        (isWrittenAs_outsideAt ht hsep hf h.1 hn.1 afterRoot).append (ih h.2 hn.2 _)
  rw [bodyFragments]
  split
  · have happend := (houtside false).append (isWrittenAs_lineEnd hsep)
    rwa [List.append_nil] at happend
  · rw [List.append_nil]
    exact houtside false

/-! ### The document -/

/-- The label of an encoding stands in a declaration as it is meant. -/
structure IsPlainLabel (label : Text) : Prop where
  /-- It ends neither an attribute nor the declaration. -/
  isWritable : Declaration.IsWritable ['1', '.', '0'] label
  /-- It has no line ending. -/
  not_mem : '\r' ∉ label

/-- Reading makes line feeds of the line endings in comments, instructions and sections. -/
theorem unifyLineEndings_eventsWith {label : Text} (hl : '\r' ∉ label)
    (hsep : W.settings.separator = ['\n']) {items : List Item} {m : Meaning}
    (h : Fragment.IsAccepted tell lookup m (W.bodyFragments escaper (Item.joined items))) :
    Text.unifyLineEndings ((W.eventsWith escaper label .none none items).flatMap Event.source) =
      (W.eventsAround label .none none
        (unified (W.bodyFragments escaper (Item.joined items)))).flatMap Event.source := by
  have hdeclaration : '\r' ∉ (W.declarationEvents label .none).flatMap Event.source := by
    rw [declarationEvents]
    split
    · rw [List.flatMap_cons, declarationContent, Declaration.source_written]
      simp only [List.mem_append, not_or]
      exact ⟨⟨Declaration.not_mem_lead (by decide), hl, Declaration.not_mem_tail _⟩,
        by simp [Event.source, hsep]⟩
    · simp
  have hbody := Fragment.endLinesWith_text _ h []
  rw [List.append_nil, Text.endLinesWith_nil, List.append_nil] at hbody
  show Text.unifyLineEndings ((W.eventsAround label .none none _).flatMap Event.source) = _
  rw [Text.unifyLineEndings_eq, eventsAround_none, eventsAround_none, List.flatMap_append,
    List.flatMap_append, Text.endLinesWith_append_of_not_mem hdeclaration]
  exact congrArg (List.flatMap Event.source (W.declarationEvents label .none) ++ ·) hbody

/-- **The text of a document is read, and has its markup.**  The document has no document type and
its declaration says nothing. -/
theorem exists_parse_eventsWith {subsets : Subsets} {label : Text} (hl : IsPlainLabel label)
    (ht : escaper.table.IsReadable fun name => List.lookup name ([] : List (Text × Text)))
    (hsep : W.settings.separator = ['\n']) (hf : W.settings.formatted = false) {items : List Item}
    (h : Item.IsAccepted tell (fun _ => none) items) (hn : Item.Everywhere Item.HasNoNull items)
    (hcount : items.countP Item.isElement ≤ 1) :
    ∃ doc, Document.parse subsets
        ((W.eventsWith escaper label .none none items).flatMap Event.source) = .ok doc ∧
      doc.marks tell = Item.marks tell items := by
  have hw := isWrittenAs_bodyFragments ht hsep hf (Item.isAccepted_joined h)
    ((Item.hasNoNull_joined items).2 hn)
  have haccepted := isAccepted_unified hw.isAccepted
  have hscan : Event.scan ((W.eventsAround label .none none
      (unified (W.bodyFragments escaper (Item.joined items)))).flatMap Event.source) = _ :=
    scan_eventsAround (by rw [hsep]; decide)
      (Declaration.readsBack_written hl.isWritable.not_isInfix hl.isWritable.not_mem_label.2 none)
      nofun haccepted.isLexical (head?_unified head?_bodyFragments)
  obtain ⟨raw, hraw, hdeclaration⟩ := @foldlM_declarationEvents W label .none subsets hsep
    hl.isWritable (Fragment.events (unified (W.bodyFragments escaper (Item.joined items))))
  generalize (if W.settings.xmlDeclaration then
    (⟨some (Declaration.none.version.getD ['1', '.', '0']), some label,
      Declaration.none.standalone⟩ : Declaration) else .none) = declaration at hdeclaration
  obtain ⟨read, hmarks, hbody⟩ := @exists_foldlM_outside α tell subsets _
    ⟨declaration, [], [], []⟩ rfl haccepted (isOutside_unified hw.isOutside) (by
        rw [countP_unified, hw.countP, Item.countP_joined]
        exact hcount) raw hraw
  refine ⟨⟨declaration, read⟩, ?_, ?_⟩
  · rw [Document.parse, unifyLineEndings_eventsWith hl.not_mem hsep hw.isAccepted, hscan]
    show (List.foldlM _ _ (Event.mergeFrom [] _) >>= _) = _
    rw [eventsAround_none, hdeclaration, hbody, pushAll_nothing rfl, Outcome.bind_of_eq_ok rfl, finish]
    simp
  · rw [Document.marks, hmarks, marks_unified, hw.marks, Item.marks_joined]

end Writer

end XmlScribe
