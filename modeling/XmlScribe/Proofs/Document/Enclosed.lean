/-
**Data that stays data.**

A tree is put together from names and strings and written.  Texts, sections and values of attributes
are escaped, so whatever they have in them is data when the text is read.  Comments and processing
instructions are written as they are; what would end them early is the only data that can become
markup.

Main definitions:

* `Document.IsEnclosed` — nothing in the document ends a comment or an instruction early, and the
  attributes of its elements can be told apart.

Main results:

* `Forest.exists_parse_documentText` — the text of such a document is read, and its elements,
  comments and instructions are those of the tree.
-/

import XmlScribe.Proofs.Forest.Accepted
import XmlScribe.Proofs.Writer.Entities

set_option autoImplicit false

namespace XmlScribe

/-- Comments and processing instructions end where they should, and the attributes of every element
can be told apart and are declarations where they are written as such. -/
structure Document.IsEnclosed (doc : Document) : Prop where
  /-- The comments and the instructions. -/
  isUnbroken : Item.Everywhere Item.IsUnbroken doc.content
  /-- The attributes. -/
  hasTidyAttributes : Item.Everywhere Item.HasTidyAttributes doc.content

namespace Forest

open Writer

theorem IsBuilt.declaration_eq {F : Forest} (hF : F.IsBuilt) (doc : NodeId) :
    F.declaration doc = .none := by
  rw [declaration]
  split
  · exact hF doc _ ‹_›
  · rfl

theorem IsBuilt.doctype?_eq {F : Forest} (hF : F.IsBuilt) (doc : NodeId) : F.doctype? doc = none := by
  rw [doctype?]
  split
  · rename_i d hd
    obtain ⟨id, -, hp⟩ := Option.bind_eq_some_iff.1 hd
    exact (hF id _ hp).elim
  · rfl

/-- A document without declaration and document type is read once it is written, if completion has
made a legible forest of it. -/
theorem exists_parse_of_isLegible {α : Type} {tell : QName → α} {profile : Profile}
    {subsets : Subsets} {F : Forest} {doc : NodeId} {s : Text} (hF : F.IsWellLinked)
    (hbuilt : F.IsBuilt) (hdoc : F.type? doc = some .document)
    (he : (F.toDocument doc).IsEnclosed)
    (htold : (∀ q q' : QName, q'.text = q.text → tell q' = tell q) ∨
      Item.Everywhere Item.IsConsistent (F.toDocument doc).content)
    (hs : ((quiet .standard profile).documentText F doc).2 = .ok s) :
    ∃ again, Document.parse subsets s = .ok again ∧
      again.marks tell = (F.toDocument doc).marks tell := by
  obtain ⟨table, G, htable, hG, htext⟩ := exists_of_documentText hs
  have hlegible := @isLegible_of_completesTo (quiet .standard profile) rfl F G doc hG hF hbuilt hdoc
    he.hasTidyAttributes α tell htold
  have hre := redeclares_of_completesTo hG
  have hchildren := hre.same.children_eq doc
  obtain ⟨items, hitems, hredeclared, hkinds, hsize⟩ := exists_holds_of_completesTo hG
    (hF.holds_toDocument hdoc) (fun _ => hF.mayHold_toDocument hdoc)
    (hF.count_toDocument_lt hdoc)
  have hcount : items.countP Item.isElement ≤ 1 :=
    hlegible.links.countP_le_one hlegible.document (hchildren.symm ▸ hitems)
  have hunbroken : Item.Everywhere Item.IsUnbroken items :=
    Item.Everywhere.redeclared (fun _ _ => trivial) hredeclared he.isUnbroken
  have haccepted : Item.IsAccepted tell (fun _ => none) items := by
    have h := isAccepted_of_holds hlegible hitems .refl (fun id hid => hchildren ▸ hid) hunbroken
    rw [scope_eq_nil (isElement_eq_false_of_document hlegible.document)] at h
    exact h
  obtain ⟨-, rfl⟩ := htext hitems hkinds hsize
  rw [hbuilt.declaration_eq, hbuilt.doctype?_eq]
  obtain ⟨entities, hreadable, hnone, -⟩ := @exists_replacements (quiet .standard profile) subsets
    none table nofun nofun (hbuilt.doctype?_eq doc ▸ htable)
  obtain rfl := hnone rfl
  obtain ⟨again, hparse, hmarks⟩ := @exists_parse_eventsWith α tell (quiet .standard profile)
    (Settings.standard.escaper table) subsets Settings.standard.encodingLabel ⟨⟨by decide, by decide,
      by decide, by decide⟩, by decide⟩ hreadable rfl rfl items haccepted
      (hlegible.built.hasNoNull hitems) hcount
  refine ⟨again, hparse, hmarks.trans ?_⟩
  exact Item.marks_redeclared tell hredeclared

/-- **Data becomes no markup.**  Whatever calls put a tree together from names and strings without
null characters: if its comments and instructions end where they should and the attributes of every
element can be told apart, its text is refused or read, and then its elements, comments and
instructions have the names, the targets and the nesting that they have in the tree.  The elements
have their namespaces too, if each of them uses a prefix for one namespace. -/
theorem exists_parse_documentText {changes : List Change} (hc : ∀ change ∈ changes, change.Builds)
    {doc : NodeId} (hdoc : (empty.run changes).type? doc = some .document)
    (he : ((empty.run changes).toDocument doc).IsEnclosed) {profile : Profile} {subsets : Subsets}
    {s : Text}
    (hs : ((quiet .standard profile).documentText (empty.run changes) doc).2 = .ok s) :
    ∃ again, Document.parse subsets s = .ok again ∧
      again.marks QName.text = ((empty.run changes).toDocument doc).marks QName.text ∧
      (Item.Everywhere Item.IsConsistent ((empty.run changes).toDocument doc).content →
        again.marks id = ((empty.run changes).toDocument doc).marks id) := by
  have hF := isWellLinked_empty.run changes
  have hbuilt := isBuilt_run hc
  obtain ⟨again, hparse, hmarks⟩ := @exists_parse_of_isLegible _ QName.text _ subsets _ _ _ hF hbuilt
    hdoc he (Or.inl fun _ _ ht => ht) hs
  refine ⟨again, hparse, hmarks, fun hconsistent => ?_⟩
  obtain ⟨again', hparse', hmarks'⟩ := @exists_parse_of_isLegible _ id _ subsets _ _ _ hF hbuilt hdoc
    he (Or.inr hconsistent) hs
  obtain rfl := Except.ok.inj (hparse.symm.trans hparse')
  exact hmarks'

/-! ### Data like markup -/

/-- A tree in which all data looks like markup, and none is. -/
def tempting : List Change :=
  [.addDocument, .createElementNs 0 (some ['u']) "p:a".toList, .createElementNs 0 none ['b'],
    .createText 0 "<c/>&".toList, .createCData 0 "]]><d/>".toList,
    .createComment 0 "<e/>".toList, .createInstruction 0 ['t'] (some "-->".toList),
    .setAttributeNs 2 none ['k'] "\"><f/>".toList, .appendChild 0 1, .appendChild 1 2,
    .appendChild 1 3, .appendChild 1 4, .appendChild 1 5, .appendChild 1 6]

/-- Its text. -/
def temptingText : Text :=
  "<?xml version=\"1.0\" encoding=\"UTF-8\"?>\n<p:a xmlns:p=\"u\">".toList ++
    "<b k='\">&lt;f/>'/>&lt;c/&gt;&amp;<![CDATA[]]]]><![CDATA[><d/>]]>".toList ++
      "<!--<e/>--><?t -->?></p:a>\n".toList

set_option maxRecDepth 4000 in
theorem toDocument_tempting : ((empty.run tempting).toDocument 0).content =
    [.element ⟨some ['u'], some ['p'], ['a']⟩ [] [.element ⟨none, none, ['b']⟩
      [⟨⟨none, none, ['k']⟩, "\"><f/>".toList⟩] [], .text "<c/>&".toList,
        .cdata "]]><d/>".toList, .comment "<e/>".toList,
          .instruction ['t'] (some "-->".toList)]] := by
  with_unfolding_all rfl

theorem builds_tempting : ∀ change ∈ tempting, change.Builds := by
  decide

theorem isEnclosed_tempting : ((empty.run tempting).toDocument 0).IsEnclosed := by
  refine ⟨?_, ?_⟩ <;> rw [toDocument_tempting] <;> decide

theorem isConsistent_tempting :
    Item.Everywhere Item.IsConsistent ((empty.run tempting).toDocument 0).content := by
  rw [toDocument_tempting]
  decide

theorem marks_tempting {α : Type} (tell : QName → α) :
    ((empty.run tempting).toDocument 0).marks tell =
      [.element (tell ⟨some ['u'], some ['p'], ['a']⟩)
        [.element (tell ⟨none, none, ['b']⟩) [], .comment, .instruction ['t']]] := by
  rw [Document.marks, toDocument_tempting]
  rfl

set_option maxRecDepth 4000 in
theorem exists_parse_documentText_tempting :
    ∃ again, Document.parse .none temptingText = .ok again ∧
      again.marks QName.text =
        [.element ['p', ':', 'a'] [.element ['b'] [], .comment, .instruction ['t']]] ∧
      again.marks id = [.element ⟨some ['u'], some ['p'], ['a']⟩
        [.element ⟨none, none, ['b']⟩ [], .comment, .instruction ['t']]] := by
  have htempting : ((quiet .standard .everyBlock).documentText (empty.run tempting) 0).2 =
      .ok temptingText := by decide +kernel
  obtain ⟨again, hparse, htext, hid⟩ := @exists_parse_documentText tempting builds_tempting 0
    (by decide) isEnclosed_tempting .everyBlock .none temptingText htempting
  exact ⟨again, hparse, htext.trans (marks_tempting QName.text),
    (hid isConsistent_tempting).trans (marks_tempting id)⟩

/-- The calls put a tree together from names and strings, and its text is not read, or the elements,
comments and instructions that are read are others. -/
def IsMisread (changes : List Change) : Prop :=
  (∀ change ∈ changes, change.Builds) ∧ (empty.run changes).type? 0 = some .document ∧
    ∃ s, ((quiet .standard .everyBlock).documentText (empty.run changes) 0).2 = .ok s ∧
      ∀ again, Document.parse .none s = .ok again →
        again.marks QName.text ≠ ((empty.run changes).toDocument 0).marks QName.text

section Misread

variable {changes : List Change} (hc : ∀ change ∈ changes, change.Builds)
  (hdoc : (empty.run changes).type? 0 = some .document) {s : Text}
  (hs : ((quiet .standard .everyBlock).documentText (empty.run changes) 0).2 = .ok s)
include hc hdoc hs

theorem isMisread_of_isOk (hparse : (Document.parse .none s).isOk = false) : IsMisread changes :=
  ⟨hc, hdoc, s, hs, fun again h => by rw [h] at hparse; cases hparse⟩

theorem isMisread_of_marks {again : Document} {marks : List (Mark Text)}
    (hparse : Document.parse .none s = .ok again)
    (hmarks : ((empty.run changes).toDocument 0).marks QName.text = marks)
    (hne : again.marks QName.text ≠ marks) : IsMisread changes := by
  refine ⟨hc, hdoc, s, hs, fun other h => ?_⟩
  obtain rfl := Except.ok.inj (hparse.symm.trans h)
  rwa [hmarks]

end Misread

/-- The calls that put an element together whose two attributes have the same text. -/
def doubled : List Change :=
  [.addDocument, .createElementNs 0 none ['a'], .setAttributeNs 1 none ['k'] [],
    .setAttributeNs 1 (some ['v']) ['k'] [], .appendChild 0 1]

/-- Its text. -/
def doubledText : Text :=
  "<?xml version=\"1.0\" encoding=\"UTF-8\"?>\n<a k=\"\" k=\"\"/>\n".toList

theorem toDocument_doubled : ((empty.run doubled).toDocument 0).content =
    [.element ⟨none, none, ['a']⟩
      [⟨⟨none, none, ['k']⟩, []⟩, ⟨⟨some ['v'], none, ['k']⟩, []⟩] []] := by
  with_unfolding_all rfl

-- Sorting does not evaluate, so the text is that of the items whose attributes are in order already.
theorem documentText_doubled :
    ((quiet .standard .everyBlock).documentText (empty.run doubled) 0).2 = .ok doubledText := by
  have hF := isWellLinked_empty.run doubled
  have hdoc : (empty.run doubled).type? 0 = some .document := by decide
  have hcomplete : ∀ root, (empty.run doubled).root? 0 = some root → Walk.Writes
      (empty.run doubled) ((quiet .standard .everyBlock).completeFrom root) True () [] := by
    intro root hr
    obtain rfl : 1 = root := Option.some.inj ((by decide : _ = some 1).symm.trans hr)
    exact Walk.writes_complete (by with_unfolding_all rfl)
  have hencodes : ∀ s, (quiet .standard .everyBlock).Encodes s := fun _ _ _ => rfl
  have hcan : Item.Everywhere (quiet .standard .everyBlock).CanWrite
      (Item.joined ((empty.run doubled).toDocument 0).content) := by
    rw [toDocument_doubled]
    exact ⟨⟨⟨hencodes _, fun _ _ => hencodes _⟩, trivial⟩, trivial⟩
  have hsorted : Attribute.sorted .everyBlock (keyOf ⟨none, none, ['a']⟩)
      [⟨⟨none, none, ['k']⟩, []⟩, ⟨⟨some ['v'], none, ['k']⟩, []⟩] =
        [⟨⟨none, none, ['k']⟩, []⟩, ⟨⟨some ['v'], none, ['k']⟩, []⟩] :=
    List.mergeSort_of_pairwise (by decide)
  rw [@documentText_of_complete _ .standard .everyBlock 0 0 0 _ (by decide) rfl ⟨[], false⟩
    (by with_unfolding_all rfl) hcomplete (hF.holds_toDocument hdoc)
    (fun item hm => hF.mayHold_toDocument hdoc hm)
    (Nat.le_succ_of_le (Nat.le_of_lt (hF.count_toDocument_lt hdoc))) hcan, toDocument_doubled,
    show (empty.run doubled).declaration 0 = .none by decide]
  simp only [eventsWith, bodyFragments, outside, outsideAt, fragmentsAt_element, spellAttributes,
    Item.joined, Item.join, Item.joinedAt]
  rw [show (quiet .standard .everyBlock).profile = .everyBlock from rfl, hsorted]
  with_unfolding_all rfl

/-- What ends a comment or an instruction in the middle becomes markup.  Two attributes with the same
text, an attribute that is written as a declaration without being one, and the declaration that none
can be told from keep a text from being read. -/
theorem isMisread_untidy :
    IsMisread [.addDocument, .createElementNs 0 none ['a'],
      .createComment 0 "--><x/><!--".toList, .appendChild 0 1, .appendChild 1 2] ∧
    IsMisread [.addDocument, .createElementNs 0 none ['a'],
      .createInstruction 0 ['t'] (some "?><x/><?t".toList), .appendChild 0 1, .appendChild 1 2] ∧
    IsMisread doubled ∧
    IsMisread [.addDocument, .createElementNs 0 none ['a'],
      .setAttributeNs 1 none xmlnsPrefix xmlnsUri, .appendChild 0 1] ∧
    IsMisread [.addDocument, .createElementNs 0 (some xmlnsUri) xmlnsPrefix,
      .createElementNs 0 none ['a'], .setAttributeNs 2 (some xmlnsUri) Attribute.xmlnsXmlns [],
      .appendChild 0 1, .appendChild 1 2] := by
  refine ⟨?_, ?_, ?_, ?_, ?_⟩
  · refine @isMisread_of_marks _ (by decide) (by decide)
      ("<?xml version=\"1.0\" encoding=\"UTF-8\"?>\n".toList ++
        "<a><!----><x/><!----></a>\n".toList) (by decide +kernel)
      ⟨⟨some ['1', '.', '0'], some "UTF-8".toList, none⟩, [.element ⟨none, none, ['a']⟩ []
        [.comment [], .element ⟨none, none, ['x']⟩ [] [], .comment []]]⟩
      [.element ['a'] [.comment]] (by with_unfolding_all rfl) (by with_unfolding_all rfl) ?_
    simp [Document.marks, Item.marks, Item.marksAt]
  · refine @isMisread_of_marks _ (by decide) (by decide)
      ("<?xml version=\"1.0\" encoding=\"UTF-8\"?>\n".toList ++
        "<a><?t ?><x/><?t?></a>\n".toList) (by decide +kernel)
      ⟨⟨some ['1', '.', '0'], some "UTF-8".toList, none⟩, [.element ⟨none, none, ['a']⟩ []
        [.instruction ['t'] none, .element ⟨none, none, ['x']⟩ [] [], .instruction ['t'] none]]⟩
      [.element ['a'] [.instruction ['t']]] (by with_unfolding_all rfl)
      (by with_unfolding_all rfl) ?_
    simp [Document.marks, Item.marks, Item.marksAt]
  · exact isMisread_of_isOk (by decide) (by decide) documentText_doubled
      (by decide +kernel)
  · exact @isMisread_of_isOk _ (by decide) (by decide)
      ("<?xml version=\"1.0\" encoding=\"UTF-8\"?>\n".toList ++
        "<a xmlns=\"http://www.w3.org/2000/xmlns/\"/>\n".toList) (by decide +kernel)
      (by decide +kernel)
  · exact @isMisread_of_isOk _ (by decide) (by decide)
      ("<?xml version=\"1.0\" encoding=\"UTF-8\"?>\n".toList ++
        "<xmlns xmlns=\"http://www.w3.org/2000/xmlns/\">".toList ++
          "<a xmlns:xmlns=\"\"/></xmlns>\n".toList) (by decide +kernel) (by decide +kernel)

end Forest

end XmlScribe
