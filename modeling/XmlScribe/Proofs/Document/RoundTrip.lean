/-
**Reading what has been written.**

A document that has been read from a text is written, and the text is read again.  If the content is
written as it is, the second document says all that the first one does.  If it is laid out on lines,
only white space differs, and none does in the elements that the profile preserves.

A document is laid out on lines with the settings and the profile that are used if no others are
given.  When its text is read and laid out again, the white space of the layout has come back in
texts, and disappears again where it stood.  What can differ is the tag of an element that has
nothing but white space in it: it is written with an end tag, read as an element without content,
and written as a single tag.

Main definitions:

* `Document.IsReadFrom` — a document with the text that it has been read from;
* `Document.SaysTheSame` — two documents say the same but for white space;
* `Settings.onLines` — the standard settings for layout on lines.

Main results:

* `Document.saysTheSame_of_unformatted` — content that is written as it is stays as it is;
* `Document.saysTheSame_of_formatted` — layout changes nothing but white space;
* `Document.documentText_again_eq_iff` — when the second document is written as the first one was;
* `Document.documentText_onLines_again_eq_iff` — when the second text is the first one.
-/

import Mathlib.Data.Bool.AllAny
import XmlScribe.Proofs.Document.Parsed
import XmlScribe.Proofs.Document.Rewritten

set_option autoImplicit false

namespace XmlScribe

open Builder Fragment

namespace Document

/-- The document has been read from the text, and nothing in it is lost when it is written. -/
structure IsReadFrom (subsets : Subsets) (x : Text) (doc : Document) : Prop where
  /-- The document is read. -/
  parse : parse subsets x = .ok doc
  /-- No attribute in the text is named `xmlns:xmlns`. -/
  declaresNoXmlns : ∀ event ∈ (Event.scan (Text.unifyLineEndings x)).1, event.DeclaresNoXmlns
  /-- Nothing is lost. -/
  isWritable : doc.IsWritable

theorem IsReadFrom.isSound {subsets : Subsets} {x : Text} {doc : Document}
    (h : doc.IsReadFrom subsets x) : doc.IsSound subsets :=
  isSound_parse h.parse h.declaresNoXmlns

/-- A document says the same as another one, where white space counts in the elements that `kept`
holds of.  An empty subset of the document type counts as none. -/
structure SaysTheSame (kept : ElementKey → Bool) (again doc : Document) : Prop where
  /-- The document type is the same. -/
  doctype : again.doctype? = doc.doctype?.map Doctype.withoutEmptySubset
  /-- The outlines are the same. -/
  outlines : again.outlines kept = doc.outlines kept

end Document

namespace Writer

variable {W : Writer} {escaper : Escaper} {subsets : Subsets} {doc : Document}

/-- The document that is read has the outlines of the one that was written. -/
theorem outlines_readAgain {kept : ElementKey → Bool} (hs : doc.IsSound subsets)
    (hw : doc.IsWritable) (hf : W.IsFaithful)
    (hkept : W.settings.formatted = true → kept = W.profile.isPreserved)
    (hr : Item.Everywhere Item.HasNoReturn doc.content) {lookup : Text → Option Text}
    (ht : escaper.table.IsReadable lookup) :
    (W.readAgain escaper doc).outlines kept = doc.outlines kept := by
  obtain ⟨-, hout⟩ := @isReadable_body W escaper subsets doc hs hw hf lookup ht
  have hbody := @outlinesFrom_bodyFragments W escaper subsets kept hf.separator
    (fun h => ⟨hf.layout h, hkept h⟩) _ (Item.isSoundOutside_joined hs.content)
    ((Item.hasNoReturn_joined doc.content).2 hr)
  have hdoctype : Item.outlinesFrom kept false [] (doctypeAgain doc.doctype?) = ([], []) := by
    cases doc.doctype? <;> rfl
  have houtlines : Item.outlinesFrom kept false [] (W.readAgain escaper doc).content =
      Item.outlinesFrom kept false [] doc.content := by
    rw [readAgain, Item.outlinesFrom_append, hdoctype, outlinesFrom_itemsOutside kept hout, hbody,
      Item.outlinesFrom_joined]
    rfl
  rw [Document.outlines, Document.outlines, Item.outlines, Item.outlines, houtlines]

/-- Reading the text gives a document that says the same. -/
theorem saysTheSame_of_documentText {settings : Settings} {profile : Profile} {x : Text}
    (h : doc.IsReadFrom subsets x) {kept : ElementKey → Bool}
    (hf : (quiet settings profile).IsFaithful)
    (hkept : settings.formatted = true → kept = profile.isPreserved)
    (hr : Item.Everywhere Item.HasNoReturn doc.content) {F : Forest} {id : NodeId}
    (hp : F.IsPlanted id doc) {s : Text}
    (hd : ((quiet settings profile).documentText F id).2 = .ok s) :
    ∃ again, Document.parse subsets s = .ok again ∧ again.SaysTheSame kept doc := by
  obtain ⟨table, ht, -, rfl⟩ := (documentText_eq_ok_iff hp h.isSound hf.heading).1 hd
  obtain ⟨entities, hlookup, -⟩ := exists_entities h.isSound h.isWritable ht
  have hparse := parse_eventsOf h.isSound h.isWritable hf ht
  have hdoctype := @doctype?_readAgain (quiet settings profile) (settings.escaper table) subsets doc
    h.isSound h.isWritable hf _ hlookup
  have houtlines := @outlines_readAgain (quiet settings profile) (settings.escaper table) subsets doc
    kept h.isSound h.isWritable hf hkept hr _ hlookup
  exact ⟨_, hparse, hdoctype, houtlines⟩

end Writer

namespace Document

/-! ### Two documents -/

/-- The declaration of an entity for a character that ASCII lacks. -/
def acuteSubset : Text := "<!ENTITY eacute \"&#233;\">".toList

/-- A document type with this declaration. -/
def acuteDoctype : Doctype :=
  ⟨['a'], none, none, some acuteSubset, [⟨"eacute".toList, .internal ['é']⟩]⟩

/-- A text in which the character stands in a CDATA section. -/
def acuteText : Text :=
  "<!DOCTYPE a [<!ENTITY eacute \"&#233;\">]><a><![CDATA[é]]></a>".toList

/-- The document that is read from it. -/
def acuteDocument : Document :=
  ⟨.none, [.doctype acuteDoctype, .element ⟨none, none, ['a']⟩ [] [.cdata ['é']]]⟩

/-- Settings to write it in ASCII. -/
def acuteSettings : Settings :=
  { Settings.standard with encodingLabel := "US-ASCII".toList, charset := .ascii }

/-- The text with a certain reference to the character. -/
def acuteTextWith (reference : String) : Text :=
  "<?xml version=\"1.0\" encoding=\"US-ASCII\"?>\n".toList ++
    "<!DOCTYPE a [<!ENTITY eacute \"&#233;\">]>\n<a>".toList ++ reference.toList ++ "</a>\n".toList

theorem isReadFrom_acuteText : acuteDocument.IsReadFrom .none acuteText := by
  refine ⟨by with_unfolding_all rfl, by decide +kernel, ?_⟩
  refine ⟨by simp [acuteDocument, Declaration.none], ?_, ?_⟩
  · rintro d ⟨⟩
    decide +kernel
  · simp [acuteDocument, Item.Everywhere, Item.EverywhereAt, Item.HasNoNull]

/-- The document that is read from what is written of it. -/
def acuteAgain : Document :=
  ⟨⟨some "1.0".toList, some "US-ASCII".toList, none⟩,
    [.doctype acuteDoctype, .element ⟨none, none, ['a']⟩ [] [.text ['é']]]⟩

/-- A document with spaces that do not count. -/
def spacedDocument : Document :=
  ⟨.none, [.element ⟨none, none, ['a']⟩ []
    [.text [' ', 'x', ' '], .element ⟨none, none, ['b']⟩ [] [.text ['y', ' ']]]]⟩

theorem isReadFrom_spacedDocument :
    spacedDocument.IsReadFrom .none "<a> x <b>y </b></a>".toList := by
  refine ⟨by with_unfolding_all rfl, by decide +kernel, ?_⟩
  refine ⟨by simp [spacedDocument, Declaration.none], ?_, ?_⟩
  · intro d hd
    simp [spacedDocument, doctype?, Item.isDoctype] at hd
  · simp [spacedDocument, Item.Everywhere, Item.EverywhereAt, Item.HasNoNull]

/-! ### Round trips -/

variable {subsets : Subsets} {x s : Text} {doc : Document} {settings : Settings}

/-- Content that is written as it is stays as it is. -/
theorem saysTheSame_of_unformatted (h : doc.IsReadFrom subsets x)
    (hr : Item.Everywhere Item.HasNoReturn doc.content) (hf : settings.formatted = false)
    (hsep : settings.separator = ['\n']) (hh : settings.heading = none)
    (hl : Charset.forWriting? settings.encodingLabel = some settings.charset) (profile : Profile)
    (F : Forest)
    (hd : ((Writer.quiet settings profile).documentText (F.plant doc).1 (F.plant doc).2).2 =
      .ok s) :
    ∃ again, parse subsets s = .ok again ∧ again.SaysTheSame (fun _ => true) doc := by
  have hfaithful : (Writer.quiet settings profile).IsFaithful :=
    ⟨hh, hsep, hl, fun ht => absurd (hf.symm.trans ht) (by decide)⟩
  exact Writer.saysTheSame_of_documentText h hfaithful
    (fun ht => absurd (hf.symm.trans ht) (by decide)) hr (Forest.isPlanted_plant F doc) hd

theorem saysTheSame_acuteDocument : ∃ again, parse .none (acuteTextWith "&#xE9;") = .ok again ∧
    again.SaysTheSame (fun _ => true) acuteDocument :=
  @saysTheSame_of_unformatted .none acuteText _ acuteDocument acuteSettings isReadFrom_acuteText
    (by simp [acuteDocument, Item.Everywhere, Item.EverywhereAt, Item.HasNoReturn]) rfl rfl rfl
    (by with_unfolding_all rfl) .everyBlock Forest.empty (by with_unfolding_all rfl)

/-- Layout changes nothing but white space, and none in the elements that the profile preserves. -/
theorem saysTheSame_of_formatted (h : doc.IsReadFrom subsets x)
    (hr : Item.Everywhere Item.HasNoReturn doc.content) (hsep : settings.separator = ['\n'])
    (hh : settings.heading = none)
    (hl : Charset.forWriting? settings.encodingLabel = some settings.charset)
    (hindent : ∀ c ∈ settings.indent, c ∈ [' ', '\t', '\n']) {profile : Profile}
    (hspace : profile.isSpace = Text.isBlank) (F : Forest)
    (hd : ((Writer.quiet settings profile).documentText (F.plant doc).1 (F.plant doc).2).2 =
      .ok s) :
    ∃ again, parse subsets s = .ok again ∧ again.SaysTheSame profile.isPreserved doc := by
  have hblank : ∀ c ∈ [' ', '\t', '\n'], Text.isBlank c = true ∧ c ≠ '\r' :=
    List.all_iff_forall_prop.1 (by decide)
  have hlayout : (Writer.quiet settings profile).IsBlankLayout :=
    ⟨hspace, List.all_eq_true.2 fun c hc => (hblank c (hindent c hc)).1,
      fun hm => (hblank _ (hindent _ hm)).2 rfl⟩
  have hfaithful : (Writer.quiet settings profile).IsFaithful := ⟨hh, hsep, hl, fun _ => hlayout⟩
  exact Writer.saysTheSame_of_documentText h hfaithful (fun _ => rfl) hr
    (Forest.isPlanted_plant F doc) hd

theorem saysTheSame_spacedDocument : ∃ again,
    parse .none "<?xml version=\"1.0\" encoding=\"UTF-8\"?>\n<a>x\n\t<b>y</b>\n</a>\n".toList =
      .ok again ∧ again.SaysTheSame Profile.everyBlock.isPreserved spacedDocument :=
  @saysTheSame_of_formatted .none "<a> x <b>y </b></a>".toList _ spacedDocument
    { Settings.standard with formatted := true } isReadFrom_spacedDocument
    (by simp [spacedDocument, Item.Everywhere, Item.EverywhereAt, Item.HasNoReturn]) rfl rfl
    (by with_unfolding_all rfl) (by simp [Settings.standard]) .everyBlock rfl Forest.empty
    (by with_unfolding_all rfl)

/-- A document can be read and written again.  When the second text is the first one depends on when
items are written again as they were. -/
theorem documentText_again_of_rewrites (h : doc.IsReadFrom subsets x) {profile : Profile}
    (hf : (Writer.quiet settings profile).IsFaithful) {P : EntityTable → Item → Prop}
    (hrewrites : ∀ table, (Writer.quiet settings profile).entityTable doc.doctype? = .ok table →
      (Writer.quiet settings profile).RewritesOutside (settings.escaper table) subsets (P table))
    (F F' : Forest)
    (hd : ((Writer.quiet settings profile).documentText (F.plant doc).1 (F.plant doc).2).2 =
      .ok s) :
    ∃ table again s', (Writer.quiet settings profile).entityTable doc.doctype? = .ok table ∧
      parse subsets s = .ok again ∧
      ((Writer.quiet settings profile).documentText (F'.plant again).1 (F'.plant again).2).2 =
        .ok s' ∧
      (s' = s ↔ Item.Everywhere (P table) doc.content) := by
  have hh : settings.heading = none := hf.heading
  obtain ⟨table, ht, hcan, rfl⟩ :=
    (Writer.documentText_eq_ok_iff (Forest.isPlanted_plant F doc) h.isSound hh).1 hd
  obtain ⟨entities, hlookup, -⟩ := Writer.exists_entities h.isSound h.isWritable ht
  have hsound := @Writer.isSound_readAgain (Writer.quiet settings profile) (settings.escaper table)
    subsets doc h.isSound h.isWritable hf _ hlookup
  have hdoctype := @Writer.doctype?_readAgain (Writer.quiet settings profile)
    (settings.escaper table) subsets doc h.isSound h.isWritable hf _ hlookup
  have htable : (Writer.quiet settings profile).entityTable
      ((Writer.quiet settings profile).readAgain (settings.escaper table) doc).doctype? =
        .ok table := by
    rw [hdoctype, Writer.entityTable_map, ht]
  have hcan' := Writer.canWriteDocument_readAgain h.isSound h.isWritable hf ht hcan
    (hrewrites table ht)
  have hagrees := Writer.agreesIff_readAgain h.isSound h.isWritable hf ht hcan (hrewrites table ht)
    settings.encodingLabel
  refine ⟨table, _, _, ht, Writer.parse_eventsOf h.isSound h.isWritable hf ht,
    (Writer.documentText_eq_ok_iff (Forest.isPlanted_plant F' _) hsound hh).2
      ⟨table, htable, hcan', rfl⟩, ?_⟩
  rw [eq_comm]
  exact hagrees.eq_iff

/-- A document that is written as it is can be read and written again.  The second text is the first
one exactly if no reference in a CDATA section becomes a reference to an entity. -/
theorem documentText_again_eq_iff (h : doc.IsReadFrom subsets x)
    (hf : settings.formatted = false) (hsep : settings.separator = ['\n'])
    (hh : settings.heading = none)
    (hl : Charset.forWriting? settings.encodingLabel = some settings.charset) (profile : Profile)
    (F F' : Forest)
    (hd : ((Writer.quiet settings profile).documentText (F.plant doc).1 (F.plant doc).2).2 =
      .ok s) :
    ∃ table again s', (Writer.quiet settings profile).entityTable doc.doctype? = .ok table ∧
      parse subsets s = .ok again ∧
      ((Writer.quiet settings profile).documentText (F'.plant again).1 (F'.plant again).2).2 =
        .ok s' ∧
      (s' = s ↔ Item.Everywhere
        ((Writer.quiet settings profile).KeepsReferences (settings.escaper table)) doc.content) := by
  have hfaithful : (Writer.quiet settings profile).IsFaithful :=
    ⟨hh, hsep, hl, fun ht => absurd (hf.symm.trans ht) (by decide)⟩
  refine documentText_again_of_rewrites h hfaithful (fun table ht => ?_) F F' hd
  obtain ⟨entities, hlookup, -⟩ := Writer.exists_entities h.isSound h.isWritable ht
  exact Writer.rewritesOutside_of_unformatted hsep hf
    (Charset.hasAscii_of_forWriting? hfaithful.label) rfl hlookup

theorem documentText_again_acuteDocument :
    ∃ table again s', (Writer.quiet acuteSettings .everyBlock).entityTable
        acuteDocument.doctype? = .ok table ∧
      parse .none (acuteTextWith "&#xE9;") = .ok again ∧
      ((Writer.quiet acuteSettings .everyBlock).documentText (Forest.empty.plant again).1
        (Forest.empty.plant again).2).2 = .ok s' ∧
      (s' = acuteTextWith "&#xE9;" ↔ Item.Everywhere
        ((Writer.quiet acuteSettings .everyBlock).KeepsReferences (acuteSettings.escaper table))
          acuteDocument.content) :=
  documentText_again_eq_iff isReadFrom_acuteText rfl rfl rfl (by with_unfolding_all rfl) .everyBlock
    Forest.empty Forest.empty (by with_unfolding_all rfl)

/-- A document whose text is not the same when it is read and written again. -/
theorem documentText_again_ne_acuteDocument :
    acuteDocument.IsReadFrom .none acuteText ∧ acuteSettings.formatted = false ∧
      acuteSettings.separator = ['\n'] ∧ acuteSettings.heading = none ∧
      Charset.forWriting? acuteSettings.encodingLabel = some acuteSettings.charset ∧
      ((Writer.quiet acuteSettings .everyBlock).documentText (Forest.empty.plant acuteDocument).1
        (Forest.empty.plant acuteDocument).2).2 = .ok (acuteTextWith "&#xE9;") ∧
      parse .none (acuteTextWith "&#xE9;") = .ok acuteAgain ∧
      ((Writer.quiet acuteSettings .everyBlock).documentText (Forest.empty.plant acuteAgain).1
        (Forest.empty.plant acuteAgain).2).2 = .ok (acuteTextWith "&eacute;") ∧
      acuteTextWith "&eacute;" ≠ acuteTextWith "&#xE9;" :=
  ⟨isReadFrom_acuteText, rfl, rfl, rfl, by with_unfolding_all rfl, by with_unfolding_all rfl,
    by with_unfolding_all rfl, by with_unfolding_all rfl, by decide⟩

end Document

/-! ### Laying out again -/

/-- The standard settings, but with layout on lines. -/
def Settings.onLines : Settings :=
  { Settings.standard with formatted := true }

namespace Writer

theorem canEncode_standard (c : Char) : Settings.standard.charset.canEncode c = true :=
  rfl

theorem isBlockLayout_onLines : (quiet .onLines .everyBlock).IsBlockLayout where
  isSpace := rfl
  indent := rfl
  not_mem_indent := by decide
  separator := rfl
  emptyTags := rfl
  traits _ := rfl
  canEncode := canEncode_standard

theorem isFaithful_onLines : (quiet .onLines .everyBlock).IsFaithful :=
  ⟨rfl, rfl, by with_unfolding_all rfl, fun _ => isBlockLayout_onLines.toIsBlankLayout⟩

end Writer

namespace Document

variable {subsets : Subsets} {x s : Text} {doc : Document}

/-- A document that is laid out on lines can be read and laid out again.  The second text is the
first one exactly if no element has content that is nothing but white space. -/
theorem documentText_onLines_again_eq_iff (h : doc.IsReadFrom subsets x) (F F' : Forest)
    (hd : ((Writer.quiet .onLines .everyBlock).documentText (F.plant doc).1 (F.plant doc).2).2 =
      .ok s) :
    ∃ again s', parse subsets s = .ok again ∧
      ((Writer.quiet .onLines .everyBlock).documentText (F'.plant again).1 (F'.plant again).2).2 =
        .ok s' ∧
      (s' = s ↔ Item.Everywhere (Writer.quiet .onLines .everyBlock).KeepsTag doc.content) := by
  obtain ⟨_, again, s', -, hparse, hagain, hiff⟩ := documentText_again_of_rewrites h
    Writer.isFaithful_onLines (fun _ _ => Writer.rewritesOutside_of_formatted
      Writer.isBlockLayout_onLines rfl) F F' hd
  exact ⟨again, s', hparse, hagain, hiff⟩

theorem documentText_onLines_again_spacedDocument : ∃ again s',
    parse .none "<?xml version=\"1.0\" encoding=\"UTF-8\"?>\n<a>x\n\t<b>y</b>\n</a>\n".toList =
        .ok again ∧
      ((Writer.quiet .onLines .everyBlock).documentText (Forest.empty.plant again).1
        (Forest.empty.plant again).2).2 = .ok s' ∧
      (s' = "<?xml version=\"1.0\" encoding=\"UTF-8\"?>\n<a>x\n\t<b>y</b>\n</a>\n".toList ↔
        Item.Everywhere (Writer.quiet .onLines .everyBlock).KeepsTag spacedDocument.content) :=
  documentText_onLines_again_eq_iff isReadFrom_spacedDocument Forest.empty Forest.empty
    (by with_unfolding_all rfl)

/-- A document whose only element has nothing but a space in it. -/
def blankDocument : Document :=
  ⟨.none, [.element ⟨none, none, ['a']⟩ [] [.text [' ']]]⟩

/-- The document that is read from what is written of it. -/
def emptiedDocument : Document :=
  ⟨⟨some "1.0".toList, some "UTF-8".toList, none⟩, [.element ⟨none, none, ['a']⟩ [] []]⟩

theorem isReadFrom_blankDocument : blankDocument.IsReadFrom .none "<a> </a>".toList := by
  refine ⟨by with_unfolding_all rfl, by decide +kernel, ?_⟩
  refine ⟨by simp [blankDocument, Declaration.none], ?_, ?_⟩
  · intro d hd
    simp [blankDocument, doctype?, Item.isDoctype] at hd
  · simp [blankDocument, Item.Everywhere, Item.EverywhereAt, Item.HasNoNull]

/-- A document whose text is not the same when it is laid out again. -/
theorem documentText_onLines_again_ne_blankDocument :
    blankDocument.IsReadFrom .none "<a> </a>".toList ∧
      Item.Everywhere Item.HasNoReturn blankDocument.content ∧
      ((Writer.quiet .onLines .everyBlock).documentText (Forest.empty.plant blankDocument).1
        (Forest.empty.plant blankDocument).2).2 =
          .ok "<?xml version=\"1.0\" encoding=\"UTF-8\"?>\n<a></a>\n".toList ∧
      parse .none "<?xml version=\"1.0\" encoding=\"UTF-8\"?>\n<a></a>\n".toList =
        .ok emptiedDocument ∧
      ((Writer.quiet .onLines .everyBlock).documentText (Forest.empty.plant emptiedDocument).1
        (Forest.empty.plant emptiedDocument).2).2 =
          .ok "<?xml version=\"1.0\" encoding=\"UTF-8\"?>\n<a/>\n".toList ∧
      "<?xml version=\"1.0\" encoding=\"UTF-8\"?>\n<a/>\n".toList ≠
        "<?xml version=\"1.0\" encoding=\"UTF-8\"?>\n<a></a>\n".toList :=
  ⟨isReadFrom_blankDocument,
    by simp [blankDocument, Item.Everywhere, Item.EverywhereAt, Item.HasNoReturn],
    by with_unfolding_all rfl, by with_unfolding_all rfl, by with_unfolding_all rfl, by decide⟩

end Document

end XmlScribe
