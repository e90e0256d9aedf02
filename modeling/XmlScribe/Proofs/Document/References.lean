/-
**Every reference that is written is known.**

A document is written with references to entities, and with a document type.  As long as the
document type is the document's own one, a reader of the text knows every entity that is referred to.
Another document type declares none, so with it the writer must not use any but the predefined ones.

Main definitions:

* `Event.RefersTo`, `Event.Defines` — an event refers to an entity, or tells what it stands for;
* `Heading.IsReadable` — a document type from outside can be read.

Main results:

* `Writer.refersOnlyTo_scan_eventsWith` — what the text of a document refers to;
* `Document.defined_of_refersTo` — a reader of the text of a document knows all of that.
-/

import XmlScribe.Proofs.Charset.Label
import XmlScribe.Proofs.Document.Plain
import XmlScribe.Proofs.Entity.Referring
import XmlScribe.Proofs.Writer.Completed
import XmlScribe.Proofs.Writer.Entities
import XmlScribe.Proofs.Writer.Scanned

set_option autoImplicit false

namespace XmlScribe

open Builder Fragment

namespace Event

/-! ### Events that refer -/

/-- The event refers to an entity, in character data or in the value of an attribute. -/
def RefersTo (name : Text) : Event → Prop
  | startTag content _ => Reference.Occurs name content
  | text raw => Reference.Occurs name raw
  | _ => False

/-- The event is a document type in which a reader finds what the entity stands for. -/
def Defines (name : Text) : Event → Prop
  | doctype content => ∃ d entities, Builder.readDoctype .none content = .ok (d, entities) ∧
      (entities.lookup name).isSome = true
  | _ => False

/-- The event refers to known entities only. -/
def RefersOnlyTo (known : Text → Prop) : Event → Prop
  | startTag content _ => Reference.AreKnown known content
  | text raw => Reference.AreKnown known raw
  | _ => True

variable {known : Text → Prop}

theorem RefersOnlyTo.of_refersTo {event : Event} (h : event.RefersOnlyTo known) {name : Text}
    (hr : event.RefersTo name) : known name := by
  cases event with
  | startTag content closed => exact h.of_occurs hr
  | text raw => exact h.of_occurs hr
  | _ => exact hr.elim

theorem refersOnlyTo_flush {raw : Text} (h : Reference.AreKnown known raw) :
    ∀ event ∈ flush raw, event.RefersOnlyTo known := by
  intro event he
  rw [flush] at he
  split at he
  · exact absurd he List.not_mem_nil
  · rw [List.mem_singleton.1 he]
    exact h

/-- Events refer to nothing more when character data is joined. -/
theorem refersOnlyTo_mergeFrom {events : List Event}
    (h : ∀ event ∈ events, event.RefersOnlyTo known) {raw : Text}
    (hraw : Reference.AreKnown known raw) :
    ∀ event ∈ mergeFrom raw events, event.RefersOnlyTo known := by
  induction events generalizing raw with
  | nil => exact refersOnlyTo_flush hraw
  | cons event events ih =>
      have hevent := h event (by simp)
      have ih := @ih fun other ho => h other (by simp [ho])
      by_cases ht : ∃ more, event = .text more
      · obtain ⟨more, rfl⟩ := ht
        exact ih (hraw.append hevent)
      · rw [mergeFrom_cons fun more hm => ht ⟨more, hm⟩]
        intro other ho
        rcases List.mem_append.1 ho with ho | ho
        · exact refersOnlyTo_flush hraw other ho
        · rcases List.mem_cons.1 ho with rfl | ho
          · exact hevent
          · exact ih (Reference.areKnown_of_not_mem (by simp)) other ho

theorem mem_mergeFrom {events : List Event} {event : Event} (h : event ∈ events)
    (hne : ∀ raw, event ≠ .text raw) (raw : Text) : event ∈ mergeFrom raw events := by
  induction events generalizing raw with
  | nil => exact absurd h List.not_mem_nil
  | cons first events ih =>
      by_cases ht : ∃ more, first = .text more
      · obtain ⟨more, rfl⟩ := ht
        exact ih ((List.mem_cons.1 h).resolve_left (hne more)) (raw ++ more)
      · rw [mergeFrom_cons fun more hm => ht ⟨more, hm⟩]
        rcases List.mem_cons.1 h with rfl | h
        · simp
        · simp [ih h []]

end Event

namespace Fragment

/-- The fragment refers to known entities only. -/
def RefersOnlyTo (known : Text → Prop) : Fragment → Prop
  | element name attributes _ _ => Reference.AreKnown known (tagOf name attributes)
  | chars raw _ => Reference.AreKnown known raw
  | _ => True

variable {known : Text → Prop}

mutual

/-- So do its events. -/
theorem refersOnlyTo_eventsOf : ∀ (f : Fragment), EverywhereAt (RefersOnlyTo known) f →
    ∀ event ∈ eventsOf f, event.RefersOnlyTo known
  | element name attributes closed content, ⟨htag, hcontent⟩ => by
      intro event he
      rw [eventsOf] at he
      split at he
      · rw [List.mem_singleton.1 he]
        exact htag
      · simp only [List.mem_append, List.mem_cons, List.not_mem_nil, or_false] at he
        rcases he with (rfl | he) | rfl
        · exact htag
        · exact refersOnlyTo_events content hcontent event he
        · trivial
  | chars raw data, h => by
      intro event he
      rw [List.mem_singleton.1 he]
      exact h
  | cdata data, _ => by simp [eventsOf, Event.RefersOnlyTo]
  | comment data, _ => by simp [eventsOf, Event.RefersOnlyTo]
  | instruction target data, _ => by simp [eventsOf, Event.RefersOnlyTo]

theorem refersOnlyTo_events : ∀ (fragments : List Fragment),
    Everywhere (RefersOnlyTo known) fragments →
    ∀ event ∈ events fragments, event.RefersOnlyTo known
  | [], _ => by simp [events]
  | f :: fragments, h => by
      intro event he
      rw [events, List.mem_append] at he
      rcases he with he | he
      · exact refersOnlyTo_eventsOf f h.1 event he
      · exact refersOnlyTo_events fragments h.2 event he

end

end Fragment

/-- The document type from outside can be read: its name is a name, and there are no angle brackets
in its identifiers. -/
structure Heading.IsReadable (heading : Heading) : Prop where
  /-- The name. -/
  name : Name.IsName heading.name
  /-- The public identifier. -/
  publicId : ∀ id, heading.publicId = some id → '<' ∉ id ∧ '>' ∉ id
  /-- The system identifier. -/
  systemId : ∀ id, heading.systemId = some id → '<' ∉ id ∧ '>' ∉ id

theorem Heading.IsReadable.readsBack {heading : Heading} (h : heading.IsReadable) :
    (Event.doctype (Doctype.written heading.name heading.publicId heading.systemId
      none)).ReadsBack := by
  have hname : Event.angles heading.name = [] := Event.angles_eq_nil fun c hc =>
    ⟨fun he => Name.not_mem_of_isName h.name (by decide) (he ▸ hc),
      fun he => Name.not_mem_of_isName h.name (by decide) (he ▸ hc)⟩
  have hnone : ∀ {id : Text}, '<' ∉ id ∧ '>' ∉ id → Event.angles id = [] := fun hid =>
    Event.angles_eq_nil fun c hc => ⟨fun he => hid.1 (he ▸ hc), fun he => hid.2 (he ▸ hc)⟩
  have hids : Event.angles (Doctype.writtenIds heading.publicId heading.systemId) = [] := by
    cases hp : heading.publicId with
    | none =>
        cases hs : heading.systemId with
        | none => rfl
        | some sys =>
            simp [Doctype.writtenIds, Doctype.systemKeyword, Doctype.angles_quoted,
              hnone (h.systemId sys hs)]
    | some pub =>
        cases hs : heading.systemId with
        | none => rfl
        | some sys =>
            simp [Doctype.writtenIds, Doctype.publicKeyword, Doctype.angles_quoted,
              hnone (h.systemId sys hs), hnone (h.publicId pub hp)]
  refine Doctype.readsBack_written h.name ?_
  rw [← Event.nest_angles, Doctype.written, Event.angles_append, Event.angles_append, hname, hids]
  rfl

namespace Writer

/-! ### What a writer refers to -/

variable {W : Writer} {escaper : Escaper} {lookup : Text → Option Text} {known : Text → Prop}

/-- A writer refers to entities of its table and to predefined ones only. -/
theorem passesTo_refersOnlyTo (ht : escaper.table.IsReadable lookup)
    (hknown : ∀ c name, escaper.table.lookup? c = some name → known name)
    (hpredefined : ∀ c name, Entity.predefinedName? c = some name → known name)
    (hsep : '&' ∉ W.settings.separator) (hindent : '&' ∉ W.settings.indent) :
    W.PassesTo escaper Item.IsPlain (RefersOnlyTo known) where
  element {name attributes _} h _ _ := by
    have hname : Reference.AreKnown known name.text :=
      Reference.areKnown_of_not_mem (Name.not_mem_of_isName h.1 (by decide))
    refine hname.append (Reference.AreKnown.flatMap fun w hw => ?_)
    obtain ⟨a, ha, rfl⟩ := List.mem_map.1 hw
    have hsound := isSound_of_mem_spellAttributes ht h.2 ha
    obtain ⟨b, -, rfl⟩ := List.mem_map.1 ha
    have hlead : Reference.AreKnown known
        (' ' :: b.name.text ++ ['=', Entity.chooseQuote b.value]) := by
      refine Reference.areKnown_of_not_mem ?_
      have hb : '&' ∉ b.name.text := Name.not_mem_of_isName hsound.isName (by decide)
      rcases Entity.chooseQuote_cases b.value with hq | hq <;> simp [hq, hb]
    have htail : Reference.AreKnown known [Entity.chooseQuote b.value] := by
      refine Reference.areKnown_of_not_mem ?_
      rcases Entity.chooseQuote_cases b.value with hq | hq <;> simp [hq]
    have hall := (hlead.append (Escaper.areKnown_encode ht hknown hpredefined
      (some (Entity.chooseQuote b.value)) b.value)).append htail
    simpa [spellAttribute, WrittenAttribute.text] using hall
  text _ _ := Escaper.areKnown_encode ht hknown hpredefined none _
  cdata {_} _ := everywhere_iff.2 (CData.forall_mem_fragments (fun _ => trivial)
    (fun _ _ _ => trivial) fun c _ _ => Escaper.areKnown_hexReference c)
  comment _ := trivial
  instruction _ := trivial
  indentation _ := Reference.areKnown_of_not_mem fun hm =>
    hindent (mem_of_mem_flatten_replicate hm)
  lineEnd := Reference.areKnown_of_not_mem hsep

/-- Scanning the text of a document finds references to known entities only. -/
theorem refersOnlyTo_scan_eventsWith {label : Text} {declaration : Declaration}
    {doctype : Option Doctype} {items : List Item} (hsep : '&' ∉ W.settings.separator)
    (hb : Everywhere (RefersOnlyTo known) (W.bodyFragments escaper (Item.joined items))) :
    ∀ event ∈ Event.mergeFrom [] (W.eventsWith escaper label declaration doctype items),
      event.RefersOnlyTo known := by
  refine Event.refersOnlyTo_mergeFrom (fun event he => ?_)
    (Reference.areKnown_of_not_mem List.not_mem_nil)
  have hline : Reference.AreKnown known W.settings.separator := Reference.areKnown_of_not_mem hsep
  rcases List.mem_append.1 he with he | he
  · rw [declarationEvents] at he
    split at he
    · rcases List.mem_cons.1 he with rfl | he
      · trivial
      · rw [List.mem_singleton.1 he]
        exact hline
    · exact absurd he List.not_mem_nil
  · rcases List.mem_append.1 he with he | he
    · cases doctype with
      | none => exact absurd he List.not_mem_nil
      | some d =>
          rcases List.mem_cons.1 he with rfl | he
          · trivial
          · rw [List.mem_singleton.1 he]
            exact hline
    · exact refersOnlyTo_events _ hb event he

/-- The document type of a document is found when its text is scanned. -/
theorem mem_mergeFrom_eventsWith {label : Text} {declaration : Declaration} {d : Doctype}
    {items : List Item} :
    Event.doctype (Doctype.written d.name d.publicId d.systemId d.subset) ∈
      Event.mergeFrom [] (W.eventsWith escaper label declaration (some d) items) :=
  Event.mem_mergeFrom (by simp [eventsWith, doctypeEvents]) (by simp) []

end Writer

namespace Document

/-! ### What a reader knows -/

variable {x s : Text} {doc : Document} {settings : Settings}

/-- A version that has been read does not end the declaration that it is written in. -/
theorem readsBack_declaration (h : doc.declaration.IsSound) {label : Text} {charset : Charset}
    (hl : Charset.forWriting? label = some charset) :
    (Event.declaration (Writer.declarationContent label doc.declaration)).ReadsBack := by
  refine Declaration.readsBack_written ?_ (Charset.not_mem_of_forWriting? hl (by decide)) _
  cases hv : doc.declaration.version with
  | none => decide
  | some version => exact (h version hv).1

theorem IsPlain.isRead_of_doctype? {subsets : Subsets} (h : doc.IsPlain subsets) {d : Doctype}
    (hd : doc.doctype? = some d) : d.IsRead subsets := by
  obtain ⟨item, hitem, hd⟩ := Option.bind_eq_some_iff.1 hd
  cases item with
  | doctype e =>
      obtain rfl := Option.some.inj hd
      exact h.doctype e (List.mem_of_find?_eq_some hitem)
  | _ => cases hd

/-- The writer uses entities of the document only where their declarations are written too. -/
structure DeclaresWhatItUses (settings : Settings) (doc : Document) : Prop where
  /-- A document type from outside can be read. -/
  heading : ∀ heading, settings.heading = some heading → heading.IsReadable
  /-- There is none, or no entity with a single character is used but predefined ones. -/
  entities : settings.heading.isSome = true → settings.declaredEntities = true →
    ∀ d, doc.doctype? = some d → ∀ decl ∈ d.entities, ∀ c, decl.value? = some [c] →
      (Entity.predefinedChar? decl.name).isSome = true

/-- The document type that is written is read back, and defines what the writer uses. -/
theorem defined_of_lookup? (h : doc.IsPlain .none)
    (hnames : ∀ d, doc.doctype? = some d → ∀ decl ∈ d.entities, Name.isName decl.name = true)
    (hu : doc.DeclaresWhatItUses settings) {profile : Profile} {table : EntityTable}
    (ht : (Writer.quiet settings profile).entityTable doc.doctype? = .ok table) :
    (∃ lookup, table.IsReadable lookup) ∧
    (∀ d, (Writer.quiet settings profile).writtenDoctype doc.doctype? = some d →
      (Event.doctype (Doctype.written d.name d.publicId d.systemId d.subset)).ReadsBack) ∧
    ∀ c name, table.lookup? c = some name → (Entity.predefinedChar? name).isSome = true ∨
      ∃ d, (Writer.quiet settings profile).writtenDoctype doc.doctype? = some d ∧
        (Event.doctype (Doctype.written d.name d.publicId d.systemId d.subset)).Defines name := by
  obtain ⟨entities, hlookup, hnone, hread, hknown⟩ :=
    Writer.exists_replacements (fun d hd => h.isRead_of_doctype? hd) hnames ht
  refine ⟨⟨_, hlookup⟩, ?_⟩
  cases hheading : settings.heading with
  | none =>
      have hwritten : (Writer.quiet settings profile).writtenDoctype doc.doctype? =
          doc.doctype? := by
        simp only [Writer.writtenDoctype, Writer.quiet, hheading]
      rw [hwritten]
      refine ⟨fun d hd => (h.isRead_of_doctype? hd).readsBack, fun c name hc => ?_⟩
      refine (hknown c name hc).imp_right fun hsome => ?_
      cases hdoctype : doc.doctype? with
      | none =>
          rw [hnone hdoctype] at hsome
          cases hsome
      | some d => exact ⟨d, rfl, _, entities, hread d hdoctype, hsome⟩
  | some heading =>
      have hwritten : (Writer.quiet settings profile).writtenDoctype doc.doctype? =
          some ⟨heading.name, heading.publicId, heading.systemId, none, []⟩ := by
        simp only [Writer.writtenDoctype, Writer.quiet, hheading]
      rw [hwritten]
      refine ⟨?_, fun c name hc => Or.inl ?_⟩
      · rintro d ⟨⟩
        exact (hu.heading heading hheading).readsBack
      · exact Writer.isSome_predefinedChar? ht (hu.entities (by rw [hheading]; rfl)) hc

/-- Scanning the text of a document that has been read finds no fault, and every entity that is
referred to in character data or in the value of an attribute is predefined, or a document type in
the text defines it. -/
theorem defined_of_refersTo (h : parse .none x = .ok doc)
    (hnames : ∀ d, doc.doctype? = some d → ∀ decl ∈ d.entities, Name.isName decl.name = true)
    (hl : Charset.forWriting? settings.encodingLabel = some settings.charset)
    (hsep : '<' ∉ settings.separator ∧ '&' ∉ settings.separator)
    (hindent : '<' ∉ settings.indent ∧ '&' ∉ settings.indent)
    (hu : doc.DeclaresWhatItUses settings) (profile : Profile) (F : Forest)
    (hd : ((Writer.quiet settings profile).documentText (F.plant doc).1 (F.plant doc).2).2 =
      .ok s) :
    (Event.scan s).2 = none ∧ ∀ event ∈ (Event.scan s).1, ∀ name, event.RefersTo name →
      (Entity.predefinedChar? name).isSome = true ∨
        ∃ other ∈ (Event.scan s).1, other.Defines name := by
  have hplain := isPlain_parse h
  have hplanted := Forest.isPlanted_plant F doc
  obtain ⟨table, G, ht, hG, hwritten⟩ := Writer.exists_of_documentText hd
  rw [hplanted.doctype?] at ht hwritten
  rw [hplanted.declaration] at hwritten
  -- the items of the completed document are plain as those of the document are
  have hredeclares := Writer.redeclares_of_completesTo hG
  obtain ⟨items, hitems, hre⟩ :=
    Forest.exists_holds_of_same hredeclares.same hredeclares.names hplanted.holds_children
  have hkinds : ∀ item ∈ items, NodeType.document.mayHold (typeOf item) = true := by
    intro item hi
    obtain ⟨old, ho, hitem⟩ := hre.exists_of_mem hi
    exact Item.typeOf_redeclaredAt hitem ▸ hplain.kinds old ho
  have hsize : Item.count items ≤ G.size + 1 := by
    rw [Item.count_redeclared hre, hredeclares.same.size_eq]
    exact Nat.le_succ_of_le (Nat.le_of_lt hplanted.count_lt_size)
  have hitemsPlain : Item.Everywhere Item.IsPlain (Item.joined items) := by
    refine (Item.everywhere_joined (by simp [Item.IsPlain]) (fun _ _ _ => Iff.rfl) items).2
      (Item.Everywhere.redeclared (fun hkeep hp => ⟨hp.1, fun a ha => ?_⟩) hre hplain.content)
    rcases hkeep a ha with ⟨old, ho, hname⟩ | hname
    · exact hname ▸ hp.2 old ho
    · exact hname
  obtain ⟨-, rfl⟩ := hwritten hitems hkinds hsize
  -- what is written is scanned as it is meant, and refers to known entities only
  obtain ⟨⟨lookup, hlookup⟩, hdoctype, hknown⟩ := defined_of_lookup? hplain hnames hu ht
  rw [Writer.scan_eventsWith hsep.1 (readsBack_declaration hplain.declaration hl) hdoctype
    ((Writer.passesTo_isLexical hlookup hsep.1 hindent.1).bodyFragments hitemsPlain)]
  refine ⟨rfl, fun event he name hr => ?_⟩
  have hrefers := Writer.refersOnlyTo_scan_eventsWith hsep.2
    ((Writer.passesTo_refersOnlyTo hlookup hknown
      (fun c name hc => Or.inl (Entity.isSome_predefinedChar?_of_predefinedName? hc)) hsep.2
      hindent.2).bodyFragments hitemsPlain) event he
  rcases hrefers.of_refersTo hr with hpredefined | ⟨d, hwritten, hdefines⟩
  · exact Or.inl hpredefined
  · refine Or.inr ⟨_, ?_, hdefines⟩
    rw [hwritten]
    exact Writer.mem_mergeFrom_eventsWith

/-! ### A document with a reference -/

/-- A text with a character for which an entity is declared. -/
def referringText : Text :=
  "<!DOCTYPE a [<!ENTITY eacute \"&#233;\">]><a>é</a>".toList

/-- The document that is read from it. -/
def referringDocument : Document :=
  ⟨.none, [.doctype ⟨['a'], none, none, some "<!ENTITY eacute \"&#233;\">".toList,
    [⟨"eacute".toList, .internal ['é']⟩]⟩, .element ⟨none, none, ['a']⟩ [] [.text ['é']]]⟩

/-- The text that is written for it, with a certain document type. -/
def referringTextWith (doctype : String) : Text :=
  "<?xml version=\"1.0\" encoding=\"UTF-8\"?>\n".toList ++ doctype.toList ++
    "\n<a>&eacute;</a>\n".toList

theorem parse_referringText : parse .none referringText = .ok referringDocument := by
  with_unfolding_all rfl

theorem isName_entities_referringDocument : ∀ d, referringDocument.doctype? = some d →
    ∀ decl ∈ d.entities, Name.isName decl.name = true := by
  rintro d ⟨⟩
  decide +kernel

theorem defined_of_refersTo_referringText :
    (Event.scan (referringTextWith "<!DOCTYPE a [<!ENTITY eacute \"&#233;\">]>")).2 = none ∧
    ∀ event ∈ (Event.scan (referringTextWith "<!DOCTYPE a [<!ENTITY eacute \"&#233;\">]>")).1,
      ∀ name, event.RefersTo name → (Entity.predefinedChar? name).isSome = true ∨
        ∃ other ∈ (Event.scan
          (referringTextWith "<!DOCTYPE a [<!ENTITY eacute \"&#233;\">]>")).1, other.Defines name :=
  @defined_of_refersTo referringText _ referringDocument Settings.standard parse_referringText
    isName_entities_referringDocument (by with_unfolding_all rfl) (by decide) (by decide)
    ⟨nofun, nofun⟩ .everyBlock Forest.empty (by with_unfolding_all rfl)

/-- With a document type from outside the entity is used all the same, and nothing defines it. -/
theorem not_defined_referringText :
    parse .none referringText = .ok referringDocument ∧
      (∀ d, referringDocument.doctype? = some d →
        ∀ decl ∈ d.entities, Name.isName decl.name = true) ∧
      ((Writer.quiet { Settings.standard with heading := some ⟨['a'], none, none⟩ }
        .everyBlock).documentText (Forest.empty.plant referringDocument).1
          (Forest.empty.plant referringDocument).2).2 =
            .ok (referringTextWith "<!DOCTYPE a>") ∧
      Event.text "&eacute;".toList ∈ (Event.scan (referringTextWith "<!DOCTYPE a>")).1 ∧
      (Event.text "&eacute;".toList).RefersTo "eacute".toList ∧
      (Entity.predefinedChar? "eacute".toList).isSome = false ∧
      ∀ other ∈ (Event.scan (referringTextWith "<!DOCTYPE a>")).1,
        ¬ other.Defines "eacute".toList := by
  have hscan : Event.scan (referringTextWith "<!DOCTYPE a>") =
      ([.declaration "xml version=\"1.0\" encoding=\"UTF-8\"".toList, .text ['\n'],
        .doctype ['a'], .text ['\n'], .startTag ['a'] false, .text "&eacute;".toList,
        .endTag ['a'], .text ['\n']], none) := by
    with_unfolding_all rfl
  refine ⟨parse_referringText, isName_entities_referringDocument, by with_unfolding_all rfl, ?_,
    ⟨by decide, by decide, by decide, [], [], rfl⟩, by decide, ?_⟩
  · rw [hscan]
    decide
  · have hread : readDoctype .none ['a'] = .ok (⟨['a'], none, none, none, []⟩, []) := by
      with_unfolding_all rfl
    have hdoctype : ¬ (Event.doctype ['a']).Defines "eacute".toList := by
      rintro ⟨d, entities, hd, hsome⟩
      cases hread.symm.trans hd
      cases hsome
    rw [hscan]
    simp only [List.mem_cons, List.not_mem_nil, or_false]
    rintro other (rfl | rfl | rfl | rfl | rfl | rfl | rfl | rfl)
    · exact id
    · exact id
    · exact hdoctype
    all_goals exact id

end Document

end XmlScribe
