/-
**Attributes in start tags.**

Elements get their attributes by calls, in any order and in either way of telling attributes apart.
In which order they are written depends on the attributes alone.  What is written is their qualified
names, and by those they are told apart only if no two of them have the same qualified name in
different namespaces; calls that give each qualified name one namespace take care of that.

Main definitions:

* `Attribute.shown` — what a document shows of an attribute: qualified name, namespace and value;
* `Writer.tagAttributes` — the attributes of a start tag as they are written;
* `Change.AgreeOn` — the calls give each qualified name one namespace.

Main results:

* `Forest.sorted_run` — elements with the same attributes have them in the same order, class by
  class;
* `Writer.nodup_startTag_iff` — when a start tag has no name twice.
-/

import XmlScribe.Proofs.Layout.AttributeClasses
import XmlScribe.Proofs.Writer.Content

set_option autoImplicit false

namespace XmlScribe

/-! ### The order of attributes -/

namespace Attribute

/-- What a document shows of an attribute: its qualified name, its namespace and its value. -/
def shown (a : Attribute) : Text × Option Text × Text :=
  (a.name.text, a.name.namespaceUri, a.value)

/-- What is shown of an attribute settles it. -/
theorem eq_of_shown {a b : Attribute} (ha : a.name.IsProper) (hb : b.name.IsProper)
    (h : a.shown = b.shown) : a = b := by
  obtain ⟨ht, hu⟩ := Prod.mk.inj h
  obtain ⟨hn, hv⟩ := Prod.mk.inj hu
  have hname := ha.eq_of_text hb ht hn
  cases a
  cases b
  simp_all

/-- Distinct attributes that show the same are the same. -/
theorem AreDistinct.mem_iff_of_shown {attributes others : List Attribute}
    (h : AreDistinct attributes) (ho : AreDistinct others)
    (hsame : ∀ x, x ∈ attributes.map shown ↔ x ∈ others.map shown) (a : Attribute) :
    a ∈ attributes ↔ a ∈ others := by
  constructor
  · intro ha
    obtain ⟨b, hb, hab⟩ := List.mem_map.1 ((hsame a.shown).1 (List.mem_map_of_mem ha))
    exact eq_of_shown (ho.proper b hb) (h.proper a ha) hab ▸ hb
  · intro ha
    obtain ⟨b, hb, hab⟩ := List.mem_map.1 ((hsame a.shown).2 (List.mem_map_of_mem ha))
    exact eq_of_shown (h.proper b hb) (ho.proper a ha) hab ▸ hb

end Attribute

/-- What the profile knows of two elements is the same, if their names lie in the same namespace and
agree in the text or in the local part. -/
theorem keyOf_eq {q r : QName} (hq : q.IsProper) (hr : r.IsProper)
    (hn : q.namespaceUri = r.namespaceUri) (h : q.text = r.text ∨ q.localName = r.localName) :
    Writer.keyOf q = Writer.keyOf r := by
  rcases h with ht | hl
  · rw [hq.eq_of_text hr ht hn]
  · rw [Writer.keyOf, Writer.keyOf, hn, hl]

namespace Forest

open Attribute

/-- **The order of attributes depends on the set of attributes only.**  Two elements with the same
namespace and name that calls have given the same attributes, in whatever order and by whatever
detours, have them written in the same order.  All attributes of an element are written, each once,
with growing keys: the declaration of the default namespace, listed attributes without a prefix, the
others without a prefix, declarations of prefixes, listed attributes with a prefix, the others with
a prefix.  Nothing is used of the small letters that keys have. -/
theorem sorted_run {changes changes' : List Change} {id id' : NodeId} {f f' : Frame}
    (hf : (empty.run changes).frame? id = some f)
    (hf' : (empty.run changes').frame? id' = some f')
    (hns : f.name.namespaceUri = f'.name.namespaceUri)
    (hname : f.name.text = f'.name.text ∨ f.name.localName = f'.name.localName)
    (hsame : ∀ x, x ∈ f.attributes.map shown ↔ x ∈ f'.attributes.map shown) (profile : Profile) :
    (sorted profile (Writer.keyOf f.name) f.attributes).map shown =
        (sorted profile (Writer.keyOf f'.name) f'.attributes).map shown ∧
      (sorted profile (Writer.keyOf f.name) f.attributes).Perm f.attributes ∧
      f.attributes.Nodup ∧
      AreInOrder profile (Writer.keyOf f.name)
        (sorted profile (Writer.keyOf f.name) f.attributes) := by
  have h := areDistinct_of_frame? (carries_isDistinct_run changes) hf
  have h' := areDistinct_of_frame? (carries_isDistinct_run changes') hf'
  have hkey := keyOf_eq (isProper_run changes hf).1 (isProper_run changes' hf').1 hns hname
  refine ⟨?_, sorted_perm _ _ _, .of_map _ h.nodup, h.areInOrder_sorted⟩
  rw [← hkey, h.sorted_congr h' (h.mem_iff_of_shown h' hsame)]

/-- Four attributes of an element, one after the other. -/
def settingInTurn : List Change :=
  [.addDocument, .createElement 0 ['e'], .setAttribute 1 ['b'] ['1'], .setAttribute 1 ['B'] ['2'],
    .setAttribute 1 ['a'] ['3'], .setAttribute 1 "xmlns:p".toList ['u']]

/-- The same attributes in another order, with one that is removed and one that is set twice. -/
def settingWithDetours : List Change :=
  [.addDocument, .createElement 0 ['e'], .setAttributeNs 1 (some xmlnsUri) "xmlns:p".toList ['u'],
    .setAttribute 1 ['c'] ['0'], .setAttribute 1 ['a'] ['0'], .setAttribute 1 ['B'] ['2'],
    .removeAttribute 1 ['c'], .setAttributeNs 1 none ['b'] ['1'], .setAttribute 1 ['a'] ['3']]

/-- The attributes in the order in which the first calls have set them. -/
def attributesInTurn : List Attribute :=
  [⟨QName.plain ['b'], ['1']⟩, ⟨QName.plain ['B'], ['2']⟩, ⟨QName.plain ['a'], ['3']⟩,
    ⟨⟨some xmlnsUri, some xmlnsPrefix, ['p']⟩, ['u']⟩]

theorem frame?_settingInTurn :
    (empty.run settingInTurn).frame? 1 = some ⟨QName.plain ['e'], attributesInTurn⟩ := by
  with_unfolding_all rfl

set_option maxRecDepth 4000 in
theorem frame?_settingWithDetours :
    (empty.run settingWithDetours).frame? 1 =
      some ⟨QName.plain ['e'], attributesInTurn.reverse⟩ := by
  with_unfolding_all rfl

/-- The detours make no difference for the order. -/
theorem sorted_run_settingWithDetours :
    (empty.run settingInTurn).frame? 1 = some ⟨QName.plain ['e'], attributesInTurn⟩ ∧
      (empty.run settingWithDetours).frame? 1 =
        some ⟨QName.plain ['e'], attributesInTurn.reverse⟩ ∧
      (sorted .everyBlock (Writer.keyOf (QName.plain ['e'])) attributesInTurn).map shown =
        (sorted .everyBlock (Writer.keyOf (QName.plain ['e'])) attributesInTurn.reverse).map
          shown :=
  ⟨frame?_settingInTurn, frame?_settingWithDetours,
    (sorted_run frame?_settingInTurn frame?_settingWithDetours rfl (Or.inl rfl)
      (fun _ => ((List.reverse_perm attributesInTurn).map shown).mem_iff.symm) .everyBlock).1⟩

end Forest

/-! ### Names that calls give -/

/-- The attributes that calls set on an element: the names that they are written with, and their
namespaces. -/
def Change.given (id : NodeId) (changes : List Change) : List (Text × Option Text) :=
  changes.filterMap (·.given? id)

/-- The calls give each name that an attribute of the element is written with one namespace, and the
names of declarations only the namespace of declarations. -/
def Change.AgreeOn (id : NodeId) (changes : List Change) : Prop :=
  ∀ a ∈ given id changes, (∀ b ∈ given id changes, b.1 = a.1 → b.2 = a.2) ∧
    (Attribute.isDeclarationName a.1 = true → a.2 = some xmlnsUri)

instance (id : NodeId) (changes : List Change) : Decidable (Change.AgreeOn id changes) :=
  inferInstanceAs (Decidable (∀ a ∈ Change.given id changes, _ ∧ _))

/-- The attribute that a node may have: the name that it is written with, and its namespace. -/
def Payload.IsGiven (may : Text → Option Text → Prop) : Payload → Prop
  | element _ cells => ∀ cell ∈ cells, may cell.attr.name.text cell.attr.name.namespaceUri
  | _ => True

/-- An attribute has the name and the namespace that a call has given it. -/
theorem Payload.isKept_isGiven (may : Text → Option Text → Prop) : IsKept may (IsGiven may) where
  other payload h := by
    cases payload with
    | element name cells => exact absurd rfl h
    | _ => trivial
  plain _ := by simp [IsGiven]
  made _ := by simp [IsGiven]
  putExpanded serial value hq hmay h := by
    refine Attribute.forall_mem_put h (fun _ hc => hc) ?_
    rw [QName.text_ofText hq, QName.namespaceUri_of_ofText hq]
    exact hmay
  putPlain serial value hmay h := Attribute.forall_mem_put h (fun _ hc => hc) hmay
  erase _ h := fun cell hc => h cell (List.mem_of_mem_eraseP hc)
  revalue serial value h := by
    intro cell hc
    obtain ⟨old, ho, rfl⟩ := List.mem_map.1 hc
    rw [Forest.withValueOf]
    split
    · exact h old ho
    · exact h old ho

/-- The element may have the attribute: a call has given it, or it is a declaration. -/
def Change.MayGive (id : NodeId) (changes : List Change) (text : Text) (uri : Option Text) : Prop :=
  (text, uri) ∈ given id changes ∨
    Attribute.isDeclarationName text = true ∧ uri = some xmlnsUri

theorem Change.AgreeOn.eq {id : NodeId} {changes : List Change} (h : AgreeOn id changes)
    {text : Text} {uri uri' : Option Text} (hu : MayGive id changes text uri)
    (hu' : MayGive id changes text uri') : uri = uri' := by
  rcases hu with hgiven | ⟨hname, rfl⟩
  · rcases hu' with hgiven' | ⟨hname, rfl⟩
    · exact ((h _ hgiven).1 _ hgiven' rfl).symm
    · exact (h _ hgiven).2 hname
  · rcases hu' with hgiven' | ⟨-, rfl⟩
    · exact ((h _ hgiven').2 hname).symm
    · rfl

theorem Binding.isDeclarationName_declarationName (b : Binding) :
    Attribute.isDeclarationName b.declarationName = true := by
  rw [declarationName]
  cases b.nsPrefix with
  | none => rfl
  | some p => rfl

namespace Forest

/-- The forest is what calls have left, or what a completion of declarations has made of that. -/
def IsLeftBy (F : Forest) (changes : List Change) : Prop :=
  F = empty.run changes ∨
    ∃ element target deep, F = ((empty.run changes).ensureDeclared element target deep).1

variable {F : Forest} {changes : List Change} {id : NodeId} {f : Frame}

/-- Completion makes declarations and nothing else. -/
theorem isGiven_ensureDeclared
    (hF : F.CarriesAt id (Payload.IsGiven (Change.MayGive id changes))) (element : NodeId)
    (target : Option NodeId) (deep : Bool) :
    (F.ensureDeclared element target deep).1.CarriesAt id
      (Payload.IsGiven (Change.MayGive id changes)) :=
  ensureElements_invariant (fun {_ _ _ b} hI hG =>
    CarriesAt.declare (Payload.isKept_isGiven _) hI
      (fun _ => Or.inr ⟨b.isDeclarationName_declarationName, rfl⟩) hG) target _ hF

/-- What an element carries after calls has been given to it, or declares something. -/
theorem IsLeftBy.isGiven (h : F.IsLeftBy changes) (id : NodeId) :
    F.CarriesAt id (Payload.IsGiven (Change.MayGive id changes)) := by
  have hrun : (empty.run changes).CarriesAt id (Payload.IsGiven (Change.MayGive id changes)) :=
    CarriesAt.run (Payload.isKept_isGiven _) (carries_empty id) fun change hc text uri hg =>
      Or.inl (List.mem_filterMap.2 ⟨change, hc, hg⟩)
  rcases h with rfl | ⟨element, target, deep, rfl⟩
  · exact hrun
  · exact isGiven_ensureDeclared hrun element target deep

theorem IsLeftBy.areDistinct (h : F.IsLeftBy changes) (hf : F.frame? id = some f) :
    Attribute.AreDistinct f.attributes := by
  rcases h with rfl | ⟨element, target, deep, rfl⟩
  · exact areDistinct_of_frame? (carries_isDistinct_run changes) hf
  · exact areDistinct_of_frame?
      (carries_isDistinct_ensureDeclared (carries_isDistinct_run changes) element target deep) hf

/-- Where calls agree, the attributes of an element that are written with one name lie in one
namespace. -/
theorem IsLeftBy.namespaceUri_eq (h : F.IsLeftBy changes) (hagree : Change.AgreeOn id changes)
    (hf : F.frame? id = some f) {a b : Attribute} (ha : a ∈ f.attributes) (hb : b ∈ f.attributes)
    (ht : a.name.text = b.name.text) : a.name.namespaceUri = b.name.namespaceUri := by
  obtain ⟨name, cells, hp, rfl⟩ := exists_payload_of_frame? hf
  obtain ⟨cell, hcell, rfl⟩ := List.mem_map.1 ha
  obtain ⟨cell', hcell', rfl⟩ := List.mem_map.1 hb
  have hmay := h.isGiven id _ hp
  exact hagree.eq (hmay cell hcell) (ht ▸ hmay cell' hcell')

end Forest

/-! ### Start tags -/

/-- Distinct attributes have distinct qualified names exactly if no qualified name is used in two
namespaces. -/
theorem Attribute.AreDistinct.nodup_text_iff {attributes : List Attribute}
    (h : AreDistinct attributes) :
    (attributes.map (·.name.text)).Nodup ↔
      ∀ a ∈ attributes, ∀ b ∈ attributes, a.name.text = b.name.text →
        a.name.namespaceUri = b.name.namespaceUri := by
  rw [List.nodup_map_iff_inj_on (.of_map _ h.nodup)]
  constructor
  · intro hinj a ha b hb ht
    rw [hinj a ha b hb ht]
  · intro hns a ha b hb ht
    exact h.eq_of_text ha hb ht (hns a ha b hb ht)

namespace Writer

open Walk

variable {W : Writer} {escaper : Escaper} {F : Forest} {f : Frame}

/-- The attributes of a start tag as they are written. -/
def tagAttributes (W : Writer) (escaper : Escaper) (f : Frame) : List WrittenAttribute :=
  (W.spellAttributes escaper f.name f.attributes).map Prod.snd

/-- The names in a start tag are those of the attributes. -/
theorem names_tagAttributes (W : Writer) (escaper : Escaper) (f : Frame) :
    ((W.tagAttributes escaper f).map WrittenAttribute.name).Perm
      (f.attributes.map (·.name.text)) := by
  rw [tagAttributes, spellAttributes, List.map_map, List.map_map]
  exact (Attribute.sorted_perm _ _ _).map _

/-- **When a start tag has no name twice.**  Whatever calls have set and removed the attributes of
an element, and whether declarations have been completed after that, its start tag is written with
the qualified names of the attributes.  They are distinct exactly if no two attributes have the same
qualified name in different namespaces, which cannot be where the calls agree on the namespace of
each qualified name. -/
theorem nodup_startTag_iff {changes : List Change} (hF : F.IsLeftBy changes) {id : NodeId}
    (hf : F.frame? id = some f) (W : Writer) (escaper : Escaper) :
    Writes F (W.putStartTag escaper f)
        (W.Encodes f.name.text ∧ ∀ a ∈ f.attributes, W.Encodes a.name.text) ()
        ('<' :: Tag.written f.name.text (W.tagAttributes escaper f)) ∧
      (((W.tagAttributes escaper f).map WrittenAttribute.name).Nodup ↔
        ∀ a ∈ f.attributes, ∀ b ∈ f.attributes, a.name.text = b.name.text →
          a.name.namespaceUri = b.name.namespaceUri) ∧
      (Change.AgreeOn id changes →
        ((W.tagAttributes escaper f).map WrittenAttribute.name).Nodup) := by
  have hiff := (hF.areDistinct hf).nodup_text_iff
  rw [← (names_tagAttributes W escaper f).nodup_iff] at hiff
  refine ⟨writes_putStartTag f.name f.attributes, hiff, fun hagree => hiff.2 ?_⟩
  exact fun a ha b hb => hF.namespaceUri_eq hagree hf ha hb

/-- Attributes with and without a namespace that are told apart by what they are written as. -/
def settingApart : List Change :=
  [.addDocument, .createElementNs 0 (some ['v']) "q:e".toList, .setAttribute 1 ['a'] ['1'],
    .setAttributeNs 1 (some ['u']) "p:a".toList ['2'], .setAttribute 1 ['a'] ['3']]

/-- The element with these attributes and with the declarations that completion has added. -/
def apartNamed : Frame where
  name := ⟨some ['v'], some ['q'], ['e']⟩
  attributes :=
    [⟨QName.plain ['a'], ['3']⟩, ⟨⟨some ['u'], some ['p'], ['a']⟩, ['2']⟩,
      ⟨⟨some xmlnsUri, some xmlnsPrefix, ['q']⟩, ['v']⟩,
      ⟨⟨some xmlnsUri, some xmlnsPrefix, ['p']⟩, ['u']⟩]

theorem frame?_settingApart :
    ((Forest.empty.run settingApart).ensureDeclared 1 (some 1) true).1.frame? 1 =
      some apartNamed := by
  with_unfolding_all rfl

theorem nodup_startTag_settingApart :
    Change.AgreeOn 1 settingApart ∧
      (((quiet .standard .everyBlock).tagAttributes (Settings.standard.escaper .empty)
        apartNamed).map WrittenAttribute.name).Nodup :=
  ⟨by decide, (nodup_startTag_iff (Or.inr ⟨1, some 1, true, rfl⟩) frame?_settingApart
    (quiet .standard .everyBlock) (Settings.standard.escaper .empty)).2.2 (by decide)⟩

/-- An attribute that is set by the name that it is written with, and another one with this name
that is set in a namespace. -/
def settingTwice : List Change :=
  [.addDocument, .createElement 0 ['e'], .setAttribute 1 "p:a".toList ['1'],
    .setAttributeNs 1 (some ['u']) "p:a".toList ['2']]

/-- The forest after these calls, with the declarations completed. -/
def settledTwice : Forest :=
  ((Forest.empty.run settingTwice).ensureDeclared 1 (some 1) true).1

/-- The element with both attributes and with the declaration that completion has added. -/
def twiceNamed : Frame where
  name := QName.plain ['e']
  attributes :=
    [⟨QName.plain "p:a".toList, ['1']⟩, ⟨⟨some ['u'], some ['p'], ['a']⟩, ['2']⟩,
      ⟨⟨some xmlnsUri, some xmlnsPrefix, ['p']⟩, ['u']⟩]

theorem frame?_settledTwice : settledTwice.frame? 1 = some twiceNamed := by
  with_unfolding_all rfl

theorem sorted_twiceNamed :
    Attribute.sorted .everyBlock (keyOf twiceNamed.name) twiceNamed.attributes =
      [⟨QName.plain "p:a".toList, ['1']⟩, ⟨⟨some xmlnsUri, some xmlnsPrefix, ['p']⟩, ['u']⟩,
        ⟨⟨some ['u'], some ['p'], ['a']⟩, ['2']⟩] := by
  have hleft : settledTwice.IsLeftBy settingTwice := Or.inr ⟨1, some 1, true, rfl⟩
  exact (hleft.areDistinct frame?_settledTwice).sorted_eq (by decide) (by decide)

/-- A start tag that has a name twice, although no call has been refused. -/
theorem startTag_twiceNamed :
    settingTwice.foldlM (fun F change => change.apply F) Forest.empty =
        .ok (Forest.empty.run settingTwice) ∧
      settledTwice.frame? 1 = some twiceNamed ∧
      Writes settledTwice
        ((quiet .standard .everyBlock).putStartTag (Settings.standard.escaper .empty) twiceNamed)
        True () "<e p:a=\"1\" xmlns:p=\"u\" p:a=\"2\"".toList ∧
      ¬ (((quiet .standard .everyBlock).tagAttributes (Settings.standard.escaper .empty)
        twiceNamed).map WrittenAttribute.name).Nodup := by
  have hencodes : ∀ s, (quiet .standard .everyBlock).Encodes s := fun _ _ _ => rfl
  refine ⟨by with_unfolding_all rfl, frame?_settledTwice, ?_, ?_⟩
  · refine (writes_putStartTag twiceNamed.name twiceNamed.attributes).congr
      (iff_true_intro ⟨hencodes _, fun _ _ => hencodes _⟩) ?_
    rw [spellAttributes, show (quiet .standard .everyBlock).profile = .everyBlock from rfl,
      sorted_twiceNamed]
    with_unfolding_all rfl
  · rw [(names_tagAttributes _ _ _).nodup_iff]
    decide

end Writer

end XmlScribe
