/-
**Documents that can be read.**

What has been read from a text obeys rules of two kinds.  Some belong to a node alone: a comment
does not have the characters that would end it, no two attributes of an element are confused.  The
others are those of namespaces: every name is what it is resolved to where it stands.

Main definitions:

* `Item.Everywhere` — a property of some items and of all items in them;
* `Item.HasNoNull`, `Item.HasNoReturn` — the properties that have to be asked for;
* `Item.IsSoundAt`, `Item.IsSound` — the rules for items, where it is known what the prefixes mean;
* `Document.IsSound` — the rules for documents.
-/

import XmlScribe.Proofs.Markup.Fragment

set_option autoImplicit false

namespace XmlScribe

open Builder

namespace Item

/-! ### Properties of all items -/

mutual

/-- The property holds of the item and of all items in it. -/
def EverywhereAt (P : Item → Prop) : Item → Prop
  | element name attributes content =>
      P (element name attributes content) ∧ Everywhere P content
  | text data => P (text data)
  | cdata data => P (cdata data)
  | comment data => P (comment data)
  | instruction target data => P (instruction target data)
  | doctype d => P (doctype d)

/-- The property holds of the items and of all items in them. -/
def Everywhere (P : Item → Prop) : List Item → Prop
  | [] => True
  | item :: items => EverywhereAt P item ∧ Everywhere P items

end

mutual

/-- Whether the property holds of the item and of all items in it. -/
def decideEverywhereAt {P : Item → Prop} [DecidablePred P] :
    (item : Item) → Decidable (EverywhereAt P item)
  | element name attributes content =>
      @instDecidableAnd _ _ (inferInstanceAs (Decidable (P (element name attributes content))))
        (decideEverywhere content)
  | text data => inferInstanceAs (Decidable (P (text data)))
  | cdata data => inferInstanceAs (Decidable (P (cdata data)))
  | comment data => inferInstanceAs (Decidable (P (comment data)))
  | instruction target data => inferInstanceAs (Decidable (P (instruction target data)))
  | doctype d => inferInstanceAs (Decidable (P (doctype d)))

/-- Whether the property holds of the items and of all items in them. -/
def decideEverywhere {P : Item → Prop} [DecidablePred P] :
    (items : List Item) → Decidable (Everywhere P items)
  | [] => isTrue trivial
  | item :: items => @instDecidableAnd _ _ (decideEverywhereAt item) (decideEverywhere items)

end

instance {P : Item → Prop} [DecidablePred P] : DecidablePred (Everywhere P) := decideEverywhere

theorem everywhere_iff {P : Item → Prop} {items : List Item} :
    Everywhere P items ↔ ∀ item ∈ items, EverywhereAt P item := by
  induction items with
  | nil => simp [Everywhere]
  | cons item items ih => simp [Everywhere, ih]

mutual

theorem everywhereAt_of_forall {P : Item → Prop} (h : ∀ item, P item) :
    ∀ item : Item, EverywhereAt P item
  | element _ _ content => ⟨h _, everywhere_of_forall h content⟩
  | text _ => h _
  | cdata _ => h _
  | comment _ => h _
  | instruction _ _ => h _
  | doctype _ => h _

/-- A property of all items there are. -/
theorem everywhere_of_forall {P : Item → Prop} (h : ∀ item, P item) :
    ∀ items : List Item, Everywhere P items
  | [] => trivial
  | item :: items => ⟨everywhereAt_of_forall h item, everywhere_of_forall h items⟩

end

mutual

theorem EverywhereAt.mono {P Q : Item → Prop} (h : ∀ item, P item → Q item) :
    ∀ {item : Item}, EverywhereAt P item → EverywhereAt Q item
  | element _ _ _, hitem => ⟨h _ hitem.1, hitem.2.mono h⟩
  | text _, hitem => h _ hitem
  | cdata _, hitem => h _ hitem
  | comment _, hitem => h _ hitem
  | instruction _ _, hitem => h _ hitem
  | doctype _, hitem => h _ hitem

/-- A property that follows from another one. -/
theorem Everywhere.mono {P Q : Item → Prop} (h : ∀ item, P item → Q item) :
    ∀ {items : List Item}, Everywhere P items → Everywhere Q items
  | [], _ => trivial
  | _ :: _, hitems => ⟨hitems.1.mono h, hitems.2.mono h⟩

end

theorem everywhere_append {P : Item → Prop} {items more : List Item} :
    Everywhere P (items ++ more) ↔ Everywhere P items ∧ Everywhere P more := by
  simp only [everywhere_iff, List.mem_append, or_imp, forall_and]

/-- The null character, to which no reference is allowed, is neither in character data nor in the
value of an attribute. -/
def HasNoNull : Item → Prop
  | element _ attributes _ => ∀ a ∈ attributes, '\x00' ∉ a.value
  | text data => '\x00' ∉ data
  | cdata data => '\x00' ∉ data
  | _ => True

/-- A text has no carriage return. -/
def HasNoReturn : Item → Prop
  | text data => '\r' ∉ data
  | _ => True

/-! ### Rules -/

mutual

/-- The item obeys the rules for items in an element, where `m` is what the prefixes mean. -/
def IsSoundAt (m : Meaning) : Item → Prop
  | element name attributes content =>
      let inner := meaningIn m attributes
      name.Resolves inner ∧ (∀ a ∈ attributes, a.Resolves inner) ∧
        Attribute.Distinct attributes ∧ IsSound inner content
  | text data => data ≠ []
  | cdata data => ¬ [']', ']', '>'] <:+: data ∧ '\r' ∉ data
  | comment data => ¬ ['-', '-', '>'] <:+: data ∧ '\r' ∉ data
  | instruction target data => Instruction.IsReadable target data ∧ '\r' ∉ data.getD []
  | doctype _ => False

/-- The items obey the rules for items in an element, where `m` is what the prefixes mean. -/
def IsSound (m : Meaning) : List Item → Prop
  | [] => True
  | item :: items => IsSoundAt m item ∧ IsSound m items

end

theorem isSound_iff {m : Meaning} {items : List Item} :
    IsSound m items ↔ ∀ item ∈ items, IsSoundAt m item := by
  induction items with
  | nil => simp [IsSound]
  | cons item items ih => simp [IsSound, ih]

/-- The rules for items outside all elements. -/
def IsSoundOutside (subsets : Subsets) : Item → Prop
  | text _ => False
  | cdata _ => False
  | doctype d => ∃ content entities, readDoctype subsets content = .ok (d, entities) ∧
      Event.nest 0 content = some 0 ∧ '\r' ∉ content
  | item => item.IsSoundAt fun _ => none

end Item

namespace Builder

theorem typeOf_eq_element_iff {item : Item} : typeOf item = .element ↔ item.isElement = true := by
  cases item <;> simp [typeOf, Item.isElement]

theorem typeOf_eq_doctype_iff {item : Item} : typeOf item = .doctype ↔ item.isDoctype = true := by
  cases item <;> simp [typeOf, Item.isDoctype]

end Builder

/-- The version of an XML declaration does not end the declaration. -/
def Declaration.IsSound (declaration : Declaration) : Prop :=
  ∀ version, declaration.version = some version → ¬ ['?', '>'] <:+: version ∧ '\r' ∉ version

/-- The document obeys the rules. -/
structure Document.IsSound (subsets : Subsets) (doc : Document) : Prop where
  /-- The XML declaration ends where it is meant to. -/
  declaration : doc.declaration.IsSound
  /-- The items obey the rules. -/
  content : ∀ item ∈ doc.content, item.IsSoundOutside subsets
  /-- There is one element at most. -/
  element : doc.content.countP Item.isElement ≤ 1
  /-- There is one document type at most. -/
  doctype : doc.content.countP Item.isDoctype ≤ 1

end XmlScribe
