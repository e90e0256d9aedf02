/-
**The names in a document that has been read.**

The name of an element is made by the rules of namespaces, from its start tag and the declarations
around it.  The name of an attribute is made in the same way, or it has no prefix and lies outside
all namespaces.  So the nodes of a document that has been planted have names as the operations on
nodes make them.

Main definitions:

* `Item.HasProperNames` — an element has names of these kinds;
* `Builder.HasProperNames` — so do all elements that have been read.

Main results:

* `Document.hasProperNames_parse` — a document that has been read has such names;
* `Forest.carries_isProper_plant` — so do its nodes.
-/

import XmlScribe.Proofs.Document.Plain
import XmlScribe.Proofs.Forest.Planting
import XmlScribe.Proofs.Forest.Proper

set_option autoImplicit false

namespace XmlScribe

/-- The names of an element and of its attributes are proper. -/
def Item.HasProperNames : Item → Prop
  | element name attributes _ => name.IsProper ∧ ∀ a ∈ attributes, a.name.IsProper
  | _ => True

/-- A name that has been resolved is proper. -/
theorem Attribute.Resolves.isProper {m : Builder.Meaning} {a : Attribute} (h : a.Resolves m) :
    a.name.IsProper := by
  by_cases hs : a.name.namespaceUri.isSome = true
  · exact Or.inl (h.isMade hs)
  · exact h.eq_plain hs ▸ QName.isProper_plain _

namespace Builder

/-- All elements that have been read, or begun, have proper names. -/
structure HasProperNames (b : Builder) : Prop where
  /-- The open elements. -/
  opened : ∀ e ∈ b.opened, (e.name.IsProper ∧ ∀ a ∈ e.attributes, a.name.IsProper) ∧
    Item.Everywhere Item.HasProperNames e.content
  /-- The items outside. -/
  content : Item.Everywhere Item.HasProperNames b.content

variable {subsets : Subsets} {b b' : Builder}

/-! ### Start tags -/

/-- A start tag opens an element with proper names. -/
theorem isProper_openElement {content : Text} {e : OpenElement}
    (h : b.openElement content = .ok e) :
    e.name.IsProper ∧ ∀ a ∈ e.attributes, a.name.IsProper := by
  obtain ⟨pairs, uri, -, -, hname, hattributes, -⟩ := openElement_eq_ok_iff.1 h
  exact ⟨QName.isProper_of_ofText hname,
    fun a ha => (resolves_of_addAttributes hattributes a ha).isProper⟩

/-! ### Items -/

theorem HasProperNames.push {item : Item} (h : b.HasProperNames)
    (hitem : item.EverywhereAt Item.HasProperNames) : (b.push item).HasProperNames := by
  rw [Builder.push]
  split
  · exact ⟨h.opened, hitem, h.content⟩
  · rename_i e outer ho
    have hopened := h.opened
    rw [ho] at hopened
    refine ⟨fun other hm => ?_, h.content⟩
    rcases List.mem_cons.1 hm with rfl | hm
    · obtain ⟨hnames, hcontent⟩ := hopened e (by simp)
      exact ⟨hnames, hitem, hcontent⟩
    · exact hopened other (by simp [hm])

theorem HasProperNames.append {item : Item} (h : b.HasProperNames) (ha : b.append item = .ok b')
    (hitem : item.EverywhereAt Item.HasProperNames) : b'.HasProperNames := by
  obtain ⟨-, rfl⟩ := append_eq_ok_iff.1 ha
  exact h.push hitem

theorem HasProperNames.leave {e : OpenElement} {outer : List OpenElement} (h : b.HasProperNames)
    (ho : b.opened = e :: outer) :
    (({ b with opened := outer } : Builder).push (close e)).HasProperNames := by
  have hopened := h.opened
  rw [ho] at hopened
  obtain ⟨hnames, hcontent⟩ := hopened e (by simp)
  have hrest : ({ b with opened := outer } : Builder).HasProperNames :=
    ⟨fun other hm => hopened other (by simp [hm]), h.content⟩
  refine hrest.push ⟨hnames, Item.everywhere_iff.2 fun item hi => ?_⟩
  exact Item.everywhere_iff.1 hcontent item (List.mem_reverse.1 hi)

/-- Every event leaves proper names. -/
theorem hasProperNames_step {event : Event} (h : b.HasProperNames)
    (hstep : b.StepsTo subsets event b') : b'.HasProperNames := by
  have henter : ∀ {content : Text} {e : OpenElement}, b.openElement content = .ok e →
      ({ b with opened := e :: b.opened } : Builder).HasProperNames := by
    intro content e he
    have hcontent := (isName_openElement he).2
    refine ⟨fun other hm => ?_, h.content⟩
    rcases List.mem_cons.1 hm with rfl | hm
    · exact ⟨isProper_openElement he, by rw [hcontent]; trivial⟩
    · exact h.opened other hm
  cases hstep with
  | stays => exact h
  | declares _ => exact ⟨h.opened, h.content⟩
  | @types content d entities _ _ ha =>
      have hnext : ({ b with entities := b.entities ++ entities } : Builder).HasProperNames :=
        ⟨h.opened, h.content⟩
      exact hnext.append ha trivial
  | opens he => exact henter he
  | empties he => exact (henter he).leave rfl
  | closes ho => exact h.leave ho
  | text _ _ ha => exact h.append ha trivial
  | cdata ha => exact h.append ha trivial
  | comment ha => exact h.append ha trivial
  | instruction _ ha => exact h.append ha trivial

end Builder

/-- A document that has been read has proper names. -/
theorem Document.hasProperNames_parse {subsets : Subsets} {s : Text} {doc : Document}
    (h : parse subsets s = .ok doc) : Item.Everywhere Item.HasProperNames doc.content := by
  obtain ⟨b, hnames, -, rfl⟩ := parse_invariant (I := (·.HasProperNames))
    ⟨by simp [Builder.start], trivial⟩ (fun _ hi hstep => Builder.hasProperNames_step hi hstep) h
  exact Item.everywhere_iff.2 fun item hi =>
    Item.everywhere_iff.1 hnames.content item (List.mem_reverse.1 hi)

/-! ### Nodes -/

namespace Forest

theorem isProper_of_mem_numberCells {serial : Nat} {attributes : List Attribute}
    (h : ∀ a ∈ attributes, a.name.IsProper) :
    ∀ cell ∈ numberCells serial attributes, cell.attr.name.IsProper := by
  intro cell hcell
  refine h cell.attr ?_
  rw [← map_attr_numberCells serial attributes]
  exact List.mem_map_of_mem hcell

/-- Planting a document that has been read leaves proper names. -/
theorem carries_isProper_plant {F : Forest} (hF : F.Carries Payload.IsProper) {subsets : Subsets}
    {s : Text} {doc : Document} (h : Document.parse subsets s = .ok doc) :
    (F.plant doc).1.Carries Payload.IsProper := by
  refine hF.plant doc trivial ((Document.hasProperNames_parse h).mono ?_)
  rintro item hitem serial
  cases item with
  | element name attributes content => exact ⟨hitem.1, isProper_of_mem_numberCells hitem.2⟩
  | _ => trivial

end Forest

end XmlScribe
