/-
**What every document has that has been read.**

Scanning ends a comment at the first mark that can end it, a processing instruction too, and only
names are read as names.  So a document that has been read can be written such that its text is
scanned as it is meant, whatever its names are resolved to.

Main definitions:

* `Document.IsPlain` — nothing in the document ends an item too early;
* `Builder.IsPlain` — nor does anything in what has been read.

Main results:

* `Builder.isPlain_step` — every event keeps this;
* `Document.isPlain_parse` — a document that has been read is plain.
-/

import XmlScribe.Proofs.Doctype.Written
import XmlScribe.Proofs.Document.Parsed
import XmlScribe.Proofs.Writer.Throughout

set_option autoImplicit false

namespace XmlScribe

open Builder

/-- The document is plain. -/
structure Document.IsPlain (subsets : Subsets) (doc : Document) : Prop where
  /-- The XML declaration ends where it is meant to. -/
  declaration : doc.declaration.IsSound
  /-- The items are plain. -/
  content : Item.Everywhere Item.IsPlain doc.content
  /-- The items may stand where they do. -/
  kinds : ∀ item ∈ doc.content, NodeType.document.mayHold (typeOf item) = true
  /-- The document type has been read. -/
  doctype : ∀ d, Item.doctype d ∈ doc.content → d.IsRead subsets

namespace Builder

/-- All that has been read is plain. -/
structure IsPlain (subsets : Subsets) (b : Builder) : Prop where
  /-- The XML declaration ends where it is meant to. -/
  declaration : b.declaration.IsSound
  /-- The names of the open elements are names. -/
  opened : ∀ e ∈ b.opened, Name.IsName e.name.text ∧
    (∀ a ∈ e.attributes, Name.IsName a.name.text) ∧ Item.Everywhere Item.IsPlain e.content
  /-- The items outside are plain. -/
  content : Item.Everywhere Item.IsPlain b.content
  /-- They may stand there. -/
  kinds : ∀ item ∈ b.content, NodeType.document.mayHold (typeOf item) = true
  /-- The document type has been read. -/
  doctype : ∀ d, Item.doctype d ∈ b.content → d.IsRead subsets

variable {subsets : Subsets} {b b' : Builder}

/-! ### Start tags -/

/-- A start tag opens an element whose names are names, where an element may stand. -/
theorem isName_openElement {content : Text} {e : OpenElement}
    (h : b.openElement content = .ok e) :
    (Name.IsName e.name.text ∧ ∀ a ∈ e.attributes, Name.IsName a.name.text) ∧ e.content = [] := by
  obtain ⟨pairs, uri, -, -, hname, hattributes, -, -, hcontent⟩ := openElement_eq_ok_iff.1 h
  exact ⟨⟨(QName.isMade_of_ofText hname).isName,
    fun a ha => (resolves_of_addAttributes hattributes a ha).isName⟩, hcontent⟩

/-! ### Items -/

/-- An item is added. -/
theorem IsPlain.push {item : Item} (h : b.IsPlain subsets) (hitem : item.EverywhereAt Item.IsPlain)
    (hout : b.opened = [] → NodeType.document.mayHold (typeOf item) = true ∧
      ∀ d, item = .doctype d → d.IsRead subsets) : (b.push item).IsPlain subsets := by
  rw [Builder.push]
  split
  · rename_i ho
    obtain ⟨hkind, hdoctype⟩ := hout ho
    refine ⟨h.declaration, h.opened, ⟨hitem, h.content⟩, ?_, fun d hd => ?_⟩
    · intro other hm
      rcases List.mem_cons.1 hm with rfl | hm
      · exact hkind
      · exact h.kinds other hm
    · rcases List.mem_cons.1 hd with hd | hd
      · exact hdoctype d hd.symm
      · exact h.doctype d hd
  · rename_i e outer ho
    refine ⟨h.declaration, fun other hm => ?_, h.content, h.kinds, h.doctype⟩
    have hopened := h.opened
    rw [ho] at hopened
    rcases List.mem_cons.1 hm with rfl | hm
    · obtain ⟨hname, hattributes, hcontent⟩ := hopened e (by simp)
      exact ⟨hname, hattributes, hitem, hcontent⟩
    · exact hopened other (by simp [hm])

/-- An item is added where it can stand. -/
theorem IsPlain.append {item : Item} (h : b.IsPlain subsets) (ha : b.append item = .ok b')
    (hitem : item.EverywhereAt Item.IsPlain)
    (hdoctype : ∀ d, item = .doctype d → d.IsRead subsets) : b'.IsPlain subsets := by
  obtain ⟨hplace, rfl⟩ := append_eq_ok_iff.1 ha
  exact h.push hitem fun ho => ⟨(checkPlace_nothing ho hplace).1, hdoctype⟩

/-- An element is closed. -/
theorem IsPlain.leave {e : OpenElement} {outer : List OpenElement} (h : b.IsPlain subsets)
    (ho : b.opened = e :: outer) :
    (({ b with opened := outer } : Builder).push (close e)).IsPlain subsets := by
  have hopened := h.opened
  rw [ho] at hopened
  obtain ⟨hname, hattributes, hcontent⟩ := hopened e (by simp)
  have hrest : ({ b with opened := outer } : Builder).IsPlain subsets :=
    ⟨h.declaration, fun other hm => hopened other (by simp [hm]), h.content, h.kinds, h.doctype⟩
  refine hrest.push ⟨⟨hname, hattributes⟩, ?_⟩ fun _ => ⟨rfl, fun d hd => nomatch hd⟩
  exact Item.everywhere_iff.2 fun item hi =>
    Item.everywhere_iff.1 hcontent item (List.mem_reverse.1 hi)

/-- Every event keeps what has been read plain. -/
theorem isPlain_step {event : Event} (h : b.IsPlain subsets) (hs : event.IsScanned)
    (hstep : b.StepsTo subsets event b') : b'.IsPlain subsets := by
  have henter : ∀ {content : Text} {e : OpenElement}, b.openElement content = .ok e →
      ({ b with opened := e :: b.opened } : Builder).IsPlain subsets := by
    intro content e he
    obtain ⟨⟨hname, hattributes⟩, hcontent⟩ := isName_openElement he
    refine ⟨h.declaration, fun other hm => ?_, h.content, h.kinds, h.doctype⟩
    rcases List.mem_cons.1 hm with rfl | hm
    · exact ⟨hname, hattributes, by rw [hcontent]; trivial⟩
    · exact h.opened other hm
  cases hstep with
  | stays => exact h
  | declares hd => exact ⟨isSound_readDeclaration hs hd, h.opened, h.content, h.kinds, h.doctype⟩
  | @types content d entities _ hd ha =>
      have hnext : ({ b with entities := b.entities ++ entities } : Builder).IsPlain subsets :=
        ⟨h.declaration, h.opened, h.content, h.kinds, h.doctype⟩
      refine hnext.append ha trivial fun e he => ?_
      cases he
      exact ⟨content, entities, hd, hs⟩
  | opens he => exact henter he
  | empties he => exact (henter he).leave rfl
  | closes ho => exact h.leave ho
  | text _ _ ha => exact h.append ha trivial nofun
  | cdata ha => exact h.append ha trivial nofun
  | comment ha => exact h.append ha hs.1 nofun
  | instruction ht ha =>
      have hreadable := isReadable_instruction ht hs.1
      exact h.append ha ⟨hreadable.target, hreadable.not_isInfix⟩ nofun

end Builder

/-- A document that has been read is plain. -/
theorem Document.isPlain_parse {subsets : Subsets} {s : Text} {doc : Document}
    (h : parse subsets s = .ok doc) : doc.IsPlain subsets := by
  have hscanned := Event.isScanned_scan (Text.not_mem_unifyLineEndings s)
  have hstart : Builder.start.IsPlain subsets :=
    ⟨fun _ hv => by simp [Builder.start, Declaration.none] at hv, by simp [Builder.start], trivial,
      by simp [Builder.start], by simp [Builder.start]⟩
  obtain ⟨b, hplain, -, rfl⟩ := parse_invariant (I := (·.IsPlain subsets)) hstart
    (fun hm hi hstep => isPlain_step hi (hscanned _ hm) hstep) h
  refine ⟨hplain.declaration, ?_, fun item hi => hplain.kinds item (List.mem_reverse.1 hi),
    fun d hd => hplain.doctype d (List.mem_reverse.1 hd)⟩
  exact Item.everywhere_iff.2 fun item hi =>
    Item.everywhere_iff.1 hplain.content item (List.mem_reverse.1 hi)

end XmlScribe
