/-
**Properties of all that is written.**

Whether content is written as it is or on lines, it becomes fragments for its items, and line ends
and indentation between them.  A property that passes from each item to its own fragments, and that
line ends and indentation have, passes from the items of a document to all of its fragments.

Main definitions:

* `Writer.PassesTo` — a property passes from items to fragments;
* `Item.IsPlain` — nothing in an item ends it too early.

Main results:

* `Writer.PassesTo.fragmentsAt` — all fragments of an item have the property;
* `Writer.PassesTo.bodyFragments` — and so do those of a document;
* `Writer.passesTo_isLexical` — plain items are scanned as they are written.
-/

import XmlScribe.Proofs.Writer.Faithful

set_option autoImplicit false

namespace XmlScribe

open Fragment

namespace Writer

/-- The property `P` of fragments follows from the property `Q` of the items that they are written
for.  Text may lose characters and gain spaces when it is laid out. -/
structure PassesTo (W : Writer) (escaper : Escaper) (Q : Item → Prop) (P : Fragment → Prop) :
    Prop where
  /-- An element. -/
  element : ∀ {name attributes content}, Q (.element name attributes content) →
    ∀ closed inner, P (.element name (W.spellAttributes escaper name attributes) closed inner)
  /-- A text. -/
  text : ∀ {data data'}, Q (.text data) → (∀ c ∈ data', c ∈ data ∨ c = ' ') →
    P (W.spellText escaper data')
  /-- A CDATA section. -/
  cdata : ∀ {data}, Q (.cdata data) →
    Everywhere P (CData.fragments W.settings.charset.canEncode data)
  /-- A comment. -/
  comment : ∀ {data}, Q (.comment data) → P (.comment data)
  /-- A processing instruction. -/
  instruction : ∀ {target data}, Q (.instruction target data) → P (.instruction target data)
  /-- Indentation. -/
  indentation : ∀ depth, P (W.indentation depth)
  /-- The end of a line. -/
  lineEnd : P W.lineEnd

namespace PassesTo

variable {W : Writer} {escaper : Escaper} {Q : Item → Prop} {P : Fragment → Prop}

mutual

/-- All fragments of an item have the property. -/
theorem fragmentsAt (h : W.PassesTo escaper Q P) :
    ∀ (item : Item) (depth : Nat) (formatting : Bool), item.EverywhereAt Q →
      Everywhere P (W.fragmentsAt escaper depth formatting item)
  | .element name attributes content, depth, formatting, hq => by
      have hinside : Everywhere P (W.inside escaper depth formatting name content) := by
        rw [inside]
        split
        · trivial
        · split
          · refine everywhere_iff.2 fun f hf => ?_
            rcases List.mem_append.1 hf with hf | hf
            · exact everywhere_iff.1 (laidOut h content _ _ _ _ hq.2) f hf
            · exact forall_mem_lastLine (P := EverywhereAt P) (h.indentation _) h.lineEnd _ f hf
          · exact verbatim h content hq.2
      rw [fragmentsAt_element]
      exact ⟨⟨h.element hq.1 _ _, hinside⟩, trivial⟩
  | .text _, _, _, hq => ⟨h.text hq fun _ hc => Or.inl hc, trivial⟩
  | .cdata _, _, _, hq => h.cdata hq
  | .comment _, _, _, hq => ⟨h.comment hq, trivial⟩
  | .instruction _ _, _, _, hq => ⟨h.instruction hq, trivial⟩
  | .doctype _, _, _, _ => trivial

/-- All fragments of content as it is have the property. -/
theorem verbatim (h : W.PassesTo escaper Q P) :
    ∀ items : List Item, Item.Everywhere Q items → Everywhere P (W.verbatim escaper items)
  | [], _ => trivial
  | item :: items, hq => by
      refine everywhere_iff.2 fun f hf => ?_
      rcases List.mem_append.1 hf with hf | hf
      · exact everywhere_iff.1 (fragmentsAt h item 0 false hq.1) f hf
      · exact everywhere_iff.1 (verbatim h items hq.2) f hf

/-- All fragments of content on lines have the property. -/
theorem laidOut (h : W.PassesTo escaper Q P) :
    ∀ (items : List Item) (depth : Nat) (traits : Traits) (before : Neighbour) (st : LineState),
      Item.Everywhere Q items →
      Everywhere P (W.laidOut escaper depth traits before st items).1
  | [], _, _, _, _, _ => trivial
  | item :: items, depth, traits, before, st, hq => by
      have hown := everywhere_iff.1
        (fragmentsAt h item (contentDepth depth traits st) true hq.1)
      refine everywhere_iff.2 fun f hf => ?_
      rcases List.mem_append.1 hf with hf | hf
      · refine forall_mem_place (P := EverywhereAt P) (h.indentation _) h.lineEnd hown ?_ _ f hf
        rintro data rfl trim
        exact h.text hq.1 fun c hc => Text.mem_of_mem_collapseRuns hc
      · exact everywhere_iff.1 (laidOut h items depth traits _ _ hq.2) f hf

end

/-- All fragments of an item outside all elements have the property. -/
theorem outsideAt (h : W.PassesTo escaper Q P) {item : Item} (hq : item.EverywhereAt Q)
    (afterRoot : Bool) : Everywhere P (W.outsideAt escaper afterRoot item) := by
  have hleaf : ∀ f, EverywhereAt P f →
      Everywhere P (if afterRoot then [W.lineEnd, f] else [f, W.lineEnd]) := by
    intro f hf
    split
    · exact ⟨h.lineEnd, hf, trivial⟩
    · exact ⟨hf, h.lineEnd, trivial⟩
  cases item with
  | element name attributes content => exact fragmentsAt h _ 0 _ hq
  | comment data => exact hleaf _ (h.comment hq)
  | instruction target data => exact hleaf _ (h.instruction hq)
  | _ => trivial

/-- All fragments of a document after its prolog have the property. -/
theorem bodyFragments (h : W.PassesTo escaper Q P) {items : List Item}
    (hq : Item.Everywhere Q items) : Everywhere P (W.bodyFragments escaper items) := by
  have houtside : ∀ afterRoot, Everywhere P (W.outside escaper afterRoot items) := by
    induction items with
    | nil => exact fun _ => trivial
    | cons item items ih =>
        intro afterRoot
        refine everywhere_iff.2 fun f hf => ?_
        rcases List.mem_append.1 hf with hf | hf
        · exact everywhere_iff.1 (outsideAt h hq.1 afterRoot) f hf
        · exact everywhere_iff.1 (ih hq.2 _) f hf
  refine everywhere_iff.2 fun f hf => ?_
  rcases List.mem_append.1 hf with hf | hf
  · exact everywhere_iff.1 (houtside false) f hf
  · split at hf
    · rw [List.mem_singleton.1 hf]
      exact h.lineEnd
    · simp at hf

end PassesTo

end Writer

/-! ### Plain items -/

/-- The names are names, and the data of a comment or a processing instruction does not end it. -/
def Item.IsPlain : Item → Prop
  | element name attributes _ => Name.IsName name.text ∧ ∀ a ∈ attributes, Name.IsName a.name.text
  | comment data => ¬ ['-', '-', '>'] <:+: data
  | instruction target data =>
      Instruction.checkTarget target = .ok () ∧ ¬ ['?', '>'] <:+: data.getD []
  | _ => True

namespace Writer

variable {W : Writer} {escaper : Escaper} {lookup : Text → Option Text}

/-- An attribute of an element is written with its name, between quotation marks that its value has
not. -/
theorem isSound_of_mem_spellAttributes (ht : escaper.table.IsReadable lookup) {name : QName}
    {attributes : List Attribute} (hn : ∀ a ∈ attributes, Name.IsName a.name.text)
    {a : Attribute × WrittenAttribute} (ha : a ∈ W.spellAttributes escaper name attributes) :
    a.2.IsSound := by
  obtain ⟨b, hb, rfl⟩ := List.mem_map.1 ha
  have hq := Entity.chooseQuote_cases b.value
  exact ⟨hn b ((Attribute.sorted_perm _ _ _).mem_iff.1 hb), hq,
    (Escaper.not_mem_encode_some ht hq b.value).1⟩

/-- Plain items are scanned as they are written. -/
theorem passesTo_isLexical (ht : escaper.table.IsReadable lookup)
    (hsep : '<' ∉ W.settings.separator) (hindent : '<' ∉ W.settings.indent) :
    W.PassesTo escaper Item.IsPlain IsLexical where
  element h _ _ := ⟨h.1, fun _ ha => isSound_of_mem_spellAttributes ht h.2 ha⟩
  text _ _ := (Escaper.not_mem_encode_none ht _).1
  cdata {_} _ := everywhere_iff.2 (CData.forall_mem_fragments
    (fun _ => (by simp : ¬ [']', ']', '>'] <:+: ([] : Text))) (fun _ hrun _ => hrun)
    fun _ _ _ => Escaper.not_mem_hexReference _ (by decide))
  comment h := h
  instruction h := h
  indentation _ := fun hm => hindent (mem_of_mem_flatten_replicate hm)
  lineEnd := hsep

end Writer

end XmlScribe
