/-
**What is written can be read.**

The fragments of a sound item are spelled so that they are read as they are meant, and what is read
from them says the same as the item: content as it is has the same outline, and content on lines has
the same outline where white space does not count.

Main definitions:

* `Writer.IsBlankLayout` — only white space is added or taken away.

Main results:

* `Writer.isReadable_fragmentsAt` — the fragments of an item are read as they are meant;
* `Writer.outlinesFrom_fragmentsAt` — they have the outline of the item.
-/

import XmlScribe.Proofs.Document.Sound
import XmlScribe.Proofs.Text.LineEnding
import XmlScribe.Proofs.Text.Runs
import XmlScribe.Proofs.Writer.Layout

set_option autoImplicit false

namespace XmlScribe

open Builder

namespace Writer

/-- Only white space is added or taken away when content is laid out on lines. -/
structure IsBlankLayout (W : Writer) : Prop where
  /-- The characters that count as spaces are those of XML. -/
  isSpace : W.profile.isSpace = Text.isBlank
  /-- The indentation is white space. -/
  indent : Text.isAllBlank W.settings.indent = true
  /-- The indentation has no carriage return. -/
  not_mem_indent : '\r' ∉ W.settings.indent

variable {W : Writer} {escaper : Escaper} {lookup : Text → Option Text} {m : Meaning}

/-! ### Parts of the layout -/

theorem mem_of_mem_flatten_replicate {s : Text} {n : Nat} {c : Char}
    (h : c ∈ (List.replicate n s).flatten) : c ∈ s := by
  obtain ⟨t, ht, hct⟩ := List.mem_flatten.1 h
  rwa [List.eq_of_mem_replicate ht] at hct

theorem isAllBlank_flatten_replicate {s : Text} (h : Text.isAllBlank s = true) (n : Nat) :
    Text.isAllBlank (List.replicate n s).flatten = true := by
  rw [Text.isAllBlank, List.all_eq_true] at h ⊢
  exact fun c hc => h c (mem_of_mem_flatten_replicate hc)

/-- A property of the indentation at the start of a line. -/
theorem forall_mem_indentAtStart {P : Fragment → Prop} {depth : Nat} (h : P (W.indentation depth))
    (st : LineState) : ∀ f ∈ W.indentAtStart st depth, P f := by
  intro f hf
  rw [indentAtStart] at hf
  split at hf
  · rw [List.mem_singleton.1 hf]
    exact h
  · simp at hf

theorem forall_mem_lastLine {P : Fragment → Prop} {depth : Nat} (hi : P (W.indentation depth))
    (hl : P W.lineEnd) (st : LineState) : ∀ f ∈ W.lastLine depth st, P f := by
  intro f hf
  rw [lastLine] at hf
  split at hf
  · rw [List.mem_singleton.1 hf]
    exact hi
  · split at hf
    · simp only [List.mem_cons, List.not_mem_nil, or_false] at hf
      rcases hf with rfl | rfl
      · exact hl
      · exact hi
    · simp at hf

/-- A property of all fragments of a part of the content. -/
theorem forall_mem_place {P : Fragment → Prop} {parentIsBlock : Bool} {depth : Nat}
    {before after : Neighbour} {item : Item} {own : List Fragment} (hi : P (W.indentation depth))
    (hl : P W.lineEnd) (hown : ∀ f ∈ own, P f)
    (htext : ∀ data, item = .text data → ∀ trim,
      P (W.spellText escaper (Text.collapseRuns W.profile.isSpace ' ' trim data)))
    (st : LineState) :
    ∀ f ∈ (W.place escaper parentIsBlock depth before after item own st).1, P f := by
  have hstart := forall_mem_indentAtStart hi st
  have hplain : ∀ f ∈ W.indentAtStart st depth ++ own, P f := fun f hf =>
    (List.mem_append.1 hf).elim (hstart f) (hown f)
  cases item with
  | text data =>
      intro f hf
      rw [place, placeText] at hf
      split at hf
      · simp at hf
      · rcases List.mem_append.1 hf with hf | hf
        · exact hstart f hf
        · rw [List.mem_singleton.1 hf]
          exact htext data rfl _
  | element name attributes content =>
      intro f hf
      rw [place, placeElement] at hf
      split at hf
      · simp only [List.mem_append, List.mem_cons, List.not_mem_nil, or_false] at hf
        rcases hf with (hf | rfl | hf) | rfl
        · split at hf
          · simp at hf
          · rw [List.mem_singleton.1 hf]
            exact hl
        · exact hi
        · exact hown f hf
        · exact hl
      · split at hf
        · rcases List.mem_append.1 hf with hf | hf
          · exact hplain f hf
          · rw [List.mem_singleton.1 hf]
            exact hl
        · exact hplain f hf
  | cdata data => exact hplain
  | comment data => exact hplain
  | instruction target data => exact hplain
  | doctype d => exact hplain

/-! ### Reading -/

theorem isReadableAt_blanks {s : Text} (h : Text.isAllBlank s = true) (hr : '\r' ∉ s) :
    Fragment.IsReadableAt lookup m (blanks s) := by
  rw [Text.isAllBlank, List.all_eq_true] at h
  have hnot : ∀ c, Text.isBlank c = false → c ∉ s := fun c hc hm =>
    absurd (h c hm) (by rw [hc]; decide)
  exact ⟨⟨hnot '<' (by decide), hr⟩, Reference.spells_self (hnot '&' (by decide))⟩

theorem isReadableAt_indentation (hb : W.IsBlankLayout) (depth : Nat) :
    Fragment.IsReadableAt lookup m (W.indentation depth) :=
  isReadableAt_blanks (isAllBlank_flatten_replicate hb.indent depth) fun hm =>
    hb.not_mem_indent (mem_of_mem_flatten_replicate hm)

theorem isReadableAt_lineEnd (hsep : W.settings.separator = ['\n']) :
    Fragment.IsReadableAt lookup m W.lineEnd := by
  rw [lineEnd, hsep]
  exact isReadableAt_blanks rfl (by decide)

theorem isReadableAt_spellText (ht : escaper.table.IsReadable lookup)
    (hsep : W.settings.separator = ['\n']) {data : Text} (h : '\x00' ∉ data) :
    Fragment.IsReadableAt lookup m (W.spellText escaper data) := by
  have hnull : '\x00' ∉ Text.endLinesWith ['\n'] data := by
    intro hm
    rcases Text.mem_of_mem_endLinesWith hm with hm | hm
    · exact h hm
    · exact absurd hm (by decide)
  rw [spellText, hsep]
  simp only [Text.withLineEndings_eq]
  exact ⟨⟨(Escaper.not_mem_encode_none ht _).1, fun hm =>
    Text.not_mem_endLinesWith data (Escaper.mem_of_mem_encode ht (by decide) hm).1⟩,
    Escaper.spells_encode ht none hnull⟩

theorem isSpelled_spellAttribute (ht : escaper.table.IsReadable lookup) {a : Attribute}
    (hn : Name.IsName a.name.text) (h : '\x00' ∉ a.value) :
    Fragment.IsSpelled lookup (spellAttribute escaper a).1 (spellAttribute escaper a).2 := by
  have hq := Entity.chooseQuote_cases a.value
  obtain ⟨h₁, -, h₂⟩ := Escaper.not_mem_encode_some ht hq a.value
  exact ⟨⟨hn, hq, h₁⟩, rfl, h₂, Escaper.spells_encode ht _ h⟩

theorem map_fst_spellAttributes (W : Writer) (escaper : Escaper) (name : QName)
    (attributes : List Attribute) :
    (W.spellAttributes escaper name attributes).map Prod.fst =
      Attribute.sorted W.profile (keyOf name) attributes := by
  rw [spellAttributes, List.map_map]
  exact List.map_id _

/-- An element is read as it is meant, if its content is. -/
theorem isReadableAt_element (ht : escaper.table.IsReadable lookup) {name : QName}
    {attributes : List Attribute} {content : List Item}
    (hs : (Item.element name attributes content).IsSoundAt m)
    (hn : Item.HasNoNull (.element name attributes content)) {closed : Bool}
    {fragments : List Fragment} (hclosed : closed = true → fragments = [])
    (hfragments : Fragment.IsReadable lookup (meaningIn m attributes) fragments) :
    Fragment.IsReadableAt lookup m
      (.element name (W.spellAttributes escaper name attributes) closed fragments) := by
  obtain ⟨hname, hresolves, hdistinct, -⟩ := hs
  have hperm := Attribute.sorted_perm W.profile (keyOf name) attributes
  have hmeaning := meaningIn_perm (m := m) hperm.symm hdistinct.nodup_text
  rw [Fragment.IsReadableAt, map_fst_spellAttributes, ← hmeaning]
  refine ⟨hname, fun a ha => ?_, fun a ha => ?_, hdistinct.perm hperm.symm, hclosed, hfragments⟩
  · obtain ⟨b, hb, rfl⟩ := List.mem_map.1 ha
    exact hresolves b (hperm.mem_iff.1 hb)
  · obtain ⟨b, hmem, rfl⟩ := List.mem_map.1 ha
    have hb := hperm.mem_iff.1 hmem
    exact isSpelled_spellAttribute ht (hresolves b hb).isName (hn b hb)

mutual

/-- The fragments of a sound item are read as they are meant. -/
theorem isReadable_fragmentsAt (ht : escaper.table.IsReadable lookup)
    (hsep : W.settings.separator = ['\n']) :
    ∀ (item : Item) (depth : Nat) (formatting : Bool) (m : Meaning),
      (formatting = true → W.IsBlankLayout) → item.IsSoundAt m →
      item.EverywhereAt Item.HasNoNull →
      Fragment.IsReadable lookup m (W.fragmentsAt escaper depth formatting item)
  | .element name attributes content, depth, formatting, m, hb, hs, hn => by
      have hcontent := hs.2.2.2
      have hinside : Fragment.IsReadable lookup (meaningIn m attributes)
          (W.inside escaper depth formatting name content) := by
        rw [inside]
        split
        · trivial
        · split
          · rename_i hf
            have hblank := hb (Bool.and_eq_true_iff.1 hf).1
            refine Fragment.isReadable_iff.2 fun f hf => ?_
            rcases List.mem_append.1 hf with hf | hf
            · exact Fragment.isReadable_iff.1
                (isReadable_laidOut ht hsep content _ _ _ _ _ hblank hcontent hn.2) f hf
            · exact forall_mem_lastLine (isReadableAt_indentation hblank _)
                (isReadableAt_lineEnd hsep) _ f hf
          · exact isReadable_verbatim ht hsep content _ hcontent hn.2
      rw [fragmentsAt_element]
      refine ⟨isReadableAt_element ht hs hn.1 (fun hc => ?_) hinside, trivial⟩
      rw [inside, if_pos (Bool.and_eq_true_iff.1 hc).1]
  | .text data, _, _, _, _, _, hn => ⟨isReadableAt_spellText ht hsep hn, trivial⟩
  | .cdata data, _, _, _, _, hs, hn => CData.isReadable_fragments _ hs.2 fun h => absurd h hn
  | .comment data, _, _, _, _, hs, _ => ⟨hs, trivial⟩
  | .instruction target data, _, _, _, _, hs, _ => ⟨hs, trivial⟩
  | .doctype _, _, _, _, _, hs, _ => hs.elim

/-- The fragments of sound content as it is are read as they are meant. -/
theorem isReadable_verbatim (ht : escaper.table.IsReadable lookup)
    (hsep : W.settings.separator = ['\n']) :
    ∀ (items : List Item) (m : Meaning), Item.IsSound m items →
      Item.Everywhere Item.HasNoNull items →
      Fragment.IsReadable lookup m (W.verbatim escaper items)
  | [], _, _, _ => trivial
  | item :: items, m, hs, hn => by
      refine Fragment.isReadable_iff.2 fun f hf => ?_
      rcases List.mem_append.1 hf with hf | hf
      · exact Fragment.isReadable_iff.1
          (isReadable_fragmentsAt ht hsep item 0 false m (by simp) hs.1 hn.1) f hf
      · exact Fragment.isReadable_iff.1 (isReadable_verbatim ht hsep items m hs.2 hn.2) f hf

/-- The fragments of sound content on lines are read as they are meant. -/
theorem isReadable_laidOut (ht : escaper.table.IsReadable lookup)
    (hsep : W.settings.separator = ['\n']) :
    ∀ (items : List Item) (depth : Nat) (traits : Traits) (before : Neighbour) (st : LineState)
      (m : Meaning), W.IsBlankLayout → Item.IsSound m items →
      Item.Everywhere Item.HasNoNull items →
      Fragment.IsReadable lookup m (W.laidOut escaper depth traits before st items).1
  | [], _, _, _, _, _, _, _, _ => trivial
  | item :: items, depth, traits, before, st, m, hb, hs, hn => by
      have hown := isReadable_fragmentsAt ht hsep item (contentDepth depth traits st) true m
        (fun _ => hb) hs.1 hn.1
      refine Fragment.isReadable_iff.2 fun f hf => ?_
      rcases List.mem_append.1 hf with hf | hf
      · refine forall_mem_place (isReadableAt_indentation hb _) (isReadableAt_lineEnd hsep)
          (Fragment.isReadable_iff.1 hown) ?_ _ f hf
        rintro data rfl trim
        refine isReadableAt_spellText ht hsep fun hm => ?_
        rcases Text.mem_of_mem_collapseRuns hm with hm | hm
        · exact hn.1 hm
        · exact absurd hm (by decide)
      · exact Fragment.isReadable_iff.1
          (isReadable_laidOut ht hsep items depth traits _ _ m hb hs.2 hn.2) f hf

end

/-! ### Outlines -/

variable {kept : ElementKey → Bool}

theorem outlinesFrom_blanks {s : Text} (h : Text.isAllBlank s = true) (waiting : Text)
    (fragments : List Fragment) :
    Fragment.outlinesFrom kept false waiting (blanks s :: fragments) =
      Fragment.outlinesFrom kept false waiting fragments := by
  have hs : Fragment.outlinesAt kept false waiting (blanks s) = ([], waiting) := by
    rw [blanks, Fragment.outlinesAt, Outline.counted_of_isAllBlank h, List.append_nil]
  rw [Fragment.outlinesFrom, hs]
  rfl

theorem isAllBlank_separator (hsep : W.settings.separator = ['\n']) :
    Text.isAllBlank W.settings.separator = true := by
  rw [hsep]
  rfl

theorem outlinesFrom_append_lineEnd (hsep : W.settings.separator = ['\n']) (waiting : Text)
    (fragments : List Fragment) :
    Fragment.outlinesFrom kept false waiting (fragments ++ [W.lineEnd]) =
      Fragment.outlinesFrom kept false waiting fragments := by
  rw [Fragment.outlinesFrom_append, lineEnd, outlinesFrom_blanks (isAllBlank_separator hsep)]
  simp [Fragment.outlinesFrom]

theorem outlinesFrom_indentAtStart (hb : W.IsBlankLayout) (st : LineState) (depth : Nat)
    (waiting : Text) (fragments : List Fragment) :
    Fragment.outlinesFrom kept false waiting (W.indentAtStart st depth ++ fragments) =
      Fragment.outlinesFrom kept false waiting fragments := by
  rw [indentAtStart]
  split
  · exact outlinesFrom_blanks (isAllBlank_flatten_replicate hb.indent depth) waiting fragments
  · rfl

theorem outlinesFrom_lastLine (hb : W.IsBlankLayout) (hsep : W.settings.separator = ['\n'])
    (depth : Nat) (st : LineState) (waiting : Text) :
    Fragment.outlinesFrom kept false waiting (W.lastLine depth st) = ([], waiting) := by
  have hindent := isAllBlank_flatten_replicate hb.indent depth
  have hline := isAllBlank_separator hsep
  rw [lastLine]
  split
  · exact outlinesFrom_blanks hindent waiting []
  · split
    · rw [lineEnd, outlinesFrom_blanks hline]
      exact outlinesFrom_blanks hindent waiting []
    · rfl

theorem outlinesAt_spellText (hsep : W.settings.separator = ['\n']) {data : Text}
    (h : '\r' ∉ data) (exact : Bool) (waiting : Text) :
    Fragment.outlinesAt kept exact waiting (W.spellText escaper data) =
      ([], waiting ++ Outline.counted exact data) := by
  rw [spellText, hsep]
  simp only [Text.withLineEndings_eq, Text.endLinesWith_eq_self h]
  rfl

/-- Line ends and indentation around a part of the content add nothing to the outline, and
collapsing takes nothing away. -/
theorem outlinesFrom_place (hb : W.IsBlankLayout) (hsep : W.settings.separator = ['\n'])
    (parentIsBlock : Bool) (depth : Nat) (before after : Neighbour) {item : Item}
    {own : List Fragment} (hn : item.EverywhereAt Item.HasNoReturn) (waiting : Text)
    (hown : Fragment.outlinesFrom kept false waiting own =
      Item.outlinesAt kept false waiting item) (st : LineState) :
    Fragment.outlinesFrom kept false waiting
        (W.place escaper parentIsBlock depth before after item own st).1 =
      Item.outlinesAt kept false waiting item := by
  have hplain : Fragment.outlinesFrom kept false waiting (W.indentAtStart st depth ++ own) =
      Item.outlinesAt kept false waiting item := by
    rw [outlinesFrom_indentAtStart hb, hown]
  have hline := isAllBlank_separator hsep
  have hafter : ∀ fragments, Fragment.outlinesFrom kept false waiting (fragments ++ [W.lineEnd]) =
      Fragment.outlinesFrom kept false waiting fragments := outlinesFrom_append_lineEnd hsep waiting
  cases item with
  | text data =>
      have hcounted : ∀ trim, Outline.counted false
          (Text.collapseRuns W.profile.isSpace ' ' trim data) = Outline.counted false data := by
        intro trim
        rw [hb.isSpace]
        exact Text.filter_collapseRuns (by decide) trim data
      rw [place, placeText]
      split
      · rename_i he
        have hnone := hcounted (Trim.between parentIsBlock before after)
        rw [List.isEmpty_iff.1 he, Outline.counted_nil] at hnone
        rw [Item.outlinesAt, ← hnone, List.append_nil]
        rfl
      · rw [outlinesFrom_indentAtStart hb, Fragment.outlinesFrom, outlinesAt_spellText hsep ?_,
          hcounted]
        · rfl
        · intro hm
          rcases Text.mem_of_mem_collapseRuns hm with hm | hm
          · exact hn hm
          · exact absurd hm (by decide)
  | element name attributes content =>
      rw [place, placeElement]
      split
      · rw [hafter]
        split
        · rw [List.nil_append, indentation,
            outlinesFrom_blanks (isAllBlank_flatten_replicate hb.indent depth), hown]
        · rw [List.singleton_append, lineEnd, outlinesFrom_blanks hline, indentation,
            outlinesFrom_blanks (isAllBlank_flatten_replicate hb.indent depth), hown]
      · split
        · rw [hafter, hplain]
        · exact hplain
  | cdata data => exact hplain
  | comment data => exact hplain
  | instruction target data => exact hplain
  | doctype d => exact hplain

mutual

/-- The fragments of an item have its outline; if it is laid out on lines, up to white space that
does not count. -/
theorem outlinesFrom_fragmentsAt (hsep : W.settings.separator = ['\n']) :
    ∀ (item : Item) (depth : Nat) (formatting exact : Bool) (waiting : Text),
      (formatting = true → W.IsBlankLayout ∧ kept = W.profile.isPreserved ∧ exact = false) →
      item.EverywhereAt Item.HasNoReturn →
      Fragment.outlinesFrom kept exact waiting (W.fragmentsAt escaper depth formatting item) =
        Item.outlinesAt kept exact waiting item
  | .element name attributes content, depth, formatting, exact, waiting, hf, hn => by
      have hinside : Fragment.outlinesFrom kept (exact || kept (keyOf name)) []
          (W.inside escaper depth formatting name content) =
            Item.outlinesFrom kept (exact || kept (keyOf name)) [] content := by
        rw [inside]
        split
        · rename_i he
          rw [List.isEmpty_iff.1 he]
          rfl
        · split
          · rename_i hl
            obtain ⟨hformat, hpreserved⟩ := Bool.and_eq_true_iff.1 hl
            obtain ⟨hb, hk, rfl⟩ := hf hformat
            have hkept : kept (keyOf name) = false := by
              rw [hk]
              simpa [traits] using hpreserved
            rw [hkept, Bool.or_self, Fragment.outlinesFrom_append, outlinesFrom_lastLine hb hsep,
              outlinesFrom_laidOut hsep content _ _ _ _ _ hb hk hn.2, List.append_nil]
          · exact outlinesFrom_verbatim hsep content _ _ hn.2
      have hattributes : ((Attribute.sorted W.profile (keyOf name) attributes : List Attribute) :
          Multiset Attribute) = attributes :=
        Multiset.coe_eq_coe.2 (Attribute.sorted_perm _ _ _)
      rw [fragmentsAt_element, Fragment.outlinesFrom, Fragment.outlinesAt, hinside,
        map_fst_spellAttributes, hattributes, Item.outlinesAt]
      simp [Fragment.outlinesFrom]
  | .text data, _, _, exact, waiting, _, hn => by
      rw [fragmentsAt, Fragment.outlinesFrom, outlinesAt_spellText hsep hn]
      rfl
  | .cdata data, _, _, exact, waiting, _, _ =>
      CData.outlinesFrom_fragments kept exact _ waiting data
  | .comment data, _, _, _, _, _, _ => by
      simp [fragmentsAt, Fragment.outlinesFrom, Fragment.outlinesAt, Item.outlinesAt]
  | .instruction target data, _, _, _, _, _, _ => by
      simp [fragmentsAt, Fragment.outlinesFrom, Fragment.outlinesAt, Item.outlinesAt]
  | .doctype _, _, _, _, _, _, _ => rfl

/-- The fragments of content as it is have its outline. -/
theorem outlinesFrom_verbatim (hsep : W.settings.separator = ['\n']) :
    ∀ (items : List Item) (exact : Bool) (waiting : Text),
      Item.Everywhere Item.HasNoReturn items →
      Fragment.outlinesFrom kept exact waiting (W.verbatim escaper items) =
        Item.outlinesFrom kept exact waiting items
  | [], _, _, _ => rfl
  | item :: items, exact, waiting, hn => by
      have hitem := outlinesFrom_fragmentsAt hsep item 0 false exact waiting (by simp) hn.1
      rw [verbatim, Fragment.outlinesFrom_append, hitem, outlinesFrom_verbatim hsep items _ _ hn.2]
      rfl

/-- The fragments of content on lines have its outline, up to white space. -/
theorem outlinesFrom_laidOut (hsep : W.settings.separator = ['\n']) :
    ∀ (items : List Item) (depth : Nat) (traits : Traits) (before : Neighbour) (st : LineState)
      (waiting : Text), W.IsBlankLayout → kept = W.profile.isPreserved →
      Item.Everywhere Item.HasNoReturn items →
      Fragment.outlinesFrom kept false waiting
          (W.laidOut escaper depth traits before st items).1 =
        Item.outlinesFrom kept false waiting items
  | [], _, _, _, _, _, _, _, _ => rfl
  | item :: items, depth, traits, before, st, waiting, hb, hk, hn => by
      have hown := outlinesFrom_fragmentsAt hsep item (contentDepth depth traits st) true false
        waiting (fun _ => ⟨hb, hk, rfl⟩) hn.1
      rw [laidOut, Fragment.outlinesFrom_append, outlinesFrom_place hb hsep _ _ _ _ hn.1 _ hown,
        outlinesFrom_laidOut hsep items _ _ _ _ _ hb hk hn.2]
      rfl

end

end Writer

end XmlScribe
