/-
**Laying out again what has been laid out.**

Content is laid out on lines and read again.  The line ends and the indentation come back as white
space in texts, or as texts of their own.  If every element stands on lines of its own, they come
back only at the edges of an element and beside elements, and there white space is removed before
the content is laid out.  So each gap between two items that are no texts is written as before.

Only the tag of an element can differ: an element that has nothing but white space in it is
written with an end tag, has no content any more when it is read, and is then written as a single
tag.

Main definitions:

* `Writer.IsBlockLayout` — every element stands on lines of its own;
* `Writer.KeepsTag` — the element has content that is no white space, or none;
* `Writer.lines` — content on lines, up to the end tag;
* `Writer.IsRelaid` — what is read of an item, and how it is written.

Main results:

* `Writer.placeGap_again` — what is read of a gap comes to the same text;
* `Writer.agreesIff_lines` — content is written as before if its items are;
* `Writer.exists_isRelaid` — an item is exactly if elements keep their tags.
-/

import XmlScribe.Proofs.Document.Joined
import XmlScribe.Proofs.Text.Runs
import XmlScribe.Proofs.Writer.Again

set_option autoImplicit false

namespace XmlScribe

open Builder Fragment
open Item (Gapped)
open Text (AgreesIff)

/-! ### Blank fragments -/

namespace Fragment

/-- The fragment is white space that is not spelled in any other way. -/
def IsBlank (f : Fragment) : Prop :=
  ∃ s, f = Writer.blanks s ∧ Text.isAllBlank s = true

theorem text_chars (raw data : Text) (fragments : List Fragment) :
    text (.chars raw data :: fragments) = raw ++ text fragments :=
  List.flatMap_cons

/-- White space waits for what comes after it. -/
theorem itemsFrom_of_isBlank {fragments : List Fragment} (h : ∀ f ∈ fragments, f.IsBlank)
    (waiting : Text) : itemsFrom waiting fragments = ([], waiting ++ text fragments) := by
  induction fragments generalizing waiting with
  | nil => exact congrArg _ (List.append_nil waiting).symm
  | cons f fragments ih =>
      obtain ⟨s, rfl, -⟩ := h f List.mem_cons_self
      have hrest := ih (fun g hg => h g (List.mem_cons_of_mem _ hg)) (waiting ++ s)
      rw [itemsFrom, Writer.blanks, itemsAt]
      dsimp only
      rw [hrest, text_chars, List.append_assoc]
      rfl

theorem isAllBlank_text {fragments : List Fragment} (h : ∀ f ∈ fragments, f.IsBlank) :
    Text.isAllBlank (text fragments) = true := by
  induction fragments with
  | nil => rfl
  | cons f fragments ih =>
      obtain ⟨s, rfl, hs⟩ := h f List.mem_cons_self
      have hrest := ih fun g hg => h g (List.mem_cons_of_mem _ hg)
      rw [Text.isAllBlank] at hs hrest ⊢
      rw [Writer.blanks, text_chars, List.all_append, hs, hrest]
      rfl

/-- The items that are read from some fragments after character data. -/
def itemsAfter (waiting : Text) (fragments : List Fragment) : List Item :=
  (itemsFrom waiting fragments).1 ++ flush (itemsFrom waiting fragments).2

theorem itemsAfter_append (waiting : Text) (fragments more : List Fragment) :
    itemsAfter waiting (fragments ++ more) =
      (itemsFrom waiting fragments).1 ++ itemsAfter (itemsFrom waiting fragments).2 more := by
  simp only [itemsAfter, itemsFrom_append, List.append_assoc]

end Fragment

/-- White space is removed from the edge of a text beside it. -/
def Neighbour.trims : Neighbour → Bool
  | .edge => true
  | .element isBlock _ => isBlock
  | .other => false

namespace Writer

/-- Every element stands on lines of its own, and all characters can be written. -/
structure IsBlockLayout (W : Writer) : Prop extends W.IsBlankLayout where
  /-- Lines end with a line feed. -/
  separator : W.settings.separator = ['\n']
  /-- An element without content is a single tag. -/
  emptyTags : W.settings.emptyTags = true
  /-- Elements are blocks and nothing else. -/
  traits : ∀ name, W.traits name = .ofBlock
  /-- The character set has all characters. -/
  canEncode : ∀ c, W.settings.charset.canEncode c = true

/-- The item is a text of white space. -/
def IsSpacing (W : Writer) : Item → Prop
  | .text data => data.all W.profile.isSpace = true
  | _ => False

/-- An element has nothing in it, or something besides white space. -/
def KeepsTag (W : Writer) : Item → Prop
  | .element _ _ content => content = [] ∨ ∃ item ∈ content, ¬ W.IsSpacing item
  | _ => True

variable {W : Writer} {escaper : Escaper}

theorem forall_isSpacing_join (item : Item) (items : List Item) :
    (∀ other ∈ Item.join item items, W.IsSpacing other) ↔
      W.IsSpacing item ∧ ∀ other ∈ items, W.IsSpacing other := by
  rcases Item.join_cases item items with he | ⟨data, next, rest, rfl, rfl, he⟩ <;> rw [he]
  · simp
  · simp [IsSpacing, or_imp, forall_and, and_assoc]

theorem isSpacing_joinedAt (item : Item) : W.IsSpacing item.joinedAt ↔ W.IsSpacing item := by
  cases item <;> rfl

theorem forall_isSpacing_joined (items : List Item) :
    (∀ item ∈ Item.joined items, W.IsSpacing item) ↔ ∀ item ∈ items, W.IsSpacing item := by
  induction items with
  | nil => rfl
  | cons item items ih =>
      rw [Item.joined, forall_isSpacing_join, ih, isSpacing_joinedAt, List.forall_mem_cons]

/-- It makes no difference for tags whether adjacent texts are joined. -/
theorem keepsTag_joined (items : List Item) :
    Item.Everywhere W.KeepsTag (Item.joined items) ↔ Item.Everywhere W.KeepsTag items := by
  refine Item.everywhere_joined (by simp [KeepsTag]) (fun name attributes content => ?_) items
  have hspacing := not_congr (@forall_isSpacing_joined W content)
  push Not at hspacing
  rw [KeepsTag, KeepsTag, hspacing, Item.joined_eq_nil_iff]

/-! ### Around an item -/

/-- What comes before an item that is no text. -/
def leadIn (W : Writer) (item : Item) (depth : Nat) (st : LineState) : List Fragment :=
  if item.isElement then (if st.atLineStart then [] else [W.lineEnd]) ++ [W.indentation depth]
  else W.indentAtStart st depth

/-- What comes after it. -/
def leadOut (W : Writer) (item : Item) : List Fragment :=
  if item.isElement then [W.lineEnd] else []

/-- The state after it. -/
def afterItem (st : LineState) (item : Item) : LineState :=
  if item.isElement then st.afterLine .ofBlock else st.inLine

theorem place_eq (hb : W.IsBlockLayout) {item : Item} (hitem : ∀ data, item ≠ .text data)
    (depth : Nat) (before after : Neighbour) (own : List Fragment) (st : LineState) :
    W.place escaper true depth before after item own st =
      (W.leadIn item depth st ++ own ++ W.leadOut item, afterItem st item) := by
  cases item with
  | text data => exact absurd rfl (hitem data)
  | element name attributes content =>
      rw [place, placeElement, hb.traits]
      simp [Traits.ofBlock, leadIn, leadOut, afterItem, Item.isElement]
  | _ => simp [place, leadIn, leadOut, afterItem, Item.isElement]

theorem neighbourOf_eq (hb : W.IsBlockLayout) (item : Item) :
    W.neighbourOf (some item) = if item.isElement then .element true false else .other := by
  cases item with
  | element name attributes content =>
      simp [neighbourOf, hb.traits, Traits.ofBlock, Traits.none, Item.isElement]
  | _ => rfl

theorem isBlank_lineEnd (hb : W.IsBlockLayout) : W.lineEnd.IsBlank :=
  ⟨_, rfl, isAllBlank_separator hb.separator⟩

theorem isBlank_indentation (hb : W.IsBlockLayout) (depth : Nat) : (W.indentation depth).IsBlank :=
  ⟨_, rfl, isAllBlank_flatten_replicate hb.indent depth⟩

theorem isBlank_leadIn (hb : W.IsBlockLayout) (item : Item) (depth : Nat) (st : LineState) :
    ∀ f ∈ W.leadIn item depth st, f.IsBlank := by
  rw [leadIn]
  split
  · intro f hf
    rcases List.mem_append.1 hf with hf | hf
    · split at hf
      · cases hf
      · exact List.mem_singleton.1 hf ▸ isBlank_lineEnd hb
    · exact List.mem_singleton.1 hf ▸ isBlank_indentation hb depth
  · exact forall_mem_indentAtStart (isBlank_indentation hb depth) st

theorem isBlank_leadOut (hb : W.IsBlockLayout) (item : Item) :
    ∀ f ∈ W.leadOut item, f.IsBlank := by
  rw [leadOut]
  split
  · exact fun f hf => List.mem_singleton.1 hf ▸ isBlank_lineEnd hb
  · simp

/-- The white space that waits after an item. -/
def waitingAt (W : Writer) (st : LineState) : Text :=
  if st.atLineStart then W.settings.separator else []

theorem text_leadOut (item : Item) (st : LineState) :
    Fragment.text (W.leadOut item) = W.waitingAt (afterItem st item) := by
  rw [leadOut, waitingAt, afterItem]
  split
  · simp [LineState.afterLine, lineEnd, blanks, Fragment.text, Fragment.events,
      Fragment.eventsOf, Event.source]
  · simp [LineState.inLine, Fragment.text, Fragment.events]

/-! ### Gaps -/

/-- The state can come up after `before`. -/
structure Follows (st : LineState) (before : Neighbour) : Prop where
  /-- A line begins only where white space is removed. -/
  trims : st.atLineStart = true → before.trims = true
  /-- No element has content that is not indented. -/
  afterFlush : st.afterFlush = false

theorem follows_start : Follows .start .edge :=
  ⟨fun _ => rfl, rfl⟩

theorem trims_neighbourOf (hb : W.IsBlockLayout) (item : Item) :
    (W.neighbourOf (some item)).trims = item.isElement := by
  rw [neighbourOf_eq hb]
  cases item.isElement <;> rfl

theorem follows_afterItem (hb : W.IsBlockLayout) {st : LineState} (h : st.afterFlush = false)
    (item : Item) : Follows (afterItem st item) (W.neighbourOf (some item)) := by
  rw [afterItem]
  split
  · rename_i he
    exact ⟨fun _ => (trims_neighbourOf hb item).trans he, rfl⟩
  · exact ⟨by simp [LineState.inLine], h⟩

/-- What is left of a text in a gap. -/
def collapsed (W : Writer) (before after : Neighbour) (gap : Text) : Text :=
  Text.collapseRuns W.profile.isSpace ' ' (Trim.between true before after) gap

/-- A text in a gap. -/
def placeGap (W : Writer) (escaper : Escaper) (before after : Neighbour) (depth : Nat)
    (gap : Text) (st : LineState) : List Fragment × LineState :=
  W.placeText escaper (Trim.between true before after) depth gap st

theorem placeGap_congr {before after : Neighbour} {gap gap' : Text}
    (h : W.collapsed before after gap = W.collapsed before after gap') (depth : Nat)
    (st : LineState) :
    W.placeGap escaper before after depth gap st = W.placeGap escaper before after depth gap' st := by
  rw [collapsed, collapsed] at h
  simp only [placeGap, placeText, h]

theorem placeGap_of_eq_nil {before after : Neighbour} {gap : Text}
    (h : W.collapsed before after gap = []) (depth : Nat) (st : LineState) :
    W.placeGap escaper before after depth gap st = ([], st) := by
  rw [collapsed] at h
  simp [placeGap, placeText, h]

theorem placeGap_of_ne_nil {before after : Neighbour} {gap : Text}
    (h : W.collapsed before after gap ≠ []) (depth : Nat) (st : LineState) :
    W.placeGap escaper before after depth gap st =
      (W.indentAtStart st depth ++ [W.spellText escaper (W.collapsed before after gap)],
        st.inLine) := by
  rw [collapsed] at h ⊢
  simp [placeGap, placeText, h]

theorem Follows.placeGap {st : LineState} {before : Neighbour} (h : Follows st before)
    (after : Neighbour) (depth : Nat) (gap : Text) :
    (W.placeGap escaper before after depth gap st).2.afterFlush = false := by
  by_cases hc : W.collapsed before after gap = []
  · rw [placeGap_of_eq_nil hc]
    exact h.afterFlush
  · rw [placeGap_of_ne_nil hc]
    exact h.afterFlush

theorem collapsed_nil (before after : Neighbour) : W.collapsed before after [] = [] := by
  rw [collapsed, Text.collapseRuns]
  split
  · simp [Text.collapse, Text.collapseFrom]
  · rfl

/-- A text that has been collapsed has no carriage return. -/
theorem not_mem_collapsed (hb : W.IsBlockLayout) (before after : Neighbour) (gap : Text) :
    '\r' ∉ W.collapsed before after gap := by
  rw [collapsed, hb.isSpace, Text.collapseRuns_eq_collapse]
  intro hm
  exact absurd (Text.eq_of_mem_collapseFrom (by decide) hm) (by decide)

/-- What is read of a gap. -/
theorem itemsFrom_placeGap (hb : W.IsBlockLayout) {before after : Neighbour} {gap : Text}
    (h : W.collapsed before after gap ≠ []) (depth : Nat) (st : LineState) (waiting : Text) :
    itemsFrom waiting (W.placeGap escaper before after depth gap st).1 =
      ([], waiting ++ Fragment.text (W.indentAtStart st depth) ++ W.collapsed before after gap) := by
  have hblank := forall_mem_indentAtStart (isBlank_indentation hb depth) st
  have hspell : W.spellText escaper (W.collapsed before after gap) =
      .chars (escaper.encode none (W.collapsed before after gap))
        (W.collapsed before after gap) := by
    rw [spellText, hb.separator]
    simp only [Text.withLineEndings_eq, Text.endLinesWith_eq_self (not_mem_collapsed hb _ _ _)]
  rw [placeGap_of_ne_nil h, itemsFrom_append, itemsFrom_of_isBlank hblank, hspell]
  rfl

/-- White space beside what trims it does not count. -/
theorem collapsed_between (hb : W.IsBlockLayout) {before after : Neighbour} {lead rest : Text}
    (gap : Text) (hlead : Text.isAllBlank lead = true) (htrims : lead ≠ [] → before.trims = true)
    (hrest : Text.isAllBlank rest = true) (htrims' : rest ≠ [] → after.trims = true) :
    W.collapsed before after (lead ++ W.collapsed before after gap ++ rest) =
      W.collapsed before after gap := by
  have hstart : before.trims = true → (Trim.between true before after).atStart = true := by
    cases before <;> simp_all [Neighbour.trims, Trim.between]
  have hend : after.trims = true → (Trim.between true before after).atEnd = true := by
    cases after <;> simp_all [Neighbour.trims, Trim.between]
  simp only [collapsed, hb.isSpace, Text.collapseRuns_eq_collapse]
  rw [Text.collapse_between hlead (fun hne => hstart (htrims hne)) hrest
    (fun hne => hend (htrims' hne)), Text.collapse_collapse]

theorem isAllBlank_waitingAt (hb : W.IsBlockLayout) (st : LineState) :
    Text.isAllBlank (W.waitingAt st) = true := by
  rw [waitingAt]
  split
  · exact isAllBlank_separator hb.separator
  · rfl

/-- There is white space before a gap only where a line begins. -/
theorem eq_nil_of_not_atLineStart {st : LineState} (h : st.atLineStart = false) (depth : Nat) :
    W.waitingAt st = [] ∧ W.indentAtStart st depth = [] := by
  simp [waitingAt, indentAtStart, h]

theorem Follows.trims_of_ne_nil {st : LineState} {before : Neighbour} (h : Follows st before)
    {lead : Text} (hlead : st.atLineStart = false → lead = []) (hne : lead ≠ []) :
    before.trims = true :=
  h.trims ((Bool.not_eq_false _).mp fun hn => hne (hlead hn))

theorem isAllBlank_append {s t : Text} (hs : Text.isAllBlank s = true)
    (ht : Text.isAllBlank t = true) : Text.isAllBlank (s ++ t) = true := by
  rw [Text.isAllBlank] at hs ht ⊢
  rw [List.all_append, hs, ht]
  rfl

/-- What is read of a gap, together with the white space after it, is left of it once more. -/
theorem placeGap_again (hb : W.IsBlockLayout) {before after : Neighbour} {st : LineState}
    (h : Follows st before) (depth : Nat) (gap : Text) {more : List Fragment}
    (hmore : ∀ f ∈ more, f.IsBlank) (hafter : after.trims = true ∨
      more = W.indentAtStart (W.placeGap escaper before after depth gap st).2 depth) :
    ∃ again, itemsFrom (W.waitingAt st)
        ((W.placeGap escaper before after depth gap st).1 ++ more) = ([], again) ∧
      W.collapsed before after again = W.collapsed before after gap := by
  have hwait := isAllBlank_waitingAt hb st
  have hrest := isAllBlank_text hmore
  have hlead := isAllBlank_text (forall_mem_indentAtStart (isBlank_indentation hb depth) st)
  have hnone : st.atLineStart = false →
      W.waitingAt st ++ Fragment.text (W.indentAtStart st depth) = [] := fun hn => by
    rw [(eq_nil_of_not_atLineStart hn depth).1, (eq_nil_of_not_atLineStart hn depth).2]
    rfl
  by_cases hc : W.collapsed before after gap = []
  · -- All that is read is white space, and it stands on one side.
    rw [placeGap_of_eq_nil hc] at hafter ⊢
    refine ⟨W.waitingAt st ++ Fragment.text more, itemsFrom_of_isBlank hmore _, ?_⟩
    rcases hafter with hafter | rfl
    · have hlast := collapsed_between hb gap hwait (h.trims_of_ne_nil fun hn =>
        (eq_nil_of_not_atLineStart hn depth).1) hrest fun _ => hafter
      rwa [hc, List.append_nil, ← hc] at hlast
    · have hfirst := @collapsed_between W hb before after _ [] gap (isAllBlank_append hwait hrest)
        (h.trims_of_ne_nil hnone) rfl (fun hne => absurd rfl hne)
      rwa [hc, List.append_nil, List.append_nil, ← hc] at hfirst
  · rw [itemsFrom_append, itemsFrom_placeGap hb hc, itemsFrom_of_isBlank hmore]
    refine ⟨_, rfl, collapsed_between hb gap (isAllBlank_append hwait hlead)
      (h.trims_of_ne_nil hnone) hrest fun hne => ?_⟩
    -- Between two texts in a line nothing has been put.
    refine hafter.elim id fun heq => absurd ?_ hne
    rw [heq, placeGap_of_ne_nil hc]
    rfl

/-! ### Content -/

/-- Content on lines, up to the end tag. -/
def lines (W : Writer) (escaper : Escaper) (depth : Nat) (before : Neighbour) (st : LineState)
    (items : List Item) : List Fragment :=
  (W.laidOut escaper depth .ofBlock before st items).1 ++
    W.lastLine depth (W.laidOut escaper depth .ofBlock before st items).2

theorem contentDepth_ofBlock (depth : Nat) {st : LineState} (h : st.afterFlush = false) :
    contentDepth depth .ofBlock st = depth + 1 := by
  simp [contentDepth, Traits.ofBlock, Traits.none, h]

/-- The last gap, and the end of the content. -/
theorem lines_last (depth : Nat) (before : Neighbour) {st : LineState}
    (h : st.afterFlush = false) (gap : Text) :
    W.lines escaper depth before st (flush gap) =
      (W.placeGap escaper before .edge (depth + 1) gap st).1 ++
        W.lastLine depth (W.placeGap escaper before .edge (depth + 1) gap st).2 := by
  cases gap with
  | nil =>
      rw [placeGap_of_eq_nil (collapsed_nil _ _)]
      rfl
  | cons c gap =>
      have hflush : flush (c :: gap) = [.text (c :: gap)] := rfl
      rw [lines, hflush, laidOut, contentDepth_ofBlock depth h]
      simp [laidOut, place, placeGap, Traits.ofBlock, neighbourOf]

/-- An item, and what follows it. -/
theorem lines_item (hb : W.IsBlockLayout) (depth : Nat) (before : Neighbour) {st : LineState}
    (h : st.afterFlush = false) {item : Item} (hitem : ∀ data, item ≠ .text data)
    (items : List Item) :
    W.lines escaper depth before st (item :: items) =
      W.leadIn item (depth + 1) st ++ W.fragmentsAt escaper (depth + 1) true item ++
        W.leadOut item ++
          W.lines escaper depth (W.neighbourOf (some item)) (afterItem st item) items := by
  rw [lines, laidOut, contentDepth_ofBlock depth h, show Traits.ofBlock.block = true from rfl,
    place_eq hb hitem]
  simp [lines]

/-- A gap, an item, and what follows it. -/
theorem lines_gap (hb : W.IsBlockLayout) (depth : Nat) {before : Neighbour} {st : LineState}
    (h : Follows st before) (gap : Text) {item : Item} (hitem : ∀ data, item ≠ .text data)
    (items : List Item) :
    W.lines escaper depth before st (flush gap ++ item :: items) =
      (W.placeGap escaper before (W.neighbourOf (some item)) (depth + 1) gap st).1 ++
        W.leadIn item (depth + 1)
          (W.placeGap escaper before (W.neighbourOf (some item)) (depth + 1) gap st).2 ++
        W.fragmentsAt escaper (depth + 1) true item ++ W.leadOut item ++
          W.lines escaper depth (W.neighbourOf (some item))
            (afterItem
              (W.placeGap escaper before (W.neighbourOf (some item)) (depth + 1) gap st).2 item)
            items := by
  cases gap with
  | nil =>
      rw [placeGap_of_eq_nil (collapsed_nil _ _), show flush [] ++ item :: items = item :: items
        from rfl, lines_item hb depth before h.afterFlush hitem]
      rfl
  | cons c gap =>
      have hplace : ∀ own, W.place escaper true (depth + 1) before (W.neighbourOf (some item))
          (.text (c :: gap)) own st =
            W.placeGap escaper before (W.neighbourOf (some item)) (depth + 1) (c :: gap) st :=
        fun _ => rfl
      have hafter := @Follows.placeGap W escaper st before h (W.neighbourOf (some item))
        (depth + 1) (c :: gap)
      have hrest := @lines_item W escaper hb depth .other _ hafter item hitem items
      rw [lines] at hrest
      rw [show flush (c :: gap) ++ item :: items = .text (c :: gap) :: item :: items from rfl,
        lines, laidOut, contentDepth_ofBlock depth h.afterFlush,
        show Traits.ofBlock.block = true from rfl, List.head?_cons, hplace]
      simp only [List.append_assoc] at hrest ⊢
      exact congrArg _ hrest

/-! ### Reading and writing again -/

/-- The item is neither a text nor an element. -/
def IsLeaf (item : Item) : Prop :=
  (∀ data, item ≠ .text data) ∧ item.isElement = false

/-- Reading an item that is laid out gives the items `first` and `more`, which are written as the
item was exactly if `P` holds of everything in it. -/
structure IsRelaid (W : Writer) (escaper : Escaper) (P : Item → Prop) (depth : Nat) (item first : Item)
    (more : List Item) : Prop where
  /-- What is read. -/
  reads : ∀ waiting, itemsFrom waiting (W.fragmentsAt escaper depth true item) =
    (flush waiting ++ first :: more, [])
  /-- No text comes first. -/
  ne_text : ∀ data, first ≠ .text data
  /-- An element comes first if the item is one. -/
  isElement_eq : first.isElement = item.isElement
  /-- Only CDATA sections come in several parts. -/
  isLeaf : ∀ other ∈ more, item.isElement = false ∧ IsLeaf other
  /-- What is written. -/
  agreesIff : AgreesIff (item.EverywhereAt P) (Fragment.text (W.fragmentsAt escaper depth true item))
    (Fragment.text (W.fragmentsAt escaper depth true first ++
      more.flatMap (W.fragmentsAt escaper depth true)))

/-- In a line, leaves are written one after the other. -/
theorem lines_leaves (hb : W.IsBlockLayout) (depth : Nat) {st : LineState} (h : Follows st .other)
    (hst : st.atLineStart = false) {leaves : List Item} (hleaves : ∀ item ∈ leaves, IsLeaf item)
    (items : List Item) :
    W.lines escaper depth .other st (leaves ++ items) =
      leaves.flatMap (W.fragmentsAt escaper (depth + 1) true) ++
        W.lines escaper depth .other st items := by
  induction leaves with
  | nil => rfl
  | cons leaf leaves ih =>
      obtain ⟨hne, he⟩ := hleaves leaf List.mem_cons_self
      have hneighbour : W.neighbourOf (some leaf) = .other := by
        rw [neighbourOf_eq hb, he]
        rfl
      have hafter : afterItem st leaf = st := by
        rw [afterItem, he]
        simp [LineState.inLine, ← hst]
      rw [List.cons_append, lines_item hb depth .other h.afterFlush hne, hneighbour, hafter,
        ih fun item hi => hleaves item (List.mem_cons_of_mem _ hi)]
      simp [leadIn, leadOut, he, indentAtStart, hst]

/-- What is read of an item and of what follows it is written in this way. -/
theorem IsRelaid.lines (hb : W.IsBlockLayout) {P : Item → Prop} {depth : Nat} {item first : Item}
    {more : List Item} (hr : W.IsRelaid escaper P (depth + 1) item first more) {st : LineState}
    (h : st.afterFlush = false) (items : List Item) :
    Fragment.text (W.leadOut first ++
        W.lines escaper depth (W.neighbourOf (some first)) (afterItem st first) (more ++ items)) =
      Fragment.text (more.flatMap (W.fragmentsAt escaper (depth + 1) true) ++ W.leadOut item ++
        W.lines escaper depth (W.neighbourOf (some item)) (afterItem st item) items) := by
  have hsame : W.leadOut first = W.leadOut item ∧ afterItem st first = afterItem st item ∧
      W.neighbourOf (some first) = W.neighbourOf (some item) := by
    simp only [leadOut, afterItem, neighbourOf_eq hb, hr.isElement_eq, and_self]
  rw [hsame.1, hsame.2.1, hsame.2.2]
  cases hmore : more with
  | nil => rfl
  | cons other more =>
      have he := (hr.isLeaf other (hmore ▸ List.mem_cons_self)).1
      have hother : W.neighbourOf (some item) = .other := by
        rw [neighbourOf_eq hb, he]
        rfl
      have hout : W.leadOut item = [] := by simp [leadOut, he]
      have hst : (afterItem st item).atLineStart = false := by
        simp [afterItem, he, LineState.inLine]
      rw [hother, hout, ← hmore,
        lines_leaves hb depth (hother ▸ follows_afterItem hb h item) hst fun leaf hl =>
          (hr.isLeaf leaf hl).2]
      simp

theorem everywhere_flush {P : Item → Prop} (hP : ∀ data, P (.text data)) (gap : Text) :
    Item.Everywhere P (flush gap) := by
  cases gap with
  | nil => trivial
  | cons c gap => exact ⟨hP _, trivial⟩

/-- What is read of the last gap. -/
theorem exists_read_last (hb : W.IsBlockLayout) (depth : Nat) {before : Neighbour} {st : LineState}
    (h : Follows st before) (gap : Text) :
    ∃ again, itemsAfter (W.waitingAt st) (W.lines escaper depth before st (flush gap)) =
      flush again ∧ W.collapsed before .edge again = W.collapsed before .edge gap := by
  obtain ⟨again, hread, hcollapsed⟩ := @placeGap_again W escaper hb before .edge st h (depth + 1)
    gap _ (forall_mem_lastLine (isBlank_indentation hb depth) (isBlank_lineEnd hb) _) (.inl rfl)
  refine ⟨again, ?_, hcollapsed⟩
  rw [lines_last depth before h.afterFlush, itemsAfter, hread]
  rfl

/-- What is read of a gap, an item and what follows it. -/
theorem exists_read_item (hb : W.IsBlockLayout) {P : Item → Prop} {depth : Nat} {before : Neighbour}
    {st : LineState} (h : Follows st before) (gap : Text) {item first : Item} {more : List Item}
    (hitem : ∀ data, item ≠ .text data)
    (hr : W.IsRelaid escaper P (depth + 1) item first more) (items : List Item) :
    ∃ again, W.collapsed before (W.neighbourOf (some item)) again =
        W.collapsed before (W.neighbourOf (some item)) gap ∧
      itemsAfter (W.waitingAt st) (W.lines escaper depth before st (flush gap ++ item :: items)) =
        flush again ++ first :: (more ++ itemsAfter
          (W.waitingAt (afterItem (W.placeGap escaper before (W.neighbourOf (some item)) (depth + 1)
            gap st).2 item))
          (W.lines escaper depth (W.neighbourOf (some item)) (afterItem
            (W.placeGap escaper before (W.neighbourOf (some item)) (depth + 1) gap st).2 item)
            items)) := by
  obtain ⟨again, hread, hcollapsed⟩ := @placeGap_again W escaper hb before
    (W.neighbourOf (some item)) st h (depth + 1) gap _ (isBlank_leadIn hb item (depth + 1) _) (by
      rw [trims_neighbourOf hb, leadIn]
      cases item.isElement with
      | true => exact .inl rfl
      | false => exact .inr rfl)
  refine ⟨again, hcollapsed, ?_⟩
  rw [lines_gap hb depth h gap hitem, itemsAfter_append, itemsFrom_append, itemsFrom_append, hread,
    hr.reads, itemsFrom_of_isBlank (isBlank_leadOut hb item), text_leadOut item
      (W.placeGap escaper before (W.neighbourOf (some item)) (depth + 1) gap st).2]
  simp

/-- Content on lines is written as before if its items are. -/
theorem agreesIff_lines (hb : W.IsBlockLayout) {P : Item → Prop} (hP : ∀ data, P (.text data))
    (depth : Nat) {items : List Item} (hg : Gapped items)
    (hitems : ∀ item ∈ items, (∀ data, item ≠ .text data) →
      ∃ first more, W.IsRelaid escaper P (depth + 1) item first more)
    {before : Neighbour} {st : LineState} (h : Follows st before) :
    AgreesIff (Item.Everywhere P items) (Fragment.text (W.lines escaper depth before st items))
      (Fragment.text (W.lines escaper depth before st
        (itemsAfter (W.waitingAt st) (W.lines escaper depth before st items)))) := by
  induction hg generalizing before st with
  | last gap =>
      obtain ⟨again, hread, hcollapsed⟩ := @exists_read_last W escaper hb depth _ _ h gap
      rw [hread, lines_last depth before h.afterFlush, lines_last depth before h.afterFlush,
        placeGap_congr hcollapsed]
      exact (AgreesIff.rfl _).congr (iff_of_true trivial (everywhere_flush hP gap))
  | @cons gap item items hitem _ ih =>
      obtain ⟨first, more, hr⟩ := hitems item (by simp) hitem
      obtain ⟨again, hcollapsed, hread⟩ := exists_read_item hb h gap hitem hr items
      -- The gap, with what comes before the item, is written as before.
      have hplace : W.placeGap escaper before (W.neighbourOf (some first)) (depth + 1) again st =
          W.placeGap escaper before (W.neighbourOf (some item)) (depth + 1) gap st := by
        rw [neighbourOf_eq hb first, hr.isElement_eq, ← neighbourOf_eq hb item]
        exact placeGap_congr hcollapsed _ _
      have hlead : ∀ st, W.leadIn first (depth + 1) st = W.leadIn item (depth + 1) st := fun st => by
        rw [leadIn, leadIn, hr.isElement_eq]
      have hafter := @Follows.placeGap W escaper st before h (W.neighbourOf (some item)) (depth + 1)
        gap
      -- So is the item, and what follows it.
      have hrest := ih (fun other ho => hitems other (by simp [ho])) (follows_afterItem hb hafter item)
      have hwritten := hr.lines hb hafter
      have hown := hr.agreesIff.append (hrest.append_left (Fragment.text (W.leadOut item)))
      rw [hread, lines_gap hb depth h gap hitem, lines_gap hb depth h again hr.ne_text, hplace, hlead]
      simp only [List.append_assoc, text_append] at hwritten hown ⊢
      rw [hwritten]
      refine ((hown.append_left _).append_left _).congr ?_
      rw [Item.everywhere_append, and_iff_right (everywhere_flush hP gap), Item.Everywhere]

/-! ### Items -/

theorem flush_eq_nil_iff {data : Text} : flush data = [] ↔ data = [] := by
  cases data <;> simp [flush]

theorem forall_isSpacing_flush (gap : Text) :
    (∀ item ∈ flush gap, W.IsSpacing item) ↔ W.IsSpacing (.text gap) := by
  cases gap <;> simp [flush, IsSpacing]

/-- At the edges of an element, nothing is left of white space, and of nothing else. -/
theorem collapsed_edge_eq_nil_iff (hb : W.IsBlockLayout) (gap : Text) :
    W.collapsed .edge .edge gap = [] ↔ W.IsSpacing (.text gap) := by
  rw [collapsed, hb.isSpace, Text.collapseRuns_eq_collapse,
    Text.collapse_eq_nil_iff (by decide) rfl, IsSpacing, hb.isSpace]

/-- Nothing is read from content on lines exactly if there is nothing but white space in it. -/
theorem itemsAfter_lines_eq_nil_iff (hb : W.IsBlockLayout) {P : Item → Prop} (depth : Nat)
    {items : List Item} (hg : Gapped items)
    (hitems : ∀ item ∈ items, (∀ data, item ≠ .text data) →
      ∃ first more, W.IsRelaid escaper P (depth + 1) item first more) :
    itemsAfter [] (W.lines escaper depth .edge .start items) = [] ↔
      ∀ item ∈ items, W.IsSpacing item := by
  cases hg with
  | last gap =>
      rw [forall_isSpacing_flush, ← collapsed_edge_eq_nil_iff hb]
      by_cases hc : W.collapsed .edge .edge gap = []
      · refine iff_of_true ?_ hc
        rw [lines_last depth .edge follows_start.afterFlush, placeGap_of_eq_nil hc]
        rfl
      · obtain ⟨again, hread, hcollapsed⟩ := @exists_read_last W escaper hb depth _ _ follows_start
          gap
        refine iff_of_false (fun hn => hc ?_) hc
        rw [← hcollapsed, flush_eq_nil_iff.1 (hread.symm.trans hn), collapsed_nil]
  | @cons gap item items hitem _ =>
      obtain ⟨first, more, hr⟩ := hitems item (by simp) hitem
      obtain ⟨again, -, hread⟩ := exists_read_item hb follows_start gap hitem hr items
      refine iff_of_false (fun hn => ?_) fun hall => ?_
      · exact absurd (hread.symm.trans hn) (by simp)
      · have hspacing := hall item (by simp)
        cases item with
        | text data => exact hitem data rfl
        | _ => exact hspacing

/-- An element is written as before exactly if its content is, and if there is any, something is
read of it. -/
theorem exists_isRelaid_element (hb : W.IsBlockLayout) (depth : Nat) (name : QName)
    (attributes : List Attribute) {content : List Item} (hg : Gapped content)
    (hitems : ∀ item ∈ content, (∀ data, item ≠ .text data) →
      ∃ first more, W.IsRelaid escaper W.KeepsTag (depth + 1) item first more) :
    ∃ first, W.IsRelaid escaper W.KeepsTag depth (.element name attributes content) first [] := by
  have hinside : ∀ items, items ≠ [] → W.inside escaper depth true name items =
      W.lines escaper depth .edge .start items := fun items hne => by
    rw [inside, hb.traits, List.isEmpty_eq_false_iff.2 hne]
    rfl
  have hread : ∀ waiting, itemsFrom waiting
      (W.fragmentsAt escaper depth true (.element name attributes content)) =
        (flush waiting ++ [.element name ((W.spellAttributes escaper name attributes).map Prod.fst)
          (itemsAfter [] (W.inside escaper depth true name content))], []) := fun waiting => by
    rw [fragmentsAt_element]
    simp [itemsFrom, itemsAt, itemsAfter]
  refine ⟨_, hread, by simp, rfl, by simp, ?_⟩
  rw [List.flatMap_nil, List.append_nil, fragmentsAt_element, fragmentsAt_element,
    spellAttributes_again, text_element, text_element, hb.emptyTags, Item.EverywhereAt]
  by_cases hc : content = []
  · subst hc
    exact (AgreesIff.rfl _).congr (iff_of_true trivial ⟨.inl rfl, trivial⟩)
  have hlines := agreesIff_lines hb (fun _ => trivial) depth hg hitems follows_start
  rw [show W.waitingAt .start = [] from rfl] at hlines
  have hnil := itemsAfter_lines_eq_nil_iff hb depth hg hitems
  rw [hinside content hc, List.isEmpty_eq_false_iff.2 hc]
  by_cases hr : itemsAfter [] (W.lines escaper depth .edge .start content) = []
  · -- The end tag was written, and is not any more.
    have hkeeps : ¬ W.KeepsTag (.element name attributes content) := by
      rintro (hempty | ⟨item, hi, hn⟩)
      · exact hc hempty
      · exact hn (hnil.1 hr item hi)
    rw [hr]
    refine ⟨fun h => absurd h.1 hkeeps, fun _ => Text.PartsFrom.append_left ?_ _⟩
    exact ⟨[], '>', '/', _, _, by decide, rfl, rfl⟩
  · have hkeeps : W.KeepsTag (.element name attributes content) := .inr (by
      simpa using fun hall => hr (hnil.2 hall))
    rw [hinside _ hr, List.isEmpty_eq_false_iff.2 hr]
    have hends := (hlines.append_right ('<' :: '/' :: name.text ++ ['>'])).append_left
      ('<' :: tagOf name (W.spellAttributes escaper name attributes) ++ ['>'])
    simpa [hkeeps] using hends

theorem isRelaid_leaf {depth : Nat} {item : Item} (hleaf : IsLeaf item)
    (hitem : item.EverywhereAt W.KeepsTag) {f : Fragment}
    (hwritten : W.fragmentsAt escaper depth true item = [f])
    (hread : ∀ waiting, itemsAt waiting f = (flush waiting ++ [item], [])) :
    W.IsRelaid escaper W.KeepsTag depth item item [] := by
  refine ⟨fun waiting => ?_, hleaf.1, rfl, by simp, ?_⟩
  · rw [hwritten, itemsFrom, hread]
    simp [itemsFrom]
  · rw [List.flatMap_nil, List.append_nil]
    exact (AgreesIff.rfl _).congr (iff_of_true trivial hitem)

/-- The sections of a CDATA section are written one by one. -/
theorem exists_isRelaid_cdata (hb : W.IsBlockLayout) (depth : Nat) (data : Text) :
    ∃ first more, W.IsRelaid escaper W.KeepsTag depth (.cdata data) first more := by
  obtain ⟨part, parts, hparts, hclosing⟩ := CData.exists_fragments_eq_map fun c (_ : c ∈ data) =>
    hb.canEncode c
  have hread : ∀ parts : List Text,
      itemsFrom [] (parts.map .cdata) = (parts.map Item.cdata, []) := by
    intro parts
    induction parts with
    | nil => rfl
    | cons part parts ih =>
        rw [List.map_cons, itemsFrom, itemsAt]
        dsimp only
        rw [ih]
        rfl
  have hwritten : ∀ other ∈ part :: parts, W.fragmentsAt escaper depth true (.cdata other) =
      [.cdata other] := fun other ho =>
    CData.fragments_eq_singleton (hclosing other ho).1 fun c _ => hb.canEncode c
  have hsections : (parts.map Item.cdata).flatMap (W.fragmentsAt escaper depth true) =
      parts.map .cdata := by
    rw [List.flatMap_map, List.map_eq_flatMap]
    exact List.flatMap_congr fun other ho => hwritten other (List.mem_cons_of_mem _ ho)
  refine ⟨.cdata part, parts.map .cdata, fun waiting => ?_, by simp, rfl, ?_, ?_⟩
  · rw [fragmentsAt, hparts, List.map_cons, itemsFrom, itemsAt]
    dsimp only
    rw [hread]
    simp
  · intro other ho
    obtain ⟨section', -, rfl⟩ := List.mem_map.1 ho
    exact ⟨rfl, by simp, rfl⟩
  · rw [hsections, hwritten part List.mem_cons_self, fragmentsAt, hparts]
    exact (AgreesIff.rfl _).congr (iff_of_true trivial trivial)

mutual

/-- An item whose adjacent texts are joined is written as before exactly if elements keep their
tags. -/
theorem exists_isRelaid (hb : W.IsBlockLayout) {m : Meaning} :
    ∀ (item : Item) (depth : Nat), item.IsSoundAt m → (∀ data, item ≠ .text data) →
      ∃ first more, W.IsRelaid escaper W.KeepsTag depth item.joinedAt first more
  | .element name attributes content, depth, hs, _ =>
      (exists_isRelaid_element hb depth name attributes (Item.gapped_joined hs.2.2.2) fun item hi hne =>
        exists_isRelaid_joined hb content (depth + 1) hs.2.2.2 item hi hne).imp fun _ h => ⟨[], h⟩
  | .text data, _, _, hne => absurd rfl (hne data)
  | .cdata data, depth, _, _ => exists_isRelaid_cdata hb depth data
  | .comment data, _, _, _ =>
      ⟨_, [], isRelaid_leaf ⟨by simp [Item.joinedAt], rfl⟩ trivial rfl fun _ => rfl⟩
  | .instruction target data, _, _, _ =>
      ⟨_, [], isRelaid_leaf ⟨by simp [Item.joinedAt], rfl⟩ trivial rfl fun _ => rfl⟩
  | .doctype _, _, hs, _ => hs.elim

/-- So are the items of joined content that are no texts. -/
theorem exists_isRelaid_joined (hb : W.IsBlockLayout) {m : Meaning} :
    ∀ (items : List Item) (depth : Nat), Item.IsSound m items →
      ∀ item ∈ Item.joined items, (∀ data, item ≠ .text data) →
        ∃ first more, W.IsRelaid escaper W.KeepsTag depth item first more
  | [], _, _, _, hi, _ => absurd hi List.not_mem_nil
  | first :: items, depth, hs, item, hi, hne => by
      have hrest := exists_isRelaid_joined hb items depth hs.2 item
      rw [Item.joined] at hi
      rcases Item.join_cases first.joinedAt (Item.joined items) with he | ⟨data, next, rest, -, hr, he⟩
      · rw [he, List.mem_cons] at hi
        rcases hi with rfl | hi
        · refine exists_isRelaid hb first depth hs.1 fun data hd => hne data ?_
          rw [hd, Item.joinedAt]
        · exact hrest hi hne
      · rw [he, List.mem_cons] at hi
        rcases hi with rfl | hi
        · exact absurd rfl (hne _)
        · exact hrest (hr ▸ List.mem_cons_of_mem _ hi) hne

end

end Writer

end XmlScribe
