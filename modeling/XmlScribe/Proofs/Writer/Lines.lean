/-
**Where lines end in content.**

Content is laid out part by part, and the layout remembers three things: whether a line has just
ended, whether the last element that a line ended after keeps its content from being indented, and
whether there was a block.  What comes of it can be said without them.  Texts that collapse to
nothing count for nothing.  Before any other item a line ends exactly if the item before it is a
block or a break, or if it is a block itself; at the end of the content a line ends if the last item
is a block or a break, or else if there is a block and the end tag is to stand on a line of its own.

Main definitions:

* `LineItem`, `Writer.lineItems` — what the content of an element has to be placed;
* `LineItem.places` — the items, each with those before it;
* `Writer.gap`, `Writer.lastGap`, `Writer.onLines` — what stands between the items;
* `LineState.after` — what the layout remembers after some items.

Main results:

* `LineItem.mem_places_iff` — every item has a place, after all items before it;
* `Walk.IsPlain.writes` — a walk that writes nothing but texts writes the same wherever it is run;
* `Writer.writes_putFormatted_onLines` — content is laid out as the rule says.
-/

import XmlScribe.Proofs.Namespace.Completeness
import XmlScribe.Proofs.Writer.Content
import XmlScribe.Proofs.Writer.Plain

set_option autoImplicit false

namespace XmlScribe

/-! ### Walks that are run alone -/

namespace Walk

open Writer

variable {α : Type} {F : Forest}

/-- The state in which nothing has been written. -/
def unwritten (F : Forest) : WalkState :=
  ⟨F, none, 0, []⟩

theorem isQuiet_unwritten (F : Forest) : (unwritten F).IsQuiet F :=
  ⟨rfl, rfl⟩

/-- The walk succeeds where nothing has been written before. -/
def SucceedsAlone (F : Forest) (walk : Walk Unit) : Prop :=
  (walk.run.run (unwritten F)).1 = .ok ()

/-- What the walk writes where nothing has been written before. -/
def textAlone (F : Forest) (walk : Walk Unit) : Text :=
  textOf (walk.run.run (unwritten F)).2.trace

theorem Writes.alone {walk : Walk Unit} {s : Text} (h : Writes F walk True () s) :
    SucceedsAlone F walk ∧ textAlone F walk = s := by
  obtain ⟨st, hrun, -, ht⟩ := h.succeeds trivial _ (isQuiet_unwritten F)
  refine ⟨?_, ?_⟩
  · rw [SucceedsAlone, hrun]
  · rw [textAlone, hrun, ht]
    rfl

/-- Only the way counts that a walk takes where nothing disturbs it. -/
theorem Writes.of_run {walk walk' : Walk α} {able : Prop} {a : α} {s : Text}
    (h : Writes F walk able a s)
    (hrun : ∀ st, st.IsQuiet F → walk'.run.run st = walk.run.run st) :
    Writes F walk' able a s :=
  ⟨fun hable st hst => hrun st hst ▸ h.succeeds hable st hst,
    fun hnot st hst => hrun st hst ▸ h.fails hnot st hst⟩

/-- Where nothing disturbs it, a walk always succeeds in the same way, or it always fails. -/
theorem IsPlain.writes_or_fails {walk : Walk α} (h : IsPlain walk) (F : Forest) :
    (∃ a s, Writes F walk True a s) ∨
      ∀ st, st.IsQuiet F → ∃ fault st', walk.run.run st = (.error fault, st') := by
  induction h with
  | pure a => exact Or.inl ⟨a, [], writes_pure a⟩
  | throw fault => exact Or.inr fun st _ => ⟨fault, st, rfl⟩
  | forest => exact Or.inl ⟨F, [], writes_forest⟩
  | ask profile key => exact Or.inl ⟨_, [], writes_ask profile key⟩
  | put s => exact Or.inl ⟨(), s, writes_put s⟩
  | bind _ _ ih ih' =>
      rcases ih with ⟨a, s, hwalk⟩ | hfails
      · rcases ih' a with ⟨b, t, hnext⟩ | hfails
        · exact Or.inl ⟨b, s ++ t, (hwalk.bind hnext).congr (iff_of_eq (true_and True)) rfl⟩
        · refine Or.inr fun st hst => ?_
          obtain ⟨st₁, hrun₁, hst₁, -⟩ := hwalk.succeeds trivial st hst
          obtain ⟨fault, st₂, hrun₂⟩ := hfails st₁ hst₁
          exact ⟨fault, st₂, by rw [Outcome.run_bind, hrun₁]; exact hrun₂⟩
      · refine Or.inr fun st hst => ?_
        obtain ⟨fault, st₁, hrun₁⟩ := hfails st hst
        exact ⟨fault, st₁, by rw [Outcome.run_bind, hrun₁]⟩

/-- The walk writes the same wherever it is run. -/
theorem IsPlain.writes {walk : Walk Unit} (h : IsPlain walk) (F : Forest) :
    Writes F walk (SucceedsAlone F walk) () (textAlone F walk) := by
  rcases h.writes_or_fails F with ⟨⟨⟩, s, hwalk⟩ | hfails
  · exact hwalk.congr (iff_of_true trivial hwalk.alone.1) hwalk.alone.2.symm
  · obtain ⟨fault, st, hrun⟩ := hfails _ (isQuiet_unwritten F)
    refine ⟨fun hok => ?_, fun _ => hfails⟩
    rw [SucceedsAlone, hrun] at hok
    cases hok

end Walk

/-! ### Items -/

/-- What the layout has to place: a text whose spaces have been collapsed, or another node, with
its traits if it is an element. -/
structure LineItem where
  /-- The text, or the node. -/
  part : Content
  /-- The traits. -/
  traits : Traits
deriving DecidableEq, Repr

namespace LineItem

/-- A line ends after the item. -/
def endsLine (item : LineItem) : Bool :=
  item.traits.block || item.traits.lineBreak

/-- The items, each with those before it, where `before` stands before all of them. -/
def placesFrom (before : List LineItem) : List LineItem → List (List LineItem × LineItem)
  | [] => []
  | item :: items => (before, item) :: placesFrom (before ++ [item]) items

/-- The items, each with those before it. -/
def places (items : List LineItem) : List (List LineItem × LineItem) :=
  placesFrom [] items

theorem mem_placesFrom_iff {before items : List LineItem} {place : List LineItem × LineItem} :
    place ∈ placesFrom before items ↔
      ∃ passed after, items = passed ++ place.2 :: after ∧ place.1 = before ++ passed := by
  induction items generalizing before with
  | nil => simp [placesFrom]
  | cons item items ih =>
      rw [placesFrom, List.mem_cons, ih]
      constructor
      · rintro (rfl | ⟨passed, after, rfl, hb⟩)
        · exact ⟨[], items, rfl, (List.append_nil before).symm⟩
        · exact ⟨item :: passed, after, rfl, by simpa using hb⟩
      · rintro ⟨passed, after, he, hb⟩
        cases passed with
        | nil =>
            obtain ⟨rfl, rfl⟩ := List.cons.inj he
            exact Or.inl (Prod.ext (by simpa using hb) rfl)
        | cons other passed =>
            obtain ⟨rfl, rfl⟩ := List.cons.inj he
            exact Or.inr ⟨passed, after, rfl, by simpa using hb⟩

/-- Every item has a place after those before it, and nothing else has one. -/
theorem mem_places_iff {items before : List LineItem} {item : LineItem} :
    (before, item) ∈ places items ↔ ∃ after, items = before ++ item :: after := by
  simp [places, mem_placesFrom_iff]

end LineItem

namespace Writer

open Walk

/-- The traits of a node; only an element has any. -/
def traitsIn (W : Writer) (F : Forest) (id : NodeId) : Traits :=
  match F.elementName? id with
  | some name => W.traits name
  | none => Traits.none

/-- What a part of the content is to the text beside it. -/
def neighbourIn (W : Writer) (F : Forest) : Option Content → Neighbour
  | none => .edge
  | some (.text _) => .other
  | some (.node id) =>
      if F.isElement id then .element (W.traitsIn F id).block (W.traitsIn F id).lineBreak
      else .other

/-- A text between two other parts of the content with its spaces collapsed. -/
def collapsedIn (W : Writer) (F : Forest) (parentIsBlock : Bool) (before after : Option Content)
    (data : Text) : Text :=
  Text.collapseRuns W.profile.isSpace ' '
    (Trim.between parentIsBlock (W.neighbourIn F before) (W.neighbourIn F after)) data

/-- What is to be placed of a part of the content between two others: nothing of a text that
collapses to nothing. -/
def itemOf? (W : Writer) (F : Forest) (parentIsBlock : Bool) (before after : Option Content) :
    Content → Option LineItem
  | .text data =>
      if (W.collapsedIn F parentIsBlock before after data).isEmpty then none
      else some ⟨.text (W.collapsedIn F parentIsBlock before after data), Traits.none⟩
  | .node id => some ⟨.node id, W.traitsIn F id⟩

/-- What is to be placed of some parts of the content, after the part `before`. -/
def lineItems (W : Writer) (F : Forest) (parentIsBlock : Bool) :
    (before : Option Content) → List Content → List LineItem
  | _, [] => []
  | before, part :: parts =>
      (W.itemOf? F parentIsBlock before parts.head? part).toList ++
        W.lineItems F parentIsBlock (some part) parts

/-- Writes an item at a depth, without what stands before it. -/
def putOwn (W : Writer) (escaper : Escaper) (putElement : ElementWriter) (depth : Nat) :
    Content → Walk Unit
  | .text data => W.putText escaper data
  | .node id => W.putNode escaper putElement id depth true

/-! ### The rule -/

/-- The depth of an item after others: that of the element itself, if the element is flush or if the
nearest item before that a line ended after is. -/
def insideDepth (depth : Nat) (traits : Traits) (before : List LineItem) : Nat :=
  if traits.flush || (before.reverse.find? LineItem.endsLine).any (·.traits.flush) then depth
  else depth + 1

/-- The end of a line, and the indentation of the next one. -/
def newLine (W : Writer) (depth : Nat) : Text :=
  W.settings.separator ++ (List.replicate depth W.settings.indent).flatten

/-- What stands before an item: a line ends if the item before it ends one, or if it is a block. -/
def gap (W : Writer) (depth : Nat) (traits : Traits) (before : List LineItem) (item : LineItem) :
    Text :=
  if before.getLast?.any LineItem.endsLine || item.traits.block then
    W.newLine (insideDepth depth traits before)
  else []

/-- What stands after all items: a line ends if the last item ends one, or else if there is a block
and the end tag is to stand on a line of its own. -/
def lastGap (W : Writer) (depth : Nat) (items : List LineItem) : Text :=
  if items.getLast?.any LineItem.endsLine ||
      (items.any (·.traits.block) && W.settings.endTagOnLine) then
    W.newLine depth
  else []

/-- An item at its depth after what stands before it. -/
def placed (W : Writer) (own : (depth : Nat) → Content → Text) (depth : Nat) (traits : Traits)
    (place : List LineItem × LineItem) : Text :=
  W.gap depth traits place.1 place.2 ++ own (insideDepth depth traits place.1) place.2.part

/-- Items on lines: each at its depth after what stands before it, and what stands after all. -/
def onLines (W : Writer) (own : (depth : Nat) → Content → Text) (depth : Nat) (traits : Traits)
    (items : List LineItem) : Text :=
  (LineItem.places items).flatMap (W.placed own depth traits) ++ W.lastGap depth items

end Writer

/-! ### What the layout remembers -/

namespace LineState

/-- What the layout remembers after some items. -/
def after (items : List LineItem) : LineState where
  atLineStart := items.getLast?.any LineItem.endsLine
  afterFlush := (items.reverse.find? LineItem.endsLine).any (·.traits.flush)
  hadBlock := items.any (·.traits.block)

/-- What is remembered after one item more. -/
theorem after_append (items : List LineItem) (item : LineItem) :
    after (items ++ [item]) =
      if item.endsLine then (after items).afterLine item.traits else (after items).inLine := by
  cases h : item.endsLine with
  | true => simp [after, afterLine, h]
  | false =>
      have hblock : item.traits.block = false := by
        rw [LineItem.endsLine, Bool.or_eq_false_iff] at h
        exact h.1
      simp [after, inLine, h, hblock]

end LineState

namespace Writer

open Walk

variable {W : Writer} {escaper : Escaper} {F : Forest}

/-! ### Questions about the content -/

theorem exists_elementName? {id : NodeId} (h : F.isElement id = true) :
    ∃ name, F.elementName? id = some name := by
  obtain ⟨name, cells, hp⟩ := Forest.exists_payload_of_isElement h
  exact ⟨name, by rw [Forest.elementName?, hp]⟩

theorem writes_traitsOf_traitsIn (id : NodeId) :
    Writes F (W.traitsOf id) True (W.traitsIn F id) [] := by
  rw [traitsIn]
  cases h : F.elementName? id with
  | some name => exact writes_traitsOf h
  | none =>
      refine Writes.bind_silent writes_forest ?_
      simp only [h]
      exact writes_pure _

theorem writes_neighbour_neighbourIn (part : Option Content) :
    Writes F (W.neighbour part) True (W.neighbourIn F part) [] := by
  rcases part with _ | data | id
  · exact writes_pure _
  · exact writes_pure _
  · refine Writes.bind_silent writes_forest ?_
    rw [neighbourIn]
    split
    · exact Writes.bind_silent (writes_traitsOf_traitsIn id) (writes_pure _)
    · exact writes_pure _

/-! ### One item -/

/-- The end of a line that the layout has written already. -/
def pending (W : Writer) (st : LineState) : Text :=
  if st.atLineStart then W.settings.separator else []

theorem text_indentation (depth : Nat) :
    Fragment.text [W.indentation depth] = (List.replicate depth W.settings.indent).flatten :=
  text_blanks _

theorem text_lineEnd : Fragment.text [W.lineEnd] = W.settings.separator :=
  text_blanks _

/-- At the start of a line, the indentation makes a whole of the end of the line before. -/
theorem pending_append_indentAtStart (st : LineState) (depth : Nat) :
    W.pending st ++ Fragment.text (W.indentAtStart st depth) =
      if st.atLineStart then W.newLine depth else [] := by
  rw [pending, indentAtStart, newLine]
  cases st.atLineStart with
  | true => simp [text_indentation]
  | false => rfl

theorem pending_afterLine (st : LineState) (traits : Traits) :
    W.pending (st.afterLine traits) = W.settings.separator :=
  rfl

theorem pending_inLine (st : LineState) : W.pending st.inLine = [] :=
  rfl

/-- What an element with the text `s` writes on lines. -/
theorem pending_append_placeElement (traits : Traits) (depth : Nat) (s : Text) (st : LineState) :
    W.pending st ++ Fragment.text (W.placeElement traits depth [blanks s] st).1 =
      (if st.atLineStart || traits.block then W.newLine depth else []) ++ s ++
        W.pending (W.placeElement traits depth [blanks s] st).2 := by
  rw [placeElement]
  split
  · rename_i hblock
    have htext : Fragment.text (W.indentation depth :: [blanks s]) =
        (List.replicate depth W.settings.indent).flatten ++ s := by
      rw [← List.singleton_append, Fragment.text_append, text_indentation, text_blanks]
    rw [Fragment.text_append, Fragment.text_append, htext, text_lineEnd, hblock, Bool.or_true,
      if_pos rfl, pending_afterLine, newLine, pending]
    cases st.atLineStart with
    | true => simp [Fragment.text, Fragment.events]
    | false => simp [text_lineEnd]
  · rename_i hblock
    have hindent := @pending_append_indentAtStart W st depth
    rw [Bool.eq_false_iff.2 hblock, Bool.or_false]
    split
    · rw [Fragment.text_append, Fragment.text_append, text_blanks, text_lineEnd, pending_afterLine,
        ← hindent]
      simp only [List.append_assoc]
    · rw [Fragment.text_append, text_blanks, pending_inLine, ← hindent, List.append_nil,
        List.append_assoc]

/-- What is remembered after an element. -/
theorem placeElement_snd (traits : Traits) (depth : Nat) (own : List Fragment) (st : LineState) :
    (W.placeElement traits depth own st).2 =
      if traits.block || traits.lineBreak then st.afterLine traits else st.inLine := by
  rw [placeElement]
  cases traits.block <;> cases traits.lineBreak <;> rfl

theorem traitsIn_of_not_isElement {id : NodeId} (h : ¬ F.isElement id = true) :
    W.traitsIn F id = Traits.none := by
  rw [traitsIn]
  cases hname : F.elementName? id with
  | none => rfl
  | some name => exact absurd (isElement_of_elementName? hname) h

/-- The walk writes an item after others, with what stands before it; at the end of a line it has
written the end of the line already. -/
def LaysOut (W : Writer) (F : Forest) (walk : Walk LineState) (own : Walk Unit) (depth : Nat)
    (done : List LineItem) (item : LineItem) : Prop :=
  ∃ s, Writes F walk (SucceedsAlone F own) (.after (done ++ [item])) s ∧
    W.pending (.after done) ++ s =
      (if done.getLast?.any LineItem.endsLine || item.traits.block then W.newLine depth else []) ++
        textAlone F own ++ W.pending (.after (done ++ [item]))

theorem LaysOut.bind_silent {α : Type} {first : Walk α} {a : α} {next : α → Walk LineState}
    {own : Walk Unit} {depth : Nat} {done : List LineItem} {item : LineItem}
    (hfirst : Writes F first True a []) (h : W.LaysOut F (next a) own depth done item) :
    W.LaysOut F (first >>= next) own depth done item := by
  obtain ⟨s, hs, htext⟩ := h
  exact ⟨s, Writes.bind_silent hfirst hs, htext⟩

/-- An item that is no element stands in a line. -/
theorem laysOut_inLine {own : Walk Unit} (hown : IsPlain own) (depth : Nat) (done : List LineItem)
    (part : Content) :
    W.LaysOut F (do
        W.putIndentAtStart (.after done) depth
        own
        return (LineState.after done).inLine) own depth done ⟨part, Traits.none⟩ := by
  have hafter : LineState.after (done ++ [⟨part, Traits.none⟩]) = (LineState.after done).inLine :=
    LineState.after_append done _
  rw [LaysOut, hafter]
  refine ⟨_, ((writes_putIndentAtStart _ depth).bind ((hown.writes F).then_pure _)).congr
    (iff_of_eq (true_and _)) rfl, ?_⟩
  rw [← List.append_assoc, pending_append_indentAtStart, pending_inLine, List.append_nil,
    show (Traits.none).block = false from rfl, Bool.or_false]
  rfl

/-- A text that does not collapse to nothing. -/
theorem laysOut_text {parentIsBlock : Bool} {before next : Option Content} {data : Text}
    (hne : ¬ (W.collapsedIn F parentIsBlock before next data).isEmpty = true)
    (depth : Nat) (done : List LineItem) :
    W.LaysOut F (W.putFormattedText escaper parentIsBlock depth before next data (.after done))
      (W.putText escaper (W.collapsedIn F parentIsBlock before next data)) depth done
      ⟨.text (W.collapsedIn F parentIsBlock before next data), Traits.none⟩ := by
  refine .bind_silent (writes_neighbourBefore (writes_neighbour_neighbourIn before))
    (.bind_silent (writes_neighbour_neighbourIn next) ?_)
  change W.LaysOut F (if (W.collapsedIn F parentIsBlock before next data).isEmpty then _ else _)
    _ _ _ _
  rw [if_neg hne]
  exact laysOut_inLine (.put _) depth done _

/-- A text that collapses to nothing is left out. -/
theorem writes_putFormattedText_of_isEmpty {parentIsBlock : Bool} {before next : Option Content}
    {data : Text} (he : (W.collapsedIn F parentIsBlock before next data).isEmpty = true)
    (depth : Nat) (st : LineState) :
    Writes F (W.putFormattedText escaper parentIsBlock depth before next data st) True st [] := by
  refine Writes.bind_silent (writes_neighbourBefore (writes_neighbour_neighbourIn before))
    (Writes.bind_silent (writes_neighbour_neighbourIn next) ?_)
  change Writes F (if (W.collapsedIn F parentIsBlock before next data).isEmpty then _ else _) _ _ _
  rw [if_pos he]
  exact writes_pure st

section Step

variable {putElement : ElementWriter}
  (h : ∀ id depth formatting, IsPlain (putElement id depth formatting))
include h

theorem isPlain_putOwn (depth : Nat) (part : Content) :
    IsPlain (W.putOwn escaper putElement depth part) := by
  cases part with
  | text data => exact .put _
  | node id => exact isPlain_putNode h id depth true

/-- The writer of elements is at work where an element is to be written. -/
theorem writes_element {id : NodeId} (he : F.isElement id = true) (depth : Nat) :
    Writes F (putElement id depth true)
      (SucceedsAlone F (W.putOwn escaper putElement depth (.node id))) ()
      (textAlone F (W.putOwn escaper putElement depth (.node id))) := by
  obtain ⟨name, cells, hp⟩ := Forest.exists_payload_of_isElement he
  refine ((isPlain_putOwn h depth (.node id)).writes F).of_run fun st hst => ?_
  rw [putOwn, putNode, Outcome.run_bind, run_forest]
  dsimp only
  rw [hst.forest, hp]

/-- An element. -/
theorem laysOut_element {id : NodeId} (he : F.isElement id = true) (depth : Nat)
    (done : List LineItem) :
    W.LaysOut F (W.putFormattedElement putElement depth id (.after done))
      (W.putOwn escaper putElement depth (.node id)) depth done
      ⟨.node id, W.traitsIn F id⟩ := by
  obtain ⟨name, hname⟩ := exists_elementName? he
  have htraits : W.traitsIn F id = W.traits name := by rw [traitsIn, hname]
  have hown : Writes F (putElement id depth true)
      (SucceedsAlone F (W.putOwn escaper putElement depth (.node id))) ()
      (Fragment.text [blanks (textAlone F (W.putOwn escaper putElement depth (.node id)))]) :=
    (writes_element h he depth).congr Iff.rfl (text_blanks _).symm
  have hwrites : Writes F (W.putFormattedElement putElement depth id (.after done)) _ _ _ :=
    writes_putFormattedElement hname hown (.after done)
  have hafter : ∀ own, LineState.after (done ++ [⟨.node id, W.traits name⟩]) =
      (W.placeElement (W.traits name) depth own (.after done)).2 := fun own => by
    rw [LineState.after_append, placeElement_snd]
    rfl
  rw [LaysOut, htraits, hafter]
  exact ⟨_, hwrites, pending_append_placeElement _ depth _ _⟩

/-- A part of the content is left out or laid out as an item. -/
theorem laysOut_part (parentIsBlock : Bool) (before next : Option Content) (part : Content)
    (depth : Nat) (done : List LineItem) :
    (W.itemOf? F parentIsBlock before next part = none ∧
        Writes F (W.putFormattedPart escaper putElement parentIsBlock depth before next part
          (.after done)) True (.after done) []) ∨
      ∃ item, W.itemOf? F parentIsBlock before next part = some item ∧
        W.LaysOut F (W.putFormattedPart escaper putElement parentIsBlock depth before next part
          (.after done)) (W.putOwn escaper putElement depth item.part) depth done item := by
  cases part with
  | text data =>
      by_cases he : (W.collapsedIn F parentIsBlock before next data).isEmpty = true
      · exact Or.inl ⟨if_pos he, writes_putFormattedText_of_isEmpty he depth _⟩
      · exact Or.inr ⟨_, if_neg he, laysOut_text he depth done⟩
  | node id =>
      refine Or.inr ⟨_, rfl, .bind_silent writes_forest ?_⟩
      by_cases he : F.isElement id = true
      · rw [if_pos he]
        exact laysOut_element h he depth done
      · rw [if_neg he, traitsIn_of_not_isElement he]
        exact laysOut_inLine (isPlain_putNode h id depth true) depth done _

/-! ### All items -/

/-- The content after some items: each further item is written after what stands before it.  The
induction is on the parts of the content; what the layout remembers is what the items before make
it remember. -/
theorem writes_putFormattedParts_placed (parent : NodeId) (depth : Nat) (traits : Traits)
    (before : Option Content) (parts : List Content) (done : List LineItem) :
    ∃ s, Writes F (W.putFormattedParts escaper putElement parent (F.children parent).length depth
          traits before (.after done) parts)
        (∀ place ∈ LineItem.placesFrom done (W.lineItems F traits.block before parts),
          SucceedsAlone F (W.putOwn escaper putElement (insideDepth depth traits place.1)
            place.2.part))
        (.after (done ++ W.lineItems F traits.block before parts)) s ∧
      W.pending (.after done) ++ s =
        (LineItem.placesFrom done (W.lineItems F traits.block before parts)).flatMap
            (W.placed (fun depth part => textAlone F (W.putOwn escaper putElement depth part)) depth
              traits) ++
          W.pending (.after (done ++ W.lineItems F traits.block before parts)) := by
  induction parts generalizing before done with
  | nil =>
      refine ⟨[], ?_, by simp [lineItems, LineItem.placesFrom]⟩
      rw [lineItems, List.append_nil]
      have hcheck : Writes F (W.putFormattedParts escaper putElement parent
          (F.children parent).length depth traits before (.after done) []) True (.after done) [] :=
        Writes.bind_silent (writes_checkChildren parent) (writes_pure _)
      exact hcheck.congr (iff_of_true trivial fun _ hplace => absurd hplace List.not_mem_nil) rfl
  | cons part parts ih =>
      -- the depth that the layout chooses is `insideDepth`, as it remembers `after done`
      rcases laysOut_part h traits.block before parts.head? part (insideDepth depth traits done)
        done with ⟨hnone, hpart⟩ | ⟨item, hsome, s, hpart, hs⟩
      · obtain ⟨t, hrest, ht⟩ := ih (some part) done
        rw [lineItems, hnone, Option.toList_none, List.nil_append]
        exact ⟨t, Writes.bind_silent (writes_checkChildren parent) (Writes.bind_silent hpart hrest),
          ht⟩
      · obtain ⟨t, hrest, ht⟩ := ih (some part) (done ++ [item])
        rw [lineItems, hsome, Option.toList_some, List.singleton_append, LineItem.placesFrom]
        rw [List.append_assoc, List.singleton_append] at hrest ht
        refine ⟨s ++ t, (Writes.bind_silent (writes_checkChildren parent)
          (hpart.bind hrest)).congr List.forall_mem_cons.symm rfl, ?_⟩
        rw [← List.append_assoc, hs, List.append_assoc, ht, List.flatMap_cons, placed, gap]
        simp only [List.append_assoc]

end Step

/-- The end of the content makes a whole of what is after the last item. -/
theorem writes_lastLine (depth : Nat) (items : List LineItem) :
    ∃ s, Writes F
        (if (LineState.after items).atLineStart then W.putIndent depth
          else if (LineState.after items).hadBlock && W.settings.endTagOnLine then do
            W.putNewline
            W.putIndent depth
          else pure ()) True () s ∧
      W.pending (.after items) ++ s = W.lastGap depth items := by
  rw [lastGap, newLine, pending]
  have hstart : (LineState.after items).atLineStart = items.getLast?.any LineItem.endsLine := rfl
  have hblock : (LineState.after items).hadBlock = items.any (·.traits.block) := rfl
  rw [hstart, hblock]
  cases items.getLast?.any LineItem.endsLine with
  | true => exact ⟨_, writes_putIndent depth, by simp [text_indentation]⟩
  | false =>
      cases items.any (·.traits.block) && W.settings.endTagOnLine with
      | true =>
          exact ⟨_, (writes_putNewline.bind (writes_putIndent depth)).congr
            (iff_of_eq (true_and True)) rfl, by simp [text_indentation, text_lineEnd]⟩
      | false => exact ⟨_, writes_pure (), rfl⟩

/-- **Content on lines.**  The content of an element, whatever its traits and its depth are, is
written as its items one after the other, each as it is written alone at its depth; before and after
them stands what the rule says, and nothing else.  Writing fails exactly if it fails for an item. -/
theorem writes_putFormatted_onLines (W : Writer) (escaper : Escaper) (F : Forest) (fuel : Nat)
    (parent : NodeId) (depth : Nat) (traits : Traits) :
    Writes F (W.putFormatted escaper (W.putElementFrom escaper fuel) parent depth traits)
      (∀ place ∈ LineItem.places (W.lineItems F traits.block none (F.content parent)),
        SucceedsAlone F (W.putOwn escaper (W.putElementFrom escaper fuel)
          (insideDepth depth traits place.1) place.2.part)) ()
      (W.onLines (fun depth part =>
          textAlone F (W.putOwn escaper (W.putElementFrom escaper fuel) depth part)) depth traits
        (W.lineItems F traits.block none (F.content parent))) := by
  have hplain : ∀ id depth formatting,
      IsPlain (W.putElementFrom escaper fuel id depth formatting) := isPlain_putElementFrom fuel
  obtain ⟨s, hparts, hs⟩ := writes_putFormattedParts_placed hplain parent depth traits none
    (F.content parent) []
  obtain ⟨t, hend, ht⟩ := writes_lastLine depth (W.lineItems F traits.block none (F.content parent))
  refine (Writes.bind_silent writes_forest (hparts.bind hend)).congr (and_iff_left trivial) ?_
  rw [onLines, ← ht, ← List.append_assoc]
  exact congrArg (· ++ t) hs

end Writer

end XmlScribe
